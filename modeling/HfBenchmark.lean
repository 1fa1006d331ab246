import HfBenchmark.Python.Value
import HfBenchmark.Python.Text
import HfBenchmark.Python.Unicode
import HfBenchmark.Python.Sha256
import HfBenchmark.Chunker
import HfBenchmark.ChunkId
import HfBenchmark.Dataset
import HfBenchmark.Topic
import HfBenchmark.ProcessDataset
import HfBenchmark.Checkpoint
import HfBenchmark.Pipeline
import HfBenchmark.Resume
import HfBenchmark.IngestLoop
import HfBenchmark.Codec
import HfBenchmark.Quota
import HfBenchmark.Contribution
import HfBenchmark.Records
import HfBenchmark.ChunkIdentity
import HfBenchmark.Metadata
import HfBenchmark.Crash
import HfBenchmark.SourceAccounting
import HfBenchmark.Kepler
import HfBenchmark.TopicRanking
import HfBenchmark.ChunkShape
import HfBenchmark.Lifecycle
import HfBenchmark.Main
import HfBenchmark.CrashResume
