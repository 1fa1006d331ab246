import HfBenchmark.ProcessDataset

namespace HfBenchmark

/-- The pairs `json.dumps` writes for a `dict` whose keys need not be `str`: each key becomes
its JSON text, so two keys can come out the same. -/
def jsonObject (tc : TopicCounts) : TopicCounts :=
  tc.map fun (k, n) => (.str k.jsonKey, n)

/-- `d[k] = v` on a `dict` with `str` keys kept as pairs. -/
def setKey (d : TopicCounts) (k : PyValue) (v : Nat) : TopicCounts :=
  if d.any (·.1 == k) then d.map fun e => if e.1 == k then (e.1, v) else e else d ++ [(k, v)]

/-- `json.loads` of an object: each pair in order is set, so a later duplicate key keeps the
first position and the last value. -/
def loadObject (pairs : TopicCounts) : TopicCounts :=
  pairs.foldl (fun d e => setKey d e.1 e.2) []

/-- The object `save_checkpoint` writes to `checkpoint_meta.json`, after `json.dumps`. -/
structure CheckpointMeta where
  processedDatasets : List String := []
  topicCounts : TopicCounts := []
  deriving DecidableEq

/-- `stats`, the dictionary `prepare_huggingface_benchmark` fills and returns. -/
structure RunStats where
  totalDocuments : Nat
  totalChunks : Nat
  totalWords : Int
  chunkSize : Int
  overlap : Int
  sourceDatasets : List String
  datasetStats : List (String × DatasetStats)
  topicCounts : TopicCounts
  topTopics : List PyValue

/-- `stats` as `json.dump` writes it to `metadata.json`: its topic keys become JSON text. -/
def RunStats.dump (s : RunStats) : RunStats :=
  { s with topicCounts := jsonObject s.topicCounts }

/-- The output directory: whole lines of the two `.jsonl` files, a cut last line of `checkpoint.jsonl`,
and the two `.json` objects, `some none` for a `checkpoint_meta.json` that does not parse. -/
structure FileSys where
  checkpoint : Option (List Dict) := none
  checkpointCut : Bool := false
  checkpointMeta : Option (Option CheckpointMeta) := none
  chunks : Option (List Dict) := none
  metadata : Option RunStats := none

/-- One durable write of the script: opening a file for writing truncates it, and a line or a
`json.dump` can be cut short before it is whole. -/
inductive FsStep where
  | truncateCheckpoint
  | cutCheckpoint
  | appendCheckpoint (r : Dict)
  | truncateCheckpointMeta
  | writeCheckpointMeta (m : CheckpointMeta)
  | truncateChunks
  | appendChunks (r : Dict)
  | writeMetadata (s : RunStats)
  | unlinkCheckpoint
  | unlinkCheckpointMeta

def FsStep.apply : FsStep → FileSys → FileSys
  | truncateCheckpoint, fs => { fs with checkpoint := some [], checkpointCut := false }
  | cutCheckpoint, fs => { fs with checkpointCut := true }
  | appendCheckpoint r, fs =>
    { fs with checkpoint := some (fs.checkpoint.getD [] ++ [r]), checkpointCut := false }
  | truncateCheckpointMeta, fs => { fs with checkpointMeta := some none }
  | writeCheckpointMeta m, fs => { fs with checkpointMeta := some (some m) }
  | truncateChunks, fs => { fs with chunks := some [] }
  | appendChunks r, fs => { fs with chunks := some (fs.chunks.getD [] ++ [r]) }
  | writeMetadata s, fs => { fs with metadata := some s }
  | unlinkCheckpoint, fs => { fs with checkpoint := none, checkpointCut := false }
  | unlinkCheckpointMeta, fs => { fs with checkpointMeta := none }

def FsStep.applyAll (steps : List FsStep) (fs : FileSys) : FileSys :=
  steps.foldl (fun fs st => st.apply fs) fs

/-- A file operation of the script: a checkpoint save, a final write, or an unlink, which `exists()`
guards. -/
inductive Event where
  | saveCheckpoint (chunks : List Dict) (meta : CheckpointMeta)
  | writeChunks (chunks : List Dict)
  | writeMetadata (stats : RunStats)
  | unlinkCheckpoint
  | unlinkCheckpointMeta

def Event.steps : Event → List FsStep
  | saveCheckpoint cs m =>
    .truncateCheckpoint :: cs.flatMap (fun r => [.cutCheckpoint, .appendCheckpoint r]) ++
      [.truncateCheckpointMeta, .writeCheckpointMeta m]
  | writeChunks cs => .truncateChunks :: cs.map .appendChunks
  | writeMetadata s => [.writeMetadata s]
  | unlinkCheckpoint => [.unlinkCheckpoint]
  | unlinkCheckpointMeta => [.unlinkCheckpointMeta]

def Event.apply (e : Event) (fs : FileSys) : FileSys :=
  FsStep.applyAll e.steps fs

/-- The chunk lines an operation writes, to `checkpoint.jsonl` or `chunks.jsonl`. -/
def Event.chunkLines : Event → Option (List Dict)
  | saveCheckpoint cs _ | writeChunks cs => some cs
  | _ => none

def Event.isSave : Event → Bool
  | saveCheckpoint _ _ => true
  | _ => false

/-- `save_checkpoint(output_dir, chunks, {"processed_datasets": ..., "topic_counts": ...})`. -/
def saveCheckpoint (chunks : List Dict) (processed : List String) (topicCounts : TopicCounts) :
    Event :=
  .saveCheckpoint chunks { processedDatasets := processed, topicCounts := jsonObject topicCounts }

/-- What `load_checkpoint(output_dir)` returns when it does not raise; the empty state unless both
files exist. -/
def loadCheckpoint (fs : FileSys) : List Dict × CheckpointMeta × List String :=
  match fs.checkpoint, fs.checkpointMeta with
  | some lines, some (some m) =>
    (lines, { m with topicCounts := loadObject m.topicCounts }, m.processedDatasets)
  | _, _ => ([], {}, [])

/-- The exception `load_checkpoint` raises instead: `JSONDecodeError` when both files exist and
the last line of `checkpoint.jsonl` or `checkpoint_meta.json` does not parse. -/
def loadCheckpointFault (fs : FileSys) : Option Fault :=
  match fs.checkpoint, fs.checkpointMeta with
  | some _, some m => if fs.checkpointCut || m.isNone then some (.raise "JSONDecodeError") else none
  | _, _ => none

section Frame

variable (fs : FileSys)

@[simp] theorem FsStep.applyAll_nil : FsStep.applyAll [] fs = fs := rfl

@[simp] theorem FsStep.applyAll_cons (st : FsStep) (steps : List FsStep) :
    FsStep.applyAll (st :: steps) fs = FsStep.applyAll steps (st.apply fs) := rfl

@[simp] theorem FsStep.applyAll_append (a b : List FsStep) :
    FsStep.applyAll (a ++ b) fs = FsStep.applyAll b (FsStep.applyAll a fs) :=
  List.foldl_append _ _ _ _

private theorem applyAll_appendCheckpoint (rs : List Dict) (l : List Dict) :
    FsStep.applyAll (rs.flatMap fun r => [.cutCheckpoint, .appendCheckpoint r])
        { fs with checkpoint := some l, checkpointCut := false } =
      { fs with checkpoint := some (l ++ rs), checkpointCut := false } := by
  induction rs generalizing l with
  | nil => simp
  | cons r rs ih => simpa [FsStep.apply] using ih (l ++ [r])

private theorem applyAll_appendChunks (rs : List Dict) (l : List Dict) :
    FsStep.applyAll (rs.map .appendChunks) { fs with chunks := some l } =
      { fs with chunks := some (l ++ rs) } := by
  induction rs generalizing l with
  | nil => simp
  | cons r rs ih => simpa [FsStep.apply] using ih (l ++ [r])

@[simp] theorem Event.apply_saveCheckpoint (cs : List Dict) (m : CheckpointMeta) :
    (Event.saveCheckpoint cs m).apply fs =
      { fs with checkpoint := some cs, checkpointCut := false, checkpointMeta := some (some m) } := by
  simp only [Event.apply, Event.steps, FsStep.applyAll_cons, FsStep.applyAll_append]
  rw [show FsStep.truncateCheckpoint.apply fs =
      { fs with checkpoint := some [], checkpointCut := false } from rfl,
    applyAll_appendCheckpoint]
  rfl

@[simp] theorem Event.apply_writeChunks (cs : List Dict) :
    (Event.writeChunks cs).apply fs = { fs with chunks := some cs } := by
  simp only [Event.apply, Event.steps, FsStep.applyAll_cons]
  rw [show FsStep.truncateChunks.apply fs = { fs with chunks := some [] } from rfl,
    applyAll_appendChunks]
  rfl

@[simp] theorem Event.apply_writeMetadata (s : RunStats) :
    (Event.writeMetadata s).apply fs = { fs with metadata := some s } := rfl

@[simp] theorem Event.apply_unlinkCheckpoint :
    Event.unlinkCheckpoint.apply fs = { fs with checkpoint := none, checkpointCut := false } := rfl

@[simp] theorem Event.apply_unlinkCheckpointMeta :
    Event.unlinkCheckpointMeta.apply fs = { fs with checkpointMeta := none } := rfl

theorem Event.loadCheckpointFault_apply (e : Event) (h : loadCheckpointFault fs = none) :
    loadCheckpointFault (e.apply fs) = none := by
  cases e with
  | writeChunks | writeMetadata => simpa [loadCheckpointFault] using h
  | _ => simp [loadCheckpointFault]

theorem loadCheckpointFault_foldl (es : List Event) (h : loadCheckpointFault fs = none) :
    loadCheckpointFault (es.foldl (fun fs e => e.apply fs) fs) = none := by
  induction es generalizing fs with
  | nil => exact h
  | cons e es ih => exact ih _ (Event.loadCheckpointFault_apply _ e h)

end Frame

end HfBenchmark
