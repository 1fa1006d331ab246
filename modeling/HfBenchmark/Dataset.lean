import HfBenchmark.Python.Value

namespace HfBenchmark

/-- How a run of the script ends early: a Python exception, named by its class, `sys.exit`, or
a loop that never stops (a model with `fuel` runs out of it). -/
inductive Fault where
  | raise (exc : String)
  | exit (code : Int)
  | outOfFuel
  deriving DecidableEq, Repr

/-- `DatasetConfig`. -/
structure DatasetConfig where
  name : String
  hfPath : String
  hfSubset : Option String := none
  split : String := "train"
  textField : String := "text"
  titleField : Option String := none
  topicField : Option String := none
  maxDocs : Int := 5000
  minWords : Int := 50
  trustRemoteCode : Bool := false
  deriving DecidableEq, Repr

/-- `DATASET_CONFIGS`, the module-level source descriptors. -/
def datasetConfigs : List DatasetConfig :=
  [{ name := "arxiv", hfPath := "ccdv/arxiv-classification", textField := "text",
     titleField := some "title", topicField := some "label", maxDocs := 5000, minWords := 50 },
   { name := "code", hfPath := "code_search_net", hfSubset := some "python",
     textField := "func_documentation_string", titleField := some "func_name",
     topicField := some "language", maxDocs := 5000, minWords := 20, trustRemoteCode := true },
   { name := "stackoverflow", hfPath := "pacovaldez/stackoverflow-questions",
     textField := "body", titleField := some "title", topicField := some "tags",
     maxDocs := 5000, minWords := 30 },
   { name := "wikipedia", hfPath := "wikimedia/wikipedia", hfSubset := some "20231101.en",
     textField := "text", titleField := some "title", topicField := none, maxDocs := 5000,
     minWords := 100, trustRemoteCode := true }]

/-- The arguments `process_dataset` passes to `load_dataset`. -/
structure LoadKwargs where
  path : String
  split : String
  streaming : Bool
  trustRemoteCode : Bool
  name : Option String
  deriving DecidableEq, Repr

/-- `load_kwargs`: `name` is passed only when `hf_subset` is truthy. -/
def DatasetConfig.loadKwargs (c : DatasetConfig) : LoadKwargs :=
  { path := c.hfPath, split := c.split, streaming := true, trustRemoteCode := c.trustRemoteCode,
    name := c.hfSubset.filter (· ≠ "") }

inductive DocStream where
  | stop
  | raise (exc : String)
  | yield (doc : Dict) (rest : DocStream)

/-- A stream of `k` copies of one row. -/
def DocStream.replicate (doc : Dict) : Nat → DocStream
  | 0 => stop
  | k + 1 => yield doc (DocStream.replicate doc k)

/-- A stream that yields `docs` and then raises `exc`. -/
def DocStream.raiseAfter (exc : String) : List Dict → DocStream
  | [] => raise exc
  | doc :: docs => yield doc (DocStream.raiseAfter exc docs)

def DocStream.docs : DocStream → List Dict
  | stop | raise _ => []
  | yield doc rest => doc :: rest.docs

/-- The remote corpora: `load_dataset(**load_kwargs)` opens a stream or raises the named
exception. -/
structure World where
  loadDataset : LoadKwargs → Except String DocStream

theorem datasetConfigs_names :
    (datasetConfigs.map DatasetConfig.name).Nodup ∧
    ∀ c ∈ datasetConfigs, ':' ∉ c.name.data ∧ '_' ∉ c.name.data := by
  decide

end HfBenchmark
