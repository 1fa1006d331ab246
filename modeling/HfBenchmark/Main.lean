import HfBenchmark.SourceAccounting

namespace HfBenchmark

/-- An end by `sys.exit`, as opposed to an exception or a loop that never stops. -/
def Fault.isExit : Fault → Bool
  | .exit _ => true
  | _ => false

section Faults

variable {fuel : Nat} {chunkSize overlap : Int} {config : DatasetConfig}

theorem extractTopic_fault {doc : Dict} {f : Fault} (h : extractTopic config doc = .error f) :
    f.isExit = false := by
  unfold extractTopic at h
  repeat' split at h
  all_goals cases h
  all_goals rfl

theorem docOutcome_fault {i : Nat} {doc : Dict} {f : Fault}
    (h : docOutcome fuel chunkSize overlap config i doc = .error f) : f.isExit = false := by
  unfold docOutcome at h
  split at h
  · rename_i raw _
    by_cases he : raw.isEmpty = true
    · rw [if_pos he] at h
      cases h
    by_cases hm : ((Py.split (Py.strip raw)).length : Int) < config.minWords
    · rw [if_neg he, if_pos hm] at h
      cases h
    rw [if_neg he, if_neg hm] at h
    cases hx : extractTopic config doc with
    | error f' =>
      simp only [hx, bind, Except.bind, Except.error.injEq] at h
      exact h ▸ extractTopic_fault hx
    | ok x =>
      cases hb : x.hashable
      · simp only [hx, hb, bind, Except.bind, Bool.not_false, if_true, throw, throwThe,
          MonadExceptOf.throw, Except.error.injEq] at h
        exact h ▸ rfl
      · cases hc : chunkText fuel (Py.strip raw) chunkSize overlap <;>
          simp [hx, hb, hc, bind, Except.bind, pure, Except.pure, Option.elim] at h
        exact h ▸ rfl
  · cases h

theorem docOutcomes_fault : ∀ {i : Nat} {st : DocStream} {f : Fault},
    docOutcomes fuel chunkSize overlap config i st = .error f → f.isExit = false
  | _, .stop, _, h => by cases h
  | _, .raise _, _, h => by cases h; rfl
  | i, .yield doc rest, f, h => by
    simp only [docOutcomes] at h
    split at h
    · cases h
    · cases ho : docOutcome fuel chunkSize overlap config i doc with
      | error f' =>
        simp only [ho, bind, Except.bind, Except.error.injEq] at h
        exact h ▸ docOutcome_fault ho
      | ok o =>
        cases hos : docOutcomes fuel chunkSize overlap config (i + 1) rest with
        | error f' =>
          simp only [ho, hos, bind, Except.bind, Except.error.injEq] at h
          exact h ▸ docOutcomes_fault hos
        | ok os => simp [ho, hos, bind, Except.bind, pure, Except.pure] at h

theorem sourceOutcomes_fault {w : World} {f : Fault}
    (h : sourceOutcomes w fuel chunkSize overlap config = .error f) : f.isExit = false := by
  unfold sourceOutcomes at h
  split at h
  · cases h
  · exact docOutcomes_fault h

theorem processDataset_fault {w : World} {outputChunks : List Dict} {topicCounts : TopicCounts}
    {f : Fault}
    (h : processDataset w fuel chunkSize overlap config outputChunks topicCounts = .error f) :
    f.isExit = false := by
  rw [processDataset_eq] at h
  cases hs : sourceOutcomes w fuel chunkSize overlap config with
  | error f' =>
    rw [hs] at h
    cases h
    exact sourceOutcomes_fault hs
  | ok os =>
    rw [hs] at h
    cases h

end Faults

section Loop

variable {w : World} {fuel : Nat} {args : Args}

theorem ingest_fault : ∀ (cs : List DatasetConfig) (s : Ingest) {f : Fault},
    (ingest w fuel args cs s).2 = .error f → f.isExit = false
  | [], _, _, h => by cases h
  | c :: cs, s, f, h => by
    rw [ingest_cons] at h
    split at h
    · cases h
    · cases hp : processDataset w fuel args.chunkSize args.overlap c s.allChunks s.topicCounts with
      | error f' =>
        simp only [hp, Except.error.injEq] at h
        exact h ▸ processDataset_fault hp
      | ok p =>
        simp only [hp] at h
        exact ingest_fault cs _ h

end Loop

theorem resumeFault_isExit {fs : FileSys} {args : Args} {f : Fault} (h : resumeFault fs args = some f) :
    f.isExit = false := by
  unfold resumeFault loadCheckpointFault at h
  repeat' split at h
  all_goals cases h
  all_goals rfl

theorem prepare_fault {w : World} {fuel : Nat} {configs : List DatasetConfig} {fs : FileSys}
    {args : Args} {f : Fault}
    (hexit : ((args.datasets.map (!·.isEmpty)).getD false &&
      (selectConfigs configs args.datasets).isEmpty) = false)
    (h : (prepareHuggingfaceBenchmark w fuel configs fs args).outcome = .error f) :
    f.isExit = false := by
  unfold prepareHuggingfaceBenchmark at h
  rw [if_neg (by simp [hexit])] at h
  cases hr : resumeFault fs args with
  | some f' =>
    rw [hr] at h
    cases h
    exact resumeFault_isExit hr
  | none =>
    rw [hr] at h
    dsimp only at h
    split at h
    · split at h
      · cases h
        exact ingest_fault _ _ ‹_›
      · cases h
    · cases h
      rfl

theorem prepare_exit_cases {w : World} {fuel : Nat} {configs : List DatasetConfig} {fs : FileSys}
    {args : Args} {code : Int}
    (h : (prepareHuggingfaceBenchmark w fuel configs fs args).outcome = .error (.exit code)) :
    ((args.datasets.map (!·.isEmpty)).getD false &&
        (selectConfigs configs args.datasets).isEmpty) = true ∧ code = 1 ∧
      (prepareHuggingfaceBenchmark w fuel configs fs args).events = [] := by
  by_cases hc : ((args.datasets.map (!·.isEmpty)).getD false &&
      (selectConfigs configs args.datasets).isEmpty) = true
  · refine ⟨hc, ?_, (prepare_of_stop (by simp [hc])).1⟩
    unfold prepareHuggingfaceBenchmark at h
    rw [if_pos hc] at h
    cases h
    rfl
  · exact nomatch prepare_fault (by simpa using hc) h

theorem exit_check_iff (configs : List DatasetConfig) (datasets : Option (List String)) :
    ((datasets.map (!·.isEmpty)).getD false && (selectConfigs configs datasets).isEmpty) = true ↔
      (∃ ds, datasets = some ds ∧ ds ≠ []) ∧ selectConfigs configs datasets = [] := by
  cases datasets with
  | none => simp
  | some ds => cases ds <;> simp

theorem prepare_exits_iff (w : World) (fuel : Nat) (configs : List DatasetConfig) (fs : FileSys)
    (args : Args) (code : Int) :
    (prepareHuggingfaceBenchmark w fuel configs fs args).outcome = .error (.exit code) ↔
      code = 1 ∧ (∃ ds, args.datasets = some ds ∧ ds ≠ []) ∧
        selectConfigs configs args.datasets = [] ∧
        (prepareHuggingfaceBenchmark w fuel configs fs args).events = [] := by
  constructor
  · intro h
    obtain ⟨hcheck, rfl, hev⟩ := prepare_exit_cases h
    obtain ⟨hds, hsel⟩ := (exit_check_iff _ _).mp hcheck
    exact ⟨rfl, hds, hsel, hev⟩
  · rintro ⟨rfl, hds, hsel, -⟩
    unfold prepareHuggingfaceBenchmark
    rw [if_pos ((exit_check_iff _ _).mpr ⟨hds, hsel⟩)]

section Termination

variable {w : World}

/-- A source `process_dataset` gets through: it fails to open, or it streams rows that end without
raising and whose topics can be counted. -/
def SourceOk (w : World) (config : DatasetConfig) : Prop :=
  ∀ st, w.loadDataset config.loadKwargs = .ok st →
    st.clean = true ∧ ∀ doc ∈ st.docs, TopicOk config doc

theorem SourceOk.withQuota {config : DatasetConfig} (h : SourceOk w config)
    (remaining : List String) (l : Int) : SourceOk w (withQuota remaining l config) := by
  unfold HfBenchmark.withQuota
  split <;> exact h

end Termination

section Cli

/-- The values `argparse` hands to `main`, with its defaults. -/
structure CliArgs where
  maxChunks : Int := 20000
  chunkSize : Int := 200
  overlap : Int := 50
  datasets : Option (List String) := none
  noResume : Bool := false
  listDatasets : Bool := false

/-- The `choices` of `--datasets`. -/
def datasetChoices : List String := ["arxiv", "code", "stackoverflow", "wikipedia"]

/-- What `argparse` lets through for `--datasets` (`nargs="+"`, `choices=...`): nothing, or one
or more of the choices. -/
def CliArgs.Parsed (a : CliArgs) : Prop :=
  ∀ ds, a.datasets = some ds → ds ≠ [] ∧ ∀ d ∈ ds, d ∈ datasetChoices

/-- `main()` once `argparse` has parsed the command line: `--list-datasets` only prints;
otherwise one call on `DATASET_CONFIGS`, with `resume = not args.no_resume`. -/
def main (w : World) (fuel : Nat) (fs : FileSys) (a : CliArgs) : Option RunResult :=
  if a.listDatasets then none
  else some (prepareHuggingfaceBenchmark w fuel datasetConfigs fs
    { maxChunks := a.maxChunks, chunkSize := a.chunkSize, overlap := a.overlap,
      datasets := a.datasets, resume := !a.noResume })

theorem datasetChoices_mem : ∀ d ∈ datasetChoices, ∃ c ∈ datasetConfigs, c.name = d := by
  decide

end Cli

theorem main_never_exits (w : World) (fuel : Nat) (fs : FileSys) (a : CliArgs) (ha : a.Parsed)
    {r : RunResult} (hr : main w fuel fs a = some r) (code : Int) :
    r.outcome ≠ .error (.exit code) := by
  unfold main at hr
  split at hr
  · cases hr
  cases hr
  intro h
  obtain ⟨hcheck, -, -⟩ := prepare_exit_cases h
  obtain ⟨⟨ds, hds, hne⟩, hsel⟩ := (exit_check_iff _ _).mp hcheck
  obtain ⟨d, rest, rfl⟩ := List.exists_cons_of_ne_nil hne
  obtain ⟨c, hc, hname⟩ := datasetChoices_mem d ((ha _ hds).2 d (List.mem_cons_self _ _))
  rw [hds] at hsel
  have : c ∈ selectConfigs datasetConfigs (some (d :: rest)) :=
    List.mem_filter.mpr ⟨hc, by simp only [hname, List.mem_cons_self, decide_True]⟩
  exact List.not_mem_nil _ (hsel ▸ this)

end HfBenchmark
