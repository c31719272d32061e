import SqlBench.CommandLine.Session
import SqlBench.Proofs.Admission
import SqlBench.Proofs.Suite.Order
import SqlBench.Proofs.Suite.Status

set_option autoImplicit false

namespace SqlBench

namespace Suite

variable {σ : Type} {s : Suite σ} {benchmarks : List Benchmark} {c later : Course σ}
  {results : List BenchmarkResult}

structure Complete (s : Suite σ) (r : BenchmarkResult) : Prop where
  completed : r.phase = .completed
  unfailed : r.failureCauses = []
  whole : ∃ planned, s.Plans r.benchmark planned ∧ r.executions.map ExecutionResult.execution = planned
  succeeded : ∀ e ∈ r.executions, e.isSuccessful = true

theorem run_until_complete {deadline : Option Moment} {b : Benchmark} {r : BenchmarkResult}
    (returned : s.runUntil deadline b c = (.ok r, later)) (successful : r.isSuccessful = true) :
    Complete s r := by
  have agrees := run_until_agrees returned
  have success : r.status = .success := by rw [BenchmarkResult.status, if_pos successful]
  obtain ⟨completed, succeeded⟩ := agrees.outcome.mp success
  obtain ⟨whole, -, -⟩ := completed_accounts returned completed
  refine ⟨completed, agrees.causes.mp success, ?_, succeeded⟩
  rwa [run_until_benchmark returned]

theorem results_complete (ran : s.run benchmarks c = (.ok (.ok results), later)) :
    ∀ r ∈ results, r.isSuccessful = true → Complete s r :=
  results_all (fun _ _ _ successful => nomatch successful)
    (fun _ _ _ _ _ returned => run_until_complete returned) benchmarks c later results ran

-- The suite was over when the first benchmark without a result had its turn.
def IsCutShort (s : Suite σ) (benchmarks : List Benchmark) (c : Course σ)
    (results : List BenchmarkResult) : Prop :=
  ∃ begun last, s.beforeAllHooks c = (.ok (), begun) ∧
    s.runInOrder (s.deadline c.now) benchmarks begun = (.ok results, last) ∧
    IsOver (s.deadline c.now) last

theorem results_green (ran : s.run benchmarks c = (.ok (.ok results), later))
    (green : ∀ r ∈ results, r.isSuccessful = true) :
    results.map BenchmarkResult.benchmark <+: benchmarks ∧
      (results.map BenchmarkResult.benchmark = benchmarks ∨ s.IsCutShort benchmarks c results) := by
  obtain ⟨begun, last, hooks, goes, -⟩ := run_results ran
  obtain ⟨entries, -, annals⟩ := in_order_annals (in_order_goes goes)
  have lists := annals_lists annals results rfl
  have front := lists_prefix lists
  refine ⟨front, ?_⟩
  rcases Nat.lt_or_ge results.length benchmarks.length with shorter | enough
  · rcases lists_cut_short lists shorter with isOver | ⟨-, r, ends, failed⟩
    · exact .inr ⟨begun, last, hooks, goes, isOver⟩
    · rw [green r (List.mem_of_getLast? ends)] at failed
      cases failed
  · exact .inl (front.eq_of_length_le (by rwa [List.length_map]))

end Suite

namespace CommandLine

variable {σ τ : Type} {settings : Settings} {catalog : Catalog} {names ids : List String}
  {setUp : Except Fault (Services σ × Course σ)} {results : List BenchmarkResult} {last : Course σ}

def wanted (selected : List Benchmark) (ids : List String) : List Benchmark :=
  selected.flatMap fun b => ids.map b.withSequenceId

theorem success_iff (results : List BenchmarkResult) :
    (Outcome.ran results).isSuccess = true ↔ ∀ r ∈ results, r.isSuccessful = true := by
  simp [Outcome.isSuccess, Verdict.ofResults, Verdict.passes]

theorem load_sequences_ok {benchmarks : List Benchmark}
    (loads : catalog.loadSequences names ids = .ok benchmarks) :
    ids ≠ [] ∧ ∃ selected, catalog.load names = .ok selected ∧ benchmarks = wanted selected ids := by
  rw [Catalog.loadSequences] at loads
  split at loads
  · cases loads
  · rename_i identified
    refine ⟨mt List.isEmpty_iff.mpr identified, ?_⟩
    cases loaded : catalog.load names with
    | error cause =>
        rw [loaded] at loads
        cases loads
    | ok selected =>
        rw [loaded] at loads
        cases loads
        exact ⟨selected, rfl, rfl⟩

structure Ran (settings : Settings) (catalog : Catalog) (names ids : List String)
    (setUp : Except Fault (Services σ × Course σ)) (results : List BenchmarkResult)
    (selected : List Benchmark) (services : Services σ) (start : Course σ) : Prop where
  identified : ids ≠ []
  loads : catalog.load names = .ok selected
  setsUp : setUp = .ok (services, start)
  runs : ∃ later, (suiteOf settings services).run (wanted selected ids) start = (.ok (.ok results), later)

theorem run_benchmarks_ran
    (ran : runBenchmarks settings catalog names ids setUp = .ok (results, last)) :
    ∃ selected services start,
      Ran settings catalog names ids setUp results selected services start := by
  rw [runBenchmarks] at ran
  split at ran
  · cases ran
  · rename_i benchmarks loaded
    obtain ⟨identified, selected, loads, rfl⟩ := load_sequences_ok loaded
    split at ran
    · cases ran
    · rename_i services start
      refine ⟨selected, services, start, identified, loads, rfl, ?_⟩
      split at ran
      · cases ran
      · rename_i returned later runs
        split at ran
        · cases ran
        · cases returned with
          | error cause => cases ran
          | ok all =>
              cases ran
              exact ⟨_, runs⟩

def ordered (settings : Settings) (order : Order) : Settings :=
  { settings with timeLimitSecs := order.timeLimitSecs <|> settings.timeLimitSecs }

def sequenceIds (s : Surroundings τ) (order : Order) : List String :=
  if order.sequenceIds.isEmpty then [s.date.name] else order.sequenceIds

theorem follow_run (s : Surroundings τ) (origin : Origin) (order : Order)
    (success : (s.follow (.run origin order)).1.isSuccess = true) :
    ∃ settings results last, s.loadSettings origin = .ok settings ∧
      (s.follow (.run origin order)).1 = .ran results ∧
      runBenchmarks (ordered settings order) (s.catalog origin (ordered settings order))
        order.benchmarks (sequenceIds s order) (s.setUp (ordered settings order)) =
          .ok (results, last) := by
  rw [Surroundings.follow] at success ⊢
  split at success
  · rename_i results remote ran
    rw [Surroundings.run] at ran
    cases loaded : s.loadSettings origin with
    | error fault =>
        rw [loaded] at ran
        cases ran
    | ok settings =>
        rw [loaded] at ran
        change (runBenchmarks (ordered settings order) (s.catalog origin (ordered settings order))
          order.benchmarks (sequenceIds s order) (s.setUp (ordered settings order)) >>= _) = _ at ran
        refine ⟨settings, results, ?_⟩
        cases made : runBenchmarks (ordered settings order) (s.catalog origin (ordered settings order))
            order.benchmarks (sequenceIds s order) (s.setUp (ordered settings order)) with
        | error fault =>
            rw [made] at ran
            cases ran
        | ok ended =>
            rw [made] at ran
            cases ran
            exact ⟨ended.2, rfl, rfl, rfl⟩
  · cases success

/-- A run that succeeds has complete results, for all that was wanted or up to where a stop or the
deadline has ended it. -/
theorem success_is_complete :
    (∀ (settings : Settings) (catalog : Catalog) (names ids : List String)
      (setUp : Except Fault (Services σ × Course σ)) (results : List BenchmarkResult) (last : Course σ),
      runBenchmarks settings catalog names ids setUp = .ok (results, last) →
      (Outcome.ran results).isSuccess = true →
      ∃ selected services start,
        Ran settings catalog names ids setUp results selected services start ∧
        (∀ r ∈ results, (suiteOf settings services).Complete r) ∧
        results.map BenchmarkResult.benchmark <+: wanted selected ids ∧
        (results.map BenchmarkResult.benchmark = wanted selected ids ∨
          (suiteOf settings services).IsCutShort (wanted selected ids) start results)) ∧
    ∀ (s : Surroundings τ) (origin : Origin) (order : Order),
      (s.follow (.run origin order)).1.isSuccess = true →
      ∃ settings results last, s.loadSettings origin = .ok settings ∧
        (s.follow (.run origin order)).1 = .ran results ∧
        runBenchmarks (ordered settings order) (s.catalog origin (ordered settings order))
          order.benchmarks (sequenceIds s order) (s.setUp (ordered settings order)) =
            .ok (results, last) := by
  refine ⟨fun settings catalog names ids setUp results last ran success => ?_, follow_run⟩
  have green := (success_iff results).mp success
  obtain ⟨selected, services, start, goes⟩ := run_benchmarks_ran ran
  obtain ⟨later, runs⟩ := goes.runs
  exact ⟨selected, services, start, goes,
    fun r member => Suite.results_complete runs r member (green r member),
    Suite.results_green runs green⟩

def nightly (timeLimitSecs : Option Nat) : Settings :=
  { Settings.standard with timeLimitSecs := timeLimitSecs }

def nights (timeLimitSecs : Option Nat) : Option (List (String × Bool)) :=
  (runBenchmarks (nightly timeLimitSecs) shelf [] ["mon", "tue"]
    (.ok (Suite.obligingIn 1000000000, .start .never ()))).toOption.map fun ran =>
      ran.1.map fun r => (r.benchmark.sequenceId, r.isSuccessful)

theorem nights_ran {timeLimitSecs : Option Nat} {told : List (String × Bool)}
    (shows : nights timeLimitSecs = some told) :
    ∃ results last, runBenchmarks (nightly timeLimitSecs) shelf [] ["mon", "tue"]
        (.ok (Suite.obligingIn 1000000000, .start .never ())) = .ok (results, last) ∧
      (results.map fun r => (r.benchmark.sequenceId, r.isSuccessful)) = told := by
  rw [nights] at shows
  cases ran : runBenchmarks (nightly timeLimitSecs) shelf [] ["mon", "tue"]
      (.ok (Suite.obligingIn 1000000000, .start .never ())) with
  | error fault =>
      rw [ran] at shows
      cases shows
  | ok ended =>
      rw [ran] at shows
      exact ⟨ended.1, ended.2, rfl, Option.some.inj shows⟩

theorem told_success {results : List BenchmarkResult} {told : List (String × Bool)}
    (same : (results.map fun r => (r.benchmark.sequenceId, r.isSuccessful)) = told)
    (all : ∀ x ∈ told, x.2 = true) : (Outcome.ran results).isSuccess = true := by
  refine (success_iff results).mpr fun r member => ?_
  subst same
  exact all _ (List.mem_map_of_mem (f := fun r => (r.benchmark.sequenceId, r.isSuccessful)) member)

def bareDesk : Surroundings Unit where
  files := .directory [("qbench.yaml", .file "{environment: desk}".toUTF8.toList)]
  environment := Dict.empty
  date := .newYear2025
  tick := 0
  wire := .cut
  remote := ()

theorem two_nights_complete :
    (∃ results last, runBenchmarks (nightly none) shelf [] ["mon", "tue"]
        (.ok (Suite.obligingIn 1000000000, .start .never ())) = .ok (results, last) ∧
      (Outcome.ran results).isSuccess = true ∧ results.length = 2 ∧
      ∀ r ∈ results, (suiteOf (nightly none) (Suite.obligingIn 1000000000)).Complete r) ∧
    ∃ results, (bareDesk.follow (.run .standard ⟨[], [], none⟩)).1 = .ran results := by
  have shows : nights none = some [("mon", true), ("tue", true)] := by decide +kernel
  obtain ⟨results, last, ran, same⟩ := nights_ran shows
  have success := told_success same (by decide)
  obtain ⟨complete, follows⟩ := success_is_complete (σ := Unit) (τ := Unit)
  obtain ⟨selected, services, start, goes, all, -⟩ := complete _ _ _ _ _ _ _ ran success
  cases goes.setsUp
  have two := congrArg List.length same
  rw [List.length_map] at two
  obtain ⟨-, nothing, -, -, followed, -⟩ := follows bareDesk .standard ⟨[], [], none⟩ (by decide +kernel)
  exact ⟨⟨results, last, ran, success, two, all⟩, nothing, followed⟩

-- With a limit of one second there is only one night, and nothing that could fail for the other.
theorem success_leaves_out :
    ¬ ∀ (settings : Settings) (catalog : Catalog) (names ids : List String) (services : Services Unit)
      (start : Course Unit) (results : List BenchmarkResult) (last : Course Unit),
      runBenchmarks settings catalog names ids (.ok (services, start)) = .ok (results, last) →
      (Outcome.ran results).isSuccess = true →
      ∀ selected, catalog.load names = .ok selected → ∀ b ∈ selected, ∀ id ∈ ids,
        ∃ r ∈ results, r.benchmark = b.withSequenceId id ∧
          (suiteOf settings services).Complete r := by
  intro complete
  have shows : nights (some 1) = some [("mon", true)] := by decide +kernel
  obtain ⟨results, last, ran, same⟩ := nights_ran shows
  have success := told_success same (by decide)
  have single : (shelf.load []).toOption.map List.length = some 1 := by decide +kernel
  cases loads : shelf.load [] with
  | error cause =>
      rw [loads] at single
      cases single
  | ok selected =>
      rw [loads] at single
      obtain ⟨b, one⟩ := List.length_eq_one_iff.mp (Option.some.inj single)
      obtain ⟨r, member, own, -⟩ := complete _ _ _ _ _ _ _ _ ran success selected loads b
        (one ▸ List.mem_singleton_self b) "tue" (by decide)
      have there := List.mem_map_of_mem (f := fun r => (r.benchmark.sequenceId, r.isSuccessful)) member
      rw [same, own] at there
      revert there
      simp [Benchmark.withSequenceId]

end CommandLine

end SqlBench
