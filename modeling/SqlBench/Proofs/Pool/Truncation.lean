import SqlBench.Proofs.Pool.Greedy
import SqlBench.Proofs.Pool.Lasting
import SqlBench.Proofs.Pool.Stop

set_option autoImplicit false

namespace SqlBench.Pool

variable {σ : Type}

def calm (services : Services σ) : Services σ :=
  { services with
    take := fun call world =>
      let (promise, world) := services.take call world
      ({ promise with requestsStop := false }, world) }

def unhindered (p : Pool σ) : Pool σ :=
  { p with stopOnFailure := false, deadline := none, services := calm p.services }

def unasked (c : Course σ) : Course σ :=
  { c with stop := .never }

theorem calm_governs {script : Script} {services : Services σ} (governs : script.Governs services) :
    script.Governs (calm services) :=
  ⟨governs.delay, governs.ending, governs.effort, governs.providers⟩

theorem unhindered_schedule (p : Pool σ) (script : Script) (executions : List Execution)
    (t : Moment) : p.unhindered.schedule script executions t = p.schedule script executions t :=
  rfl

theorem calm_kept {services : Services σ}
    (calm : ∀ call world, (services.take call world).1.requestsStop = false) :
    Kept services (fun c later => later.stop = c.stop) fun _ promise => promise.requestsStop = false where
  refl _ := rfl
  trans early late := late.trans early
  reads _ := rfl
  closes c line := by
    cases line <;> rfl
  takes c call := by
    cases call <;> rfl
  promised c call := calm call c.world
  carries _ unasking := unasking
  settles c call promise unasking := by
    have elapsed : (c.elapse promise).stop = c.stop := by
      simp [Course.elapse, unasking]
      rfl
    rcases Course.settle_course c call promise with same | ⟨opened, entry, -, same⟩
    · rw [same]
      exact elapsed
    · rw [same]
      exact elapsed

theorem calm_lasting {services : Services σ}
    (calm : ∀ call world, (services.take call world).1.requestsStop = false) :
    Lasting services (fun c later => later.stop = c.stop) fun _ promise => promise.requestsStop = false where
  toKept := calm_kept calm
  advances _ _ := rfl
  starts _ _ := rfl
  finishes _ _ := rfl
  asks _ _ _ _ := rfl

theorem unhindered_goes_on {p : Pool σ} {executions : List Execution} {c : Course σ} {s : State σ}
    (reached : p.unhindered.Reaches (.start executions (unasked c)) s) :
    p.unhindered.isStopped s = false := by
  have quiet : s.course.stop = .never := (reached_lasts (calm_lasting fun _ _ => rfl) reached).course
  have itself : s.hasStopped = false := by
    refine Bool.eq_false_iff.mpr fun stopped => ?_
    have policy := ((reached_orderly reached).stopped stopped).1
    cases policy
  simp [isStopped, isInterrupted, isOver, unhindered, itself, Course.isStopped, quiet,
    StopRequest.holds, StopRequest.never]

theorem unhindered_finishes {p : Pool σ} (records : p.recordsCrashes = true)
    {executions : List Execution} {c : Course σ} {s : State σ}
    (reached : p.unhindered.Reaches (.start executions (unasked c)) s) {f : Nat × Fate}
    (member : f ∈ s.fates) : ∃ r, f.2 = .finished r := by
  have orderly := reached_orderly reached
  rcases told_result orderly records member with isSkipped | ⟨r, finished, -⟩
  · have stopped := orderly.skipped f member isSkipped
    rw [unhindered_goes_on reached] at stopped
    cases stopped
  · exact ⟨r, finished⟩

theorem done_forecasts {script : Script} {s : State σ} (isDone : s.IsDone) :
    s.forecasts script = (s.fates.filter fun f => !f.2.isSkipped).map fun f => (f.1, f.2.result?) := by
  simp only [State.forecasts, isDone.noticed, isDone.running, Option.toList_none, List.map_nil,
    List.append_nil]

theorem unhindered_skips_nobody {p : Pool σ} (records : p.recordsCrashes = true)
    (executions : List Execution) (c : Course σ) :
    (p.unhindered.run executions (unasked c)).fates.filter (fun f => !f.2.isSkipped) =
      (p.unhindered.run executions (unasked c)).fates := by
  refine List.filter_eq_self.mpr fun f member => ?_
  obtain ⟨r, finished⟩ :=
    unhindered_finishes records (run_reached p.unhindered executions (unasked c)).1 member
  rw [finished]
  rfl

theorem unhindered_runs_schedule {p : Pool σ} {script : Script} (governs : script.Governs p.services)
    (records : p.recordsCrashes = true) (executions : List Execution) (c : Course σ)
    (still : c.tick = 0) :
    ((p.unhindered.run executions (unasked c)).forecasts script).Perm
      (p.schedule script executions c.now) := by
  obtain ⟨k, kept⟩ := run_keeps_to_schedule (p := p.unhindered) (calm_governs governs) records executions
    (unasked c) still
  have reached := (run_reached p.unhindered executions (unasked c)).1
  have isDone := run_done p.unhindered executions (unasked c)
  have everybody := unhindered_skips_nobody records executions c
  rw [unhindered_schedule] at kept
  have length : (p.schedule script executions c.now).length = executions.length := by
    rw [← List.length_map (f := Prod.fst), schedule_places, List.length_range]
  have all : executions.length ≤ k := by
    have count := kept.length_eq
    rw [done_forecasts isDone, everybody, List.length_map, ← List.length_map (f := Prod.fst),
      (fates_complete reached isDone).length_eq, List.length_range, List.length_take] at count
    omega
  rwa [List.take_of_length_le (length ▸ all)] at kept

theorem mem_forecasts (script : Script) {s : State σ} (isDone : s.IsDone) {place : Nat}
    {r : ExecutionResult} :
    (place, some r) ∈ s.forecasts script ↔ (place, Fate.finished r) ∈ s.fates := by
  rw [done_forecasts isDone, List.mem_map]
  constructor
  · rintro ⟨⟨i, fate⟩, member, same⟩
    cases fate with
    | finished result =>
        cases same
        exact List.mem_of_mem_filter member
    | _ => cases same
  · intro member
    exact ⟨_, List.mem_filter.mpr ⟨member, rfl⟩, rfl⟩

theorem results_forecast {script : Script} {s : State σ} (isDone : s.IsDone)
    {foreseen : List (Nat × Option ExecutionResult)} (same : (s.forecasts script).Perm foreseen)
    (ordered : (foreseen.filterMap Prod.snd).Pairwise fun a b => a.execution.number < b.execution.number) :
    s.results = foreseen.filterMap Prod.snd := by
  have told : (s.forecasts script).filterMap Prod.snd = s.fates.filterMap fun f => f.2.result? := by
    rw [done_forecasts isDone, List.filterMap_map, List.filterMap_filter]
    congr
    funext f
    cases fate : f.2 <;> simp [fate, Fate.isSkipped, Fate.result?]
  rw [results_by_number, ← told]
  exact by_number_unique (same.filterMap _) ordered

theorem mem_take_places {α : Type} {entries : List (Nat × α)} {n : Nat}
    (places : entries.map Prod.fst = List.range n) (k : Nat) (x : Nat × α) :
    x ∈ entries.take k ↔ x.1 < k ∧ x ∈ entries := by
  have own : ∀ i, entries[i]? = some x → x.1 = i := by
    intro i found
    have same : (List.range n)[i]? = some x.1 := by
      rw [← places, List.getElem?_map, found, Option.map_some]
    obtain ⟨bound, number⟩ := List.getElem?_eq_some_iff.mp same
    rw [List.getElem_range] at number
    exact number.symm
  constructor
  · intro member
    obtain ⟨i, found⟩ := List.mem_iff_getElem?.mp member
    rw [List.getElem?_take] at found
    split at found
    · rename_i less
      exact ⟨own i found ▸ less, List.mem_of_getElem? found⟩
    · cases found
  · rintro ⟨less, member⟩
    obtain ⟨i, found⟩ := List.mem_iff_getElem?.mp member
    refine List.mem_of_getElem? (i := i) ?_
    rw [List.getElem?_take, if_pos (own i found ▸ less), found]

section Truncation

variable {p : Pool σ} {script : Script} {executions : List Execution} {c : Course σ}

theorem unhindered_reports (p : Pool σ) (records : p.recordsCrashes = true)
    (executions : List Execution) (c : Course σ) {place : Nat} (inside : place < executions.length) :
    ∃ r, (place, Fate.finished r) ∈ (p.unhindered.run executions (unasked c)).fates := by
  have reached := (run_reached p.unhindered executions (unasked c)).1
  have complete := fates_complete reached (run_done p.unhindered executions (unasked c))
  obtain ⟨⟨i, fate⟩, member, rfl⟩ :=
    List.mem_map.mp (complete.mem_iff.mpr (List.mem_range.mpr inside))
  obtain ⟨r, rfl⟩ := unhindered_finishes records reached member
  exact ⟨r, member⟩

theorem first_begin (governs : script.Governs p.services) (records : p.recordsCrashes = true)
    (executions : List Execution) (c : Course σ) (still : c.tick = 0) :
    ∃ k, ∀ place r, (place, Fate.finished r) ∈ (p.run executions c).fates ↔
      place < k ∧ (place, Fate.finished r) ∈ (p.unhindered.run executions (unasked c)).fates := by
  obtain ⟨k, stopped⟩ := run_keeps_to_schedule governs records executions c still
  have whole := unhindered_runs_schedule governs records executions c still
  refine ⟨k, fun place r => ?_⟩
  rw [← mem_forecasts script (run_done p executions c),
    ← mem_forecasts script (run_done p.unhindered executions (unasked c)),
    stopped.mem_iff, whole.mem_iff, mem_take_places (schedule_places p script executions c.now)]

theorem schedule_ascends (governs : script.Governs p.services) (records : p.recordsCrashes = true)
    (ascending : executions.Pairwise fun a b => a.number < b.number) (still : c.tick = 0) :
    ((p.schedule script executions c.now).filterMap Prod.snd).Pairwise
      fun a b => a.execution.number < b.execution.number := by
  have whole := unhindered_runs_schedule governs records executions c still
  have orderly := reached_orderly (run_reached p.unhindered executions (unasked c)).1
  have placed : ∀ f ∈ p.schedule script executions c.now, ∀ r, f.2 = some r →
      executions[f.1]? = some r.execution := by
    rintro ⟨place, foreseen⟩ member r rfl
    have told := (mem_forecasts script (run_done p.unhindered executions (unasked c))).mp
      (whole.mem_iff.mpr member)
    exact result_placed orderly told rfl
  have places : (p.schedule script executions c.now).Pairwise fun f g => f.1 < g.1 := by
    rw [← List.pairwise_map (f := Prod.fst) (R := (· < ·)), schedule_places]
    exact List.pairwise_lt_range
  rw [List.pairwise_filterMap]
  refine places.imp_of_mem fun {f g} memberF memberG before a resultF b resultG => ?_
  obtain ⟨boundF, sameF⟩ := List.getElem?_eq_some_iff.mp (placed f memberF a resultF)
  obtain ⟨boundG, sameG⟩ := List.getElem?_eq_some_iff.mp (placed g memberG b resultG)
  rw [← sameF, ← sameG]
  exact List.pairwise_iff_getElem.mp ascending f.1 g.1 boundF boundG before

theorem results_prefix (governs : script.Governs p.services) (records : p.recordsCrashes = true)
    (ascending : executions.Pairwise fun a b => a.number < b.number) (still : c.tick = 0) :
    (p.run executions c).results <+: (p.unhindered.run executions (unasked c)).results := by
  have ordered := schedule_ascends governs records ascending still
  obtain ⟨k, stopped⟩ := run_keeps_to_schedule governs records executions c still
  have whole := unhindered_runs_schedule governs records executions c still
  have cut : ((p.schedule script executions c.now).take k).filterMap Prod.snd <+:
      (p.schedule script executions c.now).filterMap Prod.snd :=
    (List.take_prefix k _).filterMap _
  rw [results_forecast (run_done p executions c) stopped (ordered.sublist cut.sublist),
    results_forecast (run_done p.unhindered executions (unasked c)) whole ordered]
  exact cut

end Truncation

/-- A run that is stopped begins the first of its executions, with the results that they have when
nothing stops it, and begins nobody behind the stop. -/
theorem stopping_only_truncates (p : Pool σ) (script : Script) (executions : List Execution)
    (c : Course σ) (governs : script.Governs p.services) (records : p.recordsCrashes = true)
    (still : c.tick = 0) :
    (∀ place < executions.length,
      ∃ r, (place, Fate.finished r) ∈ (p.unhindered.run executions (unasked c)).fates) ∧
    (∃ k, ∀ place r, (place, Fate.finished r) ∈ (p.run executions c).fates ↔
      place < k ∧ (place, Fate.finished r) ∈ (p.unhindered.run executions (unasked c)).fates) ∧
    ((executions.Pairwise fun a b => a.number < b.number) →
      (p.run executions c).results <+: (p.unhindered.run executions (unasked c)).results) ∧
    p.Reaches (.start executions c) (p.run executions c) ∧
    (∀ s later, p.Reaches (.start executions c) s → p.isStopped s = true → p.Reaches s later →
      starts later.course = starts s.course ∧
        ∀ x ∈ s.queue, x ∈ later.queue ∨ (x.1, Fate.skipped) ∈ later.fates) ∧
    ∀ s, p.Reaches (.start executions c) s →
      ∀ begun ∈ starts s.course, begun ∈ starts c ∨ begun.1 ≤ s.course.now ∧
        (∀ t, c.stop.moment = some t → begun.1 < t) ∧ ∀ t, p.deadline = some t → begun.1 < t := by
  refine ⟨fun place inside => unhindered_reports p records executions c inside,
    first_begin governs records executions c still,
    fun ascending => results_prefix governs records ascending still,
    (run_reached p executions c).1, ?_, fun s => begun_in_time⟩
  exact fun s later _ stopped onward => nobody_begins_behind_stop stopped onward

-- One statement that takes long and two that do not, two at once, and a stop under way.
def paced (collector : Collector Nat) : Pool Nat where
  services :=
    { take := fun call asked =>
        match call with
        | .send _ statement => (⟨if statement = "LONG" then 10 else 3, 0, false, .rows 1 none⟩, asked)
        | _ => (.instant .done, asked)
      queries := ⟨.directory [], [], Dict.empty⟩
      hooks := Dict.empty
      collector := collector }
  concurrency := 2
  stopOnFailure := false
  deadline := none
  isQuiet := false
  recordsCrashes := true

def pacedRun (a b c : Nat) : List Execution :=
  [⟨Benchmark.named "paced" "memory", "a", a, Dict.empty, "LONG"⟩,
    ⟨Benchmark.named "paced" "memory", "b", b, Dict.empty, "SHORT"⟩,
    ⟨Benchmark.named "paced" "memory", "c", c, Dict.empty, "SHORT"⟩]

def pacedStop : Course Nat :=
  .start ⟨false, some 2⟩ 0

def patient : Provider Nat := fun _ asked =>
  (⟨4, .ok []⟩, asked)

def pacedByPatience : Pool Nat :=
  paced [(.required, patient)]

def pacedScript : Script where
  delay call :=
    match call with
    | .send _ statement => if statement = "LONG" then 10 else 3
    | _ => 0
  ending call :=
    match call with
    | .send .. => .rows 1 none
    | _ => .done
  providers := [(.required, fun _ => ⟨4, .ok []⟩)]

theorem paced_governed : pacedScript.Governs pacedByPatience.services where
  delay call world := by
    cases call <;> rfl
  ending call world := by
    cases call <;> rfl
  effort call world := by
    cases call <;> rfl
  providers := .cons ⟨rfl, fun _ _ => rfl⟩ .nil

theorem paced_run_truncated :
    pacedScript.Governs pacedByPatience.services ∧ pacedByPatience.recordsCrashes = true ∧
      pacedStop.tick = 0 ∧ (pacedByPatience.run (pacedRun 0 1 2) pacedStop).results <+:
        (pacedByPatience.unhindered.run (pacedRun 0 1 2) (unasked pacedStop)).results := by
  obtain ⟨-, -, truncates, -⟩ := stopping_only_truncates pacedByPatience pacedScript (pacedRun 0 1 2)
    pacedStop paced_governed rfl rfl
  exact ⟨paced_governed, rfl, rfl, truncates (by decide)⟩

def counting : Provider Nat := fun _ asked =>
  (.instant (if asked = 1 then .error (.illegal (.other "asked twice")) else .ok []), asked + 1)

-- Results go by their numbers, those of one number by when they were done, and a provider that
-- counts sees who comes between.
theorem stopped_run_is_no_prefix :
    (∀ collector call asked others,
      ((paced collector).services.take call asked).1 = ((paced collector).services.take call others).1) ∧
    (¬ ((paced []).run (pacedRun 2 0 1) pacedStop).results <+:
      ((paced []).unhindered.run (pacedRun 2 0 1) (unasked pacedStop)).results) ∧
    (¬ ((paced []).run (pacedRun 0 0 0) pacedStop).results <+:
      ((paced []).unhindered.run (pacedRun 0 0 0) (unasked pacedStop)).results) ∧
    ¬ ((paced [(.required, counting)]).run (pacedRun 0 1 2) pacedStop).results <+:
      ((paced [(.required, counting)]).unhindered.run (pacedRun 0 1 2) (unasked pacedStop)).results := by
  refine ⟨?_, fun cut => ?_, fun cut => ?_, fun cut => ?_⟩
  · intro collector call asked others
    cases call <;> rfl
  · have names := cut.map fun r => r.execution.query
    revert names
    decide +kernel
  · have names := cut.map fun r => r.execution.query
    revert names
    decide +kernel
  · have successes := cut.map ExecutionResult.isSuccessful
    revert successes
    decide +kernel

end SqlBench.Pool
