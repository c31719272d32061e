import SqlBench.Proofs.Pool.Echo
import SqlBench.Proofs.Pool.Truncation

set_option autoImplicit false

namespace SqlBench

-- All of a result but when it was. How long it took remains.
def ExecutionResult.undated (r : ExecutionResult) : ExecutionResult :=
  { r with start := 0, finish := r.duration }

def ExecutionResult.delayed (d : Span) (r : ExecutionResult) : ExecutionResult :=
  { r with start := d + r.start, finish := d + r.finish }

theorem ExecutionResult.undated_delayed (d : Span) (r : ExecutionResult) :
    (r.delayed d).undated = r.undated := by
  simp [undated, delayed, duration, Moment.spanTo, Nat.add_sub_add_left]

theorem ExecutionResult.undated_alike (a b : ExecutionResult) :
    a.undated = b.undated ↔ a.execution = b.execution ∧ a.duration = b.duration ∧ a.rows = b.rows ∧
      a.queryId = b.queryId ∧ a.failure = b.failure ∧ a.measurements = b.measurements := by
  simp [undated, ExecutionResult.mk.injEq]

namespace Pool

def Worker.delayed (d : Span) (w : Worker) : Worker :=
  { w with
    recording := { w.recording with start := w.recording.start.map (d + ·) }
    result := w.result.map (ExecutionResult.delayed d) }

def Standing.delayed (d : Span) : Standing → Standing
  | .finished r => .finished (r.delayed d)
  | standing => standing

-- What providers tell of an execution does not depend on when it was.
def Script.Timeless (script : Script) : Prop :=
  ∀ x ∈ script.providers, ∀ a b : ExecutionResult, a.undated = b.undated →
    (x.2 (.execution a)).finding = (x.2 (.execution b)).finding

theorem start_delayed (d : Span) (e : Execution) : (Worker.start e).delayed d = Worker.start e :=
  rfl

theorem outlook_delayed (script : Script) (d : Span) (todo : List Task) (w : Worker) (t : Moment) :
    outlook script todo (w.delayed d) (d + t) =
      ((outlook script todo w t).1.delayed d, d + (outlook script todo w t).2) := by
  induction todo generalizing w t with
  | nil =>
      cases result : w.result <;> simp [outlook, Worker.delayed, result, Standing.delayed]
  | cons task rest ih =>
      -- To be delayed is to be a later echo of oneself.
      have called : (w.delayed d).call? task = w.call? task := call_echo (.later d) w task
      cases calls : w.call? task with
      | none =>
          rw [calls] at called
          have passed : ((w.delayed d).pass task (clockAt (d + t))).1 =
              (w.pass task (clockAt t)).1.map (Worker.delayed d) := pass_echo (.later d) w task t
          cases passes : (w.pass task (clockAt t)).1 with
          | ok w' =>
              rw [passes] at passed
              simp only [outlook, calls, called, passes, passed, Except.map]
              exact ih w' t
          | error cause =>
              rw [passes] at passed
              simp [outlook, calls, called, passes, passed, Except.map, Standing.delayed]
      | some call =>
          rw [calls] at called
          have received : ((w.delayed d).receive task (script.outcome call) (clockAt 0)).1 =
              (w.receive task (script.outcome call) (clockAt 0)).1.map (Worker.delayed d) :=
            receive_echo (.later d) w task (script.outcome call) (clockAt 0)
          cases receives : (w.receive task (script.outcome call) (clockAt 0)).1 with
          | ok w' =>
              rw [receives] at received
              simp only [outlook, calls, called, receives, received, Except.map, Nat.add_assoc]
              exact ih w' (t + script.delay call)
          | error panic =>
              rw [receives] at received
              simp [outlook, calls, called, receives, received, Except.map, Standing.delayed,
                Nat.add_assoc]

section Forecast

variable {σ : Type} {script : Script}

theorem answer_undated (timeless : script.Timeless) {a b : ExecutionResult}
    (alike : a.undated = b.undated) (heard : List Measurement) :
    (script.answer (.execution a) 0 (.ok heard)).finding =
      (script.answer (.execution b) 0 (.ok heard)).finding := by
  have weighs (providers : List (Requirement × (Subject → Answer)))
      (within : ∀ x ∈ providers, x ∈ script.providers) (heard : List Measurement) :
      (weigh (.execution a) providers heard).finding =
        (weigh (.execution b) providers heard).finding := by
    induction providers generalizing heard with
    | nil => rfl
    | cons x rest ih =>
        have said := timeless x (within x List.mem_cons_self) a b alike
        rw [weigh, weigh, said]
        cases x.1.heed heard (x.2 (.execution b)).finding with
        | ok found => exact ih (fun y member => within y (List.mem_cons_of_mem x member)) found
        | error halt => rfl
  exact weighs script.providers (fun _ => id) heard

theorem concluded_undated {a b : ExecutionResult} (alike : a.undated = b.undated) (e : Execution)
    (t u : Moment) {first second : Answer} (same : first.finding = second.finding) :
    (concluded e a t first).undated = (concluded e b u second).undated := by
  obtain ⟨execution, duration, rows, queryId, failure, measurements⟩ := (a.undated_alike b).mp alike
  rw [concluded, concluded, same]
  rw [ExecutionResult.duration, ExecutionResult.duration] at duration
  split
  · simp [ExecutionResult.undated, ExecutionResult.duration, judged, execution, duration, rows, queryId,
      failure]
  · simp [ExecutionResult.undated, ExecutionResult.duration, judged, ExecutionResult.fail, execution,
      duration, rows, queryId, failure, measurements]
  · simp [ExecutionResult.undated, ExecutionResult.duration, crashedResult, Moment.spanTo]

theorem verdict_undated (timeless : script.Timeless) (d : Span) (e : Execution) (standing : Standing)
    (t : Moment) :
    (script.verdict e (standing.delayed d, d + t)).map ExecutionResult.undated =
      (script.verdict e (standing, t)).map ExecutionResult.undated := by
  cases standing with
  | finished r =>
      have alike := r.undated_delayed d
      exact congrArg some (concluded_undated alike e _ _ (answer_undated timeless alike []))
  | crashed panic => simp [Standing.delayed, Script.verdict, crashedResult, ExecutionResult.undated,
      ExecutionResult.duration, Moment.spanTo]
  | _ => rfl

theorem forecast_undated (timeless : script.Timeless) (services : Services σ) (e : Execution)
    (t : Moment) :
    (forecast script services e t).1.map ExecutionResult.undated =
      (forecast script services e 0).1.map ExecutionResult.undated := by
  have later := outlook_delayed script t (tasks services e) (.start e) 0
  rw [start_delayed, Nat.add_zero] at later
  simp only [forecast]
  rw [later, verdict_undated timeless]

theorem greedy_undated (timeless : script.Timeless) (services : Services σ) {slots : List Moment}
    (filled : slots ≠ []) (queue : List (Nat × Execution)) :
    (greedy (forecast script services) slots queue).map
        (fun f => (f.1, f.2.map ExecutionResult.undated)) =
      queue.map fun x => (x.1, (forecast script services x.2 0).1.map ExecutionResult.undated) := by
  induction queue generalizing slots with
  | nil => rfl
  | cons x rest ih =>
      rw [greedy]
      split
      · rename_i empty
        exact absurd (List.min?_eq_none_iff.mp empty) filled
      · rename_i t least
        rw [List.map_cons, List.map_cons, ih (by simp), forecast_undated timeless services x.2 t]

theorem schedule_undated (timeless : script.Timeless) (p : Pool σ) (executions : List Execution)
    (t : Moment) :
    (p.schedule script executions t).map (fun f => (f.1, f.2.map ExecutionResult.undated)) =
      (executions.zipIdx.map fun x => (x.2, x.1)).map fun x =>
        (x.1, (forecast script p.services x.2 0).1.map ExecutionResult.undated) := by
  have filled : List.replicate p.permits t ≠ [] := by
    rw [Ne, List.replicate_eq_nil_iff]
    exact Nat.ne_of_gt (permits_positive p)
  exact greedy_undated timeless p.services filled _

end Forecast

section Outcomes

variable {σ : Type} {p : Pool σ} {script : Script} {executions : List Execution} {c : Course σ}

def State.outcomes (s : State σ) : List (Nat × Option ExecutionResult) :=
  s.fates.map fun f => (f.1, f.2.result?.map ExecutionResult.undated)

theorem mem_outcomes {s : State σ} {place : Nat} {r : ExecutionResult}
    (told : (place, Fate.finished r) ∈ s.fates) : (place, some r.undated) ∈ s.outcomes :=
  List.mem_map.mpr ⟨_, told, rfl⟩

theorem results_outcomes (s : State σ) :
    (s.results.map ExecutionResult.undated).Perm (s.outcomes.filterMap Prod.snd) := by
  have same : s.outcomes.filterMap Prod.snd =
      (s.fates.filterMap fun f => f.2.result?).map ExecutionResult.undated := by
    rw [State.outcomes, List.filterMap_map, List.map_filterMap]
    rfl
  rw [same]
  exact (results_perm s).map _

theorem unhindered_outcomes (governs : script.Governs p.services) (timeless : script.Timeless)
    (records : p.recordsCrashes = true) (still : c.tick = 0) :
    (p.unhindered.run executions (unasked c)).outcomes.Perm
      ((executions.zipIdx.map fun x => (x.2, x.1)).map fun x =>
        (x.1, (forecast script p.services x.2 0).1.map ExecutionResult.undated)) := by
  have whole := unhindered_runs_schedule governs records executions c still
  have told := whole.map fun f => (f.1, f.2.map ExecutionResult.undated)
  rw [done_forecasts (run_done p.unhindered executions (unasked c)),
    unhindered_skips_nobody records executions c, List.map_map, schedule_undated timeless] at told
  exact told

theorem outcomes_unique {s : State σ} (complete : (s.fates.map Prod.fst).Perm (List.range executions.length))
    {place : Nat} {a b : Option ExecutionResult} (one : (place, a) ∈ s.outcomes)
    (other : (place, b) ∈ s.outcomes) : a = b := by
  have places : (s.outcomes.map Prod.fst).Nodup := by
    have same : s.outcomes.map Prod.fst = s.fates.map Prod.fst := by
      rw [State.outcomes, List.map_map]
      rfl
    rw [same]
    exact complete.nodup_iff.mpr List.nodup_range
  exact congrArg Prod.snd (List.inj_on_of_nodup_map places one other rfl)

theorem results_ordered (s : State σ) : s.results.Pairwise Numbered := by
  rw [results_by_number]
  exact by_number_sorted _

theorem ascending_alike {first second : List ExecutionResult}
    (same : (first.map ExecutionResult.undated).Perm (second.map ExecutionResult.undated))
    (firstAscends : first.Pairwise fun a b => a.execution.number < b.execution.number)
    (secondAscends : second.Pairwise fun a b => a.execution.number < b.execution.number) :
    first.map ExecutionResult.undated = second.map ExecutionResult.undated := by
  have ordered : ∀ results : List ExecutionResult,
      (results.Pairwise fun a b => a.execution.number < b.execution.number) →
        (results.map ExecutionResult.undated).Pairwise fun a b => a.execution.number < b.execution.number :=
    fun results ascends => List.pairwise_map.mpr ascends
  exact same.eq_of_pairwise (fun a b _ _ less more => absurd more (Nat.lt_asymm less))
    (ordered first firstAscends) (ordered second secondAscends)

end Outcomes

/-- Whatever the number of permits, each execution has the result that it has when they all run one
after the other, but for when it was. -/
theorem concurrency_keeps_outcomes {σ : Type} (p : Pool σ) (script : Script)
    (executions : List Execution) (c : Course σ) (governs : script.Governs p.services)
    (timeless : script.Timeless) (records : p.recordsCrashes = true) (still : c.tick = 0) :
    let together := p.unhindered.run executions (unasked c)
    let alone := { p with concurrency := 1 }.unhindered.run executions (unasked c)
    (∀ place < executions.length, ∃ r, (place, Fate.finished r) ∈ together.fates) ∧
    (∀ place a b, (place, Fate.finished a) ∈ together.fates → (place, Fate.finished b) ∈ alone.fates →
      a.execution = b.execution ∧ a.duration = b.duration ∧ a.rows = b.rows ∧ a.queryId = b.queryId ∧
        a.failure = b.failure ∧ a.measurements = b.measurements) ∧
    (together.results.map fun r => r.execution.number) = (alone.results.map fun r => r.execution.number) ∧
    (together.results.map ExecutionResult.undated).Perm (alone.results.map ExecutionResult.undated) ∧
    ((executions.map Execution.number).Nodup →
      together.results.map ExecutionResult.undated = alone.results.map ExecutionResult.undated) := by
  intro together alone
  let single : Pool σ := { p with concurrency := 1 }
  have reachedTogether := (run_reached p.unhindered executions (unasked c)).1
  have reachedAlone := (run_reached single.unhindered executions (unasked c)).1
  have completeTogether := fates_complete reachedTogether (run_done p.unhindered executions (unasked c))
  have completeAlone := fates_complete reachedAlone (run_done single.unhindered executions (unasked c))
  have outcomes : together.outcomes.Perm alone.outcomes :=
    (unhindered_outcomes governs timeless records still).trans
      (unhindered_outcomes (p := single) governs timeless records still).symm
  have results : (together.results.map ExecutionResult.undated).Perm
      (alone.results.map ExecutionResult.undated) :=
    ((results_outcomes together).trans (outcomes.filterMap _)).trans (results_outcomes alone).symm
  refine ⟨fun place inside => unhindered_reports p records executions c inside, ?_, ?_, results, ?_⟩
  · intro place a b toldTogether toldAlone
    have there := outcomes.mem_iff.mp (mem_outcomes toldTogether)
    have same := outcomes_unique completeAlone there (mem_outcomes toldAlone)
    exact (a.undated_alike b).mp (Option.some.inj same)
  · have numbers := results.map fun r => r.execution.number
    rw [List.map_map, List.map_map] at numbers
    exact numbers.eq_of_pairwise (fun a b _ _ => Nat.le_antisymm)
      (List.pairwise_map.mpr (results_ordered together)) (List.pairwise_map.mpr (results_ordered alone))
  · intro distinct
    apply ascending_alike results
    · exact results_ascend (reached_orderly reachedTogether) distinct completeTogether
    · exact results_ascend (reached_orderly reachedAlone) distinct completeAlone

theorem paced_keeps_outcomes :
    pacedScript.Governs pacedByPatience.services ∧ pacedScript.Timeless ∧
      pacedByPatience.recordsCrashes = true ∧ pacedStop.tick = 0 ∧ ((pacedRun 2 0 1).map Execution.number).Nodup ∧
      (pacedByPatience.unhindered.run (pacedRun 2 0 1) (unasked pacedStop)).results.map
          ExecutionResult.undated =
        ({ pacedByPatience with concurrency := 1 }.unhindered.run (pacedRun 2 0 1)
          (unasked pacedStop)).results.map ExecutionResult.undated ∧
      (pacedByPatience.unhindered.run (pacedRun 2 0 1) (unasked pacedStop)).results.map
          (fun r => (r.start, r.duration)) = [(0, 3), (3, 3), (0, 10)] := by
  have timeless : pacedScript.Timeless := by simp [Script.Timeless, pacedScript]
  have distinct : ((pacedRun 2 0 1).map Execution.number).Nodup := by decide
  obtain ⟨-, -, -, -, same⟩ := concurrency_keeps_outcomes pacedByPatience pacedScript (pacedRun 2 0 1)
    pacedStop paced_governed timeless rfl rfl
  exact ⟨paced_governed, timeless, rfl, rfl, distinct, same distinct, by decide +kernel⟩

def early : Provider Nat := fun subject asked =>
  match subject with
  | .execution r =>
    (.instant (if r.start = 0 then .error (.illegal (.other "too early")) else .ok []), asked)
  | .benchmark _ => (.instant (.ok []), asked)

-- Results of one number go by when they were done. A provider that counts sees who comes between,
-- and one may look at the clock.
theorem concurrency_shows :
    (∀ collector call asked others,
      ((paced collector).services.take call asked).1 = ((paced collector).services.take call others).1) ∧
    (((paced []).unhindered.run (pacedRun 0 0 0) (unasked pacedStop)).results.map
        ExecutionResult.undated ≠
      ({ paced [] with concurrency := 1 }.unhindered.run (pacedRun 0 0 0)
        (unasked pacedStop)).results.map ExecutionResult.undated) ∧
    (((paced [(.required, counting)]).unhindered.run (pacedRun 0 1 2) (unasked pacedStop)).results.map
        ExecutionResult.undated ≠
      ({ paced [(.required, counting)] with concurrency := 1 }.unhindered.run (pacedRun 0 1 2)
        (unasked pacedStop)).results.map ExecutionResult.undated) ∧
    ((paced [(.required, early)]).unhindered.run (pacedRun 0 1 2) (unasked pacedStop)).results.map
        ExecutionResult.undated ≠
      ({ paced [(.required, early)] with concurrency := 1 }.unhindered.run (pacedRun 0 1 2)
        (unasked pacedStop)).results.map ExecutionResult.undated := by
  refine ⟨?_, fun same => ?_, fun same => ?_, fun same => ?_⟩
  · intro collector call asked others
    cases call <;> rfl
  · have spans := congrArg (List.map ExecutionResult.finish) same
    revert spans
    decide +kernel
  · have successes := congrArg (List.map ExecutionResult.isSuccessful) same
    revert successes
    decide +kernel
  · have successes := congrArg (List.map ExecutionResult.isSuccessful) same
    revert successes
    decide +kernel

end Pool

end SqlBench
