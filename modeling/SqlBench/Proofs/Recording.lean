import Mathlib.Algebra.Ring.Nat
import Mathlib.Data.List.Induction
import SqlBench.Execution

set_option autoImplicit false

namespace SqlBench.Recording

inductive Step where
  | start
  | setRows (rows : Nat)
  | setQueryId (id : Option String)
  | fail (cause : Failure)
  | wait (span : Span)

namespace Step

def span : Step → Span
  | .wait span => span
  | _ => 0

def rows? : Step → Option Nat
  | .setRows rows => some rows
  | _ => none

def queryId? : Step → Option (Option String)
  | .setQueryId id => some id
  | _ => none

def cause? : Step → Option Failure
  | .fail cause => some cause
  | _ => none

end Step

def elapsed (steps : List Step) : Span :=
  (steps.map Step.span).sum

structure Watch where
  now : Moment
  recording : Recording

namespace Watch

-- What a step answers, and what it makes of the recording. A refused start makes nothing of it.
def take (w : Watch) : Step → Except Failure Unit × Watch
  | .start =>
    match w.recording.startTimer w.now with
    | .ok started => (.ok (), { w with recording := started })
    | .error refusal => (.error refusal, w)
  | .setRows rows => (.ok (), { w with recording := w.recording.setRows rows })
  | .setQueryId id => (.ok (), { w with recording := w.recording.setQueryId id })
  | .fail cause => (.ok (), { w with recording := w.recording.fail cause })
  | .wait span => (.ok (), { w with now := w.now + span })

def follow (w : Watch) (steps : List Step) : Watch :=
  steps.foldl (fun w step => (w.take step).2) w

def stop (w : Watch) : Except Failure ExecutionResult :=
  w.recording.stopTimer w.now

end Watch

def made (e : Execution) (created : Moment) (steps : List Step) : Watch :=
  (Watch.mk created (blank e)).follow steps

-- What is known of a recording behind the steps that made it.
structure Holds (e : Execution) (created : Moment) (steps : List Step) (w : Watch) : Prop where
  now : w.now = created + elapsed steps
  execution : w.recording.execution = e
  unstarted : .start ∉ steps → w.recording.start = none
  started : ∀ before behind, steps = before ++ .start :: behind → .start ∉ before →
    w.recording.start = some (created + elapsed before)
  rows : w.recording.rows = (steps.filterMap Step.rows?).getLast?.getD 0
  queryId : w.recording.queryId = (steps.filterMap Step.queryId?).getLast?.join
  failure : w.recording.failure = (steps.filterMap Step.cause?).head?

theorem take_now (w : Watch) (step : Step) : (w.take step).2.now = w.now + step.span := by
  cases step with
  | start =>
      simp only [Watch.take]
      split <;> rfl
  | _ => rfl

theorem start_accepted {w : Watch} (unstarted : w.recording.start = none) :
    w.take .start = (.ok (), { w with recording := { w.recording with start := some w.now } }) := by
  simp only [Watch.take, startTimer, unstarted]

theorem start_refused {w : Watch} {start : Moment} (started : w.recording.start = some start) :
    w.take .start = (.error (.illegal (.timerRunning w.recording.execution.label)), w) := by
  simp only [Watch.take, startTimer, started]

theorem start_keeps (w : Watch) :
    ∃ start, (w.take .start).2.recording = { w.recording with start := start } := by
  cases started : w.recording.start with
  | none => exact ⟨some w.now, by rw [start_accepted started]⟩
  | some start => exact ⟨w.recording.start, by rw [start_refused started]⟩

theorem take_execution (w : Watch) (step : Step) :
    (w.take step).2.recording.execution = w.recording.execution := by
  cases step with
  | start =>
      obtain ⟨start, same⟩ := start_keeps w
      rw [same]
  | _ => rfl

theorem take_started {w : Watch} {start : Moment} (started : w.recording.start = some start)
    (step : Step) : (w.take step).2.recording.start = some start := by
  cases step with
  | start => rw [start_refused started, started]
  | _ => exact started

theorem take_unstarted {w : Watch} (unstarted : w.recording.start = none) {step : Step}
    (other : step ≠ .start) : (w.take step).2.recording.start = none := by
  cases step with
  | start => exact absurd rfl other
  | _ => exact unstarted

theorem take_rows (w : Watch) (step : Step) :
    (w.take step).2.recording.rows = step.rows?.getD w.recording.rows := by
  cases step with
  | start =>
      obtain ⟨start, same⟩ := start_keeps w
      rw [same]
      rfl
  | _ => rfl

theorem take_query_id (w : Watch) (step : Step) :
    (w.take step).2.recording.queryId = step.queryId?.getD w.recording.queryId := by
  cases step with
  | start =>
      obtain ⟨start, same⟩ := start_keeps w
      rw [same]
      rfl
  | _ => rfl

theorem take_failure (w : Watch) (step : Step) :
    (w.take step).2.recording.failure = w.recording.failure.or step.cause? := by
  cases step with
  | start =>
      obtain ⟨start, same⟩ := start_keeps w
      rw [same]
      exact Option.or_none.symm
  | fail cause =>
      change some (w.recording.failure.getD cause) = w.recording.failure.or (some cause)
      cases w.recording.failure <;> rfl
  | _ => exact Option.or_none.symm

theorem elapsed_onward (steps : List Step) (step : Step) :
    elapsed (steps ++ [step]) = elapsed steps + step.span := by
  simp only [elapsed, List.map_append, List.map_cons, List.map_nil, List.sum_append, List.sum_singleton]

theorem last_onward {β : Type} (f : Step → Option β) (steps : List Step) (step : Step) :
    ((steps ++ [step]).filterMap f).getLast? = (f step).or (steps.filterMap f).getLast? := by
  cases set : f step <;> simp [List.filterMap_append, set]

theorem first_onward {β : Type} (f : Step → Option β) (steps : List Step) (step : Step) :
    ((steps ++ [step]).filterMap f).head? = (steps.filterMap f).head?.or (f step) := by
  cases set : f step <;> simp [List.filterMap_append, set]

theorem started_onward {e : Execution} {created : Moment} {steps : List Step} {w : Watch}
    (holds : Holds e created steps w) (step : Step) {before behind : List Step}
    (parts : steps ++ [step] = before ++ .start :: behind) (unstarted : .start ∉ before) :
    (w.take step).2.recording.start = some (created + elapsed before) := by
  rcases List.eq_nil_or_concat behind with rfl | ⟨earlier, last, rfl⟩
  · obtain ⟨rfl, same⟩ := List.append_inj' parts rfl
    obtain rfl : step = .start := (List.cons.inj same).1
    rw [start_accepted (holds.unstarted unstarted), holds.now]
  · have same : steps ++ [step] = (before ++ .start :: earlier) ++ [last] := by
      rw [parts, List.concat_eq_append, List.append_assoc, List.cons_append]
    exact take_started (holds.started before earlier (List.append_inj' same rfl).1 unstarted) step

theorem take_holds {e : Execution} {created : Moment} {steps : List Step} {w : Watch}
    (holds : Holds e created steps w) (step : Step) :
    Holds e created (steps ++ [step]) (w.take step).2 where
  now := by rw [take_now, holds.now, elapsed_onward, Nat.add_assoc]
  execution := (take_execution w step).trans holds.execution
  unstarted absent := by
    simp only [List.mem_append, List.mem_singleton, not_or] at absent
    exact take_unstarted (holds.unstarted absent.1) fun same => absent.2 same.symm
  started before behind parts unstarted := started_onward holds step parts unstarted
  rows := by
    rw [take_rows, holds.rows, last_onward]
    cases step.rows? <;> rfl
  queryId := by
    rw [take_query_id, holds.queryId, last_onward]
    cases step.queryId? <;> rfl
  failure := by rw [take_failure, holds.failure, first_onward]

-- By induction on the steps from their end: what holds before the last step tells what it does.
theorem made_holds (e : Execution) (created : Moment) (steps : List Step) :
    Holds e created steps (made e created steps) := by
  induction steps using List.reverseRecOn with
  | nil => exact ⟨rfl, rfl, fun _ => rfl, fun before _ parts _ => by simp at parts, rfl, rfl, rfl⟩
  | append_singleton steps step ih =>
      have onward : made e created (steps ++ [step]) = ((made e created steps).take step).2 := by
        simp only [made, Watch.follow, List.foldl_append, List.foldl_cons, List.foldl_nil]
      rw [onward]
      exact take_holds ih step

theorem no_cause_iff {steps : List Step} :
    (steps.filterMap Step.cause?).head? = none ↔ ∀ cause, .fail cause ∉ steps := by
  rw [List.head?_eq_none_iff, List.filterMap_eq_nil_iff]
  constructor
  · intro absent cause member
    cases absent (.fail cause) member
  · intro absent step member
    cases step with
    | fail cause => exact absurd member (absent cause)
    | _ => rfl

theorem elapsed_parts (before behind : List Step) :
    elapsed (before ++ .start :: behind) = elapsed before + elapsed behind := by
  simp only [elapsed, List.map_append, List.map_cons, List.sum_append, List.sum_cons, Step.span,
    Nat.zero_add]

theorem stop_refused {e : Execution} {created : Moment} {steps : List Step} {w : Watch}
    (holds : Holds e created steps w) (absent : .start ∉ steps) :
    w.stop = .error (.illegal (.timerNotStarted e.label)) := by
  simp only [Watch.stop, stopTimer, holds.unstarted absent, holds.execution]

theorem stop_accepted {e : Execution} {created : Moment} {steps before behind : List Step} {w : Watch}
    (holds : Holds e created steps w) (parts : steps = before ++ .start :: behind)
    (unstarted : .start ∉ before) :
    w.stop = .ok ⟨e, created + elapsed before, created + elapsed steps,
      (steps.filterMap Step.rows?).getLast?.getD 0, (steps.filterMap Step.queryId?).getLast?.join,
      (steps.filterMap Step.cause?).head?, []⟩ := by
  simp only [Watch.stop, stopTimer, holds.started before behind parts unstarted, holds.now,
    holds.execution, holds.rows, holds.queryId, holds.failure]

structure Told (e : Execution) (created : Moment) (steps : List Step) : Prop where
  ends : (∃ result, (made e created steps).stop = .ok result) ↔ .start ∈ steps
  unstarted : .start ∉ steps →
    (made e created steps).stop = .error (.illegal (.timerNotStarted e.label))
  again : .start ∈ steps → (made e created steps).take .start =
    (.error (.illegal (.timerRunning e.label)), made e created steps)
  started : ∀ before behind, steps = before ++ .start :: behind → .start ∉ before →
    ((made e created before).take .start).1 = .ok () ∧
    ∃ result, (made e created steps).stop = .ok result ∧
      result.execution = e ∧
      result.start = created + elapsed before ∧
      result.duration = elapsed behind ∧
      result.rows = (steps.filterMap Step.rows?).getLast?.getD 0 ∧
      result.queryId = (steps.filterMap Step.queryId?).getLast?.join ∧
      result.failure = (steps.filterMap Step.cause?).head? ∧
      (result.isSuccessful = true ↔ ∀ cause, .fail cause ∉ steps)
  failed : (made e created steps).recording.hasFailed = true ↔ ∃ cause, .fail cause ∈ steps

/-- What a recording tells at its end, for every order of its steps: the first start, the last rows and
query, the first cause. -/
theorem recording_told (e : Execution) (created : Moment) (steps : List Step) :
    Told e created steps where
  ends := by
    have holds := made_holds e created steps
    constructor
    · rintro ⟨result, stops⟩
      by_contra absent
      cases (stop_refused holds absent).symm.trans stops
    · intro member
      obtain ⟨before, behind, parts, unstarted⟩ := List.eq_append_cons_of_mem member
      exact ⟨_, stop_accepted holds parts unstarted⟩
  unstarted absent := stop_refused (made_holds e created steps) absent
  again member := by
    have holds := made_holds e created steps
    obtain ⟨before, behind, parts, unstarted⟩ := List.eq_append_cons_of_mem member
    rw [start_refused (holds.started before behind parts unstarted), holds.execution]
  started before behind parts unstarted := by
    have stops := stop_accepted (made_holds e created steps) parts unstarted
    refine ⟨?_, _, stops, rfl, rfl, ?_, rfl, rfl, rfl, ?_⟩
    · rw [start_accepted ((made_holds e created before).unstarted unstarted)]
    · change created + elapsed steps - (created + elapsed before) = elapsed behind
      rw [parts, elapsed_parts, ← Nat.add_assoc, Nat.add_sub_cancel_left]
    · rw [ExecutionResult.isSuccessful, Option.isNone_iff_eq_none, no_cause_iff]
  failed := by
    rw [hasFailed, (made_holds e created steps).failure, Option.isSome_iff_ne_none, Ne, no_cause_iff]
    simp only [not_forall, not_not]

example (e : Execution) (cause later : Failure) :
    (made e 5 [.fail cause, .wait 3, .start, .setRows 1, .wait 4, .start, .fail later,
      .setRows 7]).stop = .ok ⟨e, 8, 12, 7, none, some cause, []⟩ := rfl

end SqlBench.Recording
