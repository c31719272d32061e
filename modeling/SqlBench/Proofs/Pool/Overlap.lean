import Mathlib.Algebra.BigOperators.Ring.Finset
import Mathlib.Algebra.Order.BigOperators.Group.Finset
import Mathlib.Order.Interval.Finset.Nat
import SqlBench.Proofs.Pool.Fate

set_option autoImplicit false

namespace SqlBench

-- Whether the timed part of an execution lies around a moment.
def ExecutionResult.covers (t : Moment) (r : ExecutionResult) : Bool :=
  r.start ≤ t && t < r.finish

section Durations

theorem duration_covered (r : ExecutionResult) {first last : Moment} (begins : first ≤ r.start)
    (ends : r.finish ≤ last) :
    r.duration = ∑ t ∈ Finset.Ico first last, (r.covers t).toNat := by
  have inside : (Finset.Ico first last).filter (fun t => r.covers t = true) =
      Finset.Ico r.start r.finish := by
    ext t
    simp only [ExecutionResult.covers, Finset.mem_filter, Finset.mem_Ico, Bool.and_eq_true,
      decide_eq_true_eq]
    refine ⟨fun both => both.2, fun around => ⟨⟨?_, ?_⟩, around⟩⟩
    · exact Nat.le_trans begins around.1
    · exact Nat.lt_of_lt_of_le around.2 ends
  calc r.duration = (Finset.Ico r.start r.finish).card := (Nat.card_Ico _ _).symm
    _ = ∑ t ∈ Finset.Ico first last, if r.covers t = true then 1 else 0 := by
        rw [← inside, Finset.card_filter]
    _ = ∑ t ∈ Finset.Ico first last, (r.covers t).toNat := by
        refine Finset.sum_congr rfl fun t _ => ?_
        cases r.covers t <;> rfl

theorem durations_covered (results : List ExecutionResult) {first last : Moment}
    (begins : ∀ r ∈ results, first ≤ r.start) (ends : ∀ r ∈ results, r.finish ≤ last) :
    (results.map ExecutionResult.duration).sum =
      ∑ t ∈ Finset.Ico first last, results.countP (ExecutionResult.covers t) := by
  induction results with
  | nil => simp
  | cons r rest ih =>
      have one := duration_covered r (begins r List.mem_cons_self) (ends r List.mem_cons_self)
      have others := ih (fun r member => begins r (List.mem_cons_of_mem _ member))
        (fun r member => ends r (List.mem_cons_of_mem _ member))
      rw [List.map_cons, List.sum_cons, one, others, ← Finset.sum_add_distrib]
      refine Finset.sum_congr rfl fun t _ => ?_
      rw [List.countP_cons, Nat.add_comm]
      cases r.covers t <;> rfl

theorem durations_bounded {results : List ExecutionResult} {permits : Nat} {first last : Moment}
    (overlap : ∀ t, results.countP (ExecutionResult.covers t) ≤ permits)
    (begins : ∀ r ∈ results, first ≤ r.start) (ends : ∀ r ∈ results, r.finish ≤ last) :
    (results.map ExecutionResult.duration).sum ≤ permits * (last - first) := by
  calc (results.map ExecutionResult.duration).sum
      = ∑ t ∈ Finset.Ico first last, results.countP (ExecutionResult.covers t) :=
        durations_covered results begins ends
    _ ≤ (Finset.Ico first last).card * permits :=
        Finset.sum_le_card_nsmul _ _ permits fun t _ => overlap t
    _ = permits * (last - first) := by
        rw [Nat.card_Ico, Nat.mul_comm]

theorem earliest_min (moments : List Moment) : BenchmarkResult.earliest? moments = moments.min? := by
  cases moments <;> rfl

theorem latest_max (moments : List Moment) : BenchmarkResult.latest? moments = moments.max? := by
  cases moments <;> rfl

theorem query_durations_bounded {permits : Nat} (r : BenchmarkResult)
    (overlap : ∀ t, r.executions.countP (ExecutionResult.covers t) ≤ permits) :
    (r.executions.map ExecutionResult.duration).sum ≤ permits * r.queryDuration.getD 0 := by
  rw [BenchmarkResult.queryDuration, earliest_min, latest_max]
  cases first : (r.executions.map ExecutionResult.start).min? with
  | none =>
      have nothing := List.map_eq_nil_iff.mp (List.min?_eq_none_iff.mp first)
      simp [nothing]
  | some first' =>
      cases last : (r.executions.map ExecutionResult.finish).max? with
      | none =>
          have nothing := List.map_eq_nil_iff.mp (List.max?_eq_none_iff.mp last)
          simp [nothing]
      | some last' =>
          have begins := (List.min?_eq_some_iff.mp first).2
          have ends := (List.max?_eq_some_iff.mp last).2
          exact durations_bounded overlap (fun e member => begins _ (List.mem_map_of_mem member))
            fun e member => ends _ (List.mem_map_of_mem member)

end Durations

namespace Pool

def Times.covers (t : Moment) : Times → Bool
  | (_, some (start, finish)) => start ≤ t && t < finish
  | (start, none) => start.any fun start => start ≤ t

def Times.Dated (now : Moment) (times : Times) : Prop :=
  ∀ start finish, times.2 = some (start, finish) → finish ≤ now

def Worker.covers (t : Moment) (w : Worker) : Bool :=
  w.times.covers t

def Worker.Dated (now : Moment) (w : Worker) : Prop :=
  w.times.Dated now

def Standing.covers (t : Moment) : Standing → Bool
  | .waiting nap => nap.worker.covers t
  | .finished r => r.covers t
  | _ => false

def Standing.Dated (now : Moment) : Standing → Prop
  | .waiting nap => nap.worker.Dated now
  | .finished r => r.finish ≤ now
  | _ => True

-- Whoever goes on from a moment covers nothing of what lies before it that was not covered.
structure Standing.Recalls (w : Worker) (before now : Moment) (standing : Standing) : Prop where
  covers : ∀ t < before, standing.covers t = true → w.covers t = true
  dated : standing.Dated now

theorem dated_later {w : Worker} {now later : Moment} (dated : w.Dated now) (onward : now ≤ later) :
    w.Dated later :=
  fun start finish ended => Nat.le_trans (dated start finish ended) onward

theorem recalls_since {standing : Standing} {w passed : Worker} {before between now : Moment}
    (recalls : standing.Recalls passed between now) (order : before ≤ between)
    (same : ∀ t < before, passed.covers t = w.covers t) : standing.Recalls w before now := by
  refine ⟨fun t past covered => ?_, recalls.dated⟩
  rw [← same t past]
  exact recalls.covers t (Nat.lt_of_lt_of_le past order) covered

variable {σ : Type}

theorem pass_covers {e : Execution} {task : Task} {rest : List Task} {w passed : Worker}
    {c : Course σ} (fits : Fits e (task :: rest) w) (dated : w.Dated c.now)
    (ok : (w.pass task c).1 = .ok passed) :
    (∀ t < c.now, passed.covers t = w.covers t) ∧ passed.Dated c.now := by
  have times := pass_times ok
  simp only [Worker.covers, Worker.Dated, times]
  cases task with
  | startTimer =>
      have fresh : w.times.1 = none := by
        simpa [Worker.times] using fits.inOrder.1
      refine ⟨fun t past => ?_, dated⟩
      have later : ¬ c.now ≤ t := Nat.not_le_of_lt past
      cases ran : w.times with
      | mk start ended =>
          rw [ran] at fresh
          cases ended <;> simp_all [Task.timed, Times.covers]
  | stopTimer =>
      obtain ⟨start, started⟩ := Option.isSome_iff_exists.mp fits.inOrder.1
      have unstopped : w.result = none := by
        simpa using fits.inOrder.2.1
      simp only [Worker.times, started, unstopped, Task.timed, Option.map_none, Option.map_some]
      refine ⟨fun t past => ?_, fun start finish ended => ?_⟩
      · simp [Times.covers, past]
      · cases ended
        exact Nat.le_refl c.now
  | _ => exact ⟨fun _ _ => rfl, dated⟩

theorem resume_recalls_if {services : Services σ} {e : Execution} {nap : Nap}
    (works : ∀ w (c : Course σ), Fits e nap.rest w → w.Dated c.now →
      (work services nap.rest w c).1.Recalls w c.now (work services nap.rest w c).2.now)
    (fits : nap.Fits e) (c : Course σ) (dated : nap.worker.Dated c.now) :
    (nap.resume services c).1.Recalls nap.worker c.now (nap.resume services c).2.now := by
  have kept := silent_kept services
  have onward := (c.silent_settle nap.call nap.promise).trans
    (receive_kept kept nap.worker nap.task (c.settle nap.call nap.promise).1
      (c.settle nap.call nap.promise).2)
  rcases resume_cases services nap c with ⟨w, c', receives, goes⟩ | ⟨panic, c', receives, goes⟩
  · have ok := congrArg Prod.fst receives
    have same := receive_times ok
    rw [receives] at onward
    rw [goes]
    have datedStill : w.Dated c'.now := by
      rw [Worker.Dated, same]
      exact dated_later dated onward.now
    refine recalls_since (works w c' (receive_fits fits.rest ok) datedStill) onward.now fun t _ => ?_
    rw [Worker.covers, same, Worker.covers]
  · rw [goes]
    exact ⟨by simp [Standing.covers], trivial⟩

theorem work_recalls (services : Services σ) (e : Execution) (todo : List Task) (w : Worker)
    (c : Course σ) (fits : Fits e todo w) (dated : w.Dated c.now) :
    (work services todo w c).1.Recalls w c.now (work services todo w c).2.now := by
  have kept := silent_kept services
  induction todo generalizing w c with
  | nil =>
      obtain ⟨r, ended⟩ := Option.isSome_iff_exists.mp fits.inOrder
      have onward := (close_all_kept kept w c).now
      simp only [work, ended]
      have times : w.times.2 = some (r.start, r.finish) := by
        rw [Worker.times, ended, Option.map_some]
      refine ⟨fun t _ covered => ?_, Nat.le_trans (dated _ _ times) onward⟩
      rw [Worker.covers, Worker.times, ended]
      exact covered
  | cons task rest ih =>
      have passing := pass_kept kept w task c
      rcases fitting_cases services fits c with
        ⟨passed, c', -, passes, fitsStill, goes⟩ | ⟨call, napFits, goes⟩
      · obtain ⟨same, datedStill⟩ := pass_covers fits dated (congrArg Prod.fst passes)
        rw [passes] at passing
        rw [goes]
        exact recalls_since (ih passed c' fitsStill (dated_later datedStill passing.now)) passing.now same
      · have taken := (c.silent_take services call).now
        have later : w.Dated (c.take services call).2.now := dated_later dated taken
        rw [goes]
        split
        · exact recalls_since (resume_recalls_if ih napFits _ later) taken fun _ _ => rfl
        · exact ⟨fun _ _ covered => covered, later⟩

theorem resume_recalls (services : Services σ) {e : Execution} {nap : Nap} (fits : nap.Fits e)
    (c : Course σ) (dated : nap.worker.Dated c.now) :
    (nap.resume services c).1.Recalls nap.worker c.now (nap.resume services c).2.now :=
  resume_recalls_if (work_recalls services e nap.rest) fits c dated

def Wait.covers (t : Moment) : Wait → Bool
  | .call nap => nap.worker.covers t
  | .answer r _ _ => r.covers t

def Wait.Dated (now : Moment) : Wait → Prop
  | .call nap => nap.worker.Dated now
  | .answer r _ _ => r.finish ≤ now

theorem wait_dated_later {wait : Wait} {now later : Moment} (dated : wait.Dated now)
    (onward : now ≤ later) : wait.Dated later := by
  cases wait with
  | call nap => exact dated_later dated onward
  | answer r heard asked => exact Nat.le_trans dated onward

theorem covering_holds {wait : Wait} {now t : Moment} (dated : wait.Dated now) (ahead : now ≤ t)
    (covers : wait.covers t = true) : wait.holdsPermit = true := by
  cases wait with
  | call nap => rfl
  | answer r heard asked =>
      simp only [Wait.covers, ExecutionResult.covers, Bool.and_eq_true, decide_eq_true_eq] at covers
      exact absurd covers.2 (Nat.not_lt_of_le (Nat.le_trans dated ahead))

def State.cover (s : State σ) (t : Moment) : Nat :=
  s.running.countP (fun x => x.wait.covers t) +
    s.fates.countP fun f => f.2.result?.any (ExecutionResult.covers t)

structure State.Dated (now : Moment) (s : State σ) : Prop where
  asleep : ∀ x ∈ s.running, x.wait.Dated now
  told : ∀ f ∈ s.fates, ∀ r, f.2.result? = some r → r.finish ≤ now

structure State.Bounded (p : Pool σ) (s : State σ) : Prop where
  room : s.permitsInUse ≤ p.permits
  dated : s.Dated s.course.now
  past : ∀ t < s.course.now, s.cover t ≤ p.permits

section Bounded

variable {p : Pool σ} {s : State σ}

theorem cover_conclude (s : State σ) (place : Nat) (fate : Fate) (t : Moment) :
    (s.conclude place fate).cover t =
      s.cover t + (fate.result?.any (ExecutionResult.covers t)).toNat := by
  simp only [State.cover, State.conclude, List.countP_append, List.countP_singleton, Nat.add_assoc]
  cases fate.result?.any (ExecutionResult.covers t) <;> rfl

theorem cover_sleep (s : State σ) (place : Nat) (e : Execution) (delay : Span) (wait : Wait)
    (t : Moment) : (s.sleep place e delay wait).cover t = s.cover t + (wait.covers t).toNat := by
  simp only [State.sleep, State.cover, List.countP_append, List.countP_singleton]
  cases wait.covers t with
  | false => rfl
  | true => exact Nat.add_right_comm _ _ _

theorem cover_record (p : Pool σ) (place : Nat) (r : ExecutionResult) (s : State σ) (t : Moment) :
    (p.record place r s).cover t = s.cover t + (r.covers t).toNat :=
  cover_conclude s place (.finished r) t

theorem cover_inquire (p : Pool σ) (place : Nat) (e : Execution) (r : ExecutionResult) (asked : Nat)
    (heard : Finding) (s : State σ) (t : Moment) :
    (p.inquire place e r asked heard s).cover t ≤ s.cover t + (r.covers t).toNat := by
  obtain ⟨world, inquires⟩ := inquire_cases p place e r asked heard s
  generalize p.inquire place e r asked heard s = later at inquires
  cases inquires with
  | waits delay found later => exact Nat.le_of_eq (cover_sleep _ place e delay (.answer r found later) t)
  | records answer =>
      obtain ⟨start, finish, -⟩ := judged_times r answer
      have same : (judged r answer).covers t = r.covers t := by
        rw [ExecutionResult.covers, start, finish, ExecutionResult.covers]
      rw [cover_record, same]
      exact Nat.le_refl _
  | breaks panic => exact Nat.le_add_right _ _

theorem cover_follow (p : Pool σ) (place : Nat) (e : Execution) (standing : Standing)
    (s : State σ) (t : Moment) :
    (p.follow place e standing s).cover t ≤ s.cover t + (standing.covers t).toNat := by
  cases standing with
  | waiting nap => exact Nat.le_of_eq (cover_sleep s place e nap.promise.delay (.call nap) t)
  | finished r => exact cover_inquire p place e r 0 (.ok []) s t
  | dropped cause => exact Nat.le_of_eq (cover_conclude s place (.dropped cause) t)
  | crashed panic => exact Nat.le_refl _

theorem cover_notice (p : Pool σ) (held : Option Crash) (s : State σ) (t : Moment) :
    (p.notice held s).cover t = s.cover t := by
  cases held with
  | none => rfl
  | some x =>
      have empty : (crashedResult x.execution x.panic s.course.now).covers t = false := by
        simp only [crashedResult, ExecutionResult.covers, Bool.and_eq_false_imp]
        exact fun begun => decide_eq_false (Nat.not_lt_of_le (of_decide_eq_true begun))
      rw [notice_crashed]
      split
      · rw [cover_record, empty]
        rfl
      · exact cover_conclude s x.place (.crashed x.panic) t

theorem conclude_dated {now : Moment} (dated : s.Dated now) (place : Nat) {fate : Fate}
    (ended : ∀ r, fate.result? = some r → r.finish ≤ now) : (s.conclude place fate).Dated now := by
  refine ⟨dated.asleep, fun f member r found => ?_⟩
  rcases List.mem_append.mp member with before | new
  · exact dated.told f before r found
  · rw [List.mem_singleton.mp new] at found
    exact ended r found

theorem record_dated {now : Moment} (dated : s.Dated now) (place : Nat) {r : ExecutionResult}
    (ended : r.finish ≤ now) : (p.record place r s).Dated now := by
  have concluded : (s.conclude place (.finished r)).Dated now := by
    refine conclude_dated dated place fun told found => ?_
    cases found
    exact ended
  exact ⟨concluded.asleep, concluded.told⟩

theorem sleep_dated {now : Moment} (dated : s.Dated now) (place : Nat) (e : Execution) (delay : Span)
    {wait : Wait} (own : wait.Dated now) : (s.sleep place e delay wait).Dated now := by
  refine ⟨fun x member => ?_, dated.told⟩
  rcases List.mem_append.mp member with before | new
  · exact dated.asleep x before
  · exact List.mem_singleton.mp new ▸ own

theorem inquire_dated {now : Moment} (dated : s.Dated now) (place : Nat) (e : Execution)
    {r : ExecutionResult} (ended : r.finish ≤ now) (asked : Nat) (heard : Finding) :
    (p.inquire place e r asked heard s).Dated now := by
  obtain ⟨world, inquires⟩ := inquire_cases p place e r asked heard s
  generalize p.inquire place e r asked heard s = later at inquires
  have learnt : State.Dated now { s with course := { s.course with world := world } } :=
    ⟨dated.asleep, dated.told⟩
  cases inquires with
  | waits delay found later =>
      have own : (Wait.answer r found later).Dated now := ended
      exact sleep_dated learnt place e delay own
  | records answer =>
      refine record_dated learnt place ?_
      rw [(judged_times r answer).2.1]
      exact ended
  | breaks panic => exact ⟨dated.asleep, dated.told⟩

theorem follow_dated {now : Moment} (dated : s.Dated now) {standing : Standing}
    (ended : standing.Dated now) (place : Nat) (e : Execution) :
    (p.follow place e standing s).Dated now := by
  cases standing with
  | waiting nap =>
      have own : (Wait.call nap).Dated now := ended
      exact sleep_dated dated place e nap.promise.delay own
  | finished r => exact inquire_dated dated place e ended 0 (.ok [])
  | dropped cause => exact conclude_dated dated place fun r found => nomatch found
  | crashed panic => exact ⟨dated.asleep, dated.told⟩

theorem notice_dated (dated : s.Dated s.course.now) (held : Option Crash) :
    (p.notice held s).Dated s.course.now := by
  cases held with
  | none => exact dated
  | some x =>
      rw [notice_crashed]
      split
      · exact record_dated dated x.place (Nat.le_refl _)
      · refine conclude_dated dated x.place fun r found => ?_
        cases found

theorem state_dated_later {now later : Moment} (dated : s.Dated now) (onward : now ≤ later) :
    s.Dated later :=
  ⟨fun x member => wait_dated_later (dated.asleep x member) onward,
    fun f member r found => Nat.le_trans (dated.told f member r found) onward⟩

theorem cover_ahead {now t : Moment} (dated : s.Dated now) (ahead : now ≤ t) :
    s.cover t ≤ s.permitsInUse := by
  have nobody : s.fates.countP (fun f => f.2.result?.any (ExecutionResult.covers t)) = 0 := by
    refine List.countP_eq_zero.mpr fun f member covered => ?_
    obtain ⟨r, found, around⟩ := (Option.any_eq_true _ _).mp covered
    simp only [ExecutionResult.covers, Bool.and_eq_true, decide_eq_true_eq] at around
    exact Nat.not_lt_of_le (Nat.le_trans (dated.told f member r found) ahead) around.2
  rw [State.cover, nobody]
  exact List.countP_mono_left fun x member => covering_holds (dated.asleep x member) ahead

theorem cover_bounded (bounded : s.Bounded p) (t : Moment) : s.cover t ≤ p.permits := by
  rcases Nat.lt_or_ge t s.course.now with past | ahead
  · exact bounded.past t past
  · exact Nat.le_trans (cover_ahead bounded.dated ahead) bounded.room

theorem follow_bounded {w : Worker} {before : Moment} {standing : Standing}
    (order : before ≤ s.course.now) (free : s.permitsInUse < p.permits) (dated : s.Dated before)
    (past : ∀ t < before, s.cover t + (w.covers t).toNat ≤ p.permits)
    (recalls : standing.Recalls w before s.course.now) (place : Nat) (e : Execution) :
    (p.follow place e standing s).Bounded p := by
  have now := (abreast_follow p place e standing s).1
  refine ⟨?_, ?_, fun t _ => ?_⟩
  · exact Nat.le_trans (follow_permits p place e standing s) free
  · rw [now]
    exact follow_dated (state_dated_later dated order) recalls.dated place e
  · refine Nat.le_trans (cover_follow p place e standing s t) ?_
    rcases Nat.lt_or_ge t before with earlier | later
    · have known := past t earlier
      have recalled := recalls.covers t earlier
      cases around : standing.covers t with
      | false =>
          rw [Bool.toNat_false]
          omega
      | true =>
          rw [recalled around] at known
          exact known
    · have others := cover_ahead dated later
      have one := Bool.toNat_le (standing.covers t)
      omega

theorem inquire_bounded {before : Moment} {r : ExecutionResult} (order : before ≤ s.course.now)
    (room : s.permitsInUse ≤ p.permits) (dated : s.Dated before) (ended : r.finish ≤ before)
    (past : ∀ t < before, s.cover t + (r.covers t).toNat ≤ p.permits) (place : Nat) (e : Execution)
    (asked : Nat) (heard : Finding) : (p.inquire place e r asked heard s).Bounded p := by
  have now := (abreast_inquire p place e r asked heard s).1
  refine ⟨?_, ?_, fun t _ => ?_⟩
  · rw [inquire_permits]
    exact room
  · rw [now]
    exact inquire_dated (state_dated_later dated order) place e (Nat.le_trans ended order) asked heard
  · refine Nat.le_trans (cover_inquire p place e r asked heard s t) ?_
    rcases Nat.lt_or_ge t before with earlier | later
    · exact past t earlier
    · have beyond : r.covers t = false :=
        Bool.eq_false_iff.mpr fun covers => Bool.false_ne_true
          (covering_holds (show (Wait.answer r heard asked).Dated before from ended) later covers)
      rw [beyond]
      exact Nat.le_trans (cover_ahead dated later) room

theorem notice_bounded (bounded : s.Bounded p) (held : Option Crash) :
    (p.notice held s).Bounded p := by
  have now := (abreast_notice p held s).1
  refine ⟨?_, ?_, fun t past => ?_⟩
  · rw [notice_permits]
    exact bounded.room
  · rw [now]
    exact notice_dated bounded.dated held
  · rw [now] at past
    rw [cover_notice]
    exact bounded.past t past

theorem wake_bounded {executions : List Execution} (orderly : s.Orderly p executions)
    (bounded : s.Bounded p) {before after : List Sleeper} {x : Sleeper}
    (asleep : s.running = before ++ x :: after) (t : Moment) :
    (p.wake x (before ++ after) t s).Bounded p := by
  have order : s.running.Perm (x :: (before ++ after)) := asleep ▸ List.perm_middle
  have member : x ∈ s.running := order.mem_iff.mpr List.mem_cons_self
  have arrived := (Course.silent_advance s.course t).now
  have own := bounded.dated.asleep x member
  have dated : State.Dated s.course.now { s with running := before ++ after } :=
    ⟨fun y there => bounded.dated.asleep y (order.mem_iff.mpr (List.mem_cons_of_mem x there)),
      bounded.dated.told⟩
  have room := bounded.room
  have past : ∀ u < s.course.now, State.cover { s with running := before ++ after } u +
      (x.wait.covers u).toNat ≤ p.permits := by
    intro u earlier
    have known := bounded.past u earlier
    rw [State.cover, order.countP_eq, List.countP_cons] at known
    simp only [State.cover]
    cases around : x.wait.covers u <;>
      · simp only [around, Bool.toNat_false, Bool.toNat_true, if_true, Bool.false_eq_true,
          if_false] at known ⊢
        omega
  rw [State.permitsInUse, order.countP_eq, List.countP_cons] at room
  rw [wake]
  cases wait : x.wait with
  | call nap =>
      have fits := (orderly.asleep x member).2
      rw [wait] at own fits past room
      have recalls := resume_recalls p.services fits (s.course.advanceTo t) (dated_later own arrived)
      have onward := (silent_resume_at p.services nap s.course t).now
      rw [resume_call p wait]
      exact follow_bounded (s := { s with running := before ++ after, course := _ }) onward room
        ⟨dated.asleep, dated.told⟩ past (recalls_since recalls arrived fun _ _ => rfl) x.place
        x.execution
  | answer r heard asked =>
      rw [wait] at own past room
      rw [resume_answer p wait]
      exact inquire_bounded (s := { s with running := before ++ after, course := s.course.advanceTo t })
        arrived room ⟨dated.asleep, dated.told⟩ own past x.place x.execution asked heard

theorem enter_bounded (bounded : s.Bounded p) (free : s.permitsInUse < p.permits)
    (x : Nat × Execution) (rest : List (Nat × Execution)) : (p.enter x rest s).Bounded p := by
  have onward := (onward_opening p x.2 s.course).now
  have posted := (abreast_post p (.executionStarted x.2) s.course).1
  have fresh : (Worker.start x.2).Dated (p.post (.executionStarted x.2) s.course).now :=
    fun start finish ended => nomatch ended
  have recalls := work_recalls p.services x.2 (tasks p.services x.2) (.start x.2) _
    (start_fits p.services x.2) fresh
  rw [posted] at recalls
  rw [enter, launch_opening]
  refine notice_bounded (follow_bounded (s := { s with queue := rest, crash := none, course := _ })
    onward free ⟨bounded.dated.asleep, bounded.dated.told⟩ ?_ recalls x.1 x.2) s.crash
  exact fun t past => bounded.past t past

theorem step_bounded {executions : List Execution} {later : State σ} (orderly : s.Orderly p executions)
    (bounded : s.Bounded p) (step : Step p s later) : later.Bounded p := by
  cases step with
  | wake x t asleep => exact wake_bounded orderly bounded asleep t
  | @enter x rest waiting goesOn free => exact enter_bounded bounded free x rest
  | turnAway =>
      have unheard : ∀ t, (s.queue.map fun x => (x.1, Fate.skipped)).countP
          (fun f => f.2.result?.any (ExecutionResult.covers t)) = 0 := by
        intro t
        rw [List.countP_map]
        exact List.countP_eq_zero.mpr (by simp [Fate.result?])
      refine notice_bounded (s := skip { s with crash := none } s.queue)
        ⟨bounded.room, ⟨bounded.dated.asleep, ?_⟩, ?_⟩ s.crash
      · intro f member r found
        rcases List.mem_append.mp member with before | new
        · exact bounded.dated.told f before r found
        · obtain ⟨x, -, rfl⟩ := List.mem_map.mp new
          cases found
      · intro t past
        simp only [State.cover, skip, List.countP_append, unheard, Nat.add_zero]
        exact bounded.past t past
  | attend =>
      exact notice_bounded (s := { s with crash := none })
        ⟨bounded.room, ⟨bounded.dated.asleep, bounded.dated.told⟩, bounded.past⟩ s.crash

theorem start_bounded (p : Pool σ) (executions : List Execution) (c : Course σ) :
    (State.start executions c).Bounded p :=
  ⟨Nat.zero_le _, ⟨by simp [State.start], by simp [State.start]⟩, by simp [State.start, State.cover]⟩

theorem reached_bounded {executions : List Execution} {c : Course σ}
    (reached : p.Reaches (.start executions c) s) : s.Bounded p := by
  induction reached with
  | refl => exact start_bounded p executions c
  | tail before step ih => exact step_bounded (reached_orderly before) ih step

theorem done_bounded (bounded : s.Bounded p) (t : Moment) :
    s.results.countP (ExecutionResult.covers t) ≤ p.permits := by
  have told : s.results.countP (ExecutionResult.covers t) =
      s.fates.countP fun f => f.2.result?.any (ExecutionResult.covers t) := by
    rw [(results_perm s).countP_eq, List.countP_filterMap]
    refine List.countP_congr fun f _ => ?_
    cases f.2.result? <;> rfl
  rw [told]
  exact Nat.le_trans (Nat.le_add_left _ _) (cover_bounded bounded t)

end Bounded

-- The others while an execution goes on with its permit, or begins.
inductive AtWork (p : Pool σ) (s : State σ) : List Sleeper → Prop where
  | woken {before after : List Sleeper} (x : Sleeper) (asleep : s.running = before ++ x :: after)
      (holds : x.wait.holdsPermit = true) : AtWork p s (before ++ after)
  | begun {x : Nat × Execution} {rest : List (Nat × Execution)} (waiting : s.queue = x :: rest)
      (goesOn : p.isStopped s = false) (free : s.permitsInUse < p.permits) : AtWork p s s.running

def holding (sleepers : List Sleeper) : Nat :=
  sleepers.countP fun x => x.wait.holdsPermit

theorem at_work_bounded {p : Pool σ} {s : State σ} (bounded : s.Bounded p) {others : List Sleeper}
    (working : AtWork p s others) : holding others + 1 ≤ p.permits := by
  cases working with
  | woken x asleep holds =>
      have room := bounded.room
      rw [State.permitsInUse, asleep, List.perm_middle.countP_eq, List.countP_cons, holds] at room
      exact room
  | begun _ _ free => exact free

structure Held (permits : Nat) (results : List ExecutionResult) : Prop where
  overlap : ∀ t, results.countP (fun r => r.start ≤ t && t < r.finish) ≤ permits
  total : ∀ r : BenchmarkResult, r.executions = results →
    (results.map ExecutionResult.duration).sum ≤ permits * r.queryDuration.getD 0

theorem bounded_held {p : Pool σ} {s : State σ} (bounded : s.Bounded p) :
    Held p.permits s.results := by
  refine ⟨done_bounded bounded, fun r own => ?_⟩
  rw [← own]
  refine query_durations_bounded r ?_
  rw [own]
  exact done_bounded bounded

/-- At no point of a run are more permits held than there are, and so its results are bounded. -/
theorem permits_bound_overlap (p : Pool σ) (executions : List Execution) (c : Course σ) :
    (∀ s, p.Reaches (.start executions c) s → s.permitsInUse ≤ max p.concurrency 1 ∧
      (∀ others, AtWork p s others → holding others + 1 ≤ max p.concurrency 1) ∧
      Held (max p.concurrency 1) s.results) ∧
      p.Reaches (.start executions c) (p.run executions c) ∧
      ∀ later, ¬ Step p (p.run executions c) later := by
  refine ⟨?_, (run_reached p executions c).1, done_is_stuck (run_done p executions c)⟩
  intro s reached
  have bounded := reached_bounded reached
  exact ⟨bounded.room, fun others => at_work_bounded bounded, bounded_held bounded⟩

def sharedPool : Pool Unit :=
  { fragilePool with concurrency := 2, stopOnFailure := false }

theorem shared_run_overlaps :
    Held 2 (sharedPool.run fragileRun (.start .never ())).results ∧
      (sharedPool.run fragileRun (.start .never ())).results.map
        (fun r : ExecutionResult => (r.execution.number, r.start, r.finish)) =
          [(0, 0, 1), (1, 1, 2), (2, 1, 1)] := by
  obtain ⟨holds, reached, -⟩ := permits_bound_overlap sharedPool fragileRun (.start .never ())
  exact ⟨(holds _ reached).2.2, by decide +kernel⟩

end Pool

end SqlBench
