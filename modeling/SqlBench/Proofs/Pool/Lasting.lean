import SqlBench.Proofs.Pool.Step

set_option autoImplicit false

namespace SqlBench.Pool

variable {σ : Type}

structure Lasting (services : Services σ) (R : Course σ → Course σ → Prop)
    (P : Course σ → Promise → Prop) : Prop extends Kept services R P where
  advances : ∀ c t, R c (c.advanceTo t)
  starts : ∀ c e, R c (c.post (.executionStarted e))
  finishes : ∀ c r, R c (c.post (.executionFinished r))
  asks : ∀ x ∈ services.collector, ∀ (c : Course σ) subject,
    R c { c with world := (x.2 subject c.world).2 }

def Wait.Promised (P : Course σ → Promise → Prop) (c : Course σ) : Wait → Prop
  | .call nap => P c nap.promise
  | .answer .. => True

-- So far it has lasted, and whoever sleeps was promised no more than that it goes on so.
structure State.Lasts (R : Course σ → Course σ → Prop) (P : Course σ → Promise → Prop) (c : Course σ)
    (s : State σ) : Prop where
  course : R c s.course
  asleep : ∀ x ∈ s.running, x.wait.Promised P s.course

section Lasting

variable {p : Pool σ} {R : Course σ → Course σ → Prop} {P : Course σ → Promise → Prop}
  {c : Course σ} {s : State σ}

theorem post_kept {event : Event} (posts : ∀ c : Course σ, R c (c.post event))
    (lasting : Lasting p.services R P) (c : Course σ) : R c (p.post event c) := by
  rw [post]
  split
  · exact lasting.refl c
  · exact posts c

theorem go_on_kept (lasting : Lasting p.services R P) (subject : Subject) (asked : Nat)
    (heard : Finding) (c : Course σ) :
    R c { c with world := (p.services.collector.goOn subject asked heard c.world).2 } :=
  Collector.go_on_asks (P := fun world => R c { c with world := world }) subject asked heard c.world
    (lasting.refl c) fun x member world holds =>
      lasting.trans holds (lasting.asks x member { c with world := world } subject)

theorem promised_later (lasting : Lasting p.services R P) {c later : Course σ} (onward : R c later)
    {wait : Wait} (promised : wait.Promised P c) : wait.Promised P later := by
  cases wait with
  | call nap => exact lasting.carries onward promised
  | answer => trivial

theorem lasts_later (lasting : Lasting p.services R P) (lasts : s.Lasts R P c) {later : State σ}
    (onward : R s.course later.course) (asleep : later.running ⊆ s.running) : later.Lasts R P c :=
  ⟨lasting.trans lasts.course onward,
    fun x member => promised_later lasting onward (lasts.asleep x (asleep member))⟩

theorem sleep_lasts (lasts : s.Lasts R P c) {wait : Wait} (promised : wait.Promised P s.course)
    (place : Nat) (e : Execution) (delay : Span) : (s.sleep place e delay wait).Lasts R P c := by
  refine ⟨lasts.course, fun x member => ?_⟩
  rcases List.mem_append.mp member with before | new
  · exact lasts.asleep x before
  · exact List.mem_singleton.mp new ▸ promised

theorem record_lasts (lasting : Lasting p.services R P) (lasts : s.Lasts R P c) (place : Nat)
    (r : ExecutionResult) : (p.record place r s).Lasts R P c := by
  have posted := post_kept (fun c => lasting.finishes c r) lasting s.course
  exact lasts_later lasting lasts posted (List.Subset.refl _)

theorem notice_lasts (lasting : Lasting p.services R P) (lasts : s.Lasts R P c)
    (held : Option Crash) : (p.notice held s).Lasts R P c := by
  cases held with
  | none => exact lasts
  | some x =>
      rw [notice_crashed]
      split
      · exact record_lasts lasting lasts x.place _
      · exact ⟨lasts.course, lasts.asleep⟩

theorem inquire_lasts (lasting : Lasting p.services R P) (lasts : s.Lasts R P c) (place : Nat)
    (e : Execution) (r : ExecutionResult) (asked : Nat) (heard : Finding) :
    (p.inquire place e r asked heard s).Lasts R P c := by
  have told := go_on_kept lasting (.execution r) asked heard s.course
  rw [inquire]
  generalize p.services.collector.goOn (.execution r) asked heard s.course.world = round at told
  obtain ⟨round, world⟩ := round
  have learnt : State.Lasts R P c { s with course := { s.course with world := world } } :=
    lasts_later lasting lasts told (List.Subset.refl _)
  dsimp only
  split
  · rename_i delay found later
    exact sleep_lasts learnt (show (Wait.answer r found later).Promised P _ from trivial) place e delay
  · exact record_lasts lasting learnt place _
  · exact record_lasts lasting learnt place _
  · exact ⟨learnt.course, learnt.asleep⟩

theorem follow_lasts (lasting : Lasting p.services R P) (lasts : s.Lasts R P c) {standing : Standing}
    (promised : ∀ nap, standing = .waiting nap → P s.course nap.promise) (place : Nat) (e : Execution) :
    (p.follow place e standing s).Lasts R P c := by
  cases standing with
  | waiting nap =>
      have own : (Wait.call nap).Promised P s.course := promised nap rfl
      exact sleep_lasts lasts own place e nap.promise.delay
  | finished r => exact inquire_lasts lasting lasts place e r 0 (.ok [])
  | dropped cause => exact ⟨lasts.course, lasts.asleep⟩
  | crashed panic => exact ⟨lasts.course, lasts.asleep⟩

theorem resume_lasts (lasting : Lasting p.services R P) (lasts : s.Lasts R P c) {x : Sleeper}
    (promised : x.wait.Promised P s.course) : (p.resume x s).Lasts R P c := by
  cases wait : x.wait with
  | call nap =>
      rw [wait] at promised
      obtain ⟨onward, promises⟩ := resume_kept lasting.toKept s.course promised
      have resumed : State.Lasts R P c { s with course := (nap.resume p.services s.course).2 } :=
        lasts_later lasting lasts onward (List.Subset.refl _)
      rw [resume_call p wait]
      exact follow_lasts lasting resumed promises x.place x.execution
  | answer r heard asked =>
      rw [resume_answer p wait]
      exact inquire_lasts lasting lasts x.place x.execution r asked heard

theorem step_lasts (lasting : Lasting p.services R P) (lasts : s.Lasts R P c) {later : State σ}
    (step : Step p s later) : later.Lasts R P c := by
  cases step with
  | @wake before after x t asleep =>
      have others : before ++ after ⊆ s.running := by
        intro y member
        rw [asleep]
        rcases List.mem_append.mp member with left | right
        · exact List.mem_append_left _ left
        · exact List.mem_append_right _ (List.mem_cons_of_mem _ right)
      have advanced := lasting.advances s.course t
      have woken : State.Lasts R P c
          { s with running := before ++ after, course := s.course.advanceTo t } :=
        lasts_later lasting lasts advanced others
      exact resume_lasts lasting woken
        (promised_later lasting advanced (lasts.asleep x (by rw [asleep]; simp)))
  | @enter x rest =>
      have posted := post_kept (fun c => lasting.starts c x.2) lasting s.course
      obtain ⟨onward, promises⟩ := work_kept lasting.toKept (tasks p.services x.2) (.start x.2)
        (p.post (.executionStarted x.2) s.course)
      have opened : State.Lasts R P c
          { s with queue := rest, crash := none, course := (p.opening x.2 s.course).2 } :=
        lasts_later lasting lasts (lasting.trans posted onward) (List.Subset.refl _)
      exact notice_lasts lasting (follow_lasts lasting opened promises x.1 x.2) s.crash
  | turnAway =>
      have skipped : (skip { s with crash := none } s.queue).Lasts R P c := ⟨lasts.course, lasts.asleep⟩
      exact notice_lasts lasting skipped s.crash
  | attend x =>
      have aside : State.Lasts R P c { s with crash := none } := ⟨lasts.course, lasts.asleep⟩
      exact notice_lasts lasting aside s.crash

theorem reached_lasts (lasting : Lasting p.services R P) {executions : List Execution}
    (reached : p.Reaches (.start executions c) s) : s.Lasts R P c := by
  refine reached_keeps (fun _ _ lasts step => step_lasts lasting lasts step) ?_ reached
  exact ⟨lasting.refl c, by simp [State.start]⟩

theorem run_kept (lasting : Lasting p.services R P) (executions : List Execution) (c : Course σ) :
    R c (p.run executions c).course :=
  (reached_lasts lasting (run_reached p executions c).1).course

end Lasting

theorem onward_lasting (services : Services σ) :
    Lasting services Course.Onward fun _ _ => True where
  refl := .refl
  trans := .trans
  reads c := c.silent_read_clock.toOnward
  closes c line := (c.silent_close line).toOnward
  takes c call := (c.silent_take services call).toOnward
  promised _ _ := trivial
  carries _ _ := trivial
  settles c call promise _ := (c.silent_settle call promise).toOnward
  advances c t := (c.silent_advance t).toOnward
  starts c e := c.onward_post (.executionStarted e)
  finishes c r := c.onward_post (.executionFinished r)
  asks _ _ c _ := (c.silent_world _).toOnward

end SqlBench.Pool
