import SqlBench.Course

set_option autoImplicit false

namespace SqlBench.Course

variable {σ : Type}

structure Onward (a b : Course σ) : Prop where
  now : a.now ≤ b.now
  made : a.stop.made = true → b.stop.made = true
  moment : b.stop.moment = a.stop.moment
  tick : b.tick = a.tick

structure Silent (a b : Course σ) : Prop extends Onward a b where
  events : b.events = a.events

theorem Onward.refl (c : Course σ) : Onward c c :=
  ⟨Nat.le_refl _, id, rfl, rfl⟩

theorem Onward.trans {a b c : Course σ} (early : Onward a b) (late : Onward b c) : Onward a c :=
  ⟨Nat.le_trans early.now late.now, fun made => late.made (early.made made),
    late.moment.trans early.moment, late.tick.trans early.tick⟩

theorem Silent.refl (c : Course σ) : Silent c c :=
  ⟨.refl c, rfl⟩

theorem Silent.trans {a b c : Course σ} (early : Silent a b) (late : Silent b c) : Silent a c :=
  ⟨early.toOnward.trans late.toOnward, late.events.trans early.events⟩

theorem stop_request_holds_later {r : StopRequest} {now later : Moment} (held : r.holds now = true)
    (after : now ≤ later) : r.holds later = true := by
  simp only [StopRequest.holds, Bool.or_eq_true, Option.any_eq_true, decide_eq_true_eq] at held ⊢
  rcases held with made | ⟨t, present, due⟩
  · exact .inl made
  · exact .inr ⟨t, present, Nat.le_trans due after⟩

theorem Onward.keeps_stop {a b : Course σ} (onward : Onward a b) (stopped : a.isStopped = true) :
    b.isStopped = true := by
  have later := stop_request_holds_later stopped onward.now
  simp only [isStopped, StopRequest.holds, Bool.or_eq_true, onward.moment] at later ⊢
  exact later.imp_left onward.made

theorem onward_note (c : Course σ) (entry : Entry) : Onward c (c.note entry) :=
  ⟨Nat.le_refl _, id, rfl, rfl⟩

theorem onward_post (c : Course σ) (event : Event) : Onward c (c.post event) :=
  onward_note c (.posted event)

theorem events_post (c : Course σ) (event : Event) :
    (c.post event).events = c.events ++ [(c.now, event)] := by
  simp [events, post, note]

theorem silent_note (c : Course σ) (entry : Entry) (quiet : ∀ event, entry ≠ .posted event) :
    Silent c (c.note entry) := by
  refine ⟨onward_note c entry, ?_⟩
  cases entry with
  | posted event => exact absurd rfl (quiet event)
  | _ => simp [events, note]

theorem silent_close (c : Course σ) (line : Option Connection) : Silent c (c.close line) := by
  cases line with
  | none => exact .refl c
  | some line => exact silent_note c (.closed line) (by simp)

theorem silent_advance (c : Course σ) (t : Moment) : Silent c (c.advanceTo t) :=
  ⟨⟨Nat.le_max_left _ _, id, rfl, rfl⟩, rfl⟩

theorem silent_read_clock (c : Course σ) : Silent c c.readClock.2 :=
  silent_advance c _

theorem silent_world (c : Course σ) (world : σ) : Silent c { c with world := world } :=
  ⟨⟨Nat.le_refl _, id, rfl, rfl⟩, rfl⟩

theorem silent_take (c : Course σ) (services : Services σ) (call : Call) :
    Silent c (c.take services call).2 := by
  cases call with
  | connect source => exact silent_world c _
  | send line statement =>
      exact (silent_note c (.sent line statement) (by simp)).trans (silent_world _ _)
  | shell hook command environment =>
      exact (silent_note c (.commanded hook) (by simp)).trans (silent_world _ _)

-- The two parts of `settle` that come before the journal entry.
def elapse (c : Course σ) (promise : Promise) : Course σ :=
  let c := c.advanceTo (c.now + promise.effort)
  { c with stop := ⟨c.stop.made || promise.requestsStop, c.stop.moment⟩ }

theorem silent_elapse (c : Course σ) (promise : Promise) : Silent c (c.elapse promise) :=
  ⟨⟨Nat.le_max_left _ _, fun made => by simp [elapse, advanceTo, made], rfl, rfl⟩, rfl⟩

theorem settle_course (c : Course σ) (call : Call) (promise : Promise) :
    (c.settle call promise).2 = c.elapse promise ∨
      ∃ opened entry, (∀ event, entry ≠ Entry.posted event) ∧
        (c.settle call promise).2 = ({ c.elapse promise with opened := opened }).note entry := by
  cases call with
  | connect source =>
      cases ending : promise.ending with
      | crashed panic => exact .inl (by simp only [settle, elapse, ending])
      | failed cause =>
          exact .inr ⟨c.opened, .refused source, by simp, by simp only [settle, elapse, ending]; rfl⟩
      | _ =>
          exact .inr ⟨c.opened + 1, .connected ⟨c.opened, source⟩, by simp, by
            simp only [settle, elapse, ending]; rfl⟩
  | _ => cases ending : promise.ending <;> exact .inl (by simp only [settle, elapse, ending])

theorem silent_settle (c : Course σ) (call : Call) (promise : Promise) :
    Silent c (c.settle call promise).2 := by
  rcases settle_course c call promise with same | ⟨opened, entry, quiet, same⟩
  · exact same ▸ silent_elapse c promise
  · rw [same]
    have opens : Silent (c.elapse promise) { c.elapse promise with opened := opened } :=
      ⟨⟨Nat.le_refl _, id, rfl, rfl⟩, rfl⟩
    exact ((silent_elapse c promise).trans opens).trans (silent_note _ entry quiet)

theorem collect_journal (c : Course σ) (subject : Subject) (collector : Collector σ)
    (heard : List Measurement) : (c.collect subject collector heard).2.journal = c.journal := by
  induction collector generalizing c heard with
  | nil => rfl
  | cons x rest ih =>
      rw [collect]
      dsimp only
      cases x.1.heed heard (x.2 subject c.world).1.finding with
      | ok found => exact ih _ found
      | error halt => rfl

section Then

variable {ε α β γ : Type} {done : Except ε α × Course σ}

theorem and_then_ok {a : α} (ok : done.1 = .ok a)
    (next : α → Course σ → Except ε β × Course σ) : andThen done next = next a done.2 := by
  obtain ⟨outcome, c⟩ := done
  cases ok
  rfl

theorem and_then_error {e : ε} (failed : done.1 = .error e)
    (next : α → Course σ → Except ε β × Course σ) : andThen done next = (.error e, done.2) := by
  obtain ⟨outcome, c⟩ := done
  cases failed
  rfl

theorem and_then_assoc (next : α → Course σ → Except ε β × Course σ)
    (last : β → Course σ → Except ε γ × Course σ) :
    andThen (andThen done next) last = andThen done fun a c => andThen (next a c) last := by
  obtain ⟨outcome, c⟩ := done
  cases outcome <;> rfl

theorem and_then_gives_iff {next : α → Course σ → Except ε β × Course σ} {b : β} {later : Course σ} :
    andThen done next = (.ok b, later) ↔
      ∃ a c, done = (.ok a, c) ∧ next a c = (.ok b, later) := by
  obtain ⟨outcome, c⟩ := done
  cases outcome with
  | error e => simp [andThen]
  | ok a =>
      constructor
      · exact fun gives => ⟨a, c, rfl, gives⟩
      · rintro ⟨a, c, same, gives⟩
        cases same
        exact gives

theorem and_then_stops_iff {next : α → Course σ → Except ε β × Course σ} {e : ε} {later : Course σ} :
    andThen done next = (.error e, later) ↔
      done = (.error e, later) ∨ ∃ a c, done = (.ok a, c) ∧ next a c = (.error e, later) := by
  obtain ⟨outcome, c⟩ := done
  cases outcome with
  | error e => simp [andThen]
  | ok a =>
      constructor
      · exact fun stops => .inr ⟨a, c, rfl, stops⟩
      · rintro (same | ⟨a, c, same, stops⟩)
        · cases same
        · cases same
          exact stops

theorem and_then_kept {R : Course σ → Course σ → Prop} {c : Course σ}
    {next : α → Course σ → Except ε β × Course σ} (trans : ∀ {a b c}, R a b → R b c → R a c)
    (early : R c done.2) (late : ∀ a, R done.2 (next a done.2).2) : R c (andThen done next).2 := by
  obtain ⟨outcome, later⟩ := done
  cases outcome with
  | error e => exact early
  | ok a => exact trans early (late a)

theorem and_then_stopped {R : Course σ → Course σ → Prop} {c later : Course σ} {e : ε}
    {next : α → Course σ → Except ε β × Course σ} (trans : ∀ {a b c}, R a b → R b c → R a c)
    (early : R c done.2) (late : ∀ a e later, next a done.2 = (.error e, later) → R done.2 later)
    (stops : andThen done next = (.error e, later)) : R c later := by
  rcases and_then_stops_iff.mp stops with rfl | ⟨a, mid, rfl, behind⟩
  · exact early
  · exact trans early (late a e later behind)

theorem shown_given (done : Except ε α × Course σ) (f : α → β) (seen : β)
    (shown : done.1.toOption.map f = some seen) : ∃ a later, done = (.ok a, later) ∧ f a = seen := by
  obtain ⟨outcome, later⟩ := done
  cases outcome with
  | error e => cases shown
  | ok a => exact ⟨a, later, rfl, Option.some.inj shown⟩

end Then

end SqlBench.Course
