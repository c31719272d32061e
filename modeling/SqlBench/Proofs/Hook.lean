import SqlBench.Proofs.Pool.Worker

set_option autoImplicit false

namespace SqlBench.Hook

variable {σ : Type}

section Kept

variable {services : Services σ} {R : Course σ → Course σ → Prop} {P : Course σ → Promise → Prop}

theorem await_kept (kept : Pool.Kept services R P) (advances : ∀ c t, R c (c.advanceTo t)) (call : Call)
    (c : Course σ) : R c (c.await services call).2 := by
  have taken := kept.takes c call
  have waited := advances (c.take services call).2
    ((c.take services call).2.now + (c.take services call).1.delay)
  have promised := kept.carries waited (kept.promised c call)
  exact kept.trans (kept.trans taken waited) (kept.settles _ call _ promised)

theorem perform_kept (kept : Pool.Kept services R P) (advances : ∀ c t, R c (c.advanceTo t))
    (steps : List Step) (lines : Lines) (c : Course σ) : R c (perform services steps lines c).2 := by
  induction steps generalizing lines c with
  | nil => exact kept.refl c
  | cons step rest ih =>
      cases step with
      | refuse cause => exact kept.closes c lines.own
      | hangUp => exact kept.trans (kept.closes c lines.own) (ih _ _)
      | _ =>
          simp only [perform]
          split
          · exact ih lines c
          · rename_i call calls
            have awaited := await_kept kept advances call c
            split
            · exact kept.trans awaited (ih _ _)
            · exact kept.trans awaited (kept.closes _ lines.own)

theorem run_all_kept (kept : Pool.Kept services R P) (advances : ∀ c t, R c (c.advanceTo t))
    (b : Option Benchmark) (line : Option Connection) (names : List String) (c : Course σ) :
    R c (runAll services b line names c).2 :=
  perform_kept kept advances _ _ c

end Kept

theorem lines_stay (c : Course σ) (services : Services σ) (call : Call)
    (other : ∀ source, call ≠ .connect source) (lines : Lines) :
    lines.receive (c.await services call).1 = .ok lines ∨
      ∃ halt, lines.receive (c.await services call).1 = .error halt := by
  cases call with
  | connect source => exact absurd rfl (other source)
  | _ =>
      simp only [Course.await, Course.settle]
      split <;> simp_all [Lines.receive]

theorem receive_given {lines received : Lines} {outcome : Course.Outcome}
    (ok : lines.receive outcome = .ok received) : received.given = lines.given := by
  cases outcome <;> cases ok <;> rfl

theorem perform_sends (services : Services σ) (sends : List String) (rest : List Step) (lines : Lines)
    (c : Course σ) : perform services (sends.map Step.send ++ rest) lines c =
      Course.andThen (perform services (sends.map Step.send) lines c) fun _ c =>
        perform services rest lines c := by
  induction sends generalizing c with
  | nil => rfl
  | cons statement sends ih =>
      simp only [List.map_cons, List.cons_append, perform, Step.call?]
      cases lines.own <|> lines.given with
      | none => exact ih c
      | some line =>
          simp only [Option.map_some]
          rcases lines_stay c services (.send line statement) (by simp) lines with same | ⟨cause, failed⟩
          · simp only [same]
            exact ih _
          · simp only [failed]
            rfl

theorem perform_dialled (services : Services σ) (source : String) (sends : List String)
    (rest : List Step) (given : Option Connection) (c : Course σ) :
    perform services (.dial source :: sends.map Step.send ++ [.hangUp] ++ rest) ⟨given, none⟩ c =
      Course.andThen (perform services (.dial source :: sends.map Step.send ++ [.hangUp]) ⟨given, none⟩ c)
        fun _ c => perform services rest ⟨given, none⟩ c := by
  simp only [List.cons_append, List.append_assoc, perform, Step.call?]
  cases dialled : Lines.receive ⟨given, none⟩ (c.await services (.connect source)).1 with
  | error cause => rfl
  | ok lines =>
      have same : lines.given = given := receive_given dialled
      simp only
      rw [perform_sends, perform_sends, Course.and_then_assoc]
      congr 1
      funext _ c
      simp only [List.nil_append, perform, same]
      rfl

theorem perform_hook (services : Services σ) (s : Setting) (name : String) (rest : List Step)
    (given : Option Connection) (c : Course σ) :
    perform services (steps services s name ++ rest) ⟨given, none⟩ c =
      Course.andThen (perform services (steps services s name) ⟨given, none⟩ c) fun _ c =>
        perform services rest ⟨given, none⟩ c := by
  rw [steps]
  split
  · rfl
  · split
    · rfl
    · simp only [List.cons_append, List.nil_append, perform, Step.call?]
      rename_i command usable
      rcases lines_stay c services (.shell name command s.attributes) (by simp) ⟨given, none⟩ with
        same | ⟨cause, failed⟩
      · simp only [same]
        rfl
      · simp only [failed]
        rfl
  · rw [querySteps]
    split
    · rfl
    · split
      · rfl
      · split
        · exact perform_sends services _ rest _ c
        · exact perform_dialled services _ _ rest given c

theorem run_all_cons (services : Services σ) (b : Option Benchmark) (name : String)
    (names : List String) (c : Course σ) : runAll services b none (name :: names) c =
      Course.andThen (runAll services b none [name] c) fun _ c => runAll services b none names c := by
  simp only [runAll, List.flatMap_cons, List.flatMap_nil, List.append_nil]
  exact perform_hook services _ name _ none c

theorem run_all_append (services : Services σ) (b : Option Benchmark) (first second : List String)
    (c : Course σ) : runAll services b none (first ++ second) c =
      Course.andThen (runAll services b none first c) fun _ c => runAll services b none second c := by
  induction first generalizing c with
  | nil => rfl
  | cons name names ih =>
      rw [List.cons_append, run_all_cons services b name (names ++ second),
        run_all_cons services b name names, Course.and_then_assoc]
      congr 1
      funext _ c
      exact ih c

theorem run_all_fails_iff (services : Services σ) (b : Option Benchmark) (names : List String)
    (c : Course σ) (halt : Halt) : (runAll services b none names c).1 = .error halt ↔
      ∃ before name after, names = before ++ name :: after ∧
        (runAll services b none before c).1 = .ok () ∧
        (runAll services b none [name] (runAll services b none before c).2).1 = .error halt := by
  constructor
  · intro failed
    induction names generalizing c with
    | nil => cases failed
    | cons name names ih =>
        rw [run_all_cons] at failed
        cases round : (runAll services b none [name] c).1 with
        | error early =>
            rw [Course.and_then_error round] at failed
            exact ⟨[], name, names, rfl, rfl, round.trans failed⟩
        | ok =>
            rw [Course.and_then_ok round] at failed
            obtain ⟨before, culprit, after, whole, fine, fails⟩ := ih _ failed
            refine ⟨name :: before, culprit, after, by rw [whole]; rfl, ?_⟩
            rw [run_all_cons, Course.and_then_ok round]
            exact ⟨fine, fails⟩
  · rintro ⟨before, name, after, rfl, fine, fails⟩
    rw [run_all_append, Course.and_then_ok fine, run_all_cons, Course.and_then_error fails]

end SqlBench.Hook
