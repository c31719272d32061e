import SqlBench.Proofs.Hook

set_option autoImplicit false

namespace SqlBench

variable {σ : Type}

inductive Course.Outcome.Ends : Course.Outcome → Except Halt Unit → Prop where
  | connected (line : Connection) : Ends (.connected line) (.ok ())
  | rows (count : Nat) (queryId : Option String) : Ends (.rows count queryId) (.ok ())
  | done : Ends .done (.ok ())
  | failed (cause : Failure) : Ends (.failed cause) (.error (.failed cause))
  | crashed (panic : String) : Ends (.crashed panic) (.error (.crashed panic))

namespace Hook

inductive Act where
  | called (call : Call) (outcome : Course.Outcome)
  | closed (line : Connection)

-- Acts one after the other, with nobody else there.
inductive Enacts (services : Services σ) : List Act → Course σ → Course σ → Prop where
  | rest (c : Course σ) : Enacts services [] c c
  | called {call : Call} {outcome : Course.Outcome} {acts : List Act} {c mid later : Course σ}
      (awaited : c.await services call = (outcome, mid)) (behind : Enacts services acts mid later) :
      Enacts services (.called call outcome :: acts) c later
  | closed {line : Connection} {acts : List Act} {c later : Course σ}
      (behind : Enacts services acts (c.close (some line)) later) :
      Enacts services (.closed line :: acts) c later

inductive Sends (line : Connection) : List String → List Act → Except Halt Unit → Prop where
  | none : Sends line [] [] (.ok ())
  | onward {statement : String} {rest : List String} {acts : List Act} {answer : Course.Outcome}
      {outcome : Except Halt Unit} (ends : answer.Ends (.ok ()))
      (behind : Sends line rest acts outcome) :
      Sends line (statement :: rest) (.called (.send line statement) answer :: acts) outcome
  | failed {statement : String} {rest : List String} {answer : Course.Outcome} {halt : Halt}
      (ends : answer.Ends (.error halt)) :
      Sends line (statement :: rest) [.called (.send line statement) answer] (.error halt)

structure Ready (services : Services σ) (b : Option Benchmark) (seen : Attributes) (name : String)
    (owner : Benchmark) (f : QueryFile) (statements : List String) : Prop where
  isQuery : isQueryName name = true
  owned : b = some owner
  loaded : services.queries.load name = .ok f
  renders : f.statements services.queries.environment seen = .ok statements

-- The source that is dialled for the statements of a file, if they do not go over the connection given.
inductive Routes (owner : Benchmark) (given : Option Connection) (f : QueryFile) : String → Prop where
  | property {source : String} (routed : f.property "datasource" = some source) :
      Routes owner given f source
  | benchmark (unrouted : f.property "datasource" = none) (alone : given = none) :
      Routes owner given f owner.dataSource

-- What a hook does and how it ends. Its own connection has a number that none has had before:
-- `opened` are taken already.
inductive Conduct (services : Services σ) (b : Option Benchmark) (seen : Attributes)
    (given : Option Connection) (opened : Nat) (name : String) :
    List Act → Except Halt Unit → Prop where
  | undefined (unknown : lookup services.hooks name = none) :
      Conduct services b seen given opened name [] (.error (.failed (.undefinedHook name)))
  | commandless {entry : Option String} (found : lookup services.hooks name = some (.shell entry))
      (blank : usable? entry = none) :
      Conduct services b seen given opened name [] (.error (.failed (.hookWithoutCommand name)))
  | commanded {entry : Option String} {command : String} {answer : Course.Outcome}
      {outcome : Except Halt Unit} (found : lookup services.hooks name = some (.shell entry))
      (usable : usable? entry = some command) (ends : answer.Ends outcome) :
      Conduct services b seen given opened name [.called (.shell name command seen) answer] outcome
  | unowned (isQuery : isQueryName name = true) (nobody : b = none) :
      Conduct services b seen given opened name []
        (.error (.failed (.invalid (.hookWithoutBenchmark name))))
  | unloaded {owner : Benchmark} {cause : Failure} (isQuery : isQueryName name = true)
      (owned : b = some owner) (missing : services.queries.load name = .error cause) :
      Conduct services b seen given opened name [] (.error (.failed cause))
  | unrendered {owner : Benchmark} {f : QueryFile} {cause : Failure} (isQuery : isQueryName name = true)
      (owned : b = some owner) (loaded : services.queries.load name = .ok f)
      (fails : f.statements services.queries.environment seen = .error cause) :
      Conduct services b seen given opened name [] (.error (.failed cause))
  | sent {owner : Benchmark} {f : QueryFile} {statements : List String} {line : Connection}
      {acts : List Act} {outcome : Except Halt Unit}
      (ready : Ready services b seen name owner f statements)
      (unrouted : f.property "datasource" = none) (connected : given = some line)
      (sends : Sends line statements acts outcome) :
      Conduct services b seen given opened name acts outcome
  | refused {owner : Benchmark} {f : QueryFile} {statements : List String} {source : String}
      {answer : Course.Outcome} {halt : Halt}
      (ready : Ready services b seen name owner f statements) (routes : Routes owner given f source)
      (ends : answer.Ends (.error halt)) :
      Conduct services b seen given opened name [.called (.connect source) answer] (.error halt)
  | dialled {owner : Benchmark} {f : QueryFile} {statements : List String} {own : Connection}
      {acts : List Act} {outcome : Except Halt Unit}
      (ready : Ready services b seen name owner f statements) (routes : Routes owner given f own.source)
      (fresh : opened ≤ own.number) (sends : Sends own statements acts outcome) :
      Conduct services b seen given opened name
        (.called (.connect own.source) (.connected own) :: acts ++ [.closed own]) outcome

structure Round where
  name : String
  acts : List Act
  outcome : Except Halt Unit

inductive UpToFailure : List String → List Round → Except Halt Unit → Prop where
  | done : UpToFailure [] [] (.ok ())
  | onward {name : String} {acts : List Act} {names : List String} {rounds : List Round}
      {outcome : Except Halt Unit} (behind : UpToFailure names rounds outcome) :
      UpToFailure (name :: names) (⟨name, acts, .ok ()⟩ :: rounds) outcome
  | failed {name : String} {acts : List Act} {names : List String} {halt : Halt} :
      UpToFailure (name :: names) [⟨name, acts, .error halt⟩] (.error halt)

section Acts

variable {services : Services σ} {acts others : List Act} {c mid later : Course σ}

theorem enacts_append (front : Enacts services acts c mid) (behind : Enacts services others mid later) :
    Enacts services (acts ++ others) c later := by
  induction front with
  | rest => exact behind
  | called awaited _ ih => exact .called awaited (ih behind)
  | closed _ ih => exact .closed (ih behind)

theorem enacts_call (services : Services σ) (call : Call) (c : Course σ) :
    Enacts services [.called call (c.await services call).1] c (c.await services call).2 :=
  .called rfl (.rest _)

theorem await_opened (c : Course σ) (services : Services σ) (call : Call) :
    c.opened ≤ (c.await services call).2.opened := by
  have taken : (c.take services call).2.opened = c.opened := by
    cases call <;> rfl
  rw [← taken, Course.await]
  cases call with
  | connect source =>
      simp only [Course.settle]
      split <;> simp_all [Course.advanceTo, Course.note]
  | _ =>
      simp only [Course.settle]
      split <;> simp_all [Course.advanceTo]

theorem enacts_opened (enacts : Enacts services acts c later) : c.opened ≤ later.opened := by
  induction enacts with
  | rest => exact Nat.le_refl _
  | @called call outcome acts c mid later awaited behind ih =>
      have more := await_opened c services call
      rw [awaited] at more
      exact Nat.le_trans more ih
  | closed behind ih => exact ih

theorem await_dialled (c : Course σ) (services : Services σ) (source : String) :
    (c.await services (.connect source)).1 = .connected ⟨c.opened, source⟩ ∨
      (∃ cause, (c.await services (.connect source)).1 = .failed cause) ∨
      ∃ panic, (c.await services (.connect source)).1 = .crashed panic := by
  have taken : (c.take services (.connect source)).2.opened = c.opened := rfl
  rw [← taken, Course.await]
  generalize c.take services (.connect source) = taken
  cases ending : taken.1.ending <;> simp [Course.settle, ending, Course.advanceTo]

theorem receive_ends (lines : Lines) (answer : Course.Outcome) :
    answer.Ends ((lines.receive answer).map fun _ => ()) := by
  cases answer <;> constructor

theorem sends_over {line other : Connection} {statements : List String} {statement : String}
    {answer : Course.Outcome} {outcome : Except Halt Unit}
    (sends : Sends line statements acts outcome) (member : .called (.send other statement) answer ∈ acts) : other = line := by
  induction sends with
  | none => cases member
  | onward ends behind ih =>
      rcases List.mem_cons.mp member with same | member
      · cases same
        rfl
      · exact ih member
  | failed ends =>
      cases List.mem_singleton.mp member
      rfl

end Acts

section Perform

variable (services : Services σ)

theorem statements_sent (lines : Lines) {line : Connection}
    (carried : (lines.own <|> lines.given) = some line) (statements : List String) (c : Course σ) :
    ∃ acts outcome mid, Enacts services acts c mid ∧ Sends line statements acts outcome ∧
      perform services (statements.map Step.send ++ [.hangUp]) lines c =
        (outcome, mid.close lines.own) := by
  induction statements generalizing c with
  | nil => exact ⟨[], .ok (), c, .rest c, .none, rfl⟩
  | cons statement rest ih =>
      have call := enacts_call services (.send line statement) c
      have ends := receive_ends lines (c.await services (.send line statement)).1
      simp only [List.map_cons, List.cons_append, perform, Step.call?, carried, Option.map_some]
      rcases lines_stay c services (.send line statement) (by simp) lines with same | ⟨cause, failed⟩
      · rw [same] at ends
        simp only [same]
        obtain ⟨acts, outcome, mid, behind, sends, performed⟩ :=
          ih (c.await services (.send line statement)).2
        exact ⟨_, outcome, mid, enacts_append call behind, .onward ends sends, performed⟩
      · rw [failed] at ends
        simp only [failed]
        exact ⟨_, .error cause, _, call, .failed ends, rfl⟩

theorem statements_sent_over (line : Connection) (statements : List String) (c : Course σ) :
    ∃ acts outcome later, Enacts services acts c later ∧ Sends line statements acts outcome ∧
      perform services (statements.map Step.send) ⟨some line, none⟩ c = (outcome, later) := by
  obtain ⟨acts, outcome, later, enacts, sends, performed⟩ :=
    statements_sent services ⟨some line, none⟩ rfl statements c
  refine ⟨acts, outcome, later, enacts, sends, ?_⟩
  rw [perform_sends] at performed
  cases sent : perform services (statements.map Step.send) ⟨some line, none⟩ c with
  | mk result last =>
      rw [sent] at performed
      cases result <;> exact performed

theorem source_dialled (given : Option Connection) (source : String) (statements : List String)
    (c : Course σ) :
    (∃ answer cause later, Enacts services [.called (.connect source) answer] c later ∧
      answer.Ends (.error cause) ∧
      perform services (.dial source :: statements.map Step.send ++ [.hangUp]) ⟨given, none⟩ c =
        (.error cause, later)) ∨
    ∃ own acts outcome later, own.source = source ∧ c.opened ≤ own.number ∧
      Enacts services (.called (.connect source) (.connected own) :: acts ++ [.closed own]) c later ∧
      Sends own statements acts outcome ∧
      perform services (.dial source :: statements.map Step.send ++ [.hangUp]) ⟨given, none⟩ c =
        (outcome, later) := by
  have call := enacts_call services (.connect source) c
  have ends := receive_ends ⟨given, none⟩ (c.await services (.connect source)).1
  simp only [List.cons_append, perform, Step.call?]
  cases received : Lines.receive ⟨given, none⟩ (c.await services (.connect source)).1 with
  | error cause =>
      rw [received] at ends
      exact .inl ⟨_, cause, _, call, ends, rfl⟩
  | ok lines =>
      rcases await_dialled c services source with connects | ⟨cause, fails⟩ | ⟨panic, crashes⟩
      · rw [connects] at received call
        cases received
        obtain ⟨acts, outcome, mid, behind, sends, performed⟩ :=
          statements_sent services ⟨given, some ⟨c.opened, source⟩⟩ rfl statements
            (c.await services (.connect source)).2
        exact .inr ⟨_, acts, outcome, _, rfl, Nat.le_refl _,
          enacts_append (enacts_append call behind) (.closed (.rest _)), sends, performed⟩
      · rw [fails] at received
        cases received
      · rw [crashes] at received
        cases received

theorem lookup_query {hooks : Dict (Option String)} {name file : String}
    (found : lookup hooks name = some (.query file)) : file = name ∧ isQueryName name = true := by
  rw [lookup] at found
  split at found
  · rename_i isQuery
    cases found
    exact ⟨rfl, isQuery⟩
  · obtain ⟨entry, -, named⟩ := Option.map_eq_some_iff.mp found
    cases named

theorem statements_cases (queries : QueryFolder) (seen : Attributes) (name : String) :
    (∃ cause, statements queries seen name = .error cause ∧ queries.load name = .error cause) ∨
    (∃ f cause, statements queries seen name = .error cause ∧ queries.load name = .ok f ∧
      f.statements queries.environment seen = .error cause) ∨
    ∃ f sends, statements queries seen name = .ok (f.property "datasource", sends) ∧
      queries.load name = .ok f ∧ f.statements queries.environment seen = .ok sends := by
  rw [statements]
  cases loaded : queries.load name with
  | error cause => exact .inl ⟨cause, rfl, rfl⟩
  | ok f =>
      cases renders : f.statements queries.environment seen with
      | error cause =>
          refine .inr (.inl ⟨f, cause, ?_, rfl, renders⟩)
          change (f.statements queries.environment seen >>= _) = _
          rw [renders]
          rfl
      | ok sends =>
          refine .inr (.inr ⟨f, sends, ?_, rfl, renders⟩)
          change (f.statements queries.environment seen >>= _) = _
          rw [renders]
          rfl

theorem command_run (name command : String) (seen : Attributes) (given : Option Connection) (c : Course σ) :
    perform services [.shell name command seen] ⟨given, none⟩ c =
      ((Lines.receive ⟨given, none⟩ (c.await services (.shell name command seen)).1).map fun _ => (),
        (c.await services (.shell name command seen)).2) := by
  simp only [perform, Step.call?]
  cases Lines.receive ⟨given, none⟩ (c.await services (.shell name command seen)).1 <;> rfl

theorem target_cases (owner : Benchmark) (given : Option Connection) (f : QueryFile) :
    (∃ line, given = some line ∧ f.property "datasource" = none ∧
      ((f.property "datasource").isNone && given.isSome) = true) ∨
    ∃ source, Routes owner given f source ∧ source = (f.property "datasource").getD owner.dataSource ∧
      ((f.property "datasource").isNone && given.isSome) = false := by
  cases routed : f.property "datasource" with
  | some source => exact .inr ⟨source, .property routed, rfl, rfl⟩
  | none =>
      cases given with
      | none => exact .inr ⟨owner.dataSource, .benchmark routed rfl, rfl, rfl⟩
      | some line => exact .inl ⟨line, rfl, rfl, rfl⟩

theorem hook_conducted (b : Option Benchmark) (seen : Attributes) (given : Option Connection)
    (name : String) (c : Course σ) :
    ∃ acts, Enacts services acts c (runWith services b seen given name c).2 ∧
      Conduct services b seen given c.opened name acts (runWith services b seen given name c).1 := by
  rw [runWith, steps]
  split
  · rename_i unknown
    exact ⟨[], .rest c, .undefined unknown⟩
  · rename_i entry found
    split
    · rename_i blank
      exact ⟨[], .rest c, .commandless found blank⟩
    · rename_i command usable
      rw [command_run]
      exact ⟨_, enacts_call services (.shell name command seen) c,
        .commanded found usable (receive_ends ⟨given, none⟩ _)⟩
  · rename_i file found
    obtain ⟨rfl, isQuery⟩ := lookup_query found
    rw [querySteps]
    split
    · rename_i nobody
      exact ⟨[], .rest c, .unowned isQuery nobody⟩
    · rename_i owner owned
      rcases statements_cases services.queries seen file with
        ⟨cause, gives, missing⟩ | ⟨f, cause, gives, loaded, fails⟩ | ⟨f, sends, gives, loaded, renders⟩
      · rw [gives]
        exact ⟨[], .rest c, .unloaded isQuery owned missing⟩
      · rw [gives]
        exact ⟨[], .rest c, .unrendered isQuery owned loaded fails⟩
      · rw [gives]
        have ready : Ready services b seen file owner f sends := ⟨isQuery, owned, loaded, renders⟩
        rcases target_cases owner given f with ⟨line, rfl, unrouted, here⟩ | ⟨source, routes, rfl, away⟩
        · obtain ⟨acts, outcome, later, enacts, sent, performed⟩ :=
            statements_sent_over services line sends c
          simp only [here, if_true, performed]
          exact ⟨acts, enacts, .sent ready unrouted rfl sent⟩
        · simp only [away, Bool.false_eq_true, if_false]
          rcases source_dialled services given ((f.property "datasource").getD owner.dataSource) sends c with
            ⟨answer, cause, later, enacts, ends, performed⟩ |
              ⟨own, acts, outcome, later, same, fresh, enacts, sent, performed⟩
          · rw [performed]
            exact ⟨_, enacts, .refused ready routes ends⟩
          · rw [performed]
            rw [← same] at routes enacts
            exact ⟨_, enacts, .dialled ready routes fresh sent⟩

theorem run_all_turn (b : Option Benchmark) (given : Option Connection) (name : String)
    (names : List String) (c : Course σ) : runAll services b given (name :: names) c =
      Course.andThen (runWith services b (Setting.around b).attributes given name c) fun _ c =>
        runAll services b given names c := by
  simp only [runAll, List.flatMap_cons]
  exact perform_hook services _ name _ given c

end Perform

theorem conduct_before {services : Services σ} {b : Option Benchmark} {seen : Attributes}
    {given : Option Connection} {opened earlier : Nat} {name : String} {acts : List Act}
    {outcome : Except Halt Unit} (conduct : Conduct services b seen given opened name acts outcome)
    (before : earlier ≤ opened) : Conduct services b seen given earlier name acts outcome := by
  cases conduct with
  | undefined unknown => exact .undefined unknown
  | commandless found blank => exact .commandless found blank
  | commanded found usable ends => exact .commanded found usable ends
  | unowned isQuery nobody => exact .unowned isQuery nobody
  | unloaded isQuery owned missing => exact .unloaded isQuery owned missing
  | unrendered isQuery owned loaded fails => exact .unrendered isQuery owned loaded fails
  | sent ready unrouted connected sends => exact .sent ready unrouted connected sends
  | refused ready routes ends => exact .refused ready routes ends
  | dialled ready routes fresh sends => exact .dialled ready routes (Nat.le_trans before fresh) sends

-- By induction on the hooks: each of them finds the connection given as the first has found it.
theorem rounds_conducted (services : Services σ) (b : Option Benchmark) (given : Option Connection)
    (names : List String) (c : Course σ) :
    ∃ rounds, UpToFailure names rounds (runAll services b given names c).1 ∧
      Enacts services (rounds.flatMap Round.acts) c (runAll services b given names c).2 ∧
      ∀ r ∈ rounds, Conduct services b (Setting.around b).attributes given c.opened r.name r.acts
        r.outcome := by
  induction names generalizing c with
  | nil => exact ⟨[], .done, .rest c, fun r member => by cases member⟩
  | cons name names ih =>
      obtain ⟨acts, enacts, conduct⟩ :=
        hook_conducted services b (Setting.around b).attributes given name c
      rw [run_all_turn]
      cases round : (runWith services b (Setting.around b).attributes given name c).1 with
      | error cause =>
          rw [Course.and_then_error round]
          rw [round] at conduct
          refine ⟨[⟨name, acts, .error cause⟩], .failed, ?_, fun r member => ?_⟩
          · simpa using enacts
          · cases List.mem_singleton.mp member
            exact conduct
      | ok =>
          rw [Course.and_then_ok round]
          rw [round] at conduct
          obtain ⟨rounds, inOrder, behind, conducts⟩ :=
            ih (runWith services b (Setting.around b).attributes given name c).2
          refine ⟨⟨name, acts, .ok ()⟩ :: rounds, .onward inOrder, enacts_append enacts behind, ?_⟩
          exact List.forall_mem_cons.mpr ⟨conduct, fun r member =>
            conduct_before (conducts r member) (enacts_opened enacts)⟩

def Round.Spares (services : Services σ) (given : Option Connection) (r : Round) : Prop :=
  ∀ line ∈ given, ∀ f source, services.queries.load r.name = .ok f →
    f.property "datasource" = some source →
    ∀ statement answer, Act.called (.send line statement) answer ∉ r.acts

theorem conduct_spares {services : Services σ} {b : Option Benchmark} {seen : Attributes}
    {given : Option Connection} {opened : Nat} {name : String} {acts : List Act}
    {outcome : Except Halt Unit} (conduct : Conduct services b seen given opened name acts outcome)
    (before : ∀ line ∈ given, line.number < opened) :
    Round.Spares services given ⟨name, acts, outcome⟩ := by
  intro line connected f source loaded routed statement answer member
  cases conduct with
  | undefined | commandless | unowned | unloaded | unrendered => cases member
  | commanded | refused => cases List.mem_singleton.mp member
  | sent ready unrouted connected sends =>
      cases ready.loaded.symm.trans loaded
      cases unrouted.symm.trans routed
  | dialled ready routes fresh sends =>
      rcases List.mem_cons.mp member with same | member
      · cases same
      · rcases List.mem_append.mp member with member | member
        · obtain rfl := sends_over sends member
          exact absurd (before line connected) (Nat.not_lt.mpr fresh)
        · cases List.mem_singleton.mp member

/-- Every hook up to the first that fails acts in its turn, and nothing else is done. -/
theorem hooks_conducted (services : Services σ) (b : Option Benchmark) (given : Option Connection)
    (names : List String) (c : Course σ) :
    ∃ rounds, UpToFailure names rounds (runAll services b given names c).1 ∧
      Enacts services (rounds.flatMap Round.acts) c (runAll services b given names c).2 ∧
      ∀ r ∈ rounds,
        Conduct services b (Setting.around b).attributes given c.opened r.name r.acts r.outcome ∧
        ((∀ line ∈ given, line.number < c.opened) → r.Spares services given) := by
  obtain ⟨rounds, inOrder, enacts, conducts⟩ := rounds_conducted services b given names c
  exact ⟨rounds, inOrder, enacts, fun r member =>
    ⟨conducts r member, conduct_spares (conducts r member)⟩⟩

def shop : Services Unit where
  take call _ :=
    match call with
    | .shell hook _ _ => (.instant (.failed (.hookExit hook 1)), ())
    | .connect _ => (.instant .done, ())
    | .send _ _ => (.instant (.rows 1 none), ())
  queries :=
    { files := .directory
        [("read.sql", .file "READ {{ size }}".toUTF8.toList),
          ("move.sql", .file "--! datasource: archive\nCOPY; DROP".toUTF8.toList)]
      dirs := ["."]
      environment := Dict.empty }
  hooks := Dict.ofList [("fail", some "exit 1")]
  collector := []

def shopper : Benchmark :=
  { Benchmark.named "shopper" "store" with parameters := Dict.ofList [("size", ["small", "large"])] }

def shopping : Course Unit :=
  { Course.start .never () with opened := 1 }

def shopping.hooks : List String :=
  ["move.sql", "read.sql", "fail", "read.sql"]

def shopping.line : Connection :=
  ⟨0, "store"⟩

def sentStatements (c : Course Unit) : List (Connection × String) :=
  c.journal.filterMap fun
    | (_, .sent line statement) => some (line, statement)
    | _ => none

def haltOf : Except Halt Unit → Option Halt
  | .ok _ => none
  | .error halt => some halt

theorem shop_hooks_conducted :
    (∀ line ∈ some shopping.line, line.number < shopping.opened) ∧
    haltOf (runAll shop (some shopper) (some shopping.line) shopping.hooks shopping).1 =
      some (.failed (.hookExit "fail" 1)) ∧
    sentStatements (runAll shop (some shopper) (some shopping.line) shopping.hooks shopping).2 =
      [(⟨1, "archive"⟩, "COPY"), (⟨1, "archive"⟩, "DROP"), (⟨0, "store"⟩, "READ small")] ∧
    ∃ rounds, UpToFailure shopping.hooks rounds
        (runAll shop (some shopper) (some shopping.line) shopping.hooks shopping).1 ∧
      ∀ r ∈ rounds, r.Spares shop (some shopping.line) := by
  have early : ∀ line ∈ some shopping.line, line.number < shopping.opened := by
    rintro line ⟨⟩
    decide
  obtain ⟨rounds, inOrder, -, conducts⟩ :=
    hooks_conducted shop (some shopper) (some shopping.line) shopping.hooks shopping
  exact ⟨early, by decide +kernel, by decide +kernel, rounds, inOrder,
    fun r member => (conducts r member).2 early⟩

end Hook

end SqlBench
