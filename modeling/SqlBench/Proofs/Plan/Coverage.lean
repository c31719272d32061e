import SqlBench.Proofs.Plan.Size

set_option autoImplicit false

namespace SqlBench.Plan

structure Position where
  combination : Attributes
  run : Nat
  query : String

def Position.attributes (p : Position) : Attributes :=
  p.combination.insert "execution_sequence_id" (toString p.run)

def Position.seen (p : Position) (b : Benchmark) : Attributes :=
  b.identity.overrideWith p.attributes

theorem seen_get (p : Position) (b : Benchmark) (key : String) :
    (p.seen b).get? key = (p.attributes.get? key).or (b.identity.get? key) :=
  Dict.get_override b.identity p.attributes key

structure Entry (s : Source) (p : Position) (number : Nat) (e : Execution) : Prop where
  benchmark : e.benchmark = s.benchmark
  query : e.query = p.query
  number : e.number = number
  attributes : e.attributes = p.attributes
  statement : ∃ f, s.templates.get? p.query = some f ∧
    f.statements s.environment (p.seen s.benchmark) = .ok [e.statement]

-- The failure of a position whose query file does not give one statement.
inductive Faulty (s : Source) (p : Position) : Failure → Prop where
  | unrendered {f : QueryFile} {cause : Failure} (loaded : s.templates.get? p.query = some f)
      (fails : f.statements s.environment (p.seen s.benchmark) = .error cause) : Faulty s p cause
  | empty {f : QueryFile} (loaded : s.templates.get? p.query = some f)
      (nothing : f.statements s.environment (p.seen s.benchmark) = .ok []) :
      Faulty s p (.template f.path (p.seen s.benchmark) .noStatement)
  | several {f : QueryFile} {one another : String} {more : List String}
      (loaded : s.templates.get? p.query = some f)
      (statements : f.statements s.environment (p.seen s.benchmark) = .ok (one :: another :: more)) :
      Faulty s p (.template f.path (p.seen s.benchmark) .severalStatements)

def Position.execution (s : Source) (number : Nat) (p : Position) : Except Failure Execution :=
  Plan.execution s p.combination p.run number p.query

theorem execution_cases {s : Source} {p : Position} {f : QueryFile}
    (loaded : s.templates.get? p.query = some f) (number : Nat) :
    (∃ e, p.execution s number = .ok e ∧ Entry s p number e) ∨
      ∃ cause, p.execution s number = .error cause ∧ Faulty s p cause := by
  have same : context s.benchmark p.combination p.run = p.seen s.benchmark := rfl
  cases given : f.statements s.environment (p.seen s.benchmark) with
  | error cause =>
      refine .inr ⟨cause, ?_, .unrendered loaded given⟩
      simp only [Position.execution, Plan.execution, loaded, singleStatement, same, given]
  | ok statements =>
      rcases statements with - | ⟨statement, - | ⟨another, more⟩⟩
      · refine .inr ⟨_, ?_, .empty loaded given⟩
        simp only [Position.execution, Plan.execution, loaded, singleStatement, same, given]
      · refine .inl ⟨⟨s.benchmark, p.query, number, p.attributes, statement⟩, ?_,
          rfl, rfl, rfl, rfl, f, loaded, given⟩
        simp only [Position.execution, Plan.execution, loaded, singleStatement, same, given]
        rfl
      · refine .inr ⟨_, ?_, .several loaded given⟩
        simp only [Position.execution, Plan.execution, loaded, singleStatement, same, given]

def along (s : Source) : Nat → List Position → Except Failure (List Execution)
  | _, [] => .ok []
  | number, p :: rest => do
    let e ← p.execution s number
    let others ← along s (number + 1) rest
    pure (e :: others)

theorem along_append (s : Source) (number : Nat) (before behind : List Position) :
    along s number (before ++ behind) = (do
      let front ← along s number before
      let others ← along s (number + before.length) behind
      pure (front ++ others)) := by
  induction before generalizing number with
  | nil =>
      change along s number behind = (along s number behind).bind .ok
      cases along s number behind <;> rfl
  | cons p rest ih =>
      rw [List.cons_append, along, along, ih, List.length_cons, Nat.add_comm rest.length,
        ← Nat.add_assoc]
      cases p.execution s number with
      | error cause => rfl
      | ok e =>
          change (along s (number + 1) rest >>= _) >>= _ = (along s (number + 1) rest >>= _) >>= _
          cases along s (number + 1) rest with
          | error cause => rfl
          | ok front =>
              change (along s (number + 1 + rest.length) behind >>= _) >>= _ =
                along s (number + 1 + rest.length) behind >>= _
              cases along s (number + 1 + rest.length) behind <;> rfl

def runTrail (combination : Attributes) (queries : List String) (run : Nat) : List Position :=
  queries.map fun query => ⟨combination, run, query⟩

theorem run_along (s : Source) (combination : Attributes) (run number : Nat) (queries : List String) :
    ofRun s combination run number queries = along s number (runTrail combination queries run) := by
  induction queries generalizing number with
  | nil => rfl
  | cons query rest ih =>
      rw [ofRun, ih]
      rfl

theorem combination_along (s : Source) (combination : Attributes) (more run number : Nat) :
    ofCombination s combination more run number =
      along s number ((List.range' run more).flatMap (runTrail combination s.benchmark.queries)) := by
  induction more generalizing run number with
  | zero => rfl
  | succ more ih =>
      rw [ofCombination, List.range'_succ, List.flatMap_cons, along_append, run_along, ih, runTrail,
        List.length_map]

def trail (queries : List String) (runs : Nat) (all : List Attributes) : List Position :=
  all.flatMap fun combination => (List.range runs).flatMap (runTrail combination queries)

section Blocks

variable {α β : Type} {block : α → List β} {size : Nat}

theorem blocks_length (same : ∀ a, (block a).length = size) (items : List α) :
    (items.flatMap block).length = items.length * size := by
  induction items with
  | nil => exact (Nat.zero_mul size).symm
  | cons a rest ih =>
      rw [List.flatMap_cons, List.length_append, same, ih, List.length_cons, Nat.succ_mul,
        Nat.add_comm]

theorem blocks_get (same : ∀ a, (block a).length = size) {items : List α} {k i : Nat} {a : α}
    {b : β} (there : items[k]? = some a) (inside : (block a)[i]? = some b) :
    (items.flatMap block)[k * size + i]? = some b := by
  induction items generalizing k with
  | nil => cases there
  | cons head rest ih =>
      rw [List.flatMap_cons]
      cases k with
      | zero =>
          cases there
          rw [Nat.zero_mul, Nat.zero_add,
            List.getElem?_append_left (List.getElem?_eq_some_iff.mp inside).1]
          exact inside
      | succ k =>
          have behind : (block head).length ≤ (k + 1) * size + i := by
            rw [same, Nat.succ_mul]
            omega
          have place : (k + 1) * size + i - (block head).length = k * size + i := by
            rw [same, Nat.succ_mul]
            omega
          rw [List.getElem?_append_right behind, place, ih there]

end Blocks

theorem run_length (combination : Attributes) (queries : List String) (run : Nat) :
    (runTrail combination queries run).length = queries.length :=
  List.length_map _

theorem runs_length (queries : List String) (runs : Nat) (combination : Attributes) :
    ((List.range runs).flatMap (runTrail combination queries)).length = runs * queries.length := by
  rw [blocks_length (run_length combination queries), List.length_range]

theorem trail_length (queries : List String) (runs : Nat) (all : List Attributes) :
    (trail queries runs all).length = all.length * runs * queries.length := by
  rw [trail, blocks_length (runs_length queries runs), Nat.mul_assoc]

theorem trail_get {queries : List String} {runs : Nat} {all : List Attributes} {c r q : Nat}
    {combination : Attributes} {query : String} (combined : all[c]? = some combination)
    (run : r < runs) (asked : queries[q]? = some query) :
    (trail queries runs all)[(c * runs + r) * queries.length + q]? =
      some ⟨combination, r, query⟩ := by
  have last : (runTrail combination queries r)[q]? = some ⟨combination, r, query⟩ := by
    rw [runTrail, List.getElem?_map, asked]
    rfl
  have middle := blocks_get (run_length combination queries) (List.getElem?_range run) last
  have whole := blocks_get (runs_length queries runs) combined middle
  rw [Nat.add_mul, Nat.mul_assoc, Nat.add_assoc]
  exact whole

theorem combinations_along (s : Source) (runs number : Nat) (all : List Attributes) :
    ofCombinations s runs number all = along s number (trail s.benchmark.queries runs all) := by
  induction all generalizing number with
  | nil => rfl
  | cons combination rest ih =>
      have parts : trail s.benchmark.queries runs (combination :: rest) =
          (List.range runs).flatMap (runTrail combination s.benchmark.queries) ++
            trail s.benchmark.queries runs rest := rfl
      rw [ofCombinations, combination_along, ih, parts, along_append, runs_length,
        List.range_eq_range']

theorem along_cases {s : Source} {positions : List Position}
    (loaded : ∀ p ∈ positions, ∃ f, s.templates.get? p.query = some f) (number : Nat) :
    (∃ planned, along s number positions = .ok planned ∧ planned.length = positions.length ∧
      ∀ (i : Nat) (p : Position), positions[i]? = some p →
        ∃ e, planned[i]? = some e ∧ Entry s p (number + i) e) ∨
      ∃ before p behind cause, positions = before ++ p :: behind ∧
        (∀ (i : Nat) (earlier : Position), before[i]? = some earlier →
          ∃ e, Entry s earlier (number + i) e) ∧
        Faulty s p cause ∧ along s number positions = .error cause := by
  induction positions generalizing number with
  | nil => exact .inl ⟨[], rfl, rfl, fun i p there => by cases there⟩
  | cons p rest ih =>
      obtain ⟨f, found⟩ := loaded p List.mem_cons_self
      rw [along]
      rcases execution_cases found number with ⟨e, made, entry⟩ | ⟨cause, fails, faulty⟩
      · rw [made]
        have shift (i : Nat) : number + 1 + i = number + (i + 1) := by omega
        rcases ih (fun other member => loaded other (List.mem_cons_of_mem p member)) (number + 1) with
          ⟨planned, ok, length, entries⟩ | ⟨before, other, behind, cause, parts, earlier, faulty, fails⟩
        · refine .inl ⟨e :: planned, ?_, congrArg (· + 1) length, fun i other there => ?_⟩
          · rw [ok]
            rfl
          · cases i with
            | zero =>
                cases there
                exact ⟨e, rfl, entry⟩
            | succ i => exact shift i ▸ entries i other there
        · refine .inr ⟨p :: before, other, behind, cause, congrArg (p :: ·) parts,
            fun i before there => ?_, faulty, ?_⟩
          · cases i with
            | zero =>
                cases there
                exact ⟨e, entry⟩
            | succ i => exact shift i ▸ earlier i before there
          · rw [fails]
            rfl
      · refine .inr ⟨[], p, rest, cause, rfl, fun i earlier there => (by cases there), faulty, ?_⟩
        rw [fails]
        rfl

def Covers (s : Source) (runs : Nat) (all : List Attributes) : Prop :=
  ∃ planned, executions s runs = .ok planned ∧
    planned.length = all.length * runs * s.benchmark.queries.length ∧
    ∀ c r q combination query, all[c]? = some combination → r < runs →
      s.benchmark.queries[q]? = some query →
      ∃ e, planned[(c * runs + r) * s.benchmark.queries.length + q]? = some e ∧
        Entry s ⟨combination, r, query⟩ ((c * runs + r) * s.benchmark.queries.length + q) e

def BreaksOff (s : Source) (runs : Nat) (all : List Attributes) : Prop :=
  ∃ before p behind cause, trail s.benchmark.queries runs all = before ++ p :: behind ∧
    (∀ earlier ∈ before, ∃ number e, Entry s earlier number e) ∧ Faulty s p cause ∧
    executions s runs = .error cause

theorem plan_outcome {s : Source} {all : List Attributes}
    (loaded : ∀ query ∈ s.benchmark.queries, ∃ f, s.templates.get? query = some f)
    (combined : combinations s.benchmark = .ok all) (runs : Nat) :
    Covers s runs all ∨ BreaksOff s runs all := by
  have sequential : executions s runs = along s 0 (trail s.benchmark.queries runs all) := by
    rw [executions, combined]
    exact combinations_along s runs 0 all
  have known : ∀ p ∈ trail s.benchmark.queries runs all, ∃ f, s.templates.get? p.query = some f := by
    intro p member
    obtain ⟨combination, -, member⟩ := List.mem_flatMap.mp member
    obtain ⟨run, -, member⟩ := List.mem_flatMap.mp member
    obtain ⟨query, asked, rfl⟩ := List.mem_map.mp member
    exact loaded query asked
  rcases along_cases known 0 with
    ⟨planned, ok, length, entries⟩ | ⟨before, p, behind, cause, parts, earlier, faulty, fails⟩
  · refine .inl ⟨planned, sequential.trans ok, length.trans (trail_length _ _ _),
      fun c r q combination query combined run asked => ?_⟩
    obtain ⟨e, there, entry⟩ := entries _ _ (trail_get combined run asked)
    rw [Nat.zero_add] at entry
    exact ⟨e, there, entry⟩
  · refine .inr ⟨before, p, behind, cause, parts, fun other member => ?_, faulty,
      sequential.trans fails⟩
    obtain ⟨i, there⟩ := List.mem_iff_getElem?.mp member
    obtain ⟨e, entry⟩ := earlier i other there
    exact ⟨_, e, entry⟩

/-- Every combination, run and query of a plan has its execution, or the plan breaks off at the first
position that is faulty. The list tells the length of the measured plan, whatever is done to numbers
that do not fit 64 bits. -/
theorem plan_covers {s : Source} (valid : s.benchmark.validate = .ok ())
    (loaded : ∀ query ∈ s.benchmark.queries, ∃ f, s.templates.get? query = some f) :
    ∃ shown all, Variables.expand s.benchmark.parameters = .ok shown ∧
      all = (if s.benchmark.parameters.isEmpty then [Dict.empty] else shown) ∧
      (∀ runs, Covers s runs all ∨ BreaksOff s runs all) ∧
      ∃ listed line, line = s.benchmark.name ++ " datasource=" ++ s.benchmark.dataSource ++
          " queries=" ++ String.intercalate "," s.benchmark.queries ++ " executions=" ++
            toString listed ∧
        CommandLine.listingLine s.benchmark = .ok line ∧
        (listed < 2 ^ 64 →
          ∀ checksWords, CommandLine.writtenLine checksWords s.benchmark = .ok (some line)) ∧
        listed = all.length * s.benchmark.runs * s.benchmark.queries.length ∧
        all.length ≤ all.length * s.benchmark.runs ∧ all.length * s.benchmark.runs ≤ listed ∧
        ∀ planned, executions s s.benchmark.runs = .ok planned → planned.length = listed := by
  obtain ⟨o, shown, all, started, expanded, whole, combined, sized⟩ := valid_combines valid
  have outcome := plan_outcome loaded combined
  obtain ⟨-, -, runs, queries, -⟩ := validate_ok valid
  have counted : planSize s.benchmark s.benchmark.runs =
      all.length * s.benchmark.runs * s.benchmark.queries.length := by
    rw [planSize, combinations_length combined]
  refine ⟨shown, all, expanded, whole, outcome, _, _, rfl, ?_, fun fits checksWords => ?_, counted,
    Nat.le_mul_of_pos_right _ runs, ?_, fun planned ok => ?_⟩
  · rw [CommandLine.listingLine, size_told valid]
    rfl
  · rw [CommandLine.written_line_told checksWords valid, CommandLine.fits,
      if_pos (decide_eq_true fits)]
    rfl
  · rw [counted]
    exact Nat.le_mul_of_pos_right _ (List.length_pos_iff.mpr queries)
  · rcases outcome s.benchmark.runs with
      ⟨others, same, length, -⟩ | ⟨before, p, behind, cause, -, -, -, fails⟩
    · rw [ok] at same
      cases same
      exact length.trans counted.symm
    · rw [ok] at fails
      cases fails

def grid : Source where
  benchmark :=
    { Benchmark.named "grid" "memory" with
      runs := 2
      queries := ["scan", "join"]
      parameters := Dict.ofList [("size", ["small", "large"])] }
  templates := Dict.ofList
    [("scan", ⟨"scan.sql", Dict.empty, "SELECT * FROM {{ size }}"⟩),
      ("join", ⟨"join.sql", Dict.empty, "SELECT {{ execution_sequence_id }}; "⟩)]
  environment := Dict.empty

theorem grid_planned :
    grid.benchmark.validate = .ok () ∧
      (∀ query ∈ grid.benchmark.queries, ∃ f, grid.templates.get? query = some f) ∧
      CommandLine.writtenLine true grid.benchmark =
        .ok (some "grid datasource=memory queries=scan,join executions=8") ∧
      ∃ planned e, executions grid 2 = .ok planned ∧ planned.length = 8 ∧ planned[5]? = some e ∧
        Entry grid ⟨Dict.ofList [("size", "large")], 0, "join"⟩ 5 e := by
  have valid : grid.benchmark.validate = .ok () := rfl
  have loaded : ∀ query ∈ grid.benchmark.queries, ∃ f, grid.templates.get? query = some f := by
    intro query asked
    rcases List.mem_pair.mp asked with rfl | rfl
    · exact ⟨⟨"scan.sql", Dict.empty, "SELECT * FROM {{ size }}"⟩, rfl⟩
    · exact ⟨⟨"join.sql", Dict.empty, "SELECT {{ execution_sequence_id }}; "⟩, rfl⟩
  obtain ⟨shown, all, expanded, whole, outcome, listed, line, told, -, written, number, -, -, -⟩ :=
    plan_covers valid loaded
  have shows : Variables.expand grid.benchmark.parameters =
      .ok [Dict.ofList [("size", "small")], Dict.ofList [("size", "large")]] := rfl
  rw [shows] at expanded
  cases expanded
  subst whole number told
  refine ⟨valid, loaded, written (by decide) true, ?_⟩
  have renders : (executions grid 2).isOk = true := by decide +kernel
  rcases outcome 2 with ⟨planned, ok, length, entries⟩ | ⟨before, p, behind, cause, -, -, -, fails⟩
  · obtain ⟨e, there, entry⟩ := entries 1 0 1 _ "join" rfl (by decide) rfl
    exact ⟨planned, e, ok, length, there, entry⟩
  · rw [fails] at renders
    cases renders

end SqlBench.Plan
