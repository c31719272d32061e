import SqlBench.Proofs.Hook.Conduct
import SqlBench.Proofs.Plan.Coverage

set_option autoImplicit false

namespace SqlBench

namespace Hook

variable {σ : Type}

-- A step that is made for these attributes, whether a command gets them or a query file is filled
-- in with them.
inductive Given (queries : QueryFolder) (attributes : Attributes) : Step → Prop where
  | refused (cause : Failure) : Given queries attributes (.refuse cause)
  | commanded (hook command : String) : Given queries attributes (.shell hook command attributes)
  | dialled (source : String) : Given queries attributes (.dial source)
  | sent {name statement : String} {f : QueryFile} {statements : List String}
      (loaded : queries.load name = .ok f)
      (renders : f.statements queries.environment attributes = .ok statements)
      (member : statement ∈ statements) : Given queries attributes (.send statement)
  | hungUp : Given queries attributes .hangUp

theorem query_steps_given (queries : QueryFolder) (s : Setting) (name : String) :
    ∀ step ∈ querySteps queries s name, Given queries s.attributes step := by
  intro step member
  rw [querySteps] at member
  split at member
  · rw [List.mem_singleton.mp member]
    exact .refused _
  · rcases statements_cases queries s.attributes name with
      ⟨cause, gives, -⟩ | ⟨f, cause, gives, -⟩ | ⟨f, sends, gives, loaded, renders⟩
    · rw [gives] at member
      rw [List.mem_singleton.mp member]
      exact .refused cause
    · rw [gives] at member
      rw [List.mem_singleton.mp member]
      exact .refused cause
    · have sent : ∀ step ∈ sends.map Step.send, Given queries s.attributes step := by
        intro step member
        obtain ⟨statement, there, rfl⟩ := List.mem_map.mp member
        exact .sent loaded renders there
      rw [gives] at member
      dsimp only at member
      split at member
      · exact sent step member
      · simp only [List.cons_append, List.mem_cons, List.mem_append, List.not_mem_nil, or_false]
          at member
        rcases member with rfl | member | rfl
        · exact .dialled _
        · exact sent step member
        · exact .hungUp

theorem steps_given (services : Services σ) (s : Setting) (name : String) :
    ∀ step ∈ steps services s name, Given services.queries s.attributes step := by
  intro step member
  rw [steps] at member
  split at member
  · rw [List.mem_singleton.mp member]
    exact .refused _
  · split at member
    · rw [List.mem_singleton.mp member]
      exact .refused _
    · rw [List.mem_singleton.mp member]
      exact .commanded _ _
  · exact query_steps_given services.queries s _ step member

end Hook

theorem Pool.tasks_given {σ : Type} (services : Services σ) (e : Execution) {step : Hook.Step}
    (member : .hook step ∈ Pool.tasks services e) :
    Hook.Given services.queries e.hookAttributes step := by
  have given : ∀ (names : List String) (isConnected : Bool), Pool.Task.hook step ∈
      (names.flatMap (Hook.steps services ⟨some e.benchmark, e.hookAttributes, isConnected⟩)).map
        Pool.Task.hook → Hook.Given services.queries e.hookAttributes step := by
    intro names isConnected member
    obtain ⟨same, there, named⟩ := List.mem_map.mp member
    cases named
    obtain ⟨name, -, there⟩ := List.mem_flatMap.mp there
    exact Hook.steps_given services _ name step there
  rcases List.mem_append.mp member with member | member
  · rcases List.mem_append.mp member with member | member
    · exact given _ _ member
    · simp at member
  · exact given _ _ member

namespace Variables

theorem first_values {parameters : Dict (List String)} (showing : Showing (fresh parameters)) :
    (parameters.toList.filterMap fun e => e.2.head?.map fun value => (e.1, value)) =
      (shown (fresh parameters)).toList := by
  rw [shown_entries (fresh_dials parameters), fresh, List.map_map, ← List.filterMap_eq_map]
  apply List.filterMap_congr
  intro e member
  have filled := showing ⟨e.1, e.2, 0⟩ (List.mem_map.mpr ⟨e, member, rfl⟩)
  cases values : e.2 with
  | nil => simp [values] at filled
  | cons first rest => simp [values]

theorem expand_first {parameters : Dict (List String)} {all : List Attributes}
    (ok : expand parameters = .ok all) (varied : parameters.isEmpty = false) :
    all.head? = .some (shown (fresh parameters)) ∧ Showing (fresh parameters) := by
  obtain ⟨o, started, rfl, showing, rfl⟩ := expand_ok ok
  have turned := start_turned started
  have more : 0 < total parameters := by
    rw [total, varied, if_neg Bool.false_ne_true]
    exact values_multiply ok
  refine ⟨?_, showing⟩
  rw [List.head?_eq_getElem?, turned_take turned, turned_count turned, if_pos ⟨more, more⟩]
  rfl

end Variables

namespace Plan

theorem benchmark_attributes {b : Benchmark} {all : List Attributes}
    (ok : combinations b = .ok all) :
    ∃ first, all.head? = some first ∧ Hook.benchmarkAttributes b = b.identity.overrideWith first := by
  obtain ⟨shown, expanded, rfl⟩ := combinations_ok ok
  cases empty : b.parameters.isEmpty with
  | true =>
      have bare : b.parameters.toList = [] := List.isEmpty_iff.mp empty
      refine ⟨Dict.empty, rfl, ?_⟩
      rw [Hook.benchmarkAttributes, bare]
      rfl
  | false =>
      obtain ⟨first, showing⟩ := Variables.expand_first expanded empty
      refine ⟨_, first, ?_⟩
      rw [Hook.benchmarkAttributes, Variables.first_values showing]
      rfl

theorem execution_entry {s : Source} {p : Position} {number : Nat} {e : Execution}
    (ok : p.execution s number = .ok e) : Entry s p number e := by
  cases loaded : s.templates.get? p.query with
  | none =>
      simp only [Position.execution, Plan.execution, loaded] at ok
      cases ok
  | some f =>
      rcases execution_cases loaded number with ⟨planned, made, entry⟩ | ⟨cause, fails, -⟩
      · rw [ok] at made
        cases made
        exact entry
      · rw [ok] at fails
        cases fails

theorem along_entries {s : Source} {positions : List Position} {number : Nat}
    {planned : List Execution} (ok : along s number positions = .ok planned) {i : Nat}
    {e : Execution} (there : planned[i]? = some e) :
    ∃ p, positions[i]? = some p ∧ Entry s p (number + i) e := by
  induction positions generalizing number planned i with
  | nil =>
      cases ok
      cases there
  | cons p rest ih =>
      rw [along] at ok
      obtain ⟨first, begun, ok⟩ := bind_ok ok
      obtain ⟨others, behind, ok⟩ := bind_ok ok
      cases ok
      cases i with
      | zero =>
          cases there
          exact ⟨p, rfl, execution_entry begun⟩
      | succ i =>
          obtain ⟨position, placed, entry⟩ := ih behind there
          have shift : number + 1 + i = number + (i + 1) := by omega
          exact ⟨position, placed, shift ▸ entry⟩

-- The place of a position: the queries come round fastest, and the combinations slowest.
structure Place (queries : List String) (runs : Nat) (all : List Attributes) (number : Nat)
    (p : Position) : Prop where
  combination : all[number / queries.length / runs]? = some p.combination
  run : p.run = number / queries.length % runs
  query : queries[number % queries.length]? = some p.query

theorem trail_place {queries : List String} {runs : Nat} {all : List Attributes} {number : Nat}
    {p : Position} (there : (trail queries runs all)[number]? = some p) :
    Place queries runs all number p := by
  have inside := (List.getElem?_eq_some_iff.mp there).1
  rw [trail_length] at inside
  have asked : 0 < queries.length := Nat.pos_of_mul_pos_left (Nat.zero_lt_of_lt inside)
  have rounds : number / queries.length < all.length * runs :=
    Nat.div_lt_of_lt_mul (Nat.mul_comm _ _ ▸ inside)
  have positive : 0 < runs := Nat.pos_of_mul_pos_left (Nat.zero_lt_of_lt rounds)
  have combined := List.getElem?_eq_getElem
    (Nat.div_lt_of_lt_mul (Nat.mul_comm _ _ ▸ rounds) : number / queries.length / runs < all.length)
  have query := List.getElem?_eq_getElem (Nat.mod_lt number asked)
  have whole := trail_get combined (Nat.mod_lt (number / queries.length) positive) query
  rw [Nat.mul_comm _ runs, Nat.div_add_mod, Nat.mul_comm _ queries.length, Nat.div_add_mod, there]
    at whole
  cases whole
  exact ⟨combined, rfl, query⟩

theorem seen_run (p : Position) (b : Benchmark) :
    (p.seen b).get? "execution_sequence_id" = some (toString p.run) := by
  rw [seen_get, Position.attributes, Dict.get_insert, if_pos rfl]
  rfl

theorem seen_other (p : Position) (b : Benchmark) {key : String}
    (other : key ≠ "execution_sequence_id") :
    (p.seen b).get? key = (p.combination.get? key).or (b.identity.get? key) := by
  rw [seen_get, Position.attributes, Dict.get_insert, if_neg other]

theorem hooks_get {s : Source} {p : Position} {number : Nat} {e : Execution}
    (entry : Entry s p number e) (key : String) :
    e.hookAttributes.get? key =
      if key = "query_name" then some e.query else (p.seen s.benchmark).get? key := by
  rw [Execution.hookAttributes, Dict.get_insert, entry.benchmark, entry.attributes]
  rfl

-- What the query file of an execution sees, and what the hooks around the execution are given.
structure Sees (s : Source) (p : Position) (e : Execution) (seen : Attributes) : Prop where
  benchmark : e.benchmark = s.benchmark
  query : e.query = p.query
  rendered : ∃ f, s.templates.get? p.query = some f ∧
    f.statements s.environment seen = .ok [e.statement]
  given : ∀ {σ : Type} (services : Services σ) (step : Hook.Step),
    .hook step ∈ Pool.tasks services e → Hook.Given services.queries e.hookAttributes step
  agree : ∀ key, key ≠ "query_name" → e.hookAttributes.get? key = seen.get? key
  named : e.hookAttributes.get? "query_name" = some e.query
  run : seen.get? "execution_sequence_id" = some (toString p.run)
  overridden : ∀ key, key ≠ "execution_sequence_id" →
    seen.get? key = (p.combination.get? key).or (s.benchmark.identity.get? key)

theorem entry_sees {s : Source} {p : Position} {number : Nat} {e : Execution}
    (entry : Entry s p number e) : Sees s p e (p.seen s.benchmark) where
  benchmark := entry.benchmark
  query := entry.query
  rendered := entry.statement
  given services _ member := Pool.tasks_given services e member
  agree key other := by rw [hooks_get entry, if_neg other]
  named := by rw [hooks_get entry, if_pos rfl]
  run := seen_run p s.benchmark
  overridden _ other := seen_other p s.benchmark other

/-- The hooks around the benchmark know of no run and no query. All else they see as the first
execution does. -/
theorem attributes_agree {s : Source} {runs : Nat} {planned : List Execution}
    (ok : executions s runs = .ok planned) :
    ∃ shown all first, Variables.expand s.benchmark.parameters = .ok shown ∧
      all = (if s.benchmark.parameters.isEmpty then [Dict.empty] else shown) ∧
      all.head? = some first ∧
      (Hook.Setting.around (some s.benchmark)).attributes = s.benchmark.identity.overrideWith first ∧
      (∀ {σ : Type} (services : Services σ) (isConnected : Bool) (name : String),
        ∀ step ∈ Hook.steps services
          { Hook.Setting.around (some s.benchmark) with isConnected := isConnected } name,
        Hook.Given services.queries (s.benchmark.identity.overrideWith first) step) ∧
      ∀ (number : Nat) (e : Execution), planned[number]? = some e →
        ∃ p seen, Place s.benchmark.queries runs all number p ∧ Sees s p e seen ∧
          (number = 0 → ∀ key, key ≠ "query_name" → key ≠ "execution_sequence_id" →
            e.hookAttributes.get? key = (s.benchmark.identity.overrideWith first).get? key ∧
            seen.get? key = (s.benchmark.identity.overrideWith first).get? key) := by
  rw [executions] at ok
  obtain ⟨all, combined, ok⟩ := bind_ok ok
  rw [combinations_along] at ok
  obtain ⟨shown, expanded, whole⟩ := combinations_ok combined
  obtain ⟨first, foremost, attributes⟩ := benchmark_attributes combined
  refine ⟨shown, all, first, expanded, whole, foremost, attributes, ?_, fun number e there => ?_⟩
  · intro σ services isConnected name step member
    rw [← attributes]
    exact Hook.steps_given services _ name step member
  · obtain ⟨p, placed, entry⟩ := along_entries ok there
    have place := trail_place placed
    have sees := entry_sees entry
    refine ⟨p, p.seen s.benchmark, place, sees, fun zero key query run => ?_⟩
    have same : first = p.combination := by
      have combination := place.combination
      rw [zero, Nat.zero_div, Nat.zero_div, ← List.head?_eq_getElem?, foremost] at combination
      exact Option.some.inj combination
    have found : (p.seen s.benchmark).get? key =
        (s.benchmark.identity.overrideWith first).get? key := by
      rw [sees.overridden key run, Dict.get_override, same]
    exact ⟨(sees.agree key query).trans found, found⟩

-- Variables under keys that the benchmark, the run and the query have as well.
def masked : Source where
  benchmark :=
    { Benchmark.named "masked" "memory" with
      runs := 2
      queries := ["scan"]
      parameters := Dict.ofList
        [("datasource", ["near", "far"]), ("execution_sequence_id", ["none"]),
          ("query_name", ["any"])] }
  templates := Dict.ofList [("scan", ⟨"scan.sql", Dict.empty, "SELECT {{ datasource }}"⟩)]
  environment := Dict.empty

theorem masked_planned :
    masked.benchmark.validate = .ok () ∧
    ∃ planned e p seen, executions masked 2 = .ok planned ∧ planned[3]? = some e ∧
      Sees masked p e seen ∧
      e.hookAttributes.get? "query_name" = some "scan" ∧ seen.get? "query_name" = some "any" ∧
      e.hookAttributes.get? "datasource" = some "far" ∧ seen.get? "datasource" = some "far" ∧
      e.hookAttributes.get? "execution_sequence_id" = some "1" := by
  refine ⟨rfl, ?_⟩
  have renders : (executions masked 2).isOk = true := by decide +kernel
  cases ok : executions masked 2 with
  | error cause =>
      rw [ok] at renders
      cases renders
  | ok planned =>
      have length : planned.length = 4 := executions_length ok
      obtain ⟨shown, all, first, expanded, whole, -, -, -, entries⟩ := attributes_agree ok
      have there : planned[3]? = some planned[3] := List.getElem?_eq_getElem (by omega)
      obtain ⟨p, seen, place, sees, -⟩ := entries 3 planned[3] there
      have shows : Variables.expand masked.benchmark.parameters =
          .ok [Dict.ofList [("datasource", "near"), ("execution_sequence_id", "none"),
              ("query_name", "any")],
            Dict.ofList [("datasource", "far"), ("execution_sequence_id", "none"),
              ("query_name", "any")]] := rfl
      rw [shows] at expanded
      cases expanded
      subst whole
      have combination := Option.some.inj place.combination
      have query := Option.some.inj place.query
      refine ⟨planned, planned[3], p, seen, rfl, there, sees, ?_, ?_, ?_, ?_, ?_⟩
      · rw [sees.named, sees.query, ← query]
      · rw [sees.overridden _ (by decide), ← combination]
        rfl
      · rw [sees.agree _ (by decide), sees.overridden _ (by decide), ← combination]
        rfl
      · rw [sees.overridden _ (by decide), ← combination]
        rfl
      · rw [sees.agree _ (by decide), sees.run, place.run]
        rfl

end Plan

end SqlBench
