import SqlBench.Catalog
import SqlBench.Proofs.Plan.Coverage
import SqlBench.Proofs.Pool.Census

set_option autoImplicit false

namespace SqlBench

theorem Benchmark.build_valid {name source : String} {settings : List Benchmark.Setting}
    {b : Benchmark} (ok : Benchmark.build name source settings = .ok b) : b.validate = .ok () := by
  simp only [Benchmark.build] at ok
  split at ok
  · rename_i valid
    cases ok
    exact valid
  · cases ok

theorem Descriptor.parse_ok {naming : Descriptor.Naming} {x : Expansion} {name content : String}
    {b : Benchmark} (ok : Descriptor.parse naming x name content = .ok b) :
    b.name = name ∧ b.validate = .ok () := by
  rw [Descriptor.parse] at ok
  obtain ⟨expanded, -, ok⟩ := Plan.bind_ok ok
  cases read : Yaml.Decode.document Descriptor.decoder expanded with
  | error e =>
      simp only [read] at ok
      cases ok
  | ok r =>
      simp only [read, pure_bind] at ok
      obtain ⟨parameters, -, ok⟩ := Plan.bind_ok ok
      obtain ⟨⟨⟩, valid, ok⟩ := Plan.bind_ok ok
      cases ok
      exact ⟨rfl, valid⟩

theorem Descriptor.parse_valid {naming : Descriptor.Naming} {x : Expansion} {name content : String}
    {b : Benchmark} (ok : Descriptor.parse naming x name content = .ok b) : b.validate = .ok () :=
  (parse_ok ok).2

namespace Catalog

theorem load_file_valid {c : Catalog} {entry : String × String} {b : Benchmark}
    (ok : c.loadFile entry = .ok b) : b.validate = .ok () := by
  rw [loadFile] at ok
  split at ok
  · cases ok
  · split at ok
    · rename_i parsed
      cases ok
      exact Descriptor.parse_valid parsed
    · cases ok

theorem load_files_member {c : Catalog} {entries : List (String × String)} {all : List Benchmark}
    (ok : entries.mapM c.loadFile = .ok all) : ∀ b ∈ all, ∃ entry, c.loadFile entry = .ok b := by
  induction entries generalizing all with
  | nil =>
      cases ok
      exact fun b member => nomatch member
  | cons entry rest ih =>
      rw [List.mapM_cons] at ok
      obtain ⟨first, loaded, ok⟩ := Plan.bind_ok ok
      obtain ⟨others, behind, ok⟩ := Plan.bind_ok ok
      cases ok
      intro b member
      rcases List.mem_cons.mp member with rfl | member
      · exact ⟨entry, loaded⟩
      · exact ih behind b member

theorem load_valid {c : Catalog} {names : List String} {all : List Benchmark}
    (ok : c.load names = .ok all) : ∀ b ∈ all, b.validate = .ok () := by
  intro b member
  rw [load] at ok
  split at ok
  · cases ok
  · obtain ⟨entry, loaded⟩ := load_files_member ok b member
    exact load_file_valid loaded

theorem load_sequences_valid {c : Catalog} {names sequenceIds : List String} {all : List Benchmark}
    (ok : c.loadSequences names sequenceIds = .ok all) : ∀ b ∈ all, b.validate = .ok () := by
  intro b member
  rw [loadSequences] at ok
  split at ok
  · cases ok
  · cases loaded : c.load names with
    | error cause =>
        rw [loaded] at ok
        cases ok
    | ok benchmarks =>
        rw [loaded] at ok
        cases ok
        obtain ⟨original, there, member⟩ := List.mem_flatMap.mp member
        obtain ⟨id, -, rfl⟩ := List.mem_map.mp member
        exact load_valid loaded original there

end Catalog

namespace Plan

theorem templates_found {load : String → Except Failure QueryFile} {names : List String}
    {known templates : Dict QueryFile}
    (ok : names.foldlM (fun found name => (load name).map fun f => found.insert name f) known =
      .ok templates) (query : String) :
    (query ∈ names ∨ ∃ f, known.get? query = some f) → ∃ f, templates.get? query = some f := by
  induction names generalizing known with
  | nil =>
      cases ok
      rintro (absent | found)
      · cases absent
      · exact found
  | cons name rest ih =>
      rw [List.foldlM_cons] at ok
      obtain ⟨more, loaded, ok⟩ := bind_ok ok
      intro asked
      apply ih ok
      cases file : load name with
      | error cause =>
          rw [file] at loaded
          cases loaded
      | ok f =>
          rw [file] at loaded
          cases loaded
          by_cases same : query = name
          · exact .inr ⟨f, by rw [Dict.get_insert, if_pos same]⟩
          · rcases asked with asked | ⟨before, found⟩
            · exact .inl ((List.mem_cons.mp asked).resolve_left same)
            · exact .inr ⟨before, by rw [Dict.get_insert, if_neg same, found]⟩

theorem templates_loaded {load : String → Except Failure QueryFile} {b : Benchmark}
    {templates : Dict QueryFile} (ok : templatesBy load b = .ok templates) :
    ∀ query ∈ b.queries, ∃ f, templates.get? query = some f :=
  fun query asked => templates_found ok query (.inl asked)

theorem faulty_template {s : Source} {p : Position} {cause : Failure} (faulty : Faulty s p cause) :
    ∃ path seen reason, cause = .template path seen reason := by
  cases faulty with
  | @unrendered f _ loaded fails =>
      rw [QueryFile.statements] at fails
      split at fails
      · cases fails
      · rename_i causes _
        cases fails
        exact ⟨f.path, _, .rendering causes, rfl⟩
  | empty loaded nothing => exact ⟨_, _, _, rfl⟩
  | several loaded statements => exact ⟨_, _, _, rfl⟩

end Plan

structure Untroubled (b : Benchmark) : Prop where
  expands : ∃ all, Variables.expand b.parameters = .ok all
  starts : ∃ o, Variables.Odometer.start b.parameters = .ok o
  listed : ∃ line, CommandLine.listingLine b = .ok line
  fails : ∀ load templates, Plan.templatesBy load b = .ok templates → ∀ environment runs cause,
    Plan.executions ⟨b, templates, environment⟩ runs = .error cause →
      ∃ path seen reason, cause = .template path seen reason
  plans : ∀ load templates, Plan.templatesBy load b = .ok templates → ∀ environment planned,
    Plan.executions ⟨b, templates, environment⟩ b.runs = .ok planned → planned ≠ []
  records : ∀ (σ : Type) (p : Pool σ) (executions : List Execution) (c : Course σ)
    (s : Pool.State σ), p.Reaches (.start executions c) s →
      ∀ fate ∈ s.fates, ∀ cause, fate.2 ≠ .dropped cause

theorem none_dropped {σ : Type} {p : Pool σ} {executions : List Execution} {c : Course σ}
    {s : Pool.State σ} (reached : p.Reaches (.start executions c) s) {fate : Nat × Pool.Fate}
    (told : fate ∈ s.fates) (cause : Failure) : fate.2 ≠ .dropped cause := by
  intro dropped
  obtain ⟨e, -, befits⟩ := (Pool.reached_orderly reached).told fate told
  rw [dropped] at befits
  exact befits

theorem valid_untroubled {b : Benchmark} (valid : b.validate = .ok ()) : Untroubled b := by
  obtain ⟨o, shown, all, started, expanded, -, combined, -⟩ := Plan.valid_combines valid
  refine ⟨⟨shown, expanded⟩, ⟨o, started⟩, ?_, ?_, ?_, fun _ _ _ _ _ => none_dropped⟩
  · rw [CommandLine.listingLine, Plan.size, Variables.combinationCount, started]
    exact ⟨_, rfl⟩
  · intro load templates loads environment runs cause fails
    let source : Plan.Source := ⟨b, templates, environment⟩
    have known : ∀ query ∈ source.benchmark.queries, ∃ f, source.templates.get? query = some f :=
      Plan.templates_loaded loads
    rcases Plan.plan_outcome known combined runs with
      ⟨planned, ok, -⟩ | ⟨before, p, behind, other, -, -, faulty, broken⟩
    · rw [ok] at fails
      cases fails
    · rw [broken] at fails
      cases fails
      exact Plan.faulty_template faulty
  · intro load templates loads environment planned ok
    let source : Plan.Source := ⟨b, templates, environment⟩
    have valid' : source.benchmark.validate = .ok () := valid
    exact Plan.valid_plan_some valid' ok

/-- Whatever is built, parsed or loaded is valid, and what is valid meets no internal error when it is
expanded, planned and run: its plan fails by a template alone and no worker drops an execution. -/
theorem admitted_untroubled :
    (∀ name source settings b, Benchmark.build name source settings = .ok b → b.validate = .ok ()) ∧
    (∀ naming x name content b, Descriptor.parse naming x name content = .ok b →
      b.validate = .ok ()) ∧
    (∀ (c : Catalog) names all, c.load names = .ok all → ∀ b ∈ all, b.validate = .ok ()) ∧
    (∀ (c : Catalog) names sequenceIds all, c.loadSequences names sequenceIds = .ok all →
      ∀ b ∈ all, b.validate = .ok ()) ∧
    ∀ b, b.validate = .ok () → Untroubled b :=
  ⟨fun _ _ _ _ => Benchmark.build_valid, fun _ _ _ _ _ => Descriptor.parse_valid,
    fun _ _ _ => Catalog.load_valid, fun _ _ _ _ => Catalog.load_sequences_valid,
    fun _ => valid_untroubled⟩

def shelf : Catalog where
  files := .directory [("benchmarks",
    .directory [("q.yaml", .file "{datasource: memory, query-names: [q]}".toUTF8.toList)])]
  dirs := ["benchmarks"]
  naming := ⟨"default", "now"⟩
  expansion := ⟨Dict.empty, Dict.empty⟩

theorem shelf_untroubled :
    ∃ all, shelf.loadSequences [] ["1", "2"] = .ok all ∧ all.length = 2 ∧ ∀ b ∈ all, Untroubled b := by
  obtain ⟨-, -, -, loaded, valid⟩ := admitted_untroubled
  have loads : ((shelf.loadSequences [] ["1", "2"]).map List.length).toOption = some 2 := by
    decide +kernel
  cases ok : shelf.loadSequences [] ["1", "2"] with
  | error cause =>
      rw [ok] at loads
      cases loads
  | ok all =>
      rw [ok] at loads
      exact ⟨all, rfl, Option.some.inj loads, fun b member => valid b (loaded shelf _ _ all ok b member)⟩

end SqlBench
