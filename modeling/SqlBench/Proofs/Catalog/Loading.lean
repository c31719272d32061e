import Mathlib.Data.List.ProdSigma
import SqlBench.Proofs.Admission
import SqlBench.Proofs.Catalog.Discovery

set_option autoImplicit false

namespace SqlBench.Catalog

structure Selects (c : Catalog) (names stems : List String) : Prop where
  ordered : stems.Pairwise (· < ·)
  members : ∀ stem, stem ∈ stems ↔ c.Has stem ∧ (names = [] ∨ stem ∈ names)

def outcome (c : Catalog) (stem path : String) (octets : List UInt8) : Except Failure Benchmark :=
  match Text.decode? octets with
  | none => .error (.io ReadFault.notText.text)
  | some content =>
    match Descriptor.parse c.naming c.expansion stem content with
    | .ok b => .ok b
    | .error e => .error (.config (.benchmarkFile path e.message))

def Gives (c : Catalog) (stem : String) (result : Except Failure Benchmark) : Prop :=
  ∃ dir name octets, c.FirstWith stem dir ∧ IsDescriptor stem name ∧
    c.files.Lists dir name octets ∧ result = c.outcome stem (Path.join dir name) octets

-- One result after the other, up to the first that is an error.
inductive Through (gives : String → Except Failure Benchmark → Prop) :
    List String → Except Failure (List Benchmark) → Prop where
  | done : Through gives [] (.ok [])
  | fails {stem : String} {rest : List String} {cause : Failure} (here : gives stem (.error cause)) :
      Through gives (stem :: rest) (.error cause)
  | onward {stem : String} {rest : List String} {b : Benchmark}
      {result : Except Failure (List Benchmark)} (here : gives stem (.ok b))
      (behind : Through gives rest result) :
      Through gives (stem :: rest) (result.map fun all => b :: all)

theorem through_unique {gives others : String → Except Failure Benchmark → Prop}
    {stems : List String} {one other : Except Failure (List Benchmark)}
    (agree : ∀ stem ∈ stems, ∀ a b, gives stem a → others stem b → a = b)
    (through : Through gives stems one) (too : Through others stems other) : one = other := by
  induction through generalizing other with
  | done =>
      cases too
      rfl
  | fails here =>
      cases too with
      | fails there =>
          cases agree _ List.mem_cons_self _ _ here there
          rfl
      | onward there onward => cases agree _ List.mem_cons_self _ _ here there
  | onward here behind ih =>
      cases too with
      | fails there => cases agree _ List.mem_cons_self _ _ here there
      | onward there onward =>
          cases agree _ List.mem_cons_self _ _ here there
          rw [ih (fun stem member => agree stem (List.mem_cons_of_mem _ member)) onward]

theorem through_cases {gives : String → Except Failure Benchmark → Prop} {stems : List String}
    {result : Except Failure (List Benchmark)} (through : Through gives stems result) :
    (∃ all, result = .ok all ∧ List.Forall₂ (fun stem b => gives stem (.ok b)) stems all) ∨
      ∃ before stem behind cause, stems = before ++ stem :: behind ∧
        (∀ earlier ∈ before, ∃ b, gives earlier (.ok b)) ∧ gives stem (.error cause) ∧
          result = .error cause := by
  induction through with
  | done => exact .inl ⟨[], rfl, .nil⟩
  | fails here => exact .inr ⟨[], _, _, _, rfl, (fun _ member => nomatch member), here, rfl⟩
  | @onward stem rest b result here behind ih =>
      rcases ih with ⟨all, rfl, each⟩ | ⟨before, last, others, cause, rfl, earlier, fails, rfl⟩
      · exact .inl ⟨b :: all, rfl, .cons here each⟩
      · refine .inr ⟨stem :: before, last, others, cause, rfl, ?_, fails, rfl⟩
        exact List.forall_mem_cons.mpr ⟨⟨b, here⟩, earlier⟩

theorem files_through {c : Catalog} {entries : List (String × String)}
    (gives : ∀ e ∈ entries, c.Gives e.1 (c.loadFile e)) :
    Through c.Gives (entries.map Prod.fst) (entries.mapM c.loadFile) := by
  induction entries with
  | nil => exact .done
  | cons e rest ih =>
      obtain ⟨here, behind⟩ := List.forall_mem_cons.mp gives
      rw [List.map_cons, List.mapM_cons]
      cases loaded : c.loadFile e with
      | error cause =>
          rw [loaded] at here
          exact .fails here
      | ok b =>
          rw [loaded] at here
          have onward := Through.onward here (ih behind)
          cases others : rest.mapM c.loadFile <;> rw [others] at onward <;> exact onward

theorem outcome_name {c : Catalog} {stem path : String} {octets : List UInt8} {b : Benchmark}
    (ok : c.outcome stem path octets = .ok b) : b.name = stem := by
  rw [outcome] at ok
  split at ok
  · cases ok
  · split at ok
    · rename_i parsed
      cases ok
      exact (Descriptor.parse_ok parsed).1
    · cases ok

theorem gives_name {c : Catalog} {stem : String} {b : Benchmark} (gives : c.Gives stem (.ok b)) :
    b.name = stem := by
  obtain ⟨dir, name, octets, -, -, -, same⟩ := gives
  exact outcome_name same.symm

theorem file_gives {c : Catalog} (proper : c.files.Proper) {e : String × String}
    (found : e ∈ c.descriptors.toList) : c.Gives e.1 (c.loadFile e) := by
  obtain ⟨dir, name, foremost, ⟨named, octets, lists⟩, path⟩ :=
    (descriptors_discovered c).first e.1 e.2 found
  refine ⟨dir, name, octets, foremost, named, lists, ?_⟩
  rw [loadFile, outcome, path, FileTree.read_listed proper lists]
  cases Text.decode? octets with
  | none => rfl
  | some content => rfl

theorem gives_unique {c : Catalog} (proper : c.files.Proper) (apart : c.Apart) {stem : String}
    {one other : Except Failure Benchmark} (gives : c.Gives stem one) (too : c.Gives stem other) :
    one = other := by
  obtain ⟨dir, name, octets, foremost, named, lists, rfl⟩ := gives
  obtain ⟨dir', name', octets', foremost', named', lists', rfl⟩ := too
  cases first_with_unique foremost foremost'
  have apart := apart dir (first_with_member foremost) stem
  cases holds_unique apart ⟨named, octets, lists⟩ ⟨named', octets', lists'⟩
  cases FileTree.lists_unique proper lists lists'
  rfl

theorem contains_iff {c : Catalog} {stem : String} :
    c.descriptors.contains stem = true ↔ c.Has stem := by
  rw [Dict.contains, Option.isSome_iff_exists, ← (descriptors_discovered c).each]
  simp only [Dict.get_some_iff]

theorem wanted_iff {names : List String} {e : String × String} :
    isWanted names e = true ↔ names = [] ∨ e.1 ∈ names := by
  simp [isWanted]

theorem selected_stems (c : Catalog) (names : List String) :
    c.Selects names ((c.descriptors.toList.filter (isWanted names)).map Prod.fst) where
  ordered := by
    rw [List.pairwise_map]
    exact c.descriptors.ascending.filter (isWanted names)
  members stem := by
    rw [← (descriptors_discovered c).each]
    simp only [List.mem_map, List.mem_filter, wanted_iff]
    constructor
    · rintro ⟨⟨stem, path⟩, ⟨found, wanted⟩, rfl⟩
      exact ⟨⟨path, found⟩, wanted⟩
    · rintro ⟨⟨path, found⟩, wanted⟩
      exact ⟨(stem, path), ⟨found, wanted⟩, rfl⟩

theorem selects_unique {c : Catalog} {names one other : List String} (selects : c.Selects names one)
    (too : c.Selects names other) : one = other :=
  selects.ordered.eq_of_mem_iff too.ordered fun stem =>
    (selects.members stem).trans (too.members stem).symm

theorem load_unknown {c : Catalog} {before behind : List String} {name : String}
    (known : ∀ earlier ∈ before, c.Has earlier) (unknown : ¬ c.Has name) :
    c.load (before ++ name :: behind) = .error (.config (.unknownBenchmark name c.dirs)) := by
  have found : (before ++ name :: behind).find? (fun name => !c.descriptors.contains name) =
      some name := by
    refine List.find?_eq_some_iff_append.mpr ⟨?_, before, behind, rfl, ?_⟩
    · simpa using mt contains_iff.mp unknown
    · intro earlier member
      simpa using contains_iff.mpr (known earlier member)
  rw [load, found]

theorem load_known {c : Catalog} {names : List String} (known : ∀ name ∈ names, c.Has name) :
    c.load names = (c.descriptors.toList.filter (isWanted names)).mapM c.loadFile := by
  have unknown : names.find? (fun name => !c.descriptors.contains name) = none := by
    refine List.find?_eq_none.mpr fun name member => ?_
    simpa using contains_iff.mpr (known name member)
  rw [load, unknown]

theorem load_through {c : Catalog} (proper : c.files.Proper) {names stems : List String}
    (known : ∀ name ∈ names, c.Has name) (selects : c.Selects names stems) :
    Through c.Gives stems (c.load names) := by
  rw [load_known known, selects_unique selects (selected_stems c names)]
  exact files_through fun e member => file_gives proper (List.mem_of_mem_filter member)

theorem names_through {c : Catalog} {stems : List String} {all : List Benchmark}
    (through : Through c.Gives stems (.ok all)) : all.map Benchmark.name = stems := by
  rcases through_cases through with ⟨others, same, each⟩ | ⟨_, _, _, _, -, -, -, fails⟩
  · cases same
    have named := each.imp fun stem b gives => (gives_name gives).symm
    exact (List.forall₂_eq_eq_eq ▸ List.forall₂_map_right_iff.mpr named).symm
  · cases fails

theorem known_or_not (c : Catalog) (names : List String) :
    (∀ name ∈ names, c.Has name) ∨ ∃ before name behind, names = before ++ name :: behind ∧
      (∀ earlier ∈ before, c.Has earlier) ∧ ¬ c.Has name := by
  induction names with
  | nil => exact .inl fun _ member => nomatch member
  | cons name rest ih =>
      by_cases has : c.Has name
      · rcases ih with known | ⟨before, other, behind, rfl, known, unknown⟩
        · exact .inl (List.forall_mem_cons.mpr ⟨has, known⟩)
        · exact .inr ⟨name :: before, other, behind, rfl, List.forall_mem_cons.mpr ⟨has, known⟩,
            unknown⟩
      · exact .inr ⟨[], name, rest, rfl, (fun _ member => nomatch member), has⟩

theorem load_spared {c : Catalog} (proper : c.files.Proper) {files : FileTree}
    (named : files.Proper) (apart : (c.withFiles files).Apart) {names : List String}
    (has : ∀ stem, (c.withFiles files).Has stem ↔ c.Has stem)
    (gives : ∀ stem result, c.Has stem → (names = [] ∨ stem ∈ names) → c.Gives stem result →
      (c.withFiles files).Gives stem result) :
    (c.withFiles files).load names = c.load names := by
  have selects := selected_stems c names
  have too : (c.withFiles files).Selects names _ :=
    ⟨selects.ordered, fun stem => by rw [selects.members, has]⟩
  rcases known_or_not c names with known | ⟨before, name, behind, rfl, known, unknown⟩
  · refine (through_unique ?_ (load_through proper known selects) (load_through named ?_ too)).symm
    · intro stem member a b here there
      obtain ⟨offered, wanted⟩ := (selects.members stem).mp member
      exact gives_unique named apart (gives stem a offered wanted here) there
    · exact fun name member => (has name).mpr (known name member)
  · rw [load_unknown known unknown, load_unknown (fun name member => (has name).mpr (known name member))
      (mt (has name).mp unknown)]
    rfl

structure Loads (c : Catalog) (names : List String) : Prop where
  unknown : ∀ before name behind, names = before ++ name :: behind →
    (∀ earlier ∈ before, c.Has earlier) → ¬ c.Has name →
      c.load names = .error (.config (.unknownBenchmark name c.dirs))
  known : (∀ name ∈ names, c.Has name) → ∃ stems, c.Selects names stems ∧
    ((∃ all, c.load names = .ok all ∧
        List.Forall₂ (fun stem b => b.name = stem ∧ c.Gives stem (.ok b)) stems all) ∨
      ∃ before stem behind cause, stems = before ++ stem :: behind ∧
        (∀ earlier ∈ before, ∃ b, c.Gives earlier (.ok b)) ∧ c.Gives stem (.error cause) ∧
          c.load names = .error cause)
  determined : ∀ stem, c.Has stem → ∃! result, c.Gives stem result
  sameSet : ∀ others, (∀ name, name ∈ others ↔ name ∈ names) → (∀ name ∈ names, c.Has name) →
    c.load others = c.load names
  spared : ∀ files, files.Proper → (c.withFiles files).Apart →
    (∀ stem, (c.withFiles files).Has stem ↔ c.Has stem) →
    (∀ stem result, c.Has stem → (names = [] ∨ stem ∈ names) → c.Gives stem result →
      (c.withFiles files).Gives stem result) →
      (c.withFiles files).load names = c.load names

structure Repeats (c : Catalog) (names ids : List String) : Prop where
  noIds : ids = [] → c.loadSequences names ids = .error (.invalid .noSequenceIds)
  fails : ids ≠ [] → ∀ cause, c.load names = .error cause → c.loadSequences names ids = .error cause
  loads : ids ≠ [] → ∀ all, c.load names = .ok all → ∃ runs, c.loadSequences names ids = .ok runs ∧
    runs.length = all.length * ids.length ∧
    (∀ (i j : Nat) (b : Benchmark) (id : String), all[i]? = some b → ids[j]? = some id →
      runs[i * ids.length + j]? = some { b with sequenceId := id }) ∧
    (ids.Nodup → (runs.map fun b => (b.name, b.sequenceId)).Nodup)

theorem loaded_names {c : Catalog} (proper : c.files.Proper) {names : List String}
    {all : List Benchmark} (ok : c.load names = .ok all) :
    (all.map Benchmark.name).Pairwise (· < ·) := by
  rcases known_or_not c names with known | ⟨before, name, behind, rfl, known, unknown⟩
  · have selects := selected_stems c names
    rw [names_through (ok ▸ load_through proper known selects)]
    exact selects.ordered
  · rw [load_unknown known unknown] at ok
    cases ok

theorem gives_some {c : Catalog} {stem : String} (has : c.Has stem) :
    ∃ result, c.Gives stem result := by
  obtain ⟨dir, foremost⟩ := first_with_some.mpr has
  obtain ⟨name, named, octets, lists⟩ := first_with_holds foremost
  exact ⟨_, dir, name, octets, foremost, named, lists, rfl⟩

theorem names_loaded {c : Catalog} (proper : c.files.Proper) (apart : c.Apart)
    (names : List String) : c.Loads names where
  unknown := by
    rintro before name behind rfl known unknown
    exact load_unknown known unknown
  known known := by
    refine ⟨_, selected_stems c names, ?_⟩
    rcases through_cases (load_through proper known (selected_stems c names)) with
      ⟨all, ok, each⟩ | fails
    · exact .inl ⟨all, ok, each.imp fun stem b gives => ⟨gives_name gives, gives⟩⟩
    · exact .inr fails
  determined stem has := by
    obtain ⟨result, gives⟩ := gives_some has
    exact ⟨result, gives, fun other too => gives_unique proper apart too gives⟩
  sameSet others same known := by
    have wanted : isWanted others = isWanted names := by
      have empty : others = [] ↔ names = [] := by
        simp only [List.eq_nil_iff_forall_not_mem, same]
      funext e
      rw [Bool.eq_iff_iff, wanted_iff, wanted_iff, empty, same]
    rw [load_known known, load_known fun name member => known name ((same name).mp member), wanted]
  spared files named apart has gives := load_spared proper named apart has gives

theorem sequences_repeated {c : Catalog} (proper : c.files.Proper) (names ids : List String) :
    c.Repeats names ids where
  noIds none := by
    rw [loadSequences, none]
    rfl
  fails some cause fails := by
    rw [loadSequences, if_neg (by simpa using some), fails]
    rfl
  loads some all ok := by
    refine ⟨all.flatMap fun b => ids.map b.withSequenceId, ?_, ?_, ?_, ?_⟩
    · rw [loadSequences, if_neg (by simpa using some), ok]
      rfl
    · exact Plan.blocks_length (fun b => List.length_map b.withSequenceId) all
    · intro i j b id here there
      refine Plan.blocks_get (fun b => List.length_map b.withSequenceId) here ?_
      rw [List.getElem?_map, there]
      rfl
    · intro distinct
      have pairs : (all.flatMap fun b => ids.map b.withSequenceId).map
          (fun b => (b.name, b.sequenceId)) = (all.map Benchmark.name).product ids := by
        rw [List.map_flatMap, List.product, List.flatMap_map]
        simp only [List.map_map]
        rfl
      rw [pairs]
      exact (loaded_names proper ok).nodup.product distinct

/-- Loading reads the descriptors asked for and no others, each from the first directory that has it; a
sequence of loads repeats each benchmark once for every id. -/
theorem loading_selects_and_repeats {c : Catalog} (proper : c.files.Proper) (apart : c.Apart)
    (names ids : List String) : c.Loads names ∧ c.Repeats names ids :=
  ⟨names_loaded proper apart names, sequences_repeated proper names ids⟩

theorem shelves_loaded :
    shelves.files.Proper ∧ shelves.Apart ∧
      ∃ runs, shelves.loadSequences ["r", "q", "r"] ["1", "2"] = .ok runs ∧ runs.length = 4 ∧
        (runs.map fun b => (b.name, b.sequenceId)).Nodup := by
  refine ⟨shelves_proper, shelves_apart, ?_⟩
  obtain ⟨-, repeats⟩ :=
    loading_selects_and_repeats shelves_proper shelves_apart ["r", "q", "r"] ["1", "2"]
  have loads : ((shelves.load ["r", "q", "r"]).map List.length).toOption = some 2 := by
    decide +kernel
  cases ok : shelves.load ["r", "q", "r"] with
  | error cause =>
      rw [ok] at loads
      cases loads
  | ok all =>
      rw [ok] at loads
      obtain ⟨runs, again, length, -, pairs⟩ := repeats.loads (by decide) all ok
      rw [Option.some.inj loads] at length
      exact ⟨runs, again, length, pairs (by decide)⟩

end SqlBench.Catalog
