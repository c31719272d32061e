import SqlBench.Catalog
import SqlBench.Proofs.Dict
import SqlBench.Proofs.FileTree

set_option autoImplicit false

namespace SqlBench

theorem Path.extension_some {name stem extension : String}
    (parted : stemAndExtension name = (stem, some extension)) :
    stem ≠ "" ∧ name = stem ++ ("." ++ extension) := by
  rw [stemAndExtension] at parted
  rcases Text.cut_cases '.' name.toList.reverse with ⟨-, uncut⟩ | ⟨back, front, parts, -, cut⟩
  · rw [uncut] at parted
    cases parted
  · simp only [cut] at parted
    split at parted
    · cases parted
    · rename_i named
      cases parted
      have filled : front ≠ [] := by
        rintro rfl
        exact named rfl
      refine ⟨by simpa using filled, ?_⟩
      rw [← String.toList_inj, List.reverse_eq_iff.mp parts]
      simp

theorem Path.extension_of {stem extension : String} (filled : stem ≠ "")
    (flat : '.' ∉ extension.toList) (ends : extension ≠ "") :
    stemAndExtension (stem ++ ("." ++ extension)) = (stem, some extension) := by
  have reversed : (stem ++ ("." ++ extension)).toList.reverse =
      extension.toList.reverse ++ '.' :: stem.toList.reverse := by
    simp
  have cut := Text.cut_first (mt List.mem_reverse.mp flat) stem.toList.reverse
  have other : stem ++ ("." ++ extension) ≠ ".." := by
    intro same
    have length := congrArg (fun s => s.toList.length) same
    have front := List.length_pos_iff.mpr (mt String.toList_eq_nil_iff.mp filled)
    have back := List.length_pos_iff.mpr (mt String.toList_eq_nil_iff.mp ends)
    simp only [String.toList_append, List.length_append] at length
    change stem.toList.length + (1 + extension.toList.length) = 2 at length
    omega
  rw [stemAndExtension, reversed]
  simp only [cut]
  rw [if_neg (by simp [filled, other])]
  simp

namespace Catalog

structure IsDescriptor (stem name : String) : Prop where
  filled : stem ≠ ""
  ends : name = stem ++ ".yaml" ∨ name = stem ++ ".yml"

theorem descriptor_iff {stem name : String} :
    isDescriptorName name = true ∧ (Path.stemAndExtension name).1 = stem ↔ IsDescriptor stem name := by
  have yaml : "." ++ "yaml" = ".yaml" := rfl
  have yml : "." ++ "yml" = ".yml" := rfl
  constructor
  · rintro ⟨descriptor, rfl⟩
    rw [isDescriptorName] at descriptor
    rcases parted : Path.stemAndExtension name with ⟨stem, _ | extension⟩
    · rw [parted] at descriptor
      cases descriptor
    · rw [parted] at descriptor
      obtain ⟨filled, whole⟩ := Path.extension_some parted
      have ends : extension = "yaml" ∨ extension = "yml" := by simpa using descriptor
      rcases ends with rfl | rfl
      · exact ⟨filled, .inl (by rw [whole, yaml])⟩
      · exact ⟨filled, .inr (by rw [whole, yml])⟩
  · rintro ⟨filled, rfl | rfl⟩
    · rw [isDescriptorName, ← yaml, Path.extension_of filled (by decide) (by decide)]
      exact ⟨rfl, rfl⟩
    · rw [isDescriptorName, ← yml, Path.extension_of filled (by decide) (by decide)]
      exact ⟨rfl, rfl⟩

def Holds (c : Catalog) (dir stem name : String) : Prop :=
  IsDescriptor stem name ∧ ∃ octets, c.files.Lists dir name octets

def Has (c : Catalog) (stem : String) : Prop :=
  ∃ dir ∈ c.dirs, ∃ name, c.Holds dir stem name

def FirstWith (c : Catalog) (stem dir : String) : Prop :=
  ∃ before behind, c.dirs = before ++ dir :: behind ∧ (∃ name, c.Holds dir stem name) ∧
    ∀ other ∈ before, ∀ name, ¬ c.Holds other stem name

theorem first_with_member {c : Catalog} {stem dir : String} (shelf : c.FirstWith stem dir) :
    dir ∈ c.dirs := by
  obtain ⟨before, behind, parts, -, -⟩ := shelf
  exact parts ▸ List.mem_append_right before List.mem_cons_self

theorem first_with_holds {c : Catalog} {stem dir : String} (shelf : c.FirstWith stem dir) :
    ∃ name, c.Holds dir stem name := by
  obtain ⟨before, behind, -, holds, -⟩ := shelf
  exact holds

structure Discovered (c : Catalog) (found : List (String × String)) : Prop where
  sorted : found.Pairwise fun a b => a.1 < b.1
  each : ∀ stem, (∃ path, (stem, path) ∈ found) ↔ c.Has stem
  first : ∀ stem path, (stem, path) ∈ found →
    ∃ dir name, c.FirstWith stem dir ∧ c.Holds dir stem name ∧ path = Path.join dir name

def offered (c : Catalog) (dir : String) : List (String × String) :=
  match c.files.list dir with
  | some entries => inDirectory dir entries
  | none => []

def firstListed (c : Catalog) (stem dir : String) : Option String :=
  ((c.offered dir).find? fun e => e.1 == stem).map fun e => e.2

theorem in_directory_iff {dir stem path : String} {entries : List (String × FileTree)} :
    (stem, path) ∈ inDirectory dir entries ↔ ∃ name octets, (name, FileTree.file octets) ∈ entries ∧
      IsDescriptor stem name ∧ path = Path.join dir name := by
  rw [inDirectory, List.mem_filterMap]
  constructor
  · rintro ⟨⟨name, t⟩, member, given⟩
    cases t with
    | directory inner => cases given
    | file octets =>
        by_cases descriptor : isDescriptorName name = true
        · simp only [if_pos descriptor, Option.some.injEq, Prod.mk.injEq] at given
          exact ⟨name, octets, member, descriptor_iff.mp ⟨descriptor, given.1⟩, given.2.symm⟩
        · simp only [if_neg descriptor] at given
          cases given
  · rintro ⟨name, octets, member, named, rfl⟩
    obtain ⟨descriptor, same⟩ := descriptor_iff.mpr named
    refine ⟨(name, .file octets), member, ?_⟩
    simp only [if_pos descriptor, same]

theorem offered_iff {c : Catalog} {dir stem path : String} :
    (stem, path) ∈ c.offered dir ↔ ∃ name, c.Holds dir stem name ∧ path = Path.join dir name := by
  rw [offered]
  simp only [Holds, FileTree.Lists]
  cases c.files.list dir with
  | none => simp
  | some entries =>
      simp only [in_directory_iff, Option.some.injEq, exists_eq_left']
      constructor
      · rintro ⟨name, octets, member, named, rfl⟩
        exact ⟨name, ⟨named, octets, member⟩, rfl⟩
      · rintro ⟨name, ⟨named, octets, member⟩, rfl⟩
        exact ⟨name, octets, member, named, rfl⟩

theorem first_listed_some {c : Catalog} {stem dir path : String}
    (listed : c.firstListed stem dir = some path) :
    ∃ name, c.Holds dir stem name ∧ path = Path.join dir name := by
  obtain ⟨e, found, rfl⟩ := Option.map_eq_some_iff.mp listed
  have same : e.1 = stem := by simpa using List.find?_some found
  exact offered_iff.mp (same ▸ List.mem_of_find?_eq_some found)

theorem first_listed_none {c : Catalog} {stem dir : String} :
    c.firstListed stem dir = none ↔ ∀ name, ¬ c.Holds dir stem name := by
  rw [firstListed, Option.map_eq_none_iff, List.find?_eq_none]
  constructor
  · intro unlisted name holds
    exact unlisted _ (offered_iff.mpr ⟨name, holds, rfl⟩) (beq_self_eq_true stem)
  · rintro unlisted ⟨other, path⟩ member same
    cases beq_iff_eq.mp same
    obtain ⟨name, holds, -⟩ := offered_iff.mp member
    exact unlisted name holds

theorem first_listed_isSome {c : Catalog} {stem dir : String} :
    (c.firstListed stem dir).isSome = true ↔ ∃ name, c.Holds dir stem name := by
  rw [Option.isSome_iff_ne_none, ne_eq, first_listed_none, not_forall_not]

theorem first_with_find {c : Catalog} {stem dir : String} :
    c.FirstWith stem dir ↔
      c.dirs.find? (fun other => (c.firstListed stem other).isSome) = some dir := by
  rw [List.find?_eq_some_iff_append, first_listed_isSome, FirstWith]
  simp only [Bool.not_eq_true', Option.isSome_eq_false_iff, Option.isNone_iff_eq_none,
    first_listed_none]
  constructor
  · rintro ⟨before, behind, parts, holds, absent⟩
    exact ⟨holds, before, behind, parts, absent⟩
  · rintro ⟨holds, before, behind, parts, absent⟩
    exact ⟨before, behind, parts, holds, absent⟩

theorem first_with_unique {c : Catalog} {stem one other : String} (foremost : c.FirstWith stem one)
    (too : c.FirstWith stem other) : one = other := by
  rw [first_with_find] at foremost too
  exact Option.some.inj (foremost.symm.trans too)

theorem first_with_some {c : Catalog} {stem : String} :
    (∃ dir, c.FirstWith stem dir) ↔ c.Has stem := by
  simp only [Has, first_with_find, ← Option.isSome_iff_exists, List.find?_isSome, first_listed_isSome]

theorem add_new_get (found : Dict String) (entries : List (String × String)) (stem : String) :
    (entries.foldl addNew found).get? stem =
      (found.get? stem).or ((entries.find? fun e => e.1 == stem).map fun e => e.2) := by
  induction entries generalizing found with
  | nil => exact (Option.or_none).symm
  | cons e rest ih =>
      rw [List.foldl_cons, ih, addNew, Dict.contains]
      by_cases same : e.1 = stem
      · rw [List.find?_cons_of_pos (by simpa using same), same]
        cases known : found.get? stem with
        | some path => simp [known]
        | none => simp [Dict.get_insert]
      · rw [List.find?_cons_of_neg (by simpa using same)]
        split
        · rfl
        · rw [Dict.get_insert, if_neg (Ne.symm same)]

theorem descriptors_offered (c : Catalog) :
    c.descriptors = (c.dirs.flatMap c.offered).foldl addNew Dict.empty := by
  rw [descriptors, List.foldl_flatMap]
  congr 1
  funext found dir
  rw [offered]
  cases c.files.list dir with
  | none => rfl
  | some entries => rfl

theorem descriptors_get (c : Catalog) (stem : String) :
    c.descriptors.get? stem = c.dirs.findSome? (c.firstListed stem) := by
  rw [descriptors_offered, add_new_get, List.find?_flatMap, List.map_findSome?]
  rfl

theorem descriptors_iff {c : Catalog} {stem path : String} :
    (stem, path) ∈ c.descriptors.toList ↔
      ∃ dir, c.FirstWith stem dir ∧ c.firstListed stem dir = some path := by
  rw [← Dict.get_some_iff, descriptors_get, List.findSome?_eq_some_iff]
  constructor
  · rintro ⟨before, dir, behind, parts, listed, absent⟩
    obtain ⟨name, holds, -⟩ := first_listed_some listed
    exact ⟨dir, ⟨before, behind, parts, ⟨name, holds⟩,
      fun other member => first_listed_none.mp (absent other member)⟩, listed⟩
  · rintro ⟨dir, ⟨before, behind, parts, -, absent⟩, listed⟩
    exact ⟨before, dir, behind, parts, listed,
      fun other member => first_listed_none.mpr (absent other member)⟩

theorem descriptors_discovered (c : Catalog) : c.Discovered c.descriptors.toList where
  sorted := c.descriptors.ascending
  each stem := by
    rw [← first_with_some]
    constructor
    · rintro ⟨path, found⟩
      obtain ⟨dir, foremost, -⟩ := descriptors_iff.mp found
      exact ⟨dir, foremost⟩
    · rintro ⟨dir, foremost⟩
      have holds := first_listed_isSome.mpr (first_with_holds foremost)
      obtain ⟨path, listed⟩ := Option.isSome_iff_exists.mp holds
      exact ⟨path, descriptors_iff.mpr ⟨dir, foremost, listed⟩⟩
  first stem path found := by
    obtain ⟨dir, foremost, listed⟩ := descriptors_iff.mp found
    obtain ⟨name, holds, same⟩ := first_listed_some listed
    exact ⟨dir, name, foremost, holds, same⟩

def withFiles (c : Catalog) (files : FileTree) : Catalog :=
  { c with files := files }

theorem holds_relisted {c : Catalog} {files : FileTree} (relisted : c.files.Relisted files)
    {dir stem name : String} : (c.withFiles files).Holds dir stem name ↔ c.Holds dir stem name := by
  rw [Holds, Holds, withFiles]
  simp only [FileTree.relisted_lists relisted]

theorem first_with_relisted {c : Catalog} {files : FileTree} (relisted : c.files.Relisted files)
    {stem dir : String} : (c.withFiles files).FirstWith stem dir ↔ c.FirstWith stem dir := by
  rw [FirstWith, FirstWith]
  simp only [holds_relisted relisted]
  rfl

theorem has_relisted {c : Catalog} {files : FileTree} (relisted : c.files.Relisted files)
    {stem : String} : (c.withFiles files).Has stem ↔ c.Has stem := by
  rw [← first_with_some, ← first_with_some]
  simp only [first_with_relisted relisted]

theorem relisted_discovered {c : Catalog} {files : FileTree} (relisted : c.files.Relisted files) :
    c.Discovered (c.withFiles files).descriptors.toList := by
  obtain ⟨sorted, each, paths⟩ := descriptors_discovered (c.withFiles files)
  simp only [has_relisted relisted] at each
  simp only [holds_relisted relisted, first_with_relisted relisted] at paths
  exact ⟨sorted, each, paths⟩

def Collides (c : Catalog) (stem dir : String) : Prop :=
  c.Holds dir stem (stem ++ ".yaml") ∧ c.Holds dir stem (stem ++ ".yml")

def Apart (c : Catalog) : Prop :=
  ∀ dir ∈ c.dirs, ∀ stem, ¬ c.Collides stem dir

theorem holds_unique {c : Catalog} {stem dir : String} (apart : ¬ c.Collides stem dir)
    {one other : String} (holds : c.Holds dir stem one) (too : c.Holds dir stem other) :
    one = other := by
  rcases holds.1.ends with rfl | rfl <;> rcases too.1.ends with rfl | rfl
  · rfl
  · exact absurd ⟨holds, too⟩ apart
  · exact absurd ⟨too, holds⟩ apart
  · rfl

theorem discovered_unique {c : Catalog}
    (apart : ∀ stem dir, c.FirstWith stem dir → ¬ c.Collides stem dir)
    {one other : List (String × String)} (discovered : c.Discovered one)
    (too : c.Discovered other) : one = other := by
  have inside : ∀ {one other : List (String × String)}, c.Discovered one → c.Discovered other →
      ∀ e ∈ one, e ∈ other := by
    rintro one other discovered too ⟨stem, path⟩ member
    obtain ⟨dir, name, foremost, holds, rfl⟩ := discovered.first stem path member
    obtain ⟨path, there⟩ := (too.each stem).mpr ((discovered.each stem).mp ⟨_, member⟩)
    obtain ⟨dir', name', foremost', holds', rfl⟩ := too.first stem path there
    cases first_with_unique foremost foremost'
    cases holds_unique (apart stem dir foremost) holds holds'
    exact there
  exact Dict.ascending_unique discovered.sorted too.sorted fun e =>
    ⟨inside discovered too e, inside too discovered e⟩

theorem promoted_taken {c : Catalog} (proper : c.files.Proper) {stem dir name : String}
    (foremost : c.FirstWith stem dir) (holds : c.Holds dir stem name) :
    (stem, Path.join dir name) ∈ (c.withFiles (c.files.promoted name)).descriptors.toList := by
  have relisted := FileTree.promoted_relisted name proper
  refine descriptors_iff.mpr ⟨dir, (first_with_relisted relisted).mpr foremost, ?_⟩
  obtain ⟨named, octets, lists⟩ := holds
  obtain ⟨behind, listed⟩ := FileTree.promoted_list proper lists
  obtain ⟨descriptor, same⟩ := descriptor_iff.mpr named
  rw [firstListed, offered, withFiles, listed]
  simp only [inDirectory, List.filterMap_cons, if_pos descriptor, same]
  rw [List.find?_cons_of_pos (by simp)]
  rfl

theorem holds_name {c : Catalog} (proper : c.files.Proper) {stem dir name : String}
    (holds : c.Holds dir stem name) : dir ≠ "" ∧ Path.IsName name := by
  obtain ⟨-, octets, entries, listed, member⟩ := holds
  obtain ⟨-, filled, -⟩ := FileTree.list_relative listed
  exact ⟨filled, FileTree.list_names proper listed member⟩

theorem colliding_paths {c : Catalog} (proper : c.files.Proper) {stem dir : String}
    (collides : c.Collides stem dir) :
    Path.join dir (stem ++ ".yaml") ≠ Path.join dir (stem ++ ".yml") := by
  obtain ⟨yaml, yml⟩ := collides
  obtain ⟨filled, named⟩ := holds_name proper yaml
  intro path
  have names := Path.join_inj filled named (holds_name proper yml).2 path
  rw [← String.toList_inj, String.toList_append, String.toList_append] at names
  exact absurd (List.append_cancel_left names) (by decide)

/-- However the directories are listed, discovery finds each stem once, in its first directory. The
listing decides between paths exactly where that directory holds a stem under both extensions. -/
theorem listing_decides_collisions_only {c : Catalog} (proper : c.files.Proper) :
    (∀ files, c.files.Relisted files → c.Discovered (c.withFiles files).descriptors.toList) ∧
    ((∀ one other, c.files.Relisted one → c.files.Relisted other →
        (c.withFiles one).descriptors.toList = (c.withFiles other).descriptors.toList) ↔
      ∀ stem dir, c.FirstWith stem dir → ¬ c.Collides stem dir) := by
  refine ⟨fun files => relisted_discovered, ?_, ?_⟩
  · intro alike stem dir foremost collides
    have same := alike _ _ (FileTree.promoted_relisted (stem ++ ".yaml") proper)
      (FileTree.promoted_relisted (stem ++ ".yml") proper)
    have one := promoted_taken proper foremost collides.1
    have other := promoted_taken proper foremost collides.2
    rw [same] at one
    have path := (Dict.get_some_iff.mpr one).symm.trans (Dict.get_some_iff.mpr other)
    exact colliding_paths proper collides (Option.some.inj path)
  · intro apart one other relisted too
    exact discovered_unique apart (relisted_discovered relisted) (relisted_discovered too)

theorem offered_apart {c : Catalog} (proper : c.files.Proper)
    (distinct : ∀ dir ∈ c.dirs, ((c.offered dir).map Prod.fst).Nodup) : c.Apart := by
  intro dir member stem collides
  have yaml := offered_iff.mpr ⟨_, collides.1, rfl⟩
  have yml := offered_iff.mpr ⟨_, collides.2, rfl⟩
  have same := List.inj_on_of_nodup_map (distinct dir member) yaml yml rfl
  exact colliding_paths proper collides (Prod.mk.inj same).2

def ofDirectories (directories : List (String × List (String × FileTree))) : Catalog where
  files := .directory (directories.map fun d => (d.1, .directory d.2))
  dirs := directories.map Prod.fst
  naming := ⟨"ci", "1"⟩
  expansion := ⟨Dict.empty, Dict.empty⟩

def described (source : String) : FileTree :=
  .file ("datasource: " ++ source ++ "\nquery-names: [q]\n").toUTF8.toList

theorem of_directories_proper {directories : List (String × List (String × FileTree))}
    (names : ∀ d ∈ directories, Path.IsName d.1) (distinct : (directories.map Prod.fst).Nodup)
    (inside : ∀ d ∈ directories, (FileTree.directory d.2).Proper) :
    (ofDirectories directories).files.Proper := by
  refine .directory (List.forall_mem_map.mpr names) ?_ (List.forall_mem_map.mpr inside)
  rw [List.map_map]
  exact distinct

def yamlFirst : Catalog :=
  ofDirectories [("d", [("a.yaml", described "one"), ("a.yml", described "two")])]

def ymlFirst : Catalog :=
  ofDirectories [("d", [("a.yml", described "two"), ("a.yaml", described "one")])]

theorem rivals_swapped :
    yamlFirst.files.Proper ∧ yamlFirst.files.Relisted ymlFirst.files ∧
      yamlFirst.descriptors.toList = [("a", "d/a.yaml")] ∧
      (yamlFirst.withFiles ymlFirst.files).descriptors.toList = [("a", "d/a.yml")] := by
  have inner : (FileTree.directory
      [("a.yaml", described "one"), ("a.yml", described "two")]).Proper := by
    refine .directory (by decide) (by decide) (List.forall_mem_cons.mpr ⟨.file _, ?_⟩)
    exact List.forall_mem_singleton.mpr (.file _)
  refine ⟨?_, ?_, by decide +kernel, by decide +kernel⟩
  · exact of_directories_proper (by decide) (by decide) (List.forall_mem_singleton.mpr inner)
  · refine .directory (List.Perm.refl _) fun name t u one other => ?_
    cases List.mem_singleton.mp one
    cases List.mem_singleton.mp other
    exact FileTree.relisted_shuffled inner (List.Perm.swap _ _ _)

-- The second directory's descriptor of `q` is never read.
def shelves : Catalog :=
  ofDirectories
    [("team", [("q.yml", described "one")]),
      ("shared", [("r.yaml", described "two"), ("q.yaml", described "[")])]

theorem shelves_proper : shelves.files.Proper := by
  refine of_directories_proper (by decide) (by decide) (List.forall_mem_cons.mpr ⟨?_, ?_⟩)
  · exact .directory (by decide) (by decide) (List.forall_mem_singleton.mpr (.file _))
  · refine List.forall_mem_singleton.mpr (.directory (by decide) (by decide) ?_)
    exact List.forall_mem_cons.mpr ⟨.file _, List.forall_mem_singleton.mpr (.file _)⟩

theorem shelves_apart : shelves.Apart :=
  offered_apart shelves_proper (by decide +kernel)

theorem shelves_searched :
    shelves.files.Proper ∧ ∀ files, shelves.files.Relisted files →
      (shelves.withFiles files).descriptors.toList =
        [("q", "team/q.yml"), ("r", "shared/r.yaml")] := by
  refine ⟨shelves_proper, fun files relisted => ?_⟩
  have apart : ∀ stem dir, shelves.FirstWith stem dir → ¬ shelves.Collides stem dir :=
    fun stem dir searched => shelves_apart dir (first_with_member searched) stem
  have same := (listing_decides_collisions_only shelves_proper).2.mpr apart files shelves.files
    relisted (FileTree.relisted_refl shelves_proper)
  rw [same]
  decide +kernel

end Catalog

end SqlBench
