import Mathlib.Data.List.Induction
import SqlBench.Proofs.Dict
import SqlBench.Proofs.Text
import SqlBench.QueryFile

set_option autoImplicit false

namespace SqlBench.QueryFile

open Text

def Marked (mark : String) (line : List Char) : Prop :=
  mark.toList <+: trimStart line

instance (mark : String) (line : List Char) : Decidable (Marked mark line) :=
  inferInstanceAs (Decidable (mark.toList <+: trimStart line))

-- The entry of a part: a key before the first colon and a value behind it, without blanks around them.
def said? (part : List Char) : Option (String × String) :=
  if ':' ∈ part then
    some (String.ofList (trim (part.takeWhile (· != ':'))),
      String.ofList (trim ((part.dropWhile (· != ':')).drop 1)))
  else none

def entriesIn (lines : List (List Char)) : List (String × String) :=
  (lines.filter fun line => Marked "--!" line).flatMap fun line =>
    (((trimStart line).drop 3).splitOn ';').filterMap said?

def plainIn (lines : List (List Char)) : List String :=
  (lines.filter fun line => ¬ Marked "--" line).map String.ofList

def written (content : String) : List (String × String) :=
  entriesIn (Text.lines content.toList)

def plainLines (content : String) : List String :=
  plainIn (Text.lines content.toList)

def Consistent (entries : List (String × String)) : Prop :=
  ∀ e ∈ entries, ∀ other ∈ entries, e.1 = other.1 → e.2 = other.2

instance (entries : List (String × String)) : Decidable (Consistent entries) :=
  inferInstanceAs (Decidable (∀ e ∈ entries, ∀ other ∈ entries, e.1 = other.1 → e.2 = other.2))

structure FirstConflict (entries : List (String × String)) (key earlier value : String) : Prop where
  place : ∃ before behind, entries = before ++ (key, value) :: behind ∧ Consistent before ∧
    (key, earlier) ∈ before
  different : earlier ≠ value

theorem said_none {part : List Char} (absent : ':' ∉ part) : said? part = none :=
  if_neg absent

theorem said_cut {front : List Char} (free : ':' ∉ front) (back : List Char) :
    said? (front ++ ':' :: back) =
      some (String.ofList (trim front), String.ofList (trim back)) := by
  have key : ∀ c ∈ front, (c != ':') = true := by
    intro c member
    exact bne_iff_ne.mpr fun same => free (same ▸ member)
  rw [said?, if_pos (by simp), List.takeWhile_append_of_pos key, List.dropWhile_append_of_pos key]
  simp

theorem said_trimmed (part : List Char) :
    (if (trim part).isEmpty then none
      else (cutAt ':' (trim part)).map fun e =>
        (String.ofList (trim e.1), String.ofList (trim e.2))) = said? part := by
  obtain ⟨before, behind, parts, front, back, -⟩ := trim_parts part
  have outside : ∀ blanks : List Char, (∀ c ∈ blanks, isBlank c = true) → ':' ∉ blanks :=
    fun blanks blank member => absurd (blank ':' member) (by decide)
  rcases cut_cases ':' (trim part) with ⟨absent, uncut⟩ | ⟨key, value, whole, free, cut⟩
  · have colonless : ':' ∉ part := by
      rw [parts, List.mem_append, List.mem_append]
      exact fun member => member.elim (fun h => h.elim (outside before front) absent)
        (outside behind back)
    rw [said_none colonless, uncut]
    exact ite_self _
  · have sides : part = (before ++ key) ++ ':' :: (value ++ behind) := by
      rw [parts, whole]
      simp only [List.append_assoc, List.cons_append]
    have remains : ':' ∉ before ++ key := by
      rw [List.mem_append]
      exact fun member => member.elim (outside before front) free
    have filled : ¬ (trim part).isEmpty = true := by
      rw [whole]
      simp
    rw [if_neg filled, cut, sides, said_cut remains, trim_blank_before front, trim_blank_behind back]
    rfl

theorem entries_parts (header : List Char) :
    entries header = (header.splitOn ';').filterMap said? := by
  rw [entries, List.filterMap_filter, List.filterMap_map, pieces_split]
  refine List.filterMap_congr fun part _ => ?_
  rw [← said_trimmed]
  cases empty : (trim part).isEmpty <;>
    simp only [Function.comp, empty, Bool.not_true, Bool.not_false, Bool.false_eq_true, if_true,
      if_false]

theorem marked_property {line : List Char} (marked : Marked "--!" line) :
    classify line = .header ((trimStart line).drop 3) := by
  obtain ⟨header, whole⟩ := marked
  have marks : afterStart ['-', '-', '!'] (trimStart line) = some header :=
    after_start_iff.mpr whole.symm
  rw [classify, marks, ← whole]
  rfl

theorem marked_comment {line : List Char} (marked : Marked "--" line)
    (unmarked : ¬ Marked "--!" line) : classify line = .comment := by
  obtain ⟨text, whole⟩ := marked
  have marks : afterStart ['-', '-'] (trimStart line) = some text := after_start_iff.mpr whole.symm
  have no : afterStart ['-', '-', '!'] (trimStart line) = none := by
    rw [Option.eq_none_iff_forall_ne_some]
    exact fun rest found => unmarked ⟨rest, (after_start_iff.mp found).symm⟩
  rw [classify, no, marks]

theorem unmarked_body {line : List Char} (unmarked : ¬ Marked "--" line) :
    classify line = .body line := by
  have no (mark rest : List Char) (longer : ['-', '-'] <+: mark) :
      afterStart mark (trimStart line) ≠ some rest := by
    intro found
    exact unmarked (longer.trans ⟨rest, (after_start_iff.mp found).symm⟩)
  rw [classify]
  cases header : afterStart ['-', '-', '!'] (trimStart line) with
  | some rest => exact absurd header (no _ _ ⟨['!'], rfl⟩)
  | none =>
      cases comment : afterStart ['-', '-'] (trimStart line) with
      | some rest => exact absurd comment (no _ _ (List.prefix_refl _))
      | none => rfl

theorem header_entries_written (content : String) : headerEntries content = written content := by
  rw [headerEntries, lines, written, entriesIn]
  induction Text.lines content.toList with
  | nil => rfl
  | cons line rest ih =>
      rw [List.map_cons, List.flatMap_cons, ih, List.filter_cons]
      by_cases property : Marked "--!" line
      · rw [if_pos (decide_eq_true property), List.flatMap_cons, marked_property property,
          ← entries_parts]
      · rw [if_neg (mt of_decide_eq_true property)]
        by_cases comment : Marked "--" line
        · rw [marked_comment comment property]
          rfl
        · rw [unmarked_body comment]
          rfl

theorem body_lines_plain (content : String) :
    (bodyLines content).map String.ofList = plainLines content := by
  rw [bodyLines, lines, plainLines, plainIn]
  induction Text.lines content.toList with
  | nil => rfl
  | cons line rest ih =>
      rw [List.map_cons, List.filterMap_cons, List.filter_cons]
      by_cases comment : Marked "--" line
      · rw [if_neg (by simpa using comment), ← ih]
        by_cases property : Marked "--!" line
        · rw [marked_property property]
        · rw [marked_comment comment property]
      · rw [if_pos (by simpa using comment), List.map_cons, ← ih, unmarked_body comment]
        rfl

theorem body_joined (content : String) :
    String.ofList (joinWith ['\n'] (bodyLines content)) = "\n".intercalate (plainLines content) := by
  have lists : (plainLines content).map String.toList = bodyLines content := by
    rw [← body_lines_plain, List.map_map]
    exact (List.map_congr_left fun s _ => String.toList_ofList).trans (List.map_id _)
  rw [join_with_intercalate, ← String.toList_inj, String.toList_ofList, String.toList_intercalate,
    lists]
  rfl

def Knows (known : Dict String) (before : List (String × String)) : Prop :=
  ∀ key value, known.get? key = some value ↔ (key, value) ∈ before

theorem known_consistent {known : Dict String} {before : List (String × String)}
    (knows : Knows known before) : Consistent before := by
  intro e there other also same
  have found := (knows e.1 e.2).mpr there
  rw [same, (knows other.1 other.2).mpr also] at found
  exact (Option.some.inj found).symm

theorem consistent_front {before behind : List (String × String)}
    (consistent : Consistent (before ++ behind)) : Consistent before :=
  fun e there other also => consistent e (List.mem_append_left behind there) other
    (List.mem_append_left behind also)

theorem add_refused {path key earlier value : String} {known : Dict String}
    {before : List (String × String)} (knows : Knows known before)
    (there : (key, earlier) ∈ before) (different : earlier ≠ value) :
    addProperty path known (key, value) =
      .error (.template path Dict.empty (.conflict key earlier value)) := by
  rw [addProperty, (knows key earlier).mpr there]
  exact if_neg different

theorem add_accepted {known : Dict String} {before : List (String × String)} {e : String × String}
    (path : String) (knows : Knows known before) (consistent : Consistent (before ++ [e])) :
    ∃ more, addProperty path known e = .ok more ∧ Knows more (before ++ [e]) := by
  rw [addProperty]
  cases found : known.get? e.1 with
  | none =>
      refine ⟨_, rfl, fun key value => ?_⟩
      rw [Dict.get_insert, List.mem_append, List.mem_singleton, Prod.mk.injEq, ← knows]
      by_cases same : key = e.1
      · subst same
        rw [if_pos rfl, found]
        simp [eq_comm]
      · simp [same]
  | some value =>
      have there := (knows e.1 value).mp found
      have same : value = e.2 := consistent (e.1, value) (List.mem_append_left [e] there) e
        (List.mem_append_right before (List.mem_singleton.mpr rfl)) rfl
      subst same
      refine ⟨known, if_pos rfl, fun key value => ?_⟩
      rw [knows, List.mem_append, List.mem_singleton]
      exact ⟨.inl, fun member => member.elim id fun same => same ▸ there⟩

-- By induction from the end: what comes before the last entry is known when it is added.
theorem collected {entries : List (String × String)} (path : String)
    (consistent : Consistent entries) :
    ∃ known, entries.foldlM (addProperty path) Dict.empty = .ok known ∧ Knows known entries := by
  induction entries using List.reverseRecOn with
  | nil => exact ⟨Dict.empty, rfl, fun key value => by simp [Dict.get?, Dict.empty]⟩
  | append_singleton before e ih =>
      obtain ⟨known, ok, knows⟩ := ih (consistent_front consistent)
      obtain ⟨more, added, holds⟩ := add_accepted path knows consistent
      refine ⟨more, ?_, holds⟩
      rw [List.foldlM_append, ok]
      change (addProperty path known e >>= fun d => pure d) = _
      rw [added]
      rfl

theorem collection_refused {path key earlier value : String} {entries : List (String × String)}
    (conflict : FirstConflict entries key earlier value) :
    entries.foldlM (addProperty path) Dict.empty =
      .error (.template path Dict.empty (.conflict key earlier value)) := by
  obtain ⟨⟨before, behind, rfl, consistent, there⟩, different⟩ := conflict
  obtain ⟨known, ok, knows⟩ := collected path consistent
  rw [List.foldlM_append, ok]
  change (addProperty path known (key, value) >>= _) = _
  rw [add_refused knows there different]
  rfl

theorem consistent_onward {front : List (String × String)} {e : String × String}
    (consistent : Consistent front) (fits : ∀ earlier, (e.1, earlier) ∈ front → earlier = e.2) :
    Consistent (front ++ [e]) := by
  intro fitting there other also same
  rw [List.mem_append, List.mem_singleton] at there also
  rcases there with there | rfl
  · rcases also with also | rfl
    · exact consistent fitting there other also same
    · exact fits fitting.2 (same ▸ there)
  · rcases also with also | rfl
    · exact (fits other.2 (same ▸ also)).symm
    · rfl

theorem first_conflict {entries : List (String × String)} (inconsistent : ¬ Consistent entries) :
    ∃ key earlier value, FirstConflict entries key earlier value := by
  induction entries using List.reverseRecOn with
  | nil => exact absurd (fun e there => nomatch there) inconsistent
  | append_singleton front e ih =>
      by_cases consistent : Consistent front
      · obtain ⟨earlier, there, different⟩ :
            ∃ earlier, (e.1, earlier) ∈ front ∧ earlier ≠ e.2 := by
          by_contra none
          refine inconsistent (consistent_onward consistent fun earlier there => ?_)
          by_contra different
          exact none ⟨earlier, there, different⟩
        exact ⟨e.1, earlier, e.2, ⟨front, [], rfl, consistent, there⟩, different⟩
      · obtain ⟨key, earlier, value, ⟨before, behind, parts, whole, there⟩, different⟩ := ih consistent
        refine ⟨key, earlier, value, ⟨before, behind ++ [e], ?_, whole, there⟩, different⟩
        rw [parts, List.append_assoc, List.cons_append]

theorem parse_consistent {content : String} (path : String)
    (consistent : Consistent (written content)) :
    ∃ f, parse path content = .ok f ∧ f.path = path ∧ Knows f.properties (written content) ∧
      f.body = "\n".intercalate (plainLines content) := by
  obtain ⟨known, ok, knows⟩ := collected path consistent
  refine ⟨⟨path, known, _⟩, ?_, rfl, knows, body_joined content⟩
  rw [parse, header_entries_written, ok]
  rfl

theorem parse_conflict {path content key earlier value : String}
    (conflict : FirstConflict (written content) key earlier value) :
    parse path content =
      .error (.template path Dict.empty (.conflict key earlier value)) := by
  rw [parse, header_entries_written, collection_refused conflict]
  rfl

def headerLine (properties : Dict String) : String :=
  "--! " ++ "; ".intercalate (properties.toList.map fun e => e.1 ++ ": " ++ e.2)

structure Plain (s : String) : Prop where
  bare : Bare s.toList
  whole : ';' ∉ s.toList
  single : '\n' ∉ s.toList

def Writable (properties : Dict String) : Prop :=
  ∀ e ∈ properties.toList, Plain e.1 ∧ Plain e.2 ∧ ':' ∉ e.1.toList

-- A line that a line break ends and nothing else.
structure OneLine (line : List Char) : Prop where
  single : '\n' ∉ line
  kept : line.getLast? ≠ some '\r'

theorem one_line_append {a b : List Char} (front : OneLine a) (back : OneLine b) :
    OneLine (a ++ b) where
  single member := (List.mem_append.mp member).elim front.single back.single
  kept last := by
    rw [List.getLast?_append, Option.or_eq_some_iff] at last
    exact last.elim back.kept fun both => front.kept both.2

theorem one_line_join {sep : List Char} {parts : List (List Char)} (between : OneLine sep)
    (all : ∀ p ∈ parts, OneLine p) : OneLine (sep.intercalate parts) := by
  induction parts with
  | nil => exact ⟨List.not_mem_nil, nofun⟩
  | cons first rest ih =>
      obtain ⟨front, back⟩ := List.forall_mem_cons.mp all
      cases rest with
      | nil => rwa [List.intercalate_singleton]
      | cons second more =>
          rw [List.intercalate_cons_cons]
          exact one_line_append (one_line_append front between) (ih back)

theorem one_line_plain {s : String} (plain : Plain s) : OneLine s.toList where
  single := plain.single
  kept last := absurd (plain.bare.last '\r' last) (by decide)

theorem lines_last {line : List Char} (one : OneLine line) (filled : line ≠ []) :
    Text.lines line = [line] := by
  rw [Text.lines, pieces_single one.single, linesOf, if_neg (mt List.isEmpty_iff.mp filled)]

theorem return_kept {line : List Char} (one : OneLine line) : withoutReturn line = line := by
  rw [withoutReturn]
  split
  · rename_i front reversed
    have last : line.getLast? = some '\r' := by rw [← List.head?_reverse, reversed]; rfl
    exact absurd last one.kept
  · rfl

theorem lines_first {line : List Char} (one : OneLine line) (rest : List Char) :
    Text.lines (line ++ '\n' :: rest) = line :: Text.lines rest := by
  obtain ⟨next, more, parts⟩ := List.exists_cons_of_ne_nil (pieces_some '\n' rest)
  rw [Text.lines, pieces_append, pieces_single one.single, Text.lines, parts, List.singleton_append,
    linesOf, return_kept one]
  exact List.cons_ne_nil next more

def entryText (e : String × String) : List Char :=
  e.1.toList ++ ':' :: ' ' :: e.2.toList

theorem header_line_text (properties : Dict String) :
    (headerLine properties).toList =
      ['-', '-', '!', ' '] ++ [';', ' '].intercalate (properties.toList.map entryText) := by
  have texts : (properties.toList.map fun e => e.1 ++ ": " ++ e.2).map String.toList =
      properties.toList.map entryText := by
    rw [List.map_map]
    refine List.map_congr_left fun e _ => ?_
    simp [entryText]
  rw [headerLine, String.toList_append, String.toList_intercalate, texts]
  rfl

theorem header_one_line {properties : Dict String} (writable : Writable properties) :
    OneLine (headerLine properties).toList := by
  rw [header_line_text]
  refine one_line_append ⟨by decide, by decide⟩
    (one_line_join ⟨by decide, by decide⟩ fun p member => ?_)
  obtain ⟨e, there, rfl⟩ := List.mem_map.mp member
  obtain ⟨key, value, -⟩ := writable e there
  have between : OneLine [':', ' '] := ⟨by decide, by decide⟩
  exact one_line_append (one_line_plain key) (one_line_append between (one_line_plain value))

theorem said_read {e : String × String} (key : Plain e.1) (value : Plain e.2)
    (free : ':' ∉ e.1.toList) : said? (' ' :: entryText e) = some e := by
  have space : ∀ c ∈ [' '], isBlank c = true := List.forall_mem_singleton.mpr (by decide)
  have cut : said? ([' '] ++ e.1.toList ++ ':' :: ([' '] ++ e.2.toList)) = _ :=
    said_cut (by simpa using free) _
  rw [trim_blank_before space, trim_blank_before space, trim_bare key.bare, trim_bare value.bare,
    String.ofList_toList, String.ofList_toList] at cut
  exact cut

theorem spaced_parts {parts : List (List Char)} (filled : parts ≠ []) :
    ' ' :: [';', ' '].intercalate parts = [';'].intercalate (parts.map (' ' :: ·)) := by
  induction parts with
  | nil => exact absurd rfl filled
  | cons first rest ih =>
      cases rest with
      | nil => rw [List.map_cons, List.map_nil, List.intercalate_singleton, List.intercalate_singleton]
      | cons second more =>
          have behind := ih (List.cons_ne_nil second more)
          rw [List.map_cons] at behind
          rw [List.map_cons, List.map_cons, List.intercalate_cons_cons, List.intercalate_cons_cons,
            ← behind]
          simp

theorem header_read {properties : Dict String} (writable : Writable properties) :
    ((' ' :: [';', ' '].intercalate (properties.toList.map entryText)).splitOn ';').filterMap said? =
      properties.toList := by
  by_cases empty : properties.toList = []
  · rw [empty]
    rfl
  · have filled : properties.toList.map entryText ≠ [] := mt List.map_eq_nil_iff.mp empty
    have free : ∀ p ∈ (properties.toList.map entryText).map (' ' :: ·), ';' ∉ p := by
      intro p member
      obtain ⟨text, made, rfl⟩ := List.mem_map.mp member
      obtain ⟨e, there, rfl⟩ := List.mem_map.mp made
      obtain ⟨key, value, -⟩ := writable e there
      have whole := key.whole
      have also := value.whole
      simp [entryText, whole, also]
    rw [spaced_parts filled, List.splitOn_intercalate _ free (mt List.map_eq_nil_iff.mp filled),
      List.map_map, List.filterMap_map]
    have read : ∀ e ∈ properties.toList,
        (said? ∘ (fun text => ' ' :: text) ∘ entryText) e = some e := by
      intro e there
      obtain ⟨key, value, colon⟩ := writable e there
      exact said_read key value colon
    rw [List.filterMap_congr read, List.filterMap_some]

theorem header_entries {properties : Dict String} (writable : Writable properties)
    (rest : List (List Char)) :
    entriesIn ((headerLine properties).toList :: rest) = properties.toList ++ entriesIn rest := by
  have marked : Marked "--!" (headerLine properties).toList := by
    rw [header_line_text]
    exact ⟨_, rfl⟩
  have behind : (trimStart (headerLine properties).toList).drop 3 =
      ' ' :: [';', ' '].intercalate (properties.toList.map entryText) := by
    rw [header_line_text]
    rfl
  rw [entriesIn, List.filter_cons, if_pos (decide_eq_true marked), List.flatMap_cons, behind,
    header_read writable]
  rfl

theorem header_unseen (properties : Dict String) (rest : List (List Char)) :
    plainIn ((headerLine properties).toList :: rest) = plainIn rest := by
  have marked : Marked "--" (headerLine properties).toList := by
    rw [header_line_text]
    exact ⟨_, rfl⟩
  rw [plainIn, List.filter_cons, if_neg (by simpa using marked)]
  rfl

theorem properties_known {properties known : Dict String} (knows : Knows known properties.toList) :
    known = properties :=
  Dict.ext (Dict.ascending_unique known.ascending properties.ascending fun e => by
    rw [← Dict.get_some_iff, knows])

theorem properties_consistent (properties : Dict String) : Consistent properties.toList :=
  known_consistent fun _ _ => Dict.get_some_iff

theorem header_parsed {properties : Dict String} {path content : String} {rest : List (List Char)}
    (writable : Writable properties) (silent : entriesIn rest = [])
    (lined : Text.lines content.toList = (headerLine properties).toList :: rest) :
    parse path content = .ok ⟨path, properties, "\n".intercalate (plainIn rest)⟩ := by
  have entries : written content = properties.toList := by
    rw [written, lined, header_entries writable, silent, List.append_nil]
  have consistent : Consistent (written content) := entries ▸ properties_consistent properties
  obtain ⟨f, ok, rfl, knows, body⟩ := parse_consistent path consistent
  rw [entries] at knows
  rw [plainLines, lined, header_unseen] at body
  rw [ok, ← properties_known knows, ← body]

structure Read (path content : String) : Prop where
  accepted : (∃ f, parse path content = .ok f) ↔ Consistent (written content)
  named : ∀ f, parse path content = .ok f → f.path = path
  properties : ∀ f, parse path content = .ok f → ∀ key value,
    f.property key = some value ↔ (key, value) ∈ written content
  body : ∀ f, parse path content = .ok f → f.body = "\n".intercalate (plainLines content)
  conflict : ¬ Consistent (written content) →
    ∃ key earlier value, FirstConflict (written content) key earlier value
  refused : ∀ key earlier value, FirstConflict (written content) key earlier value →
    parse path content = .error (.template path Dict.empty (.conflict key earlier value))

theorem content_read (path content : String) : Read path content := by
  have refused : ∀ key earlier value, FirstConflict (written content) key earlier value →
      parse path content = .error (.template path Dict.empty (.conflict key earlier value)) :=
    fun key earlier value => parse_conflict
  have conflict : ¬ Consistent (written content) →
      ∃ key earlier value, FirstConflict (written content) key earlier value := first_conflict
  have accepted : ∀ f, parse path content = .ok f → Consistent (written content) := by
    intro f ok
    by_contra inconsistent
    obtain ⟨key, earlier, value, apart⟩ := conflict inconsistent
    cases ok.symm.trans (refused key earlier value apart)
  have found : ∀ f, parse path content = .ok f → f.path = path ∧
      Knows f.properties (written content) ∧ f.body = "\n".intercalate (plainLines content) := by
    intro f ok
    obtain ⟨g, same, facts⟩ := parse_consistent path (accepted f ok)
    cases ok.symm.trans same
    exact facts
  refine ⟨⟨fun ⟨f, ok⟩ => accepted f ok, fun consistent => ?_⟩, fun f ok => (found f ok).1,
    fun f ok => (found f ok).2.1, fun f ok => (found f ok).2.2, conflict, refused⟩
  obtain ⟨f, ok, -⟩ := parse_consistent path consistent
  exact ⟨f, ok⟩

/-- A query file is read exactly when its header lines never give one key two values, comments have no
part in what it renders, and a header that is written reads back. -/
theorem headers_read :
    (∀ path content, Read path content) ∧
    (∀ path a b f g, parse path a = .ok f → parse path b = .ok g → plainLines a = plainLines b →
      ∀ environment seen, f.statements environment seen = g.statements environment seen) ∧
    ∀ path properties, Writable properties →
      parse path (headerLine properties) = .ok ⟨path, properties, ""⟩ ∧
      ∀ rest, written rest = [] → parse path (headerLine properties ++ "\n" ++ rest) =
        .ok ⟨path, properties, "\n".intercalate (plainLines rest)⟩ := by
  refine ⟨content_read, fun path a b f g read also same environment seen => ?_,
    fun path properties writable => ?_⟩
  · have bodies : f.body = g.body := by
      rw [(content_read path a).body f read, (content_read path b).body g also, same]
    have paths : f.path = g.path := by
      rw [(content_read path a).named f read, (content_read path b).named g also]
    rw [statements, statements, bodies, paths]
  · have one := header_one_line writable
    have filled : (headerLine properties).toList ≠ [] := by
      rw [header_line_text]
      exact List.cons_ne_nil _ _
    refine ⟨header_parsed writable rfl (lines_last one filled), fun rest silent => ?_⟩
    refine header_parsed writable silent ?_
    rw [String.toList_append, String.toList_append, List.append_assoc]
    exact lines_first one rest.toList

def shop : Dict String :=
  Dict.ofList [("datasource", "warehouse: east"), ("owner", "")]

theorem shop_header_read :
    headerLine shop = "--! datasource: warehouse: east; owner: " ∧ Writable shop ∧
      parse "scan.sql" (headerLine shop ++ "\n" ++ " -- all of it\r\nSELECT 1;\nSELECT 2") =
        .ok ⟨"scan.sql", shop, "SELECT 1;\nSELECT 2"⟩ ∧
      parse "scan.sql" "--! owner: a; ; b\n\t--!owner:a;kind:x\nSELECT 1\n--! kind : y; owner: b" =
        .error (.template "scan.sql" Dict.empty (.conflict "kind" "x" "y")) := by
  obtain ⟨read, -, reads⟩ := headers_read
  have writable : Writable shop := by
    intro e member
    have entries : e ∈ [("datasource", "warehouse: east"), ("owner", "")] := member
    rcases List.mem_pair.mp entries with rfl | rfl
    · exact ⟨⟨bare_of_trim (by decide), by decide, by decide⟩,
        ⟨bare_of_trim (by decide), by decide, by decide⟩, by decide⟩
    · exact ⟨⟨bare_of_trim (by decide), by decide, by decide⟩,
        ⟨bare_of_trim (by decide), by decide, by decide⟩, by decide⟩
  have body : "\n".intercalate (plainLines " -- all of it\r\nSELECT 1;\nSELECT 2") =
      "SELECT 1;\nSELECT 2" := by
    decide +kernel
  have conflict : FirstConflict
      (written "--! owner: a; ; b\n\t--!owner:a;kind:x\nSELECT 1\n--! kind : y; owner: b")
      "kind" "x" "y" :=
    ⟨⟨[("owner", "a"), ("owner", "a"), ("kind", "x")], [("owner", "b")], by decide +kernel, by decide,
      by decide⟩, by decide⟩
  refine ⟨by decide +kernel, writable, ?_, (read _ _).refused _ _ _ conflict⟩
  exact body ▸ (reads "scan.sql" shop writable).2 _ (by decide +kernel)

end SqlBench.QueryFile
