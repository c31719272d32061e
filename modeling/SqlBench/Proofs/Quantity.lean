import Mathlib.Algebra.Order.Field.Rat
import Mathlib.Data.Nat.Digits.Defs
import Mathlib.Tactic.NormNum
import SqlBench.Measurement.Quantity
import SqlBench.Proofs.Text

set_option autoImplicit false

namespace SqlBench

open Text

namespace Decimal

def ofDigits (digits : List Char) : Nat :=
  Nat.ofDigits 10 (digits.reverse.map fun c => c.toNat - 48)

def behindPoint : Option (List Char) → List Char
  | none => []
  | some digits => '.' :: digits

structure Spelling where
  isNegative : Bool
  whole : List Char
  fraction : Option (List Char)

namespace Spelling

def places (s : Spelling) : List Char :=
  s.fraction.getD []

def body (s : Spelling) : List Char :=
  s.whole ++ behindPoint s.fraction

def text (s : Spelling) : List Char :=
  if s.isNegative then '-' :: s.body else s.body

def exact (s : Spelling) : ℚ :=
  (if s.isNegative then -1 else 1) * (ofDigits (s.whole ++ s.places) / 10 ^ s.places.length)

-- The double nearest to a number that is written with so many places. Of one far outside the range of
-- doubles only the size is looked at.
def nearest (n places : Nat) : Float :=
  let size : Int := (Nat.toDigits 10 n).length - places
  if n = 0 then 0.0
  else if 400 < size then 1.0 / 0.0
  else if size < -400 then 0.0
  else Float.ofScientific n (0 < places) places

def rounded (s : Spelling) : Float :=
  if s.isNegative then -nearest (ofDigits (s.whole ++ s.places)) s.places.length
  else nearest (ofDigits (s.whole ++ s.places)) s.places.length

structure Proper (s : Spelling) : Prop where
  digits : ∀ c ∈ s.whole ++ s.places, c.isDigit = true
  filled : s.whole ++ s.places ≠ []

def numeral (s : Spelling) : Numeral :=
  ⟨s.whole ++ s.places, s.places.length, 0⟩

def signed (s : Spelling) : Signed :=
  ⟨s.isNegative, .finite s.numeral⟩

end Spelling

def Signed.exact : Signed → Option ℚ
  | ⟨isNegative, .finite n⟩ =>
    some ((if isNegative then -1 else 1) * (natOf n.digits * 10 ^ (n.exponent - n.places)))
  | _ => none

theorem nat_of_digits (digits : List Char) : natOf digits = ofDigits digits := by
  induction digits using List.reverseRecOn with
  | nil => rfl
  | append_singleton front c ih =>
      have last : ofDigits (front ++ [c]) = (c.toNat - 48) + 10 * ofDigits front := by
        rw [ofDigits, List.reverse_append]
        exact Nat.ofDigits_cons
      rw [natOf, List.foldl_append, ← natOf, ih, last, Nat.add_comm]
      rfl

theorem signed_exact (s : Spelling) : s.signed.exact = some s.exact := by
  simp only [Spelling.signed, Signed.exact, Spelling.exact, Spelling.numeral, nat_of_digits, zero_sub,
    zpow_neg, zpow_natCast, div_eq_mul_inv]

theorem scaled_nearest (n places : Nat) : scaled n (0 - Int.ofNat places) = Spelling.nearest n places := by
  cases places with
  | zero => rfl
  | succ places =>
      have exponent : (0 : Int) - Int.ofNat (places + 1) = .negSucc places := Int.zero_sub _
      have size : Int.ofNat (Nat.toDigits 10 n).length + Int.negSucc places =
          (Nat.toDigits 10 n).length - (places + 1 : Nat) := rfl
      rw [exponent, scaled.eq_def, Spelling.nearest]
      dsimp only
      rw [size, decide_eq_true (Nat.succ_pos places)]

theorem signed_rounded (s : Spelling) : s.signed.value = s.rounded := by
  have magnitude : s.signed.magnitude.value =
      Spelling.nearest (ofDigits (s.whole ++ s.places)) s.places.length := by
    rw [← nat_of_digits, ← scaled_nearest]
    rfl
  rw [Signed.value, magnitude]
  rfl

theorem span_digits {digits rest : List Char} (all : ∀ c ∈ digits, c.isDigit = true)
    (stop : ∀ c, rest.head? = some c → c.isDigit = false) :
    spanDigits (digits ++ rest) = (digits, rest) := by
  obtain ⟨front, back⟩ := while_ends all stop
  rw [spanDigits, front, back]

theorem span_parts (s : List Char) : ∃ digits rest, spanDigits s = (digits, rest) ∧
    s = digits ++ rest ∧ ∀ c ∈ digits, c.isDigit = true :=
  ⟨_, _, rfl, List.takeWhile_append_dropWhile.symm, fun _ member => List.mem_takeWhile_imp member⟩

theorem span_fraction {fraction : Option (List Char)}
    (all : ∀ c ∈ fraction.getD [], c.isDigit = true) :
    spanFraction (behindPoint fraction) = (fraction.getD [], []) := by
  cases fraction with
  | none => rfl
  | some digits =>
      have spans : spanDigits (digits ++ []) = (digits, []) := span_digits all nofun
      rwa [List.append_nil] at spans

theorem fraction_parts (s : List Char) : ∃ (fraction : Option (List Char)) (rest : List Char),
    spanFraction s = (fraction.getD [], rest) ∧ s = behindPoint fraction ++ rest ∧
      ∀ c ∈ fraction.getD [], c.isDigit = true := by
  rw [spanFraction.eq_def]
  split
  · rename_i more
    obtain ⟨digits, rest, spans, parts, all⟩ := span_parts more
    exact ⟨some digits, rest, spans, by rw [parts]; rfl, all⟩
  · exact ⟨none, s, rfl, rfl, by simp⟩

theorem numeral_read {s : Spelling} (proper : s.Proper) : readNumeral s.body = some s.numeral := by
  obtain ⟨front, back⟩ := List.forall_mem_append.mp proper.digits
  have stop : ∀ c, (behindPoint s.fraction).head? = some c → c.isDigit = false := by
    cases s.fraction with
    | none => exact nofun
    | some digits =>
        rintro c ⟨⟩
        rfl
  have filled : (s.whole.isEmpty && s.places.isEmpty) = false := by
    simpa [Bool.and_eq_false_iff, or_iff_not_imp_left] using proper.filled
  rw [readNumeral, Spelling.body, span_digits front stop]
  dsimp only
  rw [span_fraction back]
  dsimp only
  rw [← Spelling.places, filled]
  rfl

end Decimal

def Factor.exact (f : Factor) : ℚ :=
  f.digits / 10 ^ f.places

namespace Quantity

open Decimal

theorem number_char_iff {c : Char} :
    isNumberChar c = true ↔ c.isDigit = true ∨ c = '.' ∨ c = '-' := by
  simp [isNumberChar, or_assoc]

-- No letter stands in a number, so it has no exponent and no name.
theorem number_char_lower {c : Char} (number : isNumberChar c = true) : c.toLower = c := by
  rcases number_char_iff.mp number with digit | rfl | rfl
  · have below := (Char.isDigit_iff_toNat.mp digit).2
    exact dif_neg fun upper =>
      absurd (Nat.le_trans (UInt32.le_iff_toNat_le.mp upper.1) below) (by decide)
  · rfl
  · rfl

theorem numeral_spelt {s : List Char} {n : Numeral} (numeric : ∀ c ∈ s, isNumberChar c = true)
    (isNegative : Bool) (reads : readNumeral s = some n) :
    ∃ spelling : Spelling, spelling.Proper ∧ s = spelling.body ∧
      spelling.signed = ⟨isNegative, .finite n⟩ := by
  obtain ⟨whole, rest, spans, parts, front⟩ := span_parts s
  obtain ⟨fraction, remains, splits, parts', back⟩ := fraction_parts rest
  rw [readNumeral, spans] at reads
  dsimp only at reads
  rw [splits] at reads
  dsimp only at reads
  split at reads
  · cases reads
  · rename_i filled
    have ends : remains = [] := by
      cases remains with
      | nil => rfl
      | cons c more =>
          have member : c ∈ s := by
            rw [parts, parts']
            simp
          have letter : ¬ (c = 'e' ∨ c = 'E') := by
            rintro (rfl | rfl)
            · exact absurd (numeric _ member) (by decide)
            · exact absurd (numeric _ member) (by decide)
          have refused : readExponent (c :: more) = none := if_neg letter
          rw [refused] at reads
          cases reads
    subst ends
    cases reads
    refine ⟨⟨isNegative, whole, fraction⟩, ⟨List.forall_mem_append.mpr ⟨front, back⟩, ?_⟩, ?_, rfl⟩
    · simpa [Spelling.places] using filled
    · rw [parts, parts', List.append_nil]
      rfl

theorem unsigned_numeral {s : List Char} (numeric : ∀ c ∈ s, isNumberChar c = true) :
    readUnsigned s = (readNumeral s).map .finite := by
  have lower : s.map Char.toLower = s :=
    (List.map_congr_left fun c member => number_char_lower (numeric c member)).trans (List.map_id s)
  have unnamed : ∀ name : String, (∃ c ∈ name.toList, isNumberChar c = false) →
      String.ofList s ≠ name := by
    rintro name ⟨c, member, letter⟩ rfl
    rw [String.toList_ofList] at member
    exact Bool.false_ne_true (letter.symm.trans (numeric c member))
  rw [readUnsigned, lower]
  split
  · exact absurd ‹_› (unnamed "inf" ⟨'i', by decide, rfl⟩)
  · exact absurd ‹_› (unnamed "infinity" ⟨'i', by decide, rfl⟩)
  · exact absurd ‹_› (unnamed "nan" ⟨'n', by decide, rfl⟩)
  · rfl

theorem body_chars {s : Spelling} (proper : s.Proper) {c : Char} (member : c ∈ s.body) :
    c.isDigit = true ∨ c = '.' := by
  obtain ⟨front, back⟩ := List.forall_mem_append.mp proper.digits
  rcases List.mem_append.mp member with whole | behind
  · exact .inl (front c whole)
  · rw [Spelling.places] at back
    cases point : s.fraction with
    | none =>
        rw [point] at behind
        exact absurd behind List.not_mem_nil
    | some digits =>
        rw [point] at behind back
        rcases List.mem_cons.mp behind with rfl | digit
        · exact .inr rfl
        · exact .inl (back c digit)

theorem body_numeric {s : Spelling} (proper : s.Proper) : ∀ c ∈ s.body, isNumberChar c = true :=
  fun _ member => number_char_iff.mpr ((body_chars proper member).imp_right Or.inl)

theorem text_numeric {s : Spelling} (proper : s.Proper) : ∀ c ∈ s.text, isNumberChar c = true := by
  rw [Spelling.text]
  split
  · exact List.forall_mem_cons.mpr ⟨rfl, body_numeric proper⟩
  · exact body_numeric proper

theorem signed_read {s : Spelling} (proper : s.Proper) : readSigned s.text = some s.signed := by
  have reads : readUnsigned s.body = some (.finite s.numeral) := by
    rw [unsigned_numeral (body_numeric proper), numeral_read proper]
    rfl
  have signless : ∀ sign more, s.body = sign :: more → sign.isDigit = true ∨ sign = '.' :=
    fun sign more same => body_chars proper (same ▸ List.mem_cons_self)
  rw [Spelling.text, Spelling.signed]
  split
  · rename_i negative
    rw [readSigned, reads, negative]
    rfl
  · rename_i positive
    rw [readSigned.eq_def, Bool.eq_false_iff.mpr positive]
    split
    · rename_i more same
      exact absurd (signless '-' more same) (by decide)
    · rename_i more same
      exact absurd (signless '+' more same) (by decide)
    · rw [reads]
      rfl

theorem signed_spelt {s : List Char} {r : Signed} (numeric : ∀ c ∈ s, isNumberChar c = true)
    (reads : readSigned s = some r) :
    ∃ spelling : Spelling, spelling.Proper ∧ s = spelling.text ∧ r = spelling.signed := by
  have spelt : ∀ isNegative {body}, (∀ c ∈ body, isNumberChar c = true) →
      (readUnsigned body).map (⟨isNegative, ·⟩) = some r → ∃ spelling : Spelling, spelling.Proper ∧
        body = spelling.body ∧ spelling.isNegative = isNegative ∧ r = spelling.signed := by
    intro isNegative body numeric reads
    rw [unsigned_numeral numeric] at reads
    obtain ⟨magnitude, found, rfl⟩ := Option.map_eq_some_iff.mp reads
    obtain ⟨n, numeral, rfl⟩ := Option.map_eq_some_iff.mp found
    obtain ⟨spelling, proper, same, signed⟩ := numeral_spelt numeric isNegative numeral
    exact ⟨spelling, proper, same, congrArg Signed.isNegative signed, signed.symm⟩
  rw [readSigned.eq_def] at reads
  split at reads
  · obtain ⟨spelling, proper, rfl, negative, same⟩ :=
      spelt true (List.forall_mem_cons.mp numeric).2 reads
    exact ⟨spelling, proper, (by rw [Spelling.text, if_pos negative]), same⟩
  · exact absurd (numeric '+' List.mem_cons_self) (by decide)
  · obtain ⟨spelling, proper, rfl, positive, same⟩ := spelt false numeric reads
    refine ⟨spelling, proper, ?_, same⟩
    rw [Spelling.text, if_neg (Bool.eq_false_iff.mp positive)]

def suffixes : MeasureUnit → List (String × ℚ)
  | .milliseconds => [("ns", 1 / 1000000), ("us", 1 / 1000), ("ms", 1), ("s", 1000), ("m", 60 * 1000),
      ("h", 60 * 60 * 1000), ("d", 24 * 60 * 60 * 1000)]
  | .bytes => [("B", 1), ("kB", 1024), ("MB", 1024 ^ 2), ("GB", 1024 ^ 3), ("TB", 1024 ^ 4),
      ("PB", 1024 ^ 5)]
  | .queriesPerSecond => []
  | .plain => []

def StandsFor (unit : MeasureUnit) (suffix : String) (multiple : ℚ) : Prop :=
  suffix = "" ∧ multiple = 1 ∨ (suffix, multiple) ∈ suffixes unit

theorem factor_stands {unit : MeasureUnit} {suffix : String} {f : Factor}
    (found : factor? unit suffix = some f) : StandsFor unit suffix f.exact := by
  unfold factor? at found
  split at found
  · rename_i empty
    cases found
    exact .inl ⟨String.isEmpty_iff.mp empty, by norm_num [Factor.exact]⟩
  · right
    split at found <;> cases found <;> norm_num [suffixes, Factor.exact]

theorem factor_found {unit : MeasureUnit} {suffix : String} {multiple : ℚ}
    (stands : StandsFor unit suffix multiple) :
    ∃ f, factor? unit suffix = some f ∧ f.exact = multiple := by
  have listed : ∀ e ∈ suffixes unit, (factor? unit e.1).map Factor.exact = some e.2 := by
    cases unit <;> decide +kernel
  rcases stands with ⟨rfl, rfl⟩ | member
  · exact ⟨⟨1, 0⟩, rfl, by norm_num [Factor.exact]⟩
  · exact Option.map_eq_some_iff.mp (listed _ member)

theorem suffix_bare {unit : MeasureUnit} {suffix : String} {multiple : ℚ}
    (stands : StandsFor unit suffix multiple) :
    Bare suffix.toList ∧ ∀ c, suffix.toList.head? = some c → isNumberChar c = false := by
  have listed : ∀ e ∈ suffixes unit, trim e.1.toList = e.1.toList ∧
      (e.1.toList.head?.all fun c => !isNumberChar c) = true := by
    cases unit <;> decide +kernel
  rcases stands with ⟨rfl, rfl⟩ | member
  · exact ⟨⟨nofun, nofun⟩, nofun⟩
  · obtain ⟨same, starts⟩ := listed _ member
    refine ⟨bare_of_trim same, fun c head => ?_⟩
    rw [head] at starts
    simpa using starts

-- How a text is written if it is a quantity of a unit: a number and a multiple of the unit.
def Spells (unit : MeasureUnit) (text : String) (number : Spelling) (multiple : ℚ) : Prop :=
  number.Proper ∧ ∃ blanks suffix, trim text.toList = number.text ++ blanks ++ suffix.toList ∧
    (∀ c ∈ blanks, isBlank c = true) ∧ StandsFor unit suffix multiple

def exact (q : Quantity) : Option ℚ :=
  q.number.exact.map (· * q.factor.exact)

theorem blank_no_number {c : Char} (blank : isBlank c = true) : isNumberChar c = false := by
  by_contra number
  rcases number_char_iff.mp (Bool.eq_true_of_not_eq_false number) with digit | rfl | rfl
  · obtain ⟨low, high⟩ := Char.isDigit_iff_toNat.mp digit
    simp only [Char.reduceToNat] at low high
    simp only [isBlank, Bool.or_eq_true, Bool.and_eq_true, decide_eq_true_eq, beq_iff_eq] at blank
    omega
  · exact absurd blank (by decide)
  · exact absurd blank (by decide)

theorem spelt_recognised {unit : MeasureUnit} {text : String} {number : Spelling} {multiple : ℚ}
    (spells : Spells unit text number multiple) :
    ∃ f, recognise text unit = .ok ⟨number.signed, f⟩ ∧ f.exact = multiple := by
  obtain ⟨proper, blanks, suffix, whole, blank, stands⟩ := spells
  obtain ⟨f, found, same⟩ := factor_found stands
  obtain ⟨bare, starts⟩ := suffix_bare stands
  have stop : ∀ c, (blanks ++ suffix.toList).head? = some c → isNumberChar c = false := by
    intro c head
    cases blanks with
    | nil => exact starts c head
    | cons b rest =>
        cases head
        exact blank_no_number (blank c List.mem_cons_self)
  have cut := while_ends (text_numeric proper) stop
  rw [← List.append_assoc, ← whole] at cut
  have trimmed : trim (blanks ++ suffix.toList) = suffix.toList := by
    rw [trim_blank_before blank, trim_bare bare]
  refine ⟨f, ?_, same⟩
  rw [recognise]
  dsimp only
  rw [cut.1, cut.2, signed_read proper, trimmed, String.ofList_toList]
  dsimp only
  rw [found]

theorem recognised_spelt {unit : MeasureUnit} {text : String} {q : Quantity}
    (ok : recognise text unit = .ok q) : ∃ number multiple, Spells unit text number multiple := by
  rw [recognise] at ok
  dsimp only at ok
  split at ok
  · cases ok
  · rename_i number reads
    split at ok
    · rename_i f found
      obtain ⟨spelling, proper, same, -⟩ :=
        signed_spelt (fun c member => List.mem_takeWhile_imp member) reads
      have parts : trim text.toList = spelling.text ++ (trim text.toList).dropWhile isNumberChar := by
        rw [← same, List.takeWhile_append_dropWhile]
      have bare := trim_is_bare text.toList
      obtain ⟨blanks, blank, rest⟩ := blanks_before (parts ▸ bare.last)
      refine ⟨spelling, f.exact, proper, blanks, _, ?_, blank, factor_stands found⟩
      rw [String.toList_ofList, List.append_assoc, ← rest]
      exact parts
    · cases ok

theorem recognise_cases (text : String) (unit : MeasureUnit) :
    (∃ q, recognise text unit = .ok q) ∨ ∃ reason, recognise text unit = .error (.permanent reason) := by
  rw [recognise]
  dsimp only
  split
  · exact .inr ⟨_, rfl⟩
  · split
    · exact .inl ⟨_, rfl⟩
    · exact .inr ⟨_, rfl⟩

-- What is read from a text: the number that is written, times what its suffix stands for. Both are
-- rounded before they are multiplied.
structure ReadAs (unit : MeasureUnit) (text : String) (number : Spelling) (multiple : ℚ) : Prop where
  recognised : ∃ q, recognise text unit = .ok q ∧ q.exact = some (number.exact * multiple)
  value : ∃ digits places : Nat, multiple = digits / 10 ^ places ∧
    parse text unit = .ok (number.rounded * Float.ofScientific digits true places)

theorem spelt_read {unit : MeasureUnit} {text : String} {number : Spelling} {multiple : ℚ}
    (spells : Spells unit text number multiple) : ReadAs unit text number multiple := by
  obtain ⟨f, ok, rfl⟩ := spelt_recognised spells
  refine ⟨⟨_, ok, ?_⟩, f.digits, f.places, rfl, ?_⟩
  · rw [exact, signed_exact]
    rfl
  · rw [parse, ok, ← signed_rounded]
    rfl

/-- A quantity is accepted if it is written as one, and read as the number times what its suffix
stands for. Every other text is refused for good. -/
theorem quantities_read (text : String) (unit : MeasureUnit) :
    ((∃ x, parse text unit = .ok x) ↔ ∃ number multiple, Spells unit text number multiple) ∧
    (∀ number multiple, Spells unit text number multiple → ReadAs unit text number multiple) ∧
    ((¬ ∃ number multiple, Spells unit text number multiple) →
      ∃ reason, parse text unit = .error (.permanent reason)) := by
  have spelt : (∃ q, recognise text unit = .ok q) →
      ∃ number multiple, Spells unit text number multiple :=
    fun ⟨q, ok⟩ => recognised_spelt ok
  refine ⟨⟨?_, ?_⟩, fun _ _ => spelt_read, ?_⟩
  · rintro ⟨x, ok⟩
    rcases recognise_cases text unit with accepted | ⟨reason, refused⟩
    · exact spelt accepted
    · rw [parse, refused] at ok
      cases ok
  · rintro ⟨number, multiple, spells⟩
    obtain ⟨digits, places, -, ok⟩ := (spelt_read spells).value
    exact ⟨_, ok⟩
  · intro other
    rcases recognise_cases text unit with accepted | ⟨reason, refused⟩
    · exact absurd (spelt accepted) other
    · exact ⟨reason, by rw [parse, refused]; rfl⟩

theorem owed_seconds_read :
    Spells .milliseconds "\t-1.50 s\n" ⟨true, ['1'], some ['5', '0']⟩ 1000 ∧
    (∃ digits places : Nat, (1000 : ℚ) = digits / 10 ^ places ∧ parse "\t-1.50 s\n" .milliseconds =
      .ok (-Float.ofScientific 150 true 2 * Float.ofScientific digits true places)) ∧
    (∃ reason, parse "1.5.0s" .milliseconds = .error (.permanent reason)) ∧
    ∃ reason, parse "3kB" .milliseconds = .error (.permanent reason) := by
  have spells : Spells .milliseconds "\t-1.50 s\n" ⟨true, ['1'], some ['5', '0']⟩ 1000 :=
    ⟨⟨List.all_eq_true.mp rfl, by decide⟩, [' '], "s", by decide, List.all_eq_true.mp rfl,
      .inr (by decide +kernel)⟩
  have refused : ∀ text reason, recognise text .milliseconds = .error (.permanent reason) →
      ¬ ∃ number multiple, Spells .milliseconds text number multiple := by
    intro text reason refused spelt
    obtain ⟨x, ok⟩ := (quantities_read text .milliseconds).1.mpr spelt
    rw [parse, refused] at ok
    cases ok
  have read := ((quantities_read _ _).2.1 _ _ spells).value
  exact ⟨spells, read, (quantities_read _ _).2.2 (refused _ (.unreadableQuantity "1.5.0s") rfl),
    (quantities_read _ _).2.2 (refused _ (.foreignSuffix "kB" "3kB" .milliseconds) rfl)⟩

end Quantity

end SqlBench
