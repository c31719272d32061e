import Mathlib.Algebra.Order.BigOperators.Group.List
import Mathlib.Algebra.Order.Field.Basic
import Mathlib.Data.Nat.Cast.Order.Ring
import Mathlib.Data.Rat.Sqrt
import Mathlib.Tactic.FieldSimp
import Mathlib.Tactic.Linarith
import Mathlib.Tactic.Ring
import SqlBench.Statistics

set_option autoImplicit false

namespace SqlBench.Statistics

-- Exact numbers. Which roots there are is left to `root`.
def exact {K : Type} [Field K] [LinearOrder K] (root : K → K) : Arithmetic K where
  zero := 0
  hundred := 100
  emptySum := 0
  add := (· + ·)
  sub := (· - ·)
  mul := (· * ·)
  div := (· / ·)
  root := root
  ofCount := Nat.cast
  isZero := fun a => a = 0
  less := fun a b => a < b
  isNumber := fun _ => true
  noLeast := 0
  noGreatest := 0

-- Exact numbers again, but that nothing is left of a division by zero and of what it goes into.
def watched {K : Type} [Field K] [LinearOrder K] (root : K → K) : Arithmetic (Option K) where
  zero := some 0
  hundred := some 100
  emptySum := some 0
  add := Option.map₂ (· + ·)
  sub := Option.map₂ (· - ·)
  mul := Option.map₂ (· * ·)
  div := fun a b => b.bind fun b => if b = 0 then none else a.map (· / b)
  root := Option.map root
  ofCount := fun n => some n
  isZero := fun a => a = some 0
  less := fun a b => (Option.map₂ (fun a b => decide (a < b)) a b).getD false
  isNumber := Option.isSome
  noLeast := none
  noGreatest := none

def Roots {K : Type} [Field K] [LinearOrder K] (root : K → K) : Prop :=
  ∀ d, 0 ≤ d → root (d * d) = d

def Aggregate.map {α β : Type} (f : α → β) (a : Aggregate α) : Aggregate β :=
  ⟨a.unit, f a.min, f a.max, f a.mean, f a.stdDev, f a.stdDevPercent⟩

def squares {K : Type} [Field K] (samples : List K) (c : K) : K :=
  (samples.map fun x => (x - c) * (x - c)).sum

theorem squares_expand {K : Type} [Field K] (samples : List K) (c : K) :
    squares samples c = squares samples 0 - 2 * c * samples.sum + samples.length * (c * c) := by
  induction samples with
  | nil => simp [squares]
  | cons x rest ih =>
      simp only [squares, List.map_cons, List.sum_cons, List.length_cons] at ih ⊢
      rw [ih]
      push_cast
      ring

theorem foldl_chosen {α : Type} {R : α → α → Prop} (refl : ∀ a, R a a) (trans : ∀ a b c, R a b → R b c → R a c)
    {choose : α → α → α} (chosen : ∀ a b, choose a b = a ∨ choose a b = b)
    (remains : ∀ a b, R (choose a b) a) (follows : ∀ a b, R (choose a b) b) (first : α) (rest : List α) :
    rest.foldl choose first ∈ first :: rest ∧ ∀ x ∈ first :: rest, R (rest.foldl choose first) x := by
  induction rest generalizing first with
  | nil => exact ⟨List.mem_singleton_self first, fun x member => List.mem_singleton.mp member ▸ refl _⟩
  | cons next rest ih =>
      obtain ⟨member, related⟩ := ih (choose first next)
      have kept := related _ List.mem_cons_self
      refine ⟨?_, fun x among => ?_⟩
      · rcases List.mem_cons.mp member with same | later
        · rw [List.foldl_cons, same]
          rcases chosen first next with one | other
          · rw [one]
            exact List.mem_cons_self
          · rw [other]
            exact List.mem_cons_of_mem _ List.mem_cons_self
        · exact List.mem_cons_of_mem _ (List.mem_cons_of_mem _ later)
      · rcases List.mem_cons.mp among with rfl | among
        · exact trans _ _ _ kept (remains x next)
        · rcases List.mem_cons.mp among with rfl | later
          · exact trans _ _ _ kept (follows first x)
          · exact related x (List.mem_cons_of_mem _ later)

theorem reordered_nonempty {α : Type} {samples other : List α} (reordered : other.Perm samples)
    (nonempty : samples ≠ []) : other ≠ [] :=
  fun empty => nonempty (reordered.symm.trans (empty ▸ .refl _)).eq_nil

variable {K : Type} [Field K] [LinearOrder K]

section Formulas

variable (root : K → K) (samples : List K)

theorem exact_sum : (exact root).sum samples = samples.sum :=
  List.sum_eq_foldl.symm

theorem exact_mean : (exact root).mean samples = samples.sum / samples.length := by
  rw [Arithmetic.mean, exact_sum]
  rfl

theorem exact_variance : (exact root).variance samples =
    squares samples ((exact root).mean samples) / samples.length := by
  rw [Arithmetic.variance, exact_sum]
  rfl

theorem exact_least (first : K) (rest : List K) :
    (exact root).least (first :: rest) = rest.foldl (exact root).lower first := by
  have all : (first :: rest).filter (exact root).isNumber = first :: rest :=
    List.filter_eq_self.mpr fun _ _ => rfl
  rw [Arithmetic.least, all]

theorem exact_greatest (first : K) (rest : List K) :
    (exact root).greatest (first :: rest) = rest.foldl (exact root).higher first := by
  have all : (first :: rest).filter (exact root).isNumber = first :: rest :=
    List.filter_eq_self.mpr fun _ _ => rfl
  rw [Arithmetic.greatest, all]

end Formulas

section Extremes

theorem exact_lower (root : K → K) (a b : K) : (exact root).lower a b = min b a := by
  simp [Arithmetic.lower, exact, min_def_lt]

theorem exact_higher (root : K → K) (a b : K) : (exact root).higher a b = max a b := by
  simp [Arithmetic.higher, exact, max_def_lt]

theorem least_found (root : K → K) {samples : List K} (nonempty : samples ≠ []) :
    (exact root).least samples ∈ samples ∧ ∀ x ∈ samples, (exact root).least samples ≤ x := by
  cases samples with
  | nil => exact absurd rfl nonempty
  | cons first rest =>
      rw [exact_least]
      refine foldl_chosen le_refl (fun _ _ _ => le_trans) ?_ ?_ ?_ first rest
      · exact fun a b => exact_lower root a b ▸ (min_choice b a).symm
      · exact fun a b => exact_lower root a b ▸ min_le_right b a
      · exact fun a b => exact_lower root a b ▸ min_le_left b a

theorem greatest_found (root : K → K) {samples : List K} (nonempty : samples ≠ []) :
    (exact root).greatest samples ∈ samples ∧ ∀ x ∈ samples, x ≤ (exact root).greatest samples := by
  cases samples with
  | nil => exact absurd rfl nonempty
  | cons first rest =>
      rw [exact_greatest]
      refine foldl_chosen (R := (· ≥ ·)) le_refl (fun _ _ _ => ge_trans) ?_ ?_ ?_ first rest
      · exact fun a b => exact_higher root a b ▸ max_choice a b
      · exact fun a b => exact_higher root a b ▸ le_max_left a b
      · exact fun a b => exact_higher root a b ▸ le_max_right a b

end Extremes

section Spread

variable [IsStrictOrderedRing K] {root : K → K} {samples : List K}

theorem length_positive (nonempty : samples ≠ []) : (0 : K) < samples.length :=
  Nat.cast_pos.mpr (List.length_pos_iff.mpr nonempty)

theorem sum_between {lo hi : K} (between : ∀ x ∈ samples, lo ≤ x ∧ x ≤ hi) :
    samples.length * lo ≤ samples.sum ∧ samples.sum ≤ samples.length * hi := by
  rw [← nsmul_eq_mul, ← nsmul_eq_mul]
  exact ⟨List.card_nsmul_le_sum samples lo fun x member => (between x member).1,
    List.sum_le_card_nsmul samples hi fun x member => (between x member).2⟩

theorem mean_between (nonempty : samples ≠ []) {lo hi : K} (between : ∀ x ∈ samples, lo ≤ x ∧ x ≤ hi) :
    lo ≤ (exact root).mean samples ∧ (exact root).mean samples ≤ hi := by
  have positive : (0 : K) < samples.length := length_positive nonempty
  obtain ⟨above, below⟩ := sum_between between
  rw [exact_mean, le_div_iff₀' positive, div_le_iff₀' positive]
  exact ⟨above, below⟩

theorem squares_around_mean (root : K → K) (nonempty : samples ≠ []) (c : K) :
    squares samples ((exact root).mean samples) ≤ squares samples c := by
  have positive : (0 : K) < samples.length := length_positive nonempty
  have sum : samples.sum = samples.length * (exact root).mean samples := by
    rw [exact_mean, mul_div_cancel₀ _ positive.ne']
  have apart : squares samples c - squares samples ((exact root).mean samples) =
      samples.length * (((exact root).mean samples - c) * ((exact root).mean samples - c)) := by
    rw [squares_expand samples c, squares_expand samples ((exact root).mean samples), sum]
    ring
  have further : 0 ≤ (samples.length : K) *
      (((exact root).mean samples - c) * ((exact root).mean samples - c)) :=
    mul_nonneg positive.le (mul_self_nonneg _)
  exact sub_nonneg.mp (apart ▸ further)

theorem distance_nonneg (samples : List K) (c : K) :
    ∀ square ∈ samples.map fun x => (x - c) * (x - c), 0 ≤ square := by
  intro square member
  obtain ⟨x, -, rfl⟩ := List.mem_map.mp member
  exact mul_self_nonneg _

theorem squares_nonneg (samples : List K) (c : K) : 0 ≤ squares samples c :=
  List.sum_nonneg (distance_nonneg samples c)

theorem squares_zero {c : K} (zero : squares samples c = 0) : ∀ x ∈ samples, x = c := by
  intro x member
  have each := List.all_zero_of_le_zero_le_of_sum_eq_zero (distance_nonneg samples c) zero
    (List.mem_map_of_mem member)
  exact sub_eq_zero.mp (mul_self_eq_zero.mp each)

theorem squares_around_middle {lo hi : K} (between : ∀ x ∈ samples, lo ≤ x ∧ x ≤ hi) :
    squares samples ((lo + hi) / 2) ≤ samples.length * ((hi - lo) / 2) ^ 2 := by
  have each : ∀ square ∈ samples.map fun x => (x - (lo + hi) / 2) * (x - (lo + hi) / 2),
      square ≤ ((hi - lo) / 2) ^ 2 := by
    intro square member
    obtain ⟨x, listed, rfl⟩ := List.mem_map.mp member
    obtain ⟨above, below⟩ := between x listed
    have product : 0 ≤ (x - lo) * (hi - x) := mul_nonneg (sub_nonneg.mpr above) (sub_nonneg.mpr below)
    calc (x - (lo + hi) / 2) * (x - (lo + hi) / 2)
        = ((hi - lo) / 2) ^ 2 - (x - lo) * (hi - x) := by ring
      _ ≤ ((hi - lo) / 2) ^ 2 := sub_le_self _ product
  have total := List.sum_le_card_nsmul _ _ each
  rwa [List.length_map, nsmul_eq_mul] at total

theorem variance_nonneg (root : K → K) (samples : List K) : 0 ≤ (exact root).variance samples := by
  rw [exact_variance]
  exact div_nonneg (squares_nonneg _ _) (Nat.cast_nonneg _)

theorem variance_bounded (root : K → K) (nonempty : samples ≠ []) {lo hi : K}
    (between : ∀ x ∈ samples, lo ≤ x ∧ x ≤ hi) :
    (exact root).variance samples ≤ ((hi - lo) / 2) ^ 2 := by
  rw [exact_variance, div_le_iff₀' (length_positive nonempty)]
  exact (squares_around_mean root nonempty _).trans (squares_around_middle between)

theorem variance_zero_iff (root : K → K) (nonempty : samples ≠ []) :
    (exact root).variance samples = 0 ↔ ∀ x ∈ samples, ∀ y ∈ samples, x = y := by
  constructor
  · intro zero x one y other
    rw [exact_variance, div_eq_zero_iff, or_iff_left (length_positive nonempty).ne'] at zero
    rw [squares_zero zero x one, squares_zero zero y other]
  · intro same
    obtain ⟨only, member⟩ := List.exists_mem_of_ne_nil samples nonempty
    have between : ∀ x ∈ samples, only ≤ x ∧ x ≤ only := fun x listed =>
      ⟨(same only member x listed).le, (same x listed only member).le⟩
    have bounded := variance_bounded root nonempty between
    rw [sub_self, zero_div, zero_pow two_ne_zero] at bounded
    exact le_antisymm bounded (variance_nonneg root samples)

end Spread

section Order

theorem computed_perm (root : K → K) {samples other : List K} (reordered : other.Perm samples)
    (nonempty : samples ≠ []) (unit : MeasureUnit) :
    (exact root).computed unit other = (exact root).computed unit samples := by
  have otherNonempty := reordered_nonempty reordered nonempty
  have least : (exact root).least other = (exact root).least samples := by
    obtain ⟨member, below⟩ := least_found root nonempty
    obtain ⟨otherMember, otherBelow⟩ := least_found root otherNonempty
    exact le_antisymm (otherBelow _ (reordered.mem_iff.mpr member))
      (below _ (reordered.mem_iff.mp otherMember))
  have greatest : (exact root).greatest other = (exact root).greatest samples := by
    obtain ⟨member, above⟩ := greatest_found root nonempty
    obtain ⟨otherMember, otherAbove⟩ := greatest_found root otherNonempty
    exact le_antisymm (above _ (reordered.mem_iff.mp otherMember))
      (otherAbove _ (reordered.mem_iff.mpr member))
  have mean : (exact root).mean other = (exact root).mean samples := by
    rw [exact_mean, exact_mean, reordered.sum_eq, reordered.length_eq]
  have variance : (exact root).variance other = (exact root).variance samples := by
    rw [exact_variance, exact_variance, mean, squares, (reordered.map _).sum_eq, reordered.length_eq]
    rfl
  rw [Arithmetic.computed, Arithmetic.computed, least, greatest, mean, variance]

end Order

section Single

variable {root : K → K}

theorem roots_zero [IsStrictOrderedRing K] (roots : Roots root) : root 0 = 0 := by
  have found := roots 0 le_rfl
  rwa [mul_zero] at found

theorem computed_single [IsStrictOrderedRing K] (roots : Roots root) (unit : MeasureUnit) (only : K) :
    (exact root).computed unit [only] = ⟨unit, only, only, only, 0, 0⟩ := by
  have mean : (exact root).mean [only] = only := by simp [exact_mean]
  have variance : (exact root).variance [only] = 0 := by simp [exact_variance, mean, squares]
  rw [Arithmetic.computed, variance, mean, exact_least, exact_greatest]
  change Aggregate.mk unit only only only (root 0) ((exact root).percentOf (root 0) only) = _
  rw [roots_zero roots]
  simp [Arithmetic.percentOf, exact]

theorem aggregate_computed [IsStrictOrderedRing K] (roots : Roots root) (unit : MeasureUnit)
    {samples : List K} (nonempty : samples ≠ []) :
    (exact root).aggregate unit samples = .ok ((exact root).computed unit samples) := by
  match samples, nonempty with
  | [only], _ =>
    rw [computed_single roots]
    rfl
  | _ :: _ :: _, _ => rfl

end Single

section Watch

variable (root : K → K) (samples : List K)

theorem watched_sum : (watched root).sum (samples.map some) = some ((exact root).sum samples) := by
  rw [Arithmetic.sum, List.foldl_map]
  exact List.foldl_hom some fun _ _ => rfl

theorem watched_div (a : K) {b : K} (nonzero : b ≠ 0) :
    (watched root).div (some a) (some b) = some (a / b) := by
  simp [watched, nonzero]

example : (watched Rat.sqrt).div (some 1) (some 0) = none := by decide

variable {samples}

-- The only divisors are the number of samples and, for the percentage, a mean that is not zero.
theorem watched_mean [IsStrictOrderedRing K] (nonempty : samples ≠ []) :
    (watched root).mean (samples.map some) = some ((exact root).mean samples) := by
  rw [Arithmetic.mean, watched_sum, List.length_map]
  exact watched_div root _ (length_positive nonempty).ne'

theorem watched_variance [IsStrictOrderedRing K] (nonempty : samples ≠ []) :
    (watched root).variance (samples.map some) = some ((exact root).variance samples) := by
  have distances (m : K) : (samples.map some).map (fun x =>
      (watched root).mul ((watched root).sub x (some m)) ((watched root).sub x (some m))) =
        (samples.map fun x => (x - m) * (x - m)).map some := by
    rw [List.map_map, List.map_map]
    rfl
  rw [Arithmetic.variance, watched_mean root nonempty, List.length_map, distances, watched_sum]
  exact watched_div root _ (length_positive nonempty).ne'

theorem watched_percent (deviation mean : K) :
    (watched root).percentOf (some deviation) (some mean) =
      some ((exact root).percentOf deviation mean) := by
  by_cases still : deviation = 0
  · simp [Arithmetic.percentOf, watched, exact, still]
  · by_cases nothing : mean = 0
    · simp [Arithmetic.percentOf, watched, exact, nothing]
    · simp [Arithmetic.percentOf, watched, exact, still, nothing]

theorem all_numbers (samples : List K) :
    (samples.map some).filter (watched root).isNumber = samples.map some := by
  refine List.filter_eq_self.mpr fun number member => ?_
  obtain ⟨x, -, rfl⟩ := List.mem_map.mp member
  rfl

theorem watched_kept {α : Type} {choose : α → α → α}
    {chooseWatched : Option α → Option α → Option α}
    (same : ∀ a b, chooseWatched (some a) (some b) = some (choose a b)) (first : α) (rest : List α) :
    (rest.map some).foldl chooseWatched (some first) = some (rest.foldl choose first) :=
  List.foldl_map.trans (List.foldl_hom some same)

theorem watched_least (nonempty : samples ≠ []) :
    (watched root).least (samples.map some) = some ((exact root).least samples) := by
  cases samples with
  | nil => exact absurd rfl nonempty
  | cons first rest =>
      rw [exact_least, Arithmetic.least, all_numbers, List.map_cons]
      exact watched_kept (fun a b => (apply_ite some _ b a).symm) first rest

theorem watched_greatest (nonempty : samples ≠ []) :
    (watched root).greatest (samples.map some) = some ((exact root).greatest samples) := by
  cases samples with
  | nil => exact absurd rfl nonempty
  | cons first rest =>
      rw [exact_greatest, Arithmetic.greatest, all_numbers, List.map_cons]
      exact watched_kept (fun a b => (apply_ite some _ b a).symm) first rest

theorem watched_computed [IsStrictOrderedRing K] (nonempty : samples ≠ []) (unit : MeasureUnit) :
    (watched root).computed unit (samples.map some) = ((exact root).computed unit samples).map some := by
  rw [Arithmetic.computed, watched_least root nonempty, watched_greatest root nonempty,
    watched_mean root nonempty, watched_variance root nonempty]
  exact congrArg (Aggregate.mk unit _ _ _ _) (watched_percent root _ _)

end Watch

structure Sound (root : K → K) (samples : List K) (a : Aggregate K) : Prop where
  min : a.min ∈ samples ∧ ∀ x ∈ samples, a.min ≤ x
  max : a.max ∈ samples ∧ ∀ x ∈ samples, x ≤ a.max
  mean : a.mean = samples.sum / samples.length
  between : a.min ≤ a.mean ∧ a.mean ≤ a.max
  variance : (exact root).variance samples =
    (samples.map fun x => (x - a.mean) * (x - a.mean)).sum / samples.length
  deviation : a.stdDev = root ((exact root).variance samples)
  spread : 0 ≤ (exact root).variance samples ∧
    (exact root).variance samples ≤ ((a.max - a.min) / 2) ^ 2
  uniform : (exact root).variance samples = 0 ↔ ∀ x ∈ samples, ∀ y ∈ samples, x = y

theorem computed_sound [IsStrictOrderedRing K] (root : K → K) {samples : List K}
    (nonempty : samples ≠ []) (unit : MeasureUnit) :
    Sound root samples ((exact root).computed unit samples) := by
  have least := least_found root nonempty
  have greatest := greatest_found root nonempty
  have bounds : ∀ x ∈ samples, (exact root).least samples ≤ x ∧ x ≤ (exact root).greatest samples :=
    fun x member => ⟨least.2 x member, greatest.2 x member⟩
  exact {
    min := least
    max := greatest
    mean := exact_mean root samples
    between := mean_between nonempty bounds
    variance := exact_variance root samples
    deviation := rfl
    spread := ⟨variance_nonneg root samples, variance_bounded root nonempty bounds⟩
    uniform := variance_zero_iff root nonempty }

/-- Samples that are exact have sound statistics, in whichever order they come. They are those of the
formulas, also for one sample, and nothing is divided by zero on the way to them. -/
theorem statistics_sound [IsStrictOrderedRing K] {root : K → K} (roots : Roots root)
    (unit : MeasureUnit) {samples : List K} (nonempty : samples ≠ []) :
    ∃ a, (exact root).aggregate unit samples = .ok a ∧ a.unit = unit ∧ Sound root samples a ∧
      (∀ other, other.Perm samples → (exact root).aggregate unit other = .ok a) ∧
      (exact root).computed unit samples = a ∧
      (watched root).aggregate unit (samples.map some) = .ok (a.map some) ∧
      (watched root).computed unit (samples.map some) = a.map some := by
  refine ⟨(exact root).computed unit samples, aggregate_computed roots unit nonempty, rfl,
    computed_sound root nonempty unit, fun other reordered => ?_, rfl, ?_,
    watched_computed root nonempty unit⟩
  · rw [aggregate_computed roots unit (reordered_nonempty reordered nonempty),
      computed_perm root reordered nonempty]
  · match samples, nonempty with
    | [only], _ =>
      rw [computed_single roots]
      rfl
    | _ :: _ :: _, several => exact congrArg Except.ok (watched_computed root several unit)

theorem rational_roots : Roots Rat.sqrt := by
  intro d nonneg
  rw [Rat.sqrt_eq, abs_of_nonneg nonneg]

theorem eight_samples_sound :
    Roots Rat.sqrt ∧ ([2, 4, 4, 4, 5, 5, 7, 9] : List ℚ) ≠ [] ∧
      (exact Rat.sqrt).aggregate .milliseconds [2, 4, 4, 4, 5, 5, 7, 9] =
        .ok ⟨.milliseconds, 2, 9, 5, 2, 40⟩ ∧
      (exact Rat.sqrt).aggregate .milliseconds [9, 7, 5, 5, 4, 4, 4, 2] =
        .ok ⟨.milliseconds, 2, 9, 5, 2, 40⟩ ∧
      Sound Rat.sqrt [2, 4, 4, 4, 5, 5, 7, 9] ⟨.milliseconds, 2, 9, 5, 2, 40⟩ := by
  have nonempty : ([2, 4, 4, 4, 5, 5, 7, 9] : List ℚ) ≠ [] := by decide
  obtain ⟨a, computed, -, sound, reordered, -⟩ :=
    statistics_sound rational_roots .milliseconds nonempty
  have figures : (exact Rat.sqrt).aggregate .milliseconds [2, 4, 4, 4, 5, 5, 7, 9] =
      .ok ⟨.milliseconds, 2, 9, 5, 2, 40⟩ := by
    have least : (exact Rat.sqrt).least [2, 4, 4, 4, 5, 5, 7, 9] = 2 := by decide +kernel
    have greatest : (exact Rat.sqrt).greatest [2, 4, 4, 4, 5, 5, 7, 9] = 9 := by decide +kernel
    have mean : (exact Rat.sqrt).mean [2, 4, 4, 4, 5, 5, 7, 9] = 5 := by decide +kernel
    have variance : (exact Rat.sqrt).variance [2, 4, 4, 4, 5, 5, 7, 9] = 2 * 2 := by decide +kernel
    have percent : (exact Rat.sqrt).percentOf 2 5 = 40 := by decide +kernel
    have root : (exact Rat.sqrt).root (2 * 2) = 2 := rational_roots 2 (by decide)
    have computed : (exact Rat.sqrt).computed .milliseconds [2, 4, 4, 4, 5, 5, 7, 9] =
        ⟨.milliseconds, 2, 9, 5, 2, 40⟩ := by
      rw [Arithmetic.computed, least, greatest, mean, variance, root, percent]
    exact congrArg Except.ok computed
  rw [figures] at computed
  cases computed
  exact ⟨rational_roots, nonempty, figures, reordered _ (by decide), sound⟩

end SqlBench.Statistics
