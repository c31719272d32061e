import SqlBench.Proofs.Plan.Size
import SqlBench.Proofs.Session

set_option autoImplicit false

namespace SqlBench

namespace Instant

-- The second that a clock shows at a moment of the run, if it goes that far.
def secondsAt (start : Instant) (now : Nat) : Int :=
  start.seconds + ((start.nanos + now) / 1000000000 : Nat)

theorem fits_iff (seconds : Int) :
    Width.fitsSigned 64 seconds = true ↔ -2 ^ 63 ≤ seconds ∧ seconds < 2 ^ 63 := by
  rw [Width.fitsSigned, Bool.and_eq_true, decide_eq_true_eq, decide_eq_true_eq]
  exact and_congr_right fun _ => Int.le_sub_one_iff

theorem after_cases (start : Instant) (d : Nat) :
    (start.after? d = none ∧ 2 ^ 63 ≤ start.secondsAt d) ∨
    ∃ later, start.after? d = some later ∧ start.secondsAt d < 2 ^ 63 ∧
      later.seconds = start.secondsAt d ∧ later.nanos = (start.nanos + d) % 1000000000 := by
  have carried : d / 1000000000 + (start.nanos + d % 1000000000) / 1000000000 =
      (start.nanos + d) / 1000000000 := by omega
  have low := ((fits_iff _).mp start.fits).1
  rw [after?, carried]
  by_cases fits : Width.fitsSigned 64 (start.secondsAt d) = true
  · exact .inr ⟨_, dif_pos fits, ((fits_iff _).mp fits).2, rfl, by simp⟩
  · refine .inl ⟨dif_neg fits, ?_⟩
    rw [fits_iff, secondsAt] at fits
    rw [secondsAt]
    omega

theorem after_none_iff (start : Instant) (d : Nat) :
    start.after? d = none ↔ 2 ^ 63 ≤ start.secondsAt d := by
  rcases after_cases start d with ⟨ends, past⟩ | ⟨later, goes, told, -⟩
  · exact iff_of_true ends past
  · rw [goes]
    exact iff_of_false (by simp) (Int.not_le.mpr told)

theorem allows_false_iff (start : Instant) (now d : Nat) :
    start.allows now d = false ↔ 2 ^ 63 ≤ start.secondsAt (now + d) := by
  rw [allows]
  rcases after_cases start now with ⟨ends, past⟩ | ⟨later, goes, -, seconds, nanos⟩
  · rw [ends]
    refine iff_of_true rfl (Int.le_trans past ?_)
    rw [secondsAt, secondsAt]
    omega
  · rw [goes]
    have both : later.secondsAt d = start.secondsAt (now + d) := by
      rw [secondsAt, seconds, nanos, secondsAt, secondsAt]
      omega
    rw [← both, ← after_none_iff]
    exact Option.isSome_eq_false_iff.trans Option.isNone_iff_eq_none

theorem seconds_later (start : Instant) (now n : Nat) :
    start.secondsAt (now + millis (1000 * n)) = start.secondsAt now + n := by
  rw [secondsAt, secondsAt, millis]
  omega

theorem seconds_now (now : Instant) : now.secondsAt 0 = now.seconds := by
  have part := now.isPart
  rw [secondsAt]
  omega

end Instant

namespace Settings

theorem validate_ok_iff (s : Settings) :
    s.validate = .ok () ↔
      1 ≤ s.retry.maxAttempts ∧ s.timeLimitSecs ≠ some 0 ∧
        ¬ Text.allBlank s.environment.toList = true := by
  rw [validate]
  split
  case isTrue never => exact iff_of_false (by simp) fun valid => Nat.not_le.mpr never valid.1
  case isFalse attempts =>
    split
    case isTrue zero => exact iff_of_false (by simp) fun valid => valid.2.1 zero
    case isFalse positive =>
      split
      case isTrue blank => exact iff_of_false (by simp) fun valid => valid.2.2 blank
      case isFalse named => exact iff_of_true rfl ⟨Nat.not_lt.mp attempts, positive, named⟩

theorem validate_limits {s : Settings} (valid : s.validate = .ok ()) {n : Nat} (positive : 0 < n)
    (m : Nat) :
    { s with timeLimitSecs := some n, drainTimeoutSecs := m }.validate = .ok () := by
  obtain ⟨attempts, -, named⟩ := (validate_ok_iff s).mp valid
  refine (validate_ok_iff _).mpr ⟨attempts, fun zero => ?_, named⟩
  exact Nat.ne_of_gt positive (Option.some.inj zero)

theorem limit_past_iff (now : Instant) (n : Nat) :
    now.after? (millis (1000 * n)) = none ↔ 2 ^ 63 ≤ now.seconds + n := by
  have later := now.seconds_later 0 n
  rw [Nat.zero_add, Instant.seconds_now] at later
  rw [Instant.after_none_iff, later]

theorem deadline_past_iff (settings : Settings) (clock : Instant) (now : Nat) :
    settings.timeLimit.all (clock.allows now) = false ↔
      ∃ n, settings.timeLimitSecs = some n ∧ 2 ^ 63 ≤ clock.secondsAt now + n := by
  rw [timeLimit]
  cases settings.timeLimitSecs with
  | none => simp
  | some n =>
      rw [Option.map_some, Option.all_some, Instant.allows_false_iff, Instant.seconds_later]
      simp

theorem drain_past_iff (settings : Settings) (clock : Instant) (now : Nat) :
    clock.allows now settings.drainTimeout = false ↔
      2 ^ 63 ≤ clock.secondsAt now + settings.drainTimeoutSecs := by
  rw [drainTimeout, Instant.allows_false_iff, Instant.seconds_later]

end Settings

namespace Plan

theorem validate_runs {b : Benchmark} (valid : b.validate = .ok ()) {n : Nat} (positive : 0 < n) :
    { b with runs := n }.validate = .ok () := by
  obtain ⟨named, concurrent, -, queries, values⟩ := validate_ok valid
  simp only [Benchmark.validate, named, Nat.not_lt.mpr concurrent, Nat.not_lt.mpr positive,
    List.isEmpty_eq_false_iff.mpr queries, values, Bool.false_eq_true, if_false]

end Plan

namespace CommandLine

open Plan

variable {σ : Type} {settings : Settings} {catalog : Catalog} {names ids : List String}
  {benchmarks : List Benchmark} {services : Services σ} {start : Course σ}

def DeadlinePast (settings : Settings) (clock : Instant) (begun : Nat) : Prop :=
  ∃ n, settings.timeLimitSecs = some n ∧ 2 ^ 63 ≤ clock.secondsAt begun + n

-- Behind a suite that ends at a moment, the one up to which listeners get time is past the clock.
def DrainPast (settings : Settings) (clock : Instant) (ended : Nat) : Prop :=
  2 ^ 63 ≤ clock.secondsAt ended + settings.drainTimeoutSecs

theorem overdue_run (past : DeadlinePast settings services.clock start.now) :
    (suiteOf settings services).run benchmarks start = (.error Instant.overflow, start) := by
  have told := (settings.deadline_past_iff services.clock start.now).mpr past
  have untold : (suiteOf settings services).tellsDeadline start.now = false := told
  rw [Suite.run, untold]
  rfl

theorem run_benchmarks_told (loads : catalog.loadSequences names ids = .ok benchmarks) :
    runBenchmarks settings catalog names ids (.ok (services, start)) =
      match (suiteOf settings services).run benchmarks start with
      | (.error panic, _) => .error (.breakdown [] panic)
      | (.ok returned, last) =>
        if services.clock.allows last.now settings.drainTimeout then
          (returned.mapError Fault.other).map (·, last)
        else .error (.breakdown [] Instant.overflow) := by
  rw [runBenchmarks, loads]
  dsimp only
  cases (suiteOf settings services).run benchmarks start with
  | mk outcome last =>
      rcases outcome with panic | cause | results
      · rfl
      · dsimp only
        cases services.clock.allows last.now settings.drainTimeout <;> rfl
      · dsimp only
        cases services.clock.allows last.now settings.drainTimeout <;> rfl

-- What a run comes to: it breaks down over one of its two moments or with its suite, and else gives
-- what its suite returns.
structure Told (settings : Settings) (services : Services σ) (benchmarks : List Benchmark)
    (start : Course σ) (ran : Except Fault (List BenchmarkResult × Course σ)) : Prop where
  overdue : DeadlinePast settings services.clock start.now →
    (suiteOf settings services).run benchmarks start = (.error Instant.overflow, start) ∧
      ran = .error (.breakdown [] Instant.overflow)
  panicked : ∀ panic last,
    (suiteOf settings services).run benchmarks start = (.error panic, last) →
      ran = .error (.breakdown [] panic)
  undrained : ∀ returned last,
    (suiteOf settings services).run benchmarks start = (.ok returned, last) →
      DrainPast settings services.clock last.now → ran = .error (.breakdown [] Instant.overflow)
  returned : ∀ returned last,
    (suiteOf settings services).run benchmarks start = (.ok returned, last) →
      ¬ DrainPast settings services.clock last.now →
        ran = (returned.mapError Fault.other).map (·, last)

theorem run_told (loads : catalog.loadSequences names ids = .ok benchmarks) :
    Told settings services benchmarks start
      (runBenchmarks settings catalog names ids (.ok (services, start))) := by
  have drained (last : Course σ) : services.clock.allows last.now settings.drainTimeout = false ↔
      DrainPast settings services.clock last.now :=
    settings.drain_past_iff services.clock last.now
  rw [run_benchmarks_told loads]
  refine ⟨fun past => ⟨overdue_run past, ?_⟩, fun panic last ran => ?_,
    fun returned last ran past => ?_, fun returned last ran kept => ?_⟩
  · rw [overdue_run past]
  · rw [ran]
  · simp only [ran, (drained last).mpr past, Bool.false_eq_true, if_false]
  · rw [← drained, Bool.not_eq_false] at kept
    simp only [ran, kept, if_true]

end CommandLine

open CommandLine in
/-- Validation bounds no limit from above. Which accepted numbers overflow is told in exact numbers,
and what becomes of a listing and of a run over it. -/
theorem overflow_told {σ : Type} :
    (∀ settings : Settings, settings.validate = .ok () → ∀ now : Instant,
      (∀ n m, 0 < n →
        { settings with timeLimitSecs := some n, drainTimeoutSecs := m }.validate = .ok ()) ∧
      (∀ n limit, settings.timeLimitSecs = some n → settings.timeLimit = some limit →
        (now.after? limit = none ↔ 2 ^ 63 ≤ now.seconds + n)) ∧
      (now.after? settings.drainTimeout = none ↔
        2 ^ 63 ≤ now.seconds + settings.drainTimeoutSecs)) ∧
    (∀ b : Benchmark, b.validate = .ok () →
      (∀ n, 0 < n → { b with runs := n }.validate = .ok ()) ∧
      Plan.size b = .ok (Plan.planSize b b.runs) ∧
      ∃ w, Plan.wordSize b = .ok w ∧ (w.isCut = true ↔ 2 ^ 64 ≤ Plan.planSize b b.runs) ∧
        (w.isCut = false → w.value = Plan.planSize b b.runs)) ∧
    (∀ (checksWords : Bool) (benchmarks : List Benchmark),
      (∀ b ∈ benchmarks, b.validate = .ok ()) →
      listing checksWords benchmarks = .ok (
        if checksWords then
          ((benchmarks.takeWhile fits).map fun b => lineWith b (Plan.planSize b b.runs),
            benchmarks.all fits)
        else
          (benchmarks.map fun b =>
            lineWith b (if fits b then Plan.planSize b b.runs else Plan.cutSize b), true))) ∧
    ∀ (settings : Settings) (catalog : Catalog) (names ids : List String)
      (benchmarks : List Benchmark) (services : Services σ) (start : Course σ),
      catalog.loadSequences names ids = .ok benchmarks →
        Told settings services benchmarks start
          (runBenchmarks settings catalog names ids (.ok (services, start))) := by
  refine ⟨fun settings valid now => ⟨?_, ?_, ?_⟩, fun b valid => ⟨?_, Plan.size_told valid, ?_⟩,
    fun checksWords benchmarks => listing_told checksWords,
    fun settings catalog names ids benchmarks services start => run_told⟩
  · exact fun n m positive => Settings.validate_limits valid positive m
  · intro n limit asked told
    rw [Settings.timeLimit, asked] at told
    rw [← Option.some.inj told]
    exact Settings.limit_past_iff now n
  · exact Settings.limit_past_iff now settings.drainTimeoutSecs
  · exact fun n positive => Plan.validate_runs valid positive
  · obtain ⟨w, counted, tells, -⟩ := Plan.word_size_told valid
    exact ⟨w, counted, tells.cut, tells.whole⟩

def overdue : Settings :=
  { Settings.standard with timeLimitSecs := some (2 ^ 64 - 1), drainTimeoutSecs := 2 ^ 64 - 1 }

def endless : Benchmark :=
  { Benchmark.named "endless" "memory" with runs := 2 ^ 64 - 1, queries := ["a", "b"] }

open CommandLine in
-- At the clock's zero both limits go past it, so a run over a benchmark that would take a second ends
-- without a result. The number of executions loses its highest bit, or the listing its line.
theorem overdue_breaks_down :
    (overdue.validate = .ok () ∧ overdue.timeLimit.bind Instant.zero.after? = none ∧
      Instant.zero.after? overdue.drainTimeout = none) ∧
    (endless.validate = .ok () ∧ Plan.size endless = .ok 36893488147419103230 ∧
      Plan.wordSize endless = .ok ⟨18446744073709551614, true⟩) ∧
    listing true [endless] = .ok ([], false) ∧
    listing false [endless] = .ok (
      ["endless datasource=memory queries=a,b executions=18446744073709551614"], true) ∧
    runBenchmarks overdue shelf [] ["mon"] (.ok (Suite.obligingIn 1000000000, .start .never ())) =
      .error (.breakdown [] Instant.overflow) := by
  obtain ⟨limits, sizes, listings, runs⟩ := overflow_told (σ := Unit)
  obtain ⟨-, deadline, drain⟩ := limits overdue (by decide) .zero
  have valid : endless.validate = .ok () := by decide
  obtain ⟨-, sized, -⟩ := sizes endless valid
  have listed := fun checksWords => listings checksWords [endless] fun b member =>
    List.mem_singleton.mp member ▸ valid
  refine ⟨⟨by decide, (deadline _ _ rfl rfl).mpr (by decide), drain.mpr (by decide)⟩,
    ⟨valid, sized.trans (by decide +kernel), by decide +kernel⟩,
    (listed true).trans (by decide +kernel), (listed false).trans (by decide +kernel), ?_⟩
  have one : (shelf.loadSequences [] ["mon"]).toOption.isSome = true := by decide +kernel
  cases loads : shelf.loadSequences [] ["mon"] with
  | error cause =>
      rw [loads] at one
      cases one
  | ok benchmarks =>
      have told := runs overdue shelf [] ["mon"] benchmarks (Suite.obligingIn 1000000000)
        (.start .never ()) loads
      exact (told.overdue ⟨2 ^ 64 - 1, rfl, by decide⟩).2

-- None of the three is safe from what validation accepts, not even at the clock's zero and with
-- numbers of 64 bits.
theorem accepted_numbers_overflow :
    (¬ ∀ settings : Settings, settings.validate = .ok () →
      (∀ n, settings.timeLimitSecs = some n → n < 2 ^ 64) → ∀ limit,
        settings.timeLimit = some limit → (Instant.zero.after? limit).isSome) ∧
    (¬ ∀ settings : Settings, settings.validate = .ok () → settings.drainTimeoutSecs < 2 ^ 64 →
      (Instant.zero.after? settings.drainTimeout).isSome) ∧
    ¬ ∀ b : Benchmark, b.validate = .ok () → b.runs < 2 ^ 64 → ∀ w,
      Plan.wordSize b = .ok w → w.isCut = false := by
  refine ⟨fun kept => ?_, fun kept => ?_, fun kept => ?_⟩
  · have limited : ∀ n, overdue.timeLimitSecs = some n → n < 2 ^ 64 := by
      intro n asked
      cases asked
      decide
    exact absurd (kept overdue (by decide) limited _ rfl) (by decide)
  · exact absurd (kept overdue (by decide) (by decide)) (by decide)
  · exact absurd (kept endless (by decide) (by decide) ⟨18446744073709551614, true⟩ (by decide +kernel))
      (by decide)

end SqlBench
