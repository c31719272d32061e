import SqlBench.Proofs.Text
import SqlBench.Web.Reporter

set_option autoImplicit false

namespace SqlBench

open Text

def Flat (s : String) : Prop :=
  '/' ∉ s.toList

instance (s : String) : Decidable (Flat s) :=
  inferInstanceAs (Decidable ('/' ∉ s.toList))

namespace Address

theorem no_slash_ahead {s : List Char} (flat : '/' ∉ s) : (s.dropWhile fun c => c == '/') = s := by
  have stop : ∀ c, s.head? = some c → (c == '/') = false := fun c head =>
    beq_eq_false_iff_ne.mpr fun slash => flat (slash ▸ List.mem_of_head? head)
  exact (while_ends (List.forall_mem_nil _) stop).2

theorem trim_flat {s : List Char} (flat : '/' ∉ s) : trimSlashes s = s := by
  have back : '/' ∉ s.reverse := mt List.mem_reverse.mp flat
  rw [trimSlashes, no_slash_ahead flat, trimEndSlashes, no_slash_ahead back, List.reverse_reverse]

theorem segments_behind (front : List Char) {segments : List (List Char)}
    (flat : ∀ s ∈ segments, '/' ∉ s) :
    pieces '/' (segments.foldl (fun url segment => url ++ '/' :: trimSlashes segment) front) =
      pieces '/' front ++ segments := by
  induction segments generalizing front with
  | nil => exact (List.append_nil _).symm
  | cons s rest ih =>
      obtain ⟨own, others⟩ := List.forall_mem_cons.mp flat
      rw [List.foldl_cons, ih _ others, pieces_append, trim_flat own, pieces_single own,
        List.append_assoc, List.singleton_append]

theorem join_parts (base : String) {segments : List String} (flat : ∀ s ∈ segments, Flat s) :
    split '/' (join base segments) =
      split '/' (String.ofList (trimEndSlashes base.toList)) ++ segments := by
  have free : ∀ s ∈ segments.map String.toList, '/' ∉ s := by
    intro s member
    obtain ⟨segment, there, rfl⟩ := List.mem_map.mp member
    exact flat segment there
  rw [split, split, join, String.toList_ofList, String.toList_ofList, joinChars,
    segments_behind _ free, List.map_append, List.map_map]
  simp

theorem join_inj {base : String} {segments others : List String} (flat : ∀ s ∈ segments, Flat s)
    (even : ∀ s ∈ others, Flat s) (same : join base segments = join base others) :
    segments = others := by
  have parts := join_parts base flat
  rw [same, join_parts base even] at parts
  exact (List.append_cancel_left parts).symm

end Address

namespace Report

theorem number_flat (n : Nat) : Flat (toString n) := by
  rw [Flat, Nat.toString_eq_repr, Nat.repr_eq_ofList_toDigits, String.toList_ofList]
  intro slash
  cases Nat.isDigit_of_mem_toDigits (by decide) (by decide) slash

theorem segments_flat (topic : Topic) : ∀ s ∈ topic.segments, Flat s := by
  have start : Flat "start" := by decide
  have finish : Flat "finish" := by decide
  have execution : Flat "execution" := by decide
  cases topic with
  | benchmarkStarts => simpa [Topic.segments] using start
  | benchmarkEnds => simpa [Topic.segments] using finish
  | executionStarts n => simpa [Topic.segments] using ⟨execution, number_flat n, start⟩
  | executionEnds n => simpa [Topic.segments] using ⟨execution, number_flat n, finish⟩

theorem number_inj {m n : Nat} (same : toString m = toString n) : m = n := by
  have digits := congrArg (fun s => Nat.ofDigitChars 10 s.toList 0) same
  simpa [Nat.repr_eq_ofList_toDigits] using digits

theorem segments_inj {topic other : Topic} (same : topic.segments = other.segments) :
    topic = other := by
  cases topic with
  | benchmarkStarts =>
      cases other with
      | benchmarkStarts => rfl
      | _ => simp [Topic.segments] at same
  | benchmarkEnds =>
      cases other with
      | benchmarkEnds => rfl
      | _ => simp [Topic.segments] at same
  | executionStarts m =>
      cases other with
      | executionStarts n => exact congrArg _ (number_inj (by simpa [Topic.segments] using same))
      | _ => simp [Topic.segments] at same
  | executionEnds m =>
      cases other with
      | executionEnds n => exact congrArg _ (number_inj (by simpa [Topic.segments] using same))
      | _ => simp [Topic.segments] at same

structure Addressed (b : Benchmark) : Prop where
  name : Flat b.name
  environment : Flat b.environment
  sequenceId : Flat b.sequenceId

theorem segments_addressed {b : Benchmark} (addressed : Addressed b) (topic : Topic) :
    ∀ s ∈ ["v1", "benchmark", b.uniqueName, b.sequenceId] ++ topic.segments, Flat s := by
  have version : Flat "v1" := by decide
  have kind : Flat "benchmark" := by decide
  have unique : Flat b.uniqueName := by
    have line : Flat "_" := by decide
    simp only [Flat, Benchmark.uniqueName, String.toList_append, List.mem_append, not_or]
    exact ⟨⟨addressed.name, line⟩, addressed.environment⟩
  rw [List.forall_mem_append]
  refine ⟨?_, segments_flat topic⟩
  simpa using ⟨version, kind, unique, addressed.sequenceId⟩

theorem address_iff (base : String) {b other : Benchmark} (addressed : Addressed b)
    (fixed : Addressed other) (near : b.environment = other.environment) (topic about : Topic) :
    address base b topic = address base other about ↔
      b.name = other.name ∧ b.sequenceId = other.sequenceId ∧ topic = about := by
  constructor
  · intro same
    have segments := Address.join_inj (segments_addressed addressed topic)
      (segments_addressed fixed about) same
    simp only [List.cons_append, List.nil_append, List.cons.injEq, true_and] at segments
    obtain ⟨unique, sequenceId, rest⟩ := segments
    refine ⟨?_, sequenceId, segments_inj rest⟩
    rw [Benchmark.uniqueName, Benchmark.uniqueName, near] at unique
    exact (String.append_left_inj _).mp ((String.append_left_inj _).mp unique)
  · rintro ⟨name, sequenceId, rfl⟩
    rw [address, address, Benchmark.uniqueName, Benchmark.uniqueName, name, near, sequenceId]

end Report

namespace Event

def benchmark : Event → Benchmark
  | .benchmarkStarted b => b
  | .benchmarkFinished r => r.benchmark
  | .executionStarted e => e.benchmark
  | .executionFinished r => r.execution.benchmark

def topic : Event → Report.Topic
  | .benchmarkStarted _ => .benchmarkStarts
  | .benchmarkFinished _ => .benchmarkEnds
  | .executionStarted e => .executionStarts e.number
  | .executionFinished r => .executionEnds r.execution.number

def address (base : String) (news : Event) : String :=
  Report.address base news.benchmark news.topic

end Event

namespace Web.Reporter

variable {σ : Type}

theorem told_at (r : Reporter σ) (now : Moment) (news : Event) :
    ∃ document, ∀ s, r.tell now news s = r.client.deliver (news.address r.serviceUrl) document s := by
  cases news with
  | benchmarkStarted b => exact ⟨_, fun _ => rfl⟩
  | benchmarkFinished result => exact ⟨_, fun _ => rfl⟩
  | executionStarted e => exact ⟨_, fun _ => rfl⟩
  | executionFinished result => exact ⟨_, fun _ => rfl⟩

/-- Addresses on one base are as different as their segments; news is delivered to its address; and
news has the same address only if it is about the same. -/
theorem reports_apart (base : String) :
    (∀ segments others : List String, (∀ s ∈ segments, Flat s) → (∀ s ∈ others, Flat s) →
      Address.join base segments = Address.join base others → segments = others) ∧
    (∀ (r : Reporter σ) (now : Moment) (news : Event), r.serviceUrl = base →
      ∃ document, ∀ s, r.tell now news s = r.client.deliver (news.address base) document s) ∧
    ∀ news other : Event, Report.Addressed news.benchmark → Report.Addressed other.benchmark →
      news.benchmark.environment = other.benchmark.environment →
      (news.address base = other.address base ↔
        news.benchmark.name = other.benchmark.name ∧
          news.benchmark.sequenceId = other.benchmark.sequenceId ∧ news.topic = other.topic) := by
  refine ⟨fun segments others flat even same => Address.join_inj flat even same, ?_, ?_⟩
  · rintro r now news rfl
    exact told_at r now news
  · exact fun news other addressed fixed near =>
      Report.address_iff base addressed fixed near news.topic other.topic

def orders : Benchmark :=
  { (default : Benchmark) with name := "orders", environment := "lab", sequenceId := "7" }

def order (number : Nat) : Execution :=
  ⟨orders, "q01", number, Dict.empty, "SELECT 1"⟩

def results : Reporter Wire.Desk :=
  ⟨"http://results//", ⟨.standard, Wire.toDesk⟩⟩

theorem orders_apart :
    Address.join "http://results//" ["v1", ""] ≠ Address.join "http://results//" ["v1"] ∧
    (∃ document, ∀ s, results.tell 0 (.executionStarted (order 1)) s =
      results.client.deliver "http://results/v1/benchmark/orders_lab/7/execution/1/start" document s) ∧
    Report.Addressed orders ∧
    (Event.executionStarted (order 1)).address "http://results//" ≠
      (Event.executionStarted (order 11)).address "http://results//" := by
  obtain ⟨distinct, delivered, apart⟩ := @reports_apart Wire.Desk "http://results//"
  have addressed : Report.Addressed orders := ⟨by decide, by decide, by decide⟩
  refine ⟨fun same => ?_, delivered results 0 (.executionStarted (order 1)) rfl, addressed,
    fun same => ?_⟩
  · exact absurd (distinct _ _ (by decide) (by decide) same) (by decide)
  · obtain ⟨-, -, topic⟩ := (apart (.executionStarted (order 1)) (.executionStarted (order 11))
      addressed addressed rfl).mp same
    exact absurd topic (by decide)

end Web.Reporter

end SqlBench
