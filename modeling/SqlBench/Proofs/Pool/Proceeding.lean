import SqlBench.Proofs.Pool.Step

set_option autoImplicit false

namespace SqlBench

variable {σ : Type}

-- A call is taken, others may go on while it is waited for, and it is over when its time has come.
def Course.Awaited (services : Services σ) (others : Course σ → Course σ → Prop) (call : Call)
    (c : Course σ) (outcome : Course.Outcome) (later : Course σ) : Prop :=
  ∃ mid, others (c.take services call).2 mid ∧
    (outcome, later) = (mid.advanceTo ((c.take services call).2.now +
      (c.take services call).1.delay)).settle call (c.take services call).1

theorem Course.advance_none (c : Course σ) : c.advanceTo (c.now + 0) = c := by
  simp [advanceTo]

-- One provider is asked after the other, and others may go on while one of them is waited for.
inductive Course.Collects (others : Course σ → Course σ → Prop) (subject : Subject) :
    Collector σ → Finding → Course σ → Finding → Course σ → Prop where
  | done {heard : List Measurement} {c : Course σ} :
      Collects others subject [] (.ok heard) c (.ok heard) c
  | halted {rest : Collector σ} {halt : Halt} {c : Course σ} :
      Collects others subject rest (.error halt) c (.error halt) c
  | asked {x : Requirement × Provider σ} {rest : Collector σ} {heard : List Measurement}
      {c mid later : Course σ} {answer : Answer} {world : σ} {finding : Finding}
      (asks : x.2 subject c.world = (answer, world)) (between : others { c with world := world } mid)
      (behind : Collects others subject rest (x.1.heed heard answer.finding)
        (mid.advanceTo (c.now + answer.delay)) finding later) :
      Collects others subject (x :: rest) (.ok heard) c finding later

namespace Collector

variable {others : Course σ → Course σ → Prop} {collector : Collector σ} {subject : Subject}

def Round.Leads (others : Course σ → Course σ → Prop) (collector : Collector σ) (subject : Subject)
    (comes : Finding → Course σ → Prop) (c : Course σ) : Round → Prop
  | .waiting delay heard asked => ∀ mid finding later, others c mid →
      Course.Collects others subject (collector.drop asked) heard (mid.advanceTo (c.now + delay))
        finding later → comes finding later
  | .done finding => comes finding c

-- The induction is on the providers that are still to be asked.
theorem ask_leads (refl : ∀ c, others c c) {rest : Collector σ} {asked : Nat}
    (behind : collector.drop asked = rest) {heard : List Measurement} (c : Course σ)
    {comes : Finding → Course σ → Prop}
    (collects : ∀ finding later, Course.Collects others subject rest (.ok heard) c finding later →
      comes finding later) :
    (ask subject rest asked heard c.world).1.Leads others collector subject comes
      { c with world := (ask subject rest asked heard c.world).2 } := by
  induction rest generalizing asked heard c with
  | nil => exact collects _ _ .done
  | cons x rest ih =>
      obtain ⟨-, remains⟩ := drop_next behind
      rw [ask]
      dsimp only
      split
      · rename_i instant
        have next (finding : Finding) (later : Course σ)
            (goes : Course.Collects others subject rest (x.1.heed heard (x.2 subject c.world).1.finding)
              { c with world := (x.2 subject c.world).2 } finding later) : comes finding later := by
          refine collects finding later (.asked rfl (refl _) ?_)
          rw [instant]
          exact (Course.advance_none { c with world := (x.2 subject c.world).2 }).symm ▸ goes
        cases heeds : x.1.heed heard (x.2 subject c.world).1.finding with
        | error halt =>
            rw [heeds] at next
            exact next _ _ .halted
        | ok found =>
            rw [heeds] at next
            exact ih remains { c with world := (x.2 subject c.world).2 } next
      · intro mid finding later goneOn goes
        rw [remains] at goes
        exact collects finding later (.asked rfl goneOn goes)

theorem go_on_leads (refl : ∀ c, others c c) {asked : Nat} {heard : Finding} (c : Course σ)
    (comes : Finding → Course σ → Prop)
    (collects : ∀ finding later, Course.Collects others subject (collector.drop asked) heard c finding
      later → comes finding later) :
    (collector.goOn subject asked heard c.world).1.Leads others collector subject comes
      { c with world := (collector.goOn subject asked heard c.world).2 } := by
  cases heard with
  | ok heard => exact ask_leads refl rfl c collects
  | error halt => exact collects _ _ .halted

end Collector

theorem Course.collects_sound {others : Course σ → Course σ → Prop} {subject : Subject}
    {collector : Collector σ}
    (sound : ∀ x ∈ collector, ∀ world panic, (x.2 subject world).1.finding ≠ .error (.crashed panic))
    {heard finding : Finding} {c later : Course σ}
    (collects : Collects others subject collector heard c finding later)
    (heardSound : ∀ panic, heard ≠ .error (.crashed panic)) (panic : String) :
    finding ≠ .error (.crashed panic) := by
  induction collects with
  | done => simp
  | halted => exact heardSound panic
  | @asked x rest heard c mid later answer world finding asks between behind ih =>
      obtain ⟨own, others⟩ := List.forall_mem_cons.mp sound
      refine ih others fun panic => ?_
      have said := own c.world panic
      rw [asks] at said
      rw [Collector.heed_eq]
      cases answered : answer.finding with
      | ok found => simp [Collector.refusal?]
      | error halt =>
          cases halt with
          | failed cause => cases x.1 <;> simp [Collector.refusal?]
          | crashed text =>
              intro same
              simp only [Collector.refusal?, Except.error.injEq, Halt.crashed.injEq] at same
              exact said (answered.trans (same ▸ rfl))

namespace Pool

variable {services : Services σ} {others : Course σ → Course σ → Prop}

inductive Proceeds (services : Services σ) (others : Course σ → Course σ → Prop) :
    List Task → Worker → Course σ → Standing → Course σ → Prop where
  | ended {w : Worker} {c : Course σ} {r : ExecutionResult} (reported : w.result = some r) :
      Proceeds services others [] w c (.finished r) (closeAll w c)
  | passed {task : Task} {rest : List Task} {w next : Worker} {c mid later : Course σ}
      {standing : Standing} (silent : w.call? task = none) (passes : w.pass task c = (.ok next, mid))
      (behind : Proceeds services others rest next mid standing later) :
      Proceeds services others (task :: rest) w c standing later
  | received {task : Task} {rest : List Task} {w next : Worker} {c settled mid later : Course σ}
      {call : Call} {outcome : Course.Outcome} {standing : Standing} (calls : w.call? task = some call)
      (awaited : Course.Awaited services others call c outcome settled)
      (receives : w.receive task outcome settled = (.ok next, mid))
      (behind : Proceeds services others rest next mid standing later) :
      Proceeds services others (task :: rest) w c standing later
  | crashed {task : Task} {rest : List Task} {w : Worker} {c settled : Course σ} {call : Call}
      {panic : String} (calls : w.call? task = some call)
      (awaited : Course.Awaited services others call c (.crashed panic) settled) :
      Proceeds services others (task :: rest) w c (.crashed panic) (closeAll w settled)

theorem receive_panics {w : Worker} {task : Task} {outcome : Course.Outcome} {c later : Course σ}
    {panic : String} (receives : w.receive task outcome c = (.error panic, later)) :
    outcome = .crashed panic ∧ later = c := by
  cases outcome with
  | crashed text => cases task <;> cases receives <;> exact ⟨rfl, rfl⟩
  | failed cause => cases task <;> cases receives
  | _ => cases task <;> cases receives

def Nap.Proceeds (services : Services σ) (others : Course σ → Course σ → Prop) (nap : Nap) (c : Course σ)
    (standing : Standing) (later : Course σ) : Prop :=
  (∃ next mid, nap.worker.receive nap.task (c.settle nap.call nap.promise).1
      (c.settle nap.call nap.promise).2 = (.ok next, mid) ∧
    Pool.Proceeds services others nap.rest next mid standing later) ∨
  ∃ panic, (c.settle nap.call nap.promise).1 = .crashed panic ∧ standing = .crashed panic ∧
    later = closeAll nap.worker (c.settle nap.call nap.promise).2

theorem nap_proceeds {task : Task} {rest : List Task} {w : Worker} {c mid later : Course σ} {call : Call}
    {standing : Standing} (calls : w.call? task = some call)
    (goneOn : others (c.take services call).2 mid)
    (proceeds : Nap.Proceeds services others ⟨w, task, call, (c.take services call).1, rest⟩
      (mid.advanceTo ((c.take services call).2.now + (c.take services call).1.delay)) standing later) :
    Proceeds services others (task :: rest) w c standing later := by
  rcases proceeds with ⟨next, settled, receives, behind⟩ | ⟨panic, crashes, rfl, rfl⟩
  · exact .received calls ⟨mid, goneOn, rfl⟩ receives behind
  · exact .crashed calls ⟨mid, goneOn, by rw [← crashes]⟩

-- Where a standing leads to, if the work comes to `comes`; whoever waits does so from this course on.
def Standing.Leads (services : Services σ) (others : Course σ → Course σ → Prop)
    (comes : Standing → Course σ → Prop) (c : Course σ) : Standing → Prop
  | .waiting nap => ∀ mid standing later, others c mid →
      nap.Proceeds services others (mid.advanceTo (c.now + nap.promise.delay)) standing later →
      comes standing later
  | standing => comes standing c

theorem resume_leads_if {e : Execution} {nap : Nap}
    (leads : ∀ (next : Worker) (mid : Course σ) (comes : Standing → Course σ → Prop),
      Fits e nap.rest next → (∀ standing later, Proceeds services others nap.rest next mid standing later →
        comes standing later) →
      (work services nap.rest next mid).1.Leads services others comes (work services nap.rest next mid).2)
    (fits : nap.Fits e) (c : Course σ) {comes : Standing → Course σ → Prop}
    (proceeds : ∀ standing later, nap.Proceeds services others c standing later → comes standing later) :
    (nap.resume services c).1.Leads services others comes (nap.resume services c).2 := by
  rcases resume_cases services nap c with ⟨next, mid, receives, goes⟩ | ⟨panic, mid, receives, goes⟩
  · rw [goes]
    exact leads next mid comes (receive_fits fits.rest (congrArg Prod.fst receives))
      fun standing later behind => proceeds standing later (.inl ⟨next, mid, receives, behind⟩)
  · obtain ⟨crashes, rfl⟩ := receive_panics receives
    rw [goes]
    exact proceeds _ _ (.inr ⟨panic, crashes, rfl, rfl⟩)

theorem work_leads (refl : ∀ c, others c c) {e : Execution} (todo : List Task) (w : Worker)
    (c : Course σ) (comes : Standing → Course σ → Prop) (fits : Fits e todo w)
    (proceeds : ∀ standing later, Proceeds services others todo w c standing later → comes standing later) :
    (work services todo w c).1.Leads services others comes (work services todo w c).2 := by
  induction todo generalizing w c comes with
  | nil =>
      obtain ⟨r, reported⟩ := Option.isSome_iff_exists.mp fits.inOrder
      simp only [work, reported]
      exact proceeds _ _ (.ended reported)
  | cons task rest ih =>
      rcases fitting_cases services fits c with
        ⟨next, mid, silent, passes, fitsStill, goes⟩ | ⟨call, napFits, goes⟩
      · rw [goes]
        exact ih next mid comes fitsStill fun standing later behind =>
          proceeds standing later (.passed silent passes behind)
      · rw [goes]
        split
        · rename_i instant
          refine resume_leads_if ih napFits (c.take services call).2 fun standing later behind =>
            proceeds standing later (nap_proceeds napFits.calls (refl _) ?_)
          rwa [instant, Course.advance_none]
        · exact fun mid standing later goneOn behind =>
            proceeds standing later (nap_proceeds napFits.calls goneOn behind)

theorem resume_leads (refl : ∀ c, others c c) {e : Execution} {nap : Nap} (fits : nap.Fits e)
    (c : Course σ) {comes : Standing → Course σ → Prop}
    (proceeds : ∀ standing later, nap.Proceeds services others c standing later → comes standing later) :
    (nap.resume services c).1.Leads services others comes (nap.resume services c).2 :=
  resume_leads_if (work_leads refl nap.rest) fits c proceeds

end Pool

end SqlBench
