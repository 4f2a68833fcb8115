import A2AProvisioning.LedgerHolds
import A2AProvisioning.LibraryMachine

/-! Runs of the provider's graph over one capacity ledger, interleaved at the ledger calls and the
signature, and the condition on the steps under which no offer is sold twice. A hold is matched by its
units alone, so the steps that restamp or give back a hold may take the one behind another offer. -/

namespace A2AProvisioning.Ledger

open Machine

def demand : ServiceNeed → Nat
  | .bandwidth need => need.capacityBps.toNat
  | .telemetry _ => 1

def listPriceTok : ServiceNeed → Int
  | .bandwidth _ => 10
  | .telemetry _ => 8

def fmt (need : ServiceNeed) (n : Nat) : String :=
  match need with
  | .bandwidth _ => s!"{n / 1000000} Mbps"
  | .telemetry _ => s!"{n} collector slot" ++ if n ≠ 1 then "s" else ""

def windowOf (need : ServiceNeed) : Window := (need.window.start.toNat, need.window.end.toNat)

/-! ### The graph -/

structure QuoteDecision where
  quote : Bool
  priceTok : Int
  reason : String

inductive Result
  | signed (offer : SignedOffer)
  | decline (decline : Decline)

structure ProviderState where
  need : ServiceNeed
  admitted : Bool
  result : Option Result
  transcript : List String

/-- The judgment slot: the list price without a model, else the model's answer, which may fail to
parse. -/
def decision (need : ServiceNeed) : Option (Option QuoteDecision) → QuoteDecision
  | none => ⟨true, listPriceTok need, "list price (deterministic slot)"⟩
  | some none => ⟨false, 0, "could not price; declining"⟩
  | some (some answer) => answer

/-- Where a run stands: before the quote, between the signature and `hold_until`, or at the end. -/
inductive Node
  | quote
  | signed (decision : QuoteDecision) (offer : SignedOffer)
  | done

structure GraphRun where
  state : ProviderState
  node : Node

/-- The `admit` node, with the edge that leads from it. -/
def admitNeed (ledger : CapacityLedger) (now : Nat) (need : ServiceNeed) : GraphRun × CapacityLedger :=
  let reserved := ledger.tryReserve (some now) (some now) (windowOf need) (demand need)
  if reserved.1 then
    (⟨⟨need, true, none, [s!"admit: reserved {fmt need (demand need)} in window"]⟩, .quote⟩, reserved.2)
  else
    (⟨⟨need, false, some (.decline ⟨"insufficient capacity in the requested window"⟩),
      ["admit: over capacity → decline (no overselling)"]⟩, .done⟩, reserved.2)

/-- The end of the `quote` node after a signature. -/
def returnSigned (state : ProviderState) (decision : QuoteDecision) (signed : SignedOffer) : GraphRun :=
  ⟨{ state with
      result := some (.signed signed)
      transcript := state.transcript ++ [s!"quote: signed offer at {decision.priceTok} TOK"] }, .done⟩

/-- The end of the `quote` node after a refusal. -/
def returnDecline (state : ProviderState) (decision : QuoteDecision) : GraphRun :=
  ⟨{ state with
      result := some (.decline ⟨decision.reason⟩)
      transcript := state.transcript ++ [s!"quote: declined — {decision.reason}"] }, .done⟩

/-- Chain time, the ledger, and every run that was started on it. -/
structure Market where
  now : Nat
  ledger : CapacityLedger
  runs : List GraphRun

inductive Action
  | advance (later : Nat)
  | admitNeed (need : ServiceNeed)
  | signOffer (i : Nat) (llm : Option (Option QuoteDecision)) (signed : SignedOffer)
  | holdUntil (i : Nat)
  | release (i : Nat) (llm : Option (Option QuoteDecision))

namespace Market

def start (capacity now : Nat) : Market := ⟨now, CapacityLedger.empty capacity, []⟩

def step (m : Market) : Action → Option Market
  | .advance later => if m.now ≤ later then some { m with now := later } else none
  | .admitNeed need =>
      some { m with
        ledger := (Ledger.admitNeed m.ledger m.now need).2
        runs := m.runs ++ [(Ledger.admitNeed m.ledger m.now need).1] }
  | .signOffer i llm signed =>
      match m.runs[i]? with
      | some ⟨state, .quote⟩ =>
          if (decision state.need llm).quote then
            some { m with runs := m.runs.set i ⟨state, .signed (decision state.need llm) signed⟩ }
          else none
      | _ => none
  | .holdUntil i =>
      match m.runs[i]? with
      | some ⟨state, .signed decision signed⟩ =>
          some { m with
            ledger := m.ledger.holdUntil (some m.now) (windowOf state.need) (demand state.need)
              signed.offer.validUntil.toNat
            runs := m.runs.set i (returnSigned state decision signed) }
      | _ => none
  | .release i llm =>
      match m.runs[i]? with
      | some ⟨state, .quote⟩ =>
          if (decision state.need llm).quote then none
          else some { m with
            ledger := m.ledger.release (some m.now) (windowOf state.need) (demand state.need)
            runs := m.runs.set i (returnDecline state (decision state.need llm)) }
      | _ => none

end Market

/-- A run that returned a signed offer for the window promises its demand up to `validUntil`. -/
def GraphRun.promise (window : Window) (run : GraphRun) : Option (Lease Nat Nat) :=
  match run.state.result with
  | some (.signed signed) =>
      if windowOf run.state.need = window then
        some ⟨demand run.state.need, WithTop.some signed.offer.validUntil.toNat⟩
      else none
  | _ => none

/-- The settlement contract's own test of an offer's age. -/
def accepts (now : Nat) (signed : SignedOffer) : Bool := now ≤ signed.offer.validUntil.toNat

def GraphRun.liveDemand (now : Nat) (window : Window) (run : GraphRun) : Nat :=
  match run.state.result with
  | some (.signed signed) =>
      if windowOf run.state.need = window ∧ accepts now signed then demand run.state.need else 0
  | _ => 0

namespace Market

def promises (m : Market) (window : Window) : Multiset (Lease Nat Nat) :=
  (m.runs.filterMap (GraphRun.promise window) : List _)

/-- The demand of the returned offers for a window that the settlement contract still accepts. -/
def liveUnits (m : Market) (window : Window) : Nat :=
  (m.runs.map (GraphRun.liveDemand m.now window)).sum

/-- The demand of the returned offers for a window that are in their last second. -/
def lastSecondUnits (m : Market) (window : Window) : Nat :=
  Lease.total (Lease.expiring m.now (m.promises window))

/-- Every returned offer that outlives this second still has a hold of its own among these. -/
def Spared (m : Market) (window : Window) (holds : List Hold) : Prop :=
  Lease.live m.now (m.promises window) ≤ Lease.live m.now (leases holds)

/-- The condition on a step. A hold is swept in the last second of its offer, so an admission must not
use the units of an offer in its last second. `hold_until` must find a hold, one behind no returned
offer, and `release` must not reach a hold behind one. -/
def Careful (m : Market) : Action → Prop
  | .advance _ => True
  | .admitNeed need =>
      (demand need : Int) ≤ m.ledger.available (some m.now) (windowOf need) →
        demand need + m.lastSecondUnits (windowOf need) ≤ m.ledger.available (some m.now) (windowOf need)
  | .signOffer .. => True
  | .holdUntil i =>
      ∀ run, m.runs[i]? = some run →
        ∃ hold rest, withoutFirst (demand run.state.need)
            (sweepHolds (some m.now) (m.ledger.holds (windowOf run.state.need))).reverse = some (hold, rest) ∧
          m.Spared (windowOf run.state.need) rest
  | .release i _ =>
      ∀ run, m.runs[i]? = some run →
        m.Spared (windowOf run.state.need)
          (untouchedBy (sweepHolds (some m.now) (m.ledger.holds (windowOf run.state.need)))
            (demand run.state.need))

theorem promises_snoc (m : Market) (ledger : CapacityLedger) (run : GraphRun) (window : Window)
    (hnone : run.promise window = none) :
    promises { m with ledger := ledger, runs := m.runs ++ [run] } window = m.promises window := by
  simp only [promises, List.filterMap_append, List.filterMap_cons, hnone, List.filterMap_nil,
    List.append_nil]

theorem filterMap_set_perm {α β : Type} {f : α → Option β} {as : List α} {i : Nat} {old new : α}
    (hold : as[i]? = some old) (hnone : f old = none) :
    ((as.set i new).filterMap f).Perm ((f new).toList ++ as.filterMap f) := by
  induction as generalizing i with
  | nil => cases hold
  | cons a rest ih =>
      cases i with
      | zero =>
          cases hold
          rw [List.set_cons_zero, List.filterMap_cons_none hnone]
          cases hnew : f new with
          | none => rw [List.filterMap_cons_none hnew, Option.toList_none, List.nil_append]
          | some b => rw [List.filterMap_cons_some hnew, Option.toList_some, List.singleton_append]
      | succ i =>
          have hrest := ih hold
          rw [List.set_cons_succ]
          cases ha : f a with
          | none =>
              rw [List.filterMap_cons_none ha, List.filterMap_cons_none ha]
              exact hrest
          | some b =>
              rw [List.filterMap_cons_some ha, List.filterMap_cons_some ha]
              exact (hrest.cons b).trans List.perm_middle.symm

theorem promises_set (m : Market) (ledger : CapacityLedger) {i : Nat} {old new : GraphRun}
    (window : Window) (hold : m.runs[i]? = some old) (hnone : old.promise window = none) :
    promises { m with ledger := ledger, runs := m.runs.set i new } window =
      ((new.promise window).toList : List (Lease Nat Nat)) + m.promises window := by
  rw [promises, promises, Multiset.coe_add, Multiset.coe_eq_coe]
  exact filterMap_set_perm hold hnone

theorem promise_of_result_none {run : GraphRun} (hresult : run.state.result = none) (window : Window) :
    run.promise window = none := by
  simp only [GraphRun.promise, hresult]

theorem promise_returnDecline (state : ProviderState) (decision : QuoteDecision) (window : Window) :
    (returnDecline state decision).promise window = none := rfl

theorem promise_admitNeed (ledger : CapacityLedger) (now : Nat) (need : ServiceNeed) (window : Window) :
    (Ledger.admitNeed ledger now need).1.promise window = none := by
  simp only [Ledger.admitNeed]
  split_ifs <;> rfl

theorem liveDemand_eq_total (now : Nat) (window : Window) (run : GraphRun) :
    run.liveDemand now window =
      Lease.total (((run.promise window).toList : Multiset (Lease Nat Nat)).filter
        fun lease => WithTop.some now ≤ lease.lapse) := by
  rw [GraphRun.liveDemand, GraphRun.promise]
  split
  · rename_i signed _
    by_cases hwindow : windowOf run.state.need = window
    · rw [if_pos hwindow, Option.toList_some, Multiset.coe_singleton, Multiset.filter_singleton]
      by_cases haccepts : now ≤ signed.offer.validUntil.toNat
      · rw [if_pos ⟨hwindow, decide_eq_true haccepts⟩, if_pos (WithTop.coe_le_coe.mpr haccepts)]
        exact (Multiset.sum_singleton _).symm
      · rw [if_neg (fun h => haccepts (of_decide_eq_true h.2)), if_neg (mt WithTop.coe_le_coe.mp haccepts)]
        rfl
    · rw [if_neg (fun h => hwindow h.1), if_neg hwindow]
      rfl
  · rfl

/-- The demand of the acceptable offers is the total of the promises that are not past. -/
theorem liveUnits_eq_total (m : Market) (window : Window) :
    m.liveUnits window =
      Lease.total ((m.promises window).filter fun lease => WithTop.some m.now ≤ lease.lapse) := by
  obtain ⟨now, ledger, runs⟩ := m
  simp only [liveUnits, promises]
  induction runs with
  | nil => rfl
  | cons run rest ih =>
      have happend : (run :: rest).filterMap (GraphRun.promise window) =
          (run.promise window).toList ++ rest.filterMap (GraphRun.promise window) := by
        cases hpromise : run.promise window <;> simp [hpromise]
      rw [List.map_cons, List.sum_cons, ih, liveDemand_eq_total, happend, ← Multiset.coe_add,
        Multiset.filter_add, Lease.total_add]

/-! ### The invariant -/

/-- In every window the holds back the promises, and a run still under way has promised nothing. -/
structure Covered (capacity : Nat) (m : Market) : Prop where
  size : m.ledger.capacity = capacity
  pending : ∀ run ∈ m.runs, run.node = .done ∨ run.state.result = none
  backed : ∀ window, Lease.Backed m.now capacity (leases (m.ledger.holds window)) (m.promises window)

theorem covered_start (capacity now : Nat) : Covered capacity (start capacity now) where
  size := rfl
  pending := fun _ hmem => absurd hmem List.not_mem_nil
  backed := fun _ => Lease.Backed.empty

variable {capacity : Nat} {m : Market}

theorem Covered.pending_of_get (h : Covered capacity m) {i : Nat} {run : GraphRun}
    (hrun : m.runs[i]? = some run) (hnode : run.node ≠ .done) : run.state.result = none :=
  (h.pending run (List.mem_of_getElem? hrun)).resolve_left hnode

theorem Covered.pending_set (h : Covered capacity m) {next : GraphRun}
    (hnext : next.node = .done ∨ next.state.result = none) (i : Nat) :
    ∀ run ∈ m.runs.set i next, run.node = .done ∨ run.state.result = none := by
  intro run hmem
  rcases List.mem_or_eq_of_mem_set hmem with hmem | rfl
  · exact h.pending run hmem
  · exact hnext

theorem Covered.advance (h : Covered capacity m) {later : Nat} (hle : m.now ≤ later) :
    Covered capacity { m with now := later } where
  size := h.size
  pending := h.pending
  backed := fun window => (h.backed window).advance hle

theorem Covered.admitNeed (h : Covered capacity m) (need : ServiceNeed)
    (hcareful : m.Careful (.admitNeed need)) :
    Covered capacity { m with
      ledger := (Ledger.admitNeed m.ledger m.now need).2
      runs := m.runs ++ [(Ledger.admitNeed m.ledger m.now need).1] } := by
  have hledger : (Ledger.admitNeed m.ledger m.now need).2 =
      (m.ledger.tryReserve (some m.now) (some m.now) (windowOf need) (demand need)).2 := by
    simp only [Ledger.admitNeed]
    split_ifs <;> rfl
  refine ⟨?_, fun run hmem => ?_, fun window => ?_⟩
  · rw [hledger, tryReserve_capacity]
    exact h.size
  · rcases List.mem_append.mp hmem with hmem | hmem
    · exact h.pending run hmem
    · cases List.mem_singleton.mp hmem
      simp only [Ledger.admitNeed]
      split_ifs
      · exact Or.inr rfl
      · exact Or.inl rfl
  · rw [promises_snoc m _ _ window (promise_admitNeed _ _ _ _), hledger]
    by_cases hwindow : window = windowOf need
    · subst hwindow
      have hbacked := h.backed (windowOf need)
      rw [← h.size] at hbacked ⊢
      exact backed_tryReserve hbacked hcareful
    · rw [tryReserve_holds_of_ne hwindow]
      exact h.backed window

theorem Covered.signOffer (h : Covered capacity m) {i : Nat} {state : ProviderState}
    (hrun : m.runs[i]? = some ⟨state, .quote⟩) (decision : QuoteDecision) (signed : SignedOffer) :
    Covered capacity { m with runs := m.runs.set i ⟨state, .signed decision signed⟩ } := by
  have hresult : state.result = none := h.pending_of_get hrun (fun heq => by cases heq)
  refine ⟨h.size, h.pending_set (Or.inr hresult) i, fun window => ?_⟩
  rw [promises_set m m.ledger window hrun (promise_of_result_none hresult window),
    @promise_of_result_none ⟨state, .signed decision signed⟩ hresult window, Option.toList_none,
    Multiset.coe_nil, zero_add]
  exact h.backed window

theorem Covered.holdUntil (h : Covered capacity m) {i : Nat} {state : ProviderState}
    {decision : QuoteDecision} {signed : SignedOffer}
    (hrun : m.runs[i]? = some ⟨state, .signed decision signed⟩) (hcareful : m.Careful (.holdUntil i)) :
    Covered capacity { m with
      ledger := m.ledger.holdUntil (some m.now) (windowOf state.need) (demand state.need)
        signed.offer.validUntil.toNat
      runs := m.runs.set i (returnSigned state decision signed) } := by
  have hresult : state.result = none := h.pending_of_get hrun (fun heq => by cases heq)
  obtain ⟨hold, rest, hfound, hspare⟩ := hcareful _ hrun
  refine ⟨h.size, h.pending_set (Or.inl rfl) i, fun window => ?_⟩
  rw [promises_set m _ window hrun (promise_of_result_none hresult window)]
  by_cases hwindow : window = windowOf state.need
  · subst hwindow
    have hpromise : (returnSigned state decision signed).promise (windowOf state.need) =
        some ⟨demand state.need, WithTop.some signed.offer.validUntil.toNat⟩ := by
      simp only [GraphRun.promise, returnSigned, ↓reduceIte]
    rw [hpromise, Option.toList_some, Multiset.coe_singleton, Multiset.singleton_add]
    exact backed_holdUntil (h.backed _) hfound hspare
  · have hpromise : (returnSigned state decision signed).promise window = none :=
      if_neg (Ne.symm hwindow)
    rw [hpromise, Option.toList_none, Multiset.coe_nil, zero_add, holdUntil_holds_of_ne hwindow]
    exact h.backed window

theorem Covered.release (h : Covered capacity m) {i : Nat} {state : ProviderState}
    {llm : Option (Option QuoteDecision)} (hrun : m.runs[i]? = some ⟨state, .quote⟩)
    (hcareful : m.Careful (.release i llm)) :
    Covered capacity { m with
      ledger := m.ledger.release (some m.now) (windowOf state.need) (demand state.need)
      runs := m.runs.set i (returnDecline state (decision state.need llm)) } := by
  have hresult : state.result = none := h.pending_of_get hrun (fun heq => by cases heq)
  refine ⟨h.size, h.pending_set (Or.inl rfl) i, fun window => ?_⟩
  rw [promises_set m _ window hrun (promise_of_result_none hresult window), promise_returnDecline,
    Option.toList_none, Multiset.coe_nil, zero_add]
  by_cases hwindow : window = windowOf state.need
  · subst hwindow
    exact backed_release (h.backed _) (hcareful _ hrun)
  · rw [release_holds_of_ne hwindow]
    exact h.backed window

theorem step_advance {later : Nat} {next : Market} (hstep : m.step (.advance later) = some next) :
    m.now ≤ later ∧ next = { m with now := later } := by
  rw [Market.step] at hstep
  split_ifs at hstep with hle
  exact ⟨hle, (Option.some.inj hstep).symm⟩

theorem step_signOffer {i : Nat} {llm : Option (Option QuoteDecision)} {signed : SignedOffer} {next : Market}
    (hstep : m.step (.signOffer i llm signed) = some next) :
    ∃ state, m.runs[i]? = some ⟨state, .quote⟩ ∧ (decision state.need llm).quote = true ∧
      next = { m with runs := m.runs.set i ⟨state, .signed (decision state.need llm) signed⟩ } := by
  rw [Market.step] at hstep
  split at hstep
  · rename_i state hrun
    split_ifs at hstep with hquote
    exact ⟨state, hrun, hquote, (Option.some.inj hstep).symm⟩
  · cases hstep

theorem step_holdUntil {i : Nat} {next : Market} (hstep : m.step (.holdUntil i) = some next) :
    ∃ state decision signed, m.runs[i]? = some ⟨state, .signed decision signed⟩ ∧
      next = { m with
        ledger := m.ledger.holdUntil (some m.now) (windowOf state.need) (demand state.need)
          signed.offer.validUntil.toNat
        runs := m.runs.set i (returnSigned state decision signed) } := by
  rw [Market.step] at hstep
  split at hstep
  · rename_i state decision signed hrun
    exact ⟨state, decision, signed, hrun, (Option.some.inj hstep).symm⟩
  · cases hstep

theorem step_release {i : Nat} {llm : Option (Option QuoteDecision)} {next : Market}
    (hstep : m.step (.release i llm) = some next) :
    ∃ state, m.runs[i]? = some ⟨state, .quote⟩ ∧ ¬ (decision state.need llm).quote = true ∧
      next = { m with
        ledger := m.ledger.release (some m.now) (windowOf state.need) (demand state.need)
        runs := m.runs.set i (returnDecline state (decision state.need llm)) } := by
  rw [Market.step] at hstep
  split at hstep
  · rename_i state hrun
    split_ifs at hstep with hquote
    exact ⟨state, hrun, hquote, (Option.some.inj hstep).symm⟩
  · cases hstep

theorem Covered.step (h : Covered capacity m) {action : Action} {next : Market}
    (hcareful : m.Careful action) (hstep : m.step action = some next) : Covered capacity next := by
  cases action with
  | advance later =>
      obtain ⟨hle, rfl⟩ := step_advance hstep
      exact h.advance hle
  | admitNeed need =>
      cases hstep
      exact h.admitNeed need hcareful
  | signOffer i llm signed =>
      obtain ⟨state, hrun, -, rfl⟩ := step_signOffer hstep
      exact h.signOffer hrun _ signed
  | holdUntil i =>
      obtain ⟨state, decision, signed, hrun, rfl⟩ := step_holdUntil hstep
      exact h.holdUntil hrun hcareful
  | release i llm =>
      obtain ⟨state, hrun, -, rfl⟩ := step_release hstep
      exact h.release hrun hcareful

theorem Covered.liveUnits_le (h : Covered capacity m) (window : Window) :
    m.liveUnits window ≤ capacity := by
  rw [liveUnits_eq_total]
  exact (h.backed window).total_le

end Market

/-- Runs of the graph whose ledger steps are careful never sell a window beyond its capacity. -/
theorem returned_offers_within_capacity (capacity now : Nat) (actions : List Action) (m : Market)
    (hcareful : Guarded Market.step Market.Careful (Market.start capacity now) actions)
    (hrun : run Market.step (Market.start capacity now) actions = some m) (window : Window) :
    m.liveUnits window ≤ capacity := by
  have hcovered : Market.Covered capacity m :=
    run_invariant (fun _ _ _ h hguard hstep => h.step hguard hstep) (Market.covered_start capacity now)
      hcareful hrun
  exact hcovered.liveUnits_le window

/-- A need for 100 bps in the window from 0 to 1000. -/
def smallNeed : ServiceNeed := .bandwidth ⟨"A", "B", 100, 0, ⟨0, 1000⟩⟩

/-- An offer for it that is good through the window, as the chain tools sign them. -/
def smallOffer : SignedOffer :=
  ⟨⟨"0x01", "0x02", 0, "0x03", "0x04", 0, 1000, "0x05", "10", 1000, "0x06", "0x07"⟩, "0x08"⟩

/-- A need for 60 bps in the same window. -/
def smallerNeed : ServiceNeed := .bandwidth ⟨"A", "B", 60, 0, ⟨0, 1000⟩⟩

/-- Two runs that overlap: the later one signs first. -/
def twoQuotes : List Action :=
  [.admitNeed smallNeed, .admitNeed smallerNeed, .signOffer 0 none smallOffer, .signOffer 1 none smallOffer,
    .holdUntil 1, .holdUntil 0, .advance 400]

theorem returned_offers_within_capacity_two :
    ∃ m, run Market.step (Market.start 200 0) twoQuotes = some m ∧ m.liveUnits (0, 1000) = 160 ∧
      m.liveUnits (0, 1000) ≤ 200 := by
  refine ⟨_, rfl, rfl, returned_offers_within_capacity 200 0 twoQuotes _ ?_ rfl (0, 1000)⟩
  refine Guarded.cons (fun _ => by decide) rfl (Guarded.cons (fun _ => by decide) rfl (Guarded.cons trivial rfl
    (Guarded.cons trivial rfl (Guarded.cons ?_ rfl (Guarded.cons ?_ rfl (Guarded.cons trivial rfl trivial))))))
  · rintro _ ⟨⟩
    exact ⟨_, _, rfl, Multiset.zero_le _⟩
  · -- the hold of the later run backs its offer already
    rintro _ ⟨⟩
    exact ⟨_, _, rfl, le_rfl⟩

/-- Three equal quotes on a ledger for two: both signatures restamp the newer hold, the older one
lapses after `quoteHoldS`, and its units are sold again. -/
theorem returned_offers_oversold :
    ¬ ∀ (capacity now : Nat) (actions : List Action) (m : Market),
      run Market.step (Market.start capacity now) actions = some m →
        ∀ window, m.liveUnits window ≤ capacity := by
  intro hclaim
  have h := hclaim 200 0
    [.admitNeed smallNeed, .admitNeed smallNeed, .signOffer 0 none smallOffer, .holdUntil 0,
      .signOffer 1 none smallOffer, .holdUntil 1, .advance 300, .admitNeed smallNeed,
      .signOffer 2 none smallOffer, .holdUntil 2] _ rfl (0, 1000)
  exact absurd h (by decide)

end A2AProvisioning.Ledger
