import A2AProvisioning.AgentsOffers
import A2AProvisioning.LedgerRuns

/-! The consumer's graph: its nodes, the edges that the state decides, and the calls of its tools in a run. With
no model the offer is judged by one comparison, of whole tokens. -/

namespace A2AProvisioning.Agents

open Ledger

structure DecisionOutput where
  accept : Bool
  reason : String

/-- What the graph needs from outside; `none` where a tool raises. An offer that is quoted has passed its checks. -/
structure ConsumerTools where
  quote : ServiceNeed → Option Result
  settle : SignedOffer → Option Int
  activate : Int → String → Option String
  valid : ∀ {need : ServiceNeed} {offer : SignedOffer}, quote need = some (.signed offer) → offer.offer.Valid

inductive ToolCall
  | quote (need : ServiceNeed)
  | settle (offer : SignedOffer)
  | activate (entitlementId : Int) (kind : String)

def ToolCall.isSettle : ToolCall → Bool
  | .settle _ => true
  | _ => false

structure ConsumerState where
  need : ServiceNeed
  budgetTok : Int
  offer : Option SignedOffer
  decision : Option DecisionOutput
  entitlementId : Option Int
  sessionId : Option String
  transcript : List String

inductive ConsumerNode
  | requestQuote
  | decide
  | settle
  | activate
  | report
  | declined

def kindOf : ServiceNeed → String
  | .bandwidth _ => "bandwidth"
  | .telemetry _ => "telemetry"

/-- `int(price) // 10**18` for a string of digits; `none` where `int` raises. -/
def wholeTok (offer : SignedOffer) : Option Nat := (Decimal.readInt offer.offer.price.toList).map fun n => n / 10 ^ 18

/-- The judgment of a model on the need, the offer and the budget, `none` where it raises; no judgment for the
deterministic slot. -/
abbrev Judge := Option (ServiceNeed → SignedOffer → Int → Option DecisionOutput)

/-- The reason names the budget, so it raises where that cannot be written. -/
def deterministic (price : Nat) (budgetTok : Int) : Option DecisionOutput :=
  let ok := decide ((price : Int) ≤ budgetTok)
  (strOf budgetTok).map fun budget =>
    ⟨ok, s!"deterministic policy: {price} TOK " ++ (if ok then "within" else "over") ++ s!" budget {budget} TOK"⟩

/-- The decision on an offer of so many whole tokens. -/
def judged (llm : Judge) (need : ServiceNeed) (offer : SignedOffer) (budgetTok : Int) (price : Nat) :
    Option DecisionOutput :=
  match llm with
  | none => deterministic price budgetTok
  | some judge => judge need offer budgetTok

namespace ConsumerState

def start (need : ServiceNeed) (budgetTok : Int) : ConsumerState := ⟨need, budgetTok, none, none, none, none, []⟩

def log (state : ConsumerState) (line : String) : ConsumerState := { state with transcript := state.transcript ++ [line] }

end ConsumerState

variable (tools : ConsumerTools) (llm : Judge)

/-- A node: the tools it calls, and the state it leaves unless something in it raises. -/
def visit : ConsumerNode → ConsumerState → List ToolCall × Option ConsumerState
  | .requestQuote, state =>
      ([.quote state.need], (tools.quote state.need).bind fun
        | .decline decline => some (state.log ("quote: provider declined — " ++ decline.reason))
        | .signed offer => (wholeTok offer).map fun price =>
            { state with offer := some offer }.log (s!"quote: {price} TOK for " ++ kindOf state.need))
  | .decide, state =>
      ([], state.offer.bind fun offer => (wholeTok offer).bind fun price =>
        (judged llm state.need offer state.budgetTok price).map fun decision =>
          { state with decision := some decision }.log
            ("decide: " ++ (if decision.accept then "accept" else "decline") ++ " — " ++ decision.reason))
  | .settle, state =>
      match state.offer with
      | none => ([], none)
      | some offer =>
          ([.settle offer], (tools.settle offer).bind fun entitlementId => (strOf entitlementId).map fun text =>
            { state with entitlementId := some entitlementId }.log ("settle: minted entitlement #" ++ text))
  | .activate, state =>
      match state.entitlementId with
      | none => ([], none)
      | some entitlementId =>
          ([.activate entitlementId (kindOf state.need)],
            (tools.activate entitlementId (kindOf state.need)).map fun sessionId =>
              { state with sessionId := some sessionId }.log ("activate: session " ++ sessionId ++ " active"))
  | .report, state => ([], some (state.log "report: service running"))
  | .declined, state => ([], some (state.log "exit: offer declined, nothing purchased"))

/-- The edge that leads on from a node, if any. -/
def edge : ConsumerNode → ConsumerState → Option ConsumerNode
  | .requestQuote, state => some (if state.offer.isSome then .decide else .declined)
  | .decide, state => some (if state.decision.any DecisionOutput.accept then .settle else .declined)
  | .settle, _ => some .activate
  | .activate, _ => some .report
  | .report, _ => none
  | .declined, _ => none

/-- How many nodes a run may visit; no path through the graph has more than five. -/
def recursionLimit : Nat := 25

def invoke : Nat → ConsumerNode → ConsumerState → List ToolCall × Option ConsumerState
  | 0, _, _ => ([], none)
  | limit + 1, node, state =>
      let visited := visit tools llm node state
      match visited.2 with
      | none => (visited.1, none)
      | some state =>
          match edge node state with
          | none => (visited.1, some state)
          | some node =>
              let rest := invoke limit node state
              (visited.1 ++ rest.1, rest.2)

/-- A run of the graph: the calls of its tools, and its last state unless it raises. -/
def runConsumer (need : ServiceNeed) (budgetTok : Int) : List ToolCall × Option ConsumerState :=
  invoke tools llm recursionLimit .requestQuote (.start need budgetTok)

/-! ### The calls of a run -/

/-- The ticket that a purchase returns, if it can be written down. -/
def minted (entitlementId : Option Int) : Option Int := entitlementId.filter fun id => (strOf id).isSome

/-- The calls of a purchase: the second waits for the first to return. -/
def purchase (need : ServiceNeed) (offer : SignedOffer) : List ToolCall :=
  .settle offer :: (minted (tools.settle offer)).elim [] fun entitlementId => [.activate entitlementId (kindOf need)]

/-- The judgment accepts the offer. -/
def accepted (need : ServiceNeed) (budgetTok : Int) (offer : SignedOffer) : Bool :=
  (wholeTok offer).any fun price => (judged llm need offer budgetTok price).any DecisionOutput.accept

theorem minted_some (id : Int) : minted (some id) = (strOf id).map fun _ => id := by
  rw [minted, Option.filter_some]
  cases strOf id <;> rfl

theorem minted_eq_some {entitlementId : Option Int} {id : Int} (h : minted entitlementId = some id) :
    entitlementId = some id :=
  (Option.filter_eq_some_iff.mp h).1

section Calls

variable (limit : Nat) {state : ConsumerState}

/-- The calls of a node come first, then those of the nodes behind it, unless it raises. -/
theorem calls_invoke (node : ConsumerNode) (state : ConsumerState) :
    (invoke tools llm (limit + 1) node state).1 =
      (visit tools llm node state).1 ++ (visit tools llm node state).2.elim [] fun next =>
        (edge node next).elim [] fun node' => (invoke tools llm limit node' next).1 := by
  rw [invoke]
  cases (visit tools llm node state).2 with
  | none => exact (List.append_nil _).symm
  | some next =>
      dsimp only [Option.elim_some]
      cases edge node next with
      | none => exact (List.append_nil _).symm
      | some node' => rfl

theorem calls_of_activate (entitlementId : Int) (hid : state.entitlementId = some entitlementId) :
    (invoke tools llm (limit + 2) .activate state).1 = [.activate entitlementId (kindOf state.need)] := by
  rw [calls_invoke]
  simp only [visit, hid]
  cases tools.activate entitlementId (kindOf state.need) <;> rfl

theorem calls_of_settle (offer : SignedOffer) (hoffer : state.offer = some offer) :
    (invoke tools llm (limit + 3) .settle state).1 = purchase tools state.need offer := by
  rw [calls_invoke, purchase]
  simp only [visit, hoffer]
  cases tools.settle offer with
  | none => rfl
  | some entitlementId =>
      rw [minted_some, Option.bind_some]
      cases strOf entitlementId with
      | none => rfl
      | some text =>
          rw [Option.map_some, Option.elim_some, Option.map_some, Option.elim_some, edge, Option.elim_some,
            calls_of_activate tools llm limit entitlementId rfl]
          rfl

theorem calls_of_decide (offer : SignedOffer) (hoffer : state.offer = some offer) :
    (invoke tools llm (limit + 4) .decide state).1 =
      if accepted llm state.need state.budgetTok offer then purchase tools state.need offer else [] := by
  rw [calls_invoke, accepted]
  simp only [visit, hoffer, Option.bind_some, List.nil_append]
  cases wholeTok offer with
  | none => rfl
  | some price =>
      rw [Option.bind_some, Option.any_some]
      cases judged llm state.need offer state.budgetTok price with
      | none => rfl
      | some decision =>
          rw [Option.map_some, Option.elim_some, Option.any_some, edge]
          cases haccept : decision.accept with
          | false =>
              simp only [ConsumerState.log, haccept, Option.any_some, Bool.false_eq_true, if_false, Option.elim_some]
              rfl
          | true =>
              simp only [ConsumerState.log, haccept, Option.any_some, if_true, Option.elim_some]
              rw [calls_of_settle tools llm limit offer rfl]

/-- A run asks for a quote, and buys what is offered if the judgment accepts it. -/
theorem calls_of_requestQuote (need : ServiceNeed) (budgetTok : Int) :
    (invoke tools llm (limit + 5) .requestQuote (.start need budgetTok)).1 = .quote need ::
      match tools.quote need with
      | some (.signed offer) => if accepted llm need budgetTok offer then purchase tools need offer else []
      | _ => [] := by
  rw [calls_invoke]
  simp only [visit, ConsumerState.start]
  cases tools.quote need with
  | none => rfl
  | some result =>
      cases result with
      | decline decline => rfl
      | signed offer =>
          simp only [Option.bind_some]
          cases hprice : wholeTok offer with
          | none => simp [accepted, hprice]
          | some price =>
              rw [Option.map_some, Option.elim_some, edge]
              simp only [ConsumerState.log, Option.isSome_some, if_true, Option.elim_some]
              rw [calls_of_decide tools llm limit offer rfl]
              rfl

end Calls

theorem calls_of_run (need : ServiceNeed) (budgetTok : Int) :
    (runConsumer tools llm need budgetTok).1 = .quote need ::
      match tools.quote need with
      | some (.signed offer) => if accepted llm need budgetTok offer then purchase tools need offer else []
      | _ => [] :=
  calls_of_requestQuote tools llm 20 need budgetTok

/-- An offer can be bought once, and a session is activated on the ticket that was bought. -/
theorem activates_after_settle (need : ServiceNeed) (budgetTok : Int) {before after : List ToolCall}
    {entitlementId : Int} {kind : String}
    (hcalls : (runConsumer tools llm need budgetTok).1 = before ++ .activate entitlementId kind :: after) :
    ∃ offer, .settle offer ∈ before ∧ tools.settle offer = some entitlementId := by
  rw [calls_of_run] at hcalls
  split at hcalls
  · rename_i offer _
    split_ifs at hcalls with haccept
    · unfold purchase at hcalls
      cases hsettle : minted (tools.settle offer) with
      | none =>
          rw [hsettle] at hcalls
          rcases before with _ | ⟨first, _ | ⟨second, before⟩⟩ <;> simp at hcalls
      | some entitlementId' =>
          rw [hsettle] at hcalls
          rcases before with _ | ⟨first, _ | ⟨second, _ | ⟨third, before⟩⟩⟩ <;> simp at hcalls
          obtain ⟨rfl, rfl, ⟨rfl, -⟩, -⟩ := hcalls
          exact ⟨offer, by simp, minted_eq_some hsettle⟩
    · rcases before with _ | ⟨first, before⟩ <;> simp at hcalls
  · rcases before with _ | ⟨first, before⟩ <;> simp at hcalls

theorem settles_at_most_once (need : ServiceNeed) (budgetTok : Int) :
    ((runConsumer tools llm need budgetTok).1.filter ToolCall.isSettle).length ≤ 1 := by
  rw [calls_of_run]
  split
  · rename_i offer _
    split_ifs
    · unfold purchase
      cases minted (tools.settle offer) <;> exact Nat.le_refl 1
    · simp [ToolCall.isSettle]
  · simp [ToolCall.isSettle]

theorem settle_mem_calls_iff (need : ServiceNeed) (budgetTok : Int) (offer : SignedOffer) :
    .settle offer ∈ (runConsumer tools llm need budgetTok).1 ↔
      tools.quote need = some (.signed offer) ∧ accepted llm need budgetTok offer = true := by
  rw [calls_of_run]
  split
  · rename_i offered hquote
    rw [hquote, Option.some.injEq, Result.signed.injEq]
    split_ifs with haccept
    · unfold purchase
      have hmem : .settle offer ∈ ToolCall.quote need :: ToolCall.settle offered ::
          (minted (tools.settle offered)).elim [] (fun entitlementId => [.activate entitlementId (kindOf need)]) ↔
            offered = offer := by
        cases minted (tools.settle offered) <;> simp [eq_comm]
      rw [hmem]
      constructor
      · rintro rfl
        exact ⟨rfl, haccept⟩
      · exact fun h => h.1
    · refine iff_of_false (by simp) ?_
      rintro ⟨rfl, haccept'⟩
      exact haccept haccept'
  · rename_i hnot
    refine iff_of_false (by simp) ?_
    rintro ⟨hquote, -⟩
    exact hnot offer hquote

/-- A run buys exactly the offers within the budget, once, and activates what it bought. -/
structure Prudent (tools : ConsumerTools) (need : ServiceNeed) (budgetTok : Int) (calls : List ToolCall) : Prop where
  settles : ∀ offer, .settle offer ∈ calls ↔
    tools.quote need = some (.signed offer) ∧ (offer.offer.amount : Int) ≤ budgetTok * 10 ^ 18
  once : (calls.filter ToolCall.isSettle).length ≤ 1
  activates : ∀ before after entitlementId kind, calls = before ++ .activate entitlementId kind :: after →
    ∃ offer, .settle offer ∈ before ∧ tools.settle offer = some entitlementId

/-- The price can be read, and the budget be written. -/
def Written (offer : SignedOffer) (budgetTok : Int) : Prop :=
  offer.offer.price.toList.length ≤ Decimal.maxStrDigits ∧ (strOf budgetTok).isSome = true

instance (offer : SignedOffer) (budgetTok : Int) : Decidable (Written offer budgetTok) :=
  inferInstanceAs (Decidable (_ ∧ _))

/-- The comparison sees the price only up to its last whole token, and not at all if the text of the price or of the
budget is refused. -/
theorem accepted_iff (need : ServiceNeed) (budgetTok : Int) (offer : SignedOffer) :
    accepted none need budgetTok offer = true ↔
      Written offer budgetTok ∧ (offer.offer.amount : Int) < (budgetTok + 1) * 10 ^ 18 := by
  unfold accepted wholeTok Decimal.readInt Written
  by_cases hread : offer.offer.price.toList.length ≤ Decimal.maxStrDigits
  · rw [if_pos hread, Option.map_some, Option.any_some, judged, deterministic, and_iff_right hread]
    cases strOf budgetTok with
    | none => exact iff_of_false Bool.false_ne_true fun h => Bool.false_ne_true h.1
    | some budget =>
        rw [Option.isSome_some, and_iff_right rfl]
        show decide (((offer.offer.amount / 10 ^ 18 : Nat) : Int) ≤ budgetTok) = true ↔ _
        rw [decide_eq_true_eq]
        omega
  · rw [if_neg hread]
    exact iff_of_false Bool.false_ne_true fun h => hread h.1.1

/-- A run keeps to its budget when the price does not fall strictly between the budget and the next whole token, and
where one of the two texts is refused the price is over the budget. -/
theorem runConsumer_prudent_iff (need : ServiceNeed) (budgetTok : Int) :
    Prudent tools need budgetTok (runConsumer tools none need budgetTok).1 ↔
      ∀ offer, tools.quote need = some (.signed offer) →
        if Written offer budgetTok then
          (offer.offer.amount : Int) ≤ budgetTok * 10 ^ 18 ∨ (budgetTok + 1) * 10 ^ 18 ≤ (offer.offer.amount : Int)
        else budgetTok * 10 ^ 18 < (offer.offer.amount : Int) := by
  have hsettles : ∀ offer, tools.quote need = some (.signed offer) →
      (.settle offer ∈ (runConsumer tools none need budgetTok).1 ↔
        Written offer budgetTok ∧ (offer.offer.amount : Int) < (budgetTok + 1) * 10 ^ 18) := by
    intro offer hquote
    rw [settle_mem_calls_iff, and_iff_right hquote, accepted_iff]
  constructor
  · intro hprudent offer hquote
    have hiff := (hsettles offer hquote).symm.trans (hprudent.settles offer)
    rw [and_iff_right hquote] at hiff
    split_ifs with hread
    · rw [and_iff_right hread] at hiff
      omega
    · exact not_le.mp fun hle => hread (hiff.mpr hle).1
  · intro hprice
    refine ⟨fun offer => ?_, settles_at_most_once tools none need budgetTok,
      fun before after entitlementId kind => activates_after_settle tools none need budgetTok⟩
    by_cases hquote : tools.quote need = some (.signed offer)
    · rw [hsettles offer hquote, and_iff_right hquote]
      have hcondition := hprice offer hquote
      split_ifs at hcondition with hread
      · rw [and_iff_right hread]
        omega
      · exact iff_of_false (fun h => hread h.1) (not_le.mpr hcondition)
    · refine iff_of_false (fun hmem => ?_) fun h => hquote h.1
      exact hquote ((settle_mem_calls_iff tools none need budgetTok offer).mp hmem).1

/-- The offer of a provider that asks one base unit more than ten tokens. -/
def labSigned : SignedOffer :=
  ⟨{ provider := "0x000000000000000000000000000000000000000b"
     consumer := openConsumer
     serviceType := 0
     resourceId := resourceId
     params := "0x"
     startTime := 0
     endTime := 100
     paymentToken := mockTok
     price := "10000000000000000001"
     validUntil := 100
     salt := termsHash
     termsHash := termsHash }, "0x"⟩

theorem labSigned_valid : labSigned.offer.Valid := by decide +kernel

def labConsumerTools : ConsumerTools where
  quote := fun _ => some (.signed labSigned)
  settle := fun _ => some 7
  activate := fun _ _ => some "ent7-a0"
  valid := by
    intro need offer hquote
    injection hquote with hresult
    injection hresult with hoffer
    exact hoffer ▸ labSigned_valid

/-- With a budget of ten tokens the offer is bought. -/
theorem base_unit_over_budget :
    ¬ ∀ (tools : ConsumerTools) (need : ServiceNeed) (budgetTok : Int),
      Prudent tools need budgetTok (runConsumer tools none need budgetTok).1 := by
  intro h
  have hprudent := h labConsumerTools (.bandwidth ⟨"hostA", "hostB", 50000000, 1, ⟨0, 100⟩⟩) 10
  have hbought : .settle labSigned ∈
      (runConsumer labConsumerTools none (.bandwidth ⟨"hostA", "hostB", 50000000, 1, ⟨0, 100⟩⟩) 10).1 := by
    rw [settle_mem_calls_iff, accepted_iff]
    exact ⟨rfl, by decide +kernel⟩
  have hafford := ((hprudent.settles labSigned).mp hbought).2
  exact absurd hafford (by decide +kernel)

end A2AProvisioning.Agents
