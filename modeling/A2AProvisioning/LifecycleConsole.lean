import A2AProvisioning.AgentsConsumer
import A2AProvisioning.ControllerApp
import A2AProvisioning.LibraryLockstep
import A2AProvisioning.LifecycleDeal
import A2AProvisioning.SystemIssuers

/-! The operator's console: one stack, provisioned and revoked again and again. The pools, the console's own table of
sessions, the contracts and the controller are kept in four places, and an exception may leave any of them behind the
others. -/

namespace A2AProvisioning.Lifecycle

open Reentrant Ledger Agents

/-- The parties, with their keys and libraries, and what is bought. -/
structure Operator (T K : Type) where
  provider : ProviderChain
  client : Chain.ChainClient T K
  bell : Skeleton.Buyer
  sign : String → String
  codec : System.Codec
  cfg : Controller.Config
  bandwidth : BandwidthNeed
  telemetry : TelemetryNeed
  pool : String → Nat

/-- `Console`. A product has a ledger of its own; a ticket has its session, if one was made active for it. -/
structure Console (T K N : Type) where
  ledgers : OrderedDict String CapacityLedger
  sessions : OrderedDict Int (Option String)
  world : Settlement.World T K
  controller : Controller.Service N

/-- What comes from elsewhere while `provision` runs: the models, the numbers drawn, the transactions, the times, and
whether the reads for the page come back. -/
structure Provision where
  judgment : Option (Option QuoteDecision)
  salt : String
  resalt : String
  judge : Judge
  purchase : List Chain.PurchaseEvent
  shown : Bool
  beforeChallenge : List (Nat × Call Settlement.Sent)
  challengedAt : Nat
  challengeReads : System.Answered
  drawn : String
  checked : Bool
  beforeSubmit : List (Nat × Call Settlement.Sent)
  submittedAt : Nat
  submitReads : System.Answered
  observed : Bool

/-- The same for `revoke`. -/
structure Revocation where
  before : List (Nat × Call Settlement.Sent)
  sentAt : Nat
  shown : Bool
  beforeScan : List (Nat × Call Settlement.Sent)
  scannedAt : Nat
  scanReads : System.Answered
  observed : Bool
  beforeRelease : List (Nat × Call Settlement.Sent)
  releasedAt : Nat
  releaseReads : System.Answered

inductive Action
  | provision (m : Provision) (service : String) (budgetTok : Int)
  | revoke (m : Revocation)

/-- How an action ends: by a line for the page, or by an exception. -/
inductive Outcome
  | unknown (service : String)
  | declined (service : String)
  | refused (service : String)
  | failed (service : String) (bought : Option Int)
  | live (service : String) (entitlementId : Int) (sessionId : String)
  | nothing
  | unrevoked (entitlementId : Int)
  | revoked (service : String) (entitlementId : Int)
  deriving DecidableEq

/-- The product whose units the action leaves held. -/
def Outcome.heldFor : Outcome → Option String
  | .refused service => some service
  | .failed service _ => some service
  | .live service _ _ => some service
  | _ => none

/-- The product whose units the action has freed, and for which ticket. -/
def Outcome.freed : Outcome → Option (String × Int)
  | .revoked service entitlementId => some (service, entitlementId)
  | _ => none

theorem Outcome.freed_of_heldFor {outcome : Outcome} {service : String} (h : outcome.heldFor = some service) :
    outcome.freed = none := by
  cases outcome with
  | revoked service entitlementId => cases h
  | _ => rfl

namespace Operator

variable {T K N : Type} (x : Operator T K)

abbrev deployment : Settlement.Deployment T K := x.client.deployment

abbrev contracts : Contract Nat Settlement.Sent (Settlement.World T K) Settlement.Failure :=
  Settlement.world x.deployment

/-- `_need_for`. -/
def need (service : String) : ServiceNeed :=
  if service = "bandwidth" then .bandwidth x.bandwidth else .telemetry x.telemetry

def units (service : String) : Nat := demand (x.need service)

def window (service : String) : Window := windowOf (x.need service)

/-- `ensure_started`: a ledger for each product, and no session. -/
def start (w : Settlement.World T K) (controllerId : String) (n : N) : Console T K N where
  ledgers := (OrderedDict.empty.insert "bandwidth" (.empty (x.pool "bandwidth"))).insert "telemetry"
    (.empty (x.pool "telemetry"))
  sessions := .empty
  world := w
  controller := .start controllerId n

def later (txs : List (Nat × Call Settlement.Sent)) (w : Settlement.World T K) : Settlement.World T K :=
  (history x.contracts w txs).1

def reader (timestamp : Nat) (answered : System.Answered) (w : Settlement.World T K) : Controller.Reader :=
  System.reader x.deployment.toPlatform x.codec w.settlement timestamp answered

/-- A run of the provider's graph; its ledger has no clock. -/
def graph (salt : String) (judgment : Option (Option QuoteDecision)) (ledger : CapacityLedger) (need : ServiceNeed) :
    Option Result × CapacityLedger :=
  let ran := runProvider (fun need priceTok => x.provider.signOffer need priceTok salt) ledger none need judgment
  (ran.1.bind ProviderState.result, ran.2)

/-- The test for an answer of the model that did not parse. -/
def unpriced (reason : String) : Bool := "could not price".toList <:+: reason.toList

/-- Where the model could not price, the graph runs again without it; `none` where it raises. -/
def negotiate (m : Provision) (ledger : CapacityLedger) (need : ServiceNeed) : Option Result × CapacityLedger :=
  let first := x.graph m.salt m.judgment ledger need
  match first.1 with
  | some (.decline decline) =>
      if m.judgment.isSome ∧ unpriced decline.reason then x.graph m.resalt none first.2 need
      else (some (.decline decline), first.2)
  | result => (result, first.2)

variable (p : Controller.Provisioner N) (m : Provision) (service : String)

/-- From the challenge to the session. -/
def activate (entitlementId : Int) (c : Console T K N) : Outcome × Console T K N :=
  let w := x.later m.beforeChallenge c.world
  let challenged := c.controller.challenge (x.reader m.challengedAt m.challengeReads w) entitlementId m.drawn
  match challenged.1 with
  | .error _ => (.failed service (some entitlementId), { c with
      world := w
      controller := challenged.2 })
  | .ok challenge =>
      let w := x.later m.beforeSubmit w
      if m.checked then
        let message := Controller.proofMessage challenge.controllerId challenge.nonce entitlementId challenge.expiresAt
          .activate
        let activated := challenged.2.activate x.cfg p (x.reader m.submittedAt m.submitReads w) entitlementId service
          challenge.nonce (x.sign message)
        match activated.1 with
        | .error _ => (.failed service (some entitlementId), { c with
            world := w
            controller := activated.2 })
        | .ok info =>
            (if m.observed then .live service entitlementId info.sessionId else .failed service (some entitlementId),
              { c with
                sessions := c.sessions.insert entitlementId (some info.sessionId)
                world := w
                controller := activated.2 })
      else (.failed service (some entitlementId), { c with
        world := w
        controller := challenged.2 })

/-- `self.sessions.setdefault(eid, None)`. -/
def setDefault (sessions : OrderedDict Int (Option String)) (entitlementId : Int) : OrderedDict Int (Option String) :=
  if (sessions.get? entitlementId).isSome then sessions else sessions.insert entitlementId none

/-- From the signed offer to the ticket, and on. -/
def buy (budgetTok : Int) (signed : SignedOffer) (c : Console T K N) : Outcome × Console T K N :=
  match wholeTok signed with
  | none => (.failed service none, c)
  | some price =>
      match judged m.judge (x.need service) signed budgetTok price with
      | none => (.failed service none, c)
      | some decision =>
          if decision.accept then
            let bought := settled x.client signed m.purchase c.world
            match bought.1 with
            | none => (.failed service none, { c with world := bought.2 })
            | some entitlementId =>
                let c := { c with
                  sessions := setDefault c.sessions entitlementId
                  world := bought.2 }
                if m.shown then x.activate p m service entitlementId c else (.failed service (some entitlementId), c)
          else (.refused service, c)

def provision (budgetTok : Int) (c : Console T K N) : Outcome × Console T K N :=
  match c.ledgers.get? service with
  | none => (.unknown service, c)
  | some ledger =>
      let negotiated := x.negotiate m ledger (x.need service)
      let c := { c with ledgers := c.ledgers.insert service negotiated.2 }
      match negotiated.1 with
      | none => (.failed service none, c)
      | some (.decline _) => (.declined service, c)
      | some (.signed signed) => x.buy p m service budgetTok signed c

/-- A session id is shown for the ticket. -/
def running (sid : Option String) : Bool := sid.any fun sessionId => sessionId ≠ ""

/-- `bell.revoke`; `none` where it raises. -/
def revokeTicket (timestamp : Nat) (entitlementId : Int) (w : Settlement.World T K) : Option (Settlement.World T K) :=
  if 0 ≤ entitlementId ∧ entitlementId < 2 ^ 256 then
    (exec x.contracts timestamp (.entry ⟨x.bell.1, x.bell.2, .settlement (.revoke entitlementId.toNat)⟩ [] true)
      w).toOption.map Prod.fst
  else none

/-- `"bandwidth" if service_type == 0 else "telemetry"`. -/
def serviceOf (serviceType : Uint8) : String := if serviceType = 0 then "bandwidth" else "telemetry"

/-- Bell frees the units that were sold. -/
def release (m : Revocation) (entitlementId : Int) (c : Console T K N) : Outcome × Console T K N :=
  let c := { c with
    sessions := c.sessions.insert entitlementId none
    world := x.later m.beforeRelease c.world }
  match (x.reader m.releasedAt m.releaseReads c.world).get entitlementId with
  | .error _ => (.unrevoked entitlementId, c)
  | .ok view =>
      let service := serviceOf view.serviceType
      match c.ledgers.get? service with
      | none => (.unrevoked entitlementId, c)
      | some ledger => (.revoked service entitlementId, { c with
          ledgers := c.ledgers.insert service (ledger.release none (x.window service) (x.units service)) })

/-- The last session that is shown, its ticket first. -/
def revoke (m : Revocation) (c : Console T K N) : Outcome × Console T K N :=
  match (c.sessions.entries.filter fun entry => running entry.2).getLast? with
  | none => (.nothing, c)
  | some entry =>
      match x.revokeTicket m.sentAt entry.1 (x.later m.before c.world) with
      | none => (.unrevoked entry.1, { c with world := x.later m.before c.world })
      | some w =>
          if m.shown then
            let w := x.later m.beforeScan w
            let scanned := c.controller.handleRevoked p (x.reader m.scannedAt m.scanReads w) entry.1
            let c := { c with
              world := w
              controller := scanned.2 }
            match scanned.1 with
            | .error _ => (.unrevoked entry.1, c)
            | .ok _ => if m.observed then x.release m entry.1 c else (.unrevoked entry.1, c)
          else (.unrevoked entry.1, { c with world := w })

/-- One action at a time. -/
def step (action : Action) (c : Console T K N) : Outcome × Console T K N :=
  match action with
  | .provision m service budgetTok => x.provision p m service budgetTok c
  | .revoke m => x.revoke p m c

section Negotiation

variable {x} {service : String} {ledger : CapacityLedger} {judgment : Option (Option QuoteDecision)} {salt : String}

/-- What a negotiation does to its pool: nothing when it declines, and otherwise the units are held, also by a run that
raises. -/
inductive Negotiated (x : Operator T K) (service : String) (ledger : CapacityLedger) :
    Option Result × CapacityLedger → Prop
  | declined {decline next} (hcapacity : next.capacity = ledger.capacity)
      (hreserved : next.reserved none (x.window service) = ledger.reserved none (x.window service)) :
      Negotiated x service ledger (some (.decline decline), next)
  | held {result next} (hcapacity : next.capacity = ledger.capacity)
      (hroom : ledger.reserved none (x.window service) + x.units service ≤ ledger.capacity)
      (hreserved : next.reserved none (x.window service) = ledger.reserved none (x.window service) + x.units service)
      (hresult : ∀ answer ∈ result, ∃ signed priceTok salt, answer = .signed signed ∧
        x.provider.signOffer (x.need service) priceTok salt = some signed) :
      Negotiated x service ledger (result, next)

theorem capacity_runProvider (sign : ServiceNeed → Int → Option SignedOffer) (ledger : CapacityLedger)
    (now : Option Nat) (need : ServiceNeed) (llm : Option (Option QuoteDecision)) :
    (runProvider sign ledger now need llm).2.capacity = ledger.capacity := by
  have hadmit : (admitNode ledger now need).2.capacity = ledger.capacity := by
    simp only [admitNode, CapacityLedger.tryReserve]
    split_ifs <;> rfl
  have hquote : ∀ (reserved : CapacityLedger) state, (quoteNode sign reserved now state llm).2.capacity =
      reserved.capacity := by
    intro reserved state
    rw [quoteNode]
    split_ifs
    · split <;> rfl
    · rfl
  rw [runProvider]
  split_ifs
  · rw [hquote, hadmit]
  · exact hadmit

/-- A ledger without a clock loses nothing by a restamp. -/
theorem reserved_holdUntil (ledger : CapacityLedger) (window : Window) (units expiry : Nat) :
    (ledger.holdUntil none window units expiry).reserved none window = ledger.reserved none window := by
  rw [CapacityLedger.reserved_eq, CapacityLedger.reserved_eq, CapacityLedger.holdUntil_holds_self, sweepHolds,
    sweepHolds, unitsOf_reverse, unitsOf_restampFirst, unitsOf_reverse]

theorem graph_negotiated : Negotiated x service ledger (x.graph salt judgment ledger (x.need service)) := by
  have hcapacity := capacity_runProvider (fun need priceTok => x.provider.signOffer need priceTok salt) ledger none
    (x.need service) judgment
  by_cases hroom : (demand (x.need service) : Int) ≤ ledger.available none (windowOf (x.need service))
  · obtain ⟨reserved, transcript, hreserved, hrun⟩ :=
      run_of_room judgment (fun need priceTok => x.provider.signOffer need priceTok salt) hroom
    have hfits : ledger.reserved none (x.window service) + x.units service ≤ ledger.capacity := by
      rw [CapacityLedger.available] at hroom
      rw [window, units]
      omega
    rw [graph]
    rw [hrun] at hcapacity ⊢
    cases hquote : (decision (x.need service) judgment).quote with
    | false =>
        have hneed : (⟨x.need service, true, none, transcript⟩ : ProviderState).need = x.need service := rfl
        obtain ⟨⟨state, decline, hstate, hdecline⟩, hunits⟩ := quoteNode_of_refusal
          (fun need priceTok => x.provider.signOffer need priceTok salt) hneed hreserved hquote
        rw [hstate, Option.bind_some, hdecline]
        exact .declined hcapacity hunits
    | true =>
        cases hsign : x.provider.signOffer (x.need service) (decision (x.need service) judgment).priceTok salt with
        | none =>
            rw [@quoteNode_of_raised reserved none judgment (fun need priceTok => x.provider.signOffer need priceTok salt)
              ⟨x.need service, true, none, transcript⟩ hquote hsign] at hcapacity ⊢
            exact .held hcapacity hfits hreserved fun answer hanswer => by cases hanswer
        | some signed =>
            have hnode : quoteNode (fun need priceTok => x.provider.signOffer need priceTok salt) reserved none
                ⟨x.need service, true, none, transcript⟩ judgment =
              (some (returnSigned ⟨x.need service, true, none, transcript⟩ (decision (x.need service) judgment)
                signed).state, reserved.holdUntil none (windowOf (x.need service)) (demand (x.need service))
                signed.offer.validUntil.toNat) := by
              unfold quoteNode
              simp only [hquote, hsign, ↓reduceIte]
            rw [hnode] at hcapacity ⊢
            refine .held hcapacity hfits ((reserved_holdUntil _ _ _ _).trans hreserved) fun answer hanswer => ?_
            cases hanswer
            exact ⟨signed, _, salt, rfl, hsign⟩
  · obtain ⟨⟨state, decline, hstate, hdecline⟩, hreserved⟩ :=
      run_of_full judgment (fun need priceTok => x.provider.signOffer need priceTok salt) hroom
    rw [graph, hstate, Option.bind_some, hdecline]
    exact .declined hcapacity hreserved

/-- Also where the graph runs twice: the first run has given back what it held. -/
theorem negotiate_negotiated (m : Provision) : Negotiated x service ledger (x.negotiate m ledger (x.need service)) := by
  have hfirst := @graph_negotiated T K x service ledger m.judgment m.salt
  rw [negotiate]
  generalize x.graph m.salt m.judgment ledger (x.need service) = first at hfirst ⊢
  cases hfirst with
  | @declined decline next hcapacity hreserved =>
      dsimp only
      split_ifs with hagain
      · have hsecond := @graph_negotiated T K x service next none m.resalt
        generalize x.graph m.resalt none next (x.need service) = second at hsecond ⊢
        cases hsecond with
        | declined hcapacity' hreserved' => exact .declined (hcapacity'.trans hcapacity) (hreserved'.trans hreserved)
        | held hcapacity' hroom hreserved' hresult =>
            rw [hreserved, hcapacity] at hroom
            rw [hreserved] at hreserved'
            exact .held (hcapacity'.trans hcapacity) hroom hreserved' hresult
      · exact .declined hcapacity hreserved
  | @held result next hcapacity hroom hreserved hresult =>
      rcases result with _ | answer
      · exact .held hcapacity hroom hreserved hresult
      · obtain ⟨signed, priceTok, salt, rfl, hsign⟩ := hresult answer rfl
        exact .held hcapacity hroom hreserved hresult

end Negotiation

/-! ### The four places -/

/-- The sessions shown for the tickets of a product. -/
def shown (c : Console T K N) (service : String) : Nat :=
  c.sessions.entries.countP fun entry =>
    running entry.2 && decide (serviceOf (c.world.settlement.entitlements entry.1.toNat).serviceType = service)

/-- The pools, and the three tables against one another. So many units of a product have been held, and released, and the
tickets in `ended` have been revoked to the end. -/
structure Sound (x : Operator T K) (held released : String → Nat) (ended : Int → Prop) (c : Console T K N) : Prop where
  reached : Reaches x.contracts (Settlement.World.deployed x.deployment) c.world
  keyed : Controller.Keyed c.controller
  services : ∀ service, (c.ledgers.get? service).isSome ↔ service = "bandwidth" ∨ service = "telemetry"
  pool : ∀ service ledger, c.ledgers.get? service = some ledger → ledger.capacity = x.pool service ∧
    ledger.reserved none (x.window service) ≤ ledger.capacity ∧
    ledger.reserved none (x.window service) + x.units service * released service = x.units service * held service
  backed : ∀ service, shown c service + released service ≤ held service
  minted : ∀ entitlementId sid, c.sessions.get? entitlementId = some sid →
    0 ≤ entitlementId ∧ Settlement.Minted x.deployment.toPlatform c.world.settlement entitlementId.toNat
  session : ∀ entitlementId sessionId, c.sessions.get? entitlementId = some (some sessionId) →
    ∃ session, c.controller.sessions.get? sessionId = some session ∧ session.entitlementId = entitlementId ∧
      (session.state = .active ∨ (c.world.settlement.entitlements entitlementId.toNat).revoked = true)
  ended : ∀ entitlementId, ended entitlementId → (c.sessions.get? entitlementId).isSome ∧
    (c.world.settlement.entitlements entitlementId.toNat).revoked = true ∧
    ∀ sessionId session, c.controller.ActiveAt sessionId session → session.entitlementId ≠ entitlementId

section Sound

variable {x} {held released : String → Nat} {ended : Int → Prop} {c : Console T K N}

variable (x) in
theorem reaches_later (txs : List (Nat × Call Settlement.Sent)) (w : Settlement.World T K) :
    Reaches x.contracts w (x.later txs w) := reaches_history w txs

theorem Sound.permanent (h : Sound x held released ended c) (hd : Skeleton.Reliable x.deployment)
    {w : Settlement.World T K} (hlater : Reaches x.contracts c.world w) {entitlementId : Int} {sid : Option String}
    (hget : c.sessions.get? entitlementId = some sid) :
    Settlement.Permanent x.deployment.toPlatform c.world.settlement w.settlement entitlementId.toNat :=
  permanent_of_reaches hd.erc721 h.reached hlater (h.minted entitlementId sid hget).2

/-- The count is over tickets, whose kind does not change. -/
theorem Sound.shown_later (h : Sound x held released ended c) (hd : Skeleton.Reliable x.deployment)
    {w : Settlement.World T K} (hlater : Reaches x.contracts c.world w) (service : String) :
    shown { c with world := w } service = shown c service := by
  apply List.countP_congr
  intro entry hmem
  have hget := OrderedDict.mem_entries.mp hmem
  have htype := (h.permanent hd hlater hget).terms.2.1
  dsimp only
  rw [htype]

/-- Whatever is mined. -/
theorem Sound.later (h : Sound x held released ended c) (hd : Skeleton.Reliable x.deployment)
    {w : Settlement.World T K} (hlater : Reaches x.contracts c.world w) :
    Sound x held released ended { c with world := w } where
  reached := h.reached.trans hlater
  keyed := h.keyed
  services := h.services
  pool := h.pool
  backed service := by
    rw [h.shown_later hd hlater]
    exact h.backed service
  minted entitlementId sid hget := ⟨(h.minted entitlementId sid hget).1, (h.permanent hd hlater hget).minted⟩
  session entitlementId sessionId hget := by
    obtain ⟨session, hsession, hid, hstate⟩ := h.session entitlementId sessionId hget
    exact ⟨session, hsession, hid, hstate.imp_right (h.permanent hd hlater hget).revoked⟩
  ended entitlementId hended := by
    obtain ⟨hsome, hrevoked, hactive⟩ := h.ended entitlementId hended
    obtain ⟨sid, hget⟩ := Option.isSome_iff_exists.mp hsome
    exact ⟨hsome, (h.permanent hd hlater hget).revoked hrevoked, hactive⟩

/-- A controller that keeps the sessions of the tickets, and makes none active for a ticket that has ended. -/
theorem Sound.controlled (h : Sound x held released ended c) {controller : Controller.Service N}
    (hkeyed : Controller.Keyed controller)
    (hkept : ∀ entitlementId sessionId session, c.sessions.get? entitlementId = some (some sessionId) →
      c.controller.sessions.get? sessionId = some session → session.entitlementId = entitlementId →
        ∃ session', controller.sessions.get? sessionId = some session' ∧ session'.entitlementId = entitlementId ∧
          (session' = session ∨ (c.world.settlement.entitlements entitlementId.toNat).revoked = true))
    (hactive : ∀ sessionId session, controller.ActiveAt sessionId session → c.controller.ActiveAt sessionId session ∨
      ¬ ended session.entitlementId) :
    Sound x held released ended { c with controller := controller } where
  reached := h.reached
  keyed := hkeyed
  services := h.services
  pool := h.pool
  backed := h.backed
  minted := h.minted
  session entitlementId sessionId hget := by
    obtain ⟨session, hsession, hid, hstate⟩ := h.session entitlementId sessionId hget
    obtain ⟨session', hsession', hid', hsame⟩ := hkept entitlementId sessionId session hget hsession hid
    refine ⟨session', hsession', hid', ?_⟩
    rcases hsame with rfl | hrevoked
    · exact hstate
    · exact Or.inr hrevoked
  ended entitlementId hended := by
    obtain ⟨hsome, hrevoked, hnone⟩ := h.ended entitlementId hended
    refine ⟨hsome, hrevoked, fun sessionId session hnow => ?_⟩
    rcases hactive sessionId session hnow with hbefore | hnot
    · exact hnone sessionId session hbefore
    · rintro rfl
      exact hnot hended

theorem Sound.challenged (h : Sound x held released ended c) (chain : Controller.Reader) (entitlementId : Int)
    (nonce : String) :
    Sound x held released ended { c with controller := (c.controller.challenge chain entitlementId nonce).2 } := by
  have hsame : (c.controller.challenge chain entitlementId nonce).2.sessions = c.controller.sessions ∧
      (c.controller.challenge chain entitlementId nonce).2.seq = c.controller.seq := by
    simp only [Controller.Service.challenge]
    split
    · exact ⟨rfl, rfl⟩
    · split
      · exact ⟨rfl, rfl⟩
      · exact ⟨rfl, rfl⟩
  refine h.controlled (h.keyed.congr hsame.1 (le_of_eq hsame.2.symm)) (fun _ _ session _ hsession hid => ?_)
    fun sessionId session hnow => Or.inl ?_
  · exact ⟨session, hsame.1 ▸ hsession, hid, Or.inl rfl⟩
  · exact ⟨hsame.1 ▸ hnow.1, hnow.2⟩

/-- An activation for a ticket that has not ended. -/
theorem Sound.activated (h : Sound x held released ended c) (p : Controller.Provisioner N) (chain : Controller.Reader)
    {entitlementId : Int} (hnot : ¬ ended entitlementId) (actionKind nonce signature : String) :
    Sound x held released ended
      { c with controller := (c.controller.activate x.cfg p chain entitlementId actionKind nonce signature).2 } := by
  have hkeyed := @Controller.Keyed.activate N x.cfg p c.controller h.keyed chain entitlementId actionKind nonce signature
  obtain ⟨-, hsame | ⟨facts, plan, state, -, hgranted, -, -, hsessions⟩⟩ :=
    Controller.activate_sessions x.cfg p c.controller entitlementId actionKind nonce signature chain
  · refine h.controlled hkeyed (fun _ _ session _ hsession hid => ?_) fun sessionId session hnow => Or.inl ?_
    · exact ⟨session, hsame ▸ hsession, hid, Or.inl rfl⟩
    · exact ⟨hsame ▸ hnow.1, hnow.2⟩
  · have hfresh : c.controller.sessions.get? plan.sessionId = none := hgranted.sessionId ▸ h.keyed.fresh entitlementId
    have hget : ∀ sessionId, (c.controller.activate x.cfg p chain entitlementId actionKind nonce signature).2.sessions.get?
        sessionId = if sessionId = plan.sessionId then
          some ⟨plan.sessionId, plan.entitlementId, state, plan.since, plan.expiresAt⟩
        else c.controller.sessions.get? sessionId := by
      intro sessionId
      rw [hsessions, Controller.Service.insertSession, OrderedDict.get?_insert]
    refine h.controlled hkeyed (fun _ sessionId session _ hsession hid => ?_) fun sessionId session hnow => ?_
    · have hother : sessionId ≠ plan.sessionId := by
        rintro rfl
        cases hfresh.symm.trans hsession
      refine ⟨session, ?_, hid, Or.inl rfl⟩
      rw [hget, if_neg hother]
      exact hsession
    · obtain ⟨hnow, hstate⟩ := hnow
      rw [hget] at hnow
      split_ifs at hnow
      · cases hnow
        right
        dsimp only
        rw [hgranted.entitlementId]
        exact hnot
      · exact Or.inl ⟨hnow, hstate⟩

/-- The scan for a ticket that is revoked. -/
theorem Sound.scanned (h : Sound x held released ended c) (p : Controller.Provisioner N) (chain : Controller.Reader)
    {entitlementId : Int} (hrevoked : (c.world.settlement.entitlements entitlementId.toNat).revoked = true) :
    Sound x held released ended
      { c with controller := (c.controller.handleRevoked p chain entitlementId).2 } := by
  have hkeyed := @Controller.Keyed.perform N x.cfg p c.controller h.keyed (.handleRevoked chain entitlementId)
  have hlater := @Controller.perform_later N x.cfg p c.controller h.keyed (.handleRevoked chain entitlementId)
  have hcases : (c.controller.handleRevoked p chain entitlementId).2 = c.controller ∨
      (c.controller.handleRevoked p chain entitlementId).2 = (c.controller.endRevoked p entitlementId).2 := by
    simp only [Controller.Service.handleRevoked]
    split
    · exact Or.inl rfl
    · split_ifs
      · right
        split
        · rename_i heq
          rw [heq]
        · rename_i heq
          rw [heq]
      · exact Or.inl rfl
  refine h.controlled hkeyed (fun other sessionId session hget hsession hid => ?_) fun sessionId session hnow => Or.inl ?_
  · obtain ⟨session', hsession', hid', -⟩ := hlater sessionId session hsession
    refine ⟨session', hsession', hid'.trans hid, ?_⟩
    by_cases hsame : other = entitlementId
    · subst hsame
      exact Or.inr hrevoked
    · -- a session of another ticket is not scanned for
      left
      have hkept : (c.controller.handleRevoked p chain entitlementId).2.sessions.get? sessionId =
          c.controller.sessions.get? sessionId := by
        rcases hcases with heq | heq
        · rw [heq]
        · rw [heq]
          refine Controller.teardownAll_others _ fun hmem => ?_
          obtain ⟨found, hfound, hfoundId⟩ := List.mem_map.mp hmem
          obtain ⟨hvalue, htest⟩ := List.mem_filter.mp hfound
          obtain ⟨key, hkey⟩ := OrderedDict.mem_values.mp hvalue
          obtain rfl : key = sessionId := ((h.keyed key found hkey).1.symm.trans hfoundId)
          cases hkey.symm.trans hsession
          exact hsame (hid.symm.trans (of_decide_eq_true htest).1)
      exact Option.some.inj (hsession'.symm.trans (hkept.trans hsession))
  · rcases hcases with heq | heq
    · rwa [heq] at hnow
    · rw [heq] at hnow
      exact (Controller.teardownAll_settles p c.controller _).active sessionId session hnow

theorem shown_insert (c : Console T K N) (entitlementId : Int) (sid : Option String) (service : String) :
    shown { c with sessions := c.sessions.insert entitlementId sid } service +
        ((c.sessions.get? entitlementId).any fun old => running old &&
          decide (serviceOf (c.world.settlement.entitlements entitlementId.toNat).serviceType = service)).toNat =
      shown c service + (running sid &&
        decide (serviceOf (c.world.settlement.entitlements entitlementId.toNat).serviceType = service)).toNat :=
  OrderedDict.countP_insert c.sessions _ entitlementId sid

/-- A ticket that is in the table without a session. -/
theorem Sound.entered (h : Sound x held released ended c) {entitlementId : Int} (hnonneg : 0 ≤ entitlementId)
    (hminted : Settlement.Minted x.deployment.toPlatform c.world.settlement entitlementId.toNat) :
    Sound x held released ended { c with sessions := c.sessions.insert entitlementId none } where
  reached := h.reached
  keyed := h.keyed
  services := h.services
  pool := h.pool
  backed service := by
    have hcount := shown_insert c entitlementId none service
    have hbacked := h.backed service
    rw [running, Option.any_none, Bool.false_and, Bool.toNat_false] at hcount
    omega
  minted other sid hget := by
    rw [OrderedDict.get?_insert] at hget
    split_ifs at hget with hsame
    · subst hsame
      exact ⟨hnonneg, hminted⟩
    · exact h.minted other sid hget
  session other sessionId hget := by
    rw [OrderedDict.get?_insert] at hget
    split_ifs at hget with hsame
    · cases hget
    · exact h.session other sessionId hget
  ended other hended := by
    obtain ⟨hsome, hrest⟩ := h.ended other hended
    refine ⟨?_, hrest⟩
    rw [OrderedDict.get?_insert]
    split_ifs
    · rfl
    · exact hsome

/-- A session is shown for a ticket, and takes up units that nobody else is shown for. -/
theorem Sound.shows (h : Sound x held released ended c) {entitlementId : Int} {sessionId : String}
    (hget : c.sessions.get? entitlementId = some none)
    (hsession : ∃ session, c.controller.sessions.get? sessionId = some session ∧ session.entitlementId = entitlementId ∧
      session.state = .active)
    (hroom : ∀ service, serviceOf (c.world.settlement.entitlements entitlementId.toNat).serviceType = service →
      shown c service + 1 + released service ≤ held service) :
    Sound x held released ended { c with sessions := c.sessions.insert entitlementId (some sessionId) } where
  reached := h.reached
  keyed := h.keyed
  services := h.services
  pool := h.pool
  backed service := by
    have hcount := shown_insert c entitlementId (some sessionId) service
    have hbacked := h.backed service
    rw [hget, Option.any_some] at hcount
    by_cases hsame : serviceOf (c.world.settlement.entitlements entitlementId.toNat).serviceType = service
    · have hle := Bool.toNat_le (running (some sessionId) &&
        decide (serviceOf (c.world.settlement.entitlements entitlementId.toNat).serviceType = service))
      have hslack := hroom service hsame
      omega
    · rw [decide_eq_false hsame, Bool.and_false, Bool.and_false, Bool.toNat_false] at hcount
      omega
  minted other sid hother := by
    rw [OrderedDict.get?_insert] at hother
    split_ifs at hother with hsame
    · subst hsame
      exact h.minted other none hget
    · exact h.minted other sid hother
  session other sessionId' hother := by
    rw [OrderedDict.get?_insert] at hother
    split_ifs at hother with hsame
    · cases hother
      subst hsame
      obtain ⟨session, hrest, hid, hstate⟩ := hsession
      exact ⟨session, hrest, hid, Or.inl hstate⟩
    · exact h.session other sessionId' hother
  ended other hended := by
    obtain ⟨hsome, hrest⟩ := h.ended other hended
    refine ⟨?_, hrest⟩
    rw [OrderedDict.get?_insert]
    split_ifs
    · rfl
    · exact hsome

/-- A ticket without active sessions that is revoked for good. -/
theorem Sound.ends (h : Sound x held released ended c) {entitlementId : Int}
    (hsome : (c.sessions.get? entitlementId).isSome)
    (hrevoked : (c.world.settlement.entitlements entitlementId.toNat).revoked = true)
    (hactive : ∀ sessionId session, c.controller.ActiveAt sessionId session → session.entitlementId ≠ entitlementId) :
    Sound x held released (fun other => ended other ∨ other = entitlementId) c :=
  { h with
    ended := by
      rintro other (hended | rfl)
      · exact h.ended other hended
      · exact ⟨hsome, hrevoked, hactive⟩ }

variable {service : String} {ledger next : CapacityLedger}

theorem Sound.products (h : Sound x held released ended c) (hledger : c.ledgers.get? service = some ledger)
    (next : CapacityLedger) (other : String) :
    ((c.ledgers.insert service next).get? other).isSome ↔ other = "bandwidth" ∨ other = "telemetry" := by
  rw [← h.services other, OrderedDict.get?_insert]
  split_ifs with hsame
  · rw [hsame, hledger]
    exact Iff.rfl
  · exact Iff.rfl

/-- A negotiation that declines. -/
theorem Sound.declines (h : Sound x held released ended c) (hledger : c.ledgers.get? service = some ledger)
    (hcapacity : next.capacity = ledger.capacity)
    (hreserved : next.reserved none (x.window service) = ledger.reserved none (x.window service)) :
    Sound x held released ended { c with ledgers := c.ledgers.insert service next } :=
  { h with
    services := h.products hledger next
    pool := by
      intro other ledger' hget
      rw [OrderedDict.get?_insert] at hget
      split_ifs at hget with hsame
      · cases hget
        subst hsame
        rw [hcapacity, hreserved]
        exact h.pool other ledger hledger
      · exact h.pool other ledger' hget }

/-- A negotiation that leaves the units held. -/
theorem Sound.holds (h : Sound x held released ended c) (hledger : c.ledgers.get? service = some ledger)
    (hcapacity : next.capacity = ledger.capacity)
    (hroom : ledger.reserved none (x.window service) + x.units service ≤ ledger.capacity)
    (hreserved : next.reserved none (x.window service) = ledger.reserved none (x.window service) + x.units service) :
    Sound x (Function.update held service (held service + 1)) released ended
      { c with ledgers := c.ledgers.insert service next } :=
  { h with
    services := h.products hledger next
    pool := by
      intro other ledger' hget
      rw [OrderedDict.get?_insert] at hget
      split_ifs at hget with hsame
      · cases hget
        subst hsame
        obtain ⟨hcap, -, hbooks⟩ := h.pool other ledger hledger
        rw [hcapacity, hreserved, Function.update_self, Nat.mul_succ]
        exact ⟨hcap, hroom, by omega⟩
      · rw [Function.update_of_ne hsame]
        exact h.pool other ledger' hget
    backed := by
      intro other
      have hbacked := h.backed other
      change shown c other + released other ≤ _
      by_cases hsame : other = service
      · subst hsame
        rw [Function.update_self]
        omega
      · rwa [Function.update_of_ne hsame] }

/-- A release of units that nobody is shown for. -/
theorem Sound.releases (h : Sound x held released ended c) (hledger : c.ledgers.get? service = some ledger)
    (hslack : shown c service + 1 + released service ≤ held service) :
    Sound x held (Function.update released service (released service + 1)) ended
      { c with
        ledgers := c.ledgers.insert service (ledger.release none (x.window service) (x.units service)) } :=
  { h with
    services := h.products hledger _
    pool := by
      intro other ledger' hget
      rw [OrderedDict.get?_insert] at hget
      split_ifs at hget with hsame
      · cases hget
        subst hsame
        obtain ⟨hcap, hle, hbooks⟩ := h.pool other ledger hledger
        have hcapacity : (ledger.release none (x.window other) (x.units other)).capacity = ledger.capacity := rfl
        have hunits : x.units other * (released other + 1) ≤ x.units other * held other :=
          Nat.mul_le_mul_left _ (by omega)
        rw [Nat.mul_succ] at hunits
        rw [hcapacity, reserved_release, Function.update_self, Nat.mul_succ]
        exact ⟨hcap, by omega, by omega⟩
      · rw [Function.update_of_ne hsame]
        exact h.pool other ledger' hget
    backed := by
      intro other
      have hbacked := h.backed other
      change shown c other + _ ≤ held other
      by_cases hsame : other = service
      · subst hsame
        rw [Function.update_self]
        omega
      · rwa [Function.update_of_ne hsame] }

variable {p : Controller.Provisioner N} {m : Provision} {entitlementId : Int}

/-- The session of an activation that succeeds. -/
theorem session_of_activated {controller : Controller.Service N} {chain : Controller.Reader}
    {actionKind nonce signature : String} {info : SessionInfo}
    (hinfo : (controller.activate x.cfg p chain entitlementId actionKind nonce signature).1 = .ok info) :
    ∃ session, (controller.activate x.cfg p chain entitlementId actionKind nonce signature).2.sessions.get?
        info.sessionId = some session ∧ session.entitlementId = entitlementId ∧ session.state = .active := by
  have houtcome := Controller.activate_outcome x.cfg p controller chain entitlementId actionKind nonce signature
  generalize controller.activate x.cfg p chain entitlementId actionKind nonce signature = result at hinfo houtcome ⊢
  cases houtcome with
  | refused hcode hquiet => cases hinfo
  | failed hid hstate hsessions => cases hinfo
  | @activated session next hid hstate hsessions =>
      cases hinfo
      refine ⟨session, ?_, hid, hstate⟩
      rw [hsessions, Controller.Session.info, OrderedDict.get?_insert, if_pos rfl]

theorem activate_sound (h : Sound x held released ended c) (hd : Skeleton.Reliable x.deployment)
    (hget : c.sessions.get? entitlementId = some none) (hnot : ¬ ended entitlementId)
    (hroom : ∀ product, serviceOf (c.world.settlement.entitlements entitlementId.toNat).serviceType = product →
      shown c product + 1 + released product ≤ held product) :
    Sound x held released ended (x.activate p m service entitlementId c).2 ∧
      (x.activate p m service entitlementId c).1.heldFor = some service := by
  have hmined := h.later hd (x.reaches_later m.beforeChallenge c.world)
  have hchallenged := hmined.challenged (x.reader m.challengedAt m.challengeReads (x.later m.beforeChallenge c.world))
    entitlementId m.drawn
  have hthere : Reaches x.contracts c.world (x.later m.beforeSubmit (x.later m.beforeChallenge c.world)) :=
    (x.reaches_later _ _).trans (x.reaches_later _ _)
  simp only [activate]
  split
  · exact ⟨hchallenged, rfl⟩
  · rename_i challenge hchallenge
    have hsubmitted := hchallenged.later hd (x.reaches_later m.beforeSubmit (x.later m.beforeChallenge c.world))
    by_cases hchecked : m.checked = true
    swap
    · rw [if_neg hchecked]
      exact ⟨hsubmitted, rfl⟩
    · rw [if_pos hchecked]
      set message := Controller.proofMessage challenge.controllerId challenge.nonce entitlementId challenge.expiresAt
        .activate with hmessage
      have hactivated := hsubmitted.activated p
        (x.reader m.submittedAt m.submitReads (x.later m.beforeSubmit (x.later m.beforeChallenge c.world))) hnot service
        challenge.nonce (x.sign message)
      split
      · exact ⟨hactivated, rfl⟩
      · rename_i info hinfo
        refine ⟨hactivated.shows hget (session_of_activated hinfo) fun product hproduct => ?_, ?_⟩
        · -- the kind of the ticket, and so the count, is that of the time before
          have hcount := h.shown_later hd hthere product
          have htype := (h.permanent hd hthere hget).terms.2.1
          change serviceOf ((x.later m.beforeSubmit (x.later m.beforeChallenge c.world)).settlement.entitlements
            entitlementId.toNat).serviceType = product at hproduct
          rw [htype] at hproduct
          change shown { c with world := x.later m.beforeSubmit (x.later m.beforeChallenge c.world) } product + 1 +
            released product ≤ held product
          rw [hcount]
          exact hroom product hproduct
        · dsimp only
          split_ifs
          · rfl
          · rfl

/-- The ticket of an offer that was signed for a product is of that product's kind. -/
theorem serviceOf_signed (hproduct : service = "bandwidth" ∨ service = "telemetry") {signed : SignedOffer} {priceTok : Int}
    {salt : String} (hsigned : x.provider.signOffer (x.need service) priceTok salt = some signed) :
    serviceOf signed.offer.onChain.entitlement.serviceType = service := by
  obtain ⟨-, -, price, -, hoffer⟩ := offer_of_signed hsigned
  rw [hoffer]
  rcases hproduct with rfl | rfl
  · rfl
  · rfl

theorem buy_sound (h : Sound x held released ended c) (hd : Skeleton.Reliable x.deployment)
    (hproduct : service = "bandwidth" ∨ service = "telemetry") {signed : SignedOffer} {priceTok : Int} {salt : String}
    (hsigned : x.provider.signOffer (x.need service) priceTok salt = some signed)
    (hslack : shown c service + 1 + released service ≤ held service)
    (hstrange : ∀ event ∈ m.purchase, x.client.Strange event) (budgetTok : Int) :
    Sound x held released ended (x.buy p m service budgetTok signed c).2 ∧
      (x.buy p m service budgetTok signed c).1.heldFor = some service := by
  have hvalid := (offer_of_signed hsigned).1
  have hsettled := h.later hd (reaches_settled x.client signed m.purchase c.world)
  simp only [buy]
  split
  · exact ⟨h, rfl⟩
  · rename_i price hprice
    split
    · exact ⟨h, rfl⟩
    rename_i decision hjudged
    by_cases haccept : decision.accept = true
    swap
    · rw [if_neg haccept]
      exact ⟨h, rfl⟩
    · rw [if_pos haccept]
      split
      · exact ⟨hsettled, rfl⟩
      · rename_i entitlementId hid
        obtain ⟨timestamp, w, next, hbought⟩ := bought_of_settled hd hvalid hstrange hid
        have hnonneg : 0 ≤ entitlementId := by
          rw [hbought.id]
          exact Int.natCast_nonneg _
        have hnext : Settlement.Permanent x.deployment.toPlatform next.settlement
            (settled x.client signed m.purchase c.world).2.settlement entitlementId.toNat :=
          permanent_of_reaches hd.erc721 (hbought.from h.reached) hbought.left hbought.minted
        -- a ticket of the table has an owner when the new one has none
        have hnew : c.sessions.get? entitlementId = none := by
          by_contra hsome
          obtain ⟨sid, hget⟩ := Option.ne_none_iff_exists'.mp hsome
          have howned := (h.permanent hd hbought.reached hget).minted
          have hfresh := hbought.buyable.fresh
          rw [hbought.id, Int.toNat_natCast] at howned
          exact howned hfresh
        have hnot : ¬ ended entitlementId := fun hended => by
          have hsome := (h.ended entitlementId hended).1
          rw [hnew] at hsome
          cases hsome
        have hdefault : setDefault c.sessions entitlementId = c.sessions.insert entitlementId none := by
          rw [setDefault, hnew]
          rfl
        have hentered := hsettled.entered hnonneg hnext.minted
        rw [hdefault]
        by_cases hshown : m.shown = true
        swap
        · rw [if_neg hshown]
          exact ⟨hentered, rfl⟩
        · rw [if_pos hshown]
          refine activate_sound hentered hd ?_ hnot fun product hkind => ?_
          · rw [OrderedDict.get?_insert, if_pos rfl]
          · have htype := (hbought.terms hd.erc721 h.reached hbought.left).2.1
            change serviceOf ((settled x.client signed m.purchase c.world).2.settlement.entitlements
              entitlementId.toNat).serviceType = product at hkind
            rw [htype, serviceOf_signed hproduct hsigned] at hkind
            subst hkind
            have hcount := shown_insert { c with world := (settled x.client signed m.purchase c.world).2 } entitlementId
              none service
            dsimp only at hcount ⊢
            rw [hnew, Option.any_none, running, Option.any_none, Bool.false_and, Bool.toNat_false,
              h.shown_later hd (reaches_settled x.client signed m.purchase c.world)] at hcount
            omega

/-- One purchase: nothing is held, or the units of the product are. -/
theorem provision_sound (h : Sound x held released ended c) (hd : Skeleton.Reliable x.deployment)
    (hstrange : ∀ event ∈ m.purchase, x.client.Strange event) (budgetTok : Int) :
    ((x.provision p m service budgetTok c).1.heldFor = none ∧ (x.provision p m service budgetTok c).1.freed = none ∧
        Sound x held released ended (x.provision p m service budgetTok c).2) ∨
      (x.provision p m service budgetTok c).1.heldFor = some service ∧
        Sound x (Function.update held service (held service + 1)) released ended
          (x.provision p m service budgetTok c).2 := by
  simp only [provision]
  cases hledger : c.ledgers.get? service with
  | none => exact Or.inl ⟨rfl, rfl, h⟩
  | some ledger =>
      have hproduct := (h.services service).mp (Option.isSome_of_mem hledger)
      have hnegotiated := @negotiate_negotiated T K x service ledger m
      dsimp only
      generalize x.negotiate m ledger (x.need service) = negotiated at hnegotiated ⊢
      cases hnegotiated with
      | declined hcapacity hreserved => exact Or.inl ⟨rfl, rfl, h.declines hledger hcapacity hreserved⟩
      | @held result next hcapacity hroom hreserved hresult =>
          right
          have hheld := h.holds hledger hcapacity hroom hreserved
          rcases result with _ | answer
          · exact ⟨rfl, hheld⟩
          · obtain ⟨signed, priceTok, salt, rfl, hsigned⟩ := hresult answer rfl
            have hslack : shown c service + 1 + released service ≤
                Function.update held service (held service + 1) service := by
              have hbacked := h.backed service
              rw [Function.update_self]
              omega
            obtain ⟨hsound, houtcome⟩ := buy_sound hheld hd hproduct hsigned hslack hstrange budgetTok
            exact ⟨houtcome, hsound⟩

theorem revokeTicket_eq_some {timestamp : Nat} {w w' : Settlement.World T K}
    (hrevoked : x.revokeTicket timestamp entitlementId w = some w') :
    Reaches x.contracts w w' ∧ (w'.settlement.entitlements entitlementId.toNat).revoked = true := by
  rw [revokeTicket] at hrevoked
  split_ifs at hrevoked
  obtain ⟨result, hresult, rfl⟩ := Option.map_eq_some_iff.mp hrevoked
  cases hexec : exec x.contracts timestamp (.entry ⟨x.bell.1, x.bell.2, .settlement (.revoke entitlementId.toNat)⟩ [] true)
    w with
  | error failure =>
      rw [hexec] at hresult
      cases hresult
  | ok ran =>
      have hreaches := reaches_exec hexec
      rw [hexec] at hresult
      cases hresult
      refine ⟨hreaches, ?_⟩
      rw [Settlement.exec_revoke] at hexec
      split_ifs at hexec
      cases hexec
      dsimp only
      rw [Function.update_self]

/-- What the console and the controller read of a ticket. -/
theorem view_of_get {timestamp : Nat} {answered : System.Answered} {w : Settlement.World T K} {view : EntitlementView}
    (hview : (x.reader timestamp answered w).get entitlementId = .ok view) :
    view.serviceType = (w.settlement.entitlements entitlementId.toNat).serviceType ∧
      view.revoked = (w.settlement.entitlements entitlementId.toNat).revoked := by
  change (if answered.get then System.get x.deployment.toPlatform x.codec w.settlement entitlementId else _) = _ at hview
  split_ifs at hview
  rw [System.get] at hview
  split at hview
  · cases hview
  · dsimp only at hview
    split at hview
    · cases hview
    · cases hview
      exact ⟨rfl, rfl⟩

/-- A loop of teardowns that goes through has ended every session of it. -/
theorem teardownAll_ok_ends {controller : Controller.Service N} {sessions : List Controller.Session} {ids : List String}
    (hok : (Controller.Service.teardownAll p sessions controller).1 = .ok ids) :
    ∀ session ∈ sessions, ∀ found,
      ¬ (Controller.Service.teardownAll p sessions controller).2.ActiveAt session.sessionId found := by
  induction sessions generalizing controller ids with
  | nil => exact fun _ hmem => absurd hmem List.not_mem_nil
  | cons first rest ih =>
      have houtcome := Controller.teardown_outcome p controller first.sessionId
      rw [Controller.Service.teardownAll] at hok ⊢
      generalize controller.teardown p first.sessionId = down at houtcome hok ⊢
      cases houtcome with
      | refused hcode hquiet => cases hok
      | @ended info next hdown =>
          dsimp only at hok ⊢
          have hsettles := Controller.teardownAll_settles p next rest
          have hrest := @ih next
          generalize Controller.Service.teardownAll p rest next = last at hok hsettles hrest ⊢
          obtain ⟨result, after⟩ := last
          cases result with
          | error failure => cases hok
          | ok ended =>
              intro session hmem found hactive
              rcases List.mem_cons.mp hmem with rfl | hmem
              · exact hdown found (hsettles.active _ _ hactive)
              · exact hrest rfl session hmem found hactive

/-- A scan that goes through, for a ticket that is revoked. -/
theorem scan_ends {controller : Controller.Service N} {chain : Controller.Reader} (hkeyed : Controller.Keyed controller)
    (hrevoked : ∀ view, chain.get entitlementId = .ok view → view.revoked = true)
    (hok : (controller.handleRevoked p chain entitlementId).1 = .ok ()) {sessionId : String}
    {session : Controller.Session}
    (hactive : (controller.handleRevoked p chain entitlementId).2.ActiveAt sessionId session) :
    session.entitlementId ≠ entitlementId := by
  rintro rfl
  have hsettles := Controller.teardownAll_settles p controller (controller.sessions.values.filter fun found =>
    found.entitlementId = session.entitlementId ∧ found.state = .active)
  have hends := @teardownAll_ok_ends N p controller (controller.sessions.values.filter fun found =>
    found.entitlementId = session.entitlementId ∧ found.state = .active)
  simp only [Controller.Service.handleRevoked] at hok hactive
  split at hok
  · cases hok
  · rename_i view hview
    simp only [hview, hrevoked view hview, if_true, Controller.Service.endRevoked] at hok hactive
    generalize Controller.Service.teardownAll p _ controller = result at hok hactive hsettles hends
    obtain ⟨answer, next⟩ := result
    cases answer with
    | error failure => cases hok
    | ok ids =>
        obtain ⟨hget, hstate⟩ := hsettles.active sessionId session hactive
        have hkey := (hkeyed sessionId session hget).1
        refine hends rfl session (List.mem_filter.mpr ⟨?_, decide_eq_true ⟨rfl, hstate⟩⟩) session (hkey.symm ▸ hactive)
        exact OrderedDict.mem_values.mpr ⟨sessionId, hget⟩

/-- The ticket of a session that is shown gives its units back, or an exception keeps them. -/
theorem release_sound (h : Sound x held released ended c) (hd : Skeleton.Reliable x.deployment) {r : Revocation}
    {sid : Option String} (hget : c.sessions.get? entitlementId = some sid) (hrunning : running sid = true)
    (hrevoked : (c.world.settlement.entitlements entitlementId.toNat).revoked = true)
    (hactive : ∀ sessionId session, c.controller.ActiveAt sessionId session → session.entitlementId ≠ entitlementId) :
    (x.release r entitlementId c).1.heldFor = none ∧
      (((x.release r entitlementId c).1.freed = none ∧ Sound x held released ended (x.release r entitlementId c).2) ∨
        ∃ product, (x.release r entitlementId c).1.freed = some (product, entitlementId) ∧
          Sound x held (Function.update released product (released product + 1))
            (fun other => ended other ∨ other = entitlementId) (x.release r entitlementId c).2) := by
  have hthere := x.reaches_later r.beforeRelease c.world
  have hmined := h.later hd hthere
  obtain ⟨hnonneg, hminted⟩ := hmined.minted entitlementId sid hget
  have hentered := hmined.entered hnonneg hminted
  simp only [release]
  split
  · exact ⟨rfl, Or.inl ⟨rfl, hentered⟩⟩
  · rename_i view hview
    cases hledger : c.ledgers.get? (serviceOf view.serviceType) with
    | none => exact ⟨rfl, Or.inl ⟨rfl, hentered⟩⟩
    | some ledger =>
        refine ⟨rfl, Or.inr ⟨serviceOf view.serviceType, rfl, ?_⟩⟩
        have hslack : shown { c with
            sessions := c.sessions.insert entitlementId none
            world := x.later r.beforeRelease c.world } (serviceOf view.serviceType) + 1 +
            released (serviceOf view.serviceType) ≤ held (serviceOf view.serviceType) := by
          have hcount := shown_insert { c with world := x.later r.beforeRelease c.world } entitlementId none
            (serviceOf view.serviceType)
          have hbacked := hmined.backed (serviceOf view.serviceType)
          change shown { c with world := x.later r.beforeRelease c.world } (serviceOf view.serviceType) +
            released (serviceOf view.serviceType) ≤ held (serviceOf view.serviceType) at hbacked
          rw [hget, Option.any_some, hrunning, ← (view_of_get hview).1, decide_eq_true rfl, running, Option.any_none,
            Bool.and_self, Bool.false_and, Bool.toNat_true, Bool.toNat_false] at hcount
          dsimp only at hcount
          omega
        have hended := hentered.ends (by rw [OrderedDict.get?_insert, if_pos rfl]; rfl)
          ((h.permanent hd hthere hget).revoked hrevoked) hactive
        exact hended.releases hledger hslack

theorem revoke_sound (h : Sound x held released ended c) (hd : Skeleton.Reliable x.deployment) (r : Revocation) :
    (x.revoke p r c).1.heldFor = none ∧
      (((x.revoke p r c).1.freed = none ∧ Sound x held released ended (x.revoke p r c).2) ∨
        ∃ product entitlementId, (x.revoke p r c).1.freed = some (product, entitlementId) ∧
          Sound x held (Function.update released product (released product + 1))
            (fun other => ended other ∨ other = entitlementId) (x.revoke p r c).2) := by
  have hmined := h.later hd (x.reaches_later r.before c.world)
  simp only [revoke]
  split
  · exact ⟨rfl, Or.inl ⟨rfl, h⟩⟩
  · rename_i entry hentry
    obtain ⟨hmem, hrunning⟩ := List.mem_filter.mp (List.mem_of_getLast? hentry)
    have hget : c.sessions.get? entry.1 = some entry.2 := OrderedDict.mem_entries.mp hmem
    split
    · exact ⟨rfl, Or.inl ⟨rfl, hmined⟩⟩
    · rename_i w hticket
      obtain ⟨hreaches, hrevoked⟩ := revokeTicket_eq_some hticket
      have hsent := hmined.later hd hreaches
      by_cases hshown : r.shown = true
      swap
      · rw [if_neg hshown]
        exact ⟨rfl, Or.inl ⟨rfl, hsent⟩⟩
      · rw [if_pos hshown]
        have hscanning := hsent.later hd (x.reaches_later r.beforeScan w)
        have hrevoked' : ((x.later r.beforeScan w).settlement.entitlements entry.1.toNat).revoked = true :=
          (hsent.permanent hd (x.reaches_later r.beforeScan w) hget).revoked hrevoked
        have hscanned := hscanning.scanned p (x.reader r.scannedAt r.scanReads (x.later r.beforeScan w)) hrevoked'
        split
        · exact ⟨rfl, Or.inl ⟨rfl, hscanned⟩⟩
        · rename_i hok
          by_cases hobserved : r.observed = true
          swap
          · rw [if_neg hobserved]
            exact ⟨rfl, Or.inl ⟨rfl, hscanned⟩⟩
          · rw [if_pos hobserved]
            obtain ⟨hheld, hrest⟩ := @release_sound T K N x held released ended _ entry.1 hscanned hd r entry.2 hget hrunning
              hrevoked' fun sessionId session hactive => scan_ends h.keyed
                (fun view hview => (view_of_get hview).2.trans hrevoked') hok hactive
            refine ⟨hheld, hrest.imp_right ?_⟩
            rintro ⟨product, hfreed, hsound⟩
            exact ⟨product, entry.1, hfreed, hsound⟩

end Sound

/-! ### Runs -/

/-- The others at a purchase are others. -/
def Strange (x : Operator T K) : Action → Prop
  | .provision m _ _ => ∀ event ∈ m.purchase, x.client.Strange event
  | .revoke _ => True

/-- How often units of a product were left held. -/
def heldBy (outcomes : List Outcome) (service : String) : Nat :=
  outcomes.countP fun outcome => outcome.heldFor = some service

/-- How often they were freed. -/
def freedBy (outcomes : List Outcome) (service : String) : Nat :=
  outcomes.countP fun outcome => outcome.freed.map Prod.fst = some service

def EndedBy (outcomes : List Outcome) (entitlementId : Int) : Prop :=
  ∃ outcome ∈ outcomes, outcome.freed.map Prod.snd = some entitlementId

section Run

variable {x} {outcomes : List Outcome} {outcome : Outcome} {service : String} {entitlementId : Int}

theorem heldBy_of_none (h : outcome.heldFor = none) : heldBy (outcomes ++ [outcome]) = heldBy outcomes := by
  funext product
  simp [heldBy, h]

theorem heldBy_of_some (h : outcome.heldFor = some service) :
    heldBy (outcomes ++ [outcome]) = Function.update (heldBy outcomes) service (heldBy outcomes service + 1) := by
  funext product
  by_cases hsame : product = service
  · subst hsame
    simp [heldBy, h]
  · simp [heldBy, h, Function.update_of_ne hsame, Ne.symm hsame]

theorem freedBy_of_none (h : outcome.freed = none) : freedBy (outcomes ++ [outcome]) = freedBy outcomes := by
  funext product
  simp [freedBy, h]

theorem freedBy_of_some (h : outcome.freed = some (service, entitlementId)) :
    freedBy (outcomes ++ [outcome]) = Function.update (freedBy outcomes) service (freedBy outcomes service + 1) := by
  funext product
  by_cases hsame : product = service
  · subst hsame
    simp [freedBy, h]
  · simp [freedBy, h, Function.update_of_ne hsame, Ne.symm hsame]

theorem endedBy_of_none (h : outcome.freed = none) : EndedBy (outcomes ++ [outcome]) = EndedBy outcomes := by
  funext other
  simp [EndedBy, or_and_right, exists_or, h]

theorem endedBy_of_some (h : outcome.freed = some (service, entitlementId)) :
    EndedBy (outcomes ++ [outcome]) = fun other => EndedBy outcomes other ∨ other = entitlementId := by
  funext other
  simp [EndedBy, or_and_right, exists_or, h, eq_comm]

theorem start_sound {w : Settlement.World T K} (hreached : Reaches x.contracts (Settlement.World.deployed x.deployment) w)
    (controllerId : String) (n : N) :
    Sound x (heldBy []) (freedBy []) (EndedBy []) (x.start w controllerId n) where
  reached := hreached
  keyed := Controller.keyed_start controllerId n
  services service := by
    rw [start, OrderedDict.get?_insert, OrderedDict.get?_insert, OrderedDict.get?_empty]
    split_ifs with htelemetry hbandwidth
    · exact iff_of_true rfl (Or.inr htelemetry)
    · exact iff_of_true rfl (Or.inl hbandwidth)
    · exact iff_of_false Bool.false_ne_true (not_or.mpr ⟨hbandwidth, htelemetry⟩)
  pool service ledger hget := by
    have hempty : ∀ capacity, (CapacityLedger.empty capacity).reserved none (x.window service) = 0 := by
      intro capacity
      rw [CapacityLedger.reserved_eq]
      rfl
    rw [start, OrderedDict.get?_insert, OrderedDict.get?_insert, OrderedDict.get?_empty] at hget
    split_ifs at hget with htelemetry hbandwidth
    · cases hget
      rw [hempty, htelemetry]
      exact ⟨rfl, Nat.zero_le _, rfl⟩
    · cases hget
      rw [hempty, hbandwidth]
      exact ⟨rfl, Nat.zero_le _, rfl⟩
  backed service := le_rfl
  minted entitlementId sid hget := by cases hget
  session entitlementId sessionId hget := by cases hget
  ended entitlementId hended := by
    obtain ⟨outcome, hmem, -⟩ := hended
    cases hmem

theorem step_sound (hd : Skeleton.Reliable x.deployment) (p : Controller.Provisioner N) {action : Action}
    (hstrange : x.Strange action) {c : Console T K N}
    (h : Sound x (heldBy outcomes) (freedBy outcomes) (EndedBy outcomes) c) :
    Sound x (heldBy (outcomes ++ [(x.step p action c).1])) (freedBy (outcomes ++ [(x.step p action c).1]))
      (EndedBy (outcomes ++ [(x.step p action c).1])) (x.step p action c).2 := by
  cases action with
  | provision m service budgetTok =>
      rcases @provision_sound T K N x _ _ _ c service p m h hd hstrange budgetTok with
        ⟨hheld, hfreed, hsound⟩ | ⟨hheld, hsound⟩
      · rw [step, heldBy_of_none hheld, freedBy_of_none hfreed, endedBy_of_none hfreed]
        exact hsound
      · have hfreed := Outcome.freed_of_heldFor hheld
        rw [step, heldBy_of_some hheld, freedBy_of_none hfreed, endedBy_of_none hfreed]
        exact hsound
  | revoke r =>
      obtain ⟨hheld, ⟨hfreed, hsound⟩ | ⟨product, entitlementId, hfreed, hsound⟩⟩ :=
        @revoke_sound T K N x _ _ _ c p h hd r
      · rw [step, heldBy_of_none hheld, freedBy_of_none hfreed, endedBy_of_none hfreed]
        exact hsound
      · rw [step, heldBy_of_none hheld, freedBy_of_some hfreed, endedBy_of_some hfreed]
        exact hsound

end Run

/-- What an operator can rely on. Of a pool, the units of the purchases that were not revoked to the end are taken, among
them those of every session that is shown; a session that is shown belongs to its ticket, and is active unless the ticket
is revoked; and a ticket that was revoked to the end stays revoked, without a session. -/
structure KeepsBooks (x : Operator T K) (outcomes : List Outcome) (c : Console T K N) : Prop where
  pool : ∀ service, service = "bandwidth" ∨ service = "telemetry" → ∃ ledger, c.ledgers.get? service = some ledger ∧
    ledger.available none (x.window service) =
      x.pool service - x.units service * (heldBy outcomes service - freedBy outcomes service : Int) ∧
    0 ≤ ledger.available none (x.window service) ∧
    x.units service * shown c service ≤ ledger.reserved none (x.window service)
  session : ∀ entitlementId sessionId, c.sessions.get? entitlementId = some (some sessionId) →
    ∃ session, c.controller.sessions.get? sessionId = some session ∧ session.entitlementId = entitlementId ∧
      (session.state = .active ∨ (c.world.settlement.entitlements entitlementId.toNat).revoked = true)
  ended : ∀ service entitlementId, .revoked service entitlementId ∈ outcomes →
    (c.world.settlement.entitlements entitlementId.toNat).revoked = true ∧
      ∀ sessionId session, c.controller.ActiveAt sessionId session → session.entitlementId ≠ entitlementId

theorem Sound.keepsBooks {x : Operator T K} {outcomes : List Outcome} {c : Console T K N}
    (h : Sound x (heldBy outcomes) (freedBy outcomes) (EndedBy outcomes) c) : KeepsBooks x outcomes c where
  pool service hproduct := by
    obtain ⟨ledger, hledger⟩ := Option.isSome_iff_exists.mp ((h.services service).mpr hproduct)
    obtain ⟨hcapacity, hle, hbooks⟩ := h.pool service ledger hledger
    have hbacked := h.backed service
    have hunits : x.units service * (shown c service + freedBy outcomes service) ≤
        x.units service * heldBy outcomes service := Nat.mul_le_mul_left _ hbacked
    rw [Nat.mul_add] at hunits
    refine ⟨ledger, hledger, ?_, ?_, by omega⟩
    · rw [CapacityLedger.available, hcapacity, mul_sub]
      have hcast : (ledger.reserved none (x.window service) : Int) + x.units service * freedBy outcomes service =
          x.units service * heldBy outcomes service := by exact_mod_cast hbooks
      omega
    · rw [CapacityLedger.available]
      omega
  session := h.session
  ended service entitlementId hmem := by
    obtain ⟨-, hrevoked, hactive⟩ := h.ended entitlementId ⟨_, hmem, rfl⟩
    exact ⟨hrevoked, hactive⟩

/-- Any actions, whatever comes from elsewhere. -/
theorem console_keeps_books (x : Operator T K) (hd : Skeleton.Reliable x.deployment) (p : Controller.Provisioner N)
    (w : Settlement.World T K) (hreached : Reaches x.contracts (Settlement.World.deployed x.deployment) w)
    (controllerId : String) (n : N) (actions : List Action) (hstrange : ∀ action ∈ actions, x.Strange action) :
    KeepsBooks x (Lockstep.run (x.step p) (x.start w controllerId n) actions).1
      (Lockstep.run (x.step p) (x.start w controllerId n) actions).2 := by
  have hstart := start_sound hreached controllerId n
  have hsound := @Lockstep.run_keeps Action Outcome (Console T K N) (x.step p)
    (fun outcomes c => Sound x (heldBy outcomes) (freedBy outcomes) (EndedBy outcomes) c) actions
    (fun action hmem outcomes c h => step_sound hd p (hstrange action hmem) h) [] _ hstart
  exact hsound.keepsBooks

end Operator

def labOperator : Operator Settlement.Registry Settlement.Ledger where
  provider := labChain
  client := .of labDeployment Settlement.ada Settlement.ada_ne_zero
  bell := ⟨Settlement.bell, Settlement.bell_ne_zero⟩
  sign := fun _ => labSignature
  codec := System.abiCodec
  cfg := labSetting.cfg
  bandwidth := ⟨"hostA", "hostB", 50000000, 1, ⟨0, 100⟩⟩
  telemetry := ⟨"srl1", ["/interface"], "collector:57400", 10, ⟨0, 100⟩⟩
  pool := fun service => if service = "bandwidth" then 100000000 else 4

/-- The model gives no answer that parses, and the graph runs again. -/
def labProvision : Provision where
  judgment := some none
  salt := word64 (23 : Uint256).toNat
  resalt := word64 (24 : Uint256).toNat
  judge := none
  purchase := [.turn 5, .turn 6]
  shown := true
  beforeChallenge := []
  challengedAt := 10
  challengeReads := ⟨true, true, true⟩
  drawn := "0x01"
  checked := true
  beforeSubmit := []
  submittedAt := 20
  submitReads := ⟨true, true, true⟩
  observed := true

def labRevocation : Revocation where
  before := []
  sentAt := 30
  shown := true
  beforeScan := []
  scannedAt := 31
  scanReads := ⟨true, true, true⟩
  observed := true
  beforeRelease := []
  releasedAt := 32
  releaseReads := ⟨true, true, true⟩

/-- The console over the lab's router. -/
def labConsole : List Outcome × Console Settlement.Registry Settlement.Ledger Network.Devices :=
  Lockstep.run (labOperator.step Network.labProvisioner.provisioner)
    (labOperator.start labStack.world "bw-ctrl-1" fun _ => .empty)
    [.provision labProvision "bandwidth" 15, .revoke labRevocation]

/-- The purchase goes live, and its entitlement is revoked. -/
theorem console_keeps_books_lab :
    labConsole.1 = [.live "bandwidth" 1 "ent1-a0", .revoked "bandwidth" 1] ∧
      labOperator.KeepsBooks labConsole.1 labConsole.2 := by
  refine ⟨by decide +kernel, Operator.console_keeps_books labOperator labDeployment_reliable
    Network.labProvisioner.provisioner labStack.world (reaches_history _ _) "bw-ctrl-1" (fun _ => .empty)
    [.provision labProvision "bandwidth" 15, .revoke labRevocation] fun action hmem => ?_⟩
  simp only [List.mem_cons, List.not_mem_nil, or_false] at hmem
  rcases hmem with rfl | rfl
  · intro event hevent
    simp only [labProvision, List.mem_cons, List.not_mem_nil, or_false] at hevent
    rcases hevent with rfl | rfl
    · trivial
    · trivial
  · trivial

end A2AProvisioning.Lifecycle
