import A2AProvisioning.AgentsJson
import A2AProvisioning.AgentsTools
import A2AProvisioning.LifecyclePurchase
import A2AProvisioning.NetworkExport
import A2AProvisioning.SystemAnswers
import A2AProvisioning.SystemExchange
import A2AProvisioning.SystemRates

/-! One deal, from the need to the network: the consumer's graph over the provider's graph, both contracts and the
controller, with whatever else is mined and asked for between its calls. -/

namespace A2AProvisioning.Lifecycle

open Reentrant Ledger Agents Network

variable {F T K : Type}

/-- The parties, with their keys and libraries. -/
structure Setting (F T K : Type) where
  python : Python F
  detail : Document F → Document F
  provider : ProviderChain
  client : Chain.ChainClient T K
  sign : String → String
  judge : Judge
  codec : System.Codec
  cfg : Controller.Config
  router : GnmiProvisioner

/-- What a deal finds, and what it leaves. -/
structure Stack (T K : Type) where
  ledger : CapacityLedger
  world : Settlement.World T K
  service : Controller.Service Devices

/-- What comes from elsewhere while a deal runs: the clocks, the model, the numbers drawn, the transactions of the
purchase among those of others, what is mined before each of the controller's reads, what others ask of the controller,
and the faults of the network. -/
structure Meanwhile where
  now : Option Nat
  judgment : Option (Option QuoteDecision)
  salt : String
  purchase : List Chain.PurchaseEvent
  beforeChallenge : List (Nat × Call Settlement.Sent)
  challengedAt : Nat
  challengeReads : System.Answered
  drawn : String
  between : List (Controller.Event Devices)
  beforeSubmit : List (Nat × Call Settlement.Sent)
  submittedAt : Nat
  submitReads : System.Answered
  redrawn : String
  faults : Controller.NetCall → Devices → Option (String × Devices)

/-- The answer of a provider's run; an offer was checked when it was signed. -/
def answerOf : Result → Option (Answer F)
  | .decline decline => some (.decline decline)
  | .signed signed =>
      if h : signed.offer.Valid ∧ isSignature signed.signature = true then some (.signed ⟨signed, [], h.1, h.2⟩)
      else none

def resultOf : Answer F → Result
  | .decline decline => .decline decline
  | .signed signed => .signed signed.toSignedOffer

/-- `loopback_quote`: the need and the answer cross the codec, the provider's graph runs in between. -/
def loopbackQuote (python : Python F) (graph : ServiceNeed → Option ProviderState × CapacityLedger)
    (ledger : CapacityLedger) (need : ServiceNeed) : Option (Answer F) × CapacityLedger :=
  match decodeNeed python (encodeNeed python need) with
  | none => (none, ledger)
  | some need =>
      (((graph need).1.bind fun state => state.result.bind answerOf).bind fun answer =>
        decodeOfferOrDecline python (encodeOfferOrDecline python answer), (graph need).2)

namespace Setting

variable (x : Setting F T K) (m : Meanwhile)

abbrev deployment : Settlement.Deployment T K := x.client.deployment

abbrev contracts : Contract Nat Settlement.Sent (Settlement.World T K) Settlement.Failure :=
  Settlement.world x.deployment

def account : Account := ⟨x.sign, x.client.acct⟩

/-- What the provider's tools sign. -/
def signOffer (need : ServiceNeed) (priceTok : Int) : Option SignedOffer := x.provider.signOffer need priceTok m.salt

def graph (ledger : CapacityLedger) (need : ServiceNeed) : Option ProviderState × CapacityLedger :=
  runProvider (x.signOffer m) ledger m.now need m.judgment

/-- `GraphQuoteTools.quote`. -/
def quote (need : ServiceNeed) (s : Stack T K) : Option Result × Stack T K :=
  let quoted := loopbackQuote x.python (x.graph m s.ledger) s.ledger need
  (quoted.1.map resultOf, { s with ledger := quoted.2 })

/-- `ChainConsumerTools.settle`. -/
def settle (signed : SignedOffer) (s : Stack T K) : Option Int × Stack T K :=
  let bought := settled x.client signed m.purchase s.world
  (bought.1, { s with world := bought.2 })

def worldAtChallenge (w : Settlement.World T K) : Settlement.World T K :=
  (history x.contracts w m.beforeChallenge).1

def worldAtSubmit (w : Settlement.World T K) : Settlement.World T K :=
  (history x.contracts (x.worldAtChallenge m w) m.beforeSubmit).1

/-- What the controller is given for the two calls. -/
def exchange (w : Settlement.World T K) : Exchange Devices where
  challenged := System.reader x.deployment.toPlatform x.codec (x.worldAtChallenge m w).settlement m.challengedAt
    m.challengeReads
  drawn := m.drawn
  between := m.between
  submitted := System.reader x.deployment.toPlatform x.codec (x.worldAtSubmit m w).settlement m.submittedAt m.submitReads
  redrawn := m.redrawn
  provisioner := x.router.unreliable m.faults

/-- `ChainConsumerTools.activate`. -/
def activate (entitlementId : Int) (kind : String) (s : Stack T K) : Option String × Stack T K :=
  let activated := activateTool x.python x.detail x.cfg x.account (x.exchange m s.world) s.service entitlementId kind
  (match activated.1 with
    | .ok sessionId => some sessionId
    | .error _ => none, { s with
      world := x.worldAtSubmit m s.world
      service := activated.2 })

theorem valid_of_quote {need : ServiceNeed} {s : Stack T K} {offer : SignedOffer}
    (h : (x.quote m need s).1 = some (.signed offer)) : offer.offer.Valid := by
  obtain ⟨answer, -, hanswer⟩ := Option.map_eq_some_iff.mp h
  cases answer with
  | decline decline => cases hanswer
  | signed signed =>
      cases hanswer
      exact signed.valid

/-- `GraphQuoteTools`, over the stack. -/
def tools : StatefulTools (Stack T K) where
  quote := x.quote m
  settle := x.settle m
  activate := x.activate m
  valid := x.valid_of_quote m

/-- Steps 1 to 4 of `run_lifecycle`. -/
def deal (need : ServiceNeed) (budgetTok : Int) (s : Stack T K) : Option ConsumerState × Stack T K :=
  runOver (x.tools m) x.judge need budgetTok s

end Setting

section Quote

variable {sign : ServiceNeed → Int → Option SignedOffer} {ledger : CapacityLedger} {now : Option Nat} {need : ServiceNeed}
  {llm : Option (Option QuoteDecision)}

/-- An offer comes out of a run when the need fits, and the judgment names a price that can be signed. -/
theorem signed_of_run {state : ProviderState} (hrun : (runProvider sign ledger now need llm).1 = some state)
    {signed : SignedOffer} (hresult : state.result = some (.signed signed)) :
    (demand need : Int) ≤ ledger.available now (windowOf need) ∧ (decision need llm).quote = true ∧
      sign need (decision need llm).priceTok = some signed := by
  by_cases hroom : (demand need : Int) ≤ ledger.available now (windowOf need)
  · obtain ⟨reserved, transcript, -, heq⟩ := run_of_room llm sign hroom
    rw [heq] at hrun
    refine ⟨hroom, ?_⟩
    cases hquote : (decision need llm).quote with
    | false =>
        unfold quoteNode at hrun
        simp only [hquote, Bool.false_eq_true, ↓reduceIte, Option.some.injEq] at hrun
        subst hrun
        cases hresult
    | true =>
        refine ⟨rfl, ?_⟩
        cases hsign : sign need (decision need llm).priceTok with
        | none =>
            rw [@quoteNode_of_raised reserved now llm sign ⟨need, true, none, transcript⟩ hquote hsign] at hrun
            cases hrun
        | some offered =>
            unfold quoteNode at hrun
            simp only [hquote, hsign, ↓reduceIte, Option.some.injEq] at hrun
            subst hrun
            cases hresult
            rfl
  · obtain ⟨⟨declined, decline, hdeclined, hdecline⟩, -⟩ := run_of_full llm sign hroom
    rw [hrun] at hdeclined
    cases hdeclined
    rw [hresult] at hdecline
    cases hdecline

/-- What the provider's run answers, before it goes over the wire. -/
def Setting.provided (x : Setting F T K) (m : Meanwhile) (s : Stack T K) (need : ServiceNeed) : Option (Answer F) :=
  (x.graph m s.ledger need).1.bind fun state => state.result.bind answerOf

/-- The wire brings the need, and what is answered to it. -/
structure Setting.Wired (x : Setting F T K) (m : Meanwhile) (s : Stack T K) (need : ServiceNeed) : Prop where
  asked : x.python.Reads (dumpNeed need)
  answered : ∀ answer ∈ x.provided m s need, x.python.Reads (dumpAnswer answer)

variable {x : Setting F T K} {m : Meanwhile} {s : Stack T K}

/-- Over the wire the quote is what the provider's run answers. -/
theorem quote_fst (hwired : x.Wired m s need) : (x.quote m need s).1 = (x.provided m s need).map resultOf := by
  have hneed : decodeNeed x.python (encodeNeed x.python need) = some need := decodeNeed_encodeNeed x.python hwired.asked
  have hloop : (loopbackQuote x.python (x.graph m s.ledger) s.ledger need).1 =
      (x.provided m s need).bind fun answer => decodeOfferOrDecline x.python (encodeOfferOrDecline x.python answer) := by
    rw [loopbackQuote, hneed]
    rfl
  rw [Setting.quote, hloop]
  cases hprovided : x.provided m s need with
  | none => rfl
  | some answer =>
      have hanswer := decodeOfferOrDecline_encode x.python (hwired.answered answer hprovided)
      rw [Option.bind_some, hanswer]

theorem quote_signed (hwired : x.Wired m s need) {signed : SignedOffer}
    (h : (x.quote m need s).1 = some (.signed signed)) :
    (demand need : Int) ≤ s.ledger.available m.now (windowOf need) ∧ (decision need m.judgment).quote = true ∧
      x.signOffer m need (decision need m.judgment).priceTok = some signed := by
  rw [quote_fst hwired] at h
  obtain ⟨answer, hprovided, hanswer⟩ := Option.map_eq_some_iff.mp h
  obtain ⟨state, hrun, hbind⟩ := Option.bind_eq_some_iff.mp hprovided
  obtain ⟨result, hresult, hof⟩ := Option.bind_eq_some_iff.mp hbind
  cases result with
  | decline decline =>
      cases hof
      cases hanswer
  | signed offered =>
      rw [answerOf] at hof
      split_ifs at hof
      cases hof
      cases hanswer
      exact signed_of_run hrun hresult

/-- When the need fits and the judgment names a price, what is signed is answered. -/
theorem provided_of_signed (hroom : (demand need : Int) ≤ s.ledger.available m.now (windowOf need))
    (hquote : (decision need m.judgment).quote = true) {signed : SignedOffer}
    (hsigned : x.signOffer m need (decision need m.judgment).priceTok = some signed) (hvalid : signed.offer.Valid)
    (hsignature : isSignature signed.signature = true) :
    x.provided m s need = some (.signed ⟨signed, [], hvalid, hsignature⟩) := by
  obtain ⟨reserved, transcript, -, heq⟩ := run_of_room m.judgment (x.signOffer m) hroom
  have hsome : (x.signOffer m need (decision need m.judgment).priceTok).isSome = true := Option.isSome_of_mem hsigned
  obtain ⟨state, offered, hstate, hresult⟩ := @quoteNode_of_signed reserved m.now m.judgment (x.signOffer m)
    ⟨need, true, none, transcript⟩ hquote hsome
  have hrun : (x.graph m s.ledger need).1 = some state := by
    rw [Setting.graph, heq]
    exact hstate
  obtain rfl : signed = offered := Option.some.inj (hsigned.symm.trans (signed_of_run hrun hresult).2.2)
  rw [Setting.provided, hrun, Option.bind_some, hresult, Option.bind_some, answerOf, dif_pos ⟨hvalid, hsignature⟩]

end Quote

/-- What a need asks of the controller. -/
def paramsOf : ServiceNeed → ServiceParams
  | .bandwidth need => .bandwidth ⟨need.capacityBps, need.qosClass⟩
  | .telemetry need => .telemetry ⟨need.sensorPaths, need.collectorEndpoint, need.sampleIntervalS⟩

def resourceOf : ServiceNeed → Bytes32
  | .bandwidth _ => 7
  | .telemetry _ => 8

/-- The reader's decoder reads what the catalogue encodes for a need. -/
def Setting.Decodes (x : Setting F T K) (need : ServiceNeed) : Prop :=
  x.codec.decode (serviceFor x.provider.tools.telemetryParams need).serviceType
    (Hex.bytesOf (TypedData.digitsOf (serviceFor x.provider.tools.telemetryParams need).params)) = some (paramsOf need)

theorem decodes_bandwidth {x : Setting F T K} (hcodec : x.codec.ReadsBandwidth) (need : BandwidthNeed) :
    x.Decodes (.bandwidth need) := by
  have hread := hcodec ⟨need.capacityBps, need.qosClass⟩
  have hzero : (serviceFor x.provider.tools.telemetryParams (.bandwidth need)).serviceType = 0 := rfl
  have hparams : (serviceFor x.provider.tools.telemetryParams (.bandwidth need)).params = bandwidthParams need := rfl
  rw [Setting.Decodes, hparams, bytesOf_bandwidthParams, System.Codec.decode, if_pos hzero, hread]
  rfl

section Signed

variable {x : Setting F T K} {m : Meanwhile} {need : ServiceNeed} {priceTok : Int} {signed : SignedOffer}

/-- The terms that go to the contract are those of the need. -/
theorem entitlement_of_signed (h : x.signOffer m need priceTok = some signed) (hdecodes : x.Decodes need) :
    x.codec.decode signed.offer.onChain.entitlement.serviceType signed.offer.onChain.entitlement.params =
        some (paramsOf need) ∧
      signed.offer.onChain.entitlement.resourceId = resourceOf need ∧
      signed.offer.onChain.entitlement.startTime = need.window.start ∧
      signed.offer.onChain.entitlement.endTime = need.window.end := by
  obtain ⟨-, -, price, -, hoffer⟩ := offer_of_signed h
  rw [hoffer]
  refine ⟨hdecodes, ?_, rfl, rfl⟩
  cases need with
  | bandwidth need => exact bigEndian_word64 7
  | telemetry need => exact bigEndian_word64 8

end Signed

/-- The session has an export on the device, through a tunnel, and where the endpoint of the need is a host and a port,
the export goes there. -/
structure ExportedAt (g : GnmiProvisioner) (devices : Devices) (sessionId device collectorEndpoint : String) : Prop where
  destination : ∃ address port,
    (devices device).destinations.get? (templateName sessionId) = some ⟨address, port, "mgmt"⟩ ∧
      ∀ host digits n, collectorEndpoint.toList = host ++ ':' :: digits → host ≠ [] → digits ≠ [] →
        numberOf g.unicode digits = some n → address = String.ofList host ∧ port = n
  tunnel : (devices device).tunnels.get? (templateName sessionId) =
    some ⟨"enable", templateName sessionId, device, tunnelGrpcServer⟩

/-- The network gives the session what was needed, on the resource that it was sold for: the rate in whole kbps, and one
where less is needed. -/
def EnforcedOn (g : GnmiProvisioner) (devices : Devices) (sessionId : String) (resolved : Controller.Resolved) :
    ServiceNeed → Prop
  | .bandwidth need => ∃ path rate, resolved = .path path ∧ System.PolicedAt devices sessionId path rate ∧
      (1000 ≤ need.capacityBps.toNat →
        1000 * rate ≤ need.capacityBps.toNat ∧ need.capacityBps.toNat < 1000 * (rate + 1)) ∧
      (need.capacityBps.toNat < 1000 → rate = 1)
  | .telemetry need => ExportedAt g devices sessionId (deviceOf resolved) need.collectorEndpoint

section Enforced

variable {g : GnmiProvisioner} {faults : Controller.NetCall → Devices → Option (String × Devices)} {sessionId : String}
  {resolved : Controller.Resolved} {devices : Devices} {result : ApplyResult}

/-- The two halves of an endpoint with a port are what is written. -/
theorem halves_of_endpoint (hlawful : g.unicode.Lawful) {collectorEndpoint : String} {port : Nat}
    (hport : portOf g.unicode (rpartition collectorEndpoint.toList).2 = some port) (host digits : List Char) (n : Nat)
    (hendpoint : collectorEndpoint.toList = host ++ ':' :: digits) (hhost : host ≠ []) (hdigits : digits ≠ [])
    (hn : numberOf g.unicode digits = some n) :
    GnmiProvisioner.addressOf (rpartition collectorEndpoint.toList).1 = String.ofList host ∧ port = n := by
  have hsplit : rpartition collectorEndpoint.toList = (host, digits) := by
    rw [hendpoint, rpartition_append host (colon_not_mem hlawful (Option.isSome_of_mem hn))]
  rw [hsplit, portOf_of_number hlawful hdigits hn] at hport
  split_ifs at hport
  rw [hsplit, GnmiProvisioner.addressOf, if_neg hhost]
  exact ⟨rfl, (Option.some.inj hport).symm⟩

theorem exportedAt_of_call (hlawful : g.unicode.Lawful) {sensorPaths : List String} {collectorEndpoint : String}
    {sampleIntervalS : Nat}
    (hcall : ((g.unreliable faults).call
      (.applyTelemetry sessionId resolved sensorPaths collectorEndpoint sampleIntervalS) devices).1 = some result)
    (hok : result.ok = true) :
    ExportedAt g ((g.unreliable faults).call
      (.applyTelemetry sessionId resolved sensorPaths collectorEndpoint sampleIntervalS) devices).2 sessionId
      (deviceOf resolved) collectorEndpoint := by
  simp only [GnmiProvisioner.unreliable, GnmiProvisioner.provisioner, GnmiProvisioner.applyTelemetry] at hcall ⊢
  cases hport : portOf g.unicode (rpartition collectorEndpoint.toList).2 with
  | none =>
      rw [hport] at hcall
      cases hcall
  | some port =>
      rw [hport] at hcall
      dsimp only at hcall ⊢
      by_cases hmem : deviceOf resolved ∈ g.targets
      · simp only [if_pos hmem] at hcall ⊢
        cases hfault : faults (.applyTelemetry sessionId resolved sensorPaths collectorEndpoint sampleIntervalS) devices with
        | some fault =>
            rw [hfault] at hcall
            cases hcall
            cases hok
        | none =>
            refine ⟨⟨GnmiProvisioner.addressOf (rpartition collectorEndpoint.toList).1, port, ?_,
              halves_of_endpoint hlawful hport⟩, ?_⟩
            · dsimp only
              rw [Function.update_self, Device.updateExport, OrderedDict.get?_insert, if_pos rfl]
              rfl
            · dsimp only
              rw [Function.update_self, Device.updateExport, OrderedDict.get?_insert, if_pos rfl]
      · simp only [if_neg hmem] at hcall
        cases hfault : faults (.applyTelemetry sessionId resolved sensorPaths collectorEndpoint sampleIntervalS) devices with
        | some fault =>
            rw [hfault] at hcall
            cases hcall
            cases hok
        | none =>
            rw [hfault] at hcall
            cases hcall
            cases hok

/-- A call that goes well enforces what was needed. -/
theorem enforcedOn_of_call (hlawful : g.unicode.Lawful) {need : ServiceNeed}
    (hcall : ((g.unreliable faults).call (Controller.serviceCall sessionId (paramsOf need) resolved) devices).1 =
      some result) (hok : result.ok = true) :
    EnforcedOn g ((g.unreliable faults).call (Controller.serviceCall sessionId (paramsOf need) resolved) devices).2
      sessionId resolved need := by
  cases need with
  | bandwidth need =>
      cases resolved with
      | path path => exact ⟨path, _, rfl, System.policedAt_of_call hcall hok, System.rateKbps_spec _⟩
      | node node => cases hcall
  | telemetry need => exact exportedAt_of_call hlawful hcall hok

end Enforced

section Activate

variable {x : Setting F T K} {m : Meanwhile} {s : Stack T K} {entitlementId : Int} {kind sessionId : String}

/-- What the controller has seen and done when the tool returns. -/
structure Activated (x : Setting F T K) (m : Meanwhile) (s : Stack T K) (entitlementId : Int) (kind sessionId : String)
    (facts : Controller.Facts) (call : Controller.NetCall) (devices : Devices) : Prop where
  read : Controller.readFacts (x.exchange m s.world).submitted entitlementId = .ok facts
  owner : facts.owner = x.client.acct
  allowed : Controller.predicate facts.view facts.owner facts.owner facts.now
    (betweenCalls x.python x.detail x.cfg (x.exchange m s.world) s.service entitlementId).activeIds (some kind)
    Controller.knownServiceTypes = none
  translated : Controller.translate sessionId facts.view x.cfg.resourceMap = .ok [call]
  called : ∃ result, ((x.router.unreliable m.faults).call call devices).1 = some result ∧ result.ok = true
  network : (x.activate m entitlementId kind s).2.service.net.state = ((x.router.unreliable m.faults).call call devices).2
  session : ∃ session, (x.activate m entitlementId kind s).2.service.ActiveAt sessionId session ∧
    session.entitlementId = entitlementId

theorem activated_of_ok (hhonest : x.account.Honest x.cfg) (hbetween : ∀ event ∈ m.between, event.op.nonce ≠ some m.drawn)
    (hkind : kind = "bandwidth" ∨ kind = "telemetry") (hid : entitlementId.natAbs < 2 ^ 256)
    (h : (x.activate m entitlementId kind s).1 = some sessionId) :
    ∃ facts call devices, Activated x m s entitlementId kind sessionId facts call devices := by
  have hok : (activateTool x.python x.detail x.cfg x.account (x.exchange m s.world) s.service entitlementId kind).1 =
      .ok sessionId := by
    rw [Setting.activate] at h
    dsimp only at h
    split at h
    · rename_i heq
      cases h
      exact heq
    · cases h
  obtain ⟨issuedAt, hundisturbed⟩ := undisturbed_of_ok hbetween hok
  have htool := @activateTool_eq F Devices x.python x.detail x.cfg x.account (x.exchange m s.world) s.service entitlementId
    kind issuedAt hhonest hkind hid hundisturbed
  obtain ⟨hcontroller, hopen⟩ := @auth_betweenCalls F Devices x.python x.detail x.cfg (x.exchange m s.world) s.service
    entitlementId issuedAt hundisturbed
  have hservice : (x.activate m entitlementId kind s).2.service =
      (activateTool x.python x.detail x.cfg x.account (x.exchange m s.world) s.service entitlementId kind).2 := rfl
  rw [htool] at hok
  have hactive := active_of_sessionOf hok
  obtain ⟨info, hinfo, hsessionId⟩ := (sessionOf_eq_ok F x.cfg (x.exchange m s.world)).mp hok
  obtain ⟨facts, plan, call, result, hfacts, hgranted, hcalls, hplan, hcall, hresult, hstate⟩ := System.activate_ok hinfo
  have hsession : plan.sessionId = sessionId := hplan.symm.trans hsessionId
  obtain ⟨expiresAt, hissued, -, hrecover⟩ := hgranted.proof
  refine ⟨facts, call, _, hfacts, ?_, hgranted.allowed, ?_, ⟨result, hcall, hresult⟩, ?_, ?_⟩
  · -- the proof was made for the very challenge that is open
    have hnonce : (x.exchange m s.world).drawn = m.drawn := rfl
    rw [hopen] at hissued
    cases hissued
    rw [hcontroller] at hrecover
    have hsigned := hhonest.recovers (Controller.proofMessage s.service.auth.controllerId (x.exchange m s.world).drawn
      entitlementId (issuedAt + Controller.nonceTtlS) .activate)
    exact Option.some.inj (hrecover.symm.trans hsigned)
  · rw [← hsession, ← hcalls]
    exact hgranted.calls
  · rw [hservice, htool, Controller.service_respond, Controller.Service.perform]
    exact hstate
  · rw [hservice, htool]
    exact hactive

end Activate

/-! ### What is delivered -/

/-- The offer was the need's, at a price in whole tokens and with room for it; it was sold once to the consumer, who
still has the ticket; the session is active within the window, and the network enforces what was needed. -/
structure Delivered (x : Setting F T K) (m : Meanwhile) (need : ServiceNeed) (s : Stack T K) (signed : SignedOffer)
    (entitlementId : Int) (sessionId : String) (after : Stack T K) : Prop where
  room : (demand need : Int) ≤ s.ledger.available m.now (windowOf need)
  quoted : (decision need m.judgment).quote = true
  offer : x.signOffer m need (decision need m.judgment).priceTok = some signed
  price : (signed.offer.amount : Int) = (decision need m.judgment).priceTok * 10 ^ 18
  bought : ∃ timestamp w next, Bought x.client signed entitlementId timestamp s.world w next after.world
  owned : System.ownerOf x.deployment.toPlatform after.world.settlement entitlementId = .ok x.client.acct
  terms : (after.world.settlement.entitlements entitlementId.toNat).SameTerms signed.offer.onChain.entitlement
  unrevoked : (after.world.settlement.entitlements entitlementId.toNat).revoked = false
  window : need.window.start.toNat ≤ m.submittedAt ∧ m.submittedAt < need.window.end.toNat
  active : ∃ session, after.service.ActiveAt sessionId session ∧ session.entitlementId = entitlementId
  enforced : ∃ resolved, x.cfg.resourceMap (resourceOf need) = some resolved ∧
    EnforcedOn x.router after.service.net.state sessionId resolved need

/-- A translation is the call of the ticket's service on the ticket's resource. -/
theorem serviceCall_of_translate {sessionId : String} {view : EntitlementView}
    {resourceMap : Bytes32 → Option Controller.Resolved} {call : Controller.NetCall}
    (h : Controller.translate sessionId view resourceMap = .ok [call]) :
    ∃ resolved, resourceMap view.resourceId = some resolved ∧
      call = Controller.serviceCall sessionId view.params resolved := by
  rw [Controller.translate] at h
  split at h
  · cases h
  · rename_i resolved hresolved
    refine ⟨resolved, hresolved, ?_⟩
    split_ifs at h
    · rw [Controller.bandwidth] at h
      split at h
      · rename_i params hparams
        cases h
        rw [hparams]
        rfl
      · cases h
    · rw [Controller.telemetry] at h
      split at h
      · cases h
      · rename_i params hparams
        cases h
        rw [hparams]
        rfl

section Deal

variable {x : Setting F T K} {m : Meanwhile} {need : ServiceNeed} {s : Stack T K}

/-- What the controller has read at the submission is what the contract stores then. -/
theorem view_of_read {w : Settlement.World T K} {entitlementId : Int} {facts : Controller.Facts}
    (h : Controller.readFacts (x.exchange m w).submitted entitlementId = .ok facts) :
    System.ownerOf x.deployment.toPlatform (x.worldAtSubmit m w).settlement entitlementId = .ok facts.owner ∧
      facts.now = m.submittedAt ∧
      ∃ params, x.codec.decode ((x.worldAtSubmit m w).settlement.entitlements entitlementId.toNat).serviceType
          ((x.worldAtSubmit m w).settlement.entitlements entitlementId.toNat).params = some params ∧
        facts.view = System.viewOf (x.worldAtSubmit m w).settlement entitlementId params := by
  obtain ⟨hget, howner, hnow⟩ := Controller.readFacts_eq_ok h
  change (if m.submitReads.get then System.get x.deployment.toPlatform x.codec (x.worldAtSubmit m w).settlement
    entitlementId else _) = _ at hget
  change (if m.submitReads.ownerOf then System.ownerOf x.deployment.toPlatform (x.worldAtSubmit m w).settlement
    entitlementId else _) = _ at howner
  change (if m.submitReads.chainTime then Except.ok m.submittedAt else _) = _ at hnow
  split_ifs at hget howner hnow
  refine ⟨howner, (Except.ok.inj hnow).symm, ?_⟩
  rw [System.get, howner] at hget
  dsimp only at hget
  split at hget
  · cases hget
  · rename_i params hparams
    exact ⟨params, hparams, (Except.ok.inj hget).symm⟩

/-- What was checked and called at the submission, in the terms of the need. -/
theorem granted_of_activated {entitlementId : Int} {kind sessionId : String} {facts : Controller.Facts}
    {call : Controller.NetCall} {devices : Devices} {priceTok : Int} {signed : SignedOffer}
    (h : Activated x m s entitlementId kind sessionId facts call devices) (hlawful : x.router.unicode.Lawful)
    (hdecodes : x.Decodes need)
    (hsigned : x.signOffer m need priceTok = some signed)
    (hterms : ((x.worldAtSubmit m s.world).settlement.entitlements entitlementId.toNat).SameTerms
      signed.offer.onChain.entitlement) :
    System.ownerOf x.deployment.toPlatform (x.worldAtSubmit m s.world).settlement entitlementId = .ok x.client.acct ∧
      ((x.worldAtSubmit m s.world).settlement.entitlements entitlementId.toNat).revoked = false ∧
      need.window.start.toNat ≤ m.submittedAt ∧ m.submittedAt < need.window.end.toNat ∧
      ∃ resolved, x.cfg.resourceMap (resourceOf need) = some resolved ∧
        EnforcedOn x.router (x.activate m entitlementId kind s).2.service.net.state sessionId resolved need := by
  obtain ⟨howner, hnow, params, hparams, hview⟩ := view_of_read h.read
  obtain ⟨hdecoded, hresource, hstart, hend⟩ := entitlement_of_signed hsigned hdecodes
  obtain ⟨-, htype, hsameResource, hblob, hsameStart, hsameEnd, -⟩ := hterms
  rw [htype, hblob, hdecoded] at hparams
  obtain rfl := Option.some.inj hparams
  obtain ⟨-, hopen, hclosed, hunrevoked, -⟩ := Controller.predicate_eq_none.mp h.allowed
  obtain ⟨resolved, hresolved, rfl⟩ := serviceCall_of_translate h.translated
  obtain ⟨result, hcall, hok⟩ := h.called
  have hnetwork := h.network
  rw [hview, hnow] at hopen hclosed
  rw [hview] at hunrevoked hresolved hcall hnetwork
  change ((x.worldAtSubmit m s.world).settlement.entitlements entitlementId.toNat).startTime.toNat ≤ _ at hopen
  change _ < ((x.worldAtSubmit m s.world).settlement.entitlements entitlementId.toNat).endTime.toNat at hclosed
  change x.cfg.resourceMap ((x.worldAtSubmit m s.world).settlement.entitlements entitlementId.toNat).resourceId = _
    at hresolved
  rw [hsameStart, hstart] at hopen
  rw [hsameEnd, hend] at hclosed
  rw [hsameResource, hresource] at hresolved
  refine ⟨?_, hunrevoked, hopen, hclosed, resolved, hresolved, ?_⟩
  · rw [← h.owner]
    exact howner
  · rw [hnetwork]
    exact enforcedOn_of_call hlawful hcall hok

end Deal

/-- A deal that ends with a session has delivered. -/
theorem deal_delivers (x : Setting F T K) (hd : Skeleton.Reliable x.deployment) (hhonest : x.account.Honest x.cfg)
    (hlawful : x.router.unicode.Lawful) (m : Meanwhile) (need : ServiceNeed) (hdecodes : x.Decodes need) (budgetTok : Int)
    (s : Stack T K)
    (hreached : Reaches x.contracts (Settlement.World.deployed x.deployment) s.world) (hwired : x.Wired m s need)
    (hstrange : ∀ event ∈ m.purchase, x.client.Strange event)
    (hbetween : ∀ event ∈ m.between, event.op.nonce ≠ some m.drawn) (state : ConsumerState)
    (hdeal : (x.deal m need budgetTok s).1 = some state) (sessionId : String)
    (hsession : state.sessionId = some sessionId) :
    ∃ signed entitlementId, state.offer = some signed ∧ state.entitlementId = some entitlementId ∧
      accepted x.judge need budgetTok signed = true ∧
      Delivered x m need s signed entitlementId sessionId (x.deal m need budgetTok s).2 := by
  have hending := ending_of_run (x.tools m) x.judge need budgetTok s
  have hrun : runOver (x.tools m) x.judge need budgetTok s = x.deal m need budgetTok s := rfl
  rw [hrun] at hending
  generalize x.deal m need budgetTok s = outcome at hdeal hending ⊢
  cases hending with
  | noOffer hquote hunsold =>
      cases (hunsold state hdeal).2.symm.trans hsession
  | refused hquote hrefused hunsold =>
      cases (hunsold state hdeal).2.symm.trans hsession
  | unsettled hquote haccepted hsettle => cases hdeal
  | inactive hquote haccepted hsettle hactivate => cases hdeal
  | @served signed entitlementId sessionId' state' hquote haccepted hsettle hactivate hstate =>
      cases hdeal
      obtain ⟨hoffer, hid, hsession'⟩ := hstate
      obtain rfl : sessionId' = sessionId := Option.some.inj (hsession'.symm.trans hsession)
      refine ⟨signed, entitlementId, hoffer, hid, haccepted, ?_⟩
      obtain ⟨hroom, hquoted, hsigned⟩ := quote_signed hwired hquote
      obtain ⟨timestamp, w, next, hbought⟩ :=
        @bought_of_settled T K x.client signed s.world m.purchase entitlementId hd ((x.tools m).valid hquote) hstrange
          (minted_eq_some hsettle)
      have hkind : kindOf need = "bandwidth" ∨ kindOf need = "telemetry" := by
        cases need with
        | bandwidth need => exact Or.inl rfl
        | telemetry need => exact Or.inr rfl
      have hsmall : entitlementId.natAbs < 2 ^ 256 := by
        rw [hbought.id, Int.natAbs_natCast]
        exact hbought.buyable.ids
      obtain ⟨facts, call, devices, hactivated⟩ := activated_of_ok hhonest hbetween hkind hsmall hactivate
      have hlater : Reaches x.contracts next
          (x.worldAtSubmit m ((x.tools m).settle signed ((x.tools m).quote need s).2).2.world) :=
        hbought.left.trans ((reaches_history _ m.beforeChallenge).trans (reaches_history _ m.beforeSubmit))
      have hterms := hbought.terms hd.erc721 hreached hlater
      obtain ⟨howned, hunrevoked, hopen, hclosed, henforced⟩ :=
        granted_of_activated hactivated hlawful hdecodes hsigned hterms
      exact {
        room := hroom
        quoted := hquoted
        offer := hsigned
        price := amount_of_signed hsigned
        bought := ⟨timestamp, w, next, { hbought with left := hlater }⟩
        owned := howned
        terms := hterms
        unrevoked := hunrevoked
        window := ⟨hopen, hclosed⟩
        active := hactivated.session
        enforced := henforced }

/-- TOK is where the catalogue says, and 65 zeros recover to bell. -/
def labDeployment : Settlement.Deployment Settlement.Registry Settlement.Ledger :=
  { Settlement.smallDeployment with
    tok := TypedData.addressOf mockTok
    recover := fun _ signature => if signature = List.replicate 65 0 then some Settlement.bell else none }

theorem labDeployment_reliable : Skeleton.Reliable labDeployment where
  erc721 := Skeleton.reliable_small.erc721
  erc20 := Skeleton.reliable_small.erc20
  recover_ne_zero := by
    intro digest signature hrecover
    change (if signature = List.replicate 65 0 then some Settlement.bell else none) = some 0 at hrecover
    split_ifs at hrecover
    cases hrecover
  address_ne_zero := by decide

/-- Ada buys from bell. -/
def labSetting : Setting Unit Settlement.Registry Settlement.Ledger where
  python := jsonPython (fun _ => ()) fun _ => true
  detail := id
  provider := labChain
  client := .of labDeployment Settlement.ada Settlement.ada_ne_zero
  sign := fun _ => labSignature
  judge := none
  codec := System.abiCodec
  cfg := { accountConfig with resourceMap := System.neededConfig.resourceMap }
  router := labProvisioner

/-- Bell tries to take the ticket back, and somebody else asks for a challenge. -/
def labMeanwhile : Meanwhile where
  now := none
  judgment := none
  salt := word64 (23 : Uint256).toNat
  purchase := [.turn 5, .turn 6]
  beforeChallenge :=
    [(7, .entry ⟨Settlement.bell, Settlement.bell_ne_zero,
      .settlement (.transferFrom Settlement.ada Settlement.bell 1)⟩ [] true)]
  challengedAt := 10
  challengeReads := ⟨true, true, true⟩
  drawn := "0x01"
  between := labExchange.between
  beforeSubmit := []
  submittedAt := 20
  submitReads := ⟨true, true, true⟩
  redrawn := "0x03"
  faults := fun _ _ => none

/-- Ada has 25 TOK from the faucet. -/
def labStack : Stack Settlement.Registry Settlement.Ledger where
  ledger := .empty 1000000000
  world := (history labSetting.contracts (Settlement.World.deployed labDeployment)
    [(1, .entry ⟨Settlement.ada, Settlement.ada_ne_zero, .faucet Settlement.ada (25 * 10 ^ 18)⟩ [] true)]).1
  service := Controller.Service.start "bw-ctrl-1" fun _ => .empty

def labSold : SignedOffer := ⟨labChain.offerAt (labNeedOf 50000000) "10000000000000000000" labMeanwhile.salt, labSignature⟩

section Lab

theorem labSold_valid : labSold.offer.Valid :=
  (offerAt_valid_iff labChain_reliable (labNeedOf 50000000) _ (isBytes32Hex_word64 23)).mpr (by decide)

theorem labSold_amount : labSold.offer.amount = 10 * 10 ^ 18 := by decide +kernel

theorem signOffer_lab : labSetting.signOffer labMeanwhile (labNeedOf 50000000) 10 = some labSold := by
  obtain ⟨signed, hsigned⟩ := Option.isSome_iff_exists.mp
    ((signOffer_isSome_iff labChain_reliable (isBytes32Hex_word64 23) (labNeedOf 50000000) 10).mpr ⟨by decide, by decide⟩)
  have hsigned' : labSetting.signOffer labMeanwhile (labNeedOf 50000000) 10 = some signed := hsigned
  obtain ⟨-, ⟨signable, hsignature⟩, price, hprice, hoffer⟩ := offer_of_signed hsigned'
  have hten : strOf (10 * 10 ^ 18) = some "10000000000000000000" := by decide
  obtain rfl : price = "10000000000000000000" := Option.some.inj (hprice.symm.trans hten)
  have hsold : signed = labSold := by
    obtain ⟨offer, signature⟩ := signed
    exact congr (congrArg SignedOffer.mk hoffer) hsignature
  rw [hsigned', hsold]

theorem provided_lab : labSetting.provided labMeanwhile labStack (labNeedOf 50000000) =
    some (.signed ⟨labSold, [], labSold_valid, isSignature_labSignature⟩) :=
  provided_of_signed (by decide) rfl signOffer_lab labSold_valid isSignature_labSignature

theorem wired_lab : labSetting.Wired labMeanwhile labStack (labNeedOf 50000000) where
  asked := jsonPython_reads _ _ (writable_need ⟨JsonLoads.plain_of_all (by decide), JsonLoads.plain_of_all (by decide)⟩)
  answered := by
    intro answer hanswer
    rw [provided_lab] at hanswer
    cases hanswer
    exact jsonPython_reads _ _ (writable_signed rfl)

theorem quote_lab : (labSetting.quote labMeanwhile (labNeedOf 50000000) labStack).1 = some (.signed labSold) := by
  rw [quote_fst wired_lab, provided_lab]
  rfl

theorem settle_lab (s : Stack Settlement.Registry Settlement.Ledger) (hworld : s.world = labStack.world) :
    (labSetting.settle labMeanwhile labSold s).1 = some 1 := by
  have htok : TypedData.addressOf labSold.offer.paymentToken = labSetting.client.deployment.tok := rfl
  have hamount : labSold.offer.amount < 2 ^ 256 := by
    rw [labSold_amount]
    decide
  have hsignature : Hex.fromHex (TypedData.digitsOf labSold.signature) = some (List.replicate 65 0) := by decide +kernel
  have hread : labSold.offer.price.toList.length ≤ Decimal.maxStrDigits := by decide
  have hbuyable : Chain.Buyable labSetting.client labSold 6 s.world := {
    encodes := Chain.fulfillment_isSome rfl labSold_valid hamount hread hsignature
    redeemable := ⟨List.replicate 65 0, hsignature, (by decide : 6 ≤ (100 : Uint64).toNat),
      Or.inl (by decide +kernel : TypedData.addressOf openConsumer = 0), by decide +kernel⟩
    unused := by rw [hworld]; rfl
    covered := by rw [hworld, labSold_amount]; decide
    ids := by rw [hworld]; decide
    fresh := by rw [hworld]; rfl }
  have hstage := Chain.returned_of_buyable labDeployment_reliable labSold_valid htok hread 5 6 hbuyable
  have hpurchase : labMeanwhile.purchase = [.turn 5, .turn 6] := rfl
  rw [Setting.settle, settled, hpurchase]
  dsimp only
  rw [hstage, hworld]
  rfl

theorem account_lab : labSetting.account.Honest labSetting.cfg where
  recovers message := by
    have haddress : labAccount.address = labSetting.account.address := rfl
    have hrecover : labSetting.cfg.recover = accountConfig.recover := by rw [labSetting]
    rw [hrecover, ← haddress]
    exact labAccount_honest.recovers message
  signature _ := isSignature_labSignature

theorem activate_lab : (labSetting.activate labMeanwhile 1 "bandwidth"
    (labSetting.settle labMeanwhile labSold (labSetting.quote labMeanwhile (labNeedOf 50000000) labStack).2).2).1 =
      some "ent1-a0" := by
  decide +kernel

/-- Bell cannot take the ticket back, and what ada needs is policed. -/
theorem deal_delivers_lab :
    ∃ after : Stack Settlement.Registry Settlement.Ledger,
      Delivered labSetting labMeanwhile (labNeedOf 50000000) labStack labSold 1 "ent1-a0" after := by
  have hquote := quote_lab
  have hworld : (labSetting.quote labMeanwhile (labNeedOf 50000000) labStack).2.world = labStack.world := rfl
  have haccepted : accepted labSetting.judge (labNeedOf 50000000) 15 labSold = true :=
    (accepted_iff (labNeedOf 50000000) 15 labSold).mpr ⟨⟨by decide, by decide⟩, by rw [labSold_amount]; decide⟩
  obtain ⟨state, hdeal, hsold, hid, hsession⟩ := @served_of_calls _ (labSetting.tools labMeanwhile) labSetting.judge
    (labNeedOf 50000000) 15 labStack labSold 1 "ent1-a0" hquote haccepted (congrArg minted (settle_lab _ hworld))
    activate_lab
  obtain ⟨signed, entitlementId, hoffer, hbought, -, hdelivered⟩ := deal_delivers labSetting labDeployment_reliable
    account_lab GnmiProvisioner.labProvisioner_lawful labMeanwhile (labNeedOf 50000000)
    (decodes_bandwidth System.abiCodec_readsBandwidth _) 15 labStack
    (reaches_history _ _) wired_lab (by
      intro event hmem
      simp only [labMeanwhile, List.mem_cons, List.not_mem_nil, or_false] at hmem
      rcases hmem with rfl | rfl
      · trivial
      · trivial) labExchange_undisturbed.between state hdeal "ent1-a0" hsession
  cases hsold.symm.trans hoffer
  cases hid.symm.trans hbought
  exact ⟨_, hdelivered⟩

end Lab

end A2AProvisioning.Lifecycle
