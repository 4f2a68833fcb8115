import A2AProvisioning.AgentsOffers
import A2AProvisioning.ControllerEnforced
import A2AProvisioning.ControllerGate
import A2AProvisioning.SkeletonFakes
import A2AProvisioning.SystemIssuers

/-! From the need to the router. What was asked for goes into the offer as a hexadecimal blob, through the
contract as bytes, out of it by a decoder, and onto the ingress of the path as a policer in kbps. -/

namespace A2AProvisioning.System

open Reentrant Settlement Controller Network GnmiProvisioner

variable {T : Type}

/-- The decoder of the ABI reads what the ABI encodes. -/
def Codec.ReadsBandwidth (codec : Codec) : Prop :=
  ∀ params : BandwidthParams,
    codec.bandwidth (abiEncode [params.capacityBps.setWidth 256, params.qosClass.setWidth 256]) = some params

/-- The policer of a session sits on the ingress of the path, with one rate for the peak and the committed. -/
structure PolicedAt (devices : Devices) (sessionId : String) (path : ResolvedPath) (rateKbps : Nat) : Prop where
  template : ∃ template, (devices path.device).templates.get? (templateName sessionId) = some template ∧
    ∃ policer, template.policers.get? 1 = some policer ∧ policer.peakRateKbps = rateKbps ∧
      policer.committedRateKbps = rateKbps
  attached : (devices path.device).interfaces.get? (subif path) =
    some ⟨some (path.ingressIf, 0), some (templateName sessionId)⟩

/-- A ticket's id fits the contract's counter. -/
theorem id_lt_of_mem_mints (p : Platform T) (txs : List (Nat × Call Msg)) {mint : Mint}
    (hmem : mint ∈ mints (history (settlement p) (deployed p) txs).2) : mint.id < 2 ^ 256 := by
  obtain ⟨ch, hch, hmint⟩ := List.mem_filterMap.mp hmem
  have hfires := (history_chained (settlement p) (deployed p) txs).2 ch hch
  obtain ⟨timestamp, s, half, next⟩ := ch
  unfold mintOf at hmint
  split at hmint
  · cases hmint
  · rename_i sender hsender offer signature hhalf
    cases hmint
    cases hhalf
    have hissue : issue p sender offer.entitlement s = .ok next := hfires.2
    obtain ⟨token, -, hnext⟩ := issue_eq_ok hissue
    rw [issue] at hissue
    split_ifs at hissue with hlast
    rw [hnext]
    exact hlast
  · cases hmint

/-- A ticket reads as its offer, for as long as the contract lives. -/
theorem get_of_mint (p : Platform T) (hspec : p.erc721.Spec) (codec : Codec) (txs : List (Nat × Call Msg)) {mint : Mint}
    (hmem : mint ∈ mints (history (settlement p) (deployed p) txs).2) {params : ServiceParams}
    (hparams : codec.decode mint.offer.serviceType mint.offer.params = some params) :
    ∃ view, get p codec (history (settlement p) (deployed p) txs).1 mint.id = .ok view ∧ view.params = params ∧
      view.serviceType = mint.offer.serviceType ∧ view.resourceId = mint.offer.resourceId ∧
      view.startTime = mint.offer.startTime ∧ view.endTime = mint.offer.endTime := by
  have hbooks := books_history hspec txs
  have hid : mint.id ∈ (mints (history (settlement p) (deployed p) txs).2).map Mint.id := List.mem_map_of_mem hmem
  rw [hbooks.ids, List.mem_range'_1] at hid
  have howned := (hbooks.owned mint.id).mpr (by omega)
  have hlt := id_lt_of_mem_mints p txs hmem
  obtain ⟨-, htype, hresource, hblob, hstart, hend, -⟩ := hbooks.terms mint hmem
  set s := (history (settlement p) (deployed p) txs).1
  have howner : ownerOf p s mint.id = .ok (p.erc721.owner s.token mint.id) := by
    rw [ownerOf, if_pos ⟨by omega, by omega⟩]
    exact if_neg howned
  have hdecode : codec.decode (s.entitlements mint.id).serviceType (s.entitlements mint.id).params = some params := by
    rw [htype, hblob]
    exact hparams
  have hget : get p codec s mint.id = .ok ⟨mint.id, (s.entitlements mint.id).issuer, (s.entitlements mint.id).serviceType,
      (s.entitlements mint.id).resourceId, params, (s.entitlements mint.id).startTime, (s.entitlements mint.id).endTime,
      (s.entitlements mint.id).revoked, (s.entitlements mint.id).termsHash⟩ := by
    rw [get, howner]
    dsimp only
    rw [Int.toNat_natCast, hdecode]
  exact ⟨_, hget, rfl, htype, hresource, hstart, hend⟩

/-- An activation that succeeds has made one call, which went well. -/
theorem activate_ok {N : Type} {cfg : Config} {net : Provisioner N} {c : Service N} {chain : Reader} {entitlementId : Int}
    {actionKind nonce signature : String} {info : SessionInfo}
    (h : (c.activate cfg net chain entitlementId actionKind nonce signature).1 = .ok info) :
    ∃ facts plan call result, readFacts chain entitlementId = .ok facts ∧
      Granted cfg c facts entitlementId actionKind nonce signature plan ∧ plan.calls = [call] ∧
      info.sessionId = plan.sessionId ∧ (net.call call c.net.state).1 = some result ∧ result.ok = true ∧
      (c.activate cfg net chain entitlementId actionKind nonce signature).2.net.state =
        (net.call call c.net.state).2 := by
  simp only [Service.activate] at h ⊢
  split at h
  · cases h
  · rename_i facts hfacts
    split at h
    · cases h
    · rename_i plan next hauthorize
      obtain ⟨hgranted, rfl⟩ := authorize_ok hauthorize
      obtain ⟨call, hcalls, -, -⟩ := translate_eq_ok hgranted.calls
      simp only [hcalls, applyCalls_single] at h ⊢
      set applied := { c with
        auth := c.auth.burn nonce
        seq := c.seq + 1
        net := (c.net.invoke net call).2 } with happlied
      have hanswer := record_answer net applied hgranted.state ((c.net.invoke net call).1.map ApplyResult.ok)
      rw [h] at hanswer
      cases hresult : (net.call call c.net.state).1 with
      | none =>
          rw [Net.invoke, hresult] at hanswer
          cases hanswer
      | some result =>
          rw [Net.invoke, hresult, Option.map_some] at hanswer
          cases hok : result.ok with
          | false =>
              rw [hok] at hanswer
              dsimp only at hanswer
              split at hanswer
              · cases hanswer
              · cases hanswer
          | true =>
              rw [hok] at hanswer
              cases hanswer
              refine ⟨facts, plan, call, result, hfacts, hgranted, hcalls, rfl, hresult, hok, ?_⟩
              rw [Net.invoke, hresult, Option.map_some, hok, Service.record, hgranted.state]
              rfl

/-- A bandwidth call that goes well leaves a policer of its rate on the ingress of its path. -/
theorem policedAt_of_call {g : GnmiProvisioner} {faults : NetCall → Devices → Option (String × Devices)}
    {sessionId : String} {path : ResolvedPath} {capacityBps qosClass : Nat} {devices : Devices} {result : ApplyResult}
    (hcall : ((g.unreliable faults).call (.applyBandwidth sessionId (.path path) capacityBps qosClass) devices).1 =
      some result) (hok : result.ok = true) :
    PolicedAt ((g.unreliable faults).call (.applyBandwidth sessionId (.path path) capacityBps qosClass) devices).2
      sessionId path (rateKbps capacityBps) := by
  simp only [unreliable, provisioner, applyBandwidth] at hcall ⊢
  by_cases hmem : path.device ∈ g.targets
  · simp only [if_pos hmem] at hcall ⊢
    cases hfault : faults (.applyBandwidth sessionId (.path path) capacityBps qosClass) devices with
    | some fault =>
        rw [hfault] at hcall
        cases hcall
        cases hok
    | none =>
        obtain ⟨template, htemplate, hpolicer⟩ :=
          (devices path.device).exists_policer_updateTemplate (templateName sessionId) (policer capacityBps)
        refine ⟨⟨template, ?_, policer capacityBps, hpolicer, rfl, rfl⟩, ?_⟩
        · dsimp only
          rw [Function.update_self]
          exact htemplate
        · dsimp only
          rw [Function.update_self, Device.updateInterface, OrderedDict.get?_insert, if_pos rfl]
  · simp only [if_neg hmem] at hcall
    cases hfault : faults (.applyBandwidth sessionId (.path path) capacityBps qosClass) devices with
    | some fault =>
        rw [hfault] at hcall
        cases hcall
        cases hok
    | none =>
        rw [hfault] at hcall
        cases hcall
        cases hok

/-- The rate is the capacity in kbps, rounded down, but never zero. -/
theorem rateKbps_spec (capacityBps : Nat) :
    (1000 ≤ capacityBps → 1000 * rateKbps capacityBps ≤ capacityBps ∧ capacityBps < 1000 * (rateKbps capacityBps + 1)) ∧
      (capacityBps < 1000 → rateKbps capacityBps = 1) := by
  unfold rateKbps
  omega

/-! ### From the need to the policer -/

section Pipeline

variable (p : Platform T) (hspec : p.erc721.Spec) (codec : Codec) (hcodec : codec.ReadsBandwidth)
  (txs : List (Nat × Call Msg)) (tools : Agents.ChainProviderTools) (need : BandwidthNeed) (priceTok : Nat)
  (salt : String) (offer : Offer) (hoffer : tools.offerFor (.bandwidth need) priceTok salt = some offer)

include hoffer in
theorem draft_of_offerFor : offer = tools.draft (.bandwidth need) priceTok salt ∧ offer.Valid := by
  rw [Agents.ChainProviderTools.offerFor] at hoffer
  split_ifs at hoffer with hvalid
  cases hoffer
  exact ⟨rfl, hvalid⟩

include hspec hcodec hoffer in
/-- A ticket that was sold for the offer of a need can be read, and says what was needed. -/
theorem get_of_need {mint : Mint} (hmem : mint ∈ mints (history (settlement p) (deployed p) txs).2)
    (hsold : (Signing.offerTuple offer).bind Signing.calldata = some mint.offer) :
    ∃ view, get p codec (history (settlement p) (deployed p) txs).1 mint.id = .ok view ∧
      view.params = .bandwidth ⟨need.capacityBps, need.qosClass⟩ ∧ view.serviceType = 0 ∧
      view.resourceId = offer.onChain.resourceId ∧ view.startTime = need.window.start ∧
      view.endTime = need.window.end := by
  obtain ⟨hdraft, hvalid⟩ := draft_of_offerFor tools need priceTok salt offer hoffer
  obtain ⟨hchain, -⟩ := Signing.eq_onChain_of_calldata hvalid hsold
  have hparams : codec.decode mint.offer.serviceType mint.offer.params =
      some (.bandwidth ⟨need.capacityBps, need.qosClass⟩) := by
    have htype : mint.offer.serviceType = 0 := by
      rw [hchain, hdraft]
      rfl
    have hblob : mint.offer.params = abiEncode [need.capacityBps.setWidth 256, need.qosClass.setWidth 256] := by
      have hparams : offer.params = Agents.bandwidthParams need := by
        rw [hdraft]
        rfl
      rw [hchain, ← Agents.bytesOf_bandwidthParams, ← hparams]
      rfl
    rw [Codec.decode, if_pos htype, hblob, hcodec ⟨need.capacityBps, need.qosClass⟩]
    rfl
  obtain ⟨view, hget, hview, htype, hresource, hstart, hend⟩ := get_of_mint p hspec codec txs hmem hparams
  refine ⟨view, hget, hview, ?_, ?_, ?_, ?_⟩
  · rw [htype, hchain, hdraft]
    rfl
  · rw [hresource, hchain]
  · rw [hstart, hchain, hdraft]
    rfl
  · rw [hend, hchain, hdraft]
    rfl

end Pipeline

/-- What was sold for a need is what its activation enforces: the rate in kbps, rounded down, is never more
than the capacity, except that a capacity under one kbps is enforced as one. -/
theorem enforced_rate_of_need (p : Platform T) (hspec : p.erc721.Spec) (codec : Codec) (hcodec : codec.ReadsBandwidth)
    (txs : List (Nat × Call Msg)) (tools : Agents.ChainProviderTools) (need : BandwidthNeed) (priceTok : Nat)
    (salt : String) (offer : Offer) (hoffer : tools.offerFor (.bandwidth need) priceTok salt = some offer) (mint : Mint)
    (hmem : mint ∈ mints (history (settlement p) (deployed p) txs).2)
    (hsold : (Signing.offerTuple offer).bind Signing.calldata = some mint.offer) :
    (∃ view, get p codec (history (settlement p) (deployed p) txs).1 mint.id = .ok view ∧
      view.params = .bandwidth ⟨need.capacityBps, need.qosClass⟩ ∧ view.startTime = need.window.start ∧
      view.endTime = need.window.end) ∧
    Skeleton.decodeBandwidthParams offer.params = some ⟨need.capacityBps, need.qosClass⟩ ∧
    ∀ (cfg : Config) (g : GnmiProvisioner) (faults : NetCall → Devices → Option (String × Devices))
      (c : Service Devices) (path : ResolvedPath) (timestamp : Nat) (answered : Answered)
      (actionKind nonce signature : String) (info : SessionInfo),
      cfg.resourceMap offer.onChain.resourceId = some (.path path) →
        (c.activate cfg (g.unreliable faults)
          (reader p codec (history (settlement p) (deployed p) txs).1 timestamp answered) mint.id actionKind nonce
          signature).1 = .ok info →
          ∃ r, PolicedAt (c.activate cfg (g.unreliable faults)
              (reader p codec (history (settlement p) (deployed p) txs).1 timestamp answered) mint.id actionKind nonce
              signature).2.net.state info.sessionId path r ∧
            (1000 ≤ need.capacityBps.toNat →
              1000 * r ≤ need.capacityBps.toNat ∧ need.capacityBps.toNat < 1000 * (r + 1)) ∧
            (need.capacityBps.toNat < 1000 → r = 1) := by
  obtain ⟨view, hget, hparams, htype, hresource, hstart, hend⟩ :=
    get_of_need p hspec codec hcodec txs tools need priceTok salt offer hoffer hmem hsold
  obtain ⟨hdraft, hvalid⟩ := draft_of_offerFor tools need priceTok salt offer hoffer
  refine ⟨⟨view, hget, hparams, hstart, hend⟩, ?_, ?_⟩
  · apply Skeleton.decodeBandwidthParams_eq hvalid.params
    rw [hdraft]
    exact Agents.bytesOf_bandwidthParams need
  · intro cfg g faults c path timestamp answered actionKind nonce signature info hpath hactivate
    obtain ⟨facts, plan, call, result, hfacts, hgranted, hcalls, hid, hcall, hok, hstate⟩ := activate_ok hactivate
    have hview : facts.view = view := by
      have hread := (readFacts_eq_ok hfacts).1
      change (if answered.get then _ else _) = _ at hread
      split_ifs at hread
      exact Except.ok.inj (hread.symm.trans hget)
    have htranslated := hgranted.calls
    rw [hcalls, hview, Controller.translate, hresource, hpath] at htranslated
    dsimp only at htranslated
    rw [if_pos htype, bandwidth, hparams] at htranslated
    cases htranslated
    rw [hstate, hid]
    exact ⟨rateKbps need.capacityBps.toNat, policedAt_of_call hcall hok, rateKbps_spec _⟩

/-- The two words of a blob. -/
def abiCodec : Codec where
  bandwidth := fun bytes =>
    let capacityBps := Hex.bigEndian (bytes.take 32)
    let qosClass := Hex.bigEndian (bytes.drop 32)
    if capacityBps < 2 ^ 64 ∧ qosClass < 2 ^ 8 then some ⟨BitVec.ofNat 64 capacityBps, BitVec.ofNat 8 qosClass⟩ else none
  telemetry := fun _ => none

theorem abiCodec_readsBandwidth : abiCodec.ReadsBandwidth := by
  intro params
  have hcapacity : (params.capacityBps.setWidth 256).toNat = params.capacityBps.toNat :=
    BitVec.toNat_setWidth_of_le (by omega)
  have hqos : (params.qosClass.setWidth 256).toNat = params.qosClass.toNat := BitVec.toNat_setWidth_of_le (by omega)
  rw [abiEncode_pair, abiCodec]
  dsimp only
  rw [List.take_left' (word_length _), List.drop_left' (word_length _), Skeleton.toNat_bigEndian_word,
    Skeleton.toNat_bigEndian_word, hcapacity, hqos, if_pos ⟨params.capacityBps.isLt, params.qosClass.isLt⟩,
    BitVec.ofNat_toNat, BitVec.ofNat_toNat, BitVec.setWidth_eq, BitVec.setWidth_eq]

def labNeed (capacityBps : Uint64) : BandwidthNeed := ⟨"hostA", "hostB", capacityBps, 0, ⟨0, 100⟩⟩

def labTools : Agents.ChainProviderTools := ⟨"0x000000000000000000000000000000000000000b", fun _ => "0x"⟩

def labSalt : String := Agents.word64 23

def neededOffer (capacityBps : Uint64) : Offer := labTools.draft (.bandwidth (labNeed capacityBps)) 10 labSalt

/-- What the contract gets for it. -/
def neededTerms (capacityBps : Uint64) : Settlement.Offer where
  provider := bell
  consumer := 0
  serviceType := 0
  resourceId := 7
  params := abiEncode [capacityBps.setWidth 256, 0]
  startTime := 0
  endTime := 100
  paymentToken := 0x5FbDB2315678afecb367f032d93F642f64180aa3
  price := 10000000000000000000
  validUntil := 100
  salt := 23
  termsHash := 0x2222222222222222222222222222222222222222222222222222222222222222

def neededMint (capacityBps : Uint64) : Mint := ⟨1, neededTerms capacityBps, [1], ada, 5⟩

/-- Ada redeems it at time 5. -/
def neededSale (capacityBps : Uint64) : List (Nat × Call Msg) :=
  [(5, .entry ⟨ada, ada_ne_zero, .fulfill (neededTerms capacityBps) [1]⟩ [] true)]

def neededConfig : Config :=
  { labConfig with resourceMap := fun resourceId => if resourceId = 7 then some (.path labPath) else none }

/-- A service that has just challenged for the ticket. -/
def neededService : Service Devices :=
  { Service.start "bw-ctrl-1" fun _ => .empty with
    auth := ⟨"bw-ctrl-1", OrderedDict.empty.insert "0x01" (1, 310)⟩ }

def neededActivation (capacityBps : Uint64) : Except Controller.Failure SessionInfo × Service Devices :=
  neededService.activate neededConfig (labProvisioner.unreliable fun _ _ => none)
    (reader labPlatform abiCodec (history (settlement labPlatform) (deployed labPlatform) (neededSale capacityBps)).1
      10 ⟨true, true, true⟩) (neededMint capacityBps).id "bandwidth" "0x01" (labProof "0x01" 1 310)

section Needed

variable (capacityBps : Uint64)

theorem neededOffer_valid : (neededOffer capacityBps).Valid :=
  Agents.draft_valid (by decide) (labNeed capacityBps) 10 (Agents.isBytes32Hex_word64 23)

theorem offerFor_needed :
    labTools.offerFor (.bandwidth (labNeed capacityBps)) 10 labSalt = some (neededOffer capacityBps) :=
  if_pos (neededOffer_valid capacityBps)

theorem price_needed : (neededOffer capacityBps).price = "10000000000000000000" := by
  show toString (10 * 10 ^ 18) = "10000000000000000000"
  decide

theorem onChain_needed : (neededOffer capacityBps).onChain = neededTerms capacityBps := by
  have hprovider : TypedData.addressOf labTools.address = bell := by decide
  have hconsumer : TypedData.addressOf Agents.openConsumer = 0 := by decide
  have htoken : TypedData.addressOf Agents.mockTok = 0x5FbDB2315678afecb367f032d93F642f64180aa3 := by decide
  have hterms : BitVec.ofNat 256 (Hex.bigEndian (Hex.bytesOf (TypedData.digitsOf Agents.termsHash))) =
      (0x2222222222222222222222222222222222222222222222222222222222222222 : Bytes32) := by decide +kernel
  have hamount : (neededOffer capacityBps).amount = 10000000000000000000 := by
    rw [Offer.amount, price_needed]
    decide
  have hparams := Agents.bytesOf_bandwidthParams (labNeed capacityBps)
  rw [Offer.onChain, hamount]
  change Settlement.Offer.mk (TypedData.addressOf labTools.address) (TypedData.addressOf Agents.openConsumer) 0
    (BitVec.ofNat 256 (Hex.bigEndian (Hex.bytesOf (TypedData.digitsOf (Agents.word64 (7 : Uint256).toNat)))))
    (Hex.bytesOf (TypedData.digitsOf (Agents.bandwidthParams (labNeed capacityBps)))) 0 100
    (TypedData.addressOf Agents.mockTok) (BitVec.ofNat 256 10000000000000000000) 100
    (BitVec.ofNat 256 (Hex.bigEndian (Hex.bytesOf (TypedData.digitsOf (Agents.word64 (23 : Uint256).toNat)))))
    (BitVec.ofNat 256 (Hex.bigEndian (Hex.bytesOf (TypedData.digitsOf Agents.termsHash)))) = _
  rw [hprovider, hconsumer, htoken, hterms, hparams, Agents.bigEndian_word64, Agents.bigEndian_word64]
  rfl

theorem calldata_needed :
    (Signing.offerTuple (neededOffer capacityBps)).bind Signing.calldata = some (neededMint capacityBps).offer := by
  have hamount : (neededOffer capacityBps).amount < 2 ^ 256 := by
    rw [Offer.amount, price_needed]
    decide
  rw [Signing.offerTuple_eq (neededOffer_valid capacityBps) hamount, price_needed, onChain_needed]
  rfl

end Needed

theorem enforced_rate_of_need_fifty :
    ∃ r, PolicedAt (neededActivation 50000000).2.net.state "ent1-a0" labPath r ∧ 1000 * r ≤ 50000000 ∧
      50000000 < 1000 * (r + 1) := by
  have hmem : neededMint 50000000 ∈
      mints (history (settlement labPlatform) (deployed labPlatform) (neededSale 50000000)).2 := by
    have hmints : mints (history (settlement labPlatform) (deployed labPlatform) (neededSale 50000000)).2 =
      [neededMint 50000000] := rfl
    rw [hmints]
    exact List.mem_cons_self
  obtain ⟨-, -, h⟩ := enforced_rate_of_need labPlatform Registry.erc721_spec abiCodec abiCodec_readsBandwidth
    (neededSale 50000000) labTools (labNeed 50000000) 10 labSalt (neededOffer 50000000) (offerFor_needed 50000000)
    (neededMint 50000000) hmem (calldata_needed 50000000)
  have hpath : neededConfig.resourceMap (neededOffer 50000000).onChain.resourceId = some (.path labPath) := by
    rw [onChain_needed]
    rfl
  obtain ⟨r, hpoliced, hrate, -⟩ := h neededConfig labProvisioner (fun _ _ => none) neededService labPath 10
    ⟨true, true, true⟩ "bandwidth" "0x01" (labProof "0x01" 1 310) ⟨"ent1-a0", 1, .active, 10, 100⟩ hpath
    (by decide +kernel)
  exact ⟨r, hpoliced, hrate (by decide)⟩

/-- 500 bits per second are sold, and a thousand are let through. -/
theorem tiny_need_gets_more :
    labTools.offerFor (.bandwidth (labNeed 500)) 10 labSalt = some (neededOffer 500) ∧
      (Signing.offerTuple (neededOffer 500)).bind Signing.calldata = some (neededMint 500).offer ∧
      mints (history (settlement labPlatform) (deployed labPlatform) (neededSale 500)).2 = [neededMint 500] ∧
      (neededActivation 500).1 = .ok ⟨"ent1-a0", 1, .active, 10, 100⟩ ∧
      ¬ ∃ r, PolicedAt (neededActivation 500).2.net.state "ent1-a0" labPath r ∧ 1000 * r ≤ 500 ∧
        500 < 1000 * (r + 1) := by
  refine ⟨offerFor_needed 500, calldata_needed 500, rfl, by decide +kernel, ?_⟩
  rintro ⟨r, ⟨⟨template, htemplate, policer, hpolicer, hpeak, -⟩, -⟩, hle, -⟩
  have hwritten : (((neededActivation 500).2.net.state labPath.device).templates.get? (templateName "ent1-a0")).bind
      (fun template => template.policers.get? 1) = some ⟨1, 1, burstBytes, burstBytes⟩ := by decide +kernel
  rw [htemplate, Option.bind_some, hpolicer] at hwritten
  cases hwritten
  subst hpeak
  exact absurd hle (by decide)

end A2AProvisioning.System
