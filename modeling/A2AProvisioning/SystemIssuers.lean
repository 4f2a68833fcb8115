import A2AProvisioning.ControllerSessions
import A2AProvisioning.NetworkProvisioner
import A2AProvisioning.SettlementTickets
import A2AProvisioning.LibraryMachine

/-! The settlement contract and a controller that reads it. Every session comes from a ticket that
`fulfill` issued, over a resource of the controller's map, and whoever signed the offer is its issuer; the
controller does not ask who that is. -/

namespace A2AProvisioning.System

open Machine Reentrant Settlement Controller Network

/-- The decoders of the two kinds of parameters; `none` where they raise. -/
structure Codec where
  bandwidth : Bytes → Option BandwidthParams
  telemetry : Bytes → Option TelemetryParams

def Codec.decode (codec : Codec) (serviceType : Uint8) (params : Bytes) : Option ServiceParams :=
  if serviceType = 0 then (codec.bandwidth params).map .bandwidth
  else if serviceType = 1 then (codec.telemetry params).map .telemetry
  else none

section Reader

variable {T : Type} (p : Platform T) (codec : Codec) (s : Storage T)

/-- `ownerOf` reverts for an id without an owner; an argument that is no `uint256` is not sent. -/
def ownerOf (entitlementId : Int) : Except ReadError Address :=
  if 0 ≤ entitlementId ∧ entitlementId < 2 ^ 256 then
    if p.erc721.owner s.token entitlementId.toNat = 0 then .error .keyError
    else .ok (p.erc721.owner s.token entitlementId.toNat)
  else .error .rpcError

def get (entitlementId : Int) : Except ReadError EntitlementView :=
  match ownerOf p s entitlementId with
  | .error err => .error err
  | .ok _ =>
      let entitlement := s.entitlements entitlementId.toNat
      match codec.decode entitlement.serviceType entitlement.params with
      | none => .error .rpcError
      | some params =>
          .ok ⟨entitlementId, entitlement.issuer, entitlement.serviceType, entitlement.resourceId, params,
            entitlement.startTime, entitlement.endTime, entitlement.revoked, entitlement.termsHash⟩

/-- Which reads of an operation are answered. -/
structure Answered where
  get : Bool
  ownerOf : Bool
  chainTime : Bool

def reader (timestamp : Nat) (answered : Answered) : Reader where
  get := fun entitlementId => if answered.get then System.get p codec s entitlementId else .error .rpcError
  ownerOf := fun entitlementId => if answered.ownerOf then System.ownerOf p s entitlementId else .error .rpcError
  chainTime := if answered.chainTime then .ok timestamp else .error .rpcError

end Reader

/-! ### The system -/

/-- An operation of the service, but for its reader. -/
inductive Task
  | request (request : Controller.Request)
  | teardown (sessionId : String)
  | tick
  | handleRevoked (entitlementId : Int)

def Task.op (reader : Reader) : Task → Op
  | .request req => .request reader req
  | .teardown sessionId => .teardown sessionId
  | .tick => .tick reader
  | .handleRevoked entitlementId => .handleRevoked reader entitlementId

inductive Action
  | transact (timestamp : Nat) (call : Call Msg)
  | perform (timestamp : Nat) (answered : Answered) (task : Task)

/-- `log` is the history of the contract so far. -/
structure State (T N : Type) where
  storage : Storage T
  log : Log T
  service : Service N

variable {T N : Type}

def start (p : Platform T) (controllerId : String) (n : N) : State T N :=
  ⟨deployed p, [], Service.start controllerId n⟩

def step (p : Platform T) (codec : Codec) (cfg : Config) (net : Provisioner N) (s : State T N) :
    Action → Option (State T N)
  | .transact timestamp call =>
      let result := Reentrant.transact (settlement p) timestamp call s.storage
      some { s with
        storage := result.1
        log := s.log ++ result.2 }
  | .perform timestamp answered task =>
      some { s with service := s.service.perform cfg net (task.op (reader p codec s.storage timestamp answered)) }

/-- A ticket for the entitlement was issued, its issuer is the account that its offer's signature recovers
to, and the controller knows its resource. -/
def Sold (p : Platform T) (cfg : Config) (s : State T N) (entitlementId : Int) : Prop :=
  ∃ mint ∈ mints s.log, entitlementId = mint.id ∧
    p.recover (p.hashOffer mint.offer) mint.signature = some (s.storage.entitlements mint.id).issuer ∧
    (cfg.resourceMap (s.storage.entitlements mint.id).resourceId).isSome

/-- The invariant: the contract has its history, and every session a ticket. -/
structure Ticketed (p : Platform T) (cfg : Config) (s : State T N) : Prop where
  history : ∃ txs, history (settlement p) (deployed p) txs = (s.storage, s.log)
  ticket : ∀ sessionId session, s.service.sessions.get? sessionId = some session →
    ∃ mint ∈ mints s.log, session.entitlementId = mint.id ∧ (cfg.resourceMap mint.offer.resourceId).isSome

section Step

variable {p : Platform T} {codec : Codec} {cfg : Config} {net : Provisioner N} {s : State T N}

theorem Ticketed.books (hspec : p.erc721.Spec) (h : Ticketed p cfg s) : Books p [] s.log s.storage := by
  obtain ⟨txs, heq⟩ := h.history
  have hbooks := books_history hspec txs
  rw [heq] at hbooks
  exact hbooks

theorem Ticketed.sold (hspec : p.erc721.Spec) (h : Ticketed p cfg s) {sessionId : String} {session : Session}
    (hget : s.service.sessions.get? sessionId = some session) : Sold p cfg s session.entitlementId := by
  obtain ⟨mint, hmem, hid, hresource⟩ := h.ticket sessionId session hget
  have hbooks := h.books hspec
  obtain ⟨hissuer, -, hterms, -⟩ := hbooks.terms mint hmem
  refine ⟨mint, hmem, hid, ?_, ?_⟩
  · rw [hissuer]
    exact (hbooks.redeemed mint hmem).signer
  · rw [hterms]
    exact hresource

theorem Ticketed.transact (h : Ticketed p cfg s) (timestamp : Nat) (call : Call Msg) :
    Ticketed p cfg { s with
      storage := (Reentrant.transact (settlement p) timestamp call s.storage).1
      log := s.log ++ (Reentrant.transact (settlement p) timestamp call s.storage).2 } where
  history := by
    obtain ⟨txs, heq⟩ := h.history
    refine ⟨txs ++ [(timestamp, call)], ?_⟩
    rw [history_append, heq]
    simp only [Reentrant.history, List.append_nil]
  ticket := by
    intro sessionId session hget
    obtain ⟨mint, hmem, hmint⟩ := h.ticket sessionId session hget
    refine ⟨mint, ?_, hmint⟩
    rw [mints, List.filterMap_append]
    exact List.mem_append_left _ hmem

theorem ownerOf_eq_ok {storage : Storage T} {entitlementId : Int} {owner : Address}
    (h : ownerOf p storage entitlementId = .ok owner) :
    ∃ id : Nat, entitlementId = id ∧ owner = p.erc721.owner storage.token id ∧ owner ≠ 0 := by
  rw [ownerOf] at h
  split_ifs at h with hrange howner
  cases h
  exact ⟨entitlementId.toNat, (Int.toNat_of_nonneg hrange.1).symm, rfl, howner⟩

/-- A view comes from a ticket. -/
theorem ticket_of_get (hspec : p.erc721.Spec) (h : Ticketed p cfg s) {entitlementId : Int} {view : EntitlementView}
    (hget : get p codec s.storage entitlementId = .ok view) :
    ∃ mint ∈ mints s.log, entitlementId = mint.id ∧ view.resourceId = mint.offer.resourceId := by
  have hbooks := h.books hspec
  rw [get] at hget
  split at hget
  · cases hget
  · rename_i owner howner
    obtain ⟨id, rfl, rfl, howned⟩ := ownerOf_eq_ok howner
    have hid : id ∈ (mints s.log).map Mint.id := by
      have hrange := (hbooks.owned id).mp howned
      rw [hbooks.ids, List.mem_range'_1]
      omega
    obtain ⟨mint, hmem, rfl⟩ := List.mem_map.mp hid
    dsimp only at hget
    split at hget
    · cases hget
    · cases hget
      exact ⟨mint, hmem, rfl, (hbooks.terms mint hmem).2.2.1⟩

theorem resourceMap_of_translate {sessionId : String} {view : EntitlementView}
    {resourceMap : Bytes32 → Option Resolved} {calls : List NetCall}
    (h : Controller.translate sessionId view resourceMap = .ok calls) :
    (resourceMap view.resourceId).isSome := by
  rw [Controller.translate] at h
  split at h
  · cases h
  · rename_i resolved hresolved
    rw [hresolved]
    rfl

/-- The reader of an activation is the one of its task. -/
theorem activate_of_op {task : Task} {chain : Reader} (h : (task.op chain).isActivate = true) :
    ∃ entitlementId actionKind nonce signature,
      task.op chain = .request chain (.activate entitlementId actionKind nonce signature) := by
  cases task with
  | request request =>
      cases request with
      | activate entitlementId actionKind nonce signature => exact ⟨_, _, _, _, rfl⟩
      | challenge entitlementId nonce => cases h
      | teardownRequested sessionId nonce signature => cases h
      | session sessionId => cases h
  | teardown sessionId => cases h
  | tick => cases h
  | handleRevoked entitlementId => cases h

/-- An activation makes a session for the entitlement whose view it has read; nothing else makes one. -/
theorem Ticketed.perform (hspec : p.erc721.Spec) (h : Ticketed p cfg s) (timestamp : Nat) (answered : Answered)
    (task : Task) :
    Ticketed p cfg { s with
      service := s.service.perform cfg net (task.op (reader p codec s.storage timestamp answered)) } where
  history := h.history
  ticket := by
    intro sessionId session hget
    cases hop : (task.op (reader p codec s.storage timestamp answered)).isActivate with
    | false =>
        obtain ⟨session', hget', hid⟩ := (perform_settles hop).entries sessionId session hget
        obtain ⟨mint, hmem, hmint⟩ := h.ticket sessionId session' hget'
        exact ⟨mint, hmem, hid.trans hmint.1, hmint.2⟩
    | true =>
        obtain ⟨entitlementId, actionKind, nonce, signature, heq⟩ := activate_of_op hop
        simp only [heq, Service.perform] at hget
        obtain ⟨-, hsame | ⟨facts, plan, state, hfacts, hgranted, -, -, hentry⟩⟩ := activate_sessions cfg net s.service
          entitlementId actionKind nonce signature (reader p codec s.storage timestamp answered)
        · exact h.ticket sessionId session (hsame ▸ hget)
        · rw [hentry] at hget
          simp only [Service.insertSession, OrderedDict.get?_insert] at hget
          split_ifs at hget
          · cases hget
            have hview := (readFacts_eq_ok hfacts).1
            rw [reader] at hview
            dsimp only at hview
            split_ifs at hview
            obtain ⟨mint, hmem, hid, hresource⟩ := ticket_of_get hspec h hview
            exact ⟨mint, hmem, hgranted.entitlementId.trans hid,
              hresource ▸ resourceMap_of_translate hgranted.calls⟩
          · exact h.ticket sessionId session hget

end Step

/-- In every run, whatever is sold on the chain, an active session belongs to a ticket whose issuer signed
the offer behind it, over a resource of the map. -/
theorem active_sessions_are_sold (p : Platform T) (hspec : p.erc721.Spec) (codec : Codec) (cfg : Config)
    (net : Provisioner N) (controllerId : String) (n : N) (actions : List Action) (s : State T N)
    (hrun : run (step p codec cfg net) (start p controllerId n) actions = some s) :
    ∀ sessionId session, s.service.ActiveAt sessionId session → Sold p cfg s session.entitlementId := by
  have hstart : Ticketed p cfg (start p controllerId n) := ⟨⟨[], rfl⟩, fun _ _ hget => by cases hget⟩
  have hticketed : Ticketed p cfg s := by
    refine run_invariant_of_step (fun s action next h hstep => ?_) hstart hrun
    cases action with
    | transact timestamp call =>
        cases hstep
        exact h.transact timestamp call
    | perform timestamp answered task =>
        cases hstep
        exact h.perform hspec timestamp answered task
  exact fun sessionId session hactive => hticketed.sold hspec hactive.1

def mallory : Address := 0xe

/-- 10 Mbps, best effort. -/
def labParams : Bytes := abiEncode [10000000, 0]

def labCodec : Codec where
  bandwidth := fun bytes => if bytes = labParams then some ⟨10000000, 0⟩ else none
  telemetry := fun _ => none

/-- A byte string hashes to two of its bytes; each account has one signature for everything. -/
def labCrypto : Crypto where
  keccak256 := fun bytes => BitVec.ofNat 256 ((bytes.getD 63 0).toNat + (bytes.getD 65 0).toNat)
  domainSeparator := 0
  recover := fun _ signature =>
    if signature = [1] then some bell else if signature = [2] then some mallory else none

def labPlatform : Platform Registry := { labCrypto with erc721 := Registry.erc721 }

def labOffer (provider : Address) : Settlement.Offer :=
  ⟨provider, 0, 0, 1, labParams, 0, 100, 0xc, 10, 50, 7, 8⟩

/-- Ada buys the offer at time 5. -/
def labSale (provider : Address) (signature : Bytes) : Action :=
  .transact 5 (.entry ⟨ada, ada_ne_zero, .fulfill (labOffer provider) signature⟩ [] true)

/-- Ada activates the ticket at time 10. -/
def labUse (nonce : String) (entitlementId : Int) : List Action :=
  [.perform 10 ⟨true, true, true⟩ (.request (.challenge entitlementId nonce)),
    .perform 10 ⟨true, true, true⟩ (.request (.activate entitlementId "bandwidth" nonce
      (labProof nonce entitlementId (10 + nonceTtlS))))]

def twoSales : List Action := labSale bell [1] :: labSale mallory [2] :: (labUse "0x01" 1 ++ labUse "0x02" 2)

theorem active_sessions_are_sold_twice :
    ∃ s, run (step labPlatform labCodec labConfig labProvisioner.provisioner)
        (start labPlatform "bw-ctrl-1" fun _ => .empty) twoSales = some s ∧ s.service.activeIds = [1, 2] ∧
      ∀ sessionId session, s.service.ActiveAt sessionId session →
        Sold labPlatform labConfig s session.entitlementId :=
  ⟨_, rfl, by rfl, active_sessions_are_sold labPlatform Registry.erc721_spec labCodec labConfig
    labProvisioner.provisioner "bw-ctrl-1" (fun _ => .empty) twoSales _ rfl⟩

/-- One service, one run, and active sessions of two issuers. -/
theorem issuer_not_fixed :
    ¬ ∀ (p : Platform Registry) (codec : Codec) (cfg : Config) (net : Provisioner Devices) (controllerId : String)
      (devices : Devices), p.erc721.Spec → ∃ issuer, ∀ (actions : List Action) (s : State Registry Devices),
        run (step p codec cfg net) (start p controllerId devices) actions = some s →
          ∀ sessionId session, s.service.ActiveAt sessionId session →
            (s.storage.entitlements session.entitlementId.toNat).issuer = issuer := by
  intro hclaim
  obtain ⟨issuer, h⟩ := hclaim labPlatform labCodec labConfig labProvisioner.provisioner "bw-ctrl-1"
    (fun _ => .empty) Registry.erc721_spec
  have hbell : bell = issuer := h twoSales _ rfl "ent1-a0" ⟨"ent1-a0", 1, .active, 10, 100⟩ ⟨rfl, rfl⟩
  have hmallory : mallory = issuer := h twoSales _ rfl "ent2-a1" ⟨"ent2-a1", 2, .active, 10, 100⟩ ⟨rfl, rfl⟩
  exact absurd (hbell.trans hmallory.symm) (by decide)

end A2AProvisioning.System
