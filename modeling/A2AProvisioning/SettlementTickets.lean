import A2AProvisioning.SettlementContract
import Mathlib.Data.List.Range
import Mathlib.Data.List.Perm.Basic

/-! One ticket per signed promise. The invariant counts a digest from the moment `fulfill` punches it:
the consumed digests are those of the tickets issued so far and those of the calls that still wait for
their payment token. -/

namespace A2AProvisioning.Settlement

open Reentrant

variable {T : Type}

abbrev Log (T : Type) := List (Change Nat Msg (Storage T))

/-- A ticket as it was issued: its id, the offer behind it, and the call and the time that redeemed it. -/
structure Mint where
  id : Nat
  offer : Offer
  signature : Bytes
  caller : Address
  timestamp : Nat

def mintOf (ch : Change Nat Msg (Storage T)) : Option Mint :=
  match ch.half with
  | .enter _ => none
  | .leave ⟨sender, _, .fulfill offer signature⟩ =>
      some ⟨ch.after.lastId, offer, signature, sender, ch.block⟩
  | .leave _ => none

def mints (log : Log T) : List Mint := log.filterMap mintOf

/-- The offer a waiting call is about to issue a ticket for. -/
def pendingOffer (call : Nat × Msg) : Option Offer :=
  match call.2.data with
  | .fulfill offer _ => some offer
  | _ => none

variable (p : Platform T)

def Mint.digest (mint : Mint) : Bytes32 := p.hashOffer mint.offer

def pendingDigests (waiting : List (Nat × Msg)) : List Bytes32 :=
  (waiting.filterMap pendingOffer).map p.hashOffer

def mintedDigests (log : Log T) : List Bytes32 := (mints log).map (Mint.digest p)

/-- What holds whenever the contract is entered or left, with calls still waiting. -/
structure Books (waiting : List (Nat × Msg)) (log : Log T) (s : Storage T) : Prop where
  consumed : ∀ d, s.consumed d = true ↔ d ∈ pendingDigests p waiting ++ mintedDigests p log
  nodup : (pendingDigests p waiting ++ mintedDigests p log).Nodup
  ids : (mints log).map Mint.id = List.range' 1 s.lastId
  owned : ∀ id, p.erc721.owner s.token id ≠ 0 ↔ 1 ≤ id ∧ id ≤ s.lastId
  terms : ∀ mint ∈ mints log, (s.entitlements mint.id).SameTerms mint.offer.entitlement
  redeemed : ∀ mint ∈ mints log, Redeemable p mint.timestamp mint.caller mint.offer mint.signature
  waiting : ∀ call ∈ waiting, ∀ offer signature, call.2.data = .fulfill offer signature →
    Redeemable p call.1 call.2.sender offer signature

variable {p} {waiting : List (Nat × Msg)} {log : Log T} {s : Storage T}

theorem mints_snoc_of_none {ch : Change Nat Msg (Storage T)} (hnone : mintOf ch = none) :
    mints (log ++ [ch]) = mints log := by
  rw [mints, List.filterMap_append, List.filterMap_cons_none hnone, List.filterMap_nil, List.append_nil]
  rfl

theorem mints_snoc_of_some {ch : Change Nat Msg (Storage T)} {mint : Mint} (hsome : mintOf ch = some mint) :
    mints (log ++ [ch]) = mints log ++ [mint] := by
  rw [mints, List.filterMap_append, List.filterMap_cons_some hsome, List.filterMap_nil]
  rfl

theorem pendingDigests_cons_of_none {call : Nat × Msg} (hnone : pendingOffer call = none) :
    pendingDigests p (call :: waiting) = pendingDigests p waiting := by
  rw [pendingDigests, List.filterMap_cons_none hnone, pendingDigests]

theorem pendingDigests_cons_of_some {call : Nat × Msg} {offer : Offer} (hsome : pendingOffer call = some offer) :
    pendingDigests p (call :: waiting) = p.hashOffer offer :: pendingDigests p waiting := by
  rw [pendingDigests, List.filterMap_cons_some hsome, List.map_cons, pendingDigests]

theorem books_deployed (hspec : p.erc721.Spec) : Books p [] [] (deployed p) where
  consumed := fun d => by simp [deployed, pendingDigests, mintedDigests, mints]
  nodup := List.nodup_nil
  ids := rfl
  owned := fun id => by
    have hnone : p.erc721.owner (deployed p).token id = 0 := hspec.owner_deployed id
    have hlast : (deployed p).lastId = 0 := rfl
    rw [hnone, hlast]
    exact ⟨fun h => absurd rfl h, fun h => by omega⟩
  terms := fun _ hmem => absurd hmem List.not_mem_nil
  redeemed := fun _ hmem => absurd hmem List.not_mem_nil
  waiting := fun _ hmem => absurd hmem List.not_mem_nil

/-- A change that issues no ticket only has to keep the owners in place and the terms as they are. -/
theorem Books.snoc {next : Storage T} {ch : Change Nat Msg (Storage T)} (h : Books p waiting log s)
    (hnone : mintOf ch = none) (hconsumed : next.consumed = s.consumed) (hlast : next.lastId = s.lastId)
    (howned : ∀ id, p.erc721.owner next.token id ≠ 0 ↔ p.erc721.owner s.token id ≠ 0)
    (hterms : ∀ id, (next.entitlements id).SameTerms (s.entitlements id)) :
    Books p waiting (log ++ [ch]) next := by
  have hmints : mints (log ++ [ch]) = mints log := mints_snoc_of_none hnone
  have hdigests : mintedDigests p (log ++ [ch]) = mintedDigests p log := by
    rw [mintedDigests, hmints, mintedDigests]
  refine ⟨?_, ?_, ?_, ?_, ?_, ?_, h.waiting⟩
  · rw [hconsumed, hdigests]
    exact h.consumed
  · rw [hdigests]
    exact h.nodup
  · rw [hmints, hlast]
    exact h.ids
  · intro id
    rw [howned, hlast]
    exact h.owned id
  · rw [hmints]
    exact fun mint hmem => (hterms mint.id).trans (h.terms mint hmem)
  · rw [hmints]
    exact h.redeemed

/-- A waiting call that is about to issue no ticket does not count. -/
theorem Books.await {call : Nat × Msg} (h : Books p waiting log s) (hnone : pendingOffer call = none) :
    Books p (call :: waiting) log s := by
  have hpending : pendingDigests p (call :: waiting) = pendingDigests p waiting :=
    pendingDigests_cons_of_none hnone
  refine ⟨?_, ?_, h.ids, h.owned, h.terms, h.redeemed, ?_⟩
  · rw [hpending]
    exact h.consumed
  · rw [hpending]
    exact h.nodup
  · intro call' hmem offer signature hdata
    rcases List.mem_cons.mp hmem with rfl | hmem
    · rw [pendingOffer, hdata] at hnone
      cases hnone
    · exact h.waiting call' hmem offer signature hdata

theorem Books.return {call : Nat × Msg} (h : Books p (call :: waiting) log s) (hnone : pendingOffer call = none) :
    Books p waiting log s := by
  have hpending : pendingDigests p (call :: waiting) = pendingDigests p waiting :=
    pendingDigests_cons_of_none hnone
  refine ⟨?_, ?_, h.ids, h.owned, h.terms, h.redeemed, ?_⟩
  · rw [← hpending]
    exact h.consumed
  · rw [← hpending]
    exact h.nodup
  · exact fun call' hmem => h.waiting call' (List.mem_cons_of_mem _ hmem)

/-- Punching a digest that was not consumed. -/
theorem Books.punch {timestamp : Nat} {msg : Msg} {offer : Offer} {signature : Bytes}
    (h : Books p waiting log s) (hdata : msg.data = .fulfill offer signature)
    (hok : Redeemable p timestamp msg.sender offer signature)
    (hunused : s.consumed (p.hashOffer offer) = false) (ch : Change Nat Msg (Storage T))
    (hnone : mintOf ch = none) :
    Books p ((timestamp, msg) :: waiting) (log ++ [ch])
      { s with consumed := Function.update s.consumed (p.hashOffer offer) true } := by
  have hpending : pendingOffer (timestamp, msg) = some offer := by rw [pendingOffer, hdata]
  have hmints : mints (log ++ [ch]) = mints log := mints_snoc_of_none hnone
  have hdigests : mintedDigests p (log ++ [ch]) = mintedDigests p log := by
    rw [mintedDigests, hmints, mintedDigests]
  refine ⟨?_, ?_, ?_, h.owned, ?_, ?_, ?_⟩
  · intro d
    rw [pendingDigests_cons_of_some hpending, hdigests, List.cons_append, List.mem_cons, ← h.consumed d]
    by_cases hd : d = p.hashOffer offer
    · simp [hd]
    · simp [hd]
  · rw [pendingDigests_cons_of_some hpending, hdigests, List.cons_append, List.nodup_cons]
    refine ⟨fun hmem => ?_, h.nodup⟩
    rw [(h.consumed _).mpr hmem] at hunused
    cases hunused
  · rw [hmints]
    exact h.ids
  · rw [hmints]
    exact h.terms
  · rw [hmints]
    exact h.redeemed
  · intro call hmem offer' signature' hdata'
    rcases List.mem_cons.mp hmem with rfl | hmem
    · cases hdata.symm.trans hdata'
      exact hok
    · exact h.waiting call hmem offer' signature' hdata'

/-- Issuing the ticket of a call that was waiting. -/
theorem Books.issue {timestamp : Nat} {msg : Msg} {offer : Offer} {signature : Bytes} {next : Storage T}
    (hspec : p.erc721.Spec) (h : Books p ((timestamp, msg) :: waiting) log s)
    (hdata : msg.data = .fulfill offer signature)
    (hissue : Settlement.issue p msg.sender offer.entitlement s = .ok next) :
    Books p waiting (log ++ [⟨timestamp, s, .leave msg, next⟩]) next := by
  obtain ⟨token, hmint, rfl⟩ := issue_eq_ok hissue
  obtain ⟨hsender, hfree, howner, -, -⟩ := hspec.mint _ _ _ _ hmint
  have hpending : pendingOffer (timestamp, msg) = some offer := by rw [pendingOffer, hdata]
  have hok := h.waiting _ List.mem_cons_self offer signature hdata
  obtain ⟨sender, hsender', data⟩ := msg
  cases hdata
  set mint : Mint := ⟨s.lastId + 1, offer, signature, sender, timestamp⟩
  have hmints : mints (log ++ [⟨timestamp, s, .leave ⟨sender, hsender', .fulfill offer signature⟩,
      { s with
        lastId := s.lastId + 1
        entitlements := Function.update s.entitlements (s.lastId + 1) offer.entitlement
        token := token }⟩]) = mints log ++ [mint] := mints_snoc_of_some rfl
  have hperm : (pendingDigests p ((timestamp, ⟨sender, hsender', .fulfill offer signature⟩) :: waiting) ++
      mintedDigests p log).Perm (pendingDigests p waiting ++ (mints log ++ [mint]).map (Mint.digest p)) := by
    rw [pendingDigests_cons_of_some hpending, List.map_append, ← List.append_assoc, List.cons_append]
    exact (List.perm_append_singleton _ _).symm
  have hidLt : ∀ mint' ∈ mints log, mint'.id ≠ s.lastId + 1 := by
    intro mint' hmem heq
    have hid := List.mem_map_of_mem (f := Mint.id) hmem
    rw [h.ids, List.mem_range'_1] at hid
    omega
  refine ⟨?_, ?_, ?_, ?_, ?_, ?_, ?_⟩
  · intro d
    rw [mintedDigests, hmints, ← hperm.mem_iff]
    exact h.consumed d
  · rw [mintedDigests, hmints, ← hperm.nodup_iff]
    exact h.nodup
  · rw [hmints, List.map_append, h.ids, List.range'_1_concat, Nat.add_comm 1]
    rfl
  · intro id
    change p.erc721.owner token id ≠ 0 ↔ 1 ≤ id ∧ id ≤ s.lastId + 1
    rw [howner]
    by_cases hid : id = s.lastId + 1
    · subst hid
      rw [Function.update_self]
      exact ⟨fun _ => ⟨by omega, le_rfl⟩, fun _ => hsender⟩
    · rw [Function.update_of_ne hid, h.owned id]
      omega
  · rw [hmints]
    intro mint' hmem
    rcases List.mem_append.mp hmem with hmem | hmem
    · have hne := hidLt mint' hmem
      change (Function.update s.entitlements (s.lastId + 1) offer.entitlement mint'.id).SameTerms _
      rw [Function.update_of_ne hne]
      exact h.terms mint' hmem
    · cases List.mem_singleton.mp hmem
      change (Function.update s.entitlements (s.lastId + 1) offer.entitlement (s.lastId + 1)).SameTerms _
      rw [Function.update_self]
      exact Entitlement.SameTerms.refl _
  · rw [hmints]
    intro mint' hmem
    rcases List.mem_append.mp hmem with hmem | hmem
    · exact h.redeemed mint' hmem
    · cases List.mem_singleton.mp hmem
      exact hok
  · exact fun call hmem => h.waiting call (List.mem_cons_of_mem _ hmem)

/-- An operation of the token ledger that moves an owned id at most, and to an owner. -/
theorem owner_ne_zero_iff_of_transferFrom (hspec : p.erc721.Spec) {sender source target : Address}
    {id id' : Nat} {t t' : T} (htransfer : p.erc721.transferFrom sender source target id t = some t') :
    p.erc721.owner t' id' ≠ 0 ↔ p.erc721.owner t id' ≠ 0 := by
  obtain ⟨hauthorized, -, htarget, howner, -⟩ := hspec.transferFrom _ _ _ _ _ _ htransfer
  have howned : p.erc721.owner t id ≠ 0 := hauthorized.elim And.left And.left
  rw [howner]
  by_cases hid : id' = id
  · subst hid
    rw [Function.update_self]
    exact iff_of_true htarget howned
  · rw [Function.update_of_ne hid]

theorem sameTerms_update_revoked (entitlements : Nat → Entitlement) (id id' : Nat) :
    (Function.update entitlements id { entitlements id with revoked := true } id').SameTerms
      (entitlements id') := by
  by_cases hid : id' = id
  · subst hid
    rw [Function.update_self]
    exact Entitlement.SameTerms.refl _
  · rw [Function.update_of_ne hid]
    exact Entitlement.SameTerms.refl _

theorem Books.enter {timestamp : Nat} {msg : Msg} {next : Storage T} (hspec : p.erc721.Spec)
    (h : Books p waiting log s) (hentered : Entered p timestamp msg.sender s msg.data next) :
    Books p (if callsOut msg then (timestamp, msg) :: waiting else waiting)
      (log ++ [⟨timestamp, s, .enter msg, next⟩]) next := by
  obtain ⟨sender, hsender, data⟩ := msg
  cases hentered with
  | fulfill hok hunused => exact h.punch rfl hok hunused _ rfl
  | revoke hissuer =>
      exact h.snoc rfl rfl rfl (fun _ => Iff.rfl) (sameTerms_update_revoked s.entitlements _)
  | approve htoken =>
      obtain ⟨-, howner, -⟩ := hspec.approve _ _ _ _ _ htoken
      exact h.snoc rfl rfl rfl (fun id => by rw [howner]) fun _ => Entitlement.SameTerms.refl _
  | setApprovalForAll htoken =>
      obtain ⟨howner, -⟩ := hspec.setApprovalForAll _ _ _ _ _ htoken
      exact h.snoc rfl rfl rfl (fun id => by rw [howner]) fun _ => Entitlement.SameTerms.refl _
  | transferFrom htoken =>
      exact h.snoc rfl rfl rfl (fun id => owner_ne_zero_iff_of_transferFrom hspec htoken)
        fun _ => Entitlement.SameTerms.refl _
  | safeTransferFrom htoken =>
      refine Books.await (h.snoc rfl rfl rfl (fun id => ?_) fun _ => Entitlement.SameTerms.refl _) rfl
      exact owner_ne_zero_iff_of_transferFrom hspec htoken

theorem Books.leave {timestamp : Nat} {msg : Msg} {next : Storage T} (hspec : p.erc721.Spec)
    (h : Books p ((timestamp, msg) :: waiting) log s) (hcalls : callsOut msg = true)
    (hleave : Settlement.leave p msg s = .ok next) :
    Books p waiting (log ++ [⟨timestamp, s, .leave msg, next⟩]) next := by
  obtain ⟨sender, hsender, data⟩ := msg
  cases data with
  | fulfill offer signature => exact h.issue hspec rfl hleave
  | safeTransferFrom source target id data =>
      cases hleave
      exact (h.return rfl).snoc rfl rfl rfl (fun _ => Iff.rfl) fun _ => Entitlement.SameTerms.refl _
  | revoke id => cases hcalls
  | approve target id => cases hcalls
  | setApprovalForAll operator ok => cases hcalls
  | transferFrom source target id => cases hcalls

/-- The books are right after every list of transactions, whatever the called contracts do. -/
theorem books_history (hspec : p.erc721.Spec) (txs : List (Nat × Call Msg)) :
    Books p [] (history (settlement p) (deployed p) txs).2 (history (settlement p) (deployed p) txs).1 := by
  have h := history_invariant (c := settlement p) (fun waiting log b e s next hbooks henter =>
      Books.enter hspec hbooks (entered_of_enter henter))
    (fun waiting log b e s next hcalls hbooks hleave => Books.leave hspec hbooks hcalls hleave)
    txs [] (deployed p) (books_deployed hspec)
  rwa [List.nil_append] at h

/-- What the books say between transactions, with the promise behind each ticket. `log` is the whole
history, so `mints log` lists every ticket ever issued. -/
structure Tickets (p : Platform T) (signs : Address → Offer → Prop) (log : Log T) (s : Storage T) : Prop where
  owned : ∀ id, p.erc721.owner s.token id ≠ 0 ↔ 1 ≤ id ∧ id ≤ s.lastId
  ids : (mints log).map Mint.id = List.range' 1 s.lastId
  injective : ((mints log).map (Mint.digest p)).Nodup
  consumed : ∀ d, s.consumed d = true ↔ d ∈ (mints log).map (Mint.digest p)
  terms : ∀ mint ∈ mints log, (s.entitlements mint.id).SameTerms mint.offer.entitlement
  signed : ∀ mint ∈ mints log, signs (s.entitlements mint.id).issuer mint.offer
  unexpired : ∀ mint ∈ mints log, mint.timestamp ≤ mint.offer.validUntil.toNat
  buyer : ∀ mint ∈ mints log, mint.offer.consumer = 0 ∨ mint.offer.consumer = mint.caller

/-- `signs a offer` says that `a` really signed the offer; a signature recovers to a nonzero address only
if that address signed an offer with the digest. -/
theorem one_ticket_per_promise (p : Platform T) (hspec : p.erc721.Spec) (signs : Address → Offer → Prop)
    (hrecover : ∀ offer signature a, p.recover (p.hashOffer offer) signature = some a →
      a ≠ 0 ∧ ∃ offer', signs a offer' ∧ p.hashOffer offer' = p.hashOffer offer)
    (txs : List (Nat × Call Msg))
    (hfree : p.CollisionFree {offer | (∃ a, signs a offer) ∨
      ∃ mint ∈ mints (history (settlement p) (deployed p) txs).2, mint.offer = offer}) :
    Tickets p signs (history (settlement p) (deployed p) txs).2 (history (settlement p) (deployed p) txs).1 := by
  have hbooks := books_history hspec txs
  refine ⟨hbooks.owned, hbooks.ids, hbooks.nodup, hbooks.consumed, hbooks.terms, ?_, ?_, ?_⟩
  · intro mint hmem
    obtain ⟨-, offer, hsigns, hdigest⟩ := hrecover _ _ _ (hbooks.redeemed mint hmem).signer
    have heq : offer = mint.offer :=
      Crypto.hashOffer_injective hfree (Or.inl ⟨_, hsigns⟩) (Or.inr ⟨mint, hmem, rfl⟩) hdigest
    rw [(hbooks.terms mint hmem).1, ← heq]
    rw [← heq] at hsigns
    exact hsigns
  · exact fun mint hmem => (hbooks.redeemed mint hmem).unexpired
  · exact fun mint hmem => (hbooks.redeemed mint hmem).buyer

def bell : Address := 0xb

def ada : Address := 0xa

theorem bell_ne_zero : bell ≠ 0 := by decide

theorem ada_ne_zero : ada ≠ 0 := by decide

def smallOffer : Offer := ⟨bell, 0, 0, 1, [], 0, 100, 0xc, 10, 50, 7, 8⟩

/-- Byte strings hash to their length, and bell signed one digest. -/
def lengthCrypto : Crypto where
  keccak256 := fun bytes => BitVec.ofNat 256 bytes.length
  domainSeparator := 0
  recover := fun digest signature => if digest = 66 ∧ signature = [1] then some bell else none

def smallPlatform : Platform Registry := { lengthCrypto with erc721 := Registry.erc721 }

def replayedSale : List (Nat × Call Msg) :=
  [(5, .entry ⟨ada, ada_ne_zero, .fulfill smallOffer [1]⟩
    [.entry ⟨ada, ada_ne_zero, .fulfill smallOffer [1]⟩ [] true] true)]

/-- The three byte strings that are hashed for an offer have three lengths. -/
theorem lengthCrypto_collisionFree {offer : Offer} (hparams : offer.params.length < 66) {offers : Set Offer}
    (hoffers : ∀ offer' ∈ offers, offer' = offer) : lengthCrypto.CollisionFree offers := by
  have hwords : (abiEncode (lengthCrypto.offerWords offer)).length = 416 := abiEncode_length _
  have htyped : (lengthCrypto.typedData (lengthCrypto.keccak256 (abiEncode (lengthCrypto.offerWords offer)))).length = 66 :=
    rfl
  have hlength : ∀ bytes bytes' : Bytes, bytes.length ≤ 416 → bytes'.length ≤ 416 →
      lengthCrypto.keccak256 bytes = lengthCrypto.keccak256 bytes' → bytes.length = bytes'.length := by
    intro bytes bytes' hle hle' heq
    have hnat := congrArg BitVec.toNat heq
    change (BitVec.ofNat 256 bytes.length).toNat = (BitVec.ofNat 256 bytes'.length).toNat at hnat
    rw [BitVec.toNat_ofNat, BitVec.toNat_ofNat] at hnat
    omega
  have hdistinct : ∀ bytes ∈ lengthCrypto.preimages offer, ∀ bytes' ∈ lengthCrypto.preimages offer,
      lengthCrypto.keccak256 bytes = lengthCrypto.keccak256 bytes' → bytes = bytes' := by
    rintro _ (rfl | rfl | rfl) _ (rfl | rfl | rfl) heq
    · rfl
    · exact absurd (hlength _ _ (by omega) (by omega) heq) (by omega)
    · exact absurd (hlength _ _ (by omega) (by omega) heq) (by omega)
    · exact absurd (hlength _ _ (by omega) (by omega) heq) (by omega)
    · rfl
    · exact absurd (hlength _ _ (by omega) (by omega) heq) (by omega)
    · exact absurd (hlength _ _ (by omega) (by omega) heq) (by omega)
    · exact absurd (hlength _ _ (by omega) (by omega) heq) (by omega)
    · rfl
  intro bytes hbytes bytes' hbytes' heq
  simp only [Set.mem_iUnion] at hbytes hbytes'
  obtain ⟨offer₁, hoffer₁, hbytes⟩ := hbytes
  obtain ⟨offer₂, hoffer₂, hbytes'⟩ := hbytes'
  cases hoffers offer₁ hoffer₁
  cases hoffers offer₂ hoffer₂
  exact hdistinct bytes hbytes bytes' hbytes' heq

theorem one_ticket_per_promise_replayed :
    Tickets smallPlatform (fun a offer => a = bell ∧ offer = smallOffer)
        (history (settlement smallPlatform) (deployed smallPlatform) replayedSale).2
        (history (settlement smallPlatform) (deployed smallPlatform) replayedSale).1 ∧
      (history (settlement smallPlatform) (deployed smallPlatform) replayedSale).1.lastId = 1 := by
  have hmints : mints (history (settlement smallPlatform) (deployed smallPlatform) replayedSale).2 =
      [⟨1, smallOffer, [1], ada, 5⟩] := rfl
  refine ⟨one_ticket_per_promise smallPlatform Registry.erc721_spec _ ?_ replayedSale
    (@lengthCrypto_collisionFree smallOffer (by decide) _ ?_), rfl⟩
  · intro offer signature a hrecover
    change (if _ then some bell else none) = some a at hrecover
    split_ifs at hrecover with hsigned
    cases hrecover
    exact ⟨bell_ne_zero, smallOffer, ⟨rfl, rfl⟩, (show smallPlatform.hashOffer smallOffer = 66 from rfl).trans hsigned.1.symm⟩
  · rintro offer (⟨a, -, hoffer⟩ | ⟨mint, hmem, hoffer⟩)
    · exact hoffer
    · rw [hmints] at hmem
      cases List.mem_singleton.mp hmem
      exact hoffer.symm

end A2AProvisioning.Settlement
