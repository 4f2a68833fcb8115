import A2AProvisioning.AgentsProvider
import A2AProvisioning.ChainPurchase

/-! What a purchase leaves for good. An offer is signed at a price, a purchase of it returns an id, and whatever is mined
before and after, the ticket of that id keeps the terms of the offer. -/

namespace A2AProvisioning.Lifecycle

open Reentrant Agents

variable {T K : Type} {client : Chain.ChainClient T K} {signed : SignedOffer}

/-- `settle`: the id that the purchase returns, if it does. -/
def settled (client : Chain.ChainClient T K) (signed : SignedOffer) (events : List Chain.PurchaseEvent)
    (w : Settlement.World T K) : Option Int × Settlement.World T K :=
  let bought := client.approveAndFulfill signed w events
  (match bought.stage with
    | .returned entitlementId => some entitlementId
    | _ => none, bought.world)

section Signed

variable {provider : ProviderChain} {need : ServiceNeed} {priceTok : Int} {salt : String}

/-- What is signed is the draft at its price. -/
theorem offer_of_signed (h : provider.signOffer need priceTok salt = some signed) :
    signed.offer.Valid ∧ (∃ signable, signed.signature = provider.sign signable) ∧
      ∃ price, strOf (priceTok * 10 ^ 18) = some price ∧ signed.offer = provider.offerAt need price salt := by
  rw [ProviderChain.signOffer] at h
  obtain ⟨price, hprice, h⟩ := Option.bind_eq_some_iff.mp h
  split_ifs at h with hvalid
  obtain ⟨signable, -, h⟩ := Option.bind_eq_some_iff.mp h
  split_ifs at h
  cases h
  exact ⟨hvalid, ⟨signable, rfl⟩, price, hprice, rfl⟩

theorem amount_of_signed (h : provider.signOffer need priceTok salt = some signed) :
    (signed.offer.amount : Int) = priceTok * 10 ^ 18 := by
  obtain ⟨hvalid, -, price, hprice, hoffer⟩ := offer_of_signed h
  rw [strOf] at hprice
  split_ifs at hprice
  cases hprice
  have hnonneg : 0 ≤ priceTok * 10 ^ 18 := by
    have hdecimal := hvalid.price
    rw [hoffer] at hdecimal
    exact (isDecimalString_iff _).mp hdecimal
  obtain ⟨n, hn⟩ := Int.eq_ofNat_of_zero_le hnonneg
  rw [hoffer, hn]
  exact congrArg Nat.cast (amount_offerAt need n)

end Signed

section Purchase

variable {first w next last : Settlement.World T K} {events : List Chain.PurchaseEvent} {timestamp : Nat}
  {entitlementId : Int}

/-- The states between which an offer was sold, on the way of a purchase. -/
structure Bought (client : Chain.ChainClient T K) (signed : SignedOffer) (entitlementId : Int) (timestamp : Nat)
    (first w next last : Settlement.World T K) : Prop where
  reached : Reaches (Settlement.world client.deployment) first w
  buyable : Chain.Buyable client signed timestamp w
  sold : Chain.Sold client signed w next
  id : entitlementId = (w.settlement.lastId + 1 : Nat)
  turned : Reaches (Settlement.world client.deployment) w next
  left : Reaches (Settlement.world client.deployment) next last

theorem reaches_turn (timestamp : Nat) (stage : Chain.Stage) (w : Settlement.World T K) :
    Reaches (Settlement.world client.deployment) w (client.turn signed timestamp stage w).2 := by
  have hsent : ∀ {request next}, client.transactRaw timestamp request w = .ok next →
      Reaches (Settlement.world client.deployment) w next := by
    intro request next hnext
    rw [Chain.ChainClient.transactRaw] at hnext
    cases hexec : exec (Settlement.world client.deployment) timestamp
      (.entry ⟨client.acct, client.acct_ne_zero, request⟩ [] true) w with
    | error failure =>
        rw [hexec] at hnext
        cases hnext
    | ok result =>
        rw [hexec] at hnext
        cases hnext
        exact reaches_exec hexec
  cases stage with
  | approve price =>
      rw [Chain.ChainClient.turn]
      split_ifs
      · exact Reaches.refl w
      · split
        · exact Reaches.refl w
        · rename_i next hnext
          exact hsent hnext
  | fulfill =>
      rw [Chain.ChainClient.turn]
      split
      · exact Reaches.refl w
      · split
        · exact Reaches.refl w
        · rename_i next hnext
          exact hsent hnext
  | withdraw refusal =>
      rw [Chain.ChainClient.turn]
      split
      · exact Reaches.refl w
      · rename_i next hnext
        exact hsent hnext
  | returned id => exact Reaches.refl w
  | raised error => exact Reaches.refl w

theorem reaches_purchase (p : Chain.Purchase T K) (events : List Chain.PurchaseEvent) :
    Reaches (Settlement.world client.deployment) p.world (events.foldl (client.advance signed) p).world := by
  induction events generalizing p with
  | nil => exact Reaches.refl p.world
  | cons event events ih =>
      have hone : Reaches (Settlement.world client.deployment) p.world (client.advance signed p event).world := by
        cases event with
        | turn timestamp => exact reaches_turn timestamp p.stage p.world
        | other timestamp call => exact reaches_transact timestamp call p.world
      exact hone.trans (ih _)

variable (client signed events) in
theorem reaches_settled (w : Settlement.World T K) :
    Reaches (Settlement.world client.deployment) w (settled client signed events w).2 :=
  reaches_purchase ⟨client.start signed.offer, w⟩ events

/-- A purchase that returns an id has bought the ticket of that id. -/
theorem bought_of_settled (hd : Skeleton.Reliable client.deployment) (hvalid : signed.offer.Valid)
    (hstrange : ∀ event ∈ events, client.Strange event)
    (h : (settled client signed events first).1 = some entitlementId) :
    ∃ timestamp w next,
      Bought client signed entitlementId timestamp first w next (settled client signed events first).2 := by
  rw [settled] at h
  dsimp only at h
  split at h
  · rename_i id hreturned
    cases h
    have htok : TypedData.addressOf signed.offer.paymentToken = client.deployment.tok := by
      by_contra hother
      have hstart := Chain.start_of_other_token hother
      rw [Chain.ChainClient.approveAndFulfill, Chain.stage_of_ended (Or.inr ⟨_, hstart⟩), hstart] at hreturned
      cases hreturned
    obtain ⟨before, timestamp, after, hpurchase, hstage, hbuyable⟩ :=
      Chain.sale_of_returned hd hvalid htok first events hstrange hreturned
    have hstanding := Chain.standing_run hd hvalid htok first before fun event hmem => hstrange event (by
      rw [hpurchase]
      exact List.mem_append_left _ hmem)
    rw [hstage] at hstanding
    have happroved : signed.offer.amount ≤ client.allowance (client.approveAndFulfill signed first before).world :=
      le_of_eq hstanding.symm
    rcases Chain.turn_fulfill hd hvalid htok timestamp happroved with ⟨-, next, hsold, hturn⟩ | ⟨hnot, -⟩
    · have hadvance : client.advance signed (client.approveAndFulfill signed first before) (.turn timestamp) =
          ⟨.returned ((client.approveAndFulfill signed first before).world.settlement.lastId + 1), next⟩ := by
        rw [Chain.ChainClient.advance, hstage, hturn]
      have hrun : client.approveAndFulfill signed first events = after.foldl (client.advance signed)
          ⟨.returned ((client.approveAndFulfill signed first before).world.settlement.lastId + 1), next⟩ := by
        rw [hpurchase, Chain.ChainClient.approveAndFulfill, List.foldl_append, List.foldl_cons, ← hadvance]
        rfl
      rw [hrun, Chain.stage_of_ended (Or.inl ⟨_, rfl⟩)] at hreturned
      cases hreturned
      have hturned := @reaches_turn T K client signed timestamp .fulfill
        (client.approveAndFulfill signed first before).world
      rw [hturn] at hturned
      refine ⟨timestamp, _, next, reaches_purchase ⟨client.start signed.offer, first⟩ before, hbuyable, hsold, rfl,
        hturned, ?_⟩
      rw [settled]
      dsimp only
      rw [hrun]
      exact reaches_purchase ⟨.returned _, next⟩ after
    · exact absurd hbuyable hnot
  · cases h

end Purchase

section Ticket

open Settlement

variable {d : Deployment T K} {first w w' next last : World T K} {timestamp : Nat} {entitlementId : Int}

/-- What has been minted stays as it is, whatever happens to both contracts. -/
theorem permanent_of_reaches (hspec : d.erc721.Spec) (hstart : Reaches (world d) (World.deployed d) w)
    (h : Reaches (world d) w w') {id : Nat} (hminted : Minted d.toPlatform w.settlement id) :
    Permanent d.toPlatform w.settlement w'.settlement id := by
  obtain ⟨txs, rfl⟩ := hstart
  obtain ⟨txs', rfl⟩ := h
  -- the settlement's own history, up to the one state and on to the other
  obtain ⟨seen, hseen⟩ := history_refines (world_refines d) txs (World.deployed d)
  obtain ⟨seen', hseen'⟩ := history_refines (world_refines d) txs' (history (world d) (World.deployed d) txs).1
  have hchained := (history_chained (settlement d.toPlatform)
    (history (world d) (World.deployed d) txs).1.settlement seen').1
  have hlawful := lawful_history hspec (seen ++ seen')
  have hdeployed : (World.deployed d).settlement = deployed d.toPlatform := rfl
  rw [hdeployed] at hseen
  rw [history_append, hseen, hseen'] at hlawful
  rw [hseen'] at hchained
  exact permanent_of_chained hchained (fun ch hmem => hlawful ch (List.mem_append_right _ hmem)) hminted

variable {client : Chain.ChainClient T K}

theorem Bought.minted (h : Bought client signed entitlementId timestamp first w next last) :
    Minted client.deployment.toPlatform next.settlement entitlementId.toNat := by
  rw [h.id, Int.toNat_natCast]
  change client.deployment.erc721.owner next.settlement.token (w.settlement.lastId + 1) ≠ 0
  rw [h.sold.owner, Function.update_self]
  exact client.acct_ne_zero

theorem Bought.from (h : Bought client signed entitlementId timestamp first w next last)
    (hfirst : Reaches (world client.deployment) (World.deployed client.deployment) first) :
    Reaches (world client.deployment) (World.deployed client.deployment) next :=
  (hfirst.trans h.reached).trans h.turned

/-- A ticket that was bought keeps the terms of the offer. -/
theorem Bought.terms (h : Bought client signed entitlementId timestamp first w next last)
    (hspec : client.deployment.erc721.Spec)
    (hfirst : Reaches (world client.deployment) (World.deployed client.deployment) first) {later : World T K}
    (hlater : Reaches (world client.deployment) next later) :
    (later.settlement.entitlements entitlementId.toNat).SameTerms signed.offer.onChain.entitlement := by
  have hterms := (permanent_of_reaches hspec (h.from hfirst) hlater h.minted).terms
  have hnew : next.settlement.entitlements entitlementId.toNat = signed.offer.onChain.entitlement := by
    rw [h.sold.entitlements, h.id, Int.toNat_natCast, Function.update_self]
  rwa [hnew] at hterms

end Ticket

end A2AProvisioning.Lifecycle
