import A2AProvisioning.ChainPurchase
import Mathlib.Algebra.BigOperators.Group.Finset.Basic
import Mathlib.Data.Fintype.BigOperators

/-! Calls of `approve_and_fulfill` by one buyer, in any order of their transactions. They share one allowance, and
each approval replaces what is left of the one before it, so a call gets its ticket if it still finds its price
there. -/

namespace A2AProvisioning.Chain

open Reentrant Settlement

variable {ι T K : Type}

structure Purchases (ι T K : Type) where
  stage : ι → Stage
  world : World T K

namespace ChainClient

variable [DecidableEq ι] (client : ChainClient T K) (signed : ι → SignedOffer)

/-- The next transaction of one of the calls, and its timestamp. -/
def take (s : Purchases ι T K) (next : ι × Nat) : Purchases ι T K :=
  let turned := client.turn (signed next.1) next.2 (s.stage next.1) s.world
  ⟨Function.update s.stage next.1 turned.1, turned.2⟩

/-- All the calls, in the order of their transactions. -/
def interleave (w : World T K) (order : List (ι × Nat)) : Purchases ι T K :=
  order.foldl (client.take signed) ⟨fun i => client.start (signed i).offer, w⟩

end ChainClient

/-- Every call has returned a ticket of its own. -/
def AllBought (client : ChainClient T K) (signed : ι → SignedOffer) (s : Purchases ι T K) : Prop :=
  ∃ ids : ι → Nat, Function.Injective ids ∧ ∀ i, s.stage i = .returned (ids i) ∧
    client.deployment.erc721.owner s.world.settlement.token (ids i) = client.acct ∧
    s.world.settlement.entitlements (ids i) = (signed i).offer.onChain.entitlement

/-- What is left of an approval after a sale. -/
def afterSale (left price : Nat) : Nat := if left = infiniteAllowance then infiniteAllowance else left - price

/-- Every call finds its price in what is left of the last approval. `turns` counts the transactions that each has
made. -/
def covers [DecidableEq ι] (price : ι → Nat) : List ι → (ι → Nat) → Nat → Bool
  | [], _, _ => true
  | i :: order, turns, left =>
      match turns i with
      | 0 => covers price order (Function.update turns i 1) (price i)
      | 1 => decide (price i ≤ left) && covers price order (Function.update turns i 2) (afterSale left (price i))
      | _ + 2 => covers price order turns left

section Interleaving

variable [DecidableEq ι] [Fintype ι] (client : ChainClient T K) (signed : ι → SignedOffer)

/-- Distinct offers, each of them good for a ticket whenever one of the transactions is mined, that the buyer can pay
for. The settlement tells offers apart by their digests. -/
structure Affordable (order : List (ι × Nat)) (w : World T K) : Prop where
  valid : ∀ i, (signed i).offer.Valid
  encodes : ∀ i, (client.fulfillment (signed i)).isSome
  tok : ∀ i, TypedData.addressOf (signed i).offer.paymentToken = client.deployment.tok
  redeemable : ∀ i, ∀ next ∈ order, ∃ signature, Hex.fromHex (TypedData.digitsOf (signed i).signature) = some signature ∧
    Redeemable client.deployment.toPlatform next.2 client.acct (signed i).offer.onChain signature
  unused : ∀ i, w.settlement.consumed (client.deployment.hashOffer (signed i).offer.onChain) = false
  distinct : Function.Injective fun i => client.deployment.hashOffer (signed i).offer.onChain
  funded : ∑ i, (signed i).offer.amount ≤ client.deployment.erc20.balanceOf w.tok client.acct
  ids : w.settlement.lastId + Fintype.card ι < 2 ^ 256
  fresh : ∀ id, w.settlement.lastId < id → client.deployment.erc721.owner w.settlement.token id = 0

/-- What the calls that have not bought yet add up to. -/
def pending (amount turns : ι → Nat) : Nat := ∑ i, if turns i < 2 then amount i else 0

/-- No call has been refused so far. -/
structure OnTrack (turns : ι → Nat) (left : Nat) (s : Purchases ι T K) : Prop where
  approve : ∀ i, turns i = 0 → s.stage i = .approve (signed i).offer.amount
  fulfill : ∀ i, turns i = 1 → s.stage i = .fulfill
  bought : ∀ i, 2 ≤ turns i → ∃ id, s.stage i = .returned id ∧ id ≤ s.world.settlement.lastId ∧
    client.deployment.erc721.owner s.world.settlement.token id = client.acct ∧
    s.world.settlement.entitlements id = (signed i).offer.onChain.entitlement
  separate : ∀ i j id, s.stage i = .returned id → s.stage j = .returned id → i = j
  unused : ∀ i, turns i < 2 →
    s.world.settlement.consumed (client.deployment.hashOffer (signed i).offer.onChain) = false
  allowance : ∀ i, turns i ≠ 0 → client.allowance s.world = left
  funded : pending (fun i => (signed i).offer.amount) turns ≤
    client.deployment.erc20.balanceOf s.world.tok client.acct
  ids : s.world.settlement.lastId + pending (fun _ => 1) turns < 2 ^ 256
  fresh : ∀ id, s.world.settlement.lastId < id →
    client.deployment.erc721.owner s.world.settlement.token id = 0

end Interleaving

section Pending

variable [DecidableEq ι] [Fintype ι] {turns : ι → Nat} {i : ι}

theorem pending_approve (amount : ι → Nat) (hi : turns i = 0) :
    pending amount (Function.update turns i 1) = pending amount turns := by
  apply Finset.sum_congr rfl
  intro j _
  by_cases hj : j = i
  · rw [hj, Function.update_self, hi, if_pos (by omega), if_pos (by omega)]
  · rw [Function.update_of_ne hj]

theorem pending_fulfill (amount : ι → Nat) (hi : turns i = 1) :
    pending amount turns = amount i + pending amount (Function.update turns i 2) := by
  have hhere : (if turns i < 2 then amount i else 0) = amount i := if_pos (by omega)
  have hgone : (if Function.update turns i 2 i < 2 then amount i else 0) = 0 := by
    rw [Function.update_self]
    rfl
  have hothers : ∀ j ∈ Finset.univ.erase i,
      (if turns j < 2 then amount j else 0) = if Function.update turns i 2 j < 2 then amount j else 0 := by
    intro j hmem
    rw [Function.update_of_ne (Finset.ne_of_mem_erase hmem)]
  rw [pending, pending, ← Finset.add_sum_erase Finset.univ _ (Finset.mem_univ i), hhere,
    ← Finset.add_sum_erase Finset.univ (fun j => if Function.update turns i 2 j < 2 then amount j else 0)
      (Finset.mem_univ i), hgone, zero_add, Finset.sum_congr rfl hothers]

omit [Fintype ι] in
/-- What is said of every call by its turns is kept by those that do not move. -/
theorem forall_update {Q : Nat → Prop} {P : ι → Stage → Prop} {stage : ι → Stage} {n : Nat} {moved : Stage}
    (h : ∀ j, j ≠ i → Q (turns j) → P j (stage j)) (hi : Q n → P i moved) (j : ι)
    (hj : Q (Function.update turns i n j)) : P j (Function.update stage i moved j) := by
  by_cases hji : j = i
  · rw [hji, Function.update_self] at hj ⊢
    exact hi hj
  · rw [Function.update_of_ne hji] at hj ⊢
    exact h j hji hj

end Pending

section Step

variable [DecidableEq ι] [Fintype ι] {client : ChainClient T K} {signed : ι → SignedOffer} {order : List (ι × Nat)}
  {turns : ι → Nat} {left : Nat} {s : Purchases ι T K} {w : World T K} {i : ι} {timestamp : Nat}

omit [DecidableEq ι] in
theorem Affordable.start_eq (h : Affordable client signed order w) (i : ι) :
    client.start (signed i).offer = .approve (signed i).offer.amount ∧ (signed i).offer.amount < 2 ^ 256 := by
  obtain ⟨request, hrequest⟩ := Option.isSome_iff_exists.mp (h.encodes i)
  obtain ⟨tuple, sent, htuple, hencode⟩ : ∃ tuple sent, Signing.offerTuple (signed i).offer = some tuple ∧
      client.encode tuple = some sent := by
    unfold ChainClient.fulfillment at hrequest
    obtain ⟨sent, hsent, -⟩ := Option.bind_eq_some_iff.mp hrequest
    obtain ⟨tuple, htuple, hencode⟩ := Option.bind_eq_some_iff.mp hsent
    exact ⟨tuple, sent, htuple, hencode⟩
  have hcalldata : (Signing.offerTuple (signed i).offer).bind Signing.calldata = some sent :=
    Option.bind_eq_some_iff.mpr ⟨tuple, htuple, client.encode_eq hencode⟩
  have hprice := (Signing.eq_onChain_of_calldata (h.valid i) hcalldata).2
  rw [Signing.offerTuple_eq (h.valid i) hprice] at hcalldata
  refine ⟨?_, hprice⟩
  unfold ChainClient.start
  cases hread : Decimal.readInt (signed i).offer.price.toList with
  | none =>
      rw [hread] at hcalldata
      cases hcalldata
  | some price =>
      have hamount : price = (signed i).offer.amount := by
        rw [Decimal.readInt] at hread
        split_ifs at hread
        exact (Option.some.inj hread).symm
      rw [hamount]
      exact if_neg (not_not.mpr (h.tok i))

omit [DecidableEq ι] in
theorem Affordable.onTrack (h : Affordable client signed order w) :
    OnTrack client signed (fun _ => 0) 0 ⟨fun i => client.start (signed i).offer, w⟩ where
  approve := fun i _ => (h.start_eq i).1
  fulfill := fun i hi => absurd hi (by decide)
  bought := fun i hi => absurd hi (by decide)
  separate := by
    intro i j id hi
    cases (h.start_eq i).1.symm.trans hi
  unused := fun i _ => h.unused i
  allowance := fun i hi => absurd rfl hi
  funded := by
    have hall : pending (fun i => (signed i).offer.amount) (fun _ => 0) = ∑ i, (signed i).offer.amount := rfl
    rw [hall]
    exact h.funded
  ids := by
    have hall : pending (fun _ : ι => 1) (fun _ => 0) = Fintype.card ι := by
      rw [Fintype.card_eq_sum_ones]
      rfl
    rw [hall]
    exact h.ids
  fresh := h.fresh

/-- An approval gives the call its price, whatever was left. -/
theorem OnTrack.approval (hd : Skeleton.Reliable client.deployment) (h : OnTrack client signed turns left s)
    (hprice : (signed i).offer.amount < 2 ^ 256) (hi : turns i = 0) (timestamp : Nat) :
    OnTrack client signed (Function.update turns i 1) (signed i).offer.amount
      (client.take signed s (i, timestamp)) := by
  obtain ⟨next, hnext, happroved⟩ := transactRaw_approval hd timestamp hprice s.world
  have htake : client.take signed s (i, timestamp) = ⟨Function.update s.stage i .fulfill, next⟩ := by
    unfold ChainClient.take
    dsimp only
    rw [h.approve i hi, ChainClient.turn, if_neg (not_le.mpr hprice), hnext]
  obtain ⟨hsettlement, hbalance⟩ := happroved.books
  rw [htake]
  exact {
    approve := forall_update (Q := (· = 0)) (P := fun j stage => stage = .approve (signed j).offer.amount)
      (fun j _ => h.approve j) (fun hzero => by cases hzero)
    fulfill := forall_update (Q := (· = 1)) (P := fun _ stage => stage = .fulfill) (fun j _ => h.fulfill j)
      (fun _ => rfl)
    bought := by
      intro j hj
      by_cases hji : j = i
      · rw [hji, Function.update_self] at hj
        omega
      · rw [Function.update_of_ne hji] at hj
        rw [hsettlement]
        obtain ⟨id, hstage, hticket⟩ := h.bought j hj
        exact ⟨id, (Function.update_of_ne hji _ _).trans hstage, hticket⟩
    separate := by
      intro j k id hj hk
      have hreturned : ∀ l, Function.update s.stage i .fulfill l = .returned id → s.stage l = .returned id := by
        intro l hl
        by_cases hli : l = i
        · rw [hli, Function.update_self] at hl
          cases hl
        · rwa [Function.update_of_ne hli] at hl
      exact h.separate j k id (hreturned j hj) (hreturned k hk)
    unused := by
      intro j hj
      rw [hsettlement]
      apply h.unused j
      by_cases hji : j = i
      · rw [hji, hi]
        omega
      · rwa [Function.update_of_ne hji] at hj
    allowance := fun _ _ => happroved.allowance_eq
    funded := by
      rw [pending_approve _ hi, hbalance]
      exact h.funded
    ids := by
      rw [pending_approve _ hi, hsettlement]
      exact h.ids
    fresh := by
      rw [hsettlement]
      exact h.fresh }

theorem OnTrack.buyable (h : OnTrack client signed turns left s) (hoffers : Affordable client signed order w)
    (hmem : (i, timestamp) ∈ order) (hi : turns i = 1) : Buyable client (signed i) timestamp s.world where
  encodes := hoffers.encodes i
  redeemable := hoffers.redeemable i _ hmem
  unused := h.unused i (by omega)
  covered := by
    have hfunded := h.funded
    rw [pending_fulfill _ hi] at hfunded
    omega
  ids := by
    have hids := h.ids
    rw [pending_fulfill _ hi] at hids
    omega
  fresh := h.fresh _ (Nat.lt_succ_self _)

/-- A payment costs the buyer its price at most. -/
theorem Sold.balance_le {signed : SignedOffer} {w next : World T K} (h : Sold client signed w next)
    (hcovered : signed.offer.amount ≤ client.deployment.erc20.balanceOf w.tok client.acct) :
    client.deployment.erc20.balanceOf w.tok client.acct ≤
      client.deployment.erc20.balanceOf next.tok client.acct + signed.offer.amount := by
  have hmoved := moved_eq hcovered signed.offer.onChain.provider client.acct
  rw [← h.balanceOf, flow, if_pos rfl] at hmoved
  split_ifs at hmoved
  · omega
  · omega

omit [DecidableEq ι] in
/-- A ticket that a call has returned is in the books. -/
theorem OnTrack.returned_le (h : OnTrack client signed turns left s) {id : Nat} (hstage : s.stage i = .returned id) :
    id ≤ s.world.settlement.lastId := by
  have hturns : 2 ≤ turns i := by
    by_contra hlt
    rcases (by omega : turns i = 0 ∨ turns i = 1) with hzero | hone
    · cases (h.approve i hzero).symm.trans hstage
    · cases (h.fulfill i hone).symm.trans hstage
  obtain ⟨id', hstage', hle, -⟩ := h.bought i hturns
  cases hstage'.symm.trans hstage
  exact hle

/-- A call that finds its price in the allowance sells. -/
theorem OnTrack.take_sale (hd : Skeleton.Reliable client.deployment) (h : OnTrack client signed turns left s)
    (hoffers : Affordable client signed order w) (hmem : (i, timestamp) ∈ order) (hi : turns i = 1)
    (hleft : (signed i).offer.amount ≤ left) :
    ∃ next, Sold client (signed i) s.world next ∧ client.take signed s (i, timestamp) =
      ⟨Function.update s.stage i (.returned (s.world.settlement.lastId + 1)), next⟩ := by
  have hallowance : client.allowance s.world = left := h.allowance i (by omega)
  have hbuyable := h.buyable hoffers hmem hi
  rcases turn_fulfill hd (hoffers.valid i) (hoffers.tok i) timestamp (hallowance.symm ▸ hleft) with
    ⟨-, next, hsold, hturn⟩ | ⟨hnot, -⟩
  · refine ⟨next, hsold, ?_⟩
    unfold ChainClient.take
    dsimp only
    rw [h.fulfill i hi, hturn]
  · exact absurd hbuyable hnot

/-- A call that finds its price in the allowance gets its ticket. -/
theorem OnTrack.sale (hd : Skeleton.Reliable client.deployment) (h : OnTrack client signed turns left s)
    (hoffers : Affordable client signed order w) (hmem : (i, timestamp) ∈ order) (hi : turns i = 1)
    (hleft : (signed i).offer.amount ≤ left) :
    OnTrack client signed (Function.update turns i 2) (afterSale left (signed i).offer.amount)
      (client.take signed s (i, timestamp)) := by
  have hallowance : client.allowance s.world = left := h.allowance i (by omega)
  have hpending := @pending_fulfill ι _ _ turns i
  obtain ⟨next, hsold, htake⟩ := h.take_sale hd hoffers hmem hi hleft
  rw [htake]
  exact {
    approve := forall_update (Q := (· = 0)) (P := fun j stage => stage = .approve (signed j).offer.amount)
      (fun j _ => h.approve j) (fun hzero => by cases hzero)
    fulfill := forall_update (Q := (· = 1)) (P := fun _ stage => stage = .fulfill) (fun j _ => h.fulfill j)
      (fun hone => by cases hone)
    bought := by
      intro j hj
      rw [hsold.lastId, hsold.owner, hsold.entitlements]
      by_cases hji : j = i
      · rw [hji]
        exact ⟨_, Function.update_self .., le_rfl, Function.update_self .., Function.update_self ..⟩
      · rw [Function.update_of_ne hji] at hj
        obtain ⟨id, hstage, hle, howner, hterms⟩ := h.bought j hj
        have hne : id ≠ s.world.settlement.lastId + 1 := by omega
        refine ⟨id, (Function.update_of_ne hji _ _).trans hstage, by omega, ?_, ?_⟩
        · rw [Function.update_of_ne hne, howner]
        · rw [Function.update_of_ne hne, hterms]
    separate := by
      intro j k id hj hk
      dsimp only at hj hk
      by_cases hji : j = i
      · by_cases hki : k = i
        · rw [hji, hki]
        · rw [hji, Function.update_self] at hj
          rw [Function.update_of_ne hki] at hk
          cases hj
          have hle := h.returned_le hk
          omega
      · rw [Function.update_of_ne hji] at hj
        by_cases hki : k = i
        · rw [hki, Function.update_self] at hk
          cases hk
          have hle := h.returned_le hj
          omega
        · rw [Function.update_of_ne hki] at hk
          exact h.separate j k id hj hk
    unused := by
      intro j hj
      by_cases hji : j = i
      · rw [hji, Function.update_self] at hj
        omega
      · rw [Function.update_of_ne hji] at hj
        have hne := hoffers.distinct.ne hji
        rw [hsold.consumed, Function.update_of_ne hne]
        exact h.unused j hj
    allowance := by
      intro j hj
      rw [hsold.allowance_eq, hallowance, afterSale]
    funded := by
      have hfunded := h.funded
      rw [hpending _ hi] at hfunded
      have hbalance := hsold.balance_le (h.buyable hoffers hmem hi).covered
      dsimp only at hfunded hbalance ⊢
      omega
    ids := by
      have hids := h.ids
      rw [hpending _ hi] at hids
      dsimp only
      rw [hsold.lastId]
      omega
    fresh := by
      intro id hid
      rw [hsold.lastId] at hid
      rw [hsold.owner, Function.update_of_ne (by omega)]
      exact h.fresh id (by omega) }

/-- The transactions of a call that has returned are no more. -/
theorem OnTrack.ended (h : OnTrack client signed turns left s) (hi : 2 ≤ turns i) (timestamp : Nat) :
    client.take signed s (i, timestamp) = s := by
  obtain ⟨id, hstage, -⟩ := h.bought i hi
  unfold ChainClient.take
  dsimp only
  rw [hstage, ChainClient.turn, ← hstage, Function.update_eq_self]

/-- A call that does not find its price gets no ticket. -/
theorem OnTrack.refused (hd : Skeleton.Reliable client.deployment) (h : OnTrack client signed turns left s)
    (hoffers : Affordable client signed order w) (hi : turns i = 1) (hleft : left < (signed i).offer.amount)
    (timestamp : Nat) : ∃ failure, (client.take signed s (i, timestamp)).stage i = .withdraw failure := by
  obtain ⟨request, hrequest⟩ := Option.isSome_iff_exists.mp (hoffers.encodes i)
  obtain ⟨signature, -, hcall, hprice⟩ := fulfillment_eq_some (hoffers.valid i) hrequest
  have hshort : ∃ failure, client.transactRaw timestamp request s.world = .error failure := by
    rw [hcall, ChainClient.transactRaw, exec_inTok (inTok_of_eq signature (hoffers.tok i))]
    cases hdone : fulfillInTok client.deployment timestamp client.acct (signed i).offer.onChain signature s.world with
    | error failure => exact ⟨failure, rfl⟩
    | ok next =>
        obtain ⟨-, -, paid, issued, hpaid, -, -⟩ := fulfillInTok_eq_ok.mp hdone
        have hallowed := (hd.erc20.transferFrom _ _ _ _ _ _ hpaid).1
        rw [Signing.onChain_price_toNat hprice] at hallowed
        have hallowance : client.deployment.erc20.allowance s.world.tok client.acct client.deployment.address = left :=
          h.allowance i (by omega)
        omega
  obtain ⟨failure, hfailure⟩ := hshort
  refine ⟨failure, ?_⟩
  have hturn : client.turn (signed i) timestamp .fulfill s.world = (.withdraw failure, s.world) := by
    rw [ChainClient.turn, hrequest]
    dsimp only
    rw [hfailure]
  unfold ChainClient.take
  dsimp only
  rw [Function.update_self, h.fulfill i hi, hturn]

end Step

section Run

variable {client : ChainClient T K} {signed : ι → SignedOffer} {s : Purchases ι T K} {i : ι}

/-- A call that was refused raises. -/
def Stage.failed : Stage → Bool
  | .withdraw _ => true
  | .raised _ => true
  | _ => false

theorem failed_turn (hfailed : (s.stage i).failed = true) (timestamp : Nat) (w : World T K) :
    (client.turn (signed i) timestamp (s.stage i) w).1.failed = true := by
  cases hstage : s.stage i with
  | withdraw refusal =>
      rw [ChainClient.turn]
      split
      · rfl
      · rfl
  | raised error => rfl
  | approve price =>
      rw [hstage] at hfailed
      cases hfailed
  | fulfill =>
      rw [hstage] at hfailed
      cases hfailed
  | returned id =>
      rw [hstage] at hfailed
      cases hfailed

theorem failed_interleave [DecidableEq ι] (order : List (ι × Nat)) (hfailed : (s.stage i).failed = true) :
    ((order.foldl (client.take signed) s).stage i).failed = true := by
  induction order generalizing s with
  | nil => exact hfailed
  | cons next order ih =>
      apply ih
      unfold ChainClient.take
      dsimp only
      by_cases hi : i = next.1
      · rw [hi, Function.update_self]
        rw [hi] at hfailed
        exact failed_turn hfailed next.2 s.world
      · rw [Function.update_of_ne hi]
        exact hfailed

theorem not_allBought_of_failed (hfailed : (s.stage i).failed = true) : ¬ AllBought client signed s := by
  rintro ⟨ids, -, hbought⟩
  rw [(hbought i).1] at hfailed
  cases hfailed

theorem OnTrack.allBought [Fintype ι] {turns : ι → Nat} {left : Nat} (h : OnTrack client signed turns left s)
    (hturns : ∀ i, 2 ≤ turns i) : AllBought client signed s := by
  choose ids hstage _ howner hterms using fun i => h.bought i (hturns i)
  refine ⟨ids, fun j k hids => ?_, fun i => ⟨hstage i, howner i, hterms i⟩⟩
  have hids' : ids j = ids k := hids
  exact h.separate j k (ids j) (hstage j) (hids' ▸ hstage k)

/-- From where no call has been refused, all get their tickets exactly if each still finds its price. -/
theorem allBought_iff_of_onTrack [DecidableEq ι] [Fintype ι] (hd : Skeleton.Reliable client.deployment) {order : List (ι × Nat)}
    {w : World T K} (hoffers : Affordable client signed order w) {turns : ι → Nat} {left : Nat}
    (h : OnTrack client signed turns left s) (rest : List (ι × Nat)) (hrest : ∀ next ∈ rest, next ∈ order)
    (hturns : ∀ i, 2 ≤ turns i + (rest.map Prod.fst).count i) :
    AllBought client signed (rest.foldl (client.take signed) s) ↔
      covers (fun i => (signed i).offer.amount) (rest.map Prod.fst) turns left = true := by
  induction rest generalizing turns left s with
  | nil => exact iff_of_true (h.allBought hturns) rfl
  | cons next rest ih =>
      obtain ⟨i, timestamp⟩ := next
      have hmem : (i, timestamp) ∈ order := hrest _ List.mem_cons_self
      have hrest' : ∀ next ∈ rest, next ∈ order := fun next hnext => hrest next (List.mem_cons_of_mem _ hnext)
      have hcount : ∀ n, turns i + 1 = n → ∀ j, 2 ≤ Function.update turns i n j + (rest.map Prod.fst).count j := by
        intro n hn j
        have hj := hturns j
        rw [List.map_cons, List.count_cons] at hj
        by_cases hji : j = i
        · rw [hji, Function.update_self]
          rw [hji, beq_self_eq_true, if_pos rfl] at hj
          omega
        · rw [Function.update_of_ne hji]
          rw [if_neg (by rw [beq_iff_eq]; exact Ne.symm hji)] at hj
          exact hj
      rw [List.foldl_cons, List.map_cons, covers]
      match hi : turns i with
      | 0 =>
          have hprice := (hoffers.start_eq i).2
          exact ih (h.approval hd hprice hi timestamp) hrest' (hcount 1 (by omega))
      | 1 =>
          dsimp only
          by_cases hleft : (signed i).offer.amount ≤ left
          · rw [decide_eq_true hleft, Bool.true_and]
            exact ih (h.sale hd hoffers hmem hi hleft) hrest' (hcount 2 (by omega))
          · rw [decide_eq_false hleft, Bool.false_and]
            obtain ⟨failure, hstage⟩ := h.refused hd hoffers hi (not_le.mp hleft) timestamp
            have hfailed : ((client.take signed s (i, timestamp)).stage i).failed = true := by
              rw [hstage]
              rfl
            exact iff_of_false (not_allBought_of_failed (failed_interleave rest hfailed)) Bool.false_ne_true
      | n + 2 =>
          rw [h.ended (by omega) timestamp]
          refine ih h hrest' fun j => ?_
          have hj := hturns j
          rw [List.map_cons, List.count_cons] at hj
          by_cases hji : j = i
          · rw [hji]
            omega
          · rw [if_neg (by rw [beq_iff_eq]; exact Ne.symm hji)] at hj
            exact hj

end Run

/-! ### One after another -/

section Serial

variable [DecidableEq ι]

theorem covers_serial (price : ι → Nat) {calls : List ι} (hnodup : calls.Nodup) {turns : ι → Nat}
    (hturns : ∀ i ∈ calls, turns i = 0) (left : Nat) :
    covers price (calls.flatMap fun i => [i, i]) turns left = true := by
  induction calls generalizing turns left with
  | nil => rfl
  | cons i calls ih =>
      obtain ⟨hi, hcalls⟩ := List.nodup_cons.mp hnodup
      have hrest : ∀ j ∈ calls, Function.update (Function.update turns i 1) i 2 j = 0 := by
        intro j hj
        have hji : j ≠ i := fun heq => hi (heq ▸ hj)
        rw [Function.update_of_ne hji, Function.update_of_ne hji]
        exact hturns j (List.mem_cons_of_mem _ hj)
      rw [List.flatMap_cons, List.cons_append, List.cons_append, List.nil_append, covers,
        hturns i List.mem_cons_self]
      dsimp only
      rw [covers, Function.update_self]
      dsimp only
      rw [decide_eq_true le_rfl, Bool.true_and]
      exact ih hcalls hrest _

/-- Without interleaving every call gets its ticket. -/
theorem allBought_serial [Fintype ι] {client : ChainClient T K} (hd : Skeleton.Reliable client.deployment)
    {signed : ι → SignedOffer} {w : World T K} {order : List (ι × Nat)} (hoffers : Affordable client signed order w)
    {calls : List ι} (hnodup : calls.Nodup) (hall : ∀ i, i ∈ calls)
    (hserial : order.map Prod.fst = calls.flatMap fun i => [i, i]) :
    AllBought client signed (client.interleave signed w order) := by
  have hcount : ∀ i, 2 ≤ 0 + (order.map Prod.fst).count i := by
    intro i
    obtain ⟨before, after, hcalls⟩ := List.append_of_mem (hall i)
    rw [hserial, hcalls, List.flatMap_append, List.flatMap_cons, List.count_append, List.count_append]
    simp only [List.count_cons_self, List.count_nil]
    omega
  have hcovers : covers (fun i => (signed i).offer.amount) (order.map Prod.fst) (fun _ => 0) 0 = true := by
    rw [hserial]
    exact covers_serial _ hnodup (fun _ _ => rfl) 0
  exact (allBought_iff_of_onTrack hd hoffers hoffers.onTrack order (fun _ h => h) hcount).mpr hcovers

/-- However the transactions are interleaved, all calls get their tickets if and only if each finds its price in what
is left of the approval mined last; so they all do when they run one after another. -/
theorem all_bought_iff_covers [Fintype ι] (client : ChainClient T K) (hd : Skeleton.Reliable client.deployment)
    (signed : ι → SignedOffer) (w : World T K) (order : List (ι × Nat)) (hoffers : Affordable client signed order w)
    (hcomplete : ∀ i, 2 ≤ (order.map Prod.fst).count i) :
    (AllBought client signed (client.interleave signed w order) ↔
      covers (fun i => (signed i).offer.amount) (order.map Prod.fst) (fun _ => 0) 0 = true) ∧
    ∀ calls : List ι, calls.Nodup → (∀ i, i ∈ calls) → order.map Prod.fst = (calls.flatMap fun i => [i, i]) →
      AllBought client signed (client.interleave signed w order) := by
  refine ⟨allBought_iff_of_onTrack hd hoffers hoffers.onTrack order (fun _ h => h) fun i => ?_,
    fun calls hnodup hall hserial => allBought_serial hd hoffers hnodup hall hserial⟩
  rw [Nat.zero_add]
  exact hcomplete i

end Serial

/-- Byte strings hash to their last word, and every offer is signed by bell. -/
def twinDeployment : Deployment Registry Ledger where
  keccak256 := fun bytes => BitVec.ofNat 256 (Hex.bigEndian bytes)
  domainSeparator := 0
  recover := fun _ signature => if signature = [1] then some bell else none
  erc721 := Registry.erc721
  erc20 := Ledger.erc20
  address := 0x5e
  tok := 0xc

theorem reliable_twin : Skeleton.Reliable twinDeployment where
  erc721 := Registry.erc721_spec
  erc20 := Ledger.erc20_spec
  recover_ne_zero := by
    intro digest signature hrecover
    change (if _ then some bell else none) = some 0 at hrecover
    split_ifs at hrecover
    cases hrecover
  address_ne_zero := by decide

def twinClient : ChainClient Registry Ledger := .of twinDeployment ada ada_ne_zero

/-- Bell's two offers, for 10 and for 7. -/
def twins (i : Bool) : SignedOffer :=
  let signed := signedAt (if i then "10" else "7")
  { signed with offer := { signed.offer with termsHash := Agents.word64 (if i then 1 else 2) } }

theorem twins_amount : ∀ i, (twins i).offer.amount = if i then 10 else 7 := by decide +kernel

theorem twins_valid (i : Bool) : (twins i).offer.Valid := by
  have hvalid : (signedAt (if i then "10" else "7")).offer.Valid := by
    cases i
    · exact (signedAt_signed (by decide) (by decide +kernel)).valid
    · exact (signedAt_signed (by decide) (by decide +kernel)).valid
  have hterms : isBytes32Hex (twins i).offer.termsHash = true := by
    cases i
    · exact Agents.isBytes32Hex_word64 2
    · exact Agents.isBytes32Hex_word64 1
  exact ⟨hvalid.provider, hvalid.consumer, hvalid.resourceId, hvalid.params, hvalid.paymentToken, hvalid.price,
    hvalid.salt, hterms⟩

/-- A byte string that ends in a word hashes to it. -/
theorem keccak256_append_word (bytes : Bytes) (w : Uint256) : twinDeployment.keccak256 (bytes ++ word w) = w := by
  have hmod : Hex.bigEndian (bytes ++ word w) % 2 ^ 256 = w.toNat := by
    induction bytes with
    | nil =>
        rw [List.nil_append, Skeleton.toNat_bigEndian_word]
        exact Nat.mod_eq_of_lt w.isLt
    | cons byte bytes ih =>
        have hpow : 256 ^ (bytes ++ word w).length * byte.toNat = 2 ^ 256 * (256 ^ bytes.length * byte.toNat) := by
          have hword : (256 : Nat) ^ 32 = 2 ^ 256 := by decide
          rw [List.length_append, word_length, pow_add, hword]
          ring
        rw [List.cons_append, Hex.bigEndian_cons, hpow, Nat.mul_add_mod, ih]
  apply BitVec.eq_of_toNat_eq
  show (BitVec.ofNat 256 (Hex.bigEndian (bytes ++ word w))).toNat = w.toNat
  rw [BitVec.toNat_ofNat, hmod]

theorem hashOffer_twin (terms : Settlement.Offer) : twinDeployment.hashOffer terms = terms.termsHash := by
  have hstruct : twinDeployment.keccak256 (abiEncode (twinDeployment.offerWords terms)) = terms.termsHash := by
    have hwords : twinDeployment.offerWords terms =
        (twinDeployment.offerWords terms).take 12 ++ [terms.termsHash] := rfl
    rw [hwords, abiEncode, List.flatMap_append, List.flatMap_singleton]
    exact keccak256_append_word _ _
  have hdomain : ∀ structHash, twinDeployment.typedData structHash =
      (0x19 :: 0x01 :: word twinDeployment.domainSeparator) ++ word structHash := fun _ => rfl
  rw [Crypto.hashOffer, Crypto.hashTypedDataV4, hstruct, hdomain, keccak256_append_word]

theorem twins_affordable (order : List (Bool × Nat)) (horder : ∀ next ∈ order, next.2 ≤ 100) :
    Affordable twinClient twins order (adaOwns 25) := by
  have hsignature : ∀ i, Hex.fromHex (TypedData.digitsOf (twins i).signature) = some [1] := by
    intro i
    show Hex.fromHex (TypedData.digitsOf "0x01") = some [1]
    decide
  have hconsumer : ∀ i, (twins i).offer.onChain.consumer = 0 := by
    intro i
    show TypedData.addressOf Agents.openConsumer = 0
    decide
  have hsigner : some bell = some (TypedData.addressOf (Skeleton.lowerCase.spell bell)) :=
    congrArg some (Skeleton.lowerCase.addressOf_spell bell).symm
  exact {
    valid := twins_valid
    encodes := by
      intro i
      apply fulfillment_isSome rfl (twins_valid i) ?_ ?_ (hsignature i)
      · rw [twins_amount]
        cases i <;> decide
      · cases i <;> decide
    tok := fun _ => Skeleton.lowerCase.addressOf_spell 0xc
    redeemable := fun i next hnext => ⟨[1], hsignature i, horder next hnext, Or.inl (hconsumer i), hsigner⟩
    unused := fun _ => rfl
    distinct := by
      have hterms : Function.Injective fun i => (twins i).offer.onChain.termsHash := by decide +kernel
      intro i j hdigest
      have hdigest' : twinDeployment.hashOffer (twins i).offer.onChain = twinDeployment.hashOffer (twins j).offer.onChain :=
        hdigest
      rw [hashOffer_twin, hashOffer_twin] at hdigest'
      exact hterms hdigest'
    funded := by simp [twins_amount]; decide
    ids := by decide
    fresh := fun _ _ => rfl }

/-- The second approval comes before the first payment, which it does not cover. -/
theorem second_approval_spoils :
    ¬ ∀ (client : ChainClient Registry Ledger) (signed : Bool → SignedOffer) (w : World Registry Ledger)
        (order : List (Bool × Nat)), Skeleton.Reliable client.deployment → Affordable client signed order w →
      (∀ i, 2 ≤ (order.map Prod.fst).count i) → AllBought client signed (client.interleave signed w order) := by
  intro h
  have hoffers : Affordable twinClient twins [(true, 5), (false, 5), (true, 6), (false, 6), (true, 7), (false, 7)]
      (adaOwns 25) := twins_affordable _ (by decide)
  have hall := h twinClient twins (adaOwns 25) _ reliable_twin hoffers (by decide)
  have hcovers := (allBought_iff_of_onTrack reliable_twin hoffers hoffers.onTrack _ (fun _ hmem => hmem)
    (by decide)).mp hall
  simp only [twins_amount] at hcovers
  exact absurd hcovers (by decide)

theorem all_bought_iff_covers_two :
    AllBought twinClient twins
      (twinClient.interleave twins (adaOwns 25) [(true, 5), (true, 6), (false, 6), (false, 7)]) := by
  obtain ⟨hiff, -⟩ := all_bought_iff_covers twinClient reliable_twin twins (adaOwns 25)
    [(true, 5), (true, 6), (false, 6), (false, 7)] (twins_affordable _ (by decide)) (by decide)
  rw [hiff]
  simp only [twins_amount]
  decide

end A2AProvisioning.Chain
