import A2AProvisioning.SkeletonSimulation

/-! One call of `approve_and_fulfill`, transaction by transaction. The approval is mined on its own, so what it
leaves behind depends on what becomes of the purchase; between any two transactions of the call the other accounts
may do as they like. -/

namespace A2AProvisioning.Chain

open Reentrant Settlement

variable {T K : Type}

/-- Why a call raises. -/
inductive PurchaseError
  | valueError
  | encoding
  | chainRevert (failure : Failure)
  deriving DecidableEq

/-- Where a call stands: the transaction that comes next, or how it has ended. -/
inductive Stage
  | approve (price : Nat)
  | fulfill
  | withdraw (refusal : Failure)
  | returned (entitlementId : Nat)
  | raised (error : PurchaseError)
  deriving DecidableEq

/-- The client of one account. `encode` is the encoder of the library that sends its transactions, `none` where that
raises; what it sends is the tuple. -/
structure ChainClient (T K : Type) where
  deployment : Deployment T K
  acct : Address
  acct_ne_zero : acct ≠ 0
  encode : List TypedData.Value → Option Settlement.Offer
  encode_eq : ∀ {tuple sent}, encode tuple = some sent → Signing.calldata tuple = some sent

namespace ChainClient

variable (client : ChainClient T K)

/-- A transaction is refused in its estimate or when it is mined. -/
def transactRaw (timestamp : Nat) (request : Request) (w : World T K) : Except Failure (World T K) :=
  (exec (Settlement.world client.deployment) timestamp (.entry ⟨client.acct, client.acct_ne_zero, request⟩ [] true)
    w).map Prod.fst

/-- `approve(settlement, amount)`. -/
def approval (amount : Nat) : Request := .tokApprove client.deployment.address (BitVec.ofNat 256 amount)

/-- `fulfill(_offer_tuple(offer), bytes.fromhex(signature[2:]))`. -/
@[irreducible] def fulfillment (signed : SignedOffer) : Option Request := do
  let sent ← (Signing.offerTuple signed.offer).bind client.encode
  let signature ← Hex.fromHex (TypedData.digitsOf signed.signature)
  return .settlement (.fulfill sent signature)

/-- The checks before the first transaction. The addresses are compared in lower case, so as bytes. -/
def start (offer : Offer) : Stage :=
  match Decimal.readInt offer.price.toList with
  | none => .raised .valueError
  | some price =>
      if TypedData.addressOf offer.paymentToken ≠ client.deployment.tok then .raised .valueError else .approve price

/-- One transaction of `approve_and_fulfill`, or an exception instead. -/
def turn (signed : SignedOffer) (timestamp : Nat) : Stage → World T K → Stage × World T K
  | .approve price, w =>
      if 2 ^ 256 ≤ price then (.raised .encoding, w)
      else match client.transactRaw timestamp (client.approval price) w with
        | .error failure => (.raised (.chainRevert failure), w)
        | .ok next => (.fulfill, next)
  | .fulfill, w =>
      match client.fulfillment signed with
      | none => (.raised .encoding, w)
      | some request =>
          match client.transactRaw timestamp request w with
          | .error failure => (.withdraw failure, w)
          | .ok next => (.returned next.settlement.lastId, next)
  | .withdraw refusal, w =>
      -- a second refusal is swallowed, the first is raised
      match client.transactRaw timestamp (client.approval 0) w with
      | .error _ => (.raised (.chainRevert refusal), w)
      | .ok next => (.raised (.chainRevert refusal), next)
  | .returned entitlementId, w => (.returned entitlementId, w)
  | .raised error, w => (.raised error, w)

end ChainClient

/-- A call under way. -/
structure Purchase (T K : Type) where
  stage : Stage
  world : World T K

inductive PurchaseEvent
  | turn (timestamp : Nat)
  | other (timestamp : Nat) (call : Call Sent)

namespace ChainClient

variable (client : ChainClient T K) (signed : SignedOffer)

def advance (p : Purchase T K) : PurchaseEvent → Purchase T K
  | .turn timestamp =>
      ⟨(client.turn signed timestamp p.stage p.world).1, (client.turn signed timestamp p.stage p.world).2⟩
  | .other timestamp call =>
      { p with world := (transact (Settlement.world client.deployment) timestamp call p.world).1 }

/-- `approve_and_fulfill`, as far as the events go. -/
def approveAndFulfill (w : World T K) (events : List PurchaseEvent) : Purchase T K :=
  events.foldl (client.advance signed) ⟨client.start signed.offer, w⟩

/-- What the buyer lets the settlement take. -/
def allowance (w : World T K) : Nat :=
  client.deployment.erc20.allowance w.tok client.acct client.deployment.address

/-- A transaction of somebody else. The settlement has no key, and calls nobody but in `fulfill`. -/
def Strange : PurchaseEvent → Prop
  | .turn _ => True
  | .other _ call => ∀ sent ∈ call.entries, sent.sender ≠ client.acct ∧ sent.sender ≠ client.deployment.address

end ChainClient

/-- The same registry, the same consumed digests and the same balances. -/
def SameBooks (d : Deployment T K) (w w' : World T K) : Prop :=
  w'.settlement = w.settlement ∧ d.erc20.balanceOf w'.tok = d.erc20.balanceOf w.tok

theorem SameBooks.refl {d : Deployment T K} (w : World T K) : SameBooks d w w := ⟨rfl, rfl⟩

theorem SameBooks.trans {d : Deployment T K} {w₁ w₂ w₃ : World T K} (h : SameBooks d w₁ w₂) (h' : SameBooks d w₂ w₃) :
    SameBooks d w₁ w₃ := ⟨h'.1.trans h.1, h'.2.trans h.2⟩

section Turn

variable (client : ChainClient T K) (signed : SignedOffer) {timestamp : Nat}

/-- The contract sells the offer for TOK to an account that has approved the price. -/
structure Buyable (timestamp : Nat) (w : World T K) : Prop where
  encodes : (client.fulfillment signed).isSome
  redeemable : ∃ signature, Hex.fromHex (TypedData.digitsOf signed.signature) = some signature ∧
    Redeemable client.deployment.toPlatform timestamp client.acct signed.offer.onChain signature
  unused : w.settlement.consumed (client.deployment.hashOffer signed.offer.onChain) = false
  covered : signed.offer.amount ≤ client.deployment.erc20.balanceOf w.tok client.acct
  ids : w.settlement.lastId + 1 < 2 ^ 256
  fresh : client.deployment.erc721.owner w.settlement.token (w.settlement.lastId + 1) = 0

/-- The state after the sale of an offer. -/
structure Sold (w next : World T K) : Prop where
  lastId : next.settlement.lastId = w.settlement.lastId + 1
  consumed : next.settlement.consumed =
    Function.update w.settlement.consumed (client.deployment.hashOffer signed.offer.onChain) true
  entitlements : next.settlement.entitlements =
    Function.update w.settlement.entitlements (w.settlement.lastId + 1) signed.offer.onChain.entitlement
  owner : client.deployment.erc721.owner next.settlement.token =
    Function.update (client.deployment.erc721.owner w.settlement.token) (w.settlement.lastId + 1) client.acct
  balanceOf : client.deployment.erc20.balanceOf next.tok =
    moved (client.deployment.erc20.balanceOf w.tok) client.acct signed.offer.onChain.provider signed.offer.amount
  allowance : client.deployment.erc20.allowance next.tok =
    spent (client.deployment.erc20.allowance w.tok) client.acct client.deployment.address signed.offer.amount

/-- The state after an approval. -/
structure Approved (amount : Nat) (w next : World T K) : Prop where
  books : SameBooks client.deployment w next
  allowance : client.deployment.erc20.allowance next.tok =
    Function.update (client.deployment.erc20.allowance w.tok) client.acct
      (Function.update (client.deployment.erc20.allowance w.tok client.acct) client.deployment.address amount)

variable {client signed}

theorem Approved.allowance_eq {amount : Nat} {w next : World T K} (h : Approved client amount w next) :
    client.allowance next = amount := by
  rw [ChainClient.allowance, h.allowance, Function.update_self, Function.update_self]

/-- An approval is not refused. -/
theorem transactRaw_approval (hd : Skeleton.Reliable client.deployment) (timestamp : Nat) {amount : Nat}
    (hamount : amount < 2 ^ 256) (w : World T K) :
    ∃ next, client.transactRaw timestamp (client.approval amount) w = .ok next ∧ Approved client amount w next := by
  obtain ⟨k, hk⟩ := hd.erc20.approve_isOk w.tok client.acct client.deployment.address amount client.acct_ne_zero
    hd.address_ne_zero
  obtain ⟨hbalance, hallowance, -⟩ := hd.erc20.approve _ _ _ _ _ hk
  have htoNat : (BitVec.ofNat 256 amount).toNat = amount := by
    rw [BitVec.toNat_ofNat]
    exact Nat.mod_eq_of_lt hamount
  have henter : (Settlement.world client.deployment).enter timestamp
      ⟨client.acct, client.acct_ne_zero, client.approval amount⟩ w = .ok { w with tok := k } := by
    apply onTok_eq_ok.mpr
    exact ⟨k, by rw [htoNat]; exact hk, rfl⟩
  have hcalls : (Settlement.world client.deployment).callsOut
      ⟨client.acct, client.acct_ne_zero, client.approval amount⟩ = false := rfl
  refine ⟨{ w with tok := k }, ?_, ⟨⟨rfl, hbalance⟩, hallowance⟩⟩
  rw [ChainClient.transactRaw, exec, henter]
  dsimp only
  rw [hcalls, if_neg Bool.false_ne_true]
  rfl

/-- What is sent to the settlement is the offer, and its price fits a word. -/
theorem fulfillment_eq_some (hvalid : signed.offer.Valid) {request : Request}
    (h : client.fulfillment signed = some request) :
    ∃ signature, Hex.fromHex (TypedData.digitsOf signed.signature) = some signature ∧
      request = .settlement (.fulfill signed.offer.onChain signature) ∧ signed.offer.amount < 2 ^ 256 := by
  unfold ChainClient.fulfillment at h
  obtain ⟨sent, hsent, h⟩ := Option.bind_eq_some_iff.mp h
  obtain ⟨signature, hsignature, h⟩ := Option.bind_eq_some_iff.mp h
  obtain ⟨tuple, htuple, hencode⟩ := Option.bind_eq_some_iff.mp hsent
  have hcalldata : (Signing.offerTuple signed.offer).bind Signing.calldata = some sent :=
    Option.bind_eq_some_iff.mpr ⟨tuple, htuple, client.encode_eq hencode⟩
  obtain ⟨rfl, hprice⟩ := Signing.eq_onChain_of_calldata hvalid hcalldata
  cases h
  exact ⟨signature, hsignature, rfl, hprice⟩

/-- A sale: what it needs, and what it does. -/
theorem fulfillInTok_sold (hd : Skeleton.Reliable client.deployment) {timestamp : Nat} {signature : Bytes}
    {w next : World T K} (hprice : signed.offer.amount < 2 ^ 256)
    (h : fulfillInTok client.deployment timestamp client.acct signed.offer.onChain signature w = .ok next) :
    Redeemable client.deployment.toPlatform timestamp client.acct signed.offer.onChain signature ∧
      w.settlement.consumed (client.deployment.hashOffer signed.offer.onChain) = false ∧
      signed.offer.amount ≤ client.deployment.erc20.balanceOf w.tok client.acct ∧
      w.settlement.lastId + 1 < 2 ^ 256 ∧
      client.deployment.erc721.owner w.settlement.token (w.settlement.lastId + 1) = 0 ∧
      Sold client signed w next := by
  obtain ⟨hok, hunused, paid, issued, hpaid, hissued, rfl⟩ := fulfillInTok_eq_ok.mp h
  rw [Signing.onChain_price_toNat hprice] at hpaid
  obtain ⟨-, hcovered, hbalance, hallowance, -⟩ := hd.erc20.transferFrom _ _ _ _ _ _ hpaid
  have hids : w.settlement.lastId + 1 < 2 ^ 256 := by
    by_contra hfull
    have hfull' : ¬ (punched client.deployment signed.offer.onChain w.settlement).lastId + 1 < 2 ^ 256 := hfull
    rw [issue, if_neg hfull'] at hissued
    cases hissued
  obtain ⟨token, hmint, rfl⟩ := issue_eq_ok hissued
  obtain ⟨-, hfresh, howner, -, -⟩ := hd.erc721.mint _ _ _ _ hmint
  exact ⟨hok, hunused, hcovered, hids, hfresh, ⟨rfl, rfl, rfl, howner, hbalance, hallowance⟩⟩

/-- The contract sells to a buyer who has approved the price if and only if the offer is buyable. -/
theorem transactRaw_fulfillment (hd : Skeleton.Reliable client.deployment) (hvalid : signed.offer.Valid)
    (htok : TypedData.addressOf signed.offer.paymentToken = client.deployment.tok) {timestamp : Nat}
    {w : World T K} (happroved : signed.offer.amount ≤ client.allowance w) {request : Request}
    (hrequest : client.fulfillment signed = some request) :
    (Buyable client signed timestamp w ∧ ∃ next, client.transactRaw timestamp request w = .ok next ∧
        Sold client signed w next) ∨
      ¬ Buyable client signed timestamp w ∧ ∃ failure, client.transactRaw timestamp request w = .error failure := by
  obtain ⟨signature, hsignature, rfl, hprice⟩ := fulfillment_eq_some hvalid hrequest
  rw [ChainClient.transactRaw, exec_inTok (inTok_of_eq signature htok)]
  cases hdone : fulfillInTok client.deployment timestamp client.acct signed.offer.onChain signature w with
  | ok next =>
      obtain ⟨hok, hunused, hcovered, hids, hfresh, hsold⟩ := fulfillInTok_sold hd hprice hdone
      have hencodes : (client.fulfillment signed).isSome = true := Option.isSome_of_mem hrequest
      exact Or.inl ⟨⟨hencodes, ⟨signature, hsignature, hok⟩, hunused, hcovered, hids, hfresh⟩, next, rfl, hsold⟩
  | error failure =>
      refine Or.inr ⟨fun hbuyable => ?_, failure, rfl⟩
      obtain ⟨signature', hsignature', hok⟩ := hbuyable.redeemable
      cases hsignature.symm.trans hsignature'
      have hallowed : signed.offer.onChain.price.toNat ≤
          client.deployment.erc20.allowance w.tok client.acct client.deployment.address := by
        rw [Signing.onChain_price_toNat hprice]
        exact happroved
      have hcovered : signed.offer.onChain.price.toNat ≤ client.deployment.erc20.balanceOf w.tok client.acct := by
        rw [Signing.onChain_price_toNat hprice]
        exact hbuyable.covered
      obtain ⟨token, paid, hdone', -⟩ := @Skeleton.fulfillInTok_of_covered T K client.deployment signature
        ⟨client.acct, client.acct_ne_zero⟩ hd timestamp signed.offer.onChain w hok hbuyable.unused hallowed hcovered
        hbuyable.ids hbuyable.fresh
      rw [hdone] at hdone'
      cases hdone'

/-- The turn of a call that has approved the price. -/
theorem turn_fulfill (hd : Skeleton.Reliable client.deployment) (hvalid : signed.offer.Valid)
    (htok : TypedData.addressOf signed.offer.paymentToken = client.deployment.tok) (timestamp : Nat)
    {w : World T K} (happroved : signed.offer.amount ≤ client.allowance w) :
    (Buyable client signed timestamp w ∧ ∃ next, Sold client signed w next ∧
        client.turn signed timestamp .fulfill w = (.returned (w.settlement.lastId + 1), next)) ∨
      ¬ Buyable client signed timestamp w ∧ (client.turn signed timestamp .fulfill w = (.raised .encoding, w) ∨
        ∃ failure, client.turn signed timestamp .fulfill w = (.withdraw failure, w)) := by
  cases hrequest : client.fulfillment signed with
  | none =>
      refine Or.inr ⟨fun hbuyable => ?_, Or.inl ?_⟩
      · have hencodes := hbuyable.encodes
        rw [hrequest] at hencodes
        cases hencodes
      · simp only [ChainClient.turn, hrequest]
  | some request =>
      have hcases : Buyable client signed timestamp w ∧ _ ∨ _ := transactRaw_fulfillment hd hvalid htok happroved hrequest
      rcases hcases with ⟨hbuyable, next, hnext, hsold⟩ | ⟨hnot, failure, hfailure⟩
      · refine Or.inl ⟨hbuyable, next, hsold, ?_⟩
        simp only [ChainClient.turn, hrequest, hnext, hsold.lastId]
      · refine Or.inr ⟨hnot, Or.inr ⟨failure, ?_⟩⟩
        simp only [ChainClient.turn, hrequest, hfailure]

variable (signed) in
theorem turn_withdraw (hd : Skeleton.Reliable client.deployment) (timestamp : Nat) (refusal : Failure) (w : World T K) :
    ∃ next, client.turn signed timestamp (.withdraw refusal) w = (.raised (.chainRevert refusal), next) ∧
      Approved client 0 w next := by
  obtain ⟨next, hnext, happroved⟩ := transactRaw_approval hd timestamp (by decide : 0 < 2 ^ 256) w
  exact ⟨next, by simp only [ChainClient.turn, hnext], happroved⟩

variable (signed) in
theorem turn_approve (hd : Skeleton.Reliable client.deployment) (timestamp price : Nat) (w : World T K) :
    client.turn signed timestamp (.approve price) w = (.raised .encoding, w) ∨
      price < 2 ^ 256 ∧ ∃ next, client.turn signed timestamp (.approve price) w = (.fulfill, next) ∧
        Approved client price w next := by
  by_cases hprice : 2 ^ 256 ≤ price
  · left
    rw [ChainClient.turn, if_pos hprice]
  · obtain ⟨next, hnext, happroved⟩ := transactRaw_approval hd timestamp (not_le.mp hprice) w
    refine Or.inr ⟨not_le.mp hprice, next, ?_, happroved⟩
    rw [ChainClient.turn, if_neg hprice, hnext]

/-- What is sold for the price that was approved uses the approval up, unless it is an infinite one. -/
theorem Sold.allowance_eq {w next : World T K} (h : Sold client signed w next) :
    client.allowance next =
      if client.allowance w = infiniteAllowance then infiniteAllowance else client.allowance w - signed.offer.amount := by
  have hbefore : client.deployment.erc20.allowance w.tok client.acct client.deployment.address = client.allowance w := rfl
  rw [ChainClient.allowance, h.allowance, spent, hbefore]
  split_ifs with hmax
  · exact hbefore.trans hmax
  · rw [Function.update_self, Function.update_self]

/-- Nobody else can use or change what the buyer has approved. -/
theorem allowance_of_took (hd : Skeleton.Reliable client.deployment) {sent : Sent}
    (hstranger : sent.sender ≠ client.acct ∧ sent.sender ≠ client.deployment.address) {request : Request}
    {w next : World T K} (htook : Took client.deployment timestamp sent w request next) :
    client.allowance next = client.allowance w := by
  obtain ⟨hbuyer, hself⟩ := hstranger
  unfold ChainClient.allowance
  cases htook with
  | fulfill htok hok hunused hpaid hissued =>
      rw [(hd.erc20.transferFrom _ _ _ _ _ _ hpaid).2.2.2.1, spent]
      split_ifs
      · rfl
      · rw [Function.update_of_ne (Ne.symm hbuyer)]
  | settlement hother hentered => rfl
  | faucet hk => rw [(hd.erc20.mint _ _ _ _ hk).2.1]
  | tokApprove hk => rw [(hd.erc20.approve _ _ _ _ _ hk).2.1, Function.update_of_ne (Ne.symm hbuyer)]
  | tokTransfer hk => rw [(hd.erc20.transfer _ _ _ _ _ hk).2.2.1]
  | @tokTransferFrom source target amount k hk =>
      rw [(hd.erc20.transferFrom _ _ _ _ _ _ hk).2.2.2.1, spent]
      split_ifs
      · rfl
      · by_cases hsource : client.acct = source
        · rw [hsource, Function.update_self, Function.update_of_ne (Ne.symm hself)]
        · rw [Function.update_of_ne hsource]

theorem allowance_of_leave {sent : Sent} {w next : World T K} (hcalls : World.callsOut client.deployment sent = true)
    (hleft : World.leave client.deployment sent w = .ok next) : client.allowance next = client.allowance w := by
  obtain ⟨sender, hsender, request⟩ := sent
  cases request with
  | settlement data =>
      obtain ⟨s, -, rfl⟩ := onSettlement_eq_ok.mp hleft
      rfl
  | faucet target amount => cases hcalls
  | tokApprove spender amount => cases hcalls
  | tokTransfer target amount => cases hcalls
  | tokTransferFrom source target amount => cases hcalls

theorem allowance_transact (hd : Skeleton.Reliable client.deployment) {call : Call Sent}
    (hstrange : client.Strange (.other timestamp call)) (w : World T K) :
    client.allowance (transact (Settlement.world client.deployment) timestamp call w).1 = client.allowance w := by
  refine transact_preserves (P := fun w' => client.allowance w' = client.allowance w) timestamp call ?_ rfl
  rintro ⟨block, before, half, after⟩ hfires hentry hbefore
  refine Eq.trans ?_ hbefore
  cases half with
  | enter sent => exact allowance_of_took hd (hstrange sent hentry) (took_of_enter hfires)
  | leave sent => exact allowance_of_leave hfires.1 hfires.2

end Turn

/-! ### A whole call -/

section Call

variable (client : ChainClient T K) (signed : SignedOffer)

/-- What the buyer's allowance is at each stage. -/
def Standing : Stage → World T K → Prop
  | .approve price, _ => price = signed.offer.amount
  | .fulfill, w => client.allowance w = signed.offer.amount
  | .withdraw _, _ => True
  | .returned _, w =>
      client.allowance w = if signed.offer.amount = infiniteAllowance then infiniteAllowance else 0
  | .raised (.chainRevert _), w => client.allowance w = 0
  | .raised _, _ => True

/-- A call that has ended leaves no allowance, and one that was refused has itself changed nothing else: neither any
of its transactions, nor all of it where no others are mined. -/
structure NoTrace (w : World T K) (events : List PurchaseEvent) : Prop where
  allowance : ((∃ id, (client.approveAndFulfill signed w events).stage = .returned id) ∨
      ∃ failure, (client.approveAndFulfill signed w events).stage = .raised (.chainRevert failure)) →
    client.allowance (client.approveAndFulfill signed w events).world = 0
  refused : ∀ failure, (client.approveAndFulfill signed w events).stage = .raised (.chainRevert failure) →
    ∀ before timestamp after, events = before ++ .turn timestamp :: after →
      SameBooks client.deployment (client.approveAndFulfill signed w before).world
        (client.approveAndFulfill signed w (before ++ [.turn timestamp])).world
  alone : ∀ failure, (client.approveAndFulfill signed w events).stage = .raised (.chainRevert failure) →
    (∀ event ∈ events, ∃ timestamp, event = .turn timestamp) →
      SameBooks client.deployment w (client.approveAndFulfill signed w events).world

variable {client signed}

theorem approveAndFulfill_concat (w : World T K) (events : List PurchaseEvent) (event : PurchaseEvent) :
    client.approveAndFulfill signed w (events ++ [event]) =
      client.advance signed (client.approveAndFulfill signed w events) event := by
  rw [ChainClient.approveAndFulfill, List.foldl_append]
  rfl

theorem stage_other (p : Purchase T K) (timestamp : Nat) (call : Call Sent) :
    (client.advance signed p (.other timestamp call)).stage = p.stage := rfl

/-- A call that has ended stays as it is. -/
theorem stage_of_ended {p : Purchase T K} (hend : (∃ id, p.stage = .returned id) ∨ ∃ error, p.stage = .raised error)
    (events : List PurchaseEvent) : (events.foldl (client.advance signed) p).stage = p.stage := by
  induction events generalizing p with
  | nil => rfl
  | cons event events ih =>
      have hstage : (client.advance signed p event).stage = p.stage := by
        cases event with
        | other timestamp call => exact stage_other p timestamp call
        | turn timestamp =>
            rw [ChainClient.advance]
            dsimp only
            rcases hend with ⟨id, hend⟩ | ⟨error, hend⟩
            · rw [hend]
              rfl
            · rw [hend]
              rfl
      rw [List.foldl_cons, ih (by rw [hstage]; exact hend), hstage]

theorem start_of_other_token (htok : TypedData.addressOf signed.offer.paymentToken ≠ client.deployment.tok) :
    client.start signed.offer = .raised .valueError := by
  unfold ChainClient.start
  cases Decimal.readInt signed.offer.price.toList with
  | none => rfl
  | some price => exact if_pos htok

theorem standing_start (w : World T K) : Standing client signed (client.start signed.offer) w := by
  unfold ChainClient.start
  cases hprice : Decimal.readInt signed.offer.price.toList with
  | none => trivial
  | some price =>
      dsimp only
      split_ifs
      · trivial
      · rw [Decimal.readInt] at hprice
        split_ifs at hprice
        exact (Option.some.inj hprice).symm

/-- One transaction of the call keeps what the allowance is to be, and changes nothing else unless it is the sale. -/
theorem standing_turn (hd : Skeleton.Reliable client.deployment) (hvalid : signed.offer.Valid)
    (htok : TypedData.addressOf signed.offer.paymentToken = client.deployment.tok) (timestamp : Nat) {stage : Stage}
    {w : World T K} (hstanding : Standing client signed stage w) :
    Standing client signed (client.turn signed timestamp stage w).1 (client.turn signed timestamp stage w).2 ∧
      (SameBooks client.deployment w (client.turn signed timestamp stage w).2 ∨
        stage = .fulfill ∧ Buyable client signed timestamp w ∧
          ∃ id, (client.turn signed timestamp stage w).1 = .returned id) := by
  cases stage with
  | approve price =>
      obtain rfl : price = signed.offer.amount := hstanding
      rcases turn_approve signed hd timestamp signed.offer.amount w with hturn | ⟨-, next, hturn, happroved⟩
      · rw [hturn]
        exact ⟨trivial, Or.inl (SameBooks.refl w)⟩
      · rw [hturn]
        exact ⟨happroved.allowance_eq, Or.inl happroved.books⟩
  | fulfill =>
      have hallowance : client.allowance w = signed.offer.amount := hstanding
      rcases turn_fulfill hd hvalid htok timestamp (le_of_eq hallowance.symm) with
        ⟨hbuyable, next, hsold, hturn⟩ | ⟨-, hturn | ⟨failure, hturn⟩⟩
      · rw [hturn]
        refine ⟨?_, Or.inr ⟨rfl, hbuyable, _, rfl⟩⟩
        show client.allowance next = _
        rw [hsold.allowance_eq, hallowance, Nat.sub_self]
      · rw [hturn]
        exact ⟨trivial, Or.inl (SameBooks.refl w)⟩
      · rw [hturn]
        exact ⟨trivial, Or.inl (SameBooks.refl w)⟩
  | withdraw refusal =>
      obtain ⟨next, hturn, happroved⟩ := turn_withdraw signed hd timestamp refusal w
      rw [hturn]
      exact ⟨happroved.allowance_eq, Or.inl happroved.books⟩
  | returned id => exact ⟨hstanding, Or.inl (SameBooks.refl w)⟩
  | raised error => exact ⟨hstanding, Or.inl (SameBooks.refl w)⟩

theorem standing_other (hd : Skeleton.Reliable client.deployment) {timestamp : Nat} {call : Call Sent}
    (hstrange : client.Strange (.other timestamp call)) {stage : Stage} {w : World T K}
    (hstanding : Standing client signed stage w) :
    Standing client signed stage (transact (Settlement.world client.deployment) timestamp call w).1 := by
  have hallowance := allowance_transact hd hstrange w
  cases stage with
  | approve price => exact hstanding
  | fulfill => exact hallowance.trans hstanding
  | withdraw refusal => trivial
  | returned id => exact hallowance.trans hstanding
  | raised error =>
      cases error with
      | valueError => trivial
      | encoding => trivial
      | chainRevert failure => exact hallowance.trans hstanding

theorem standing_run (hd : Skeleton.Reliable client.deployment) (hvalid : signed.offer.Valid)
    (htok : TypedData.addressOf signed.offer.paymentToken = client.deployment.tok) (w : World T K)
    (events : List PurchaseEvent) (hstrange : ∀ event ∈ events, client.Strange event) :
    Standing client signed (client.approveAndFulfill signed w events).stage
      (client.approveAndFulfill signed w events).world := by
  induction events using List.reverseRecOn with
  | nil => exact standing_start w
  | append_singleton events event ih =>
      have hbefore := ih fun event' hmem => hstrange event' (List.mem_append_left _ hmem)
      rw [approveAndFulfill_concat]
      cases event with
      | turn timestamp => exact (standing_turn hd hvalid htok timestamp hbefore).1
      | other timestamp call =>
          exact standing_other hd (hstrange _ (List.mem_append_right _ List.mem_cons_self)) hbefore

theorem allowance_of_returned (hd : Skeleton.Reliable client.deployment) (hvalid : signed.offer.Valid)
    (htok : TypedData.addressOf signed.offer.paymentToken = client.deployment.tok) {w : World T K}
    {events : List PurchaseEvent} (hstrange : ∀ event ∈ events, client.Strange event) {id : Nat}
    (hreturned : (client.approveAndFulfill signed w events).stage = .returned id) :
    client.allowance (client.approveAndFulfill signed w events).world =
      if signed.offer.amount = infiniteAllowance then infiniteAllowance else 0 := by
  have hstanding := standing_run hd hvalid htok w events hstrange
  rw [hreturned] at hstanding
  exact hstanding

theorem start_eq_approve (htok : TypedData.addressOf signed.offer.paymentToken = client.deployment.tok)
    (hread : signed.offer.price.toList.length ≤ Decimal.maxStrDigits) :
    client.start signed.offer = .approve signed.offer.amount := by
  have hprice : Decimal.readInt signed.offer.price.toList = some signed.offer.amount := if_pos hread
  unfold ChainClient.start
  rw [hprice]
  exact if_neg (not_not.mpr htok)

/-- What can be bought depends on the books alone. -/
theorem Buyable.of_sameBooks {timestamp : Nat} {w w' : World T K} (h : Buyable client signed timestamp w)
    (hbooks : SameBooks client.deployment w w') : Buyable client signed timestamp w' := by
  obtain ⟨hsettlement, hbalance⟩ := hbooks
  exact ⟨h.encodes, h.redeemable, by rw [hsettlement]; exact h.unused, by rw [hbalance]; exact h.covered,
    by rw [hsettlement]; exact h.ids, by rw [hsettlement]; exact h.fresh⟩

/-- A buyable offer is bought in two transactions. -/
theorem returned_of_buyable (hd : Skeleton.Reliable client.deployment) (hvalid : signed.offer.Valid)
    (htok : TypedData.addressOf signed.offer.paymentToken = client.deployment.tok)
    (hread : signed.offer.price.toList.length ≤ Decimal.maxStrDigits) (timestamp timestamp' : Nat) {w : World T K}
    (hbuyable : Buyable client signed timestamp' w) :
    (client.approveAndFulfill signed w [.turn timestamp, .turn timestamp']).stage =
      .returned (w.settlement.lastId + 1) := by
  obtain ⟨request, hrequest⟩ := Option.isSome_iff_exists.mp hbuyable.encodes
  obtain ⟨-, -, -, hprice⟩ := fulfillment_eq_some hvalid hrequest
  obtain ⟨next, hnext, happroved⟩ := transactRaw_approval hd timestamp hprice w
  have hfirst : client.turn signed timestamp (client.start signed.offer) w = (.fulfill, next) := by
    rw [start_eq_approve htok hread, ChainClient.turn, if_neg (not_le.mpr hprice), hnext]
  have hsecond : (client.turn signed timestamp' .fulfill next).1 = .returned (w.settlement.lastId + 1) := by
    rcases turn_fulfill hd hvalid htok timestamp' (le_of_eq happroved.allowance_eq.symm) with
      ⟨-, last, -, hturn⟩ | ⟨hnot, -⟩
    · rw [hturn, happroved.books.1]
    · exact absurd (hbuyable.of_sameBooks happroved.books) hnot
  have hrun : client.approveAndFulfill signed w [.turn timestamp, .turn timestamp'] =
      client.advance signed (client.advance signed ⟨client.start signed.offer, w⟩ (.turn timestamp))
        (.turn timestamp') := rfl
  rw [hrun]
  unfold ChainClient.advance
  dsimp only
  rw [hfirst]
  exact hsecond

/-- An offer that can be sent and is not buyable is refused, and the approval withdrawn. -/
theorem raised_of_not_buyable (hd : Skeleton.Reliable client.deployment) (hvalid : signed.offer.Valid)
    (htok : TypedData.addressOf signed.offer.paymentToken = client.deployment.tok)
    (hread : signed.offer.price.toList.length ≤ Decimal.maxStrDigits)
    (hencodes : (client.fulfillment signed).isSome = true) (timestamp timestamp' timestamp'' : Nat) {w : World T K}
    (hnot : ¬ Buyable client signed timestamp' w) :
    ∃ failure, (client.approveAndFulfill signed w [.turn timestamp, .turn timestamp', .turn timestamp'']).stage =
      .raised (.chainRevert failure) := by
  obtain ⟨request, hrequest⟩ := Option.isSome_iff_exists.mp hencodes
  obtain ⟨-, -, -, hprice⟩ := fulfillment_eq_some hvalid hrequest
  obtain ⟨next, hnext, happroved⟩ := transactRaw_approval hd timestamp hprice w
  have hfirst : client.turn signed timestamp (client.start signed.offer) w = (.fulfill, next) := by
    rw [start_eq_approve htok hread, ChainClient.turn, if_neg (not_le.mpr hprice), hnext]
  have hnot' : ¬ Buyable client signed timestamp' next := fun hbuyable =>
    hnot (hbuyable.of_sameBooks ⟨happroved.books.1.symm, happroved.books.2.symm⟩)
  have hsecond : ∃ failure, client.turn signed timestamp' .fulfill next = (.withdraw failure, next) := by
    have hcases : Buyable client signed timestamp' next ∧ _ ∨ _ :=
      transactRaw_fulfillment hd hvalid htok (le_of_eq happroved.allowance_eq.symm) hrequest
    rcases hcases with ⟨hbuyable, -⟩ | ⟨-, failure, hfailure⟩
    · exact absurd hbuyable hnot'
    · exact ⟨failure, by simp only [ChainClient.turn, hrequest, hfailure]⟩
  obtain ⟨failure, hsecond⟩ := hsecond
  obtain ⟨last, hlast, -⟩ := turn_withdraw signed hd timestamp'' failure next
  refine ⟨failure, ?_⟩
  have hrun : client.approveAndFulfill signed w [.turn timestamp, .turn timestamp', .turn timestamp''] =
      client.advance signed (client.advance signed (client.advance signed ⟨client.start signed.offer, w⟩
        (.turn timestamp)) (.turn timestamp')) (.turn timestamp'') := rfl
  rw [hrun]
  unfold ChainClient.advance
  dsimp only
  rw [hfirst, hsecond, hlast]

/-- A turn after which the call has returned is a sale, if it had not returned before. -/
theorem turn_returned (hd : Skeleton.Reliable client.deployment) (hvalid : signed.offer.Valid)
    (htok : TypedData.addressOf signed.offer.paymentToken = client.deployment.tok) {timestamp : Nat} {stage : Stage}
    {w : World T K} (hstanding : Standing client signed stage w) {id : Nat}
    (hreturned : (client.turn signed timestamp stage w).1 = .returned id) :
    stage = .returned id ∨ stage = .fulfill ∧ Buyable client signed timestamp w := by
  cases stage with
  | approve price =>
      rcases turn_approve signed hd timestamp price w with hturn | ⟨-, next, hturn, -⟩
      · rw [hturn] at hreturned
        cases hreturned
      · rw [hturn] at hreturned
        cases hreturned
  | fulfill =>
      have hallowance : client.allowance w = signed.offer.amount := hstanding
      rcases turn_fulfill hd hvalid htok timestamp (le_of_eq hallowance.symm) with
        ⟨hbuyable, -⟩ | ⟨-, hturn | ⟨failure, hturn⟩⟩
      · exact Or.inr ⟨rfl, hbuyable⟩
      · rw [hturn] at hreturned
        cases hreturned
      · rw [hturn] at hreturned
        cases hreturned
  | withdraw refusal =>
      obtain ⟨next, hturn, -⟩ := turn_withdraw signed hd timestamp refusal w
      rw [hturn] at hreturned
      cases hreturned
  | returned id' => exact Or.inl hreturned
  | raised error => cases hreturned

/-- A call returns by a sale. -/
theorem sale_of_returned (hd : Skeleton.Reliable client.deployment) (hvalid : signed.offer.Valid)
    (htok : TypedData.addressOf signed.offer.paymentToken = client.deployment.tok) (w : World T K)
    (events : List PurchaseEvent) (hstrange : ∀ event ∈ events, client.Strange event) {id : Nat}
    (hreturned : (client.approveAndFulfill signed w events).stage = .returned id) :
    ∃ before timestamp after, events = before ++ .turn timestamp :: after ∧
      (client.approveAndFulfill signed w before).stage = .fulfill ∧
      Buyable client signed timestamp (client.approveAndFulfill signed w before).world := by
  induction events using List.reverseRecOn with
  | nil =>
      change client.start signed.offer = .returned id at hreturned
      unfold ChainClient.start at hreturned
      split at hreturned
      · cases hreturned
      · split_ifs at hreturned
  | append_singleton events event ih =>
      have hstrange' : ∀ event' ∈ events, client.Strange event' :=
        fun event' hmem => hstrange event' (List.mem_append_left _ hmem)
      have hearlier : (client.approveAndFulfill signed w events).stage = .returned id →
          ∃ before timestamp after, events ++ [event] = before ++ .turn timestamp :: after ∧
            (client.approveAndFulfill signed w before).stage = .fulfill ∧
            Buyable client signed timestamp (client.approveAndFulfill signed w before).world := by
        intro hbefore
        obtain ⟨before, timestamp, after, rfl, hsale⟩ := ih hstrange' hbefore
        exact ⟨before, timestamp, after ++ [event], by rw [List.append_assoc, List.cons_append], hsale⟩
      rw [approveAndFulfill_concat] at hreturned
      cases event with
      | other timestamp call => exact hearlier hreturned
      | turn timestamp =>
          have hstanding := standing_run hd hvalid htok w events hstrange'
          rcases turn_returned hd hvalid htok hstanding hreturned with hbefore | ⟨hstage, hbuyable⟩
          · exact hearlier hbefore
          · exact ⟨events, timestamp, [], rfl, hstage, hbuyable⟩

/-- The transactions of a call that was refused have sold nothing, so the books are as they found them. -/
theorem books_of_refused (hd : Skeleton.Reliable client.deployment) (hvalid : signed.offer.Valid)
    (htok : TypedData.addressOf signed.offer.paymentToken = client.deployment.tok) (w : World T K)
    {before after : List PurchaseEvent} {timestamp : Nat}
    (hstrange : ∀ event ∈ before ++ .turn timestamp :: after, client.Strange event) {error : PurchaseError}
    (hraised : (client.approveAndFulfill signed w (before ++ .turn timestamp :: after)).stage = .raised error) :
    SameBooks client.deployment (client.approveAndFulfill signed w before).world
      (client.approveAndFulfill signed w (before ++ [.turn timestamp])).world := by
  have hstanding := standing_run hd hvalid htok w before fun event hmem => hstrange event (List.mem_append_left _ hmem)
  rcases (standing_turn hd hvalid htok timestamp hstanding).2 with hbooks | ⟨-, -, id, hreturned⟩
  · rw [approveAndFulfill_concat]
    exact hbooks
  · -- a sale would have ended the call otherwise
    have hsold : (client.approveAndFulfill signed w (before ++ [.turn timestamp])).stage = .returned id := by
      rw [approveAndFulfill_concat]
      exact hreturned
    have hsame : (client.approveAndFulfill signed w (before ++ .turn timestamp :: after)).stage = .returned id := by
      rw [← hsold, List.append_cons, ChainClient.approveAndFulfill, List.foldl_append]
      exact stage_of_ended (Or.inl ⟨id, hsold⟩) after
    rw [hraised] at hsame
    cases hsame

theorem books_alone (w : World T K) (events : List PurchaseEvent)
    (hturns : ∀ event ∈ events, ∃ timestamp, event = .turn timestamp)
    (hbooks : ∀ before timestamp after, events = before ++ .turn timestamp :: after →
      SameBooks client.deployment (client.approveAndFulfill signed w before).world
        (client.approveAndFulfill signed w (before ++ [.turn timestamp])).world) :
    SameBooks client.deployment w (client.approveAndFulfill signed w events).world := by
  induction events using List.reverseRecOn with
  | nil => exact SameBooks.refl w
  | append_singleton events event ih =>
      obtain ⟨timestamp, rfl⟩ := hturns event (List.mem_append_right _ List.mem_cons_self)
      have hbefore := ih (fun event' hmem => hturns event' (List.mem_append_left _ hmem)) (by
        rintro before timestamp' after rfl
        exact hbooks before timestamp' (after ++ [.turn timestamp]) (by rw [List.append_assoc, List.cons_append]))
      exact hbefore.trans (hbooks events timestamp [] rfl)

/-- Where no sale is for the infinite allowance, the end of a call leaves no trace. -/
theorem noTrace_of_modest (hd : Skeleton.Reliable client.deployment) (hvalid : signed.offer.Valid) (w : World T K)
    (events : List PurchaseEvent) (hstrange : ∀ event ∈ events, client.Strange event)
    (hmodest : ∀ before timestamp after, events = before ++ .turn timestamp :: after →
      (client.approveAndFulfill signed w before).stage = .fulfill → signed.offer.amount = infiniteAllowance →
        ¬ Buyable client signed timestamp (client.approveAndFulfill signed w before).world) :
    NoTrace client signed w events := by
  by_cases htok : TypedData.addressOf signed.offer.paymentToken = client.deployment.tok
  · have hstanding := standing_run hd hvalid htok w events hstrange
    have hrefused : ∀ failure, (client.approveAndFulfill signed w events).stage = .raised (.chainRevert failure) →
        ∀ before timestamp after, events = before ++ .turn timestamp :: after →
          SameBooks client.deployment (client.approveAndFulfill signed w before).world
            (client.approveAndFulfill signed w (before ++ [.turn timestamp])).world := by
      rintro failure hraised before timestamp after rfl
      exact books_of_refused hd hvalid htok w hstrange hraised
    refine ⟨?_, hrefused, fun failure hraised hturns => books_alone w events hturns (hrefused failure hraised)⟩
    rintro (⟨id, hend⟩ | ⟨failure, hend⟩)
    · rw [allowance_of_returned hd hvalid htok hstrange hend]
      split_ifs with hmax
      · obtain ⟨before, timestamp, after, hsplit, hstage, hbuyable⟩ :=
          sale_of_returned hd hvalid htok w events hstrange hend
        exact absurd hbuyable (hmodest before timestamp after hsplit hstage hmax)
      · rfl
    · rw [hend] at hstanding
      exact hstanding
  · have hstage : (client.approveAndFulfill signed w events).stage = .raised .valueError := by
      have hstart := start_of_other_token htok
      rw [ChainClient.approveAndFulfill, stage_of_ended (Or.inr ⟨_, hstart⟩), hstart]
    refine ⟨?_, fun failure hraised => ?_, fun failure hraised => ?_⟩
    · rintro (⟨id, hend⟩ | ⟨failure, hend⟩)
      · rw [hstage] at hend
        cases hend
      · rw [hstage] at hend
        cases hend
    · rw [hstage] at hraised
      cases hraised
    · rw [hstage] at hraised
      cases hraised

end Call

/-- In every state that a call reaches it leaves no trace, unless it buys for the infinite allowance. -/
theorem leaves_no_trace_iff (client : ChainClient T K) (hd : Skeleton.Reliable client.deployment) (signed : SignedOffer)
    (hvalid : signed.offer.Valid) (w : World T K) (events : List PurchaseEvent)
    (hstrange : ∀ event ∈ events, client.Strange event) :
    (∀ reached, reached <+: events → NoTrace client signed w reached) ↔
      ∀ before timestamp after, events = before ++ .turn timestamp :: after →
        (client.approveAndFulfill signed w before).stage = .fulfill → signed.offer.amount = infiniteAllowance →
          ¬ Buyable client signed timestamp (client.approveAndFulfill signed w before).world := by
  constructor
  · rintro hclean before timestamp after rfl hstage hmax hbuyable
    have hstrange' : ∀ event ∈ before, client.Strange event :=
      fun event hmem => hstrange event (List.mem_append_left _ hmem)
    have htok : TypedData.addressOf signed.offer.paymentToken = client.deployment.tok := by
      by_contra hother
      have hstart := start_of_other_token hother
      rw [ChainClient.approveAndFulfill, stage_of_ended (Or.inr ⟨_, hstart⟩), hstart] at hstage
      cases hstage
    have hstanding := standing_run hd hvalid htok w before hstrange'
    have hallowance : client.allowance (client.approveAndFulfill signed w before).world = signed.offer.amount := by
      rw [hstage] at hstanding
      exact hstanding
    have hprefix : before ++ [.turn timestamp] <+: before ++ .turn timestamp :: after :=
      ⟨after, by rw [List.append_assoc, List.singleton_append]⟩
    rcases turn_fulfill hd hvalid htok timestamp (le_of_eq hallowance.symm) with ⟨-, next, hsold, hturn⟩ | ⟨hnot, -⟩
    · have hleft := (hclean _ hprefix).allowance
      rw [approveAndFulfill_concat, ChainClient.advance, hstage] at hleft
      dsimp only at hleft
      rw [hturn, hsold.allowance_eq, hallowance, if_pos hmax] at hleft
      exact absurd (hleft (Or.inl ⟨_, rfl⟩)) (by decide)
    · exact hnot hbuyable
  · rintro hmodest reached ⟨rest, rfl⟩
    refine noTrace_of_modest hd hvalid w reached (fun event hmem => hstrange event (List.mem_append_left _ hmem)) ?_
    rintro before timestamp after rfl
    exact hmodest before timestamp (after ++ rest) (by rw [List.append_assoc, List.cons_append])

/-- An encoder that takes every tuple takes every valid offer. -/
theorem fulfillment_isSome {client : ChainClient T K} {signed : SignedOffer} (hencode : client.encode = Signing.calldata)
    (hvalid : signed.offer.Valid) (hprice : signed.offer.amount < 2 ^ 256)
    (hread : signed.offer.price.toList.length ≤ Decimal.maxStrDigits) {signature : Bytes}
    (hsignature : Hex.fromHex (TypedData.digitsOf signed.signature) = some signature) :
    (client.fulfillment signed).isSome = true := by
  have hint : Decimal.readInt signed.offer.price.toList = some signed.offer.amount := if_pos hread
  unfold ChainClient.fulfillment
  rw [hencode, Signing.offerTuple_eq hvalid hprice, hint, hsignature]
  rfl

/-- A client whose library encodes every tuple of the right types. -/
def ChainClient.of (d : Deployment T K) (acct : Address) (hacct : acct ≠ 0) : ChainClient T K where
  deployment := d
  acct := acct
  acct_ne_zero := hacct
  encode := Signing.calldata
  encode_eq := fun h => h

/-- Ada's client. -/
def smallClient : ChainClient Registry Ledger := .of smallDeployment ada ada_ne_zero

/-- Bell's offer at some price, and her signature. -/
def signedAt (price : String) : SignedOffer :=
  ⟨Skeleton.labOffer (Skeleton.lowerCase.spell bell) Agents.openConsumer (Skeleton.lowerCase.spell 0xc) price, "0x01"⟩

/-- Ada owns all the TOK there is. -/
def adaOwns (amount : Nat) : World Registry Ledger :=
  (Skeleton.RealChain.start smallDeployment 5 (Skeleton.ledgerOf ada amount) 0).world

section Small

variable {price : String} (hprice : isDecimalString price = true) (hamount : (signedAt price).offer.amount < 2 ^ 256)

include hprice hamount

theorem signedAt_signed : Skeleton.Signed smallDeployment (signedAt price).offer [1] :=
  Skeleton.signed_labOffer (Skeleton.isAddress_lowerCase bell) (Skeleton.lowerCase.addressOf_spell bell) (by decide)
    (Skeleton.isAddress_lowerCase 0xc) hprice hamount

theorem returned_signedAt (hread : price.toList.length ≤ Decimal.maxStrDigits) {funds : Nat}
    (hfunds : (signedAt price).offer.amount ≤ funds) :
    (smallClient.approveAndFulfill (signedAt price) (adaOwns funds) [.turn 5, .turn 6]).stage = .returned 1 := by
  have hsigned := signedAt_signed hprice hamount
  have hsignature : Hex.fromHex (TypedData.digitsOf (signedAt price).signature) = some [1] := by
    show Hex.fromHex (TypedData.digitsOf "0x01") = some [1]
    decide
  have hconsumer : (signedAt price).offer.onChain.consumer = 0 := by
    show TypedData.addressOf Agents.openConsumer = 0
    decide
  have htok : TypedData.addressOf (signedAt price).offer.paymentToken = smallClient.deployment.tok :=
    Skeleton.lowerCase.addressOf_spell 0xc
  have hids : (0 : Nat) + 1 < 2 ^ 256 := by decide
  have hbuyable : Buyable smallClient (signedAt price) 6 (adaOwns funds) := {
    encodes := fulfillment_isSome rfl hsigned.valid hamount hread hsignature
    redeemable := ⟨[1], hsignature, (by decide : 6 ≤ (100 : Uint64).toNat), Or.inl hconsumer, hsigned.signer⟩
    unused := rfl
    covered := hfunds
    ids := hids
    fresh := rfl }
  exact returned_of_buyable Skeleton.reliable_small hsigned.valid htok hread 5 6 hbuyable

end Small

/-- Bell transfers a ticket she does not have, after ada has bought one. -/
def purchaseOfOne : List PurchaseEvent :=
  [.turn 5, .turn 6] ++ [.other 6 (.entry ⟨bell, bell_ne_zero, .settlement (.transferFrom bell ada 7)⟩ [] true)]

/-- The first purchase returns; the second, of an account without the funds, is refused. -/
theorem leaves_no_trace_iff_ten :
    (∀ reached, reached <+: purchaseOfOne → NoTrace smallClient (signedAt "10") (adaOwns 25) reached) ∧
      (smallClient.approveAndFulfill (signedAt "10") (adaOwns 25) purchaseOfOne).stage = .returned 1 ∧
      (∀ reached, reached <+: [.turn 5, .turn 6, .turn 7] →
        NoTrace smallClient (signedAt "10") (adaOwns 5) reached) ∧
      ∃ failure, (smallClient.approveAndFulfill (signedAt "10") (adaOwns 5) [.turn 5, .turn 6, .turn 7]).stage =
        .raised (.chainRevert failure) := by
  have hamount : (signedAt "10").offer.amount = 10 := by decide +kernel
  have hprice : (signedAt "10").offer.amount < 2 ^ 256 := by rw [hamount]; decide
  have hvalid := (signedAt_signed (by decide : isDecimalString "10" = true) hprice).valid
  have hstrange : ∀ event ∈ purchaseOfOne, smallClient.Strange event := by
    intro event hmem
    simp only [purchaseOfOne, List.cons_append, List.nil_append, List.mem_cons, List.not_mem_nil, or_false] at hmem
    rcases hmem with rfl | rfl | rfl
    · trivial
    · trivial
    · intro sent hsent
      obtain rfl := List.mem_singleton.mp hsent
      decide
  have halone : ∀ event ∈ [PurchaseEvent.turn 5, .turn 6, .turn 7], smallClient.Strange event := by
    intro event hmem
    simp only [List.mem_cons, List.not_mem_nil, or_false] at hmem
    rcases hmem with rfl | rfl | rfl
    · trivial
    · trivial
    · trivial
  refine ⟨?_, ?_, ?_, ?_⟩
  · rw [leaves_no_trace_iff smallClient Skeleton.reliable_small (signedAt "10") hvalid (adaOwns 25) purchaseOfOne
      hstrange, hamount]
    exact fun _ _ _ _ _ hmax => absurd hmax (by decide)
  · rw [purchaseOfOne, approveAndFulfill_concat, stage_other]
    exact returned_signedAt (by decide) (by rw [hamount]; decide) (by decide) (by rw [hamount]; decide)
  · rw [leaves_no_trace_iff smallClient Skeleton.reliable_small (signedAt "10") hvalid (adaOwns 5) _ halone, hamount]
    exact fun _ _ _ _ _ hmax => absurd hmax (by decide)
  · have hencodes : (smallClient.fulfillment (signedAt "10")).isSome = true :=
      fulfillment_isSome rfl hvalid hprice (by decide)
        (show Hex.fromHex (TypedData.digitsOf "0x01") = some [1] by decide)
    have htok : TypedData.addressOf (signedAt "10").offer.paymentToken = smallClient.deployment.tok :=
      Skeleton.lowerCase.addressOf_spell 0xc
    refine raised_of_not_buyable Skeleton.reliable_small hvalid htok (by decide) hencodes 5 6 7 fun hbuyable => ?_
    have hcovered := hbuyable.covered
    rw [hamount] at hcovered
    exact absurd hcovered (by decide)

/-- `2 ** 256 - 1`, in decimal. -/
def everything : String := "115792089237316195423570985008687907853269984665640564039457584007913129639935"

theorem everything_stays_approved :
    ¬ ∀ (client : ChainClient Registry Ledger) (signed : SignedOffer) (w : World Registry Ledger)
        (events : List PurchaseEvent), Skeleton.Reliable client.deployment → signed.offer.Valid →
      (∀ event ∈ events, client.Strange event) → NoTrace client signed w events := by
  intro h
  have hamount : (signedAt everything).offer.amount = infiniteAllowance := by decide +kernel
  have hprice : isDecimalString everything = true := by decide +kernel
  have hlt : (signedAt everything).offer.amount < 2 ^ 256 := by
    rw [hamount]
    decide
  have hvalid := (signedAt_signed hprice hlt).valid
  have hturns : ∀ event ∈ ([.turn 5, .turn 6] : List PurchaseEvent), smallClient.Strange event := by
    intro event hmem
    rcases List.mem_cons.mp hmem with rfl | hmem
    · trivial
    · obtain rfl := List.mem_singleton.mp hmem
      trivial
  have htrace := h smallClient (signedAt everything) (adaOwns infiniteAllowance) [.turn 5, .turn 6]
    Skeleton.reliable_small hvalid hturns
  have hend := returned_signedAt hprice hlt (by decide +kernel) (le_of_eq hamount)
  have htok : TypedData.addressOf (signedAt everything).offer.paymentToken = smallClient.deployment.tok :=
    Skeleton.lowerCase.addressOf_spell 0xc
  have hleft := allowance_of_returned Skeleton.reliable_small hvalid htok hturns hend
  rw [htrace.allowance (Or.inl ⟨1, hend⟩), if_pos hamount] at hleft
  exact absurd hleft (by decide)

end A2AProvisioning.Chain
