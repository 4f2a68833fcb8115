import A2AProvisioning.AgentsOffers
import A2AProvisioning.LibraryLockstep
import A2AProvisioning.SettlementBalances
import A2AProvisioning.SkeletonFakes

/-! The fake settlement against the real one. The fake knows accounts by a spelling, offers by their salts
and money by one table; where an offer leaves the two no room to differ, every run of the one is a run of
the other. -/

namespace A2AProvisioning.Skeleton

open TypedData Reentrant Settlement

variable {T K : Type}

/-- How the fake's books spell an account. -/
structure Spelling where
  spell : Address → String
  addressOf_spell : ∀ a, addressOf (spell a) = a

abbrev Buyer := { a : Address // a ≠ 0 }

/-- Both contracts, and the timestamp of the block. -/
structure RealChain (T K : Type) where
  now : Nat
  world : World T K

namespace RealChain

variable (d : Deployment T K)

def advance (seconds : Nat) (r : RealChain T K) : RealChain T K := { r with now := r.now + seconds }

/-- The state once the buyer has approved exactly the price. -/
def approved (offer : Offer) (buyer : Buyer) (r : RealChain T K) : World T K :=
  (transact (Settlement.world d) r.now
    (.entry ⟨buyer.1, buyer.2, .tokApprove d.address (BitVec.ofNat 256 offer.amount)⟩ [] true) r.world).1

/-- An approval, then a call of the contract, which returns the new id or reverts. -/
def fulfill (offer : Offer) (signature : Bytes) (buyer : Buyer) (r : RealChain T K) :
    Except Settlement.Failure Nat × RealChain T K :=
  match exec (Settlement.world d) r.now (.entry ⟨buyer.1, buyer.2, .settlement (.fulfill offer.onChain signature)⟩ [] true)
      (r.approved d offer buyer) with
  | .error failure => (.error failure, { r with world := r.approved d offer buyer })
  | .ok (next, _) => (.ok next.settlement.lastId, { r with world := next })

/-- `none` is a revert, or an argument that is no `uint256`. -/
def revoke (issuer : Buyer) (entitlementId : Int) (r : RealChain T K) : Option (RealChain T K) :=
  if 0 ≤ entitlementId ∧ entitlementId.toNat < 2 ^ 256 then
    (exec (Settlement.world d) r.now (.entry ⟨issuer.1, issuer.2, .settlement (.revoke entitlementId.toNat)⟩ [] true)
      r.world).toOption.map fun next => { r with world := next.1 }
  else none

end RealChain

inductive Event
  | advance (seconds : Nat)
  | fulfill (offer : Offer) (signature : Bytes) (buyer : Buyer)

/-- An advance has no outcome. -/
def FakeChain.step (spelling : Spelling) : Event → FakeChain → Option (Except FakeError Nat) × FakeChain
  | .advance seconds, f => (none, f.advance seconds)
  | .fulfill offer _ buyer, f =>
      (some (f.fulfill offer (spelling.spell buyer)).1, (f.fulfill offer (spelling.spell buyer)).2)

def RealChain.step (d : Deployment T K) :
    Event → RealChain T K → Option (Except Settlement.Failure Nat) × RealChain T K
  | .advance seconds, r => (none, r.advance seconds)
  | .fulfill offer signature buyer, r =>
      (some (r.fulfill d offer signature buyer).1, (r.fulfill d offer signature buyer).2)

/-- The fake's name for a revert. -/
def counterpart : Settlement.Failure → Option FakeError
  | .settlement .offerExpired => some .offerExpired
  | .settlement .wrongConsumer => some .wrongConsumer
  | .settlement .offerAlreadyUsed => some .offerAlreadyUsed
  | .tok .insufficientBalance => some .insufficientFunds
  | _ => none

/-- Both succeed with one id, or both refuse under one name. -/
def SameOutcome : Except FakeError Nat → Except Settlement.Failure Nat → Prop
  | .ok id, .ok id' => id = id'
  | .error err, .error failure => counterpart failure = some err
  | _, _ => False

/-- A view of the fake against an entitlement of the contract. -/
structure View.Agrees (spelling : Spelling) (view : View) (id : Nat) (e : Entitlement) : Prop where
  id : view.id = id
  issuer : view.issuer = spelling.spell e.issuer
  serviceType : view.serviceType = e.serviceType
  resourceId : view.resourceId = word e.resourceId
  params : abiEncode [view.params.capacityBps.setWidth 256, view.params.qosClass.setWidth 256] = e.params
  startTime : view.startTime = e.startTime
  endTime : view.endTime = e.endTime
  revoked : view.revoked = e.revoked
  termsHash : view.termsHash = word e.termsHash

/-- The two states agree on everything that both keep; `spent` compares the offers that are around. -/
structure Matching (d : Deployment T K) (spelling : Spelling) (offers : Set Offer) (f : FakeChain)
    (r : RealChain T K) : Prop where
  now : f.now = r.now
  nextId : f.nextId = r.world.settlement.lastId + 1
  fresh : ∀ id, r.world.settlement.lastId < id → d.erc721.owner r.world.settlement.token id = 0
  owners : ∀ id, f.owners id = if d.erc721.owner r.world.settlement.token id = 0 then none
    else some (spelling.spell (d.erc721.owner r.world.settlement.token id))
  terms : ∀ id, f.entitlements id = none ∧ r.world.settlement.entitlements id = Entitlement.zero ∨
    ∃ view, f.entitlements id = some view ∧ view.Agrees spelling id (r.world.settlement.entitlements id)
  balances : ∀ a, f.balances (spelling.spell a) = d.erc20.balanceOf r.world.tok a
  spent : ∀ offer ∈ offers, f.consumed offer.salt = r.world.settlement.consumed (d.hashOffer offer.onChain)

/-- An offer for bandwidth that the model accepts and the provider has signed. -/
structure Signed (d : Deployment T K) (offer : Offer) (signature : Bytes) : Prop where
  valid : offer.Valid
  serviceType : offer.serviceType = 0
  price : offer.amount < 2 ^ 256
  params : ∃ bandwidth : BandwidthParams, Hex.bytesOf (digitsOf offer.params) =
    abiEncode [bandwidth.capacityBps.setWidth 256, bandwidth.qosClass.setWidth 256]
  signer : d.recover (d.hashOffer offer.onChain) signature = some (addressOf offer.provider)

/-- The fake can tell whom the offer names and what it costs: accounts are spelled as in its books, the
price is in TOK, and no longer than `int` reads. -/
structure Plain (d : Deployment T K) (spelling : Spelling) (offer : Offer) : Prop where
  provider : offer.provider = spelling.spell (addressOf offer.provider)
  consumer : addressOf offer.consumer ≠ 0 → offer.consumer = spelling.spell (addressOf offer.consumer)
  paymentToken : addressOf offer.paymentToken = d.tok
  price : offer.price.toList.length ≤ Decimal.maxStrDigits

/-- What the contracts rely on: the standards, a recovery that never yields the zero address, and an
address of their own. -/
structure Reliable (d : Deployment T K) : Prop where
  erc721 : d.erc721.Spec
  erc20 : d.erc20.Spec
  recover_ne_zero : ∀ digest signature, d.recover digest signature ≠ some 0
  address_ne_zero : d.address ≠ 0

section Real

variable {d : Deployment T K} {spelling : Spelling} {offers : Set Offer} {offer : Offer} {signature : Bytes}
  {buyer : Buyer} {f : FakeChain} {r : RealChain T K}

theorem approved_eq (hd : Reliable d) (hprice : offer.amount < 2 ^ 256) (buyer : Buyer) (r : RealChain T K) :
    ∃ k, r.approved d offer buyer = { r.world with tok := k } ∧
      d.erc20.balanceOf k = d.erc20.balanceOf r.world.tok ∧ d.erc20.allowance k buyer d.address = offer.amount := by
  have hamount : (BitVec.ofNat 256 offer.amount).toNat = offer.amount := Signing.onChain_price_toNat hprice
  obtain ⟨k, hk⟩ := hd.erc20.approve_isOk r.world.tok buyer d.address offer.amount buyer.2 hd.address_ne_zero
  obtain ⟨hbalance, hallowance, -⟩ := hd.erc20.approve _ _ _ _ _ hk
  refine ⟨k, ?_, hbalance, ?_⟩
  · have henter : (world d).enter r.now ⟨buyer.1, buyer.2, .tokApprove d.address (BitVec.ofNat 256 offer.amount)⟩
        r.world = .ok { r.world with tok := k } := by
      apply onTok_eq_ok.mpr
      exact ⟨k, by rw [hamount]; exact hk, rfl⟩
    have hcalls : (world d).callsOut ⟨buyer.1, buyer.2, .tokApprove d.address (BitVec.ofNat 256 offer.amount)⟩ =
      false := rfl
    rw [RealChain.approved, transact, exec, henter]
    dsimp only
    rw [hcalls, if_neg Bool.false_ne_true]
  · rw [hallowance, Function.update_self, Function.update_self]

/-- Only the token has moved, and no balance. -/
theorem Matching.approved (hmatch : Matching d spelling offers f r) (hd : Reliable d)
    (hprice : offer.amount < 2 ^ 256) :
    Matching d spelling offers f { r with world := r.approved d offer buyer } := by
  obtain ⟨k, happroved, hbalance, -⟩ := approved_eq hd hprice buyer r
  rw [happroved]
  exact ⟨hmatch.now, hmatch.nextId, hmatch.fresh, hmatch.owners, hmatch.terms,
    fun a => (hmatch.balances a).trans (by rw [hbalance]), hmatch.spent⟩

theorem fulfill_of_error (htok : addressOf offer.paymentToken = d.tok) {failure : Settlement.Failure}
    (h : fulfillInTok d r.now buyer offer.onChain signature (r.approved d offer buyer) = .error failure) :
    r.fulfill d offer signature buyer = (.error failure, { r with world := r.approved d offer buyer }) := by
  rw [RealChain.fulfill, exec_inTok (inTok_of_eq signature htok), h]

theorem fulfill_of_ok (htok : addressOf offer.paymentToken = d.tok) {next : World T K}
    (h : fulfillInTok d r.now buyer offer.onChain signature (r.approved d offer buyer) = .ok next) :
    r.fulfill d offer signature buyer = (.ok next.settlement.lastId, { r with world := next }) := by
  rw [RealChain.fulfill, exec_inTok (inTok_of_eq signature htok), h]

theorem fulfillInTok_of_error {timestamp : Nat} {sender : Address} {terms : Settlement.Offer} {w : World T K}
    {revert : Revert}
    (h : Settlement.fulfill d.toPlatform timestamp sender terms signature w.settlement = .error revert) :
    fulfillInTok d timestamp sender terms signature w = .error (.settlement revert) := by
  rw [fulfillInTok, h]

/-- What a redeemable offer needs besides, and what it does. -/
theorem fulfillInTok_of_covered (hd : Reliable d) {timestamp : Nat} {terms : Settlement.Offer} {w : World T K}
    (hok : Redeemable d.toPlatform timestamp buyer terms signature)
    (hunused : w.settlement.consumed (d.hashOffer terms) = false)
    (hallowed : terms.price.toNat ≤ d.erc20.allowance w.tok buyer d.address)
    (hcovered : terms.price.toNat ≤ d.erc20.balanceOf w.tok buyer) (hids : w.settlement.lastId + 1 < 2 ^ 256)
    (hfresh : d.erc721.owner w.settlement.token (w.settlement.lastId + 1) = 0) :
    ∃ token paid, fulfillInTok d timestamp buyer terms signature w =
        .ok ⟨⟨Function.update w.settlement.consumed (d.hashOffer terms) true,
          Function.update w.settlement.entitlements (w.settlement.lastId + 1) terms.entitlement,
          w.settlement.lastId + 1, token⟩, paid⟩ ∧
      d.erc721.owner token =
        Function.update (d.erc721.owner w.settlement.token) (w.settlement.lastId + 1) buyer ∧
      d.erc20.balanceOf paid =
        moved (d.erc20.balanceOf w.tok) buyer terms.provider terms.price.toNat := by
  have hprovider : terms.provider ≠ 0 := fun hzero => hd.recover_ne_zero _ _ (hzero ▸ hok.signer)
  obtain ⟨paid, hpaid⟩ := hd.erc20.transferFrom_isOk w.tok d.address buyer terms.provider terms.price.toNat
    hd.address_ne_zero buyer.2 hprovider hallowed hcovered
  obtain ⟨-, -, hbalance, -, -⟩ := hd.erc20.transferFrom _ _ _ _ _ _ hpaid
  obtain ⟨token, hmint⟩ := Option.isSome_iff_exists.mp
    (hd.erc721.mint_isSome w.settlement.token buyer (w.settlement.lastId + 1) buyer.2 hfresh)
  obtain ⟨-, -, howner, -, -⟩ := hd.erc721.mint _ _ _ _ hmint
  refine ⟨token, paid, ?_, howner, hbalance⟩
  apply fulfillInTok_eq_ok.mpr
  refine ⟨hok, hunused, paid, _, hpaid, ?_, rfl⟩
  have hids' : (punched d terms w.settlement).lastId + 1 < 2 ^ 256 := hids
  have hmint' : d.erc721.mint buyer ((punched d terms w.settlement).lastId + 1) (punched d terms w.settlement).token =
    some token := hmint
  rw [issue, if_pos hids', hmint']
  rfl

end Real

section Fake

variable {d : Deployment T K} {spelling : Spelling} {offer : Offer} {signature : Bytes}

theorem Spelling.injective (spelling : Spelling) : Function.Injective spelling.spell := by
  intro a b h
  rw [← spelling.addressOf_spell a, h, spelling.addressOf_spell]

theorem addressOf_eq_zero_iff {s : String} (h : isAddress s = true) :
    addressOf s = 0 ↔ Hex.valueOf (digitsOf s) = 0 := by
  constructor
  · intro hzero
    rw [← addressOf_toNat h, hzero]
    rfl
  · intro hzero
    apply BitVec.eq_of_toNat_eq
    rw [addressOf_toNat h, hzero]
    rfl

/-- The fake turns away those whom the contract turns away. -/
theorem wrongConsumer_iff (hsigned : Signed d offer signature) (hplain : Plain d spelling offer) (buyer : Address) :
    (Hex.valueOf (digitsOf offer.consumer) ≠ 0 ∧ offer.consumer ≠ spelling.spell buyer) ↔
      addressOf offer.consumer ≠ 0 ∧ addressOf offer.consumer ≠ buyer := by
  rw [Ne, ← addressOf_eq_zero_iff hsigned.valid.consumer]
  refine and_congr_right fun hbound => not_congr ⟨fun h => ?_, fun h => ?_⟩
  · rw [h, spelling.addressOf_spell]
  · rw [← h]
    exact hplain.consumer hbound

theorem word_bytes32 {s : String} (h : isBytes32Hex s = true) :
    Settlement.word (BitVec.ofNat 256 (Hex.bigEndian (Hex.bytesOf (digitsOf s)))) = Hex.bytesOf (digitsOf s) := by
  obtain ⟨-, hlength⟩ := Signing.fromHex_bytes32 h
  apply Hex.bigEndian_injective
  · rw [Settlement.word_length, hlength]
  · rw [toNat_bigEndian_word, Signing.bytes32_toNat h]

/-- The view that the fake builds says what the contract writes down. -/
theorem viewOf_agrees (hsigned : Signed d offer signature) (hplain : Plain d spelling offer) (id : Nat) :
    ∃ view, FakeChain.viewOf offer id = some view ∧ view.Agrees spelling id offer.onChain.entitlement := by
  obtain ⟨bandwidth, hbytes⟩ := hsigned.params
  have hresource := (Signing.fromHex_bytes32 hsigned.valid.resourceId).1
  have hterms := (Signing.fromHex_bytes32 hsigned.valid.termsHash).1
  have hparams := decodeBandwidthParams_eq hsigned.valid.params hbytes
  refine ⟨⟨id, offer.provider, offer.serviceType, Hex.bytesOf (digitsOf offer.resourceId), bandwidth, offer.startTime,
    offer.endTime, false, Hex.bytesOf (digitsOf offer.termsHash)⟩, ?_, ?_⟩
  · unfold FakeChain.viewOf
    rw [hresource, hparams, hterms]
  · exact ⟨rfl, hplain.provider, rfl, (word_bytes32 hsigned.valid.resourceId).symm, hbytes.symm, rfl, rfl, rfl,
      (word_bytes32 hsigned.valid.termsHash).symm⟩

/-- The bytes of the salt. -/
def saltOf (offer : Offer) : Bytes := Hex.bytesOf (digitsOf offer.salt)

/-- A salt tells what a digest tells. -/
theorem hashOffer_eq_iff {offers : Set Offer} (hfree : d.CollisionFree (Offer.onChain '' offers))
    (hsalts : Set.InjOn saltOf offers) {offer' : Offer} (hmem : offer ∈ offers) (hmem' : offer' ∈ offers)
    (hvalid : offer.Valid) (hvalid' : offer'.Valid) :
    d.hashOffer offer'.onChain = d.hashOffer offer.onChain ↔ offer'.salt = offer.salt := by
  constructor
  · intro hdigest
    have honChain := Crypto.hashOffer_injective hfree (Set.mem_image_of_mem _ hmem') (Set.mem_image_of_mem _ hmem) hdigest
    have hsalt : offer'.onChain.salt = offer.onChain.salt := by rw [honChain]
    have hbytes : saltOf offer' = saltOf offer := by
      calc
        saltOf offer' = Settlement.word offer'.onChain.salt := (word_bytes32 hvalid'.salt).symm
        _ = Settlement.word offer.onChain.salt := by rw [hsalt]
        _ = saltOf offer := word_bytes32 hvalid.salt
    rw [hsalts hmem' hmem hbytes]
  · intro hsalt
    have hbytes : saltOf offer' = saltOf offer := by rw [saltOf, hsalt, saltOf]
    rw [hsalts hmem' hmem hbytes]

theorem fulfill_of_check {f : FakeChain} {buyer : String} {err : FakeError} (h : f.check offer buyer = .error err) :
    f.fulfill offer buyer = (.error err, f) := by
  unfold FakeChain.fulfill
  rw [h]

theorem nextId_fulfill_le (offer : Offer) (buyer : String) (f : FakeChain) :
    (f.fulfill offer buyer).2.nextId ≤ f.nextId + 1 := by
  unfold FakeChain.fulfill
  split
  · exact Nat.le_succ _
  · dsimp only
    split
    · exact le_rfl
    · exact le_rfl

end Fake

/-! ### One step -/

/-- Both have answered alike, and agree again. -/
structure InStep (d : Deployment T K) (spelling : Spelling) (offers : Set Offer)
    (x : Option (Except FakeError Nat) × FakeChain) (y : Option (Except Settlement.Failure Nat) × RealChain T K) :
    Prop where
  outcome : Option.Rel SameOutcome x.1 y.1
  states : Matching d spelling offers x.2 y.2

section Step

variable {d : Deployment T K} {spelling : Spelling} {offers : Set Offer} {offer : Offer} {signature : Bytes}
  {buyer : Buyer} {f : FakeChain} {r : RealChain T K}

theorem inStep_advance (seconds : Nat) (hmatch : Matching d spelling offers f r) :
    InStep d spelling offers (FakeChain.step spelling (.advance seconds) f) (RealChain.step d (.advance seconds) r) where
  outcome := Option.Rel.none
  states := ⟨congrArg (· + seconds) hmatch.now, hmatch.nextId, hmatch.fresh, hmatch.owners, hmatch.terms,
    hmatch.balances, hmatch.spent⟩

/-- A refusal by both, under one name, leaves only the approval behind. -/
theorem inStep_of_refusal (hd : Reliable d) (hsigned : Signed d offer signature) (hplain : Plain d spelling offer)
    (hmatch : Matching d spelling offers f r) (err : FakeError) (failure : Settlement.Failure)
    (hfake : f.check offer (spelling.spell buyer) = .error err)
    (hreal : fulfillInTok d r.now buyer offer.onChain signature (r.approved d offer buyer) = .error failure)
    (hname : counterpart failure = some err) :
    InStep d spelling offers (FakeChain.step spelling (.fulfill offer signature buyer) f)
      (RealChain.step d (.fulfill offer signature buyer) r) := by
  have hleft := fulfill_of_check hfake
  have hright := fulfill_of_error hplain.paymentToken hreal
  unfold FakeChain.step RealChain.step
  dsimp only
  rw [hleft, hright]
  exact ⟨Option.Rel.some hname, hmatch.approved hd hsigned.price⟩

/-- The contracts' storage after a sale. -/
def sold (d : Deployment T K) (offer : Offer) (token : T) (s : Storage T) : Storage T where
  consumed := Function.update s.consumed (d.hashOffer offer.onChain) true
  entitlements := Function.update s.entitlements (s.lastId + 1) offer.onChain.entitlement
  lastId := s.lastId + 1
  token := token

/-- The fake after a sale. -/
def FakeChain.sold (offer : Offer) (buyer : String) (view : View) (f : FakeChain) : FakeChain :=
  { f.pay offer buyer offer.amount with entitlements := Function.update f.entitlements f.nextId (some view) }

/-- The fake's two bookings of a payment, between spelled accounts. -/
theorem booked_twice (spelling : Spelling) (balances : String → Int) (source target : Address) (amount : Nat)
    (a : Address) :
    Function.update (Function.update balances (spelling.spell source) (balances (spelling.spell source) - amount))
        (spelling.spell target)
        (Function.update balances (spelling.spell source) (balances (spelling.spell source) - amount)
          (spelling.spell target) + amount) (spelling.spell a) =
      balances (spelling.spell a) + flow source target amount a := by
  unfold flow
  by_cases htarget : a = target
  · subst htarget
    rw [Function.update_self, if_pos rfl]
    by_cases hsource : a = source
    · subst hsource
      rw [Function.update_self, if_pos rfl]
      omega
    · rw [Function.update_of_ne (spelling.injective.ne hsource), if_neg hsource]
      omega
  · rw [Function.update_of_ne (spelling.injective.ne htarget), if_neg htarget]
    by_cases hsource : a = source
    · subst hsource
      rw [Function.update_self, if_pos rfl]
      omega
    · rw [Function.update_of_ne (spelling.injective.ne hsource), if_neg hsource]
      omega

/-- The payment moves the same amount between the same two accounts. -/
theorem balances_sold (hsigned : Signed d offer signature) (hplain : Plain d spelling offer)
    (hmatch : Matching d spelling offers f r) {paid : K}
    (hcovered : offer.amount ≤ d.erc20.balanceOf r.world.tok buyer)
    (hpaid : d.erc20.balanceOf paid =
      moved (d.erc20.balanceOf r.world.tok) buyer offer.onChain.provider offer.onChain.price.toNat) (a : Address) :
    (f.pay offer (spelling.spell buyer) offer.amount).balances (spelling.spell a) = d.erc20.balanceOf paid a := by
  have hbooked := booked_twice spelling f.balances buyer (addressOf offer.provider) offer.amount a
  rw [← hplain.provider] at hbooked
  calc
    _ = f.balances (spelling.spell a) + flow buyer (addressOf offer.provider) offer.amount a := hbooked
    _ = d.erc20.balanceOf r.world.tok a + flow buyer (addressOf offer.provider) offer.amount a := by
      rw [hmatch.balances a]
    _ = moved (d.erc20.balanceOf r.world.tok) buyer (addressOf offer.provider) offer.amount a :=
      (moved_eq hcovered (addressOf offer.provider) a).symm
    _ = d.erc20.balanceOf paid a := by
      rw [hpaid, Signing.onChain_price_toNat hsigned.price]
      rfl

theorem matching_sold (hfree : d.CollisionFree (Offer.onChain '' offers)) (hsalts : Set.InjOn saltOf offers)
    (hvalid : ∀ offer ∈ offers, offer.Valid) (hmem : offer ∈ offers) (hsigned : Signed d offer signature)
    (hplain : Plain d spelling offer) (hmatch : Matching d spelling offers f r) {view : View} {token : T} {paid : K}
    (hagrees : view.Agrees spelling f.nextId offer.onChain.entitlement)
    (howner : d.erc721.owner token =
      Function.update (d.erc721.owner r.world.settlement.token) (r.world.settlement.lastId + 1) buyer)
    (hcovered : offer.amount ≤ d.erc20.balanceOf r.world.tok buyer)
    (hpaid : d.erc20.balanceOf paid =
      moved (d.erc20.balanceOf r.world.tok) buyer offer.onChain.provider offer.onChain.price.toNat) :
    Matching d spelling offers (f.sold offer (spelling.spell buyer) view)
      { r with world := ⟨sold d offer token r.world.settlement, paid⟩ } where
  now := hmatch.now
  nextId := congrArg (· + 1) hmatch.nextId
  fresh := by
    intro id hid
    change r.world.settlement.lastId + 1 < id at hid
    change d.erc721.owner token id = 0
    rw [howner, Function.update_of_ne (by omega)]
    exact hmatch.fresh id (by omega)
  owners := by
    intro id
    change Function.update f.owners f.nextId (some (spelling.spell buyer)) id =
      if d.erc721.owner token id = 0 then none else some (spelling.spell (d.erc721.owner token id))
    rw [howner, hmatch.nextId]
    by_cases hid : id = r.world.settlement.lastId + 1
    · rw [hid, Function.update_self, Function.update_self, if_neg buyer.2]
    · rw [Function.update_of_ne hid, Function.update_of_ne hid]
      exact hmatch.owners id
  terms := by
    intro id
    unfold FakeChain.sold sold
    dsimp only
    rw [hmatch.nextId]
    by_cases hid : id = r.world.settlement.lastId + 1
    · right
      rw [hid, Function.update_self, Function.update_self]
      exact ⟨view, rfl, hmatch.nextId ▸ hagrees⟩
    · rw [Function.update_of_ne hid, Function.update_of_ne hid]
      exact hmatch.terms id
  balances := balances_sold hsigned hplain hmatch hcovered hpaid
  spent := by
    intro offer' hmem'
    have hiff := hashOffer_eq_iff hfree hsalts hmem hmem' (hvalid offer hmem) (hvalid offer' hmem')
    change Function.update f.consumed offer.salt true offer'.salt =
      Function.update r.world.settlement.consumed (d.hashOffer offer.onChain) true (d.hashOffer offer'.onChain)
    by_cases hsalt : offer'.salt = offer.salt
    · rw [hsalt, hiff.mpr hsalt, Function.update_self, Function.update_self]
    · rw [Function.update_of_ne hsalt, Function.update_of_ne (fun h => hsalt (hiff.mp h))]
      exact hmatch.spent offer' hmem'

/-- What the contracts do with a redeemable offer that the buyer can pay for. -/
theorem fulfill_sold (hd : Reliable d) (hsigned : Signed d offer signature)
    (htok : addressOf offer.paymentToken = d.tok)
    (hok : Redeemable d.toPlatform r.now buyer offer.onChain signature)
    (hunused : r.world.settlement.consumed (d.hashOffer offer.onChain) = false)
    (hcovered : offer.amount ≤ d.erc20.balanceOf r.world.tok buyer) (hids : r.world.settlement.lastId + 1 < 2 ^ 256)
    (hfresh : d.erc721.owner r.world.settlement.token (r.world.settlement.lastId + 1) = 0) :
    ∃ token paid, r.fulfill d offer signature buyer =
        (.ok (r.world.settlement.lastId + 1), { r with world := ⟨sold d offer token r.world.settlement, paid⟩ }) ∧
      d.erc721.owner token =
        Function.update (d.erc721.owner r.world.settlement.token) (r.world.settlement.lastId + 1) buyer ∧
      d.erc20.balanceOf paid =
        moved (d.erc20.balanceOf r.world.tok) buyer offer.onChain.provider offer.onChain.price.toNat := by
  obtain ⟨k, happroved, hbalance, hallowance⟩ := approved_eq hd hsigned.price buyer r
  have hamount := Signing.onChain_price_toNat hsigned.price
  obtain ⟨token, paid, hreal, howner, hpaid⟩ := @fulfillInTok_of_covered T K d signature buyer hd r.now offer.onChain
    { r.world with tok := k } hok hunused (by rw [hamount, hallowance]) (by rw [hamount, hbalance]; exact hcovered)
    hids hfresh
  rw [hbalance] at hpaid
  have hdone := fulfill_of_ok htok
    ((congrArg (fulfillInTok d r.now buyer offer.onChain signature) happroved).trans hreal)
  exact ⟨token, paid, hdone, howner, hpaid⟩

/-- A sale by both. -/
theorem inStep_of_sale (hd : Reliable d) (hfree : d.CollisionFree (Offer.onChain '' offers))
    (hsalts : Set.InjOn saltOf offers) (hvalid : ∀ offer ∈ offers, offer.Valid) (hmem : offer ∈ offers)
    (hsigned : Signed d offer signature) (hplain : Plain d spelling offer) (hmatch : Matching d spelling offers f r)
    (hids : f.nextId < 2 ^ 256) (hfake : f.check offer (spelling.spell buyer) = .ok offer.amount)
    (hok : Redeemable d.toPlatform r.now buyer offer.onChain signature)
    (hunused : r.world.settlement.consumed (d.hashOffer offer.onChain) = false)
    (hcovered : offer.amount ≤ d.erc20.balanceOf r.world.tok buyer) :
    InStep d spelling offers (FakeChain.step spelling (.fulfill offer signature buyer) f)
      (RealChain.step d (.fulfill offer signature buyer) r) := by
  obtain ⟨view, hview, hagrees⟩ := viewOf_agrees hsigned hplain f.nextId
  have hnext := hmatch.nextId
  have hleft : f.fulfill offer (spelling.spell buyer) = (.ok f.nextId, f.sold offer (spelling.spell buyer) view) := by
    unfold FakeChain.fulfill
    rw [hfake]
    dsimp only
    rw [hview]
    rfl
  obtain ⟨token, paid, hright, howner, hpaid⟩ := fulfill_sold hd hsigned hplain.paymentToken hok hunused hcovered
    (by rw [← hnext]; exact hids) (hmatch.fresh _ (Nat.lt_succ_self _))
  unfold FakeChain.step RealChain.step
  dsimp only
  rw [hleft, hright]
  exact ⟨Option.Rel.some hnext,
    matching_sold hfree hsalts hvalid hmem hsigned hplain hmatch hagrees howner hcovered hpaid⟩

/-- The checks of the two, in the order of both. -/
theorem inStep_fulfill (hd : Reliable d) (hfree : d.CollisionFree (Offer.onChain '' offers))
    (hsalts : Set.InjOn saltOf offers) (hvalid : ∀ offer ∈ offers, offer.Valid) (hmem : offer ∈ offers)
    (hsigned : Signed d offer signature) (hplain : Plain d spelling offer) (hmatch : Matching d spelling offers f r)
    (hids : f.nextId < 2 ^ 256) :
    InStep d spelling offers (FakeChain.step spelling (.fulfill offer signature buyer) f)
      (RealChain.step d (.fulfill offer signature buyer) r) := by
  obtain ⟨k, happroved, hbalance, hallowance⟩ := approved_eq hd hsigned.price buyer r
  have hsettlement : (r.approved d offer buyer).settlement = r.world.settlement := by rw [happroved]
  have htype : ¬ offer.serviceType ≠ 0 := not_not.mpr hsigned.serviceType
  have hspent := hmatch.spent offer hmem
  have hnow := hmatch.now
  by_cases hexpired : f.now > offer.validUntil.toNat
  · apply inStep_of_refusal hd hsigned hplain hmatch .offerExpired (.settlement .offerExpired)
    · rw [FakeChain.check, if_neg htype, if_pos hexpired]
    · apply fulfillInTok_of_error
      rw [hnow] at hexpired
      rw [Settlement.fulfill]
      exact if_pos hexpired
    · rfl
  have hexpired' : ¬ r.now > offer.onChain.validUntil.toNat := hnow ▸ hexpired
  by_cases hwrong : addressOf offer.consumer ≠ 0 ∧ addressOf offer.consumer ≠ buyer
  · apply inStep_of_refusal hd hsigned hplain hmatch .wrongConsumer (.settlement .wrongConsumer)
    · rw [FakeChain.check, if_neg htype, if_neg hexpired, if_pos ((wrongConsumer_iff hsigned hplain buyer).mpr hwrong)]
    · apply fulfillInTok_of_error
      rw [Settlement.fulfill, if_neg hexpired']
      exact if_pos hwrong
    · rfl
  have hbuyer : offer.onChain.consumer = 0 ∨ offer.onChain.consumer = buyer := by
    by_cases hopen : addressOf offer.consumer = 0
    · exact Or.inl hopen
    · exact Or.inr (not_not.mp fun hne => hwrong ⟨hopen, hne⟩)
  have hwrong' := mt (wrongConsumer_iff hsigned hplain buyer).mp hwrong
  have hwrongReal : ¬ (offer.onChain.consumer ≠ 0 ∧ offer.onChain.consumer ≠ buyer) := hwrong
  cases hused : f.consumed offer.salt with
  | true =>
      apply inStep_of_refusal hd hsigned hplain hmatch .offerAlreadyUsed (.settlement .offerAlreadyUsed)
      · rw [FakeChain.check, if_neg htype, if_neg hexpired, if_neg hwrong', if_pos hused]
      · apply fulfillInTok_of_error
        rw [Settlement.fulfill, if_neg hexpired', hsettlement]
        rw [if_neg hwrongReal]
        exact if_pos (hspent.symm.trans hused)
      · rfl
  | false =>
      have hunused : r.world.settlement.consumed (d.hashOffer offer.onChain) = false := hspent.symm.trans hused
      have hok : Redeemable d.toPlatform r.now buyer offer.onChain signature :=
        ⟨not_lt.mp hexpired', hbuyer, hsigned.signer⟩
      have hread : Decimal.readInt offer.price.toList = some offer.amount := if_pos hplain.price
      have hpoor : f.balances (spelling.spell buyer) < (offer.amount : Int) ↔
          d.erc20.balanceOf r.world.tok buyer < offer.amount := by
        rw [hmatch.balances buyer]
        exact Nat.cast_lt
      have hcheck : f.check offer (spelling.spell buyer) =
          if f.balances (spelling.spell buyer) < (offer.amount : Int) then .error .insufficientFunds
          else .ok offer.amount := by
        rw [FakeChain.check, if_neg htype, if_neg hexpired, if_neg hwrong', hused, if_neg Bool.false_ne_true, hread]
      by_cases hshort : d.erc20.balanceOf r.world.tok buyer < offer.amount
      · apply inStep_of_refusal hd hsigned hplain hmatch .insufficientFunds (.tok .insufficientBalance)
        · rw [hcheck, if_pos (hpoor.mpr hshort)]
        · have hpunched : Settlement.fulfill d.toPlatform r.now buyer offer.onChain signature r.world.settlement =
              .ok (punched d offer.onChain r.world.settlement) := fulfill_eq_ok.mpr ⟨hok, hunused, rfl⟩
          have hprovider : offer.onChain.provider ≠ 0 := fun hzero => hd.recover_ne_zero _ _ (hzero ▸ hok.signer)
          have hrefused := hd.erc20.transferFrom_balance k d.address buyer offer.onChain.provider offer.amount
            hd.address_ne_zero buyer.2 hprovider (le_of_eq hallowance.symm) (by rw [hbalance]; exact hshort)
          rw [happroved, fulfillInTok, hpunched]
          dsimp only
          rw [Signing.onChain_price_toNat hsigned.price, hrefused]
        · rfl
      · apply inStep_of_sale hd hfree hsalts hvalid hmem hsigned hplain hmatch hids
        · rw [hcheck, if_neg (mt hpoor.mp hshort)]
        · exact hok
        · exact hunused
        · exact not_lt.mp hshort

end Step

/-- The offers that anybody tries to redeem. -/
def offersOf (events : List Event) : Set Offer :=
  { offer | ∃ signature buyer, Event.fulfill offer signature buyer ∈ events }

theorem nextId_step_le (spelling : Spelling) (event : Event) (f : FakeChain) :
    (FakeChain.step spelling event f).2.nextId ≤ f.nextId + 1 := by
  cases event with
  | advance seconds => exact Nat.le_succ _
  | fulfill offer signature buyer => exact nextId_fulfill_le offer _ f

theorem fake_simulates_settlement (d : Deployment T K) (hd : Reliable d) (spelling : Spelling) (events : List Event)
    (hoffers : ∀ offer signature buyer, Event.fulfill offer signature buyer ∈ events →
      Signed d offer signature ∧ Plain d spelling offer)
    (hsalts : Set.InjOn saltOf (offersOf events)) (hfree : d.CollisionFree (Offer.onChain '' offersOf events))
    (f : FakeChain) (r : RealChain T K) (hmatch : Matching d spelling (offersOf events) f r)
    (hids : f.nextId + events.length ≤ 2 ^ 256) :
    List.Forall₂ (InStep d spelling (offersOf events))
      (Lockstep.trace (fun event f => FakeChain.step spelling event f) f events)
      (Lockstep.trace (fun event r => RealChain.step d event r) r events) := by
  have hvalid : ∀ offer ∈ offersOf events, offer.Valid := by
    rintro offer ⟨signature, buyer, hmem⟩
    exact (hoffers offer signature buyer hmem).1.valid
  apply Lockstep.trace_simulates (fun n f r => Matching d spelling (offersOf events) f r ∧ f.nextId + n ≤ 2 ^ 256) ?_
    ⟨hmatch, hids⟩
  rintro event hmem n f r ⟨hmatch, hids⟩
  have hstep : InStep d spelling (offersOf events) (FakeChain.step spelling event f) (RealChain.step d event r) := by
    cases event with
    | advance seconds => exact inStep_advance seconds hmatch
    | fulfill offer signature buyer =>
        obtain ⟨hsigned, hplain⟩ := hoffers offer signature buyer hmem
        exact inStep_fulfill hd hfree hsalts hvalid ⟨signature, buyer, hmem⟩ hsigned hplain hmatch (by omega)
  have hnext := nextId_step_le spelling event f
  exact ⟨hstep, hstep.states, by omega⟩

/-! ### A small market -/

def FakeChain.start (now : Nat) (balances : String → Int) (nextId : Nat) : FakeChain :=
  ⟨now, balances, nextId, fun _ => false, fun _ => none, fun _ => none⟩

/-- Contracts with some balances and no ticket in anybody's hands. -/
def RealChain.start (d : Deployment T K) (now : Nat) (tok : K) (lastId : Nat) : RealChain T K :=
  ⟨now, ⟨{ deployed d.toPlatform with lastId := lastId }, tok⟩⟩

/-- A fresh fake matches fresh contracts. -/
theorem matching_start {d : Deployment T K} (hd : Reliable d) (spelling : Spelling) (offers : Set Offer)
    (now lastId : Nat) {balances : String → Int} {tok : K}
    (hbalances : ∀ a, balances (spelling.spell a) = d.erc20.balanceOf tok a) :
    Matching d spelling offers (FakeChain.start now balances (lastId + 1)) (RealChain.start d now tok lastId) where
  now := rfl
  nextId := rfl
  fresh := fun id _ => hd.erc721.owner_deployed id
  owners := fun id => (if_pos (hd.erc721.owner_deployed id)).symm
  terms := fun _ => Or.inl ⟨rfl, rfl⟩
  balances := hbalances
  spent := fun _ _ => rfl

/-- Forty digits in lower case. -/
def lowerCase : Spelling where
  spell := fun a => String.ofList ('0' :: 'x' :: Hex.format 40 a.toNat)
  addressOf_spell := by
    intro a
    rw [addressOf, Agents.digitsOf_ofList, Hex.valueOf_format, BitVec.ofNat_toNat, BitVec.setWidth_eq]

theorem isAddress_lowerCase (a : Address) : isAddress (lowerCase.spell a) = true := by
  apply Agents.isHex_ofList
  · have hlength : (Hex.format 40 a.toNat).length = 40 := Hex.format_length (by omega) a.isLt
    rw [beq_iff_eq, hlength]
  · exact fun _ => Hex.isDigit_format

def labNeed : BandwidthNeed := ⟨"hostA", "hostB", 50000000, 0, ⟨0, 100⟩⟩

/-- Bell's offer, but for how it spells the accounts and the price. -/
def labOffer (provider consumer paymentToken price : String) : Offer where
  provider := provider
  consumer := consumer
  serviceType := 0
  resourceId := Agents.word64 7
  params := Agents.bandwidthParams labNeed
  startTime := 0
  endTime := 100
  paymentToken := paymentToken
  price := price
  validUntil := 100
  salt := Agents.word64 23
  termsHash := Agents.word64 8

theorem reliable_small : Reliable smallDeployment where
  erc721 := Registry.erc721_spec
  erc20 := Ledger.erc20_spec
  recover_ne_zero := by
    intro digest signature hrecover
    change (if _ then some bell else none) = some 0 at hrecover
    split_ifs at hrecover
    cases hrecover
  address_ne_zero := by decide

section Lab

variable {provider consumer paymentToken price : String}

theorem signed_labOffer (hprovider : isAddress provider = true) (hbell : addressOf provider = bell)
    (hconsumer : isAddress consumer = true) (htoken : isAddress paymentToken = true)
    (hprice : isDecimalString price = true) (hamount : (labOffer provider consumer paymentToken price).amount < 2 ^ 256) :
    Signed smallDeployment (labOffer provider consumer paymentToken price) [1] where
  valid := ⟨hprovider, hconsumer, Agents.isBytes32Hex_word64 7, Agents.isHexData_bandwidthParams _, htoken, hprice,
    Agents.isBytes32Hex_word64 23, Agents.isBytes32Hex_word64 8⟩
  serviceType := rfl
  price := hamount
  params := ⟨⟨labNeed.capacityBps, labNeed.qosClass⟩, Agents.bytesOf_bandwidthParams labNeed⟩
  signer := by
    have hdigest : smallDeployment.hashOffer (labOffer provider consumer paymentToken price).onChain = 66 := rfl
    change (if smallDeployment.hashOffer (labOffer provider consumer paymentToken price).onChain = 66 ∧
      ([1] : Bytes) = [1] then some bell else none) = some (addressOf provider)
    rw [if_pos ⟨hdigest, rfl⟩, hbell]

theorem collisionFree_labOffer {offers : Set Offer}
    (hoffers : ∀ offer ∈ offers, offer = labOffer provider consumer paymentToken price) :
    smallDeployment.CollisionFree (Offer.onChain '' offers) := by
  have hlength : (labOffer provider consumer paymentToken price).onChain.params.length = 64 := by
    have hparams : ∀ offer : Offer, offer.onChain.params = Hex.bytesOf (digitsOf offer.params) := fun _ => rfl
    have hneed : (labOffer provider consumer paymentToken price).params = Agents.bandwidthParams labNeed := rfl
    rw [hparams, hneed, Agents.bytesOf_bandwidthParams, abiEncode_length]
    rfl
  have hshort : (labOffer provider consumer paymentToken price).onChain.params.length < 66 := by omega
  refine lengthCrypto_collisionFree hshort fun terms hterms => ?_
  obtain ⟨offer, hmem, hterms⟩ := hterms
  rw [← hterms, hoffers offer hmem]

end Lab

def ledgerOf (a : Address) (amount : Nat) : Ledger := ⟨fun b => if b = a then amount else 0, fun _ _ => 0, amount⟩

def booksOf (a : Address) (amount : Nat) (s : String) : Int := if s = lowerCase.spell a then amount else 0

/-- One account has all the money, in both books. -/
theorem matching_one (offers : Set Offer) (now lastId amount : Nat) (a : Address) :
    Matching smallDeployment lowerCase offers (FakeChain.start now (booksOf a amount) (lastId + 1))
      (RealChain.start smallDeployment now (ledgerOf a amount) lastId) := by
  apply matching_start reliable_small
  intro b
  change (if lowerCase.spell b = lowerCase.spell a then (amount : Int) else 0) = ((if b = a then amount else 0 : Nat) : Int)
  by_cases hb : b = a
  · rw [hb, if_pos rfl, if_pos rfl]
  · rw [if_neg hb, if_neg (lowerCase.injective.ne hb)]
    rfl

def adaBuyer : Buyer := ⟨ada, ada_ne_zero⟩

/-- Bell's offer for 10, as the fake's books spell it. -/
def plainOffer : Offer := labOffer (lowerCase.spell bell) Agents.openConsumer (lowerCase.spell 0xc) "10"

/-- Ada redeems it, and tries again later. -/
def replayedOffer : List Event := [.fulfill plainOffer [1] adaBuyer, .advance 10, .fulfill plainOffer [1] adaBuyer]

theorem plainOffer_signed : Signed smallDeployment plainOffer [1] :=
  signed_labOffer (isAddress_lowerCase bell) (lowerCase.addressOf_spell bell) (by decide) (isAddress_lowerCase 0xc)
    (by decide) (by decide)

theorem plainOffer_plain : Plain smallDeployment lowerCase plainOffer where
  provider := congrArg lowerCase.spell (lowerCase.addressOf_spell bell).symm
  consumer := fun hbound => absurd (by decide : addressOf Agents.openConsumer = 0) hbound
  paymentToken := lowerCase.addressOf_spell 0xc
  price := by decide

theorem fake_simulates_settlement_replayed :
    List.Forall₂ (InStep smallDeployment lowerCase (offersOf replayedOffer))
        (Lockstep.trace (fun event f => FakeChain.step lowerCase event f) (FakeChain.start 5 (booksOf ada 25) 1)
          replayedOffer)
        (Lockstep.trace (fun event r => RealChain.step smallDeployment event r)
          (RealChain.start smallDeployment 5 (ledgerOf ada 25) 0) replayedOffer) ∧
      (Lockstep.trace (fun event f => FakeChain.step lowerCase event f) (FakeChain.start 5 (booksOf ada 25) 1)
          replayedOffer).map Prod.fst = [some (.ok 1), none, some (.error .offerAlreadyUsed)] := by
  have hevent : ∀ offer signature buyer, Event.fulfill offer signature buyer ∈ replayedOffer →
      offer = plainOffer ∧ signature = [1] := by
    intro offer signature buyer hmem
    simp only [replayedOffer, List.mem_cons, Event.fulfill.injEq, reduceCtorEq, List.not_mem_nil, or_false,
      false_or] at hmem
    rcases hmem with hmem | hmem
    · exact ⟨hmem.1, hmem.2.1⟩
    · exact ⟨hmem.1, hmem.2.1⟩
  have honly : ∀ offer ∈ offersOf replayedOffer, offer = plainOffer := by
    rintro offer ⟨signature, buyer, hmem⟩
    exact (hevent offer signature buyer hmem).1
  refine ⟨?_, by decide +kernel⟩
  apply fake_simulates_settlement smallDeployment reliable_small lowerCase replayedOffer
  · intro offer signature buyer hmem
    obtain ⟨rfl, rfl⟩ := hevent offer signature buyer hmem
    exact ⟨plainOffer_signed, plainOffer_plain⟩
  · intro offer hmem offer' hmem' _
    rw [honly offer hmem, honly offer' hmem']
  · exact collisionFree_labOffer honly
  · exact matching_one _ 5 0 25 ada
  · decide

/-- Ada, who has all the money, tries to redeem an offer of bell's, and the two do not stay in step. -/
structure PartsWays (offer : Offer) (amount lastId : Nat) : Prop where
  signed : Signed smallDeployment offer [1]
  collisionFree : smallDeployment.CollisionFree (Offer.onChain '' {offer})
  states : Matching smallDeployment lowerCase {offer} (FakeChain.start 5 (booksOf ada amount) (lastId + 1))
    (RealChain.start smallDeployment 5 (ledgerOf ada amount) lastId)
  parted : ¬ InStep smallDeployment lowerCase {offer}
    (FakeChain.step lowerCase (.fulfill offer [1] adaBuyer) (FakeChain.start 5 (booksOf ada amount) (lastId + 1)))
    (RealChain.step smallDeployment (.fulfill offer [1] adaBuyer)
      (RealChain.start smallDeployment 5 (ledgerOf ada amount) lastId))

section Parted

variable {provider consumer paymentToken price : String} {amount lastId : Nat}

theorem partsWays_of_outcome (hsigned : Signed smallDeployment (labOffer provider consumer paymentToken price) [1])
    {x : Except FakeError Nat} {y : Except Settlement.Failure Nat}
    (hfake : ((FakeChain.start 5 (booksOf ada amount) (lastId + 1)).fulfill
      (labOffer provider consumer paymentToken price) (lowerCase.spell ada)).1 = x)
    (hreal : ((RealChain.start smallDeployment 5 (ledgerOf ada amount) lastId).fulfill smallDeployment
      (labOffer provider consumer paymentToken price) [1] adaBuyer).1 = y)
    (hparted : ¬ SameOutcome x y) : PartsWays (labOffer provider consumer paymentToken price) amount lastId where
  signed := hsigned
  collisionFree := collisionFree_labOffer fun _ hmem => hmem
  states := matching_one _ 5 lastId amount ada
  parted := by
    intro hstep
    have houtcome := hstep.outcome
    unfold FakeChain.step RealChain.step at houtcome
    cases houtcome with
    | some hsame =>
        apply hparted
        rw [← hfake, ← hreal]
        exact hsame

end Parted

/-- The first sale of a free offer. -/
theorem first_sold {offer : Offer} (hsigned : Signed smallDeployment offer [1])
    (htok : addressOf offer.paymentToken = smallDeployment.tok)
    (hbuyer : addressOf offer.consumer = 0 ∨ addressOf offer.consumer = ada) (hnow : 5 ≤ offer.validUntil.toNat)
    (hfree : offer.amount = 0) :
    ((RealChain.start smallDeployment 5 (ledgerOf ada 0) 0).fulfill smallDeployment offer [1] adaBuyer).1 = .ok 1 := by
  have hok : Redeemable smallDeployment.toPlatform 5 adaBuyer.1 offer.onChain [1] := ⟨hnow, hbuyer, hsigned.signer⟩
  obtain ⟨token, paid, hdone, -, -⟩ := @fulfill_sold _ _ smallDeployment _ _ adaBuyer
    (RealChain.start smallDeployment 5 (ledgerOf ada 0) 0) reliable_small hsigned htok hok rfl
    (hfree.le.trans (Nat.zero_le _)) (by decide) rfl
  rw [hdone]
  rfl

/-- The contract reads a consumer in any spelling. -/
theorem partsWays_consumer : PartsWays
    (labOffer (lowerCase.spell bell) "0x000000000000000000000000000000000000000A" (lowerCase.spell 0xc) "0") 0 0 := by
  have hsigned := signed_labOffer (isAddress_lowerCase bell) (lowerCase.addressOf_spell bell)
    (by decide : isAddress "0x000000000000000000000000000000000000000A" = true) (isAddress_lowerCase 0xc)
    (by decide : isDecimalString "0" = true) (by decide)
  have hada : addressOf "0x000000000000000000000000000000000000000A" = ada := by decide
  apply @partsWays_of_outcome _ _ _ _ 0 0 hsigned (.error .wrongConsumer) (.ok 1)
  · decide +kernel
  · exact first_sold hsigned (lowerCase.addressOf_spell 0xc) (Or.inr hada) (by decide) (by decide)
  · exact id

/-- The fake books the payment under the spelling of the offer. -/
theorem partsWays_provider : PartsWays
    (labOffer "0x000000000000000000000000000000000000000B" Agents.openConsumer (lowerCase.spell 0xc) "1") 1 0 where
  signed := signed_labOffer (by decide) (by decide) (by decide) (isAddress_lowerCase 0xc) (by decide) (by decide)
  collisionFree := collisionFree_labOffer fun _ hmem => hmem
  states := matching_one _ 5 0 1 ada
  parted := by
    intro hstep
    have hbell := hstep.states.balances bell
    revert hbell
    decide +kernel

/-- The fake has one currency. -/
theorem partsWays_paymentToken : PartsWays
    (labOffer (lowerCase.spell bell) Agents.openConsumer (lowerCase.spell 0xd) "1") 0 0 := by
  apply @partsWays_of_outcome _ _ _ _ 0 0 ?_ (.error .insufficientFunds) (.ok 1)
  · decide +kernel
  · decide +kernel
  · exact id
  · exact signed_labOffer (isAddress_lowerCase bell) (lowerCase.addressOf_spell bell) (by decide)
      (isAddress_lowerCase 0xd) (by decide) (by decide)

/-- A price of nothing, in more digits than `int` reads. -/
def longPrice : String := String.ofList (List.replicate (Decimal.maxStrDigits + 1) '0')

theorem valueOf_zeros (n : Nat) : Decimal.valueOf (List.replicate n '0') = 0 := by
  induction n with
  | zero => rfl
  | succ n ih => exact ih

theorem longPrice_toList : longPrice.toList = List.replicate (Decimal.maxStrDigits + 1) '0' := String.toList_ofList

theorem isDecimalString_longPrice : isDecimalString longPrice = true := by
  unfold isDecimalString
  rw [longPrice_toList, List.replicate_succ, List.all_cons, List.all_replicate]
  decide

theorem check_of_unreadable {offer : Offer} {f : FakeChain} (htype : offer.serviceType = 0)
    (hnow : f.now ≤ offer.validUntil.toNat) (hopen : Hex.valueOf (digitsOf offer.consumer) = 0)
    (hunused : f.consumed offer.salt = false) (hread : Decimal.readInt offer.price.toList = none) (buyer : String) :
    f.check offer buyer = .error .raised := by
  have hconsumer : ¬ (Hex.valueOf (digitsOf offer.consumer) ≠ 0 ∧ offer.consumer ≠ buyer) := fun h => h.1 hopen
  rw [FakeChain.check, if_neg (not_not.mpr htype), if_neg (not_lt.mpr hnow), if_neg hconsumer, hunused,
    if_neg Bool.false_ne_true, hread]

def longOffer : Offer := labOffer (lowerCase.spell bell) Agents.openConsumer (lowerCase.spell 0xc) longPrice

theorem longOffer_amount : longOffer.amount = 0 := by
  rw [Offer.amount]
  change Decimal.valueOf longPrice.toList = 0
  rw [longPrice_toList, valueOf_zeros]

theorem readInt_longPrice : Decimal.readInt longPrice.toList = none := by
  rw [longPrice_toList, Decimal.readInt, List.length_replicate]
  exact if_neg (Nat.not_succ_le_self _)

theorem longOffer_signed : Signed smallDeployment longOffer [1] :=
  signed_labOffer (isAddress_lowerCase bell) (lowerCase.addressOf_spell bell)
    (by decide : isAddress Agents.openConsumer = true) (isAddress_lowerCase 0xc) isDecimalString_longPrice
    (lt_of_eq_of_lt longOffer_amount (by decide))

theorem longOffer_refused :
    ((FakeChain.start 5 (booksOf ada 0) 1).fulfill longOffer (lowerCase.spell ada)).1 = .error .raised := by
  have hcheck := @check_of_unreadable longOffer (FakeChain.start 5 (booksOf ada 0) 1) rfl (by decide) (by decide) rfl
    readInt_longPrice (lowerCase.spell ada)
  exact congrArg Prod.fst (fulfill_of_check hcheck)

theorem longOffer_sold :
    ((RealChain.start smallDeployment 5 (ledgerOf ada 0) 0).fulfill smallDeployment longOffer [1] adaBuyer).1 =
      .ok 1 :=
  first_sold longOffer_signed (lowerCase.addressOf_spell 0xc)
    (Or.inl (by decide : addressOf Agents.openConsumer = 0)) (by decide) longOffer_amount

/-- The contract gets a number, the fake a text that `int` refuses. -/
theorem partsWays_price : PartsWays longOffer 0 0 :=
  partsWays_of_outcome longOffer_signed longOffer_refused longOffer_sold id

/-- The fake never runs out of ids. -/
theorem partsWays_ids : PartsWays
    (labOffer (lowerCase.spell bell) Agents.openConsumer (lowerCase.spell 0xc) "0") 0 (2 ^ 256 - 1) := by
  apply @partsWays_of_outcome _ _ _ _ 0 (2 ^ 256 - 1) ?_ (.ok (2 ^ 256)) (.error (.settlement .panic))
  · decide +kernel
  · decide +kernel
  · exact id
  · exact signed_labOffer (isAddress_lowerCase bell) (lowerCase.addressOf_spell bell) (by decide)
      (isAddress_lowerCase 0xc) (by decide) (by decide)

/-- Every condition of `Plain`, and the supply of ids, is needed. -/
theorem fake_parts_ways :
    PartsWays (labOffer (lowerCase.spell bell) "0x000000000000000000000000000000000000000A" (lowerCase.spell 0xc) "0")
        0 0 ∧
      PartsWays
        (labOffer "0x000000000000000000000000000000000000000B" Agents.openConsumer (lowerCase.spell 0xc) "1") 1 0 ∧
      PartsWays (labOffer (lowerCase.spell bell) Agents.openConsumer (lowerCase.spell 0xd) "1") 0 0 ∧
      PartsWays longOffer 0 0 ∧
      PartsWays (labOffer (lowerCase.spell bell) Agents.openConsumer (lowerCase.spell 0xc) "0") 0 (2 ^ 256 - 1) :=
  ⟨partsWays_consumer, partsWays_provider, partsWays_paymentToken, partsWays_price, partsWays_ids⟩

end A2AProvisioning.Skeleton
