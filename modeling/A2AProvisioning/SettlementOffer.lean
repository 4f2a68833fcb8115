import A2AProvisioning.Interfaces
import Mathlib.Data.Set.Lattice
import Mathlib.Data.List.Basic

/-! Entitlements and offers as `A2ASettlement` stores and hashes them, and the ports to what it
imports: keccak256, the domain separator of EIP-712, and ECDSA recovery. -/

namespace A2AProvisioning.Settlement

structure Entitlement where
  issuer : Address
  serviceType : Uint8
  resourceId : Bytes32
  params : Bytes
  startTime : Uint64
  endTime : Uint64
  revoked : Bool
  termsHash : Bytes32
  deriving DecidableEq

/-- What an id that was never issued reads as. -/
def Entitlement.zero : Entitlement := ⟨0, 0, 0, [], 0, 0, false, 0⟩

structure Offer where
  provider : Address
  consumer : Address
  serviceType : Uint8
  resourceId : Bytes32
  params : Bytes
  startTime : Uint64
  endTime : Uint64
  paymentToken : Address
  price : Uint256
  validUntil : Uint64
  salt : Bytes32
  termsHash : Bytes32
  deriving DecidableEq

/-- The entitlement that `_issue` writes for an offer. -/
def Offer.entitlement (offer : Offer) : Entitlement where
  issuer := offer.provider
  serviceType := offer.serviceType
  resourceId := offer.resourceId
  params := offer.params
  startTime := offer.startTime
  endTime := offer.endTime
  revoked := false
  termsHash := offer.termsHash

/-- Two entitlements that differ in the revoked flag at most. -/
def Entitlement.SameTerms (e e' : Entitlement) : Prop :=
  e.issuer = e'.issuer ∧ e.serviceType = e'.serviceType ∧ e.resourceId = e'.resourceId ∧
    e.params = e'.params ∧ e.startTime = e'.startTime ∧ e.endTime = e'.endTime ∧
    e.termsHash = e'.termsHash

theorem Entitlement.SameTerms.refl (e : Entitlement) : e.SameTerms e :=
  ⟨rfl, rfl, rfl, rfl, rfl, rfl, rfl⟩

theorem Entitlement.SameTerms.trans {e₁ e₂ e₃ : Entitlement} (h : e₁.SameTerms e₂)
    (h' : e₂.SameTerms e₃) : e₁.SameTerms e₃ := by
  obtain ⟨h1, h2, h3, h4, h5, h6, h7⟩ := h
  obtain ⟨h1', h2', h3', h4', h5', h6', h7'⟩ := h'
  exact ⟨h1.trans h1', h2.trans h2', h3.trans h3', h4.trans h4', h5.trans h5', h6.trans h6', h7.trans h7'⟩

/-- A word of the ABI encoding, most significant byte first. -/
def word (w : Uint256) : Bytes := (List.range 32).map fun i => UInt8.ofNat (w.toNat >>> (8 * (31 - i)))

/-- `abi.encode` of static values, each padded to a word. -/
def abiEncode (words : List Uint256) : Bytes := words.flatMap word

theorem word_length (w : Uint256) : (word w).length = 32 := by
  rw [word, List.length_map, List.length_range]

theorem word_injective {w w' : Uint256} (h : word w = word w') : w = w' := by
  refine BitVec.eq_of_toNat_eq (Nat.eq_of_testBit_eq fun j => ?_)
  by_cases hj : j < 256
  · -- bit `j` sits in byte `31 - j / 8`, at position `j % 8`
    have hbyte := List.map_inj_left.mp h (31 - j / 8) (List.mem_range.mpr (by omega))
    have hbits := congrArg (fun byte : UInt8 => byte.toNat.testBit (j % 8)) hbyte
    have hpos : 8 * (31 - (31 - j / 8)) + j % 8 = j := by omega
    have hlow : j % 8 < 8 := Nat.mod_lt _ (by omega)
    simpa only [UInt8.toNat_ofNat', Nat.testBit_mod_two_pow, Nat.testBit_shiftRight, hpos, hlow, decide_true,
      Bool.true_and] using hbits
  · have hpow : 2 ^ 256 ≤ 2 ^ j := Nat.pow_le_pow_right (by omega) (not_lt.mp hj)
    rw [Nat.testBit_lt_two_pow (lt_of_lt_of_le w.isLt hpow), Nat.testBit_lt_two_pow (lt_of_lt_of_le w'.isLt hpow)]

theorem abiEncode_length (words : List Uint256) : (abiEncode words).length = 32 * words.length := by
  induction words with
  | nil => rfl
  | cons w words ih =>
      rw [abiEncode, List.flatMap_cons, List.length_append, word_length, List.length_cons]
      rw [abiEncode] at ih
      omega

theorem abiEncode_pair (w w' : Uint256) : abiEncode [w, w'] = word w ++ word w' := by
  rw [abiEncode, List.flatMap_cons, List.flatMap_cons, List.flatMap_nil, List.append_nil]

theorem abiEncode_injective {words words' : List Uint256} (h : abiEncode words = abiEncode words') :
    words = words' := by
  induction words generalizing words' with
  | nil =>
      have hlength := congrArg List.length h
      rw [abiEncode_length, abiEncode_length, List.length_nil] at hlength
      exact (List.length_eq_zero_iff.mp (by omega)).symm
  | cons w words ih =>
      cases words' with
      | nil =>
          have hlength := congrArg List.length h
          rw [abiEncode_length, abiEncode_length, List.length_cons, List.length_nil] at hlength
          omega
      | cons w' words' =>
          obtain ⟨hhead, htail⟩ := List.append_inj h ((word_length w).trans (word_length w').symm)
          rw [word_injective hhead, ih htail]

theorem setWidth_injective {n m : Nat} (hle : n ≤ m) {x y : BitVec n} (h : x.setWidth m = y.setWidth m) :
    x = y := by
  have htoNat := congrArg BitVec.toNat h
  rw [BitVec.toNat_setWidth_of_le hle, BitVec.toNat_setWidth_of_le hle] at htoNat
  exact BitVec.eq_of_toNat_eq htoNat

/-- What the contract uses of the EVM and of OpenZeppelin's EIP712 and ECDSA. `recover` is `none`
where the library reverts. -/
structure Crypto where
  keccak256 : Bytes → Bytes32
  domainSeparator : Bytes32
  recover : Bytes32 → Bytes → Option Address

def offerType : String :=
  "Offer(address provider,address consumer,uint8 serviceType,bytes32 resourceId,bytes params,uint64 startTime,uint64 endTime,address paymentToken,uint256 price,uint64 validUntil,bytes32 salt,bytes32 termsHash)"

namespace Crypto

variable (crypto : Crypto)

def offerTypehash : Bytes32 := crypto.keccak256 offerType.toUTF8.toList

/-- The words of the struct hash. The dynamic field enters by its own hash. -/
def offerWords (offer : Offer) : List Uint256 :=
  [crypto.offerTypehash, offer.provider.setWidth 256, offer.consumer.setWidth 256,
    offer.serviceType.setWidth 256, offer.resourceId, crypto.keccak256 offer.params,
    offer.startTime.setWidth 256, offer.endTime.setWidth 256, offer.paymentToken.setWidth 256, offer.price,
    offer.validUntil.setWidth 256, offer.salt, offer.termsHash]

def typedData (structHash : Bytes32) : Bytes :=
  0x19 :: 0x01 :: (word crypto.domainSeparator ++ word structHash)

def hashTypedDataV4 (structHash : Bytes32) : Bytes32 := crypto.keccak256 (crypto.typedData structHash)

def hashOffer (offer : Offer) : Bytes32 :=
  crypto.hashTypedDataV4 (crypto.keccak256 (abiEncode (crypto.offerWords offer)))

/-- The byte strings that are hashed on the way to an offer's digest. -/
def preimages (offer : Offer) : Set Bytes :=
  {offer.params, abiEncode (crypto.offerWords offer),
    crypto.typedData (crypto.keccak256 (abiEncode (crypto.offerWords offer)))}

/-- No two of the byte strings hashed for these offers collide. -/
def CollisionFree (offers : Set Offer) : Prop :=
  Set.InjOn crypto.keccak256 (⋃ offer ∈ offers, crypto.preimages offer)

variable {crypto}

theorem typedData_injective {structHash structHash' : Bytes32}
    (h : crypto.typedData structHash = crypto.typedData structHash') : structHash = structHash' := by
  have htail := (List.cons.inj (List.cons.inj h).2).2
  exact word_injective (List.append_cancel_left htail)

theorem offerWords_injective {offer offer' : Offer} (h : crypto.offerWords offer = crypto.offerWords offer')
    (hparams : crypto.keccak256 offer.params = crypto.keccak256 offer'.params → offer.params = offer'.params) :
    offer = offer' := by
  simp only [offerWords, List.cons.injEq, and_true, true_and] at h
  obtain ⟨hprovider, hconsumer, htype, hresource, hhash, hstart, hend, htoken, hprice, hvalid, hsalt,
    hterms⟩ := h
  cases offer
  cases offer'
  cases setWidth_injective (by omega) hprovider
  cases setWidth_injective (by omega) hconsumer
  cases setWidth_injective (by omega) htype
  cases setWidth_injective (by omega) hstart
  cases setWidth_injective (by omega) hend
  cases setWidth_injective (by omega) htoken
  cases setWidth_injective (by omega) hvalid
  cases hresource
  cases hprice
  cases hsalt
  cases hterms
  cases hparams hhash
  rfl

/-- Among offers without a collision the digest names the offer. -/
theorem hashOffer_injective {offers : Set Offer} (hfree : crypto.CollisionFree offers) {offer offer' : Offer}
    (hmem : offer ∈ offers) (hmem' : offer' ∈ offers) (h : crypto.hashOffer offer = crypto.hashOffer offer') :
    offer = offer' := by
  have hinj : ∀ bytes ∈ crypto.preimages offer, ∀ bytes' ∈ crypto.preimages offer',
      crypto.keccak256 bytes = crypto.keccak256 bytes' → bytes = bytes' := fun bytes hb bytes' hb' heq =>
    hfree (Set.mem_biUnion hmem hb) (Set.mem_biUnion hmem' hb') heq
  have htyped := hinj _ (Or.inr (Or.inr rfl)) _ (Or.inr (Or.inr rfl)) h
  have hstruct := hinj _ (Or.inr (Or.inl rfl)) _ (Or.inr (Or.inl rfl)) (typedData_injective htyped)
  exact offerWords_injective (abiEncode_injective hstruct) (hinj _ (Or.inl rfl) _ (Or.inl rfl))

end Crypto

end A2AProvisioning.Settlement
