import A2AProvisioning.SigningOffer
import Mathlib.Logic.Function.Basic

/-! The fake settlement of the end-to-end suite. It keeps addresses, salts and prices as the strings that
the offers hold. -/

namespace A2AProvisioning.Skeleton

open TypedData

/-- Two words of the blob, each read by `int(_, 16)`; `none` where a word is no number or out of range. -/
def decodeBandwidthParams (params : String) : Option BandwidthParams :=
  let body := digitsOf params
  match Hex.readInt (body.take 64), Hex.readInt ((body.drop 64).take 64) with
  | some capacityBps, some qosClass =>
      if capacityBps < 2 ^ 64 ∧ qosClass < 2 ^ 8 then
        some ⟨BitVec.ofNat 64 capacityBps, BitVec.ofNat 8 qosClass⟩
      else none
  | _, _ => none

/-- The exceptions of the fake; `raised` is any other one. -/
inductive FakeError
  | notImplemented
  | offerExpired
  | wrongConsumer
  | offerAlreadyUsed
  | insufficientFunds
  | raised
  deriving DecidableEq

/-- The view that the fake stores. -/
structure View where
  id : Nat
  issuer : String
  serviceType : Uint8
  resourceId : Bytes
  params : BandwidthParams
  startTime : Uint64
  endTime : Uint64
  revoked : Bool
  termsHash : Bytes

/-- A balance that was never set reads as zero. -/
structure FakeChain where
  now : Nat
  balances : String → Int
  nextId : Nat
  consumed : String → Bool
  owners : Nat → Option String
  entitlements : Nat → Option View

namespace FakeChain

def advance (seconds : Nat) (f : FakeChain) : FakeChain := { f with now := f.now + seconds }

/-- The first failing check of `fulfill`, else the price. -/
def check (offer : Offer) (buyer : String) (f : FakeChain) : Except FakeError Nat :=
  if offer.serviceType ≠ 0 then .error .notImplemented
  else if f.now > offer.validUntil.toNat then .error .offerExpired
  else if Hex.valueOf (digitsOf offer.consumer) ≠ 0 ∧ offer.consumer ≠ buyer then .error .wrongConsumer
  else if f.consumed offer.salt then .error .offerAlreadyUsed
  else match Decimal.readInt offer.price.toList with
    | none => .error .raised
    | some price => if f.balances buyer < price then .error .insufficientFunds else .ok price

/-- Salt, payment and owner, once the checks are done. -/
def pay (offer : Offer) (buyer : String) (price : Nat) (f : FakeChain) : FakeChain :=
  let debited := Function.update f.balances buyer (f.balances buyer - price)
  { f with
    consumed := Function.update f.consumed offer.salt true
    balances := Function.update debited offer.provider (debited offer.provider + price)
    nextId := f.nextId + 1
    owners := Function.update f.owners f.nextId (some buyer) }

def viewOf (offer : Offer) (id : Nat) : Option View :=
  match Hex.fromHex (digitsOf offer.resourceId), decodeBandwidthParams offer.params,
    Hex.fromHex (digitsOf offer.termsHash) with
  | some resourceId, some params, some termsHash =>
      some ⟨id, offer.provider, offer.serviceType, resourceId, params, offer.startTime, offer.endTime, false, termsHash⟩
  | _, _, _ => none

/-- The view is built last, so where that raises, everything else has happened. -/
def fulfill (offer : Offer) (buyer : String) (f : FakeChain) : Except FakeError Nat × FakeChain :=
  match f.check offer buyer with
  | .error err => (.error err, f)
  | .ok price =>
      let paid := f.pay offer buyer price
      match viewOf offer f.nextId with
      | none => (.error .raised, paid)
      | some view => (.ok f.nextId, { paid with entitlements := Function.update paid.entitlements f.nextId (some view) })

end FakeChain

theorem toNat_bigEndian_word (w : Uint256) : Hex.bigEndian (Settlement.word w) = w.toNat := by
  have hword : Settlement.word w = Hex.lastBytes 32 w.toNat := rfl
  rw [hword, Hex.bigEndian_lastBytes]
  exact Nat.mod_eq_of_lt w.isLt

/-- Sixty-four digits that are the bytes of a word are read as the word. -/
theorem readInt_word {cs : List Char} {w : Uint256} (hdigits : ∀ c ∈ cs, Hex.isDigit c = true)
    (hbytes : Hex.bytesOf cs = Settlement.word w) (hlength : cs.length = 64) : Hex.readInt cs = some w.toNat := by
  have hvalue : Hex.valueOf cs = w.toNat := by
    rw [← Hex.bigEndian_bytesOf hdigits (by omega), hbytes, toNat_bigEndian_word]
  have hne : cs ≠ [] := by
    rintro rfl
    cases hlength
  rw [Hex.readInt, if_pos ⟨hne, List.all_eq_true.mpr hdigits⟩, hvalue]

/-- The fake reads the ABI encoding of params as these params. -/
theorem decodeBandwidthParams_eq {params : String} (hparams : isHexData params = true) {bandwidth : BandwidthParams}
    (hbytes : Hex.bytesOf (digitsOf params) =
      Settlement.abiEncode [bandwidth.capacityBps.setWidth 256, bandwidth.qosClass.setWidth 256]) :
    decodeBandwidthParams params = some bandwidth := by
  obtain ⟨heven, hdigits⟩ := digitsOf_of_isHex hparams
  rw [beq_iff_eq] at heven
  have hlength : (digitsOf params).length = 128 := by
    have hlengths := congrArg List.length hbytes
    rw [Hex.bytesOf_length, Settlement.abiEncode_length, List.length_cons, List.length_singleton] at hlengths
    omega
  set body := digitsOf params
  have hsplit : Hex.bytesOf (body.take 64) ++ Hex.bytesOf (body.drop 64) =
      Settlement.word (bandwidth.capacityBps.setWidth 256) ++ Settlement.word (bandwidth.qosClass.setWidth 256) := by
    have htake : (body.take 64).length % 2 = 0 := by
      rw [List.length_take, hlength]
      decide
    rw [← Hex.bytesOf_append htake, List.take_append_drop, hbytes, Settlement.abiEncode_pair]
  have htakeLength : (body.take 64).length = 64 := by
    rw [List.length_take]
    omega
  have hdropLength : (body.drop 64).length = 64 := by
    rw [List.length_drop]
    omega
  obtain ⟨hfirst, hsecond⟩ := List.append_inj hsplit (by
    rw [Hex.bytesOf_length, htakeLength, Settlement.word_length])
  have hcapacity := readInt_word (fun c hc => hdigits c (List.mem_of_mem_take hc)) hfirst htakeLength
  have hqos := readInt_word (fun c hc => hdigits c (List.mem_of_mem_drop hc)) hsecond hdropLength
  have hrest : (body.drop 64).take 64 = body.drop 64 := List.take_of_length_le (by omega)
  rw [BitVec.toNat_setWidth_of_le (by omega)] at hcapacity hqos
  rw [decodeBandwidthParams]
  rw [hrest, hcapacity, hqos]
  dsimp only
  rw [if_pos ⟨bandwidth.capacityBps.isLt, bandwidth.qosClass.isLt⟩, BitVec.ofNat_toNat, BitVec.ofNat_toNat,
    BitVec.setWidth_eq, BitVec.setWidth_eq]

end A2AProvisioning.Skeleton
