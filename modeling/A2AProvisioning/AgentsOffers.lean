import A2AProvisioning.SigningOffer

/-! The offer that the provider's tool builds from a need and the catalogue. The salt and the telemetry
encoder of `eth_abi` are parameters. -/

namespace A2AProvisioning

instance (offer : Offer) : Decidable offer.Valid :=
  decidable_of_iff (TypedData.isAddress offer.provider ∧ TypedData.isAddress offer.consumer ∧
      isBytes32Hex offer.resourceId ∧ isHexData offer.params ∧ TypedData.isAddress offer.paymentToken ∧
      isDecimalString offer.price ∧ isBytes32Hex offer.salt ∧ isBytes32Hex offer.termsHash)
    ⟨fun ⟨h₁, h₂, h₃, h₄, h₅, h₆, h₇, h₈⟩ => ⟨h₁, h₂, h₃, h₄, h₅, h₆, h₇, h₈⟩,
      fun h => ⟨h.provider, h.consumer, h.resourceId, h.params, h.paymentToken, h.price, h.salt, h.termsHash⟩⟩

namespace Agents

/-- `str(n)`; `none` where it raises. -/
def strOf (n : Int) : Option String :=
  if (Nat.toDigits 10 n.natAbs).length ≤ Decimal.maxStrDigits then some (toString n) else none

/-- `"0x" + f"{n:064x}"`. -/
def word64 (n : Nat) : String := String.ofList ('0' :: 'x' :: Hex.format 64 n)

def resourceId : String := word64 7

def telemetryResourceId : String := word64 8

def mockTok : String := "0x5FbDB2315678afecb367f032d93F642f64180aa3"

def termsHash : String := String.ofList ('0' :: 'x' :: List.replicate 64 '2')

def openConsumer : String := String.ofList ('0' :: 'x' :: List.replicate 40 '0')

/-- Two right-aligned words. -/
def bandwidthParams (need : BandwidthNeed) : String :=
  String.ofList ('0' :: 'x' :: (Hex.format 64 need.capacityBps.toNat ++ Hex.format 64 need.qosClass.toNat))

/-- What the catalogue knows of a product, but for the price and the pool. -/
structure ServiceDesc where
  serviceType : Uint8
  resourceId : String
  params : String

/-- The catalogue row of a need, with its params encoded. -/
def serviceFor (telemetryParams : TelemetryNeed → String) : ServiceNeed → ServiceDesc
  | .bandwidth need => ⟨0, resourceId, bandwidthParams need⟩
  | .telemetry need => ⟨1, telemetryResourceId, telemetryParams need⟩

structure ChainProviderTools where
  address : String
  telemetryParams : TelemetryNeed → String

/-- The fields that `sign_offer` fills in. -/
def ChainProviderTools.draft (tools : ChainProviderTools) (need : ServiceNeed) (priceTok : Nat) (salt : String) :
    Offer :=
  let service := serviceFor tools.telemetryParams need
  { provider := tools.address
    consumer := openConsumer
    serviceType := service.serviceType
    resourceId := service.resourceId
    params := service.params
    startTime := need.window.start
    endTime := need.window.end
    paymentToken := mockTok
    price := toString (priceTok * 10 ^ 18)
    validUntil := need.window.end
    salt := salt
    termsHash := termsHash }

/-- The offer that `sign_offer` builds; `none` where the model rejects it. -/
def ChainProviderTools.offerFor (tools : ChainProviderTools) (need : ServiceNeed) (priceTok : Nat) (salt : String) :
    Option Offer :=
  if (tools.draft need priceTok salt).Valid then some (tools.draft need priceTok salt) else none

theorem digitsOf_ofList (cs : List Char) : TypedData.digitsOf (String.ofList ('0' :: 'x' :: cs)) = cs := by
  rw [TypedData.digitsOf, String.toList_ofList]
  rfl

theorem isHex_ofList {digits : Nat → Bool} {cs : List Char} (hlength : digits cs.length = true)
    (hdigits : ∀ c ∈ cs, Hex.isDigit c = true) : TypedData.isHex digits (String.ofList ('0' :: 'x' :: cs)) = true := by
  rw [TypedData.isHex, String.toList_ofList]
  change (digits cs.length && cs.all Hex.isDigit) = true
  rw [hlength, Bool.true_and]
  exact List.all_eq_true.mpr hdigits

theorem isDigit_replicate (n : Nat) {c : Char} (hc : Hex.isDigit c = true) :
    ∀ c' ∈ List.replicate n c, Hex.isDigit c' = true := by
  intro c' hmem
  rw [List.eq_of_mem_replicate hmem]
  exact hc

theorem format_length_of_lt {bits : Nat} (n : BitVec bits) (hbits : bits ≤ 256) :
    (Hex.format 64 n.toNat).length = 64 := by
  apply Hex.format_length (by omega)
  calc
    n.toNat < 2 ^ bits := n.isLt
    _ ≤ 2 ^ 256 := Nat.pow_le_pow_right (by omega) hbits
    _ = 16 ^ 64 := by decide

theorem isBytes32Hex_word64 (n : Uint256) : isBytes32Hex (word64 n.toNat) = true := by
  apply isHex_ofList
  · rw [beq_iff_eq, format_length_of_lt n le_rfl]
  · exact fun _ => Hex.isDigit_format

/-- The bytes of `word64 n` are the word `n`. -/
theorem bigEndian_word64 (n : Uint256) :
    BitVec.ofNat 256 (Hex.bigEndian (Hex.bytesOf (TypedData.digitsOf (word64 n.toNat)))) = n := by
  have hlength := format_length_of_lt n le_rfl
  rw [word64, digitsOf_ofList, Hex.bigEndian_bytesOf (fun _ => Hex.isDigit_format) (by omega), Hex.valueOf_format,
    BitVec.ofNat_toNat, BitVec.setWidth_eq]

theorem digitsOf_bandwidthParams (need : BandwidthNeed) :
    TypedData.digitsOf (bandwidthParams need) =
      Hex.format 64 need.capacityBps.toNat ++ Hex.format 64 need.qosClass.toNat := by
  rw [bandwidthParams, digitsOf_ofList]

theorem isHexData_bandwidthParams (need : BandwidthNeed) : isHexData (bandwidthParams need) = true := by
  apply isHex_ofList
  · rw [List.length_append, format_length_of_lt _ (by omega), format_length_of_lt _ (by omega)]
    rfl
  · intro c hc
    rcases List.mem_append.mp hc with hc | hc
    · exact Hex.isDigit_format hc
    · exact Hex.isDigit_format hc

/-- The params are the ABI encoding of the need. -/
theorem bytesOf_bandwidthParams (need : BandwidthNeed) :
    Hex.bytesOf (TypedData.digitsOf (bandwidthParams need)) =
      Settlement.abiEncode [need.capacityBps.setWidth 256, need.qosClass.setWidth 256] := by
  have hword : ∀ {bits : Nat} (n : BitVec bits), bits ≤ 256 →
      Hex.bytesOf (Hex.format 64 n.toNat) = Settlement.word (n.setWidth 256) := by
    intro bits n hbits
    have hlt : n.toNat < 256 ^ 32 := by
      calc
        n.toNat < 2 ^ bits := n.isLt
        _ ≤ 2 ^ 256 := Nat.pow_le_pow_right (by omega) hbits
        _ = 256 ^ 32 := by decide
    calc
      Hex.bytesOf (Hex.format 64 n.toNat) = Hex.lastBytes 32 n.toNat := @Hex.bytesOf_format 32 _ (by omega) hlt
      _ = Hex.lastBytes 32 (n.setWidth 256).toNat := by rw [BitVec.toNat_setWidth_of_le hbits]
  have hlength := format_length_of_lt need.capacityBps (by omega)
  rw [digitsOf_bandwidthParams, Hex.bytesOf_append (by omega), hword _ (by omega), hword _ (by omega),
    Settlement.abiEncode_pair]

/-- The model accepts every offer of a need for bandwidth. -/
theorem draft_valid {tools : ChainProviderTools} (haddress : TypedData.isAddress tools.address = true)
    (need : BandwidthNeed) (priceTok : Nat) {salt : String} (hsalt : isBytes32Hex salt = true) :
    (tools.draft (.bandwidth need) priceTok salt).Valid where
  provider := haddress
  consumer := isHex_ofList (by decide) (isDigit_replicate 40 (by decide))
  resourceId := isBytes32Hex_word64 7
  params := isHexData_bandwidthParams need
  paymentToken := (by decide : TypedData.isAddress mockTok = true)
  price := by
    change isDecimalString (toString (priceTok * 10 ^ 18)) = true
    have hne : (toString (priceTok * 10 ^ 18)).toList ≠ [] := by
      rw [Nat.toString_eq_repr, Nat.toList_repr]
      exact Nat.toDigits_ne_nil
    rw [isDecimalString, decide_eq_true hne, Bool.true_and]
    exact List.all_eq_true.mpr fun c => Decimal.isDigit_of_mem_toString
  salt := hsalt
  termsHash := isHex_ofList (by decide) (isDigit_replicate 64 (by decide))

end Agents

end A2AProvisioning
