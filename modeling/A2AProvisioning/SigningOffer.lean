import A2AProvisioning.LibraryDecimal
import A2AProvisioning.LibraryTypedData
import A2AProvisioning.SettlementOffer

/-! How an offer of the agents becomes a typed message and the calldata of `fulfill`. The typed-data library
of the Python side is a parameter. -/

namespace A2AProvisioning

open TypedData

def isBytes32Hex (s : String) : Bool := isHex (fun n => n == 64) s

def isHexData (s : String) : Bool := isHex (fun n => n % 2 == 0) s

def isDecimalString (s : String) : Bool := s.toList ≠ [] && s.toList.all Char.isDigit

/-- What pydantic checks of an offer besides the widths. -/
structure Offer.Valid (offer : Offer) : Prop where
  provider : isAddress offer.provider = true
  consumer : isAddress offer.consumer = true
  resourceId : isBytes32Hex offer.resourceId = true
  params : isHexData offer.params = true
  paymentToken : isAddress offer.paymentToken = true
  price : isDecimalString offer.price = true
  salt : isBytes32Hex offer.salt = true
  termsHash : isBytes32Hex offer.termsHash = true

/-- The price as a number. -/
def Offer.amount (offer : Offer) : Nat := Decimal.valueOf offer.price.toList

namespace Signing

/-- The words of a name in snake case. -/
def splitWords : List Char → List (List Char)
  | [] => [[]]
  | c :: rest =>
      if c = '_' then [] :: splitWords rest
      else match splitWords rest with
        | [] => [[c]]
        | word :: words => (c :: word) :: words

def capitalize : List Char → List Char
  | [] => []
  | c :: rest => c.toUpper :: rest

/-- The model's alias generator. -/
def toCamel (snake : String) : String :=
  match splitWords snake.toList with
  | [] => ""
  | head :: tail => String.ofList (head ++ tail.flatMap capitalize)

def offerFields (offer : Offer) : List (String × Value) :=
  [("provider", .text offer.provider), ("consumer", .text offer.consumer), ("service_type", .int offer.serviceType.toNat),
    ("resource_id", .text offer.resourceId), ("params", .text offer.params), ("start_time", .int offer.startTime.toNat),
    ("end_time", .int offer.endTime.toNat), ("payment_token", .text offer.paymentToken), ("price", .text offer.price),
    ("valid_until", .int offer.validUntil.toNat), ("salt", .text offer.salt), ("terms_hash", .text offer.termsHash)]

/-- `model_dump(by_alias=True)`. -/
def modelDump (offer : Offer) : Message :=
  (offerFields offer).foldl (fun wire field => wire.insert (toCamel field.1) field.2) OrderedDict.empty

/-- `wire[key] = bytes.fromhex(wire[key][2:])`. -/
def bytesAt (wire : Message) (key : String) : Option Message :=
  match wire.get? key with
  | some (.text s) => (Hex.fromHex (digitsOf s)).map fun bytes => wire.insert key (.bytes bytes)
  | _ => none

/-- `wire[key] = int(wire[key])`. -/
def intAt (wire : Message) (key : String) : Option Message :=
  match wire.get? key with
  | some (.text s) => (Decimal.readInt s.toList).map fun n => wire.insert key (.int n)
  | _ => none

/-- `none` where it raises. -/
def offerToMessage (offer : Offer) : Option Message :=
  (["resourceId", "params", "salt", "termsHash"].foldlM bytesAt (modelDump offer)).bind (intAt · "price")

def offerTypes : StructType :=
  ⟨"Offer", [("provider", .address), ("consumer", .address), ("serviceType", .uint 8), ("resourceId", .bytes32),
    ("params", .bytes), ("startTime", .uint 64), ("endTime", .uint 64), ("paymentToken", .address),
    ("price", .uint 256), ("validUntil", .uint 64), ("salt", .bytes32), ("termsHash", .bytes32)]⟩

def eip712Domain (chainId : Nat) (settlement : String) : Message :=
  ⟨[("name", .text "A2AProvisioning"), ("version", .text "0"), ("chainId", .int chainId),
    ("verifyingContract", .text settlement)], by simp⟩

/-- The typed-data library: `encode_typed_data`, `none` where it raises. -/
abbrev Encoder := Message → StructType → Message → Option SignableMessage

def encodeOffer (encode : Encoder) (offer : Offer) (chainId : Nat) (settlement : String) : Option SignableMessage :=
  (offerToMessage offer).bind (encode (eip712Domain chainId settlement) offerTypes)

def offerDigest (keccak256 : Bytes → Bytes32) (encode : Encoder) (offer : Offer) (chainId : Nat)
    (settlement : String) : Option Bytes32 :=
  (encodeOffer encode offer chainId settlement).map fun signable => keccak256 signable.preimage

def offerTuple (offer : Offer) : Option (List Value) :=
  (offerToMessage offer).bind fun message => offerTypes.members.mapM fun member => message.get? member.1

/-- A value of the tuple as the ABI type of its place. -/
def asAddress : Value → Option Address
  | .text s => if isAddress s then some (addressOf s) else none
  | _ => none

def asUint (bits : Nat) : Value → Option (BitVec bits)
  | .int n => if n < 2 ^ bits then some (BitVec.ofNat bits n) else none
  | _ => none

def asBytes32 : Value → Option Bytes32
  | .bytes bytes => if bytes.length = 32 then some (BitVec.ofNat 256 (Hex.bigEndian bytes)) else none
  | _ => none

def asBytes : Value → Option Bytes
  | .bytes bytes => some bytes
  | _ => none

/-- The struct that the contract gets for a tuple. -/
def calldata : List Value → Option Settlement.Offer
  | [provider, consumer, serviceType, resourceId, params, startTime, endTime, paymentToken, price, validUntil, salt,
      termsHash] => do
      return ⟨← asAddress provider, ← asAddress consumer, ← asUint 8 serviceType, ← asBytes32 resourceId,
        ← asBytes params, ← asUint 64 startTime, ← asUint 64 endTime, ← asAddress paymentToken, ← asUint 256 price,
        ← asUint 64 validUntil, ← asBytes32 salt, ← asBytes32 termsHash⟩
  | _ => none

end Signing

/-- What an offer says, as the contract's types. -/
def Offer.onChain (offer : Offer) : Settlement.Offer where
  provider := addressOf offer.provider
  consumer := addressOf offer.consumer
  serviceType := offer.serviceType
  resourceId := BitVec.ofNat 256 (Hex.bigEndian (Hex.bytesOf (digitsOf offer.resourceId)))
  params := Hex.bytesOf (digitsOf offer.params)
  startTime := offer.startTime
  endTime := offer.endTime
  paymentToken := addressOf offer.paymentToken
  price := BitVec.ofNat 256 offer.amount
  validUntil := offer.validUntil
  salt := BitVec.ofNat 256 (Hex.bigEndian (Hex.bytesOf (digitsOf offer.salt)))
  termsHash := BitVec.ofNat 256 (Hex.bigEndian (Hex.bytesOf (digitsOf offer.termsHash)))

namespace Signing

variable {offer : Offer}

theorem fromHex_bytes32 {s : String} (h : isBytes32Hex s = true) :
    Hex.fromHex (digitsOf s) = some (Hex.bytesOf (digitsOf s)) ∧ (Hex.bytesOf (digitsOf s)).length = 32 := by
  obtain ⟨hlength, hdigits⟩ := digitsOf_of_isHex h
  rw [beq_iff_eq] at hlength
  refine ⟨Hex.fromHex_eq hdigits (by omega), ?_⟩
  rw [Hex.bytesOf_length, hlength]

theorem bytes32_toNat {s : String} (h : isBytes32Hex s = true) :
    (BitVec.ofNat 256 (Hex.bigEndian (Hex.bytesOf (digitsOf s)))).toNat = Hex.bigEndian (Hex.bytesOf (digitsOf s)) := by
  have hlt : Hex.bigEndian (Hex.bytesOf (digitsOf s)) < 2 ^ 256 := by
    calc
      Hex.bigEndian (Hex.bytesOf (digitsOf s)) < 256 ^ (Hex.bytesOf (digitsOf s)).length := Hex.bigEndian_lt _
      _ = 2 ^ 256 := by rw [(fromHex_bytes32 h).2]; decide
  rw [BitVec.toNat_ofNat]
  exact Nat.mod_eq_of_lt hlt

theorem onChain_price_toNat (hprice : offer.amount < 2 ^ 256) : offer.onChain.price.toNat = offer.amount := by
  change (BitVec.ofNat 256 offer.amount).toNat = offer.amount
  rw [BitVec.toNat_ofNat]
  exact Nat.mod_eq_of_lt hprice

theorem fromHex_hexData {s : String} (h : isHexData s = true) :
    Hex.fromHex (digitsOf s) = some (Hex.bytesOf (digitsOf s)) := by
  obtain ⟨hlength, hdigits⟩ := digitsOf_of_isHex h
  rw [beq_iff_eq] at hlength
  exact Hex.fromHex_eq hdigits hlength

/-- The message of a valid offer, once its price is read. -/
def messageOf (offer : Offer) (price : Nat) : Message :=
  (((((modelDump offer).insert "resourceId" (.bytes (Hex.bytesOf (digitsOf offer.resourceId)))).insert
    "params" (.bytes (Hex.bytesOf (digitsOf offer.params)))).insert
    "salt" (.bytes (Hex.bytesOf (digitsOf offer.salt)))).insert
    "termsHash" (.bytes (Hex.bytesOf (digitsOf offer.termsHash)))).insert "price" (.int price)

theorem toCamel_names :
    toCamel "provider" = "provider" ∧ toCamel "consumer" = "consumer" ∧ toCamel "service_type" = "serviceType" ∧
      toCamel "resource_id" = "resourceId" ∧ toCamel "params" = "params" ∧ toCamel "start_time" = "startTime" ∧
      toCamel "end_time" = "endTime" ∧ toCamel "payment_token" = "paymentToken" ∧ toCamel "price" = "price" ∧
      toCamel "valid_until" = "validUntil" ∧ toCamel "salt" = "salt" ∧ toCamel "terms_hash" = "termsHash" := by
  decide

theorem modelDump_eq (offer : Offer) : (modelDump offer).entries =
    [("provider", .text offer.provider), ("consumer", .text offer.consumer), ("serviceType", .int offer.serviceType.toNat),
      ("resourceId", .text offer.resourceId), ("params", .text offer.params), ("startTime", .int offer.startTime.toNat),
      ("endTime", .int offer.endTime.toNat), ("paymentToken", .text offer.paymentToken), ("price", .text offer.price),
      ("validUntil", .int offer.validUntil.toNat), ("salt", .text offer.salt), ("termsHash", .text offer.termsHash)] := by
  obtain ⟨h₁, h₂, h₃, h₄, h₅, h₆, h₇, h₈, h₉, h₁₀, h₁₁, h₁₂⟩ := toCamel_names
  simp only [modelDump, offerFields, List.foldl_cons, List.foldl_nil, h₁, h₂, h₃, h₄, h₅, h₆, h₇, h₈, h₉, h₁₀, h₁₁, h₁₂]
  simp [OrderedDict.insert, OrderedDict.assign, OrderedDict.empty]

theorem get?_modelDump (offer : Offer) (key : String) :
    (modelDump offer).get? key = OrderedDict.find key (modelDump offer).entries := rfl

theorem offerToMessage_eq (hvalid : offer.Valid) :
    offerToMessage offer = (Decimal.readInt offer.price.toList).map (messageOf offer) := by
  have hresource := (fromHex_bytes32 hvalid.resourceId).1
  have hparams := fromHex_hexData hvalid.params
  have hsalt := (fromHex_bytes32 hvalid.salt).1
  have hterms := (fromHex_bytes32 hvalid.termsHash).1
  simp [offerToMessage, bytesAt, intAt, get?_modelDump, modelDump_eq, OrderedDict.find, hresource, hparams, hsalt,
    hterms]
  rfl

theorem messageOf_entries (offer : Offer) (price : Nat) : (messageOf offer price).entries =
    [("provider", .text offer.provider), ("consumer", .text offer.consumer), ("serviceType", .int offer.serviceType.toNat),
      ("resourceId", .bytes (Hex.bytesOf (digitsOf offer.resourceId))),
      ("params", .bytes (Hex.bytesOf (digitsOf offer.params))), ("startTime", .int offer.startTime.toNat),
      ("endTime", .int offer.endTime.toNat), ("paymentToken", .text offer.paymentToken), ("price", .int price),
      ("validUntil", .int offer.validUntil.toNat), ("salt", .bytes (Hex.bytesOf (digitsOf offer.salt))),
      ("termsHash", .bytes (Hex.bytesOf (digitsOf offer.termsHash)))] := by
  simp [messageOf, OrderedDict.insert, OrderedDict.assign, modelDump_eq]

theorem get?_messageOf (offer : Offer) (price : Nat) (key : String) :
    (messageOf offer price).get? key = OrderedDict.find key (messageOf offer price).entries := rfl

theorem tuple_messageOf (offer : Offer) (price : Nat) :
    (offerTypes.members.mapM fun member => (messageOf offer price).get? member.1) =
      some ((messageOf offer price).entries.map Prod.snd) := by
  simp [offerTypes, get?_messageOf, messageOf_entries, OrderedDict.find]

theorem asAddress_text {s : String} (h : isAddress s = true) : asAddress (.text s) = some (addressOf s) := if_pos h

theorem asUint_toNat {bits : Nat} (n : BitVec bits) : asUint bits (.int n.toNat) = some n := by
  rw [asUint, if_pos n.isLt, BitVec.ofNat_toNat, BitVec.setWidth_eq]

theorem asBytes32_hex {s : String} (h : isBytes32Hex s = true) :
    asBytes32 (.bytes (Hex.bytesOf (digitsOf s))) =
      some (BitVec.ofNat 256 (Hex.bigEndian (Hex.bytesOf (digitsOf s)))) := if_pos (fromHex_bytes32 h).2

/-- The tuple of a valid offer is what the offer says, in the contract's order. -/
theorem offerTuple_eq (hvalid : offer.Valid) (hprice : offer.amount < 2 ^ 256) :
    (offerTuple offer).bind calldata = (Decimal.readInt offer.price.toList).map fun _ => offer.onChain := by
  rw [offerTuple, offerToMessage_eq hvalid, Decimal.readInt]
  split
  · have hamount : asUint 256 (.int (Decimal.valueOf offer.price.toList)) =
        some (BitVec.ofNat 256 (Decimal.valueOf offer.price.toList)) := if_pos hprice
    rw [Option.map_some, Option.bind_some, tuple_messageOf, Option.bind_some, messageOf_entries, Option.map_some]
    simp only [List.map_cons, List.map_nil, calldata, asAddress_text hvalid.provider, asAddress_text hvalid.consumer,
      asAddress_text hvalid.paymentToken, asUint_toNat, asBytes32_hex hvalid.resourceId, asBytes32_hex hvalid.salt,
      asBytes32_hex hvalid.termsHash, hamount, asBytes]
    rfl
  · rfl

/-- Whatever the contract gets for a valid offer is what the offer says. -/
theorem eq_onChain_of_calldata (hvalid : offer.Valid) {sent : Settlement.Offer}
    (h : (offerTuple offer).bind calldata = some sent) : sent = offer.onChain ∧ offer.amount < 2 ^ 256 := by
  by_cases hprice : offer.amount < 2 ^ 256
  · rw [offerTuple_eq hvalid hprice] at h
    obtain ⟨price, -, rfl⟩ := Option.map_eq_some_iff.mp h
    exact ⟨rfl, hprice⟩
  · have hamount : asUint 256 (.int (Decimal.valueOf offer.price.toList)) = none := if_neg hprice
    rw [offerTuple, offerToMessage_eq hvalid, Decimal.readInt] at h
    split at h
    · rw [Option.map_some, Option.bind_some, tuple_messageOf, Option.bind_some, messageOf_entries] at h
      simp only [List.map_cons, List.map_nil, calldata, asAddress_text hvalid.provider, asAddress_text hvalid.consumer,
        asAddress_text hvalid.paymentToken, asUint_toNat, asBytes32_hex hvalid.resourceId, hamount, asBytes] at h
      cases h
    · cases h

end Signing

end A2AProvisioning
