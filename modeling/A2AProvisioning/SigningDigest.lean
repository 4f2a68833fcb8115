import A2AProvisioning.SigningOffer

/-! The digest that Python signs is the one the contract recovers from, and it binds every field. -/

namespace A2AProvisioning

open TypedData

namespace Signing

def domainTypeString : String := "EIP712Domain(string name,string version,uint256 chainId,address verifyingContract)"

/-- The hashing of a settlement at an address of a chain, with the domain of OpenZeppelin's EIP712. -/
def deployedCrypto (keccak256 : Bytes → Bytes32) (recover : Bytes32 → Bytes → Option Address) (chainId : Uint256)
    (address : Address) : Settlement.Crypto where
  keccak256 := keccak256
  domainSeparator := keccak256 (Settlement.abiEncode [keccak256 domainTypeString.toUTF8.toList,
    keccak256 "A2AProvisioning".toUTF8.toList, keccak256 "0".toUTF8.toList, chainId, address.setWidth 256])
  recover := recover

/-- The library encodes what EIP-712 says how to encode. -/
def Implements (encode : Encoder) (keccak256 : Bytes → Bytes32) : Prop :=
  ∀ domain type message signable,
    encodeTypedData keccak256 Settlement.word domain type message = some signable →
      encode domain type message = some signable

variable (keccak256 : Bytes → Bytes32) (recover : Bytes32 → Bytes → Option Address) (chainId : Uint256)
  {settlement : String}

theorem encodeType_offerTypes : encodeType offerTypes = Settlement.offerType := by decide +kernel

theorem encodeType_domainType : encodeType domainType = domainTypeString := by decide

theorem hashStruct_domain (hsettlement : isAddress settlement = true) :
    hashStruct keccak256 Settlement.word domainType (eip712Domain chainId.toNat settlement) =
      some (deployedCrypto keccak256 recover chainId (addressOf settlement)).domainSeparator := by
  have hdata : encodeData keccak256 domainType (eip712Domain chainId.toNat settlement) =
      some [keccak256 "A2AProvisioning".toUTF8.toList, keccak256 "0".toUTF8.toList, chainId.setWidth 256,
        (addressOf settlement).setWidth 256] := by
    rw [encodeData_eq rfl]
    simp only [domainType, eip712Domain, List.zip_cons_cons, List.zip_nil_left, List.mapM_cons, List.mapM_nil,
      encodeValue_string, encodeValue_uint, encodeValue_address hsettlement]
    rfl
  rw [hashStruct, hdata, Option.map_some, hashType, encodeType_domainType, BitVec.setWidth_eq]
  rfl

theorem encodeData_offer {offer : Offer} (hvalid : offer.Valid) (hprice : offer.amount < 2 ^ 256)
    (crypto : Settlement.Crypto) :
    some (crypto.offerWords offer.onChain) =
      (encodeData crypto.keccak256 offerTypes (messageOf offer offer.amount)).map
        fun words => crypto.offerTypehash :: words := by
  have hamount : encodeValue crypto.keccak256 (.uint 256) (.int offer.amount) =
      some (BitVec.ofNat 256 offer.amount) := if_pos hprice
  have hnames : (messageOf offer offer.amount).entries.map Prod.fst = offerTypes.members.map Prod.fst := by
    rw [messageOf_entries]
    rfl
  rw [encodeData_eq hnames, messageOf_entries]
  simp only [offerTypes, List.zip_cons_cons, List.zip_nil_left, List.mapM_cons, List.mapM_nil, encodeValue_uint, hamount,
    encodeValue_address hvalid.provider, encodeValue_address hvalid.consumer, encodeValue_address hvalid.paymentToken,
    encodeValue_bytes32 (fromHex_bytes32 hvalid.resourceId).2, encodeValue_bytes32 (fromHex_bytes32 hvalid.salt).2,
    encodeValue_bytes32 (fromHex_bytes32 hvalid.termsHash).2, encodeValue_bytes]
  rfl

/-- The bytes that Python hashes last are those the contract hashes last. -/
theorem offerDigest_eq {encode : Encoder} (hencode : Implements encode keccak256) {offer : Offer} (hvalid : offer.Valid)
    (hprice : offer.amount < 2 ^ 256) (hsettlement : isAddress settlement = true) :
    offerDigest keccak256 encode offer chainId.toNat settlement =
      (Decimal.readInt offer.price.toList).map fun _ =>
        (deployedCrypto keccak256 recover chainId (addressOf settlement)).hashOffer offer.onChain := by
  set crypto := deployedCrypto keccak256 recover chainId (addressOf settlement)
  rw [offerDigest, encodeOffer, offerToMessage_eq hvalid, Decimal.readInt]
  split
  · have hbody : hashStruct keccak256 Settlement.word offerTypes (messageOf offer offer.amount) =
        some (keccak256 (Settlement.abiEncode (crypto.offerWords offer.onChain))) := by
      have hdata : some (crypto.offerWords offer.onChain) =
          (encodeData keccak256 offerTypes (messageOf offer offer.amount)).map
            fun words => crypto.offerTypehash :: words := encodeData_offer hvalid hprice crypto
      cases hwords : encodeData keccak256 offerTypes (messageOf offer offer.amount) with
      | none =>
          rw [hwords] at hdata
          cases hdata
      | some words =>
          rw [hwords, Option.map_some, Option.some.injEq] at hdata
          rw [hdata, hashStruct, hwords, Option.map_some, hashType, encodeType_offerTypes]
          rfl
    have hencoded := hencode (eip712Domain chainId.toNat settlement) offerTypes (messageOf offer offer.amount)
      ⟨[0x01], Settlement.word crypto.domainSeparator,
        Settlement.word (keccak256 (Settlement.abiEncode (crypto.offerWords offer.onChain)))⟩
      (by rw [encodeTypedData, hashStruct_domain keccak256 recover chainId hsettlement, hbody])
    rw [Option.map_some, Option.bind_some]
    change Option.map _ (encode _ offerTypes (messageOf offer offer.amount)) = _
    rw [hencoded]
    rfl
  · rfl

end Signing

/-- Two offers denote the same: hexadecimal is read in either case, the price is a number. -/
structure Offer.SameValues (offer offer' : Offer) : Prop where
  provider : lower offer.provider = lower offer'.provider
  consumer : lower offer.consumer = lower offer'.consumer
  serviceType : offer.serviceType = offer'.serviceType
  resourceId : lower offer.resourceId = lower offer'.resourceId
  params : lower offer.params = lower offer'.params
  startTime : offer.startTime = offer'.startTime
  endTime : offer.endTime = offer'.endTime
  paymentToken : lower offer.paymentToken = lower offer'.paymentToken
  price : offer.amount = offer'.amount
  validUntil : offer.validUntil = offer'.validUntil
  salt : lower offer.salt = lower offer'.salt
  termsHash : lower offer.termsHash = lower offer'.termsHash

theorem lower_eq_of_bytes32 {s s' : String} (h : isBytes32Hex s = true) (h' : isBytes32Hex s' = true)
    (heq : BitVec.ofNat 256 (Hex.bigEndian (Hex.bytesOf (digitsOf s))) =
      BitVec.ofNat 256 (Hex.bigEndian (Hex.bytesOf (digitsOf s')))) : lower s = lower s' := by
  obtain ⟨hlength, hdigits⟩ := digitsOf_of_isHex h
  obtain ⟨hlength', hdigits'⟩ := digitsOf_of_isHex h'
  rw [beq_iff_eq] at hlength hlength'
  have hvalue := congrArg BitVec.toNat heq
  rw [Signing.bytes32_toNat h, Signing.bytes32_toNat h', Hex.bigEndian_bytesOf hdigits (by omega),
    Hex.bigEndian_bytesOf hdigits' (by omega)] at hvalue
  rw [lower_eq_iff h h']
  exact Hex.toLower_eq_of_valueOf_eq (hlength.trans hlength'.symm) hdigits hdigits' hvalue

theorem lower_eq_of_hexData {s s' : String} (h : isHexData s = true) (h' : isHexData s' = true)
    (heq : Hex.bytesOf (digitsOf s) = Hex.bytesOf (digitsOf s')) : lower s = lower s' := by
  obtain ⟨hlength, hdigits⟩ := digitsOf_of_isHex h
  obtain ⟨hlength', hdigits'⟩ := digitsOf_of_isHex h'
  rw [beq_iff_eq] at hlength hlength'
  rw [lower_eq_iff h h']
  exact Hex.toLower_eq_of_bytesOf_eq hdigits hdigits' hlength hlength' heq

/-- The contract's view of an offer loses nothing but the spelling. -/
theorem sameValues_of_onChain_eq {offer offer' : Offer} (hvalid : offer.Valid) (hvalid' : offer'.Valid)
    (hprice : offer.amount < 2 ^ 256) (hprice' : offer'.amount < 2 ^ 256) (h : offer.onChain = offer'.onChain) :
    offer.SameValues offer' := by
  have hamount : offer.onChain.price.toNat = offer'.onChain.price.toNat := by rw [h]
  rw [Signing.onChain_price_toNat hprice, Signing.onChain_price_toNat hprice'] at hamount
  simp only [Offer.onChain, Settlement.Offer.mk.injEq] at h
  obtain ⟨hprovider, hconsumer, htype, hresource, hparams, hstart, hend, htoken, -, huntil, hsalt, hterms⟩ := h
  exact {
    provider := lower_eq_of_addressOf_eq hvalid.provider hvalid'.provider hprovider
    consumer := lower_eq_of_addressOf_eq hvalid.consumer hvalid'.consumer hconsumer
    serviceType := htype
    resourceId := lower_eq_of_bytes32 hvalid.resourceId hvalid'.resourceId hresource
    params := lower_eq_of_hexData hvalid.params hvalid'.params hparams
    startTime := hstart
    endTime := hend
    paymentToken := lower_eq_of_addressOf_eq hvalid.paymentToken hvalid'.paymentToken htoken
    price := hamount
    validUntil := huntil
    salt := lower_eq_of_bytes32 hvalid.salt hvalid'.salt hsalt
    termsHash := lower_eq_of_bytes32 hvalid.termsHash hvalid'.termsHash hterms }

namespace Signing

/-- Both stacks compute one digest, and offers with one digest say the same in every field. -/
theorem hashing_stacks_agree (keccak256 : Bytes → Bytes32) (recover : Bytes32 → Bytes → Option Address)
    (encode : Encoder) (hencode : Implements encode keccak256) (chainId : Uint256) (settlement : String)
    (hsettlement : isAddress settlement = true) :
    (∀ offer : Offer, offer.Valid → offer.amount < 2 ^ 256 →
      offerDigest keccak256 encode offer chainId.toNat settlement =
          ((offerTuple offer).bind calldata).map
            (deployedCrypto keccak256 recover chainId (addressOf settlement)).hashOffer ∧
        ((offerDigest keccak256 encode offer chainId.toNat settlement).isSome ↔
          offer.price.toList.length ≤ Decimal.maxStrDigits)) ∧
      ∀ offer offer' : Offer, offer.Valid → offer'.Valid → offer.amount < 2 ^ 256 → offer'.amount < 2 ^ 256 →
        (deployedCrypto keccak256 recover chainId (addressOf settlement)).CollisionFree
          {a | (offerTuple offer).bind calldata = some a ∨ (offerTuple offer').bind calldata = some a} →
        ∀ digest, offerDigest keccak256 encode offer chainId.toNat settlement = some digest →
          offerDigest keccak256 encode offer' chainId.toNat settlement = some digest → offer.SameValues offer' := by
  refine ⟨fun offer hvalid hprice => ?_, fun offer offer' hvalid hvalid' hprice hprice' hfree digest hd hd' => ?_⟩
  · rw [offerDigest_eq keccak256 recover chainId hencode hvalid hprice hsettlement, offerTuple_eq hvalid hprice,
      Option.map_map]
    refine ⟨rfl, ?_⟩
    rw [Option.isSome_map, Decimal.readInt]
    split
    · rename_i hlength
      exact iff_of_true rfl hlength
    · rename_i hlength
      exact iff_of_false Bool.false_ne_true hlength
  · rw [offerDigest_eq keccak256 recover chainId hencode hvalid hprice hsettlement] at hd
    rw [offerDigest_eq keccak256 recover chainId hencode hvalid' hprice' hsettlement] at hd'
    rw [offerTuple_eq hvalid hprice, offerTuple_eq hvalid' hprice'] at hfree
    cases hread : Decimal.readInt offer.price.toList with
    | none =>
        rw [hread] at hd
        cases hd
    | some price =>
        cases hread' : Decimal.readInt offer'.price.toList with
        | none =>
            rw [hread'] at hd'
            cases hd'
        | some price' =>
            rw [hread] at hd hfree
            rw [hread'] at hd' hfree
            apply sameValues_of_onChain_eq hvalid hvalid' hprice hprice'
            apply Settlement.Crypto.hashOffer_injective hfree (Or.inl rfl) (Or.inr rfl)
            exact (Option.some.inj hd).trans (Option.some.inj hd').symm

/-- The example of the fixtures: 50 Mbps for 10 TOK. -/
def canonicalOffer : Offer where
  provider := "0x70997970C51812dc3A010C7d01b50e0d17dc79C8"
  consumer := "0x0000000000000000000000000000000000000000"
  serviceType := 0
  resourceId := "0x0000000000000000000000000000000000000000000000000000000000000007"
  params := "0x0000000000000000000000000000000000000000000000000000000002faf0800000000000000000000000000000000000000000000000000000000000000001"
  startTime := 1757944800
  endTime := 1757952000
  paymentToken := "0x5FbDB2315678afecb367f032d93F642f64180aa3"
  price := "10000000000000000000"
  validUntil := 1757946000
  salt := "0x0000000000000000000000000000000000000000000000000000000000005a17"
  termsHash := "0x2222222222222222222222222222222222222222222222222222222222222222"

theorem canonicalOffer_valid : canonicalOffer.Valid where
  provider := by decide
  consumer := by decide
  resourceId := by decide
  params := by decide +kernel
  paymentToken := by decide
  price := by decide
  salt := by decide
  termsHash := by decide

/-- Byte strings hash to their length. -/
def lengthHash (bytes : Bytes) : Bytes32 := BitVec.ofNat 256 bytes.length

def anvilSettlement : String := "0xe7f1725E7734CE288F8367e1Bb143E90bb3F0512"

theorem hashing_stacks_agree_canonical :
    offerDigest lengthHash (encodeTypedData lengthHash Settlement.word) canonicalOffer (31337 : Uint256).toNat
          anvilSettlement =
        ((offerTuple canonicalOffer).bind calldata).map
          (deployedCrypto lengthHash (fun _ _ => none) 31337 (addressOf anvilSettlement)).hashOffer ∧
      (offerDigest lengthHash (encodeTypedData lengthHash Settlement.word) canonicalOffer (31337 : Uint256).toNat
        anvilSettlement).isSome := by
  have h := (hashing_stacks_agree lengthHash (fun _ _ => none) _ (fun _ _ _ _ hencoded => hencoded) 31337 anvilSettlement
    (by decide)).1 canonicalOffer canonicalOffer_valid (by decide)
  exact ⟨h.1, h.2.mpr (by decide)⟩

end Signing

end A2AProvisioning
