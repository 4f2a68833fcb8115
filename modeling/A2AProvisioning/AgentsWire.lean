import A2AProvisioning.AgentsProvider
import A2AProvisioning.LibrarySchema

/-! The wire of the agents: needs, signed offers and declines as JSON texts. A decoder chooses the variant by one
member, and every model is read field by field, the offer's under the aliases that its typed message has too.
The JSON library and pydantic's scalar checks are parameters. -/

namespace A2AProvisioning.Agents

/-- What the codec uses of Python: pydantic's writer, `json.loads`, and the checks of single values, which may
coerce. -/
structure Python (F : Type) where
  dumps : Document F → String
  loads : String → Option (Document F)
  str : Document F → Option String
  int : Document F → Option Int
  literal : Document F → Document F → Bool
  isZero : F → Bool
  str_str : ∀ s, str (.str s) = some s
  int_int : ∀ n, int (.int n) = some n
  literal_int : ∀ n, literal (.int n) (.int n) = true
  literal_str : ∀ s, literal (.str s) (.str s) = true
  literal_true : literal (.bool true) (.bool true) = true

namespace Python

variable {F : Type} (python : Python F)

/-- The document that was written is read back. -/
def Reads (document : Document F) : Prop := python.loads (python.dumps document) = some document

/-- `bool(value)`. -/
def truthy : Document F → Bool
  | .null => false
  | .bool value => value
  | .int value => value ≠ 0
  | .float value => !python.isZero value
  | .str value => value ≠ ""
  | .arr items => !items.isEmpty
  | .obj members => !members.isEmpty

/-- An integer of so many bits. -/
def uint (bits : Nat) (value : Document F) : Option (BitVec bits) :=
  (python.int value).bind fun n => if 0 ≤ n ∧ n ≤ 2 ^ bits - 1 then some (BitVec.ofNat bits n.toNat) else none

/-- A string of a pattern. -/
def constrained (pattern : String → Bool) (value : Document F) : Option {s : String // pattern s = true} :=
  (python.str value).bind fun s => if h : pattern s = true then some ⟨s, h⟩ else none

def strings : Document F → Option (List String)
  | .arr items => items.mapM python.str
  | _ => none

/-- A field of one value, with that value as its default. -/
def constant (s : Schema) (members : List (String × Document F)) (name : String) (expected : Document F) : Option Unit :=
  s.optional members name () fun value => if python.literal expected value = true then some () else none

theorem uint_toNat {bits : Nat} (n : BitVec bits) : python.uint bits (.int n.toNat) = some n := by
  have hle : (n.toNat : Int) ≤ 2 ^ bits - 1 := by
    have hlt : (n.toNat : Int) < 2 ^ bits := by exact_mod_cast n.isLt
    omega
  rw [uint, python.int_int, Option.bind_some, if_pos ⟨Int.natCast_nonneg _, hle⟩, Int.toNat_natCast,
    BitVec.ofNat_toNat, BitVec.setWidth_eq]

theorem constrained_str {pattern : String → Bool} {s : String} (h : pattern s = true) :
    python.constrained pattern (.str s) = some ⟨s, h⟩ := by
  rw [constrained, python.str_str, Option.bind_some, dif_pos h]

theorem strings_arr (items : List String) : python.strings (.arr (items.map .str)) = some items := by
  rw [strings]
  induction items with
  | nil => rfl
  | cons item rest ih => rw [List.map_cons, List.mapM_cons, python.str_str, ih]; rfl

end Python

/-- The models that forbid other members and take their fields by name. -/
def frozen (fields : List String) (nodup : (fields.map id).Nodup) : Schema := ⟨fields, id, false, nodup⟩

def timeWindowModel : Schema := frozen ["start", "end"] (by decide)

def bandwidthNeedModel : Schema :=
  frozen ["v", "kind", "src", "dst", "capacity_bps", "qos_class", "window"] (by decide)

def telemetryNeedModel : Schema :=
  frozen ["v", "kind", "target", "sensor_paths", "collector_endpoint", "sample_interval_s", "window"] (by decide)

def offerModel : Schema where
  fields := ["provider", "consumer", "service_type", "resource_id", "params", "start_time", "end_time",
    "payment_token", "price", "valid_until", "salt", "terms_hash"]
  aliasOf := Signing.toCamel
  byName := true
  nodup := by decide

def signedOfferModel : Schema := frozen ["v", "offer", "signature", "terms_doc"] (by decide)

def declineModel : Schema := frozen ["v", "declined", "reason"] (by decide)

variable {F : Type}

/-- A signed offer with its terms, as it exists once pydantic has checked it. -/
structure SignedOfferDoc (F : Type) extends SignedOffer where
  termsDoc : List (String × Document F)
  valid : offer.Valid
  signatureValid : isSignature signature = true

inductive Answer (F : Type)
  | signed (offer : SignedOfferDoc F)
  | decline (decline : Decline)

def windowValues (window : TimeWindow) : List (String × Document F) :=
  [("start", .int window.start.toNat), ("end", .int window.end.toNat)]

def bandwidthNeedValues (need : BandwidthNeed) : List (String × Document F) :=
  [("v", .int 0), ("kind", .str "bandwidth"), ("src", .str need.src), ("dst", .str need.dst),
    ("capacity_bps", .int need.capacityBps.toNat), ("qos_class", .int need.qosClass.toNat),
    ("window", .obj (timeWindowModel.dump (windowValues need.window)))]

def telemetryNeedValues (need : TelemetryNeed) : List (String × Document F) :=
  [("v", .int 0), ("kind", .str "telemetry"), ("target", .str need.target),
    ("sensor_paths", .arr (need.sensorPaths.map .str)), ("collector_endpoint", .str need.collectorEndpoint),
    ("sample_interval_s", .int need.sampleIntervalS.toNat),
    ("window", .obj (timeWindowModel.dump (windowValues need.window)))]

def offerValues (offer : Offer) : List (String × Document F) :=
  [("provider", .str offer.provider), ("consumer", .str offer.consumer), ("service_type", .int offer.serviceType.toNat),
    ("resource_id", .str offer.resourceId), ("params", .str offer.params), ("start_time", .int offer.startTime.toNat),
    ("end_time", .int offer.endTime.toNat), ("payment_token", .str offer.paymentToken), ("price", .str offer.price),
    ("valid_until", .int offer.validUntil.toNat), ("salt", .str offer.salt), ("terms_hash", .str offer.termsHash)]

def signedOfferValues (signed : SignedOfferDoc F) : List (String × Document F) :=
  [("v", .int 0), ("offer", .obj (offerModel.dump (offerValues signed.offer))), ("signature", .str signed.signature),
    ("terms_doc", .obj signed.termsDoc)]

def declineValues (decline : Decline) : List (String × Document F) :=
  [("v", .int 0), ("declined", .bool true), ("reason", .str decline.reason)]

/-- `need.model_dump(by_alias=True)`. -/
def dumpNeed : ServiceNeed → Document F
  | .bandwidth need => .obj (bandwidthNeedModel.dump (bandwidthNeedValues need))
  | .telemetry need => .obj (telemetryNeedModel.dump (telemetryNeedValues need))

/-- `result.model_dump(by_alias=True)`. -/
def dumpAnswer : Answer F → Document F
  | .signed signed => .obj (signedOfferModel.dump (signedOfferValues signed))
  | .decline decline => .obj (declineModel.dump (declineValues decline))

section Validation

variable (python : Python F)

/-- `model_validate` of a schema whose members are then read by `fields`. -/
def validateModel {α : Type} (s : Schema) (fields : List (String × Document F) → Option α) (data : Document F) :
    Option α :=
  data.members.bind fun members => if s.closed members = true then fields members else none

def validateWindow : Document F → Option TimeWindow :=
  validateModel timeWindowModel fun members => do
    let start ← timeWindowModel.required members "start" (python.uint 64)
    let «end» ← timeWindowModel.required members "end" (python.uint 64)
    return ⟨start, «end»⟩

def validateBandwidthNeed : Document F → Option BandwidthNeed :=
  validateModel bandwidthNeedModel fun members => do
    python.constant bandwidthNeedModel members "v" (.int 0)
    python.constant bandwidthNeedModel members "kind" (.str "bandwidth")
    let src ← bandwidthNeedModel.required members "src" python.str
    let dst ← bandwidthNeedModel.required members "dst" python.str
    let capacityBps ← bandwidthNeedModel.required members "capacity_bps" (python.uint 64)
    let qosClass ← bandwidthNeedModel.required members "qos_class" (python.uint 8)
    let window ← bandwidthNeedModel.required members "window" (validateWindow python)
    return ⟨src, dst, capacityBps, qosClass, window⟩

def validateTelemetryNeed : Document F → Option TelemetryNeed :=
  validateModel telemetryNeedModel fun members => do
    python.constant telemetryNeedModel members "v" (.int 0)
    python.constant telemetryNeedModel members "kind" (.str "telemetry")
    let target ← telemetryNeedModel.required members "target" python.str
    let sensorPaths ← telemetryNeedModel.required members "sensor_paths" python.strings
    let collectorEndpoint ← telemetryNeedModel.required members "collector_endpoint" python.str
    let sampleIntervalS ← telemetryNeedModel.required members "sample_interval_s" (python.uint 32)
    let window ← telemetryNeedModel.required members "window" (validateWindow python)
    return ⟨target, sensorPaths, collectorEndpoint, sampleIntervalS, window⟩

def validateOffer : Document F → Option {offer : Offer // offer.Valid} :=
  validateModel offerModel fun members => do
    let provider ← offerModel.required members "provider" (python.constrained TypedData.isAddress)
    let consumer ← offerModel.required members "consumer" (python.constrained TypedData.isAddress)
    let serviceType ← offerModel.required members "service_type" (python.uint 8)
    let resourceId ← offerModel.required members "resource_id" (python.constrained isBytes32Hex)
    let params ← offerModel.required members "params" (python.constrained isHexData)
    let startTime ← offerModel.required members "start_time" (python.uint 64)
    let endTime ← offerModel.required members "end_time" (python.uint 64)
    let paymentToken ← offerModel.required members "payment_token" (python.constrained TypedData.isAddress)
    let price ← offerModel.required members "price" (python.constrained isDecimalString)
    let validUntil ← offerModel.required members "valid_until" (python.uint 64)
    let salt ← offerModel.required members "salt" (python.constrained isBytes32Hex)
    let termsHash ← offerModel.required members "terms_hash" (python.constrained isBytes32Hex)
    return ⟨⟨provider, consumer, serviceType, resourceId, params, startTime, endTime, paymentToken, price, validUntil,
      salt, termsHash⟩, ⟨provider.2, consumer.2, resourceId.2, params.2, paymentToken.2, price.2, salt.2, termsHash.2⟩⟩

def validateSignedOffer : Document F → Option (SignedOfferDoc F) :=
  validateModel signedOfferModel fun members => do
    python.constant signedOfferModel members "v" (.int 0)
    let offer ← signedOfferModel.required members "offer" (validateOffer python)
    let signature ← signedOfferModel.required members "signature" (python.constrained isSignature)
    let termsDoc ← signedOfferModel.required members "terms_doc" Document.members
    return ⟨⟨offer.1, signature.1⟩, termsDoc, offer.2, signature.2⟩

def validateDecline : Document F → Option Decline :=
  validateModel declineModel fun members => do
    python.constant declineModel members "v" (.int 0)
    python.constant declineModel members "declined" (.bool true)
    let reason ← declineModel.required members "reason" python.str
    return ⟨reason⟩

def encodeNeed (need : ServiceNeed) : String := python.dumps (dumpNeed need)

/-- `data.get("kind") == "bandwidth"` chooses the variant; `none` where it raises. -/
def decodeNeed (payload : String) : Option ServiceNeed :=
  (python.loads payload).bind fun data => data.members.bind fun members =>
    if (members.lookup "kind").any (Document.isStr "bandwidth") = true then
      (validateBandwidthNeed python data).map .bandwidth
    else (validateTelemetryNeed python data).map .telemetry

def encodeOfferOrDecline (result : Answer F) : String := python.dumps (dumpAnswer result)

/-- `data.get("declined")` chooses it. -/
def decodeOfferOrDecline (payload : String) : Option (Answer F) :=
  (python.loads payload).bind fun data => data.members.bind fun members =>
    if (members.lookup "declined").any python.truthy = true then (validateDecline python data).map .decline
    else (validateSignedOffer python data).map .signed

end Validation

/-! ### Round trips -/

section RoundTrip

variable (python : Python F)

theorem validateModel_dump {α : Type} {s : Schema} {values : List (String × Document F)}
    (hvalues : values.map Prod.fst = s.fields) (fields : List (String × Document F) → Option α) :
    validateModel s fields (.obj (s.dump values)) = fields (s.dump values) := by
  rw [validateModel, Document.members, Option.bind_some, if_pos (Schema.closed_dump hvalues)]

theorem constant_dump {s : Schema} {values : List (String × Document F)} (hvalues : values.map Prod.fst = s.fields)
    {name : String} (hname : name ∈ s.fields) {expected : Document F} (hvalue : values.lookup name = some expected)
    (hliteral : python.literal expected expected = true) :
    python.constant s (s.dump values) name expected = some () := by
  rw [Python.constant, Schema.optional_dump hvalues hname hvalue, if_pos hliteral]

theorem validateWindow_dump (window : TimeWindow) :
    validateWindow python (.obj (timeWindowModel.dump (windowValues window))) = some window := by
  have hvalues : (windowValues (F := F) window).map Prod.fst = timeWindowModel.fields := rfl
  rw [validateWindow, validateModel_dump hvalues]
  simp (disch := decide) only [Schema.required_dump hvalues]
  simp [windowValues, List.lookup_cons, python.uint_toNat]

theorem validateBandwidthNeed_dump (need : BandwidthNeed) :
    validateBandwidthNeed python (.obj (bandwidthNeedModel.dump (bandwidthNeedValues need))) = some need := by
  have hvalues : (bandwidthNeedValues (F := F) need).map Prod.fst = bandwidthNeedModel.fields := rfl
  rw [validateBandwidthNeed, validateModel_dump hvalues,
    constant_dump python hvalues (by decide) rfl (python.literal_int 0),
    constant_dump python hvalues (by decide) rfl (python.literal_str "bandwidth")]
  simp (disch := decide) only [Schema.required_dump hvalues]
  simp [bandwidthNeedValues, List.lookup_cons, python.str_str, python.uint_toNat, validateWindow_dump]

theorem validateTelemetryNeed_dump (need : TelemetryNeed) :
    validateTelemetryNeed python (.obj (telemetryNeedModel.dump (telemetryNeedValues need))) = some need := by
  have hvalues : (telemetryNeedValues (F := F) need).map Prod.fst = telemetryNeedModel.fields := rfl
  rw [validateTelemetryNeed, validateModel_dump hvalues,
    constant_dump python hvalues (by decide) rfl (python.literal_int 0),
    constant_dump python hvalues (by decide) rfl (python.literal_str "telemetry")]
  simp (disch := decide) only [Schema.required_dump hvalues]
  simp [telemetryNeedValues, List.lookup_cons, python.str_str, python.uint_toNat, python.strings_arr,
    validateWindow_dump]

theorem validateOffer_dump {offer : Offer} (h : offer.Valid) :
    validateOffer python (.obj (offerModel.dump (offerValues offer))) = some ⟨offer, h⟩ := by
  have hvalues : (offerValues (F := F) offer).map Prod.fst = offerModel.fields := rfl
  rw [validateOffer, validateModel_dump hvalues]
  simp (disch := decide) only [Schema.required_dump hvalues]
  simp [offerValues, List.lookup_cons, python.uint_toNat, python.constrained_str h.provider,
    python.constrained_str h.consumer, python.constrained_str h.resourceId, python.constrained_str h.params,
    python.constrained_str h.paymentToken, python.constrained_str h.price, python.constrained_str h.salt,
    python.constrained_str h.termsHash]

/-- The wire names the fields as the signed message does. -/
theorem names_dump_offer (offer : Offer) :
    (offerModel.dump (offerValues (F := F) offer)).map Prod.fst = (Signing.modelDump offer).entries.map Prod.fst := by
  obtain ⟨h₁, h₂, h₃, h₄, h₅, h₆, h₇, h₈, h₉, h₁₀, h₁₁, h₁₂⟩ := Signing.toCamel_names
  rw [Signing.modelDump_eq]
  simp only [offerModel, Schema.dump, offerValues, List.map_cons, List.map_nil, h₁, h₂, h₃, h₄, h₅, h₆, h₇, h₈, h₉, h₁₀,
    h₁₁, h₁₂]

theorem validateSignedOffer_dump (signed : SignedOfferDoc F) :
    validateSignedOffer python (.obj (signedOfferModel.dump (signedOfferValues signed))) = some signed := by
  have hvalues : (signedOfferValues signed).map Prod.fst = signedOfferModel.fields := rfl
  rw [validateSignedOffer, validateModel_dump hvalues,
    constant_dump python hvalues (by decide) rfl (python.literal_int 0)]
  simp (disch := decide) only [Schema.required_dump hvalues]
  simp [signedOfferValues, List.lookup_cons, validateOffer_dump python signed.valid,
    python.constrained_str signed.signatureValid, Document.members]

theorem validateDecline_dump (decline : Decline) :
    validateDecline python (.obj (declineModel.dump (declineValues decline))) = some decline := by
  have hvalues : (declineValues (F := F) decline).map Prod.fst = declineModel.fields := rfl
  rw [validateDecline, validateModel_dump hvalues,
    constant_dump python hvalues (by decide) rfl (python.literal_int 0),
    constant_dump python hvalues (by decide) rfl python.literal_true]
  simp (disch := decide) only [Schema.required_dump hvalues]
  simp [declineValues, List.lookup_cons, python.str_str]

theorem decodeNeed_encodeNeed {need : ServiceNeed} (h : python.Reads (dumpNeed need)) :
    decodeNeed python (encodeNeed python need) = some need := by
  rw [decodeNeed, encodeNeed, h, Option.bind_some]
  cases need with
  | bandwidth need =>
      have hkind : (bandwidthNeedModel.dump (bandwidthNeedValues (F := F) need)).lookup "kind" =
          some (.str "bandwidth") := rfl
      simp [dumpNeed, Document.members, hkind, Document.isStr, validateBandwidthNeed_dump]
  | telemetry need =>
      have hkind : (telemetryNeedModel.dump (telemetryNeedValues (F := F) need)).lookup "kind" =
          some (.str "telemetry") := rfl
      simp [dumpNeed, Document.members, hkind, Document.isStr, validateTelemetryNeed_dump]

theorem decodeOfferOrDecline_encode {result : Answer F} (h : python.Reads (dumpAnswer result)) :
    decodeOfferOrDecline python (encodeOfferOrDecline python result) = some result := by
  rw [decodeOfferOrDecline, encodeOfferOrDecline, h, Option.bind_some]
  cases result with
  | signed signed =>
      -- whatever the terms hold, the member is looked up beside them and not in them
      have hdeclined : (signedOfferModel.dump (signedOfferValues signed)).lookup "declined" = none := rfl
      simp only [dumpAnswer, Document.members, Option.bind_some, hdeclined, Option.any_none, validateSignedOffer_dump,
        Option.map_some]
      rfl
  | decline decline =>
      have hdeclined : (declineModel.dump (declineValues (F := F) decline)).lookup "declined" = some (.bool true) := rfl
      simp only [dumpAnswer, Document.members, Option.bind_some, hdeclined, Option.any_some, Python.truthy, if_true,
        validateDecline_dump, Option.map_some]

end RoundTrip

/-- Every message comes back as it was sent, and with it the digest that was signed. -/
theorem codec_is_lossless (python : Python F) :
    (∀ need, python.Reads (dumpNeed need) → decodeNeed python (encodeNeed python need) = some need) ∧
      (∀ result, python.Reads (dumpAnswer result) →
        decodeOfferOrDecline python (encodeOfferOrDecline python result) = some result) ∧
        ∀ sent received : SignedOfferDoc F, python.Reads (dumpAnswer (.signed sent)) →
          decodeOfferOrDecline python (encodeOfferOrDecline python (.signed sent)) = some (.signed received) →
            ∀ (keccak256 : Bytes → Bytes32) (encode : Signing.Encoder) (chainId : Nat) (settlement : String),
              Signing.offerDigest keccak256 encode received.offer chainId settlement =
                Signing.offerDigest keccak256 encode sent.offer chainId settlement := by
  refine ⟨fun need h => decodeNeed_encodeNeed python h, fun result h => decodeOfferOrDecline_encode python h, ?_⟩
  intro sent received h hreceived keccak256 encode chainId settlement
  have hanswer : Answer.signed sent = Answer.signed received :=
    Option.some.inj ((decodeOfferOrDecline_encode python h).symm.trans hreceived)
  have hsigned : sent = received := Answer.signed.inj hanswer
  rw [hsigned]

mutual

/-- The compact text of a document whose strings need no escapes. -/
def compact : Document Empty → String
  | .null => "null"
  | .bool value => if value then "true" else "false"
  | .int value => toString value
  | .float value => nomatch value
  | .str value => "\"" ++ value ++ "\""
  | .arr items => "[" ++ ",".intercalate (compactItems items) ++ "]"
  | .obj members => "\x7b" ++ ",".intercalate (compactMembers members) ++ "\x7d"

def compactItems : List (Document Empty) → List String
  | [] => []
  | item :: rest => compact item :: compactItems rest

def compactMembers : List (String × Document Empty) → List String
  | [] => []
  | (name, value) :: rest => ("\"" ++ name ++ "\":" ++ compact value) :: compactMembers rest

end

/-- Python with the text of one document on the wire. -/
def labPython (document : Document Empty) : Python Empty where
  dumps := compact
  loads := fun text => if text = compact document then some document else none
  str
    | .str value => some value
    | _ => none
  int
    | .int value => some value
    | .bool value => some (if value then 1 else 0)
    | _ => none
  literal
    | .int expected, .int value => value = expected
    | .str expected, .str value => value = expected
    | .bool expected, .bool value => value = expected
    | _, _ => false
  isZero := fun value => nomatch value
  str_str := fun _ => rfl
  int_int := fun _ => rfl
  literal_int := fun n => decide_eq_true (Eq.refl n)
  literal_str := fun s => decide_eq_true (Eq.refl s)
  literal_true := rfl

theorem labPython_reads (document : Document Empty) : (labPython document).Reads document := if_pos rfl

/-- The terms themselves speak of a decline. -/
def labSignedDoc : SignedOfferDoc Empty where
  offer := Signing.canonicalOffer
  signature := String.ofList ('0' :: 'x' :: List.replicate 130 '0')
  termsDoc := [("availability", .str "99.9"), ("declined", .bool true), ("credits", .arr [.int 5, .null])]
  valid := Signing.canonicalOffer_valid
  signatureValid := isHex_ofList (by rw [List.length_replicate]; rfl) (isDigit_replicate 130 (by decide))

def labTelemetryNeed : ServiceNeed :=
  .telemetry ⟨"edge-1", ["interface", "qos"], "10.0.0.9:57400", 10, ⟨1757944800, 1757952000⟩⟩

theorem codec_is_lossless_lab :
    decodeNeed (labPython (dumpNeed (labNeedOf 50000000)))
        (encodeNeed (labPython (dumpNeed (labNeedOf 50000000))) (labNeedOf 50000000)) = some (labNeedOf 50000000) ∧
      decodeNeed (labPython (dumpNeed labTelemetryNeed))
          (encodeNeed (labPython (dumpNeed labTelemetryNeed)) labTelemetryNeed) = some labTelemetryNeed ∧
        decodeOfferOrDecline (labPython (dumpAnswer (.decline ⟨"no capacity"⟩)))
            (encodeOfferOrDecline (labPython (dumpAnswer (.decline ⟨"no capacity"⟩))) (.decline ⟨"no capacity"⟩)) =
          some (.decline ⟨"no capacity"⟩) ∧
          ∃ received, decodeOfferOrDecline (labPython (dumpAnswer (.signed labSignedDoc)))
              (encodeOfferOrDecline (labPython (dumpAnswer (.signed labSignedDoc))) (.signed labSignedDoc)) =
                some (.signed received) ∧
            Signing.offerDigest Signing.lengthHash labChain.encode received.offer 31337 Signing.anvilSettlement =
              Signing.offerDigest Signing.lengthHash labChain.encode labSignedDoc.offer 31337 Signing.anvilSettlement := by
  have hsigned := (codec_is_lossless (labPython (dumpAnswer (.signed labSignedDoc)))).2.1 (.signed labSignedDoc)
    (labPython_reads _)
  refine ⟨(codec_is_lossless _).1 _ (labPython_reads _), (codec_is_lossless _).1 _ (labPython_reads _),
    (codec_is_lossless _).2.1 _ (labPython_reads _), labSignedDoc, hsigned, ?_⟩
  exact (codec_is_lossless (labPython (dumpAnswer (.signed labSignedDoc)))).2.2 labSignedDoc labSignedDoc
    (labPython_reads _) hsigned _ _ _ _

end A2AProvisioning.Agents
