import Mathlib.Data.BitVec

/-! The published language of the packages: the shapes of `a2a_interfaces.models` that the modelled
code reads or returns. Integers with a declared width are bit vectors, so a value out of range cannot
be built. An address is its twenty bytes: both sides of every comparison the code makes spell it with
the same checksum, so equality of the spellings is equality of the bytes. -/

namespace A2AProvisioning

abbrev Uint8 := BitVec 8
abbrev Uint32 := BitVec 32
abbrev Uint64 := BitVec 64
abbrev Uint256 := BitVec 256
abbrev Address := BitVec 160
abbrev Bytes32 := BitVec 256
abbrev Bytes := List UInt8

inductive SessionState
  | requested
  | authorized
  | active
  | tornDown
  | failed
  deriving DecidableEq, Repr

inductive ErrorCode
  | unknownEntitlement
  | notOwner
  | badProof
  | nonceReused
  | notStarted
  | expired
  | revoked
  | scope
  | conflict
  | network
  deriving DecidableEq, Repr

structure BandwidthParams where
  capacityBps : Uint64
  qosClass : Uint8
  deriving DecidableEq

structure TelemetryParams where
  sensorPaths : List String
  collectorEndpoint : String
  sampleIntervalS : Uint32
  deriving DecidableEq

inductive ServiceParams
  | bandwidth (params : BandwidthParams)
  | telemetry (params : TelemetryParams)
  deriving DecidableEq

structure TimeWindow where
  start : Uint64
  «end» : Uint64
  deriving DecidableEq

structure BandwidthNeed where
  src : String
  dst : String
  capacityBps : Uint64
  qosClass : Uint8
  window : TimeWindow

structure TelemetryNeed where
  target : String
  sensorPaths : List String
  collectorEndpoint : String
  sampleIntervalS : Uint32
  window : TimeWindow

/-- The union discriminated on `kind`. -/
inductive ServiceNeed
  | bandwidth (need : BandwidthNeed)
  | telemetry (need : TelemetryNeed)

def ServiceNeed.window : ServiceNeed → TimeWindow
  | .bandwidth need => need.window
  | .telemetry need => need.window

/-- The offer as the agents pass it around, addresses and byte strings in hexadecimal and the price
in decimal. -/
structure Offer where
  provider : String
  consumer : String
  serviceType : Uint8
  resourceId : String
  params : String
  startTime : Uint64
  endTime : Uint64
  paymentToken : String
  price : String
  validUntil : Uint64
  salt : String
  termsHash : String

structure SignedOffer where
  offer : Offer
  signature : String

structure Decline where
  reason : String

structure SessionInfo where
  sessionId : String
  entitlementId : Int
  state : SessionState
  since : Nat
  expiresAt : Nat
  deriving DecidableEq

/-- One on-chain entitlement as the reader port decodes it. -/
structure EntitlementView where
  id : Int
  issuer : Address
  serviceType : Uint8
  resourceId : Bytes32
  params : ServiceParams
  startTime : Uint64
  endTime : Uint64
  revoked : Bool
  termsHash : Bytes32

structure ResolvedPath where
  device : String
  ingressIf : String
  egressIf : String
  deriving DecidableEq

structure ResolvedNode where
  device : String
  deriving DecidableEq

structure ApplyResult where
  ok : Bool
  detail : String

end A2AProvisioning
