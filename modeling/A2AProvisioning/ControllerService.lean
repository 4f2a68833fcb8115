import A2AProvisioning.ControllerAuth
import A2AProvisioning.ControllerDomain

/-! `ControllerService`: the session table, the endpoints, and the two autonomous ways a session ends.
The chain and the network are ports. A reader answers the calls of one operation, each of which it
makes at most once; a provisioner acts on a network state `N` and may raise. -/

namespace A2AProvisioning.Controller

inductive ReadError
  | keyError
  | rpcError
  deriving DecidableEq

structure Reader where
  get : Int → Except ReadError EntitlementView
  ownerOf : Int → Except ReadError Address
  chainTime : Except ReadError Nat

/-- `none` is a call that raised. -/
structure Provisioner (N : Type) where
  call : NetCall → N → Option ApplyResult × N

/-- The network behind the provisioner, with the calls the controller made on it, oldest first. -/
structure Net (N : Type) where
  state : N
  calls : List NetCall

def Net.invoke {N : Type} (net : Net N) (p : Provisioner N) (call : NetCall) : Option ApplyResult × Net N :=
  ((p.call call net.state).1, ⟨(p.call call net.state).2, net.calls ++ [call]⟩)

/-! ### The service -/

structure Session where
  sessionId : String
  entitlementId : Int
  state : SessionState
  since : Nat
  expiresAt : Nat
  deriving DecidableEq

/-- `denied` is `Denied`, `illegalTransition` the state machine's complaint, `raised` any other
exception. -/
inductive Failure
  | denied (code : ErrorCode)
  | illegalTransition
  | raised
  deriving DecidableEq

structure Service (N : Type) where
  net : Net N
  auth : AuthStore
  sessions : OrderedDict String Session
  seq : Nat

/-- What does not change over the life of a service. -/
structure Config where
  recover : String → String → Option Address
  resourceMap : Bytes32 → Option Resolved

def Session.info (session : Session) : SessionInfo :=
  ⟨session.sessionId, session.entitlementId, session.state, session.since, session.expiresAt⟩

/-- The answer for a session the controller has no record of. -/
def tornDownInfo (sessionId : String) : SessionInfo := ⟨sessionId, 0, .tornDown, 0, 0⟩

def sessionIdOf (entitlementId : Int) (seq : Nat) : String :=
  "ent" ++ toString entitlementId ++ "-a" ++ toString seq

/-- What `activate` reads from the chain. -/
structure Facts where
  view : EntitlementView
  owner : Address
  now : Nat

/-- What an activation has settled before it calls the provisioner. -/
structure Plan where
  sessionId : String
  entitlementId : Int
  state : SessionState
  calls : List NetCall
  since : Nat
  expiresAt : Nat

def readView (reader : Reader) (entitlementId : Int) : Except Failure EntitlementView :=
  match reader.get entitlementId with
  | .ok view => .ok view
  | .error .keyError => .error (.denied .unknownEntitlement)
  | .error .rpcError => .error .raised

/-- A read outside `_view`: its errors go through. -/
def read {α : Type} : Except ReadError α → Except Failure α
  | .ok value => .ok value
  | .error _ => .error .raised

def readFacts (reader : Reader) (entitlementId : Int) : Except Failure Facts := do
  let view ← readView reader entitlementId
  let owner ← read (reader.ownerOf entitlementId)
  let now ← read reader.chainTime
  return ⟨view, owner, now⟩

/-- The loop of `activate` over the translated calls: whether all went well. -/
def applyCalls {N : Type} (p : Provisioner N) : List NetCall → Net N → Option Bool × Net N
  | [], net => (some true, net)
  | call :: rest, net =>
      match net.invoke p call with
      | (none, net) => (none, net)
      | (some result, net) => if result.ok then applyCalls p rest net else (some false, net)

namespace Service

variable {N : Type} (cfg : Config) (p : Provisioner N) (c : Service N)

def start (controllerId : String) (net : N) : Service N :=
  ⟨⟨net, []⟩, ⟨controllerId, OrderedDict.empty⟩, OrderedDict.empty, 0⟩

def activeIds : List Int :=
  (c.sessions.values.filter fun session => session.state = .active).map Session.entitlementId

/-- The part of `activate` between the chain reads and the provisioner calls. -/
def authorize (facts : Facts) (entitlementId : Int) (actionKind nonce signature : String) :
    Except Failure Plan × Service N :=
  let verdict := c.auth.verify cfg.recover entitlementId nonce signature facts.owner facts.now .activate
  let c := { c with auth := verdict.2 }
  match verdict.1 with
  | some code => (.error (.denied code), c)
  | none =>
      match predicate facts.view facts.owner facts.owner facts.now c.activeIds (some actionKind)
          knownServiceTypes with
      | some code => (.error (.denied code), c)
      | none =>
          let sessionId := sessionIdOf entitlementId c.seq
          let c := { c with seq := c.seq + 1 }
          match transition .requested .authorize with
          | none => (.error .illegalTransition, c)
          | some state =>
              match translate sessionId facts.view cfg.resourceMap with
              | .error .unmappedResource => (.error (.denied .scope), c)
              | .error _ => (.error .raised, c)
              | .ok calls =>
                  (.ok ⟨sessionId, entitlementId, state, calls, facts.now, facts.view.endTime.toNat⟩, c)

/-- A new entry of the session table. -/
def insertSession (plan : Plan) (state : SessionState) : Service N :=
  { c with
    sessions := c.sessions.insert plan.sessionId
      ⟨plan.sessionId, plan.entitlementId, state, plan.since, plan.expiresAt⟩ }

/-- The end of `activate`, after the provisioner calls; a failed apply is cleaned up first. -/
def record (plan : Plan) (applied : Option Bool) : Except Failure SessionInfo × Service N :=
  match applied with
  | none => (.error .raised, c)
  | some false =>
      match c.net.invoke p (.teardown plan.sessionId) with
      | (none, net) => (.error .raised, { c with net := net })
      | (some _, net) =>
          match transition plan.state .provisionFailed with
          | none => (.error .illegalTransition, { c with net := net })
          | some state => (.error (.denied .network), { c with net := net }.insertSession plan state)
  | some true =>
      match transition plan.state .provisionOk with
      | none => (.error .illegalTransition, c)
      | some state =>
          (.ok ⟨plan.sessionId, plan.entitlementId, state, plan.since, plan.expiresAt⟩,
            c.insertSession plan state)

def challenge (reader : Reader) (entitlementId : Int) (nonce : String) : Except Failure Challenge × Service N :=
  match readView reader entitlementId with
  | .error failure => (.error failure, c)
  | .ok _ =>
      match read reader.chainTime with
      | .error failure => (.error failure, c)
      | .ok now =>
          let issued := c.auth.issue nonce entitlementId now
          (.ok issued.1, { c with auth := issued.2 })

def activate (reader : Reader) (entitlementId : Int) (actionKind nonce signature : String) :
    Except Failure SessionInfo × Service N :=
  match readFacts reader entitlementId with
  | .error failure => (.error failure, c)
  | .ok facts =>
      match c.authorize cfg facts entitlementId actionKind nonce signature with
      | (.error failure, c) => (.error failure, c)
      | (.ok plan, c) =>
          let applied := applyCalls p plan.calls c.net
          { c with net := applied.2 }.record p plan applied.1

/-- Without a proof, for the controller's own use. -/
def teardown (sessionId : String) : Except Failure SessionInfo × Service N :=
  match c.sessions.get? sessionId with
  | none =>
      match c.net.invoke p (.teardown sessionId) with
      | (none, net) => (.error .raised, { c with net := net })
      | (some _, net) => (.ok (tornDownInfo sessionId), { c with net := net })
  | some session =>
      match c.net.invoke p (.teardown sessionId) with
      | (none, net) => (.error .raised, { c with net := net })
      | (some _, net) =>
          match transition session.state .teardown with
          | none => (.error .illegalTransition, { c with net := net })
          | some state =>
              (.ok { session with state := state }.info,
                { c with
                  net := net
                  sessions := c.sessions.insert sessionId { session with state := state } })

/-- With a proof, for the outside. -/
def teardownRequested (reader : Reader) (sessionId nonce signature : String) :
    Except Failure SessionInfo × Service N :=
  match c.sessions.get? sessionId with
  | none => (.ok (tornDownInfo sessionId), c)
  | some session =>
      match read (reader.ownerOf session.entitlementId), read reader.chainTime with
      | .error failure, _ => (.error failure, c)
      | .ok _, .error failure => (.error failure, c)
      | .ok owner, .ok now =>
          let verdict := c.auth.verify cfg.recover session.entitlementId nonce signature owner now .teardown
          let c := { c with auth := verdict.2 }
          match verdict.1 with
          | some code => (.error (.denied code), c)
          | none => c.teardown p sessionId

def session (sessionId : String) : Except Failure SessionInfo :=
  match c.sessions.get? sessionId with
  | none => .error (.denied .unknownEntitlement)
  | some session => .ok session.info

/-- Tears sessions down one after the other, and says which; an exception ends the loop. -/
def teardownAll : List Session → Service N → Except Failure (List String) × Service N
  | [], c => (.ok [], c)
  | session :: rest, c =>
      match c.teardown p session.sessionId with
      | (.error failure, c) => (.error failure, c)
      | (.ok _, c) =>
          match teardownAll rest c with
          | (.error failure, c) => (.error failure, c)
          | (.ok ended, c) => (.ok (session.sessionId :: ended), c)

def tick (reader : Reader) : Except Failure (List String) × Service N :=
  match read reader.chainTime with
  | .error failure => (.error failure, c)
  | .ok now =>
      teardownAll p (c.sessions.values.filter fun session => session.state = .active ∧ now ≥ session.expiresAt) c

/-- The scan of `handle_revoked`, once the chain has confirmed the event. -/
def endRevoked (entitlementId : Int) : Except Failure (List String) × Service N :=
  teardownAll p
    (c.sessions.values.filter fun session => session.entitlementId = entitlementId ∧ session.state = .active) c

def handleRevoked (reader : Reader) (entitlementId : Int) : Except Failure Unit × Service N :=
  match reader.get entitlementId with
  | .error _ => (.error .raised, c)
  | .ok view =>
      if view.revoked then
        match c.endRevoked p entitlementId with
        | (.error failure, c) => (.error failure, c)
        | (.ok _, c) => (.ok (), c)
      else (.ok (), c)

end Service

/-- The calls that come in from outside. -/
inductive Request
  | challenge (entitlementId : Int) (nonce : String)
  | activate (entitlementId : Int) (actionKind nonce signature : String)
  | teardownRequested (sessionId nonce signature : String)
  | session (sessionId : String)

/-- One operation, with the answers of the chain to it. -/
inductive Op
  | request (reader : Reader) (request : Request)
  | teardown (sessionId : String)
  | tick (reader : Reader)
  | handleRevoked (reader : Reader) (entitlementId : Int)

/-- The service an operation leaves behind. -/
def Service.perform {N : Type} (cfg : Config) (p : Provisioner N) (c : Service N) : Op → Service N
  | .request reader (.challenge entitlementId nonce) => (c.challenge reader entitlementId nonce).2
  | .request reader (.activate entitlementId actionKind nonce signature) =>
      (c.activate cfg p reader entitlementId actionKind nonce signature).2
  | .request reader (.teardownRequested sessionId nonce signature) =>
      (c.teardownRequested cfg p reader sessionId nonce signature).2
  | .request _ (.session _) => c
  | .teardown sessionId => (c.teardown p sessionId).2
  | .tick reader => (c.tick p reader).2
  | .handleRevoked reader entitlementId => (c.handleRevoked p reader entitlementId).2

end A2AProvisioning.Controller
