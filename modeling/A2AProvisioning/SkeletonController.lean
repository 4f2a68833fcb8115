import A2AProvisioning.ControllerPorts
import A2AProvisioning.LibraryDecimal
import Mathlib.Data.Finset.Basic

/-! The stub controller of the skeleton: a set of nonces and a table of sessions around the predicate of the real one.
It compares accounts as strings, and knows one resource. -/

namespace A2AProvisioning.Skeleton

open Controller

/-- The reader port, as the stub uses it; `none` is an exception. -/
structure StubReader where
  get : Int → Option EntitlementView
  ownerOf : Int → Option String
  chainTime : Nat

structure StubSession where
  sessionId : String
  entitlementId : Int
  state : SessionState
  deriving DecidableEq

structure StubController (N : Type) where
  net : Net N
  sessions : OrderedDict String StubSession
  openNonces : Finset String
  nonceSeq : Nat
  sessionSeq : Nat

def stubServiceTypes : List Uint8 := [0]

def resolvedPath : ResolvedPath := ⟨"srl1", "ethernet-1/1", "ethernet-1/2"⟩

/-- The one resource that the stub knows. -/
def resourceMap (resourceId : Bytes32) : Option Resolved := if resourceId = 7 then some (.path resolvedPath) else none

/-- The predicate of the domain, of which the first check compares the two strings. -/
def predicate (view : EntitlementView) (owner requester : String) (now : Nat) (activeIds : List Int) :
    Option ErrorCode :=
  if requester ≠ owner then some .notOwner
  else Controller.predicate view 0 0 now activeIds none stubServiceTypes

def stubSessionId (seq : Nat) : String := "sess-" ++ toString seq

namespace StubController

variable {N : Type} (p : Provisioner N) (c : StubController N)

def start (net : N) : StubController N := ⟨⟨net, []⟩, .empty, ∅, 0, 0⟩

def activeIds : List Int :=
  (c.sessions.values.filter fun session => session.state = .active).map StubSession.entitlementId

/-- What the nonce is for is not written down. -/
def challenge : String × StubController N :=
  ("nonce-" ++ toString c.nonceSeq,
    { c with
      nonceSeq := c.nonceSeq + 1
      openNonces := insert ("nonce-" ++ toString c.nonceSeq) c.openNonces })

/-- From the translation on. The id is used up before the resource is looked up. -/
def provision (entitlementId : Int) (view : EntitlementView) : Except Failure String × StubController N :=
  let sessionId := stubSessionId c.sessionSeq
  let c := { c with sessionSeq := c.sessionSeq + 1 }
  match resourceMap view.resourceId, view.params with
  | some path, .bandwidth params =>
      match c.net.invoke p (.applyBandwidth sessionId path params.capacityBps.toNat params.qosClass.toNat) with
      | (none, net) => (.error .raised, { c with net := net })
      | (some result, net) =>
          if result.ok then
            (.ok sessionId, { c with
              net := net
              sessions := c.sessions.insert sessionId ⟨sessionId, entitlementId, .active⟩ })
          else (.error (.denied .network), { c with net := net })
  | _, _ => (.error .raised, c)

def activate (reader : StubReader) (entitlementId : Int) (requester nonce : String) :
    Except Failure String × StubController N :=
  if nonce ∉ c.openNonces then (.error (.denied .nonceReused), c)
  else
    let c := { c with openNonces := c.openNonces.erase nonce }
    match reader.get entitlementId, reader.ownerOf entitlementId with
    | some view, some owner =>
        match predicate view owner requester reader.chainTime c.activeIds with
        | some code => (.error (.denied code), c)
        | none => c.provision p entitlementId view
    | _, _ => (.error .raised, c)

/-- Whatever the network answers. -/
def teardown (sessionId : String) : Except Failure Unit × StubController N :=
  match c.net.invoke p (.teardown sessionId) with
  | (none, net) => (.error .raised, { c with net := net })
  | (some _, net) =>
      match c.sessions.get? sessionId with
      | none => (.ok (), { c with net := net })
      | some session =>
          (.ok (), { c with
            net := net
            sessions := if session.state ≠ .tornDown then
                c.sessions.insert sessionId { session with state := .tornDown }
              else c.sessions })

/-- One teardown after the other; an exception ends the loop. -/
def teardownAll : List StubSession → StubController N → Except Failure Unit × StubController N
  | [], c => (.ok (), c)
  | session :: rest, c =>
      match c.teardown p session.sessionId with
      | (.error failure, c) => (.error failure, c)
      | (.ok (), c) => teardownAll rest c

/-- The loop of `tick`, which reads each active session's end. -/
def tickAll (reader : StubReader) : List StubSession → StubController N → Except Failure Unit × StubController N
  | [], c => (.ok (), c)
  | session :: rest, c =>
      if session.state ≠ .active then tickAll reader rest c
      else match reader.get session.entitlementId with
        | none => (.error .raised, c)
        | some view =>
            if reader.chainTime ≥ view.endTime.toNat then
              match c.teardown p session.sessionId with
              | (.error failure, c) => (.error failure, c)
              | (.ok (), c) => tickAll reader rest c
            else tickAll reader rest c

def tick (reader : StubReader) : Except Failure Unit × StubController N := tickAll p reader c.sessions.values c

def onRevoked (reader : StubReader) (entitlementId : Int) : Except Failure Unit × StubController N :=
  match reader.get entitlementId with
  | none => (.error .raised, c)
  | some view =>
      if view.revoked then
        teardownAll p
          (c.sessions.values.filter fun session => session.entitlementId = entitlementId ∧ session.state = .active) c
      else (.ok (), c)

def state (sessionId : String) : Except Failure SessionState :=
  match c.sessions.get? sessionId with
  | none => .error .raised
  | some session => .ok session.state

end StubController

/-- All but the network is equal. -/
structure StubController.Alike {N N' : Type} (related : N → N' → Prop) (c : StubController N) (c' : StubController N') :
    Prop where
  net : Net.Related related c.net c'.net
  sessions : c.sessions = c'.sessions
  openNonces : c.openNonces = c'.openNonces
  nonceSeq : c.nonceSeq = c'.nonceSeq
  sessionSeq : c.sessionSeq = c'.sessionSeq

/-- The same answer, and all but the network equal behind it. -/
structure SameReply {N N' R : Type} (related : N → N' → Prop) (x : R × StubController N) (y : R × StubController N') :
    Prop where
  answer : x.1 = y.1
  states : StubController.Alike related x.2 y.2

namespace StubController.Alike

variable {N N' : Type} {p : Provisioner N} {p' : Provisioner N'} {related : N → N' → Prop} {allowed : NetCall → Prop}
  {net : Net N} {net' : Net N'} {c : StubController N} {c' : StubController N'}

theorem same {R : Type} (h : Alike related c c') (answer : R) : SameReply related (answer, c) (answer, c') := ⟨rfl, h⟩

theorem start {n : N} {n' : N'} (h : related n n') : Alike related (StubController.start n) (StubController.start n') :=
  ⟨⟨h, rfl⟩, rfl, rfl, rfl, rfl⟩

theorem activeIds (h : Alike related c c') : c.activeIds = c'.activeIds := by
  rw [StubController.activeIds, StubController.activeIds, h.sessions]

theorem challenge (h : Alike related c c') : SameReply related c.challenge c'.challenge := by
  rw [StubController.challenge, StubController.challenge, h.nonceSeq, h.openNonces]
  refine same ?_ _
  exact ⟨h.net, h.sessions, rfl, rfl, h.sessionSeq⟩

/-- The stub's only apply is that of its one path. -/
theorem provision (h : Alike related c c') (hp : p.Alike p' related allowed)
    (happlies : ∀ sessionId capacityBps qosClass,
      allowed (.applyBandwidth sessionId (.path resolvedPath) capacityBps qosClass))
    (entitlementId : Int) (view : EntitlementView) :
    SameReply related (c.provision p entitlementId view) (c'.provision p' entitlementId view) := by
  have hnumbered : Alike related { c with sessionSeq := c'.sessionSeq + 1 }
      { c' with sessionSeq := c'.sessionSeq + 1 } := ⟨h.net, h.sessions, h.openNonces, h.nonceSeq, rfl⟩
  rw [StubController.provision, StubController.provision, h.sessionSeq]
  dsimp only
  rw [resourceMap]
  by_cases hresource : view.resourceId = 7
  · rw [if_pos hresource]
    cases view.params with
    | telemetry params => exact same hnumbered _
    | bandwidth params =>
        obtain ⟨hanswer, hnet⟩ := h.net.invoke hp
          (happlies (stubSessionId c'.sessionSeq) params.capacityBps.toNat params.qosClass.toNat)
        dsimp only
        rcases hleft : c.net.invoke p (.applyBandwidth (stubSessionId c'.sessionSeq) (.path resolvedPath)
            params.capacityBps.toNat params.qosClass.toNat) with ⟨_ | result, next⟩ <;>
          rcases hright : c'.net.invoke p' (.applyBandwidth (stubSessionId c'.sessionSeq) (.path resolvedPath)
            params.capacityBps.toNat params.qosClass.toNat) with ⟨_ | result', next'⟩ <;>
          rw [hleft, hright] at hanswer hnet
        · refine same ?_ _
          exact ⟨hnet, h.sessions, h.openNonces, h.nonceSeq, rfl⟩
        · cases hanswer
        · cases hanswer
        · have hok : result.ok = result'.ok := Option.some.inj hanswer
          dsimp only
          rw [hok]
          split_ifs
          · rw [h.sessions]
            refine same ?_ _
            exact ⟨hnet, rfl, h.openNonces, h.nonceSeq, rfl⟩
          · refine same ?_ _
            exact ⟨hnet, h.sessions, h.openNonces, h.nonceSeq, rfl⟩
  · rw [if_neg hresource]
    exact same hnumbered _

theorem activate (h : Alike related c c') (hp : p.Alike p' related allowed)
    (happlies : ∀ sessionId capacityBps qosClass,
      allowed (.applyBandwidth sessionId (.path resolvedPath) capacityBps qosClass))
    (reader : StubReader) (entitlementId : Int) (requester nonce : String) :
    SameReply related (c.activate p reader entitlementId requester nonce)
      (c'.activate p' reader entitlementId requester nonce) := by
  rw [StubController.activate, StubController.activate, h.openNonces]
  by_cases hopen : nonce ∉ c'.openNonces
  · rw [if_pos hopen, if_pos hopen]
    exact same h _
  · rw [if_neg hopen, if_neg hopen]
    have hburned : Alike related { c with openNonces := c'.openNonces.erase nonce }
        { c' with openNonces := c'.openNonces.erase nonce } := ⟨h.net, h.sessions, rfl, h.nonceSeq, h.sessionSeq⟩
    dsimp only
    rw [hburned.activeIds]
    rcases reader.get entitlementId with _ | view
    · exact same hburned _
    · rcases reader.ownerOf entitlementId with _ | owner
      · exact same hburned _
      · dsimp only
        rcases predicate view owner requester reader.chainTime _ with _ | code
        · exact hburned.provision hp happlies entitlementId view
        · exact same hburned _

theorem teardown (h : Alike related c c') (hp : p.Alike p' related allowed) (sessionId : String) :
    SameReply related (c.teardown p sessionId) (c'.teardown p' sessionId) := by
  obtain ⟨hanswer, hnet⟩ := h.net.invoke hp (hp.teardown sessionId)
  rw [StubController.teardown, StubController.teardown, h.sessions]
  rcases hleft : c.net.invoke p (.teardown sessionId) with ⟨_ | result, next⟩ <;>
    rcases hright : c'.net.invoke p' (.teardown sessionId) with ⟨_ | result', next'⟩ <;>
    rw [hleft, hright] at hanswer hnet
  · refine same ?_ _
    exact ⟨hnet, rfl, h.openNonces, h.nonceSeq, h.sessionSeq⟩
  · cases hanswer
  · cases hanswer
  · cases c'.sessions.get? sessionId with
    | none =>
        refine same ?_ _
        exact ⟨hnet, rfl, h.openNonces, h.nonceSeq, h.sessionSeq⟩
    | some session =>
        refine same ?_ _
        exact ⟨hnet, rfl, h.openNonces, h.nonceSeq, h.sessionSeq⟩

theorem teardownAll (h : Alike related c c') (hp : p.Alike p' related allowed) (sessions : List StubSession) :
    SameReply related (StubController.teardownAll p sessions c) (StubController.teardownAll p' sessions c') := by
  induction sessions generalizing c c' with
  | nil => exact same h _
  | cons session rest ih =>
      obtain ⟨hanswer, hnext⟩ := h.teardown hp session.sessionId
      rw [StubController.teardownAll, StubController.teardownAll]
      rcases hleft : c.teardown p session.sessionId with ⟨failure | _, next⟩ <;>
        rcases hright : c'.teardown p' session.sessionId with ⟨failure' | _, next'⟩ <;>
        rw [hleft, hright] at hanswer hnext
      · cases hanswer
        exact same hnext _
      · cases hanswer
      · cases hanswer
      · exact ih hnext

theorem tickAll (h : Alike related c c') (hp : p.Alike p' related allowed) (reader : StubReader)
    (sessions : List StubSession) :
    SameReply related (StubController.tickAll p reader sessions c) (StubController.tickAll p' reader sessions c') := by
  induction sessions generalizing c c' with
  | nil => exact same h _
  | cons session rest ih =>
      rw [StubController.tickAll, StubController.tickAll]
      split_ifs with hactive
      · exact ih h
      · cases reader.get session.entitlementId with
        | none => exact same h _
        | some view =>
            dsimp only
            split_ifs with hexpired
            · obtain ⟨hanswer, hnext⟩ := h.teardown hp session.sessionId
              rcases hleft : c.teardown p session.sessionId with ⟨failure | _, next⟩ <;>
                rcases hright : c'.teardown p' session.sessionId with ⟨failure' | _, next'⟩ <;>
                rw [hleft, hright] at hanswer hnext
              · cases hanswer
                exact same hnext _
              · cases hanswer
              · cases hanswer
              · exact ih hnext
            · exact ih h

theorem tick (h : Alike related c c') (hp : p.Alike p' related allowed) (reader : StubReader) :
    SameReply related (c.tick p reader) (c'.tick p' reader) := by
  rw [StubController.tick, StubController.tick, h.sessions]
  exact h.tickAll hp reader _

theorem onRevoked (h : Alike related c c') (hp : p.Alike p' related allowed) (reader : StubReader)
    (entitlementId : Int) :
    SameReply related (c.onRevoked p reader entitlementId) (c'.onRevoked p' reader entitlementId) := by
  rw [StubController.onRevoked, StubController.onRevoked, h.sessions]
  cases reader.get entitlementId with
  | none => exact same h _
  | some view =>
      dsimp only
      split_ifs
      · exact h.teardownAll hp _
      · exact same h _

end StubController.Alike

end A2AProvisioning.Skeleton
