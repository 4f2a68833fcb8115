import A2AProvisioning.Interfaces

/-! The controller's judgment: the activation predicate, the session state machine, and the translation
of an entitlement into provisioner calls. No input or output happens here. -/

namespace A2AProvisioning.Controller

def knownServiceTypes : List Uint8 := [0, 1]

def actionKinds (actionKind : String) : Option Uint8 :=
  if actionKind = "bandwidth" then some 0
  else if actionKind = "telemetry" then some 1
  else none

/-- `none` if activation is allowed, else the first failing code. -/
def predicate (view : EntitlementView) (owner requester : Address) (now : Nat) (activeIds : List Int)
    (actionKind : Option String) (known : List Uint8) : Option ErrorCode :=
  if requester ≠ owner then some .notOwner
  else if now < view.startTime.toNat then some .notStarted
  else if now ≥ view.endTime.toNat then some .expired
  else if view.revoked then some .revoked
  else if view.serviceType ∉ known then some .scope
  else if ∃ kind ∈ actionKind, actionKinds kind ≠ some view.serviceType then some .scope
  else if view.id ∈ activeIds then some .conflict
  else none

theorem predicate_eq_none {view : EntitlementView} {owner requester : Address} {now : Nat}
    {activeIds : List Int} {actionKind : Option String} {known : List Uint8} :
    predicate view owner requester now activeIds actionKind known = none ↔
      requester = owner ∧ view.startTime.toNat ≤ now ∧ now < view.endTime.toNat ∧ view.revoked = false ∧
        view.serviceType ∈ known ∧ (∀ kind ∈ actionKind, actionKinds kind = some view.serviceType) ∧
        view.id ∉ activeIds := by
  constructor
  · intro hnone
    rw [predicate] at hnone
    split_ifs at hnone with hrequester hstart hend hrevoked hknown hkind hconflict
    refine ⟨not_not.mp hrequester, not_lt.mp hstart, not_le.mp hend, eq_false_of_ne_true hrevoked,
      hknown, fun kind hmem => ?_, hconflict⟩
    by_contra hne
    exact hkind ⟨kind, hmem, hne⟩
  · rintro ⟨hrequester, hstart, hend, hrevoked, hknown, hkind, hconflict⟩
    have hkind' : ¬ ∃ kind ∈ actionKind, actionKinds kind ≠ some view.serviceType :=
      fun ⟨kind, hmem, hne⟩ => hne (hkind kind hmem)
    rw [predicate, if_neg (not_not.mpr hrequester), if_neg (not_lt.mpr hstart), if_neg (not_le.mpr hend),
      if_neg (by rw [hrevoked]; exact Bool.false_ne_true), if_neg (not_not.mpr hknown), if_neg hkind',
      if_neg hconflict]

/-! ### The session state machine -/

inductive SessionEvent
  | authorize
  | deny
  | provisionOk
  | provisionFailed
  | teardown
  deriving DecidableEq

def transitions : SessionState → SessionEvent → Option SessionState
  | .requested, .authorize => some .authorized
  | .requested, .deny => some .failed
  | .authorized, .provisionOk => some .active
  | .authorized, .provisionFailed => some .failed
  | .active, .teardown => some .tornDown
  | _, _ => none

/-- A session that is down stays as it is under a further teardown. -/
def absorbed : SessionState → SessionEvent → Bool
  | .tornDown, .teardown => true
  | .failed, .teardown => true
  | _, _ => false

/-- `none` is `IllegalTransition`. -/
def transition (state : SessionState) (event : SessionEvent) : Option SessionState :=
  if absorbed state event then some state else transitions state event

/-- No event leads to `active` but the success of an apply. -/
theorem transition_active {state : SessionState} {event : SessionEvent}
    (h : transition state event = some .active) : state = .authorized ∧ event = .provisionOk := by
  cases state <;> cases event <;> first | exact ⟨rfl, rfl⟩ | cases h

/-- A teardown ends an active session and leaves every ended one alone. -/
theorem transition_teardown {state : SessionState} :
    transition state .teardown =
      match state with
      | .active => some .tornDown
      | .tornDown => some .tornDown
      | .failed => some .failed
      | .requested => none
      | .authorized => none := by
  cases state <;> rfl

/-- What the resource map holds. -/
inductive Resolved
  | path (path : ResolvedPath)
  | node (node : ResolvedNode)
  deriving DecidableEq

/-- A call on the provisioner port. -/
inductive NetCall
  | applyBandwidth (sessionId : String) (path : Resolved) (capacityBps : Nat) (qosClass : Nat)
  | applyTelemetry (sessionId : String) (target : Resolved) (sensorPaths : List String)
      (collectorEndpoint : String) (sampleIntervalS : Nat)
  | teardown (sessionId : String)
  deriving DecidableEq

inductive TranslateError
  | unmappedResource
  | attributeError
  | assertionError

/-- Params of the other service have no such attribute. -/
def bandwidth (sessionId : String) (view : EntitlementView) (path : Resolved) :
    Except TranslateError (List NetCall) :=
  match view.params with
  | .bandwidth params =>
      .ok [.applyBandwidth sessionId path params.capacityBps.toNat params.qosClass.toNat]
  | .telemetry _ => .error .attributeError

def telemetry (sessionId : String) (view : EntitlementView) (node : Resolved) :
    Except TranslateError (List NetCall) :=
  match view.params with
  | .bandwidth _ => .error .attributeError
  | .telemetry params =>
      .ok [.applyTelemetry sessionId node params.sensorPaths params.collectorEndpoint
        params.sampleIntervalS.toNat]

def translate (sessionId : String) (view : EntitlementView) (resourceMap : Bytes32 → Option Resolved) :
    Except TranslateError (List NetCall) :=
  match resourceMap view.resourceId with
  | none => .error .unmappedResource
  | some resolved =>
      if view.serviceType = 0 then bandwidth sessionId view resolved
      else if view.serviceType = 1 then telemetry sessionId view resolved
      else .error .assertionError

def NetCall.sessionId : NetCall → String
  | .applyBandwidth sessionId .. => sessionId
  | .applyTelemetry sessionId .. => sessionId
  | .teardown sessionId => sessionId

def NetCall.isApply : NetCall → Bool
  | .teardown _ => false
  | _ => true

/-- A translation is one apply call, for the session it was made for. -/
theorem translate_eq_ok {sessionId : String} {view : EntitlementView} {resourceMap : Bytes32 → Option Resolved}
    {calls : List NetCall} (h : translate sessionId view resourceMap = .ok calls) :
    ∃ call, calls = [call] ∧ call.sessionId = sessionId ∧ call.isApply = true := by
  rw [translate] at h
  split at h
  · cases h
  · rename_i resolved _
    split_ifs at h
    · rw [bandwidth] at h
      split at h
      · cases h
        exact ⟨_, rfl, rfl, rfl⟩
      · cases h
    · rw [telemetry] at h
      split at h
      · cases h
      · cases h
        exact ⟨_, rfl, rfl, rfl⟩

end A2AProvisioning.Controller
