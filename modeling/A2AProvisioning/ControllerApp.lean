import A2AProvisioning.AgentsWire
import A2AProvisioning.ControllerGate
import A2AProvisioning.ControllerLifecycle
import A2AProvisioning.ControllerMediation

/-! The HTTP surface: a body is validated, the service is called, and what it answers or raises becomes a status and
a document. No request reaches the service in any other way than its operations do. -/

namespace A2AProvisioning

def ErrorCode.value : ErrorCode → String
  | .unknownEntitlement => "E_UNKNOWN_ENTITLEMENT"
  | .notOwner => "E_NOT_OWNER"
  | .badProof => "E_BAD_PROOF"
  | .nonceReused => "E_NONCE_REUSED"
  | .notStarted => "E_NOT_STARTED"
  | .expired => "E_EXPIRED"
  | .revoked => "E_REVOKED"
  | .scope => "E_SCOPE"
  | .conflict => "E_CONFLICT"
  | .network => "E_NETWORK"

def SessionState.value : SessionState → String
  | .requested => "requested"
  | .authorized => "authorized"
  | .active => "active"
  | .tornDown => "torn_down"
  | .failed => "failed"

end A2AProvisioning

namespace A2AProvisioning.Controller

open Agents

variable {F N : Type}

structure TeardownRequest where
  sessionId : String
  nonce : String
  signature : String

def challengeRequestModel : Schema := frozen ["v", "entitlement_id"] (by decide)

def challengeResponseModel : Schema := frozen ["v", "nonce", "controller_id", "expires_at"] (by decide)

def actionPayloadModel : Schema := frozen ["kind"] (by decide)

def proofPayloadModel : Schema := frozen ["nonce", "signature"] (by decide)

def activateRequestModel : Schema := frozen ["v", "entitlement_id", "action", "proof"] (by decide)

def sessionInfoModel : Schema :=
  frozen ["v", "session_id", "entitlement_id", "state", "since", "expires_at"] (by decide)

def teardownRequestModel : Schema := frozen ["v", "session_id", "proof"] (by decide)

section Payloads

variable (python : Python F)

def validateChallengeRequest : Document F → Option Int :=
  validateModel challengeRequestModel fun members => do
    python.constant challengeRequestModel members "v" (.int 0)
    challengeRequestModel.required members "entitlement_id" python.int

/-- The kind is one of two texts. -/
def validateAction : Document F → Option String :=
  validateModel actionPayloadModel fun members =>
    actionPayloadModel.required members "kind" fun
      | .str kind => if kind = "bandwidth" ∨ kind = "telemetry" then some kind else none
      | _ => none

def validateProof : Document F → Option (String × String) :=
  validateModel proofPayloadModel fun members => do
    let nonce ← proofPayloadModel.required members "nonce" python.str
    let signature ← proofPayloadModel.required members "signature" (python.constrained isSignature)
    return (nonce, signature.1)

def validateActivateRequest : Document F → Option ActivateRequest :=
  validateModel activateRequestModel fun members => do
    python.constant activateRequestModel members "v" (.int 0)
    let entitlementId ← activateRequestModel.required members "entitlement_id" python.int
    let actionKind ← activateRequestModel.required members "action" validateAction
    let proof ← activateRequestModel.required members "proof" (validateProof python)
    return ⟨entitlementId, actionKind, proof.1, proof.2⟩

def validateTeardownRequest : Document F → Option TeardownRequest :=
  validateModel teardownRequestModel fun members => do
    python.constant teardownRequestModel members "v" (.int 0)
    let sessionId ← teardownRequestModel.required members "session_id" python.str
    let proof ← teardownRequestModel.required members "proof" (validateProof python)
    return ⟨sessionId, proof.1, proof.2⟩

end Payloads

def challengeResponseValues (issued : Challenge) : List (String × Document F) :=
  [("v", .int 0), ("nonce", .str issued.nonce), ("controller_id", .str issued.controllerId),
    ("expires_at", .int issued.expiresAt)]

def sessionInfoValues (info : SessionInfo) : List (String × Document F) :=
  [("v", .int 0), ("session_id", .str info.sessionId), ("entitlement_id", .int info.entitlementId),
    ("state", .str info.state.value), ("since", .int info.since), ("expires_at", .int info.expiresAt)]

/-- No such thing, a proof that failed, a ticket that says no, a network that says no. -/
def status : ErrorCode → Nat
  | .unknownEntitlement => 404
  | .badProof => 401
  | .nonceReused => 401
  | .notOwner => 403
  | .notStarted => 403
  | .expired => 403
  | .revoked => 403
  | .scope => 403
  | .conflict => 403
  | .network => 502

/-- A body that is no JSON is `none`. -/
structure Response (F : Type) where
  status : Nat
  body : Option (Document F)

namespace Response

def ok (body : Document F) : Response F := ⟨200, some body⟩

/-- FastAPI's answer to a body that does not validate, with its account of why. -/
def unprocessable (detail : Document F) : Response F := ⟨422, some (.obj [("detail", detail)])⟩

/-- The text `Internal Server Error`. -/
def internal : Response F := ⟨500, none⟩

def denied (code : ErrorCode) : Response F := ⟨Controller.status code, some (.obj [("error", .str code.value)])⟩

/-- What becomes of an exception: `Denied` has a handler. -/
def raised : Failure → Response F
  | .denied code => denied code
  | .illegalTransition => internal
  | .raised => internal

end Response

/-- A request on the wire. -/
inductive HttpRequest (F : Type)
  | challenge (body : Document F)
  | activate (body : Document F)
  | teardown (body : Document F)
  | session (sessionId : String)

section App

variable (python : Python F) (detail : Document F → Document F) (cfg : Config) (p : Provisioner N)

/-- What a request asks of the service; `drawn` is the nonce that the generator would return. -/
def HttpRequest.parse (drawn : String) : HttpRequest F → Option Request
  | .challenge body => (validateChallengeRequest python body).map fun entitlementId => .challenge entitlementId drawn
  | .activate body => (validateActivateRequest python body).map fun a =>
      .activate a.entitlementId a.actionKind a.nonce a.signature
  | .teardown body => (validateTeardownRequest python body).map fun t =>
      .teardownRequested t.sessionId t.nonce t.signature
  | .session sessionId => some (.session sessionId)

def HttpRequest.body : HttpRequest F → Document F
  | .challenge body => body
  | .activate body => body
  | .teardown body => body
  | .session _ => .null

/-- The endpoint behind a request. A challenge that is past the last second there is does not validate on its way
out, when its nonce is open already. -/
def respond (reader : Reader) (c : Service N) : Request → Response F × Service N
  | .challenge entitlementId nonce =>
      match c.challenge reader entitlementId nonce with
      | (.error failure, c) => (.raised failure, c)
      | (.ok issued, c) =>
          (if issued.expiresAt < 2 ^ 64 then .ok (.obj (challengeResponseModel.dump (challengeResponseValues issued)))
            else .internal, c)
  | .activate entitlementId actionKind nonce signature =>
      match c.activate cfg p reader entitlementId actionKind nonce signature with
      | (.error failure, c) => (.raised failure, c)
      | (.ok info, c) => (.ok (.obj (sessionInfoModel.dump (sessionInfoValues info))), c)
  | .teardownRequested sessionId nonce signature =>
      match c.teardownRequested cfg p reader sessionId nonce signature with
      | (.error failure, c) => (.raised failure, c)
      | (.ok info, c) => (.ok (.obj [("state", .str info.state.value)]), c)
  | .session sessionId =>
      match c.session sessionId with
      | .error failure => (.raised failure, c)
      | .ok info => (.ok (.obj (sessionInfoModel.dump (sessionInfoValues info))), c)

/-- `build_app`. -/
def handle (reader : Reader) (drawn : String) (c : Service N) (request : HttpRequest F) : Response F × Service N :=
  match request.parse python drawn with
  | none => (.unprocessable (detail request.body), c)
  | some request => respond cfg p reader c request

end App

/-! ### What a response says -/

section Step

variable {python : Python F} {detail : Document F → Document F} {cfg : Config} {p : Provisioner N} {c : Service N}
  {reader : Reader}

/-- An endpoint leaves the service as its operation does. -/
theorem service_respond (request : Request) :
    (respond (F := F) cfg p reader c request).2 = c.perform cfg p (.request reader request) := by
  cases request with
  | challenge entitlementId nonce =>
      rw [respond, Service.perform]
      split
      · rename_i heq
        rw [heq]
      · rename_i heq
        rw [heq]
  | activate entitlementId actionKind nonce signature =>
      rw [respond, Service.perform]
      split
      · rename_i heq
        rw [heq]
      · rename_i heq
        rw [heq]
  | teardownRequested sessionId nonce signature =>
      rw [respond, Service.perform]
      split
      · rename_i heq
        rw [heq]
      · rename_i heq
        rw [heq]
  | session sessionId =>
      rw [respond, Service.perform]
      split <;> rfl

/-- A request that does not validate does not reach the service. -/
theorem service_handle (drawn : String) (request : HttpRequest F) :
    (handle python detail cfg p reader drawn c request).2 =
      (request.parse python drawn).elim c fun request => c.perform cfg p (.request reader request) := by
  rw [handle]
  cases request.parse python drawn with
  | none => rfl
  | some request => exact service_respond request

theorem read_ne_network {α : Type} {result : Except ReadError α} {failure : Failure} (h : read result = .error failure) :
    failure ≠ .denied .network := by
  cases result with
  | ok value => cases h
  | error err =>
      cases h
      exact fun heq => by cases heq

theorem readView_ne_network {entitlementId : Int} {failure : Failure} (h : readView reader entitlementId = .error failure) :
    failure ≠ .denied .network := by
  rw [readView] at h
  split at h
  · cases h
  · cases h
    exact fun heq => by cases heq
  · cases h
    exact fun heq => by cases heq

theorem readFacts_ne_network {entitlementId : Int} {failure : Failure} (h : readFacts reader entitlementId = .error failure) :
    failure ≠ .denied .network := by
  simp only [readFacts, bind, Except.bind] at h
  split at h
  · rename_i hview
    cases h
    exact readView_ne_network hview
  · split at h
    · rename_i howner
      cases h
      exact read_ne_network howner
    · split at h
      · rename_i hnow
        cases h
        exact read_ne_network hnow
      · cases h

theorem verify_ne_network {recover : String → String → Option Address} {store : AuthStore} {entitlementId : Int}
    {nonce signature : String} {owner : Address} {now : Nat} {action : ProofAction} :
    (store.verify recover entitlementId nonce signature owner now action).1 ≠ some .network := by
  rw [AuthStore.verify]
  split
  · exact fun heq => by cases heq
  · split_ifs
    · exact fun heq => by cases heq
    · exact fun heq => by cases heq
    · split
      · exact fun heq => by cases heq
      · split_ifs <;> exact fun heq => by cases heq

theorem predicate_ne_network {view : EntitlementView} {owner requester : Address} {now : Nat} {activeIds : List Int}
    {actionKind : Option String} {known : List Uint8} :
    predicate view owner requester now activeIds actionKind known ≠ some .network := by
  rw [predicate]
  split_ifs <;> exact fun heq => by cases heq

/-- The code for the network is left to the provisioner. -/
theorem authorize_ne_network {facts : Facts} {entitlementId : Int} {actionKind nonce signature : String}
    {failure : Failure} {next : Service N}
    (h : c.authorize cfg facts entitlementId actionKind nonce signature = (.error failure, next)) :
    failure ≠ .denied .network := by
  rintro rfl
  simp only [Service.authorize] at h
  split at h
  · rename_i hverify
    cases h
    exact verify_ne_network hverify
  · split at h
    · rename_i hpredicate
      cases h
      exact predicate_ne_network hpredicate
    · split at h
      · cases h
      · split at h <;> cases h

/-- The three ways an activation is answered. A denial that is not the network's has changed neither the table nor
the network. -/
inductive ActivateOutcome (c : Service N) (entitlementId : Int) : Except Failure SessionInfo × Service N → Prop
  | refused {failure : Failure} {next : Service N} (hcode : failure ≠ .denied .network)
      (hquiet : ∀ code, failure = .denied code → next.sessions = c.sessions ∧ next.net = c.net) :
      ActivateOutcome c entitlementId (.error failure, next)
  | failed {session : Session} {next : Service N} (hid : session.entitlementId = entitlementId)
      (hstate : session.state = .failed) (hsessions : next.sessions = c.sessions.insert session.sessionId session) :
      ActivateOutcome c entitlementId (.error (.denied .network), next)
  | activated {session : Session} {next : Service N} (hid : session.entitlementId = entitlementId)
      (hstate : session.state = .active) (hsessions : next.sessions = c.sessions.insert session.sessionId session) :
      ActivateOutcome c entitlementId (.ok session.info, next)

variable (cfg p c reader) in
theorem activate_outcome (entitlementId : Int) (actionKind nonce signature : String) :
    ActivateOutcome c entitlementId (c.activate cfg p reader entitlementId actionKind nonce signature) := by
  simp only [Service.activate]
  split
  · rename_i failure hfacts
    exact .refused (readFacts_ne_network hfacts) fun _ _ => ⟨rfl, rfl⟩
  · split
    · rename_i failure next hauthorize
      obtain ⟨seq, -, rfl⟩ := authorize_error hauthorize
      exact .refused (authorize_ne_network hauthorize) fun _ _ => ⟨rfl, rfl⟩
    · rename_i plan next hauthorize
      obtain ⟨hgranted, rfl⟩ := authorize_ok hauthorize
      rcases (applyCalls p plan.calls c.net).1 with _ | _ | _
      · exact .refused (fun heq => by cases heq) fun code heq => by cases heq
      · simp only [Service.record, hgranted.state]
        split
        · exact .refused (fun heq => by cases heq) fun code heq => by cases heq
        · exact @ActivateOutcome.failed N c entitlementId
            ⟨plan.sessionId, plan.entitlementId, .failed, plan.since, plan.expiresAt⟩ _ hgranted.entitlementId rfl rfl
      · simp only [Service.record, hgranted.state]
        exact @ActivateOutcome.activated N c entitlementId
          ⟨plan.sessionId, plan.entitlementId, .active, plan.since, plan.expiresAt⟩ _ hgranted.entitlementId rfl rfl

/-- A teardown with a proof that returns leaves no active session of that id; a denial has changed neither the table
nor the network. -/
inductive TeardownOutcome (c : Service N) (sessionId : String) : Except Failure SessionInfo × Service N → Prop
  | refused {failure : Failure} {next : Service N} (hcode : failure ≠ .denied .network)
      (hquiet : ∀ code, failure = .denied code → next.sessions = c.sessions ∧ next.net = c.net) :
      TeardownOutcome c sessionId (.error failure, next)
  | ended {info : SessionInfo} {next : Service N} (hdown : ∀ session, ¬ next.ActiveAt sessionId session) :
      TeardownOutcome c sessionId (.ok info, next)

theorem TeardownOutcome.congr {c' : Service N} {sessionId : String} {result : Except Failure SessionInfo × Service N}
    (h : TeardownOutcome c' sessionId result) (hsessions : c'.sessions = c.sessions) (hnet : c'.net = c.net) :
    TeardownOutcome c sessionId result := by
  cases h with
  | refused hcode hquiet => exact .refused hcode fun code heq => hsessions ▸ hnet ▸ hquiet code heq
  | ended hdown => exact .ended hdown

variable (p c) in
theorem teardown_outcome (sessionId : String) : TeardownOutcome c sessionId (c.teardown p sessionId) := by
  simp only [Service.teardown]
  cases hget : c.sessions.get? sessionId with
  | none =>
      dsimp only
      split
      · exact .refused (fun heq => by cases heq) fun code heq => by cases heq
      · refine .ended ?_
        rintro session ⟨hsome, -⟩
        cases hget.symm.trans hsome
  | some session =>
      dsimp only
      split
      · exact .refused (fun heq => by cases heq) fun code heq => by cases heq
      · split
        · exact .refused (fun heq => by cases heq) fun code heq => by cases heq
        · rename_i state htransition
          refine .ended ?_
          rintro session' ⟨hsome, hactive⟩
          dsimp only at hsome
          rw [OrderedDict.get?_insert, if_pos rfl] at hsome
          cases hsome
          exact teardown_not_active htransition hactive

variable (cfg p c reader) in
theorem teardownRequested_outcome (sessionId nonce signature : String) :
    TeardownOutcome c sessionId (c.teardownRequested cfg p reader sessionId nonce signature) := by
  simp only [Service.teardownRequested]
  cases hget : c.sessions.get? sessionId with
  | none =>
      refine .ended ?_
      rintro session ⟨hsome, -⟩
      cases hget.symm.trans hsome
  | some session =>
      dsimp only
      split
      · rename_i hread
        exact .refused (read_ne_network hread) fun _ _ => ⟨rfl, rfl⟩
      · rename_i hread
        exact .refused (read_ne_network hread) fun _ _ => ⟨rfl, rfl⟩
      · rename_i owner now _ _
        split
        · rename_i code hverify
          refine .refused ?_ fun _ _ => ⟨rfl, rfl⟩
          rintro heq
          cases heq
          exact verify_ne_network hverify
        · exact (teardown_outcome p _ sessionId).congr rfl rfl

theorem status_ne_ok (code : ErrorCode) : status code ≠ 200 := by
  cases code <;> decide

theorem status_eq_bad_gateway_iff {code : ErrorCode} : status code = 502 ↔ code = .network := by
  cases code <;> decide

/-- A refusal below 500 is a denial, and 502 is the network's. -/
theorem status_raised {failure : Failure} (hcode : failure ≠ .denied .network) :
    (@Response.raised F failure).status ≠ 200 ∧ (@Response.raised F failure).status ≠ 502 ∧
      ((@Response.raised F failure).status < 500 → ∃ code, failure = .denied code) := by
  cases failure with
  | denied code =>
      refine ⟨status_ne_ok code, fun heq => ?_, fun _ => ⟨code, rfl⟩⟩
      exact hcode (congrArg Failure.denied (status_eq_bad_gateway_iff.mp heq))
  | illegalTransition =>
      change (500 : Nat) ≠ 200 ∧ (500 : Nat) ≠ 502 ∧ ((500 : Nat) < 500 → _)
      exact ⟨by decide, by decide, fun hlt => absurd hlt (by decide)⟩
  | raised =>
      change (500 : Nat) ≠ 200 ∧ (500 : Nat) ≠ 502 ∧ ((500 : Nat) < 500 → _)
      exact ⟨by decide, by decide, fun hlt => absurd hlt (by decide)⟩

end Step

/-! ### Traffic -/

/-- A request on the wire, with the answers of the chain to it and the nonce that is drawn for it, or something the
controller does of its own. -/
inductive Traffic (F : Type)
  | http (reader : Reader) (drawn : String) (request : HttpRequest F)
  | own (op : Op)

section Run

variable (python : Python F) (detail : Document F → Document F) (cfg : Config) (p : Provisioner N)

def Service.meet (c : Service N) : Traffic F → Service N
  | .http reader drawn request => (handle python detail cfg p reader drawn c request).2
  | .own op => c.perform cfg p op

def Service.serve (c : Service N) (traffic : List (Traffic F)) : Service N :=
  traffic.foldl (Service.meet python detail cfg p) c

/-- What a response says of the step from `c` to `next`, and of any state `last` behind it. -/
structure Told (c next last : Service N) (asked : Option Request) (response : Response F) : Prop where
  refused : 400 ≤ response.status → response.status < 500 → next.sessions = c.sessions ∧ next.net = c.net
  failed : response.status = 502 → ∃ session, session.state = .failed ∧
    next.sessions = c.sessions.insert session.sessionId session
  activated : ∀ entitlementId actionKind nonce signature,
    asked = some (.activate entitlementId actionKind nonce signature) → response.status = 200 →
      ∃ session, response.body = some (.obj (sessionInfoModel.dump (sessionInfoValues session.info))) ∧
        session.entitlementId = entitlementId ∧ next.ActiveAt session.sessionId session ∧
        ∃ session', last.sessions.get? session.sessionId = some session' ∧
          session'.entitlementId = entitlementId ∧ (session'.state = .active → session' = session)
  ended : ∀ sessionId nonce signature, asked = some (.teardownRequested sessionId nonce signature) →
    response.status = 200 → (∀ session, ¬ next.ActiveAt sessionId session) ∧
      ((c.sessions.get? sessionId).isSome → ∀ session, ¬ last.ActiveAt sessionId session)

/-- What a request is told in the state `c` holds after it, and after any traffic behind it. -/
def AnswerHolds (c : Service N) (reader : Reader) (drawn : String) (request : HttpRequest F)
    (behind : List (Traffic F)) : Prop :=
  let answered := handle python detail cfg p reader drawn c request
  Told c answered.2 (answered.2.serve python detail cfg p behind) (request.parse python drawn) answered.1

variable {python detail cfg p} {c : Service N}

theorem meet_eq (traffic : Traffic F) :
    c.meet python detail cfg p traffic = c ∨ ∃ op, c.meet python detail cfg p traffic = c.perform cfg p op := by
  cases traffic with
  | own op => exact Or.inr ⟨op, rfl⟩
  | http reader drawn request =>
      have hnext := @service_handle F N python detail cfg p c reader drawn request
      cases hparse : request.parse python drawn with
      | none =>
          rw [hparse] at hnext
          exact Or.inl hnext
      | some asked =>
          rw [hparse] at hnext
          exact Or.inr ⟨_, hnext⟩

/-- Entries stay, under fresh ids, whatever comes over the wire. -/
theorem keyed_serve (h : Keyed c) (traffic : List (Traffic F)) :
    Keyed (c.serve python detail cfg p traffic) ∧ Later c (c.serve python detail cfg p traffic) := by
  induction traffic generalizing c with
  | nil => exact ⟨h, Later.refl c⟩
  | cons first rest ih =>
      have hstep : Keyed (c.meet python detail cfg p first) ∧ Later c (c.meet python detail cfg p first) := by
        rcases @meet_eq F N python detail cfg p c first with heq | ⟨op, heq⟩
        · rw [heq]
          exact ⟨h, Later.refl c⟩
        · rw [heq]
          exact ⟨h.perform op, perform_later h op⟩
      obtain ⟨hkeyed, hlater⟩ := ih hstep.1
      exact ⟨hkeyed, hstep.2.trans hlater⟩

/-- A session that is known and down stays down. -/
theorem not_active_later {next last : Service N} (hlater : Later next last) {sessionId : String}
    (hknown : (next.sessions.get? sessionId).isSome) (hdown : ∀ session, ¬ next.ActiveAt sessionId session)
    (session : Session) : ¬ last.ActiveAt sessionId session := by
  rintro ⟨hget, hactive⟩
  obtain ⟨session', hget'⟩ := Option.isSome_iff_exists.mp hknown
  obtain ⟨session'', hget'', -, hsame⟩ := hlater sessionId session' hget'
  cases hget.symm.trans hget''
  exact hdown session' ⟨hget', hsame hactive ▸ hactive⟩

/-- A response that is no success says that nothing was changed, or leaves it open. -/
theorem told_raised {next last : Service N} {asked : Option Request} {failure : Failure}
    (hcode : failure ≠ .denied .network)
    (hquiet : ∀ code, failure = .denied code → next.sessions = c.sessions ∧ next.net = c.net) :
    Told c next last asked (@Response.raised F failure) := by
  obtain ⟨hok, hnetwork, hdenied⟩ := @status_raised F failure hcode
  refine ⟨fun _ hlt => ?_, fun heq => absurd heq hnetwork, fun _ _ _ _ _ heq => absurd heq hok,
    fun _ _ _ _ heq => absurd heq hok⟩
  obtain ⟨code, hfailure⟩ := hdenied hlt
  exact hquiet code hfailure

theorem told_ok {next last : Service N} {asked : Option Request} {body : Document F}
    (hactivated : ∀ entitlementId actionKind nonce signature,
      asked = some (.activate entitlementId actionKind nonce signature) →
        ∃ session, some body = some (.obj (sessionInfoModel.dump (sessionInfoValues session.info))) ∧
          session.entitlementId = entitlementId ∧ next.ActiveAt session.sessionId session ∧
          ∃ session', last.sessions.get? session.sessionId = some session' ∧
            session'.entitlementId = entitlementId ∧ (session'.state = .active → session' = session))
    (hended : ∀ sessionId nonce signature, asked = some (.teardownRequested sessionId nonce signature) →
      (∀ session, ¬ next.ActiveAt sessionId session) ∧
        ((c.sessions.get? sessionId).isSome → ∀ session, ¬ last.ActiveAt sessionId session)) :
    Told c next last asked (.ok body) where
  refused hle _ := absurd hle (by decide : ¬ 400 ≤ 200)
  failed hbad := absurd hbad (by decide : (200 : Nat) ≠ 502)
  activated entitlementId actionKind nonce signature hasked _ :=
    hactivated entitlementId actionKind nonce signature hasked
  ended sessionId nonce signature hasked _ := hended sessionId nonce signature hasked

theorem told_activate {last : Service N} (reader : Reader) (entitlementId : Int) (actionKind nonce signature : String)
    (hlater : Later (respond (F := F) cfg p reader c (.activate entitlementId actionKind nonce signature)).2 last) :
    Told c (respond (F := F) cfg p reader c (.activate entitlementId actionKind nonce signature)).2 last
      (some (.activate entitlementId actionKind nonce signature))
      (respond (F := F) cfg p reader c (.activate entitlementId actionKind nonce signature)).1 := by
  have houtcome := activate_outcome cfg p c reader entitlementId actionKind nonce signature
  simp only [respond] at hlater ⊢
  generalize c.activate cfg p reader entitlementId actionKind nonce signature = result at houtcome hlater ⊢
  cases houtcome with
  | refused hcode hquiet => exact told_raised hcode hquiet
  | failed hid hstate hsessions =>
      refine ⟨fun _ hlt => absurd hlt (by decide : ¬ (502 : Nat) < 500), fun _ => ⟨_, hstate, hsessions⟩, ?_, ?_⟩
      · intro _ _ _ _ _ hok
        exact absurd hok (by decide : (502 : Nat) ≠ 200)
      · intro _ _ _ hasked
        cases hasked
  | @activated session next hid hstate hsessions =>
      have hget : next.sessions.get? session.sessionId = some session := by
        rw [hsessions, OrderedDict.get?_insert, if_pos rfl]
      refine told_ok ?_ ?_
      · intro id kind drawn proof hasked
        cases hasked
        obtain ⟨session', hget', hid', hsame⟩ := hlater session.sessionId session hget
        exact ⟨session, rfl, hid, ⟨hget, hstate⟩, session', hget', hid'.trans hid, hsame⟩
      · intro _ _ _ hasked
        cases hasked

theorem told_teardown {last : Service N} (hkeyed : Keyed c) (reader : Reader) (sessionId nonce signature : String)
    (hlater : Later (respond (F := F) cfg p reader c (.teardownRequested sessionId nonce signature)).2 last) :
    Told c (respond (F := F) cfg p reader c (.teardownRequested sessionId nonce signature)).2 last
      (some (.teardownRequested sessionId nonce signature))
      (respond (F := F) cfg p reader c (.teardownRequested sessionId nonce signature)).1 := by
  have houtcome := teardownRequested_outcome cfg p c reader sessionId nonce signature
  have hstep : Later c (c.teardownRequested cfg p reader sessionId nonce signature).2 :=
    perform_later hkeyed (.request reader (.teardownRequested sessionId nonce signature))
  simp only [respond] at hlater ⊢
  generalize c.teardownRequested cfg p reader sessionId nonce signature = result at houtcome hlater hstep ⊢
  cases houtcome with
  | refused hcode hquiet => exact told_raised hcode hquiet
  | ended hdown =>
      refine told_ok ?_ ?_
      · intro _ _ _ _ hasked
        cases hasked
      · intro id drawn proof hasked
        cases hasked
        refine ⟨hdown, fun hknown => not_active_later hlater ?_ hdown⟩
        obtain ⟨session, hget⟩ := Option.isSome_iff_exists.mp hknown
        obtain ⟨session', hget', -⟩ := hstep _ session hget
        exact Option.isSome_of_mem hget'

/-- An endpoint that only reads, or opens a nonce. -/
theorem told_quiet {next last : Service N} {asked : Request} {response : Response F}
    (hsessions : next.sessions = c.sessions) (hnet : next.net = c.net)
    (hstatus : response.status ≠ 502)
    (hactivate : ∀ entitlementId actionKind nonce signature, asked ≠ .activate entitlementId actionKind nonce signature)
    (hteardown : ∀ sessionId nonce signature, asked ≠ .teardownRequested sessionId nonce signature) :
    Told c next last (some asked) response where
  refused _ _ := ⟨hsessions, hnet⟩
  failed heq := absurd heq hstatus
  activated entitlementId actionKind nonce signature hasked _ :=
    absurd (Option.some.inj hasked) (hactivate entitlementId actionKind nonce signature)
  ended sessionId nonce signature hasked _ := absurd (Option.some.inj hasked) (hteardown sessionId nonce signature)

theorem told_challenge {last : Service N} (reader : Reader) (entitlementId : Int) (nonce : String) :
    Told c (respond (F := F) cfg p reader c (.challenge entitlementId nonce)).2 last
      (some (.challenge entitlementId nonce)) (respond (F := F) cfg p reader c (.challenge entitlementId nonce)).1 := by
  simp only [respond, Service.challenge]
  split
  · rename_i failure next heq
    refine told_raised ?_ fun _ _ => ?_
    · split at heq
      · rename_i hview
        cases heq
        exact readView_ne_network hview
      · split at heq
        · rename_i hnow
          cases heq
          exact read_ne_network hnow
        · cases heq
    · split at heq
      · cases heq
        exact ⟨rfl, rfl⟩
      · split at heq <;> cases heq
        exact ⟨rfl, rfl⟩
  · rename_i issued next heq
    have hquiet : next.sessions = c.sessions ∧ next.net = c.net := by
      split at heq
      · cases heq
      · split at heq <;> cases heq
        exact ⟨rfl, rfl⟩
    refine told_quiet hquiet.1 hquiet.2 ?_ (fun _ _ _ _ heq => by cases heq) fun _ _ _ heq => by cases heq
    split_ifs
    · exact (by decide : (200 : Nat) ≠ 502)
    · exact (by decide : (500 : Nat) ≠ 502)

theorem told_session {last : Service N} (reader : Reader) (sessionId : String) :
    Told c (respond (F := F) cfg p reader c (.session sessionId)).2 last (some (.session sessionId))
      (respond (F := F) cfg p reader c (.session sessionId)).1 := by
  rw [service_respond]
  simp only [respond, Service.session]
  cases c.sessions.get? sessionId with
  | none =>
      have hcode : Failure.denied .unknownEntitlement ≠ Failure.denied .network := fun heq => by cases heq
      exact @told_raised F N c c last (some (.session sessionId)) _ hcode fun _ _ => ⟨rfl, rfl⟩
  | some session =>
      exact told_quiet rfl rfl (by decide : (200 : Nat) ≠ 502) (fun _ _ _ _ heq => by cases heq)
        fun _ _ _ heq => by cases heq

/-- Over any traffic, a response below 500 that refuses has changed no session and nothing on the network; 502 goes
with a session that is recorded as failed; an activation that is answered with 200 has made the session of its body
active, and the entry stays that ticket's; and a known session whose teardown was answered with 200 is never active
again. -/
theorem http_answers_hold (python : Python F) (detail : Document F → Document F) (cfg : Config) (p : Provisioner N)
    (controllerId : String) (net : N) (before behind : List (Traffic F)) (reader : Reader) (drawn : String)
    (request : HttpRequest F) :
    AnswerHolds python detail cfg p ((Service.start controllerId net).serve python detail cfg p before) reader drawn request
      behind := by
  have hkeyed := (@keyed_serve F N python detail cfg p _ (keyed_start controllerId net) before).1
  set c := (Service.start controllerId net).serve python detail cfg p before
  have hnext := (@keyed_serve F N python detail cfg p _ hkeyed [.http reader drawn request]).1
  change Keyed (handle python detail cfg p reader drawn c request).2 at hnext
  have hlater := (@keyed_serve F N python detail cfg p _ hnext behind).2
  unfold AnswerHolds
  rw [handle] at hlater ⊢
  cases hparse : request.parse python drawn with
  | none =>
      refine ⟨fun _ _ => ⟨rfl, rfl⟩, fun hbad => absurd hbad (by decide : (422 : Nat) ≠ 502), ?_, ?_⟩
      · intro _ _ _ _ hasked
        cases hasked
      · intro _ _ _ hasked
        cases hasked
  | some asked =>
      rw [hparse] at hlater
      cases asked with
      | challenge entitlementId nonce => exact told_challenge reader entitlementId nonce
      | activate entitlementId actionKind nonce signature =>
          exact told_activate reader entitlementId actionKind nonce signature hlater
      | teardownRequested sessionId nonce signature => exact told_teardown hkeyed reader sessionId nonce signature hlater
      | session sessionId => exact told_session reader sessionId

end Run

end A2AProvisioning.Controller
