import A2AProvisioning.ControllerApp
import A2AProvisioning.SystemProofs

/-! An activation as the consumer's tools go about it: challenge, sign, submit, over HTTP, with whatever the others
send in between. What becomes of it is up to the ticket and the network. -/

namespace A2AProvisioning.Controller

/-- The nonce that an operation draws or presents. -/
def Op.nonce : Op → Option String
  | .request _ (.challenge _ nonce) => some nonce
  | .request _ (.activate _ _ nonce _) => some nonce
  | .request _ (.teardownRequested _ nonce _) => some nonce
  | _ => none

section Untouched

variable {N : Type} {cfg : Config} {p : Provisioner N} {c : Service N} {nonce : String}

theorem get?_burn_of_ne {other : String} (h : nonce ≠ other) (store : AuthStore) :
    (store.burn other).opened.get? nonce = store.opened.get? nonce := by
  rw [AuthStore.burn, OrderedDict.get?_erase, if_neg h]

/-- An operation leaves every nonce alone but the one it names. -/
theorem opened_perform {op : Op} (h : op.nonce ≠ some nonce) :
    (c.perform cfg p op).auth.opened.get? nonce = c.auth.opened.get? nonce := by
  have hended : ∀ sessions : List Session, (Service.teardownAll p sessions c).2.auth = c.auth := fun sessions =>
    @teardownAll_invariant N p c (fun c' => c'.auth = c.auth)
      (fun c' sessionId h => (auth_teardown sessionId).trans h) sessions rfl
  cases op with
  | request reader request =>
      cases request with
      | challenge entitlementId drawn =>
          have hne : nonce ≠ drawn := fun heq => h (congrArg some heq.symm)
          simp only [Service.perform, Service.challenge]
          split
          · rfl
          · split
            · rfl
            · rw [AuthStore.issue, OrderedDict.get?_insert, if_neg hne]
      | activate entitlementId actionKind presented signature =>
          have hne : nonce ≠ presented := fun heq => h (congrArg some heq.symm)
          rcases auth_activate cfg p c reader entitlementId actionKind presented signature with hauth | hauth
          · rw [Service.perform, hauth]
          · rw [Service.perform, hauth, get?_burn_of_ne hne]
      | teardownRequested sessionId presented signature =>
          have hne : nonce ≠ presented := fun heq => h (congrArg some heq.symm)
          rw [Service.perform]
          rcases teardownRequested_cases cfg p c reader sessionId presented signature with
            heq | heq | ⟨_, _, _, _, -, -, -, -, -, -, heq⟩
          · rw [heq]
          · rw [heq, get?_burn_of_ne hne]
          · rw [heq, auth_teardown, get?_burn_of_ne hne]
      | session sessionId => rfl
  | teardown sessionId => rw [Service.perform, auth_teardown]
  | tick reader =>
      simp only [Service.perform, Service.tick]
      split
      · rfl
      · rw [hended]
  | handleRevoked reader entitlementId =>
      have hauth := hended (c.sessions.values.filter fun session =>
        session.entitlementId = entitlementId ∧ session.state = .active)
      simp only [Service.perform, Service.handleRevoked, Service.endRevoked]
      split
      · rfl
      · split_ifs
        · split
          · rename_i heq
            rw [heq] at hauth
            exact congrArg (fun auth => auth.opened.get? nonce) hauth
          · rename_i heq
            rw [heq] at hauth
            exact congrArg (fun auth => auth.opened.get? nonce) hauth
        · rfl

variable (cfg p c) in
theorem controllerId_perform (op : Op) : (c.perform cfg p op).auth.controllerId = c.auth.controllerId := by
  rcases auth_perform cfg p c op with hauth | ⟨burnt, hauth⟩ | ⟨_, _, _, _, _, -, -, -, hauth⟩
  · rw [hauth]
  · rw [hauth]
    rfl
  · rw [hauth]
    rfl

/-- What others do leaves a nonce open that they do not name. -/
theorem auth_after {events : List (Event N)} (h : ∀ event ∈ events, event.op.nonce ≠ some nonce) :
    (after cfg c events).auth.controllerId = c.auth.controllerId ∧
      (after cfg c events).auth.opened.get? nonce = c.auth.opened.get? nonce := by
  induction events using List.reverseRecOn with
  | nil => exact ⟨rfl, rfl⟩
  | append_singleton events event ih =>
      obtain ⟨hid, hopen⟩ := ih fun other hmem => h other (List.mem_append_left _ hmem)
      rw [after_snoc]
      exact ⟨(controllerId_perform _ _ _ _).trans hid,
        (opened_perform (h event (List.mem_append_right _ List.mem_cons_self))).trans hopen⟩

end Untouched

section Answer

variable {N : Type} {cfg : Config} {p : Provisioner N} {c : Service N} {facts : Facts} {a : ActivateRequest}
  {reader : Reader}

/-- An activation spends its nonce, whatever becomes of it. -/
theorem auth_of_readable (hreadable : Readable facts a reader) :
    (c.activate cfg p reader a.entitlementId a.actionKind a.nonce a.signature).2.auth = c.auth.burn a.nonce := by
  cases hbefore : firstFailing (checksBefore cfg c facts a) with
  | some code =>
      obtain ⟨seq, hdenied⟩ := @activate_denied N cfg p c facts a reader code hreadable hbefore
      rw [hdenied]
  | none =>
      obtain ⟨call, plan, -, hstate, -, hadmitted⟩ := @activate_admitted N cfg p c facts a reader hreadable hbefore
      rw [hadmitted, record_auth p _ hstate]

/-- It goes through when all checks hold, the last of them on the network, and its session has the next id. -/
theorem activate_ok_iff (hreadable : Readable facts a reader) (sessionId : String) :
    (∃ info, (c.activate cfg p reader a.entitlementId a.actionKind a.nonce a.signature).1 = .ok info ∧
        info.sessionId = sessionId) ↔
      firstFailing (checksBefore cfg c facts a) = none ∧ (provisionerCheck cfg p c facts a).holds = true ∧
        sessionId = sessionIdOf a.entitlementId c.seq := by
  cases hbefore : firstFailing (checksBefore cfg c facts a) with
  | some code =>
      obtain ⟨seq, hdenied⟩ := @activate_denied N cfg p c facts a reader code hreadable hbefore
      rw [hdenied]
      refine iff_of_false ?_ ?_
      · rintro ⟨info, hinfo, -⟩
        cases hinfo
      · rintro ⟨hnone, -⟩
        cases hnone
  | none =>
      obtain ⟨call, plan, hcall, hstate, hplan, hadmitted⟩ :=
        @activate_admitted N cfg p c facts a reader hreadable hbefore
      have hcheck : (provisionerCheck cfg p c facts a).holds = (p.call call c.net.state).1.any ApplyResult.ok := by
        rw [provisionerCheck, hcall]
        rfl
      rw [hadmitted, record_answer p _ hstate, hcheck, Net.invoke]
      dsimp only
      cases (p.call call c.net.state).1 with
      | none =>
          refine iff_of_false ?_ ?_
          · rintro ⟨info, hinfo, -⟩
            cases hinfo
          · rintro ⟨-, hok, -⟩
            cases hok
      | some result =>
          rw [Option.map_some, Option.any_some]
          cases result.ok with
          | false =>
              refine iff_of_false ?_ ?_
              · rintro ⟨info, hinfo, -⟩
                dsimp only at hinfo
                split at hinfo <;> cases hinfo
              · rintro ⟨-, hok, -⟩
                cases hok
          | true =>
              constructor
              · rintro ⟨info, hinfo, rfl⟩
                cases hinfo
                exact ⟨rfl, rfl, hplan⟩
              · rintro ⟨-, -, rfl⟩
                exact ⟨_, rfl, hplan⟩

end Answer

end A2AProvisioning.Controller

namespace A2AProvisioning.Agents

open Controller

variable {F N : Type}

/-- Why the tool raises: a body that is no JSON, a member that is not there, a number that cannot be written, or an
answer without a session. -/
inductive ActivationError (F : Type)
  | decode
  | keyError
  | valueError
  | denied (activation : Document F)

/-- The account of a consumer. -/
structure Account where
  sign : String → String
  address : Address

/-- What a consumer needs of the world around it for one activation: the chain at both calls, the nonce that is
drawn, what others do at the controller between the calls, and the network at the second. -/
structure Exchange (N : Type) where
  challenged : Reader
  drawn : String
  between : List (Event N)
  submitted : Reader
  redrawn : String
  provisioner : Provisioner N

/-- The value of a member, of the kind that the controller sends. -/
def textAt (name : String) (document : Document F) : Option String :=
  (document.members.bind (List.lookup name)).bind fun
    | .str value => some value
    | _ => none

def numberAt (name : String) (document : Document F) : Option Int :=
  (document.members.bind (List.lookup name)).bind fun
    | .int value => some value
    | _ => none

def challengeBody (entitlementId : Int) : Document F := .obj [("entitlement_id", .int entitlementId)]

def activateBody (entitlementId : Int) (kind nonce signature : String) : Document F :=
  .obj [("entitlement_id", .int entitlementId), ("action", .obj [("kind", .str kind)]),
    ("proof", .obj [("nonce", .str nonce), ("signature", .str signature)])]

/-- The second body, from the answer to the first. -/
def submission (account : Account) (entitlementId : Int) (kind : String) (challenge : Document F) :
    Except (ActivationError F) (Document F) :=
  match textAt "nonce" challenge, textAt "controller_id" challenge, numberAt "expires_at" challenge with
  | some nonce, some controllerId, some expiresAt =>
      match Chain.signActivationProof account.sign account.address entitlementId nonce controllerId expiresAt with
      | none => .error .valueError
      | some proof => .ok (activateBody entitlementId kind nonce proof.1)
  | _, _, _ => .error .keyError

/-- What is read off the answer to the second. -/
def sessionOf (response : Response F) : Except (ActivationError F) String :=
  match response.body with
  | none => .error .decode
  | some activation =>
      match textAt "session_id" activation with
      | some sessionId => .ok sessionId
      | none => .error (.denied activation)

section Tool

variable (python : Python F) (detail : Document F → Document F) (cfg : Config) (account : Account) (x : Exchange N)
  (c : Service N)

/-- The first call. -/
def challengeFor (entitlementId : Int) : Response F × Service N :=
  handle python detail cfg x.provisioner x.challenged x.drawn c (.challenge (challengeBody entitlementId))

/-- The service when the second call comes in. -/
def betweenCalls (entitlementId : Int) : Service N :=
  after cfg (challengeFor python detail cfg x c entitlementId).2 x.between

/-- `ChainConsumerTools.activate`. -/
def activateTool (entitlementId : Int) (kind : String) : Except (ActivationError F) String × Service N :=
  match (challengeFor python detail cfg x c entitlementId).1.body with
  | none => (.error .decode, betweenCalls python detail cfg x c entitlementId)
  | some challenge =>
      match submission account entitlementId kind challenge with
      | .error err => (.error err, betweenCalls python detail cfg x c entitlementId)
      | .ok body =>
          let submitted := handle python detail cfg x.provisioner x.submitted x.redrawn
            (betweenCalls python detail cfg x c entitlementId) (.activate body)
          (sessionOf submitted.1, submitted.2)

end Tool

section Bodies

variable (python : Python F)

theorem validateChallengeRequest_body (entitlementId : Int) :
    validateChallengeRequest python (challengeBody entitlementId) = some entitlementId :=
  python.int_int entitlementId

theorem validateProof_body {signature : String} (hsignature : isSignature signature = true) (nonce : String) :
    validateProof python (.obj [("nonce", .str nonce), ("signature", .str signature)]) = some (nonce, signature) := by
  have hread : validateProof python (.obj [("nonce", .str nonce), ("signature", .str signature)]) =
      (python.str (.str nonce)).bind fun nonce => (python.constrained isSignature (.str signature)).bind fun signature =>
        some (nonce, signature.1) := by
    rfl
  rw [hread, python.str_str, Option.bind_some, python.constrained_str hsignature, Option.bind_some]

theorem validateActivateRequest_body {kind signature : String} (hkind : kind = "bandwidth" ∨ kind = "telemetry")
    (hsignature : isSignature signature = true) (entitlementId : Int) (nonce : String) :
    validateActivateRequest python (activateBody entitlementId kind nonce signature) =
      some ⟨entitlementId, kind, nonce, signature⟩ := by
  have hread : validateActivateRequest python (activateBody entitlementId kind nonce signature) =
      (python.int (.int entitlementId)).bind fun entitlementId =>
        (if kind = "bandwidth" ∨ kind = "telemetry" then some kind else none).bind fun kind =>
          (validateProof python (.obj [("nonce", .str nonce), ("signature", .str signature)])).bind fun proof =>
            some ⟨entitlementId, kind, proof.1, proof.2⟩ := by
    rfl
  rw [hread, python.int_int, if_pos hkind, validateProof_body python hsignature]
  rfl

end Bodies

section Calls

variable {python : Python F} {detail : Document F → Document F} {cfg : Config} {account : Account} {x : Exchange N}
  {c : Service N} {entitlementId : Int} {kind : String}

variable (python detail x c) in
/-- A challenge that is answered opens the drawn nonce for the ticket. -/
theorem challengeFor_eq {view : EntitlementView} {now : Nat} (hget : x.challenged.get entitlementId = .ok view)
    (hnow : x.challenged.chainTime = .ok now) (htime : now + nonceTtlS < 2 ^ 64) :
    challengeFor python detail cfg x c entitlementId =
      (.ok (.obj (challengeResponseModel.dump
        (challengeResponseValues ⟨x.drawn, c.auth.controllerId, now + nonceTtlS⟩))),
        { c with auth := (c.auth.issue x.drawn entitlementId now).2 }) := by
  rw [challengeFor, handle, HttpRequest.parse, validateChallengeRequest_body, Option.map_some]
  simp only [respond, Service.challenge, readView, Controller.read, hget, hnow, AuthStore.issue, if_pos htime]

/-- The answer has what the tool looks for. -/
theorem submission_eq (hid : entitlementId.natAbs < 2 ^ 256) {issued : Challenge} (hexpires : issued.expiresAt < 2 ^ 64) :
    submission (F := F) account entitlementId kind
        (.obj (challengeResponseModel.dump (challengeResponseValues issued))) =
      .ok (activateBody entitlementId kind issued.nonce
        (account.sign (proofMessage issued.controllerId issued.nonce entitlementId issued.expiresAt .activate))) := by
  have hread : submission (F := F) account entitlementId kind
      (.obj (challengeResponseModel.dump (challengeResponseValues issued))) =
      match Chain.signActivationProof account.sign account.address entitlementId issued.nonce issued.controllerId
        issued.expiresAt with
      | none => .error .valueError
      | some proof => .ok (activateBody entitlementId kind issued.nonce proof.1) := rfl
  rw [hread, Chain.signActivationProof_eq account.sign account.address _ _ hid (hexpires.trans (by decide))]

end Calls

/-! ### What decides -/

/-- The account's signatures recover to it. -/
structure Account.Honest (account : Account) (cfg : Config) : Prop where
  recovers : ∀ message, cfg.recover message (account.sign message) = some account.address
  signature : ∀ message, isSignature (account.sign message) = true

/-- The first call finds the ticket at time `issuedAt`, and nobody else names the nonce that was drawn for it. -/
structure Exchange.Undisturbed (x : Exchange N) (entitlementId : Int) (issuedAt : Nat) : Prop where
  ticket : ∃ view, x.challenged.get entitlementId = .ok view
  now : x.challenged.chainTime = .ok issuedAt
  time : issuedAt + nonceTtlS < 2 ^ 64
  between : ∀ event ∈ x.between, event.op.nonce ≠ some x.drawn

/-- What the second call asks for. -/
def Exchange.request (x : Exchange N) (account : Account) (controllerId : String) (entitlementId : Int) (kind : String)
    (issuedAt : Nat) : ActivateRequest :=
  ⟨entitlementId, kind, x.drawn,
    account.sign (proofMessage controllerId x.drawn entitlementId (issuedAt + nonceTtlS) .activate)⟩

/-- The checks that are left for a proof that an account has made. -/
def ticketChecks (cfg : Config) (account : Account) (c : Service N) (facts : Facts) (a : ActivateRequest)
    (issuedAt : Nat) : List Check :=
  ⟨facts.now ≤ issuedAt + nonceTtlS, .badProof⟩ :: ⟨account.address = facts.owner, .notOwner⟩ ::
    (termChecks c facts a ++ [mappedCheck cfg facts])

section Decision

variable {python : Python F} {detail : Document F → Document F} {cfg : Config} {account : Account} {x : Exchange N}
  {c : Service N} {entitlementId : Int} {kind : String} {issuedAt : Nat} {facts : Facts}

variable (python detail c) in
/-- The service as the second call finds it. -/
theorem auth_betweenCalls (h : x.Undisturbed entitlementId issuedAt) :
    (betweenCalls python detail cfg x c entitlementId).auth.controllerId = c.auth.controllerId ∧
      (betweenCalls python detail cfg x c entitlementId).auth.opened.get? x.drawn =
        some (entitlementId, issuedAt + nonceTtlS) := by
  obtain ⟨view, hget⟩ := h.ticket
  obtain ⟨hid, hopen⟩ := @auth_after N cfg (challengeFor python detail cfg x c entitlementId).2 x.drawn x.between h.between
  have hissued := @challengeFor_eq F N python detail cfg x c entitlementId view issuedAt hget h.now h.time
  rw [betweenCalls]
  refine ⟨hid.trans ?_, hopen.trans ?_⟩
  · rw [hissued]
    rfl
  · rw [hissued]
    exact (OrderedDict.get?_insert _ _ _ _).trans (if_pos rfl)

/-- The proof passes, up to its age and the owner. -/
theorem firstFailing_checksBefore (hhonest : account.Honest cfg) {c' : Service N} {controllerId : String}
    (hid : c'.auth.controllerId = controllerId)
    (hopen : c'.auth.opened.get? x.drawn = some (entitlementId, issuedAt + nonceTtlS)) :
    firstFailing (checksBefore cfg c' facts (x.request account controllerId entitlementId kind issuedAt)) =
      firstFailing (ticketChecks cfg account c' facts (x.request account controllerId entitlementId kind issuedAt)
        issuedAt) := by
  have hsigner : signer cfg c' (x.request account controllerId entitlementId kind issuedAt) = some account.address := by
    rw [signer, Exchange.request, hopen, Option.bind_some, hid]
    exact hhonest.recovers _
  have hproof : proofChecks cfg c' facts (x.request account controllerId entitlementId kind issuedAt) =
      [⟨true, .nonceReused⟩, ⟨true, .badProof⟩, ⟨facts.now ≤ issuedAt + nonceTtlS, .badProof⟩, ⟨true, .badProof⟩,
        ⟨account.address = facts.owner, .notOwner⟩] := by
    have hnonce : (x.request account controllerId entitlementId kind issuedAt).nonce = x.drawn := rfl
    have hticket : (x.request account controllerId entitlementId kind issuedAt).entitlementId = entitlementId := rfl
    simp only [proofChecks, hsigner, hnonce, hopen, hticket, Option.isSome_some, Option.any_some, decide_true,
      Option.some.injEq]
  rw [checksBefore, hproof, ticketChecks]
  simp only [List.cons_append, List.nil_append, firstFailing, if_true]

variable (python detail cfg account x c entitlementId kind issuedAt facts) in
/-- What the ticket and the network say is what the tool gets: a refusal names the first check that fails, and a
session id is that of a session which is active then. The nonce is spent in any case. -/
structure Decided : Prop where
  refused : ∀ code,
    firstFailing (ticketChecks cfg account (betweenCalls python detail cfg x c entitlementId) facts
      (x.request account c.auth.controllerId entitlementId kind issuedAt) issuedAt) = some code →
    (activateTool python detail cfg account x c entitlementId kind).1 =
      .error (.denied (.obj [("error", .str code.value)]))
  granted : ∀ sessionId, (activateTool python detail cfg account x c entitlementId kind).1 = .ok sessionId ↔
    firstFailing (ticketChecks cfg account (betweenCalls python detail cfg x c entitlementId) facts
      (x.request account c.auth.controllerId entitlementId kind issuedAt) issuedAt) = none ∧
    (provisionerCheck cfg x.provisioner (betweenCalls python detail cfg x c entitlementId) facts
      (x.request account c.auth.controllerId entitlementId kind issuedAt)).holds = true ∧
    sessionId = sessionIdOf entitlementId (betweenCalls python detail cfg x c entitlementId).seq
  active : ∀ sessionId, (activateTool python detail cfg account x c entitlementId kind).1 = .ok sessionId →
    ∃ session, (activateTool python detail cfg account x c entitlementId kind).2.ActiveAt sessionId session ∧
      session.entitlementId = entitlementId
  spent : (activateTool python detail cfg account x c entitlementId kind).2.auth.opened.get? x.drawn = none

/-- An answer that refuses the challenge has no nonce to sign. -/
theorem submission_raised {failure : Failure} {challenge : Document F}
    (hbody : (Response.raised failure : Response F).body = some challenge) :
    submission account entitlementId kind challenge = .error .keyError := by
  cases failure with
  | denied code =>
      cases hbody
      rfl
  | illegalTransition => cases hbody
  | raised => cases hbody

/-- The tool only returns if its challenge was answered. -/
theorem undisturbed_of_ok (hbetween : ∀ event ∈ x.between, event.op.nonce ≠ some x.drawn) {sessionId : String}
    (h : (activateTool python detail cfg account x c entitlementId kind).1 = .ok sessionId) :
    ∃ issuedAt, x.Undisturbed entitlementId issuedAt := by
  have hfor : challengeFor python detail cfg x c entitlementId =
      respond cfg x.provisioner x.challenged c (.challenge entitlementId x.drawn) := by
    rw [challengeFor, handle, HttpRequest.parse, validateChallengeRequest_body, Option.map_some]
  have hanswered : ∀ failure, (challengeFor python detail cfg x c entitlementId).1 ≠ .raised failure := by
    intro failure hraised
    rw [activateTool, hraised] at h
    split at h
    · cases h
    · rename_i challenge hbody
      rw [submission_raised hbody] at h
      cases h
  rw [hfor] at hanswered
  simp only [respond, Service.challenge] at hanswered
  cases hget : readView x.challenged entitlementId with
  | error failure =>
      rw [hget] at hanswered
      exact absurd rfl (hanswered failure)
  | ok view =>
      rw [hget] at hanswered
      cases hnow : Controller.read x.challenged.chainTime with
      | error failure =>
          rw [hnow] at hanswered
          exact absurd rfl (hanswered failure)
      | ok now =>
          rw [hnow] at hanswered
          refine ⟨now, ⟨view, readView_eq_ok hget⟩, read_eq_ok hnow, ?_, hbetween⟩
          by_contra hlate
          have hissued : ¬ (c.auth.issue x.drawn entitlementId now).1.expiresAt < 2 ^ 64 := hlate
          have hinternal := hanswered .raised
          dsimp only at hinternal
          rw [if_neg hissued] at hinternal
          exact hinternal rfl

/-- After an answered challenge the tool submits its proof. -/
theorem activateTool_eq (hhonest : account.Honest cfg) (hkind : kind = "bandwidth" ∨ kind = "telemetry")
    (hid : entitlementId.natAbs < 2 ^ 256) (h : x.Undisturbed entitlementId issuedAt) :
    activateTool python detail cfg account x c entitlementId kind =
      (sessionOf (respond cfg x.provisioner x.submitted (betweenCalls python detail cfg x c entitlementId)
          (.activate entitlementId kind x.drawn
            (x.request account c.auth.controllerId entitlementId kind issuedAt).signature)).1,
        (respond (F := F) cfg x.provisioner x.submitted (betweenCalls python detail cfg x c entitlementId)
          (.activate entitlementId kind x.drawn
            (x.request account c.auth.controllerId entitlementId kind issuedAt).signature)).2) := by
  obtain ⟨view, hget⟩ := h.ticket
  have hbody : (challengeFor python detail cfg x c entitlementId).1.body =
      some (.obj (challengeResponseModel.dump
        (challengeResponseValues ⟨x.drawn, c.auth.controllerId, issuedAt + nonceTtlS⟩))) := by
    rw [challengeFor_eq python detail x c hget h.now h.time]
    rfl
  have hsubmission := @submission_eq F account entitlementId kind hid
    ⟨x.drawn, c.auth.controllerId, issuedAt + nonceTtlS⟩ h.time
  have hparse := validateActivateRequest_body python hkind
    (hhonest.signature (proofMessage c.auth.controllerId x.drawn entitlementId (issuedAt + nonceTtlS) .activate))
    entitlementId x.drawn
  rw [activateTool, hbody]
  dsimp only
  rw [hsubmission]
  dsimp only
  rw [handle, HttpRequest.parse, hparse, Option.map_some]
  rfl

variable (F cfg x) in
/-- A session id is read off the answer to an activation that went through. -/
theorem sessionOf_eq_ok {c' : Service N} {nonce signature sessionId : String} :
    sessionOf (respond (F := F) cfg x.provisioner x.submitted c' (.activate entitlementId kind nonce signature)).1 =
        .ok sessionId ↔
      ∃ info, (c'.activate cfg x.provisioner x.submitted entitlementId kind nonce signature).1 = .ok info ∧
        info.sessionId = sessionId := by
  rw [respond]
  cases c'.activate cfg x.provisioner x.submitted entitlementId kind nonce signature with
  | mk answer next =>
    cases answer with
    | ok info =>
        change (Except.ok info.sessionId : Except (ActivationError F) String) = .ok sessionId ↔ _
        constructor
        · intro h
          cases h
          exact ⟨info, rfl, rfl⟩
        · rintro ⟨info', hinfo, rfl⟩
          cases hinfo
          rfl
    | error failure =>
        refine iff_of_false ?_ ?_
        · cases failure <;> exact fun h => by cases h
        · rintro ⟨info, hinfo, -⟩
          cases hinfo

/-- What the tool is given is active. -/
theorem active_of_sessionOf {c' : Service N} {nonce signature sessionId : String}
    (h : sessionOf (respond (F := F) cfg x.provisioner x.submitted c' (.activate entitlementId kind nonce signature)).1 =
      .ok sessionId) :
    ∃ session, (respond (F := F) cfg x.provisioner x.submitted c'
        (.activate entitlementId kind nonce signature)).2.ActiveAt sessionId session ∧
      session.entitlementId = entitlementId := by
  obtain ⟨info, hinfo, rfl⟩ := (sessionOf_eq_ok F cfg x).mp h
  have houtcome := activate_outcome cfg x.provisioner c' x.submitted entitlementId kind nonce signature
  rw [service_respond, Service.perform]
  generalize c'.activate cfg x.provisioner x.submitted entitlementId kind nonce signature = result at hinfo houtcome ⊢
  cases houtcome with
  | refused _ _ => cases hinfo
  | failed _ _ _ => cases hinfo
  | @activated session next hid hstate hsessions =>
      cases hinfo
      have hget : next.sessions.get? session.sessionId = some session := by
        rw [hsessions, OrderedDict.get?_insert, if_pos rfl]
      exact ⟨session, ⟨hget, hstate⟩, hid⟩

end Decision

/-- The three calls of an honest owner, whatever others do at the controller in between: what the ticket and the
network say decides. -/
theorem honest_exchange_is_decided (python : Python F) (detail : Document F → Document F) (cfg : Config)
    (account : Account) (hhonest : account.Honest cfg) (x : Exchange N) (c : Service N) (entitlementId : Int)
    (hid : entitlementId.natAbs < 2 ^ 256) (kind : String) (hkind : kind = "bandwidth" ∨ kind = "telemetry")
    (issuedAt : Nat) (hx : x.Undisturbed entitlementId issuedAt) (facts : Facts)
    (hreadable : Readable facts (x.request account c.auth.controllerId entitlementId kind issuedAt) x.submitted) :
    Decided python detail cfg account x c entitlementId kind issuedAt facts := by
  obtain ⟨hcontroller, hopen⟩ := @auth_betweenCalls F N python detail cfg x c entitlementId issuedAt hx
  have htool := @activateTool_eq F N python detail cfg account x c entitlementId kind issuedAt hhonest hkind hid hx
  have hchecks := @firstFailing_checksBefore N cfg account x entitlementId kind issuedAt facts hhonest _ _ hcontroller hopen
  have hanswer := @activate_ok_iff N cfg x.provisioner (betweenCalls python detail cfg x c entitlementId) facts
    (x.request account c.auth.controllerId entitlementId kind issuedAt) x.submitted hreadable
  have hspent := @auth_of_readable N cfg x.provisioner (betweenCalls python detail cfg x c entitlementId) facts
    (x.request account c.auth.controllerId entitlementId kind issuedAt) x.submitted hreadable
  refine ⟨fun code hcode => ?_, fun sessionId => ?_, fun sessionId hgranted => ?_, ?_⟩
  · obtain ⟨seq, hdenied⟩ := @activate_denied N cfg x.provisioner _ facts _ x.submitted code hreadable
      (hchecks.trans hcode)
    have hresponse : (respond (F := F) cfg x.provisioner x.submitted (betweenCalls python detail cfg x c entitlementId)
        (.activate entitlementId kind x.drawn
          (x.request account c.auth.controllerId entitlementId kind issuedAt).signature)).1 = .denied code := by
      rw [respond]
      split
      · rename_i heq
        cases hdenied.symm.trans heq
        rfl
      · rename_i heq
        cases hdenied.symm.trans heq
    rw [htool, hresponse]
    rfl
  · rw [htool, sessionOf_eq_ok, ← hchecks]
    exact hanswer sessionId
  · rw [htool] at hgranted ⊢
    exact active_of_sessionOf hgranted
  · rw [htool, service_respond, Service.perform]
    refine (congrArg (fun auth : AuthStore => auth.opened.get? x.drawn) hspent).trans ?_
    exact (OrderedDict.get?_erase _ _ _).trans (if_pos rfl)

/-- 65 bytes that recover to the owner. -/
def labSignature : String := String.ofList ('0' :: 'x' :: List.replicate 130 '0')

def labAccount : Account := ⟨fun _ => labSignature, labOwner⟩

def accountConfig : Config :=
  { labConfig with recover := fun _ signature => if signature = labSignature then some labOwner else none }

theorem isSignature_labSignature : isSignature labSignature = true :=
  isHex_ofList (by rw [List.length_replicate]; rfl) (isDigit_replicate 130 (by decide))

theorem labAccount_honest : labAccount.Honest accountConfig where
  recovers message := by simp only [accountConfig, labAccount, if_true]
  signature message := isSignature_labSignature

/-- Another nonce is drawn for the same ticket, and presented with a proof of somebody else. -/
def labExchange : Exchange Network.Devices where
  challenged := labReader 10
  drawn := "0x01"
  between :=
    [⟨Network.labProvisioner.provisioner, .request (labReader 11) (.challenge 1 "0x02")⟩,
      ⟨Network.labProvisioner.provisioner, .request (labReader 12) (.activate 1 "bandwidth" "0x02" "0x")⟩,
      ⟨Network.labProvisioner.provisioner, .tick (labReader 13)⟩]
  submitted := labReader 20
  redrawn := "0x03"
  provisioner := Network.labProvisioner.provisioner

theorem labExchange_undisturbed : labExchange.Undisturbed 1 10 where
  ticket := ⟨_, rfl⟩
  now := rfl
  time := by decide
  between event hmem := by
    simp only [labExchange, List.mem_cons, List.not_mem_nil, or_false] at hmem
    rcases hmem with rfl | rfl | rfl
    · exact (by decide : some "0x02" ≠ some "0x01")
    · exact (by decide : some "0x02" ≠ some "0x01")
    · exact fun heq => by cases heq

/-- The first session id there is goes to the exchange. -/
theorem honest_exchange_is_decided_lab :
    (activateTool (labPython .null) id accountConfig labAccount labExchange (Service.start "bw-ctrl-1" fun _ => .empty) 1
      "bandwidth").1 = .ok "ent1-a0" := by
  have hreadable : Readable ⟨labView 1 50000000, labOwner, 20⟩
      (labExchange.request labAccount "bw-ctrl-1" 1 "bandwidth" 10) labExchange.submitted :=
    ⟨rfl, rfl, rfl, rfl, Or.inl ⟨rfl, _, rfl⟩⟩
  have hdecided := honest_exchange_is_decided (labPython .null) id accountConfig labAccount labAccount_honest labExchange
    (Service.start "bw-ctrl-1" fun _ => .empty) 1 (by decide) "bandwidth" (Or.inl rfl) 10 labExchange_undisturbed
    ⟨labView 1 50000000, labOwner, 20⟩ hreadable
  exact (hdecided.granted "ent1-a0").mpr ⟨by decide +kernel, by decide +kernel, by decide +kernel⟩

end A2AProvisioning.Agents
