import A2AProvisioning.ControllerRuns
import A2AProvisioning.NetworkProvisioner

/-! `activate` as a gate: a list of checks, the first of which to fail gives the code of the denial. What
the list leaves out is a provisioner that raises instead of reporting, and there the gate and `activate`
part. -/

namespace A2AProvisioning.Controller

open Network

/-- A check of the gate, with the code of the denial if it fails. -/
structure Check where
  holds : Bool
  code : ErrorCode

/-- The code of the first check that fails, in order. -/
def firstFailing : List Check → Option ErrorCode
  | [] => none
  | check :: rest => if check.holds then firstFailing rest else some check.code

theorem firstFailing_append (checks checks' : List Check) :
    firstFailing (checks ++ checks') = (firstFailing checks).or (firstFailing checks') := by
  induction checks with
  | nil => rfl
  | cons check rest ih =>
      rw [List.cons_append, firstFailing, firstFailing, ih]
      split_ifs <;> rfl

/-- One branch of a cascade of conditions, against one check of the list. -/
theorem ite_eq_firstFailing {refused : Prop} [Decidable refused] {holds : Bool} {code : ErrorCode}
    {rest : List Check} {verdict : Option ErrorCode} (hcheck : refused ↔ holds = false)
    (hrest : verdict = firstFailing rest) :
    (if refused then some code else verdict) = firstFailing (⟨holds, code⟩ :: rest) := by
  rw [firstFailing, hrest]
  cases holds with
  | false => rw [if_pos (hcheck.mpr rfl), if_neg Bool.false_ne_true]
  | true => rw [if_neg fun h => Bool.noConfusion (hcheck.mp h), if_pos rfl]

/-- A request to activate. -/
structure ActivateRequest where
  entitlementId : Int
  actionKind : String
  nonce : String
  signature : String

section Gate

variable {N : Type} (cfg : Config) (p : Provisioner N) (c : Service N) (facts : Facts) (a : ActivateRequest)

/-- Who signed the activate message of the presented nonce. -/
def signer : Option Address :=
  (c.auth.opened.get? a.nonce).bind fun issued =>
    cfg.recover (proofMessage c.auth.controllerId a.nonce a.entitlementId issued.2 .activate) a.signature

/-- The checks on the proof. -/
def proofChecks : List Check :=
  [⟨(c.auth.opened.get? a.nonce).isSome, .nonceReused⟩,
    ⟨(c.auth.opened.get? a.nonce).any fun issued => issued.1 = a.entitlementId, .badProof⟩,
    ⟨(c.auth.opened.get? a.nonce).any fun issued => facts.now ≤ issued.2, .badProof⟩,
    ⟨(signer cfg c a).isSome, .badProof⟩,
    ⟨signer cfg c a = some facts.owner, .notOwner⟩]

/-- The checks on the ticket. -/
def termChecks : List Check :=
  [⟨facts.view.startTime.toNat ≤ facts.now, .notStarted⟩,
    ⟨facts.now < facts.view.endTime.toNat, .expired⟩,
    ⟨!facts.view.revoked, .revoked⟩,
    ⟨actionKinds a.actionKind = some facts.view.serviceType, .scope⟩,
    ⟨c.sessions.values.all fun session => session.state = .active → session.entitlementId ≠ a.entitlementId,
      .conflict⟩]

def mappedCheck : Check := ⟨(cfg.resourceMap facts.view.resourceId).isSome, .scope⟩

/-- The call that a service on a resource comes down to. -/
def serviceCall (sessionId : String) : ServiceParams → Resolved → NetCall
  | .bandwidth params, resolved => .applyBandwidth sessionId resolved params.capacityBps.toNat params.qosClass.toNat
  | .telemetry params, resolved =>
      .applyTelemetry sessionId resolved params.sensorPaths params.collectorEndpoint params.sampleIntervalS.toNat

/-- The provisioner call of the activation. -/
def provisionerCall : Option NetCall :=
  (cfg.resourceMap facts.view.resourceId).map (serviceCall (sessionIdOf a.entitlementId c.seq) facts.view.params)

def provisionerCheck : Check :=
  ⟨(provisionerCall cfg c facts a).any fun call => (p.call call c.net.state).1.any ApplyResult.ok, .network⟩

/-- What is checked before the provisioner is called. -/
def checksBefore : List Check := proofChecks cfg c facts a ++ (termChecks c facts a ++ [mappedCheck cfg facts])

def gate : List Check := checksBefore cfg c facts a ++ [provisionerCheck cfg p c facts a]

/-- The chain has the ticket, of service type 0 or 1 with the params of that type. -/
structure Readable (reader : Reader) : Prop where
  get : reader.get a.entitlementId = .ok facts.view
  owner : reader.ownerOf a.entitlementId = .ok facts.owner
  now : reader.chainTime = .ok facts.now
  id : facts.view.id = a.entitlementId
  kind : (facts.view.serviceType = 0 ∧ ∃ params, facts.view.params = .bandwidth params) ∨
    (facts.view.serviceType = 1 ∧ ∃ params, facts.view.params = .telemetry params)

/-- The resource of the ticket is of the kind that its service needs, or not mapped. -/
def Matching : Prop :=
  ∀ resolved ∈ cfg.resourceMap facts.view.resourceId,
    match facts.view.params with
    | .bandwidth _ => ∃ path, resolved = .path path
    | .telemetry _ => ∃ node, resolved = .node node

/-- The activation does what the gate says. -/
structure GateHolds (result : Except Failure SessionInfo × Service N) : Prop where
  answer : match firstFailing (gate cfg p c facts a) with
    | none => ∃ info, result.1 = .ok info
    | some code => result.1 = .error (.denied code)
  nonce : ∀ other, result.2.auth.opened.get? other = if other = a.nonce then none else c.auth.opened.get? other
  refused : ∀ code, result.1 = .error (.denied code) → code ≠ .network →
    result.2.sessions = c.sessions ∧ result.2.net = c.net

/-- If all but the provisioner agrees, the calls that are then made return. -/
def CallsReturn : Prop :=
  firstFailing (checksBefore cfg c facts a) = none →
    ∀ call ∈ provisionerCall cfg c facts a, ∃ result, (p.call call c.net.state).1 = some result ∧
      (result.ok = false →
        (p.call (.teardown (sessionIdOf a.entitlementId c.seq)) (p.call call c.net.state).2).1.isSome)

variable {cfg p c facts a}

theorem verify_fst : (c.auth.verify cfg.recover a.entitlementId a.nonce a.signature facts.owner facts.now .activate).1 =
    firstFailing (proofChecks cfg c facts a) := by
  rw [AuthStore.verify]
  split
  · rename_i hget
    simp [proofChecks, firstFailing, hget]
  · rename_i issuedFor expiresAt hget
    have hsigner : signer cfg c a =
        cfg.recover (proofMessage c.auth.controllerId a.nonce a.entitlementId expiresAt .activate) a.signature := by
      rw [signer, hget]
      rfl
    simp only [proofChecks, firstFailing, hget, hsigner, Option.isSome_some, Option.any_some, decide_eq_true_eq]
    generalize cfg.recover (proofMessage c.auth.controllerId a.nonce a.entitlementId expiresAt .activate) a.signature =
      recovered
    by_cases hissued : issuedFor = a.entitlementId
    · by_cases hfresh : facts.now ≤ expiresAt
      · have hfresh' : ¬ facts.now > expiresAt := not_lt.mpr hfresh
        cases recovered with
        | none => simp [hissued, hfresh, hfresh']
        | some account => by_cases howner : account = facts.owner <;> simp [hissued, hfresh, hfresh', howner]
      · have hstale : facts.now > expiresAt := not_le.mp hfresh
        simp [hissued, hfresh, hstale]
    · simp [hissued]

theorem not_mem_activeIds : a.entitlementId ∉ c.activeIds ↔
    (c.sessions.values.all fun session => session.state = .active → session.entitlementId ≠ a.entitlementId) = true := by
  simp only [Service.activeIds, List.mem_map, List.mem_filter, decide_eq_true_eq, List.all_eq_true, not_exists, not_and]
  exact forall_congr' fun session => ⟨fun h hmem hstate => h ⟨hmem, hstate⟩, fun h hmem => h hmem.1 hmem.2⟩

theorem predicate_eq {reader : Reader} (hreadable : Readable facts a reader) :
    predicate facts.view facts.owner facts.owner facts.now c.activeIds (some a.actionKind) knownServiceTypes =
      firstFailing (termChecks c facts a) := by
  have hknown : facts.view.serviceType ∈ knownServiceTypes := by
    rcases hreadable.kind with ⟨htype, -⟩ | ⟨htype, -⟩ <;> rw [htype] <;> decide
  have hstart : facts.now < facts.view.startTime.toNat ↔ decide (facts.view.startTime.toNat ≤ facts.now) = false :=
    not_le.symm.trans decide_eq_false_iff_not.symm
  have hend : facts.now ≥ facts.view.endTime.toNat ↔ decide (facts.now < facts.view.endTime.toNat) = false :=
    not_lt.symm.trans decide_eq_false_iff_not.symm
  have hrevoked : facts.view.revoked = true ↔ (!facts.view.revoked) = false := by
    cases facts.view.revoked <;> decide
  have haction : (∃ kind ∈ some a.actionKind, actionKinds kind ≠ some facts.view.serviceType) ↔
      decide (actionKinds a.actionKind = some facts.view.serviceType) = false := by
    simp only [Option.mem_def, Option.some.injEq, exists_eq_left', decide_eq_false_iff_not, ne_eq]
  have hactive := not_iff_not.mpr (@not_mem_activeIds N c a)
  rw [not_not, Bool.not_eq_true] at hactive
  simp only [predicate, ne_eq, not_true_eq_false, ↓reduceIte, hknown, hreadable.id]
  exact ite_eq_firstFailing hstart (ite_eq_firstFailing hend (ite_eq_firstFailing hrevoked
    (ite_eq_firstFailing haction (ite_eq_firstFailing hactive rfl))))

theorem translate_eq {reader : Reader} (hreadable : Readable facts a reader) (sessionId : String) :
    translate sessionId facts.view cfg.resourceMap =
      match cfg.resourceMap facts.view.resourceId with
      | none => .error .unmappedResource
      | some resolved => .ok [serviceCall sessionId facts.view.params resolved] := by
  rw [translate]
  cases cfg.resourceMap facts.view.resourceId with
  | none => rfl
  | some resolved =>
      rcases hreadable.kind with ⟨htype, params, hparams⟩ | ⟨htype, params, hparams⟩
      · simp only [htype, ↓reduceIte, bandwidth, hparams, serviceCall]
      · have hother : ¬ (1 : Uint8) = 0 := by decide
        simp only [htype, hother, ↓reduceIte, telemetry, hparams, serviceCall]

theorem readFacts_eq {reader : Reader} (hreadable : Readable facts a reader) :
    readFacts reader a.entitlementId = .ok facts := by
  simp only [readFacts, readView, read, hreadable.get, hreadable.owner, hreadable.now]
  rfl

/-! ### What `activate` answers -/

theorem activate_denied {reader : Reader} {code : ErrorCode} (hreadable : Readable facts a reader)
    (h : firstFailing (checksBefore cfg c facts a) = some code) :
    ∃ seq, c.activate cfg p reader a.entitlementId a.actionKind a.nonce a.signature =
      (.error (.denied code), { c with auth := c.auth.burn a.nonce, seq := seq }) := by
  have hverify := @verify_fst N cfg c facts a
  have hpredicate := @predicate_eq N c facts a reader hreadable
  rw [checksBefore, firstFailing_append, firstFailing_append] at h
  simp only [Service.activate, readFacts_eq hreadable, Service.authorize, AuthStore.verify_snd, hverify]
  cases hproof : firstFailing (proofChecks cfg c facts a) with
  | some denial =>
      rw [hproof, Option.some_or] at h
      cases h
      exact ⟨c.seq, rfl⟩
  | none =>
      rw [hproof, Option.none_or] at h
      have hids : Service.activeIds { c with auth := { c.auth with opened := c.auth.opened.erase a.nonce } } =
          c.activeIds := rfl
      simp only [hids, hpredicate]
      cases hterms : firstFailing (termChecks c facts a) with
      | some denial =>
          rw [hterms, Option.some_or] at h
          cases h
          exact ⟨c.seq, rfl⟩
      | none =>
          rw [hterms, Option.none_or] at h
          cases hmapped : cfg.resourceMap facts.view.resourceId with
          | none =>
              rw [mappedCheck, hmapped] at h
              cases h
              simp only [translate_eq hreadable, hmapped]
              exact ⟨c.seq + 1, rfl⟩
          | some resolved =>
              rw [mappedCheck, hmapped] at h
              cases h

theorem activate_admitted {reader : Reader} (hreadable : Readable facts a reader)
    (h : firstFailing (checksBefore cfg c facts a) = none) :
    ∃ call plan, provisionerCall cfg c facts a = some call ∧ plan.state = .authorized ∧
      plan.sessionId = sessionIdOf a.entitlementId c.seq ∧
      c.activate cfg p reader a.entitlementId a.actionKind a.nonce a.signature =
        Service.record p { c with
          auth := c.auth.burn a.nonce
          seq := c.seq + 1
          net := (c.net.invoke p call).2 } plan ((c.net.invoke p call).1.map ApplyResult.ok) := by
  have hverify := @verify_fst N cfg c facts a
  have hpredicate := @predicate_eq N c facts a reader hreadable
  rw [checksBefore, firstFailing_append, firstFailing_append, Option.or_eq_none_iff, Option.or_eq_none_iff] at h
  obtain ⟨hproof, hterms, hmapped⟩ := h
  obtain ⟨resolved, hresolved⟩ : ∃ resolved, cfg.resourceMap facts.view.resourceId = some resolved := by
    cases hresolved : cfg.resourceMap facts.view.resourceId with
    | none =>
        rw [mappedCheck, hresolved] at hmapped
        cases hmapped
    | some resolved => exact ⟨resolved, rfl⟩
  refine ⟨serviceCall (sessionIdOf a.entitlementId c.seq) facts.view.params resolved,
    ⟨sessionIdOf a.entitlementId c.seq, a.entitlementId, .authorized,
      [serviceCall (sessionIdOf a.entitlementId c.seq) facts.view.params resolved], facts.now,
      facts.view.endTime.toNat⟩, ?_, rfl, rfl, ?_⟩
  · rw [provisionerCall, hresolved]
    rfl
  · have hids : Service.activeIds { c with auth := { c.auth with opened := c.auth.opened.erase a.nonce } } =
        c.activeIds := rfl
    have hauthorize : transition .requested .authorize = some .authorized := rfl
    simp only [Service.activate, readFacts_eq hreadable, Service.authorize, AuthStore.verify_snd, hverify, hproof, hids,
      hpredicate, hterms, hauthorize, translate_eq hreadable, hresolved, applyCalls_single]
    rfl

variable (p c) in
/-- The answer of an activation that has its plan. -/
theorem record_answer {plan : Plan} (hstate : plan.state = .authorized) (applied : Option Bool) :
    (c.record p plan applied).1 =
      match applied with
      | none => .error .raised
      | some false =>
          match (p.call (.teardown plan.sessionId) c.net.state).1 with
          | none => .error .raised
          | some _ => .error (.denied .network)
      | some true => .ok ⟨plan.sessionId, plan.entitlementId, .active, plan.since, plan.expiresAt⟩ := by
  rcases applied with _ | _ | _
  · rfl
  · simp only [Service.record, Net.invoke, hstate]
    cases (p.call (.teardown plan.sessionId) c.net.state).1 <;> rfl
  · simp only [Service.record, hstate]
    rfl

variable (p c) in
theorem record_auth {plan : Plan} (hstate : plan.state = .authorized) (applied : Option Bool) :
    (c.record p plan applied).2.auth = c.auth := by
  rcases record_cases p c hstate applied with ⟨-, heq⟩ | ⟨-, -, heq⟩ | ⟨-, -, heq⟩ | ⟨-, heq⟩
  · rw [heq]
  · rw [heq]
  · rw [heq]
    rfl
  · rw [heq]
    rfl

/-- For every ticket that can be read and every provisioner, the activation does what the gate says if and only if
the calls that are then made return. -/
theorem activate_is_the_gate_iff (cfg : Config) (p : Provisioner N) (c : Service N) (facts : Facts) (a : ActivateRequest)
    (reader : Reader) (hreadable : Readable facts a reader) :
    GateHolds cfg p c facts a (c.activate cfg p reader a.entitlementId a.actionKind a.nonce a.signature) ↔
      CallsReturn cfg p c facts a := by
  cases hbefore : firstFailing (checksBefore cfg c facts a) with
  | some code =>
      obtain ⟨seq, heq⟩ := @activate_denied N cfg p c facts a reader code hreadable hbefore
      refine ⟨fun _ hnone => (by cases hbefore.symm.trans hnone), fun _ => ?_⟩
      rw [heq]
      refine ⟨?_, fun other => OrderedDict.get?_erase _ _ _, fun _ _ _ => ⟨rfl, rfl⟩⟩
      rw [gate, firstFailing_append, hbefore, Option.some_or]
  | none =>
      obtain ⟨call, plan, hcall, hstate, hid, heq⟩ := @activate_admitted N cfg p c facts a reader hreadable hbefore
      have hgate : firstFailing (gate cfg p c facts a) =
          if (p.call call c.net.state).1.any ApplyResult.ok then none else some .network := by
        rw [gate, firstFailing_append, hbefore, Option.none_or, provisionerCheck, hcall]
        rfl
      have hreturn : CallsReturn cfg p c facts a ↔ ∃ result, (p.call call c.net.state).1 = some result ∧
          (result.ok = false → (p.call (.teardown plan.sessionId) (p.call call c.net.state).2).1.isSome) := by
        simp only [CallsReturn, hbefore, hcall, hid, Option.mem_some_iff, forall_eq', forall_const]
      have hanswer := record_answer p { c with
          auth := c.auth.burn a.nonce
          seq := c.seq + 1
          net := (c.net.invoke p call).2 } hstate ((c.net.invoke p call).1.map ApplyResult.ok)
      have hauth := record_auth p { c with
          auth := c.auth.burn a.nonce
          seq := c.seq + 1
          net := (c.net.invoke p call).2 } hstate ((c.net.invoke p call).1.map ApplyResult.ok)
      rw [← heq] at hanswer hauth
      have hnonce : ∀ other, (c.activate cfg p reader a.entitlementId a.actionKind a.nonce
          a.signature).2.auth.opened.get? other = if other = a.nonce then none else c.auth.opened.get? other := by
        intro other
        rw [hauth]
        exact OrderedDict.get?_erase _ _ _
      rw [hreturn]
      simp only [Net.invoke] at hanswer
      cases hcalled : (p.call call c.net.state).1 with
      | none =>
          rw [hcalled] at hanswer hgate
          refine ⟨fun hholds => ?_, fun ⟨_, hnone, _⟩ => (by cases hnone)⟩
          have hdenied := hholds.answer
          rw [hgate] at hdenied
          cases hanswer.symm.trans hdenied
      | some result =>
          rw [hcalled, Option.any_some] at hgate
          rw [hcalled, Option.map_some] at hanswer
          cases hok : result.ok with
          | true =>
              rw [hok] at hanswer hgate
              refine ⟨fun _ => ⟨result, rfl, fun hfalse => (by cases hok.symm.trans hfalse)⟩, fun _ => ⟨?_, hnonce, ?_⟩⟩
              · rw [hgate]
                exact ⟨_, hanswer⟩
              · intro code hdenied
                cases hanswer.symm.trans hdenied
          | false =>
              rw [hok] at hanswer hgate
              simp only at hanswer
              cases hcleaned : (p.call (.teardown plan.sessionId) (p.call call c.net.state).2).1 with
              | none =>
                  rw [hcleaned] at hanswer
                  refine ⟨fun hholds => ?_, fun ⟨result', hsome, himp⟩ => ?_⟩
                  · have hdenied := hholds.answer
                    rw [hgate] at hdenied
                    cases hanswer.symm.trans hdenied
                  · cases hsome
                    cases himp hok
              | some cleaned =>
                  rw [hcleaned] at hanswer
                  refine ⟨fun _ => ⟨result, rfl, fun _ => rfl⟩, fun _ => ⟨?_, hnonce, ?_⟩⟩
                  · rw [hgate]
                    exact hanswer
                  · intro code hdenied hcode
                    cases hanswer.symm.trans hdenied
                    exact absurd rfl hcode

/-- Over the network, the calls return unless the one of the ticket raises. -/
theorem callsReturn_unreliable {cfg : Config} {g : GnmiProvisioner}
    {faults : NetCall → Devices → Option (String × Devices)} {c : Service Devices} {facts : Facts} {a : ActivateRequest} :
    CallsReturn cfg (g.unreliable faults) c facts a ↔
      (firstFailing (checksBefore cfg c facts a) = none → ∀ call ∈ provisionerCall cfg c facts a, ¬ g.Raises call) := by
  refine forall_congr' fun _ => forall_congr' fun call => forall_congr' fun _ => ?_
  rw [← @GnmiProvisioner.unreliable_call_eq_none g c.net.state faults call]
  constructor
  · rintro ⟨result, hresult, -⟩
    rw [hresult]
    exact Option.some_ne_none result
  · intro hreturns
    obtain ⟨result, hresult⟩ := Option.ne_none_iff_exists'.mp hreturns
    refine ⟨result, hresult, fun _ => Option.ne_none_iff_isSome.mp fun hnone => ?_⟩
    exact GnmiProvisioner.unreliable_call_eq_none.mp hnone

end Gate

/-- The service after a challenge for entitlement 1 at time 10. -/
def labChallenged : Service Devices :=
  ((Service.start "bw-ctrl-1" fun _ => .empty).challenge (labReader 10) 1 "0x01").2

def labAttempt (actionKind : String) : ActivateRequest :=
  ⟨1, actionKind, "0x01", labProof "0x01" 1 310⟩

theorem activate_is_the_gate_one :
    GateHolds labConfig labProvisioner.provisioner labChallenged ⟨labView 1 50000000, labOwner, 10⟩
      (labAttempt "bandwidth")
      (labChallenged.activate labConfig labProvisioner.provisioner (labReader 10) 1 "bandwidth" "0x01"
        (labProof "0x01" 1 310)) := by
  have hreadable : Readable ⟨labView 1 50000000, labOwner, 10⟩ (labAttempt "bandwidth") (labReader 10) :=
    ⟨rfl, rfl, rfl, rfl, Or.inl ⟨rfl, _, rfl⟩⟩
  refine (activate_is_the_gate_iff labConfig labProvisioner.provisioner labChallenged _ (labAttempt "bandwidth")
    (labReader 10) hreadable).mpr fun _ call hcall => ?_
  cases hcall
  exact ⟨_, rfl, fun hfalse => by cases hfalse⟩

/-- The router as a collector's node under resource 1. -/
def nodeConfig : Config :=
  { labConfig with resourceMap := fun resourceId => if resourceId = 1 then some (.node ⟨"srl1"⟩) else none }

/-- In Unicode a superscript two counts as a digit, and has no decimal value. -/
def superscriptProvisioner : GnmiProvisioner :=
  { labProvisioner with
    unicode := ⟨fun c => c.isDigit || c = '²', fun c => if c.isDigit then some (c.toNat - 48) else none⟩ }

def superscriptView : EntitlementView :=
  { labView 1 0 with
    serviceType := 1
    params := .telemetry ⟨["/interface/statistics"], "203.0.113.7:²", 10⟩ }

def superscriptReader : Reader := { labReader 10 with get := fun _ => .ok superscriptView }

/-- The port of the collector gets past `isdigit` and not past `int`, so the activation raises what is no
denial. -/
theorem superscript_port_raises :
    ¬ ∀ (cfg : Config) (g : GnmiProvisioner) (c : Service Devices) (facts : Facts) (a : ActivateRequest) (reader : Reader),
      Readable facts a reader → Matching cfg facts → GateHolds cfg g.provisioner c facts a
        (c.activate cfg g.provisioner reader a.entitlementId a.actionKind a.nonce a.signature) := by
  intro hclaim
  have hreadable : Readable ⟨superscriptView, labOwner, 10⟩ (labAttempt "telemetry") superscriptReader :=
    ⟨rfl, rfl, rfl, rfl, Or.inr ⟨rfl, _, rfl⟩⟩
  have hmatching : Matching nodeConfig ⟨superscriptView, labOwner, 10⟩ := by
    intro resolved hmem
    cases hmem
    exact ⟨_, rfl⟩
  have hanswer := (hclaim nodeConfig superscriptProvisioner labChallenged _ (labAttempt "telemetry") superscriptReader
    hreadable hmatching).answer
  have hgate : firstFailing (gate nodeConfig superscriptProvisioner.provisioner labChallenged
      ⟨superscriptView, labOwner, 10⟩ (labAttempt "telemetry")) = some .network := by
    decide
  have hraised : (labChallenged.activate nodeConfig superscriptProvisioner.provisioner superscriptReader 1 "telemetry"
      "0x01" (labProof "0x01" 1 310)).1 = .error .raised := by
    rfl
  rw [hgate] at hanswer
  cases hraised.symm.trans hanswer

end A2AProvisioning.Controller
