import A2AProvisioning.ControllerGate
import A2AProvisioning.SystemIssuers

/-! What the service answers for a ticket of the contract. The contract takes any service type, any params
and any resource; the reader and the provisioner do not, and what they raise is not always named by the
service on the way out. -/

namespace A2AProvisioning.System

open Machine Reentrant Settlement Controller Network

/-- A request for one ticket. -/
inductive TicketRequest
  | challenge (nonce : String)
  | activate (actionKind nonce signature : String)

/-- The call returned, or was denied with a code. -/
def Named {α : Type} (result : Except Controller.Failure α) : Prop :=
  ∀ failure, result = .error failure → ∃ code, failure = .denied code

theorem named_ok {α : Type} (value : α) : Named (.ok value : Except Controller.Failure α) := fun _ h => by cases h

theorem named_denied {α : Type} (code : ErrorCode) : Named (.error (.denied code) : Except Controller.Failure α) :=
  fun _ h => ⟨code, (Except.error.inj h).symm⟩

theorem not_named_raised {α : Type} : ¬ Named (.error .raised : Except Controller.Failure α) := by
  intro h
  obtain ⟨code, hcode⟩ := h .raised rfl
  cases hcode

/-- One call was made, that of the service type, on a resource of its kind. -/
def Provisioned (serviceType : Uint8) (before after : List NetCall) : Prop :=
  (serviceType = 0 ∧ ∃ sessionId path capacityBps qosClass,
    after = before ++ [.applyBandwidth sessionId (.path path) capacityBps qosClass]) ∨
  (serviceType = 1 ∧ ∃ sessionId node sensorPaths collectorEndpoint sampleIntervalS,
    after = before ++ [.applyTelemetry sessionId (.node node) sensorPaths collectorEndpoint sampleIntervalS])

section Answers

variable {T : Type} (p : Platform T) (codec : Codec) (s : Storage T) (timestamp : Nat) (cfg : Config)
  (g : GnmiProvisioner) (faults : NetCall → Devices → Option (String × Devices)) (c : Service Devices)
  (entitlementId : Int)

/-- The reader while the node answers. -/
def liveReader : Reader := reader p codec s timestamp ⟨true, true, true⟩

/-- The request has a named answer, and an activation that succeeds has provisioned the service. -/
def Answers : TicketRequest → Prop
  | .challenge nonce => Named (c.challenge (liveReader p codec s timestamp) entitlementId nonce).1
  | .activate actionKind nonce signature =>
      let result := c.activate cfg (g.unreliable faults) (liveReader p codec s timestamp) entitlementId actionKind nonce
        signature
      Named result.1 ∧ ∀ info, result.1 = .ok info →
        Provisioned (s.entitlements entitlementId.toNat).serviceType c.net.calls result.2.net.calls

def viewOf (params : ServiceParams) : EntitlementView :=
  let entitlement := s.entitlements entitlementId.toNat
  ⟨entitlementId, entitlement.issuer, entitlement.serviceType, entitlement.resourceId, params,
    entitlement.startTime, entitlement.endTime, entitlement.revoked, entitlement.termsHash⟩

/-- The call raises nothing, and does not apply one service to a resource of the other. -/
def Deliverable (devices : Devices) : NetCall → Prop
  | .applyBandwidth _ (.path _) _ _ => True
  | .applyBandwidth _ (.node _) _ _ => False
  | .applyTelemetry _ (.node _) _ collectorEndpoint _ =>
      portOf g.unicode (rpartition collectorEndpoint.toList).2 ≠ none
  | .applyTelemetry sessionId (.path path) sensorPaths collectorEndpoint sampleIntervalS =>
      portOf g.unicode (rpartition collectorEndpoint.toList).2 ≠ none ∧
        ¬ (path.device ∈ g.targets ∧
          faults (.applyTelemetry sessionId (.path path) sensorPaths collectorEndpoint sampleIntervalS) devices = none)
  | .teardown _ => True

/-- The params of the ticket decode, and an activation that passes the gate has a call that can be made. -/
def Answerable (owner : Address) : TicketRequest → Prop
  | .challenge _ =>
      ((codec.decode (s.entitlements entitlementId.toNat).serviceType
        (s.entitlements entitlementId.toNat).params)).isSome
  | .activate actionKind nonce signature =>
      ∃ params, codec.decode (s.entitlements entitlementId.toNat).serviceType
          (s.entitlements entitlementId.toNat).params = some params ∧
        (firstFailing (checksBefore cfg c ⟨viewOf s entitlementId params, owner, timestamp⟩
            ⟨entitlementId, actionKind, nonce, signature⟩) = none →
          ∀ call ∈ provisionerCall cfg c ⟨viewOf s entitlementId params, owner, timestamp⟩
            ⟨entitlementId, actionKind, nonce, signature⟩, Deliverable g faults c.net.state call)

variable {p codec s timestamp cfg g faults c entitlementId} {owner : Address}

theorem get_of_decode (howner : System.ownerOf p s entitlementId = .ok owner) :
    (liveReader p codec s timestamp).get entitlementId =
      match codec.decode (s.entitlements entitlementId.toNat).serviceType
          (s.entitlements entitlementId.toNat).params with
      | none => .error .rpcError
      | some params => .ok (viewOf s entitlementId params) := by
  show (if true then System.get p codec s entitlementId else .error .rpcError) = _
  rw [if_pos rfl, System.get, howner]
  rfl

/-- Params that decode are those of service type 0 or 1. -/
theorem decode_kind {serviceType : Uint8} {blob : Bytes} {params : ServiceParams}
    (h : codec.decode serviceType blob = some params) :
    (serviceType = 0 ∧ ∃ bandwidth, params = .bandwidth bandwidth) ∨
      (serviceType = 1 ∧ ∃ telemetry, params = .telemetry telemetry) := by
  rw [Codec.decode] at h
  split_ifs at h with hzero hone
  · obtain ⟨bandwidth, -, rfl⟩ := Option.map_eq_some_iff.mp h
    exact Or.inl ⟨hzero, bandwidth, rfl⟩
  · obtain ⟨telemetry, -, rfl⟩ := Option.map_eq_some_iff.mp h
    exact Or.inr ⟨hone, telemetry, rfl⟩

theorem readable_of_decode (howner : System.ownerOf p s entitlementId = .ok owner) {params : ServiceParams}
    (hdecode : codec.decode (s.entitlements entitlementId.toNat).serviceType
      (s.entitlements entitlementId.toNat).params = some params) (actionKind nonce signature : String) :
    Readable ⟨viewOf s entitlementId params, owner, timestamp⟩ ⟨entitlementId, actionKind, nonce, signature⟩
      (liveReader p codec s timestamp) where
  get := by
    show (liveReader p codec s timestamp).get entitlementId = _
    rw [get_of_decode howner, hdecode]
  owner := howner
  now := rfl
  id := rfl
  kind := decode_kind hdecode

theorem not_raises_of_deliverable {devices : Devices} {call : NetCall} (h : Deliverable g faults devices call) :
    ¬ g.Raises call := by
  rcases call with ⟨_, _ | _, _, _⟩ | ⟨_, _ | _, _, _, _⟩ | _
  · exact id
  · exact absurd h id
  · exact h.1
  · exact h
  · exact id

/-- A call that is reported as failed may have been on the wrong kind of resource. -/
theorem deliverable_of_not_ok {devices : Devices} {call : NetCall} (hreturns : ¬ g.Raises call)
    (hnot : ((g.unreliable faults).call call devices).1.any ApplyResult.ok = false) :
    Deliverable g faults devices call := by
  rcases call with ⟨_, _ | _, _, _⟩ | ⟨_, _ | _, _, _, _⟩ | _
  · trivial
  · exact absurd trivial hreturns
  · refine ⟨hreturns, fun hok => ?_⟩
    rw [(GnmiProvisioner.unreliable_applyTelemetry_ok hreturns).mpr hok] at hnot
    cases hnot
  · exact hreturns
  · trivial

/-- A call that went well has provisioned the service if it was on the right kind of resource. -/
theorem provisioned_iff {devices : Devices} {serviceType : Uint8} {params : ServiceParams} {resolved : Resolved}
    {sessionId : String} {calls : List NetCall}
    (hkind : (serviceType = 0 ∧ ∃ bandwidth, params = .bandwidth bandwidth) ∨
      (serviceType = 1 ∧ ∃ telemetry, params = .telemetry telemetry))
    (hok : ((g.unreliable faults).call (serviceCall sessionId params resolved) devices).1.any ApplyResult.ok = true) :
    Provisioned serviceType calls (calls ++ [serviceCall sessionId params resolved]) ↔
      Deliverable g faults devices (serviceCall sessionId params resolved) := by
  have hreturns : ¬ g.Raises (serviceCall sessionId params resolved) := by
    intro hraises
    rw [GnmiProvisioner.unreliable_call_eq_none.mpr hraises] at hok
    cases hok
  have hlast : ∀ call, calls ++ [serviceCall sessionId params resolved] = calls ++ [call] →
      serviceCall sessionId params resolved = call := fun call h =>
    (List.append_singleton_inj.mp h).2
  rcases hkind with ⟨rfl, bandwidth, rfl⟩ | ⟨rfl, telemetry, rfl⟩
  · cases resolved with
    | path path => exact iff_of_true (Or.inl ⟨rfl, _, _, _, _, rfl⟩) trivial
    | node node => exact absurd trivial hreturns
  · cases resolved with
    | path path =>
        refine iff_of_false ?_ fun h => h.2 ((GnmiProvisioner.unreliable_applyTelemetry_ok hreturns).mp hok)
        rintro (⟨htype, -⟩ | ⟨-, _, node, _, _, _, hcalls⟩)
        · exact absurd htype (by decide)
        · cases hlast _ hcalls
    | node node => exact iff_of_true (Or.inr ⟨rfl, _, _, _, _, _, rfl⟩) hreturns

/-- An activation that passes the gate is answered well if and only if its call can be made. -/
theorem answers_admitted {facts : Facts} {a : ActivateRequest} {chain : Reader} (hreadable : Readable facts a chain)
    (hbefore : firstFailing (checksBefore cfg c facts a) = none)
    {result : Except Controller.Failure SessionInfo × Service Devices}
    (hresult : c.activate cfg (g.unreliable faults) chain a.entitlementId a.actionKind a.nonce a.signature = result) :
    (Named result.1 ∧ ∀ info, result.1 = .ok info →
        Provisioned facts.view.serviceType c.net.calls result.2.net.calls) ↔
      ∀ call ∈ provisionerCall cfg c facts a, Deliverable g faults c.net.state call := by
  obtain ⟨call, plan, hcall, hstate, -, heq⟩ :=
    @activate_admitted Devices cfg (g.unreliable faults) c facts a chain hreadable hbefore
  obtain ⟨resolved, -, rfl⟩ := Option.map_eq_some_iff.mp hcall
  generalize hcallIs : serviceCall (sessionIdOf a.entitlementId c.seq) facts.view.params resolved = call at *
  have hanswer := record_answer (g.unreliable faults) { c with
    auth := c.auth.burn a.nonce
    seq := c.seq + 1
    net := (c.net.invoke (g.unreliable faults) call).2 } hstate
    ((c.net.invoke (g.unreliable faults) call).1.map ApplyResult.ok)
  rw [← heq, hresult] at hanswer
  have hdeliver : (∀ call ∈ provisionerCall cfg c facts a, Deliverable g faults c.net.state call) ↔
      Deliverable g faults c.net.state call := by
    rw [hcall]
    simp only [Option.mem_some_iff, forall_eq']
  rw [hdeliver]
  simp only [Net.invoke] at hanswer heq
  cases hcalled : ((g.unreliable faults).call call c.net.state).1 with
  | none =>
      rw [hcalled] at hanswer
      refine iff_of_false (fun h => ?_) fun h => ?_
      · rw [hanswer] at h
        exact not_named_raised h.1
      · exact not_raises_of_deliverable h (GnmiProvisioner.unreliable_call_eq_none.mp hcalled)
  | some reported =>
      have hreturns : ¬ g.Raises call := by
        rw [← @GnmiProvisioner.unreliable_call_eq_none g c.net.state faults call, hcalled]
        exact Option.some_ne_none reported
      rw [hcalled, Option.map_some] at hanswer heq
      cases hok : reported.ok with
      | false =>
          rw [hok] at hanswer
          have hcleaned : ((g.unreliable faults).call (.teardown plan.sessionId)
              ((g.unreliable faults).call call c.net.state).2).1 ≠ none := fun hnone =>
            GnmiProvisioner.unreliable_call_eq_none.mp hnone
          obtain ⟨cleaned, hcleaned⟩ := Option.ne_none_iff_exists'.mp hcleaned
          simp only [hcleaned] at hanswer
          refine iff_of_true ⟨?_, fun info hinfo => ?_⟩ ?_
          · rw [hanswer]
            exact named_denied _
          · cases hanswer.symm.trans hinfo
          · refine deliverable_of_not_ok hreturns ?_
            rw [hcalled, Option.any_some, hok]
      | true =>
          rw [hok] at hanswer heq
          have hcalls : result.2.net.calls = c.net.calls ++ [call] := by
            rw [← hresult, heq, Service.record, hstate]
            rfl
          have happlied : ((g.unreliable faults).call call c.net.state).1.any ApplyResult.ok = true := by
            rw [hcalled, Option.any_some, hok]
          rw [hcalls]
          subst hcallIs
          rw [← @provisioned_iff g faults c.net.state _ _ _ _ c.net.calls hreadable.kind happlied, hanswer]
          exact ⟨fun h => h.2 _ rfl, fun h => ⟨named_ok _, fun _ _ => h⟩⟩

/-- For every ticket in the contract, however it was minted, a request for it is answered well if and only if
it is answerable. -/
theorem tickets_are_answered_iff (p : Platform T) (codec : Codec) (s : Storage T) (timestamp : Nat) (cfg : Config)
    (g : GnmiProvisioner) (faults : NetCall → Devices → Option (String × Devices)) (c : Service Devices)
    (entitlementId : Int) (owner : Address) (howner : System.ownerOf p s entitlementId = .ok owner)
    (request : TicketRequest) :
    Answers p codec s timestamp cfg g faults c entitlementId request ↔
      Answerable codec s timestamp cfg g faults c entitlementId owner request := by
  have hget := @get_of_decode T p codec s timestamp entitlementId owner howner
  cases request with
  | challenge nonce =>
      rw [Answers, Answerable, Service.challenge, readView, hget]
      cases codec.decode (s.entitlements entitlementId.toNat).serviceType (s.entitlements entitlementId.toNat).params with
      | none => exact iff_of_false not_named_raised Bool.false_ne_true
      | some params => exact iff_of_true (named_ok _) rfl
  | activate actionKind nonce signature =>
      rw [Answers, Answerable]
      cases hdecode : codec.decode (s.entitlements entitlementId.toNat).serviceType
          (s.entitlements entitlementId.toNat).params with
      | none =>
          have hraised : (c.activate cfg (g.unreliable faults) (liveReader p codec s timestamp) entitlementId actionKind
              nonce signature).1 = .error .raised := by
            rw [Service.activate, readFacts, readView, hget, hdecode]
            rfl
          apply iff_of_false
          · intro h
            rw [hraised] at h
            exact not_named_raised h.1
          · rintro ⟨params, hsome, -⟩
            cases hsome
      | some params =>
          have hreadable := @readable_of_decode T p codec s timestamp entitlementId owner howner params hdecode actionKind
            nonce signature
          simp only [Option.some.injEq, exists_eq_left']
          cases hbefore : firstFailing (checksBefore cfg c ⟨viewOf s entitlementId params, owner, timestamp⟩
              ⟨entitlementId, actionKind, nonce, signature⟩) with
          | some code =>
              obtain ⟨seq, heq⟩ := @activate_denied Devices cfg (g.unreliable faults) c _ _ _ code hreadable hbefore
              refine iff_of_true ⟨?_, fun info hinfo => ?_⟩ fun hnone => by cases hnone
              · rw [heq]
                exact named_denied code
              · rw [heq] at hinfo
                cases hinfo
          | none =>
              have hanswers := @answers_admitted cfg g faults c _ _ _ hreadable hbefore _ rfl
              exact ⟨fun h _ => hanswers.mp h, fun h => hanswers.mpr (h rfl)⟩

end Answers

/-- Ada buys Bell's offer of a service type at time 5. -/
def labTicket (serviceType : Uint8) : List (Nat × Call Msg) :=
  [(5, .entry ⟨ada, ada_ne_zero, .fulfill { labOffer bell with serviceType := serviceType } [1]⟩ [] true)]

def labStorage (serviceType : Uint8) : Storage Registry :=
  (Reentrant.history (settlement labPlatform) (deployed labPlatform) (labTicket serviceType)).1

/-- The answer to the challenge that the lab's service has open. -/
def labAnswered : TicketRequest := .activate "bandwidth" "0x01" (labProof "0x01" 1 (10 + nonceTtlS))

/-- A bandwidth ticket, asked for a challenge, and activated by one call of the provisioner. -/
theorem tickets_are_answered_known :
    Answers labPlatform labCodec (labStorage 0) 10 labConfig labProvisioner (fun _ _ => none) labChallenged 1
        (.challenge "0x02") ∧
      Answers labPlatform labCodec (labStorage 0) 10 labConfig labProvisioner (fun _ _ => none) labChallenged 1
        labAnswered ∧
      (labChallenged.activate labConfig (labProvisioner.unreliable fun _ _ => none)
        (liveReader labPlatform labCodec (labStorage 0) 10) 1 "bandwidth" "0x01"
        (labProof "0x01" 1 (10 + nonceTtlS))).2.net.calls =
          [.applyBandwidth "ent1-a0" (.path labPath) 10000000 0] := by
  have hanswered := tickets_are_answered_iff labPlatform labCodec (labStorage 0) 10 labConfig labProvisioner
    (fun _ _ => none) labChallenged 1 ada rfl
  refine ⟨(hanswered (.challenge "0x02")).mpr rfl, (hanswered labAnswered).mpr ⟨.bandwidth ⟨10000000, 0⟩, rfl, ?_⟩, rfl⟩
  intro _ call hcall
  cases hcall
  trivial

/-- The reader raises for it, and the service lets that through. -/
theorem alien_ticket_raises :
    ¬ ∀ (p : Platform Registry) (codec : Codec) (txs : List (Nat × Call Msg)) (timestamp : Nat) (cfg : Config)
      (g : GnmiProvisioner) (faults : NetCall → Devices → Option (String × Devices)) (c : Service Devices)
      (entitlementId : Int) (owner : Address) (request : TicketRequest),
      System.ownerOf p (Reentrant.history (settlement p) (deployed p) txs).1 entitlementId = .ok owner →
        Answers p codec (Reentrant.history (settlement p) (deployed p) txs).1 timestamp cfg g faults c entitlementId
          request := by
  intro hclaim
  have h := hclaim labPlatform labCodec (labTicket 2) 10 labConfig labProvisioner (fun _ _ => none) labChallenged 1 ada
    (.challenge "0x02") rfl
  exact not_named_raised h

end A2AProvisioning.System
