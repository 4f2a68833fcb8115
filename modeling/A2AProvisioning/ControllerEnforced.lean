import A2AProvisioning.ControllerRuns
import A2AProvisioning.LibraryMachine
import A2AProvisioning.NetworkProvisioner

/-! Active bandwidth sessions and what the devices enforce, while every gNMI operation succeeds. A
subinterface has one attachment, and an apply overwrites it: the sessions that share one keep their
policer only if no two of them are active at once. -/

namespace A2AProvisioning.Controller

open Machine Network GnmiProvisioner

/-- The session's template is there with the rate of its call, and the ingress subinterface obeys it. -/
structure Enforced (devices : Devices) (sessionId : String) (path : ResolvedPath) (capacityBps : Nat) : Prop where
  template : ∃ template, (devices path.device).templates.get? (templateName sessionId) = some template ∧
    template.policers.get? 1 = some (policer capacityBps)
  attached : ∃ entry, (devices path.device).interfaces.get? (subif path) = some entry ∧
    entry.policerTemplate = some (templateName sessionId)

/-- Every active session for which bandwidth was applied is enforced. -/
def ActiveEnforced (c : Service Devices) : Prop :=
  ∀ sessionId session resolved capacityBps qosClass, c.sessions.get? sessionId = some session →
    session.state = .active → .applyBandwidth sessionId resolved capacityBps qosClass ∈ c.net.calls →
      ∃ path, resolved = .path path ∧ Enforced c.net.state sessionId path capacityBps

/-- An activation that is going to apply bandwidth finds no active session on the same subinterface. -/
def Unshared (cfg : Config) (c : Service Devices) : Op → Prop
  | .request reader (.activate entitlementId actionKind nonce signature) =>
      ∀ facts plan path capacityBps qosClass, readFacts reader entitlementId = .ok facts →
        Granted cfg c facts entitlementId actionKind nonce signature plan →
        .applyBandwidth plan.sessionId (.path path) capacityBps qosClass ∈ plan.calls →
          ∀ sessionId session path' capacityBps' qosClass', c.sessions.get? sessionId = some session →
            session.state = .active →
            .applyBandwidth sessionId (.path path') capacityBps' qosClass' ∈ c.net.calls →
              ¬ (path'.device = path.device ∧ path'.ingressIf = path.ingressIf)
  | _ => True

def serviceStep (cfg : Config) (g : GnmiProvisioner) (c : Service Devices) (op : Op) : Option (Service Devices) :=
  some (c.perform cfg g.provisioner op)

theorem subif_injective {path path' : ResolvedPath} (h : subif path = subif path') :
    path.ingressIf = path'.ingressIf := by
  have hchars := congrArg String.toList h
  rw [subif, subif, String.toList_append, String.toList_append] at hchars
  exact String.toList_inj.mp (List.append_cancel_right hchars)

section Devices

variable {g : GnmiProvisioner} {devices : Devices} {sessionId other : String} {path : ResolvedPath}
  {capacityBps : Nat}

/-- Tearing one session down leaves the others enforced. -/
theorem Enforced.teardown (h : Enforced devices other path capacityBps) (hne : other ≠ sessionId) :
    Enforced (g.teardown sessionId devices).2 other path capacityBps := by
  have hname : templateName other ≠ templateName sessionId := templateName_injective.ne hne
  obtain ⟨⟨template, hget, hpolicer⟩, entry, hentry, hattached⟩ := h
  by_cases hmem : path.device ∈ g.targets
  · refine ⟨⟨template, ?_, hpolicer⟩, entry, ?_, hattached⟩
    · rw [teardown_devices, if_pos hmem, templates_remove, if_neg hname, hget]
    · rw [teardown_devices, if_pos hmem]
      refine interfaces_remove_of_ne _ _ hentry ?_
      rw [hattached]
      exact fun heq => hname (Option.some.inj heq)
  · refine ⟨⟨template, ?_, hpolicer⟩, entry, ?_, hattached⟩
    · rw [teardown_devices, if_neg hmem, hget]
    · rw [teardown_devices, if_neg hmem, hentry]

/-- What a successful `applyBandwidth` enforces. -/
theorem enforced_of_applyBandwidth {resolved : Resolved} {result : ApplyResult}
    (hcall : (g.applyBandwidth sessionId resolved capacityBps devices).1 = some result)
    (hok : result.ok = true) :
    ∃ path, resolved = .path path ∧
      Enforced (g.applyBandwidth sessionId resolved capacityBps devices).2 sessionId path capacityBps := by
  cases resolved with
  | node node => cases hcall
  | path path =>
      refine ⟨path, rfl, ?_⟩
      by_cases hmem : path.device ∈ g.targets
      · simp only [applyBandwidth, if_pos hmem]
        refine ⟨?_, ⟨some (path.ingressIf, 0), some (templateName sessionId)⟩, ?_, rfl⟩
        · rw [Function.update_self]
          exact Device.exists_policer_updateTemplate _ _ _
        · rw [Function.update_self]
          simp only [Device.updateInterface, OrderedDict.get?_insert, if_pos]
      · simp only [applyBandwidth, if_neg hmem] at hcall
        cases hcall
        cases hok

/-- Applying bandwidth leaves a session on another subinterface enforced. -/
theorem Enforced.applyBandwidth {resolved : Resolved} {capacityBps' : Nat}
    (h : Enforced devices other path capacityBps) (hne : other ≠ sessionId)
    (hunshared : ∀ path', resolved = .path path' →
      ¬ (path.device = path'.device ∧ path.ingressIf = path'.ingressIf)) :
    Enforced (g.applyBandwidth sessionId resolved capacityBps' devices).2 other path capacityBps := by
  cases resolved with
  | node node => exact h
  | path path' =>
      by_cases hmem : path'.device ∈ g.targets
      · simp only [GnmiProvisioner.applyBandwidth, if_pos hmem]
        by_cases hdevice : path.device = path'.device
        · have hsubif : subif path ≠ subif path' :=
            fun heq => hunshared path' rfl ⟨hdevice, subif_injective heq⟩
          have hname : templateName other ≠ templateName sessionId := templateName_injective.ne hne
          obtain ⟨⟨template, hget, hpolicer⟩, entry, hentry, hattached⟩ := h
          refine ⟨⟨template, ?_, hpolicer⟩, entry, ?_, hattached⟩
          · rw [hdevice, Function.update_self]
            simp only [Device.updateInterface, Device.updateTemplate, OrderedDict.get?_insert, if_neg hname]
            rw [← hdevice, hget]
          · rw [hdevice, Function.update_self]
            simp only [Device.updateInterface, Device.updateTemplate, OrderedDict.get?_insert, if_neg hsubif]
            rw [← hdevice, hentry]
        · exact ⟨by rw [Function.update_of_ne hdevice]; exact h.template,
            by rw [Function.update_of_ne hdevice]; exact h.attached⟩
      · simp only [GnmiProvisioner.applyBandwidth, if_neg hmem]
        exact h

/-- A telemetry export touches no policer and no attachment. -/
theorem Enforced.applyTelemetry {target : Resolved} {collectorEndpoint : String}
    (h : Enforced devices other path capacityBps) :
    Enforced (g.applyTelemetry sessionId target collectorEndpoint devices).2 other path capacityBps := by
  have hsame := @applyTelemetry_frame g sessionId target collectorEndpoint devices path.device
  exact ⟨by rw [hsame.1]; exact h.template, by rw [hsame.2]; exact h.attached⟩

/-- An apply for another session, on another subinterface if it is one of bandwidth. -/
theorem Enforced.apply {call : NetCall} (h : Enforced devices other path capacityBps)
    (hne : other ≠ call.sessionId) (hisApply : call.isApply = true)
    (hunshared : ∀ path' capacityBps' qosClass,
      call = .applyBandwidth call.sessionId (.path path') capacityBps' qosClass →
        ¬ (path.device = path'.device ∧ path.ingressIf = path'.ingressIf)) :
    Enforced (g.provisioner.call call devices).2 other path capacityBps := by
  cases call with
  | applyBandwidth sessionId resolved capacityBps' qosClass =>
      refine h.applyBandwidth hne fun path' heq => ?_
      subst heq
      exact hunshared path' capacityBps' qosClass rfl
  | applyTelemetry sessionId target sensorPaths collectorEndpoint sampleIntervalS => exact h.applyTelemetry
  | teardown sessionId => cases hisApply

end Devices

section Step

variable {cfg : Config} {g : GnmiProvisioner} {c : Service Devices}

/-- The invariant: the active sessions are enforced, and every apply so far was for a session id that is
used up. -/
structure Policed (c : Service Devices) : Prop where
  keyed : Keyed c
  issued : ∀ call ∈ c.net.calls, call.isApply = true →
    ∃ entitlementId seq, seq < c.seq ∧ call.sessionId = sessionIdOf entitlementId seq
  enforced : ActiveEnforced c

theorem Policed.quiet (h : Policed c) {auth : AuthStore} {seq : Nat} (hseq : c.seq ≤ seq) :
    Policed { c with auth := auth, seq := seq } where
  keyed := h.keyed.quiet hseq
  issued := fun call hmem hisApply => by
    obtain ⟨entitlementId, seq', hlt, hid⟩ := h.issued call hmem hisApply
    exact ⟨entitlementId, seq', hlt.trans_le hseq, hid⟩
  enforced := h.enforced

theorem mem_calls_of_mem_invoke {p : Provisioner Devices} {net : Net Devices} {call call' : NetCall}
    (hmem : call' ∈ (net.invoke p call).2.calls) : call' ∈ net.calls ∨ call' = call :=
  (List.mem_append.mp hmem).imp_right List.mem_singleton.mp

theorem Policed.teardown (h : Policed c) (sessionId : String) :
    Policed (c.teardown g.provisioner sessionId).2 := by
  have hnet := teardown_net g.provisioner c sessionId
  have hseq : (c.teardown g.provisioner sessionId).2.seq = c.seq := by
    rcases teardown_cases g.provisioner c sessionId with ⟨-, heq⟩ | ⟨_, _, -, -, -, heq⟩
    · rw [heq]
    · rw [heq]
  refine ⟨h.keyed.teardown sessionId, fun call hmem hisApply => ?_, ?_⟩
  · rw [hnet] at hmem
    rw [hseq]
    rcases mem_calls_of_mem_invoke hmem with hmem | rfl
    · exact h.issued call hmem hisApply
    · cases hisApply
  · intro other session resolved capacityBps qosClass hget hactive hcall
    rw [hnet] at hcall ⊢
    have hcall' := (mem_calls_of_mem_invoke hcall).resolve_right (fun heq => by cases heq)
    have hother : c.sessions.get? other = some session ∧ other ≠ sessionId := by
      rcases teardown_cases g.provisioner c sessionId with ⟨hstuck, heq⟩ | ⟨known, state, -, -, hstate, heq⟩
      · rw [heq] at hget
        refine ⟨hget, ?_⟩
        rintro rfl
        rcases hstuck session hget with hraised | htransition
        · cases hraised
        · rw [hactive] at htransition
          cases htransition
      · rw [heq] at hget
        simp only [OrderedDict.get?_insert] at hget
        split_ifs at hget with hid
        · cases hget
          have hstate' : state = .active := hactive
          rw [hstate'] at hstate
          cases (transition_active hstate).2
        · exact ⟨hget, hid⟩
    obtain ⟨path, hpath, henforced⟩ := h.enforced other session resolved capacityBps qosClass hother.1 hactive hcall'
    exact ⟨path, hpath, henforced.teardown hother.2⟩

/-- The state of an activation between the apply and the record. -/
def afterApply (g : GnmiProvisioner) (c : Service Devices) (nonce : String) (call : NetCall) : Service Devices :=
  { c with
    auth := c.auth.burn nonce
    seq := c.seq + 1
    net := (c.net.invoke g.provisioner call).2 }

/-- An apply call for the next session id, on a subinterface of its own. -/
theorem Policed.applied (h : Policed c) (nonce : String) {call : NetCall} {entitlementId : Int}
    (hid : call.sessionId = sessionIdOf entitlementId c.seq) (hisApply : call.isApply = true)
    (hunshared : ∀ path capacityBps qosClass,
      call = .applyBandwidth call.sessionId (.path path) capacityBps qosClass →
        ∀ sessionId session path' capacityBps' qosClass', c.sessions.get? sessionId = some session →
          session.state = .active → .applyBandwidth sessionId (.path path') capacityBps' qosClass' ∈ c.net.calls →
            ¬ (path'.device = path.device ∧ path'.ingressIf = path.ingressIf)) :
    Policed (afterApply g c nonce call) := by
  have hfresh : c.sessions.get? call.sessionId = none := hid ▸ h.keyed.fresh entitlementId
  refine ⟨h.keyed.quiet (Nat.le_succ _), fun call' hmem hisApply' => ?_, ?_⟩
  · rcases mem_calls_of_mem_invoke hmem with hmem | rfl
    · obtain ⟨entitlementId', seq, hlt, hid'⟩ := h.issued call' hmem hisApply'
      exact ⟨entitlementId', seq, Nat.lt_succ_of_lt hlt, hid'⟩
    · exact ⟨entitlementId, c.seq, Nat.lt_succ_self _, hid⟩
  · intro other session resolved capacityBps qosClass hget hactive hcall
    have hother : other ≠ call.sessionId := by
      rintro rfl
      cases hfresh.symm.trans hget
    have hcall' := (mem_calls_of_mem_invoke hcall).resolve_right
      (fun heq => hother (congrArg NetCall.sessionId heq))
    obtain ⟨path, rfl, henforced⟩ := h.enforced other session resolved capacityBps qosClass hget hactive hcall'
    refine ⟨path, rfl, henforced.apply hother hisApply fun path' capacityBps' qosClass' heq => ?_⟩
    exact hunshared path' capacityBps' qosClass' heq other session path capacityBps qosClass hget hactive hcall'

/-- The one apply call of a fresh session id is the last call. -/
theorem Policed.eq_of_mem_calls (h : Policed c) {call call' : NetCall} {entitlementId : Int}
    (hid : call.sessionId = sessionIdOf entitlementId c.seq) (hisApply' : call'.isApply = true)
    (hsame : call'.sessionId = call.sessionId)
    (hmem : call' ∈ (c.net.invoke g.provisioner call).2.calls) : call' = call := by
  refine (mem_calls_of_mem_invoke hmem).resolve_left fun hmem => ?_
  obtain ⟨entitlementId', seq, hlt, hid'⟩ := h.issued call' hmem hisApply'
  exact absurd (sessionIdOf_injective ((hid'.symm.trans hsame).trans hid)) (by omega)

theorem Policed.activate (h : Policed c) (reader : Reader) (entitlementId : Int)
    (actionKind nonce signature : String)
    (hunshared : Unshared cfg c (.request reader (.activate entitlementId actionKind nonce signature))) :
    Policed (c.activate cfg g.provisioner reader entitlementId actionKind nonce signature).2 := by
  rcases activate_cases cfg g.provisioner c entitlementId actionKind nonce signature reader with
    ⟨seq, auth, hseq, -, heq⟩ | ⟨facts, plan, hfacts, hgranted, heq⟩
  · rw [heq]
    exact h.quiet hseq
  · obtain ⟨call, hcalls, hid, hisApply⟩ := translate_eq_ok hgranted.calls
    have hsessionId : call.sessionId = sessionIdOf entitlementId c.seq := hid.trans hgranted.sessionId
    have hbase : Policed (afterApply g c nonce call) := by
      refine h.applied nonce hsessionId hisApply fun path capacityBps qosClass hcall => ?_
      refine hunshared facts plan path capacityBps qosClass hfacts hgranted ?_
      rw [hcalls, List.mem_singleton, hcall, ← hid]
    have hplan : plan.sessionId = sessionIdOf plan.entitlementId c.seq := by
      rw [hgranted.sessionId, hgranted.entitlementId]
    rw [hcalls, applyCalls_single] at heq
    rw [heq]
    change Policed (Service.record g.provisioner (afterApply g c nonce call) plan
      ((c.net.invoke g.provisioner call).1.map ApplyResult.ok)).2
    rcases record_cases g.provisioner (afterApply g c nonce call) hgranted.state
      ((c.net.invoke g.provisioner call).1.map ApplyResult.ok) with
      ⟨-, heq⟩ | ⟨-, hraised, -⟩ | ⟨-, -, heq⟩ | ⟨happlied, heq⟩
    · rw [heq]
      exact hbase
    · cases hraised
    · rw [heq]
      refine ⟨(hbase.keyed.quiet le_rfl).insertSession (Nat.lt_succ_self _) hplan .failed,
        fun call' hmem hisApply' => ?_, ?_⟩
      · rcases mem_calls_of_mem_invoke hmem with hmem | rfl
        · exact hbase.issued call' hmem hisApply'
        · cases hisApply'
      · intro other session resolved capacityBps qosClass hget hactive hcall
        simp only [Service.insertSession, OrderedDict.get?_insert] at hget
        split_ifs at hget with hother
        · cases hget
          cases hactive
        · have hcall' := (mem_calls_of_mem_invoke hcall).resolve_right (fun heq => by cases heq)
          obtain ⟨path, hpath, henforced⟩ :=
            hbase.enforced other session resolved capacityBps qosClass hget hactive hcall'
          exact ⟨path, hpath, henforced.teardown hother⟩
    · rw [heq]
      refine ⟨hbase.keyed.insertSession (Nat.lt_succ_self _) hplan .active, hbase.issued, ?_⟩
      intro other session resolved capacityBps qosClass hget hactive hcall
      simp only [Service.insertSession, OrderedDict.get?_insert] at hget
      split_ifs at hget with hother
      · obtain ⟨result, hresult, hok⟩ := Option.map_eq_some_iff.mp happlied
        have heq : .applyBandwidth other resolved capacityBps qosClass = call :=
          h.eq_of_mem_calls hsessionId rfl (hother.trans hid.symm) hcall
        subst heq
        exact enforced_of_applyBandwidth hresult hok
      · exact hbase.enforced other session resolved capacityBps qosClass hget hactive hcall

theorem Policed.perform (h : Policed c) {op : Op} (hunshared : Unshared cfg c op) :
    Policed (c.perform cfg g.provisioner op) :=
  perform_invariant (fun _ h => h) (fun _ _ _ hseq h => h.quiet hseq) (fun _ _ h => h.teardown _) op
    (fun _ _ _ _ _ heq h => h.activate _ _ _ _ _ (heq ▸ hunshared)) h

end Step

/-- In a run in which no activation applies bandwidth to a subinterface that an active session uses, every
active session is enforced, whatever the devices held at the start. -/
theorem active_sessions_are_enforced (cfg : Config) (g : GnmiProvisioner) (controllerId : String)
    (devices : Devices) (ops : List Op) (c : Service Devices)
    (hunshared : Guarded (serviceStep cfg g) (Unshared cfg) (Service.start controllerId devices) ops)
    (hrun : run (serviceStep cfg g) (Service.start controllerId devices) ops = some c) :
    ActiveEnforced c := by
  have hstart : Policed (Service.start controllerId devices) :=
    ⟨keyed_start controllerId devices, fun _ hmem => absurd hmem List.not_mem_nil,
      fun _ _ _ _ _ hget => by cases hget⟩
  have hpoliced : Policed c := run_invariant (fun s op next h hguard hstep => by
    cases hstep
    exact h.perform hguard) hstart hunshared hrun
  exact hpoliced.enforced

/-- Resource 1 enters at one interface of the device, every other resource at another. -/
def twoPaths : Config :=
  { labConfig with
    resourceMap := fun resourceId =>
      some (.path (if resourceId = 1 then labPath else ⟨"srl1", "ethernet-1/3", "ethernet-1/2"⟩)) }

/-- The chain at a time, with a resource of its own for entitlement 1. -/
def twoPathReader (now : Nat) : Reader :=
  { labReader now with
    get := fun entitlementId =>
      .ok { labView entitlementId 10000000 with resourceId := if entitlementId = 1 then 1 else 2 } }

/-- Both entitlements are activated, and the session of the first is torn down. -/
def twoSessions : List Op :=
  [.request (twoPathReader 10) (.challenge 1 "0x01"),
    .request (twoPathReader 10) (.activate 1 "bandwidth" "0x01" (labProof "0x01" 1 (10 + nonceTtlS))),
    .request (twoPathReader 20) (.challenge 2 "0x02"),
    .request (twoPathReader 20) (.activate 2 "bandwidth" "0x02" (labProof "0x02" 2 (20 + nonceTtlS))),
    .teardown "ent1-a0"]

theorem active_sessions_are_enforced_two :
    ∃ c, run (serviceStep twoPaths labProvisioner) (Service.start "bw-ctrl-1" fun _ => .empty) twoSessions = some c ∧
      c.activeIds = [2] ∧ ActiveEnforced c := by
  refine ⟨_, rfl, rfl, active_sessions_are_enforced twoPaths labProvisioner "bw-ctrl-1" (fun _ => .empty)
    twoSessions _ ?_ rfl⟩
  refine Guarded.cons trivial rfl (Guarded.cons ?_ rfl (Guarded.cons trivial rfl (Guarded.cons ?_ rfl
    (Guarded.cons trivial rfl trivial))))
  · intro facts plan path capacityBps qosClass _ _ _ sessionId session path' capacityBps' qosClass' hget
    cases hget
  · intro facts plan path capacityBps qosClass hfacts hgranted hcall sessionId session path' capacityBps' qosClass' _ _
      hcall' hshared
    cases hfacts
    have hcalls : Except.ok [.applyBandwidth plan.sessionId (.path ⟨"srl1", "ethernet-1/3", "ethernet-1/2"⟩) 10000000 0] =
        Except.ok plan.calls := hgranted.calls
    rw [← Except.ok.inj hcalls] at hcall
    have hearlier : NetCall.applyBandwidth sessionId (.path path') capacityBps' qosClass' ∈
        [.applyBandwidth "ent1-a0" (.path labPath) 10000000 0] := hcall'
    cases List.mem_singleton.mp hcall
    cases List.mem_singleton.mp hearlier
    exact absurd hshared.2 (by decide)

/-- Two tickets for one resource: the second activation takes over the attachment of the first, whose
session stays active. -/
theorem active_session_loses_its_attachment :
    ¬ ∀ (cfg : Config) (g : GnmiProvisioner) (controllerId : String) (devices : Devices) (ops : List Op)
      (c : Service Devices),
      run (serviceStep cfg g) (Service.start controllerId devices) ops = some c → ActiveEnforced c := by
  intro hclaim
  have h := hclaim labConfig labProvisioner "bw-ctrl-1" (fun _ => .empty)
    (labActivation "0x01" 1 10 ++ labActivation "0x02" 2 20) _ rfl
  obtain ⟨path, hpath, -, entry, hentry, hattached⟩ := h "ent1-a0" ⟨"ent1-a0", 1, .active, 10, 100⟩
    (.path labPath) 50000000 0 rfl rfl (by decide)
  cases hpath
  have hget : some (⟨some ("ethernet-1/1", 0), some "a2a-ent2-a1"⟩ : QosInterface) = some entry := hentry
  cases hget
  exact absurd hattached (by decide)

end A2AProvisioning.Controller
