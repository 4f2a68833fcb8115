import A2AProvisioning.ControllerPorts
import A2AProvisioning.ControllerLifecycle
import A2AProvisioning.NetworkMock

/-! The service over `MockProvisioner`, as its tests and the demo run it, against the same service over the
routers. No caller can tell them apart while the calls are such as the routers take; and what the mock makes easy to
see, that a session is on the network while it is active, holds of the routers then. -/

namespace A2AProvisioning.Controller

open Network GnmiProvisioner Lockstep

variable {cfg : Config}

/-- What the mock and the routers have in common. -/
theorem mock_alike (g : GnmiProvisioner) :
    MockProvisioner.provisioner.Alike g.provisioner g.Mirrors g.Takes where
  answers call m devices htakes _ := by
    have hmock : (MockProvisioner.provisioner.call call m).1.any ApplyResult.ok = true := MockProvisioner.call_ok call m
    have hreal := (provisioner_ok_iff call devices).mpr htakes
    obtain ⟨result, hresult, hok⟩ := (Option.any_eq_true _ _).mp hmock
    obtain ⟨result', hresult', hok'⟩ := (Option.any_eq_true _ _).mp hreal
    rw [hresult, hresult', Option.map_some, Option.map_some, hok, hok']
  states _ _ _ htakes h := h.call htakes
  teardown _ := trivial

/-- Service by service, over a run. -/
theorem respond_trace {N N' : Type} {p : Provisioner N} {p' : Provisioner N'} {related : N → N' → Prop}
    {allowed : NetCall → Prop} (hp : p.Alike p' related allowed) {ops : List Op}
    (hallowed : ∀ op ∈ ops, op.Allowed cfg allowed) {c : Service N} {c' : Service N'} (h : Service.Alike related c c') :
    List.Forall₂ (SameAnswer related) (trace (fun op c => c.respond cfg p op) c ops)
      (trace (fun op c => c.respond cfg p' op) c' ops) := by
  apply trace_simulates (fun _ => Service.Alike related) ?_ h
  intro op hmem _ c c' h
  have hsame := h.respond hp (hallowed op hmem)
  exact ⟨hsame, hsame.states⟩

/-- In every run of operations whose calls the routers take, from routers without a node of any session, a service
over the mock and one over the routers answer every operation alike, and have the same sessions, nonces and provisioner
calls after it; the record of the mock stays a view of the routers. -/
theorem mock_serves_as_routers (cfg : Config) (g : GnmiProvisioner) (controllerId : String) (devices : Devices)
    (hclean : ∀ sessionId, ¬ g.Named devices sessionId) (ops : List Op) (htaken : ∀ op ∈ ops, op.Allowed cfg g.Takes) :
    List.Forall₂ (SameAnswer g.Mirrors)
      (trace (fun op c => c.respond cfg MockProvisioner.provisioner op) (Service.start controllerId .new) ops)
      (trace (fun op c => c.respond cfg g.provisioner op) (Service.start controllerId devices) ops) :=
  respond_trace (mock_alike g) htaken ⟨⟨mirrors_new hclean, rfl⟩, rfl, rfl, rfl⟩

/-- Entitlement 1 on the one path there is, until it expires. -/
def labExpiry : List Op := labActivation "0x01" 1 10 ++ [.tick (labReader 100)]

theorem labExpiry_allowed : ∀ op ∈ labExpiry, op.Allowed labConfig labProvisioner.Takes := by
  intro op hmem
  simp only [labExpiry, labActivation, List.mem_append, List.mem_cons, List.not_mem_nil, or_false] at hmem
  rcases hmem with (rfl | rfl) | rfl
  · trivial
  · intro view sessionId calls hview hcalls call hmem
    cases hview
    cases hcalls
    cases List.mem_singleton.mp hmem
    exact ⟨⟨labPath, rfl⟩, List.mem_singleton_self "srl1"⟩
  · trivial

theorem mock_serves_as_routers_expiry :
    List.Forall₂ (SameAnswer labProvisioner.Mirrors)
      (trace (fun op c => c.respond labConfig MockProvisioner.provisioner op) (Service.start "bw-ctrl-1" .new) labExpiry)
      (trace (fun op c => c.respond labConfig labProvisioner.provisioner op)
        (Service.start "bw-ctrl-1" fun _ => .empty) labExpiry) :=
  mock_serves_as_routers labConfig labProvisioner "bw-ctrl-1" (fun _ => .empty) (not_named_empty labProvisioner)
    labExpiry labExpiry_allowed

/-- The sessions on record are the active ones, each with what it was applied with. -/
structure Recorded (c : Service MockProvisioner) : Prop where
  active : ∀ sessionId, (c.net.state.applied.get? sessionId).isSome = true ↔
    ∃ session, c.ActiveAt sessionId session
  called : ∀ sessionId applied, c.net.state.applied.get? sessionId = some applied →
    ∃ call ∈ c.net.calls, call.sessionId = sessionId ∧ Applied.ofCall call = some applied

theorem recorded_start (controllerId : String) : Recorded (Service.start controllerId .new) where
  active _ := iff_of_false Bool.false_ne_true fun ⟨_, hget, _⟩ => by cases hget
  called _ _ h := by cases h

variable {c : Service MockProvisioner}

/-- A call of the service is on record with what it applied. -/
theorem called_invoke {net : Net MockProvisioner} (call : NetCall)
    (h : ∀ sessionId applied, net.state.applied.get? sessionId = some applied →
      ∃ call ∈ net.calls, call.sessionId = sessionId ∧ Applied.ofCall call = some applied)
    (sessionId : String) (applied : Applied)
    (hget : (net.invoke MockProvisioner.provisioner call).2.state.applied.get? sessionId = some applied) :
    ∃ called ∈ (net.invoke MockProvisioner.provisioner call).2.calls,
      called.sessionId = sessionId ∧ Applied.ofCall called = some applied := by
  rcases MockProvisioner.applied_of_call hget with ⟨hid, hcall⟩ | hget
  · exact ⟨call, List.mem_append_right _ List.mem_cons_self, hid, hcall⟩
  · obtain ⟨called, hmem, hcalled⟩ := h sessionId applied hget
    exact ⟨called, List.mem_append_left _ hmem, hcalled⟩

/-- A teardown ends the session and takes it off the record. -/
theorem Recorded.teardown (h : Recorded c) (sessionId : String) :
    Recorded (c.teardown MockProvisioner.provisioner sessionId).2 := by
  have hnet := teardown_net MockProvisioner.provisioner c sessionId
  have hsettles := teardown_settles MockProvisioner.provisioner c sessionId
  refine ⟨fun other => ?_, by rw [hnet]; exact called_invoke (.teardown sessionId) h.called⟩
  have happlied : (c.teardown MockProvisioner.provisioner sessionId).2.net.state.applied =
      c.net.state.applied.erase sessionId := by
    rw [hnet]
    rfl
  rw [happlied, OrderedDict.get?_erase]
  rcases teardown_cases MockProvisioner.provisioner c sessionId with
    ⟨hstays, heq⟩ | ⟨session, state, hget, -, htransition, heq⟩
  · split_ifs with hother
    · refine iff_of_false Bool.false_ne_true ?_
      rintro ⟨session, hactive⟩
      obtain ⟨hget, hstate⟩ := hsettles.active other session hactive
      rcases hstays session (hother ▸ hget) with hnone | hnone
      · cases hnone
      · rw [hstate] at hnone
        cases hnone
    · rw [h.active other, heq]
      rfl
  · rw [heq]
    split_ifs with hother
    · refine iff_of_false Bool.false_ne_true ?_
      rintro ⟨session', hget', hstate'⟩
      simp only [OrderedDict.get?_insert, if_pos hother] at hget'
      cases hget'
      exact teardown_not_active htransition hstate'
    · rw [h.active other]
      simp only [Service.ActiveAt, OrderedDict.get?_insert, if_neg hother]

/-- An activation that goes through is on record, as the one call that it translates to. -/
theorem Recorded.activate (h : Recorded c) (reader : Reader) (entitlementId : Int)
    (actionKind nonce signature : String) :
    Recorded (c.activate cfg MockProvisioner.provisioner reader entitlementId actionKind nonce signature).2 := by
  rcases activate_cases cfg MockProvisioner.provisioner c entitlementId actionKind nonce signature reader with
    ⟨seq, auth, -, -, heq⟩ | ⟨facts, plan, -, hgranted, heq⟩
  · rw [heq]
    exact ⟨h.active, h.called⟩
  · obtain ⟨call, hcalls, hid, hisApply⟩ := translate_eq_ok hgranted.calls
    have hok : (c.net.invoke MockProvisioner.provisioner call).1.map ApplyResult.ok = some true :=
      congrArg some (MockProvisioner.call_ok call c.net.state)
    rw [hcalls, applyCalls_single, hok] at heq
    have hrecord : ∀ other, ((c.net.invoke MockProvisioner.provisioner call).2.state.applied.get? other).isSome = true ↔
        other = plan.sessionId ∨ (c.net.state.applied.get? other).isSome = true := by
      intro other
      rw [← hid]
      exact MockProvisioner.applied_call hisApply c.net.state other
    rw [heq]
    rcases record_cases MockProvisioner.provisioner _ hgranted.state (some true) with
      ⟨hnone, -⟩ | ⟨hfalse, -⟩ | ⟨hfalse, -⟩ | ⟨-, heq⟩
    · cases hnone
    · cases hfalse
    · cases hfalse
    · rw [heq]
      refine ⟨fun other => (hrecord other).trans ?_, called_invoke call h.called⟩
      rw [h.active other]
      simp only [Service.ActiveAt, Service.insertSession, OrderedDict.get?_insert]
      split_ifs with hother
      · exact iff_of_true (Or.inl hother) ⟨_, rfl, rfl⟩
      · exact or_iff_right hother

theorem Recorded.perform (h : Recorded c) (op : Op) : Recorded (c.perform cfg MockProvisioner.provisioner op) :=
  perform_invariant (fun _ h => h) (fun _ _ _ _ h => ⟨h.active, h.called⟩) (fun _ _ h => h.teardown _) op
    (fun _ _ _ _ _ _ h => h.activate _ _ _ _ _) h

/-- A service touches the network by calls alone: what every call keeps, every operation keeps. -/
theorem perform_net {N : Type} {p : Provisioner N} {inv : Net N → Prop}
    (hinvoke : ∀ net call, inv net → inv (net.invoke p call).2) {c : Service N} (h : inv c.net) (op : Op) :
    inv (c.perform cfg p op).net := by
  refine @perform_invariant N cfg p c (fun c => inv c.net) (fun c => inv c.net) (fun _ h => h) (fun _ _ _ _ h => h)
    (fun c sessionId h => ?_) op (fun reader entitlementId actionKind nonce signature _ h => ?_) h
  · rw [teardown_net]
    exact hinvoke _ _ h
  · rcases activate_cases cfg p c entitlementId actionKind nonce signature reader with
      ⟨seq, auth, -, -, heq⟩ | ⟨facts, plan, -, hgranted, heq⟩
    · rw [heq]
      exact h
    · obtain ⟨call, hcalls, -, -⟩ := translate_eq_ok hgranted.calls
      have hcall := hinvoke _ call h
      rw [hcalls, applyCalls_single] at heq
      rw [heq]
      rcases record_cases p _ hgranted.state ((c.net.invoke p call).1.map ApplyResult.ok) with
        ⟨-, heq⟩ | ⟨-, -, heq⟩ | ⟨-, -, heq⟩ | ⟨-, heq⟩
      · rw [heq]
        exact hcall
      · rw [heq]
        exact hinvoke _ _ hcall
      · rw [heq]
        exact hinvoke _ _ hcall
      · rw [heq]
        exact hcall

theorem performAll_net {N : Type} {p : Provisioner N} {inv : Net N → Prop}
    (hinvoke : ∀ net call, inv net → inv (net.invoke p call).2) {c : Service N} (h : inv c.net) (ops : List Op) :
    inv (c.performAll cfg p ops).net := by
  induction ops using List.reverseRecOn with
  | nil => exact h
  | append_singleton ops op ih =>
      rw [Service.performAll_snoc]
      exact perform_net hinvoke ih op

/-- The routers of a service that were told nothing they do not take: what is on them is what is active, and a
subinterface has the policer of the session that it belongs to. -/
structure OnNetwork (g : GnmiProvisioner) (c : Service Devices) : Prop where
  named : ∀ sessionId, g.Named c.net.state sessionId ↔ ∃ session, c.ActiveAt sessionId session
  holds : ∀ sessionId session, c.ActiveAt sessionId session →
    ∃ call ∈ c.net.calls, ∃ applied, call.sessionId = sessionId ∧ Applied.ofCall call = some applied ∧
      g.Holds c.net.state sessionId applied
  attached : g.Attaches c.net.calls c.net.state

theorem Recorded.onNetwork {g : GnmiProvisioner} {c' : Service Devices} (h : Recorded c)
    (halike : Service.Alike g.Mirrors c c') (hattaches : g.Attaches c'.net.calls c'.net.state) : OnNetwork g c' := by
  have hactive : ∀ sessionId, (∃ session, c'.ActiveAt sessionId session) ↔
      (c.net.state.applied.get? sessionId).isSome = true := by
    intro sessionId
    rw [h.active sessionId]
    simp only [Service.ActiveAt, halike.sessions]
  refine ⟨fun sessionId => ?_, fun sessionId session hsession => ?_, hattaches⟩
  · rw [hactive, halike.net.state.named]
  · obtain ⟨applied, happlied⟩ := Option.isSome_iff_exists.mp ((hactive sessionId).mp ⟨session, hsession⟩)
    obtain ⟨call, hmem, hid, hcall⟩ := h.called sessionId applied happlied
    exact ⟨call, halike.net.calls ▸ hmem, applied, hid, hcall, (halike.net.state.holds sessionId applied happlied).2⟩

/-- The mock beside the routers, over a run. -/
theorem recorded_alike (cfg : Config) (g : GnmiProvisioner) (controllerId : String) (devices : Devices)
    (hclean : ∀ sessionId, ¬ g.Named devices sessionId) (ops : List Op) (htaken : ∀ op ∈ ops, op.Allowed cfg g.Takes) :
    Recorded ((Service.start controllerId .new).performAll cfg MockProvisioner.provisioner ops) ∧
      Service.Alike g.Mirrors ((Service.start controllerId .new).performAll cfg MockProvisioner.provisioner ops)
        ((Service.start controllerId devices).performAll cfg g.provisioner ops) := by
  induction ops using List.reverseRecOn with
  | nil => exact ⟨recorded_start controllerId, ⟨mirrors_new hclean, rfl⟩, rfl, rfl, rfl⟩
  | append_singleton ops op ih =>
      obtain ⟨hrecorded, halike⟩ := ih fun op hmem => htaken op (List.mem_append_left _ hmem)
      have hsame := halike.respond (mock_alike g) (htaken op (List.mem_append_right _ List.mem_cons_self))
      rw [Service.performAll_snoc, Service.performAll_snoc]
      refine ⟨hrecorded.perform op, ?_⟩
      rw [← respond_snd, ← respond_snd]
      exact hsame.states

/-- The attachments are where the calls of the service have put them. -/
theorem attaches_performAll {g : GnmiProvisioner} {devices : Devices} (hclean : ∀ sessionId, ¬ g.Named devices sessionId)
    (controllerId : String) (ops : List Op) :
    g.Attaches ((Service.start controllerId devices).performAll cfg g.provisioner ops).net.calls
      ((Service.start controllerId devices).performAll cfg g.provisioner ops).net.state :=
  @performAll_net cfg Devices g.provisioner (fun net => g.Attaches net.calls net.state) (fun _ call h => h.call call)
    (Service.start controllerId devices) (attaches_nil hclean) ops

/-- After every run of operations whose calls the routers take, from routers without a node of any session, a node
is named after a session exactly while the session is active, and the router holds for it what it was applied with:
no other session, and no teardown of another, has taken it away. An interface is attached to the session that was
applied on it last, until that one ends. -/
theorem active_sessions_are_on_the_network (cfg : Config) (g : GnmiProvisioner) (controllerId : String)
    (devices : Devices) (hclean : ∀ sessionId, ¬ g.Named devices sessionId) (ops : List Op)
    (htaken : ∀ op ∈ ops, op.Allowed cfg g.Takes) :
    OnNetwork g ((Service.start controllerId devices).performAll cfg g.provisioner ops) := by
  obtain ⟨hrecorded, halike⟩ := recorded_alike cfg g controllerId devices hclean ops htaken
  exact hrecorded.onNetwork halike (attaches_performAll hclean controllerId ops)

theorem active_sessions_are_on_the_network_expiry :
    OnNetwork labProvisioner ((Service.start "bw-ctrl-1" fun _ => .empty).performAll labConfig
      labProvisioner.provisioner labExpiry) :=
  active_sessions_are_on_the_network labConfig labProvisioner "bw-ctrl-1" (fun _ => .empty)
    (not_named_empty labProvisioner) labExpiry labExpiry_allowed

end A2AProvisioning.Controller
