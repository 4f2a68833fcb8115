import A2AProvisioning.ControllerRuns
import A2AProvisioning.LibraryMachine
import A2AProvisioning.NetworkProvisioner

/-! Ended sessions and what the devices still hold of them. The service records a session as ended
whatever `teardown` on the network answered, so the two agree as long as no teardown of configuration
that is there is answered with a failure. -/

namespace A2AProvisioning.Controller

open Machine Network GnmiProvisioner

/-- An operation, and the provisioner calls that will fail during it. -/
structure Attempt where
  faults : NetCall → Option String
  op : Op

/-- An ended session has no configuration left on any device. -/
def EndedRemoved (g : GnmiProvisioner) (c : Service Devices) : Prop :=
  ∀ sessionId session, c.sessions.get? sessionId = some session →
    session.state = .tornDown ∨ session.state = .failed → ¬ g.Named c.net.state sessionId

/-- No teardown of a session with configuration on a device is going to fail. -/
def Heeded (g : GnmiProvisioner) (c : Service Devices) (attempt : Attempt) : Prop :=
  ∀ sessionId, g.Named c.net.state sessionId → attempt.faults (.teardown sessionId) = none

def attemptStep (cfg : Config) (g : GnmiProvisioner) (c : Service Devices) (attempt : Attempt) :
    Option (Service Devices) :=
  some (c.perform cfg (g.faulty attempt.faults) attempt.op)

section Step

variable {cfg : Config} {g : GnmiProvisioner} {c : Service Devices} {faults : NetCall → Option String}

/-- The invariant between operations. -/
structure Tidy (g : GnmiProvisioner) (c : Service Devices) : Prop where
  keyed : Keyed c
  ended : EndedRemoved g c

/-- The invariant during an operation with these faults. -/
structure Clean (g : GnmiProvisioner) (faults : NetCall → Option String) (c : Service Devices) : Prop
    extends Tidy g c where
  heeded : ∀ sessionId, g.Named c.net.state sessionId → faults (.teardown sessionId) = none

theorem Clean.quiet (h : Clean g faults c) {auth : AuthStore} {seq : Nat} (hseq : c.seq ≤ seq) :
    Clean g faults { c with auth := auth, seq := seq } :=
  ⟨⟨h.keyed.quiet hseq, h.ended⟩, h.heeded⟩

theorem Clean.teardown (h : Clean g faults c) (sessionId : String) :
    Clean g faults (c.teardown (g.faulty faults) sessionId).2 := by
  have hnet := teardown_net (g.faulty faults) c sessionId
  have hshrinks : ∀ other, g.Named (c.teardown (g.faulty faults) sessionId).2.net.state other →
      g.Named c.net.state other := by
    intro other hnamed
    rw [hnet] at hnamed
    exact (named_of_faulty_call _ hnamed).resolve_left fun h => by cases h.1
  have hremoved : ¬ g.Named (c.teardown (g.faulty faults) sessionId).2.net.state sessionId := by
    intro hnamed
    have hheeded := h.heeded sessionId (hshrinks sessionId hnamed)
    rw [hnet] at hnamed
    exact not_named_faulty_teardown hheeded hnamed
  refine ⟨⟨h.keyed.teardown sessionId, ?_⟩, fun other hnamed => h.heeded other (hshrinks other hnamed)⟩
  intro other session hget hended hnamed
  by_cases hother : other = sessionId
  · exact hremoved (hother ▸ hnamed)
  · refine h.ended other session ?_ hended (hshrinks other hnamed)
    rcases teardown_cases (g.faulty faults) c sessionId with ⟨-, heq⟩ | ⟨_, _, -, -, -, heq⟩
    · rw [heq] at hget
      exact hget
    · rw [heq] at hget
      simp only [OrderedDict.get?_insert, if_neg hother] at hget
      exact hget

/-- A session whose apply failed is recorded as failed when its teardown has been called. -/
theorem Clean.activate (h : Clean g faults c) (reader : Reader) (entitlementId : Int)
    (actionKind nonce signature : String) :
    EndedRemoved g (c.activate cfg (g.faulty faults) reader entitlementId actionKind nonce signature).2 := by
  rcases activate_cases cfg (g.faulty faults) c entitlementId actionKind nonce signature reader with
    ⟨seq, auth, -, -, heq⟩ | ⟨facts, plan, -, hgranted, heq⟩
  · rw [heq]
    exact h.ended
  · obtain ⟨call, hcalls, hid, hisApply⟩ := translate_eq_ok hgranted.calls
    rw [hcalls, applyCalls_single] at heq
    have hfresh : c.sessions.get? plan.sessionId = none := hgranted.sessionId ▸ h.keyed.fresh entitlementId
    have happlied : ∀ other, g.Named (c.net.invoke (g.faulty faults) call).2.state other →
        other = plan.sessionId ∨ g.Named c.net.state other := fun other hnamed =>
      (named_of_faulty_call call hnamed).imp_left fun h => h.2.trans hid
    have hcleaned : ∀ other, g.Named
        ((c.net.invoke (g.faulty faults) call).2.invoke (g.faulty faults) (.teardown plan.sessionId)).2.state other →
        g.Named (c.net.invoke (g.faulty faults) call).2.state other := fun other hnamed =>
      (named_of_faulty_call _ hnamed).resolve_left fun h => by cases h.1
    have hold : ∀ other session, c.sessions.get? other = some session →
        session.state = .tornDown ∨ session.state = .failed →
          ¬ g.Named (c.net.invoke (g.faulty faults) call).2.state other := by
      intro other session hget hended hnamed
      rcases happlied other hnamed with rfl | hnamed
      · cases hfresh.symm.trans hget
      · exact h.ended other session hget hended hnamed
    rw [heq]
    rcases record_cases (g.faulty faults) _ hgranted.state
      ((c.net.invoke (g.faulty faults) call).1.map ApplyResult.ok) with
      ⟨-, heq⟩ | ⟨-, -, heq⟩ | ⟨hfailed, -, heq⟩ | ⟨-, heq⟩
    · rw [heq]
      exact hold
    · rw [heq]
      exact fun other session hget hended hnamed => hold other session hget hended (hcleaned other hnamed)
    · rw [heq]
      intro other session hget hended hnamed
      simp only [Service.insertSession, OrderedDict.get?_insert] at hget
      split_ifs at hget with hother
      · have hunchanged : (c.net.invoke (g.faulty faults) call).2.state = c.net.state := by
          refine devices_of_faulty_apply_not_ok hisApply fun result hresult => ?_
          have hsome : (c.net.invoke (g.faulty faults) call).1 = some result := hresult
          rw [hsome, Option.map_some] at hfailed
          exact Option.some.inj hfailed
        have hnamed' := hcleaned other hnamed
        rw [hunchanged, hother] at hnamed'
        rw [hother] at hnamed
        exact not_named_faulty_teardown (h.heeded _ hnamed') hnamed
      · exact hold other session hget hended (hcleaned other hnamed)
    · rw [heq]
      intro other session hget hended hnamed
      simp only [Service.insertSession, OrderedDict.get?_insert] at hget
      split_ifs at hget with hother
      · cases hget
        rcases hended with hstate | hstate <;> cases hstate
      · exact hold other session hget hended hnamed

end Step

theorem Tidy.perform {cfg : Config} {g : GnmiProvisioner} {c : Service Devices} {attempt : Attempt}
    (h : Tidy g c) (hheeded : Heeded g c attempt) :
    Tidy g (c.perform cfg (g.faulty attempt.faults) attempt.op) where
  keyed := h.keyed.perform attempt.op
  ended := perform_invariant (fun _ h => h.ended) (fun _ _ _ hseq h => Clean.quiet h hseq)
    (fun _ _ h => Clean.teardown h _) attempt.op (fun _ _ _ _ _ _ h => Clean.activate h _ _ _ _ _)
    ⟨h, hheeded⟩

/-- In a run in which no teardown of configuration that is there fails, a session that is recorded as
ended has nothing named after it on any device, whatever the devices held at the start. -/
theorem ended_sessions_are_removed (cfg : Config) (g : GnmiProvisioner) (controllerId : String)
    (devices : Devices) (attempts : List Attempt) (c : Service Devices)
    (hheeded : Guarded (attemptStep cfg g) (Heeded g) (Service.start controllerId devices) attempts)
    (hrun : run (attemptStep cfg g) (Service.start controllerId devices) attempts = some c) :
    EndedRemoved g c := by
  have hstart : Tidy g (Service.start controllerId devices) :=
    ⟨keyed_start controllerId devices, fun _ _ hget => by cases hget⟩
  have htidy : Tidy g c := run_invariant (fun s attempt next h hguard hstep => by
    cases hstep
    exact h.perform hguard) hstart hheeded hrun
  exact htidy.ended

/-- Operations during which the listed calls fail. -/
def attemptsOf (failing : List NetCall) (ops : List Op) : List Attempt :=
  ops.map fun op => ⟨fun call => if call ∈ failing then some "unreachable" else none, op⟩

def expiry : List Op := labActivation "0x01" 1 10 ++ [.tick (labReader 100)]

theorem ended_sessions_are_removed_expiry :
    ∃ c, run (attemptStep labConfig labProvisioner) (Service.start "bw-ctrl-1" fun _ => .empty)
        (attemptsOf [] expiry) = some c ∧ EndedRemoved labProvisioner c := by
  refine ⟨_, rfl, ended_sessions_are_removed labConfig labProvisioner "bw-ctrl-1" (fun _ => .empty)
    (attemptsOf [] expiry) _ ?_ rfl⟩
  have hnone : ∀ (ops : List Op) c, Guarded (attemptStep labConfig labProvisioner) (Heeded labProvisioner) c
      (attemptsOf [] ops) := by
    intro ops
    induction ops with
    | nil => exact fun _ => trivial
    | cons op ops ih => exact fun c => ⟨fun _ _ => rfl, fun next _ => ih next⟩
  exact hnone _ _

/-- The expiry of a session while its device does not answer: it is recorded as torn down, and its policer
stays. -/
theorem ended_session_keeps_its_policer :
    ¬ ∀ (cfg : Config) (g : GnmiProvisioner) (controllerId : String) (devices : Devices)
      (attempts : List Attempt) (c : Service Devices),
      run (attemptStep cfg g) (Service.start controllerId devices) attempts = some c → EndedRemoved g c := by
  intro hclaim
  have h := hclaim labConfig labProvisioner "bw-ctrl-1" (fun _ => .empty)
    (attemptsOf [.teardown "ent1-a0"] expiry) _ rfl
  refine h "ent1-a0" ⟨"ent1-a0", 1, .tornDown, 10, 100⟩ rfl (Or.inl rfl) ⟨"srl1", by decide, Or.inl ?_⟩
  rfl

end A2AProvisioning.Controller
