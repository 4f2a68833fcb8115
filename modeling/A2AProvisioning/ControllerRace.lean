import A2AProvisioning.ControllerBooking

/-! An activation against a revocation. `handle_revoked` ends what it finds in the session table, and the
event comes once; a session that is recorded after the scan, from a view read before the revocation, is
not found. The scan ends every session there will be if no plan for the entitlement is in hand at that
moment and none is made from an old view later. -/

namespace A2AProvisioning.Controller

open Machine

variable {N : Type} {cfg : Config} {p : Provisioner N} {terms : Int → EntitlementView} {s next : Threads N}

/-- Once its event has been handled, and no activation is under way, no session of a revoked entitlement is
active. -/
def RevokedEnded (s : Threads N) : Prop :=
  ∀ entitlementId ∈ s.handled, (∀ call, s.calls call = .idle) →
    ∀ sessionId session, s.service.ActiveAt sessionId session → session.entitlementId ≠ entitlementId

/-- The scan for an entitlement is made while no call for it is between its check and its record, and no
check after the scan lets a request for it through. -/
def ScannedApart (cfg : Config) (s : Threads N) : Step → Prop
  | .handleScan => ∀ entitlementId, s.watcher = some entitlementId →
      ∀ call plan, s.Holds call plan → plan.entitlementId ≠ entitlementId
  | .check call => ∀ request facts, s.calls call = .ready request facts → Passes cfg s.service request facts →
      request.entitlementId ∉ s.handled
  | _ => True

/-- Neither an active session nor a plan in hand is for an entitlement whose event has been handled. -/
structure Cleared (s : Threads N) : Prop extends Allocated s where
  plans : ∀ call plan, s.Holds call plan → plan.entitlementId ∉ s.handled
  sessions : ∀ sessionId session, s.service.ActiveAt sessionId session → session.entitlementId ∉ s.handled

theorem Cleared.revokedEnded (h : Cleared s) : RevokedEnded s :=
  fun _ hmem _ sessionId session hactive heq => h.sessions sessionId session hactive (heq ▸ hmem)

theorem Cleared.calm (h : Cleared s) (hcalm : Calm terms s next) (hhandled : next.handled = s.handled) :
    Cleared next where
  toAllocated := h.toAllocated.calm hcalm
  plans := fun call plan hholds => hhandled ▸ h.plans call plan (hcalm.holds call plan hholds)
  sessions := fun sessionId session hactive =>
    hhandled ▸ h.sessions sessionId session (hcalm.settles.active sessionId session hactive)

theorem Cleared.planned (h : Cleared s) {call : Nat} {request : Activation} {facts : Facts} {plan : Plan}
    (hgranted : Granted cfg s.service facts request.entitlementId request.actionKind request.nonce
      request.signature plan)
    (hapart : request.entitlementId ∉ s.handled) :
    Cleared (s.grant call request.nonce plan) := by
  refine ⟨h.toAllocated.planned hgranted, fun other plan' hholds => ?_, h.sessions⟩
  rcases holds_grant hholds with ⟨-, rfl⟩ | ⟨-, hheld⟩
  · rw [hgranted.entitlementId]
    exact hapart
  · exact h.plans other plan' hheld

theorem Cleared.recorded (h : Cleared s) {call : Nat} {plan : Plan} {applied : Option Bool}
    (happlied : s.calls call = .applied plan applied) : Cleared (s.record p call plan applied) := by
  have hholding : s.Holds call plan := by rw [Threads.Holds, happlied]; rfl
  refine ⟨h.toAllocated.recorded happlied, fun other plan' hholds => ?_, fun sessionId session hactive => ?_⟩
  · exact h.plans other plan' (holds_record hholds).2
  · rcases active_record (h.state call plan hholding) hactive with ⟨-, hid⟩ | hold
    · rw [hid]
      exact h.plans call plan hholding
    · exact h.sessions sessionId session hold

theorem Cleared.scanned (h : Cleared s) (hanswers : p.Answers) {entitlementId : Int}
    (hcalm : Calm terms s (s.scan p entitlementId))
    (hapart : ∀ call plan, s.Holds call plan → plan.entitlementId ≠ entitlementId) :
    Cleared (s.scan p entitlementId) where
  toAllocated := h.toAllocated.calm hcalm
  plans := fun call plan hholds hmem => by
    rcases List.mem_cons.mp hmem with heq | hmem
    · exact hapart call plan hholds heq
    · exact h.plans call plan hholds hmem
  sessions := fun sessionId session hactive hmem => by
    rcases List.mem_cons.mp hmem with heq | hmem
    · exact endRevoked_ends hanswers h.keyed hactive heq
    · exact h.sessions sessionId session (hcalm.settles.active sessionId session hactive) hmem

theorem Cleared.step (h : Cleared s) (hanswers : p.Answers) {a : Step} (hguard : ScannedApart cfg s a)
    (heffect : Effect cfg p terms s a next) : Cleared next := by
  cases heffect with
  | calm _ _ hcalm hhandled => exact h.calm hcalm hhandled
  | planned call request facts plan hready hgranted =>
      exact h.planned hgranted (hguard request facts hready hgranted.passes)
  | recorded call plan applied happlied => exact h.recorded happlied
  | scanned entitlementId hwatcher hcalm => exact h.scanned hanswers hcalm (hguard entitlementId hwatcher)

/-- In a run in which the scans stand apart from the activations, a handled revocation has ended every
session of its entitlement. -/
theorem handled_revocations_end_sessions (cfg : Config) (p : Provisioner N) (hanswers : p.Answers)
    (terms : Int → EntitlementView) (controllerId : String) (n : N) (steps : List Step) (s : Threads N)
    (hapart : Guarded (Threads.step cfg p terms) (ScannedApart cfg) (Threads.start controllerId n) steps)
    (hrun : run (Threads.step cfg p terms) (Threads.start controllerId n) steps = some s) : RevokedEnded s := by
  have hstart : Cleared (Threads.start controllerId n) :=
    ⟨allocated_start controllerId n, fun _ _ _ => List.not_mem_nil, fun _ _ _ => List.not_mem_nil⟩
  have hcleared : Cleared s := run_invariant
    (fun _ _ _ h hguard hstep => h.step hanswers hguard (step_effect hstep)) hstart hapart hrun
  exact hcleared.revokedEnded

/-- Entitlement 1 is activated, revoked and handled. -/
def activatedFirst : List Step :=
  labChallenge "0x01" 1 10 :: labReads 0 "0x01" 1 10 ++
    [.check 0, .apply 0, .record 0, .revoke 1, .handleRead 1, .handleScan]

open Network in
theorem handled_revocations_end_sessions_one :
    ∃ s, run (Threads.step labConfig labProvisioner.provisioner labSold)
        (Threads.start "bw-ctrl-1" fun _ => .empty) activatedFirst = some s ∧ s.handled = [1] ∧ RevokedEnded s := by
  refine ⟨_, rfl, rfl, handled_revocations_end_sessions labConfig labProvisioner.provisioner (fun _ _ => rfl) labSold
    "bw-ctrl-1" (fun _ => .empty) activatedFirst _ ?_ rfl⟩
  refine Guarded.cons trivial rfl (Guarded.cons trivial rfl (Guarded.cons trivial rfl (Guarded.cons trivial rfl
    (Guarded.cons ?_ rfl (Guarded.cons trivial rfl (Guarded.cons trivial rfl (Guarded.cons trivial rfl
      (Guarded.cons trivial rfl (Guarded.cons ?_ rfl trivial)))))))))
  · exact fun _ _ _ _ => List.not_mem_nil
  · intro entitlementId _ call plan hholds
    rcases call with _ | call
    · cases hholds
    · cases hholds

open Network in
/-- The revocation comes, and is handled, between the provisioner call of an activation and its record. -/
theorem revoked_session_recorded :
    ¬ ∀ (cfg : Config) (p : Provisioner Devices), p.Answers → ∀ (terms : Int → EntitlementView)
      (controllerId : String) (devices : Devices) (steps : List Step) (s : Threads Devices),
      run (Threads.step cfg p terms) (Threads.start controllerId devices) steps = some s → RevokedEnded s := by
  intro hclaim
  have h := hclaim labConfig labProvisioner.provisioner (fun _ _ => rfl) labSold "bw-ctrl-1" (fun _ => .empty)
    (labChallenge "0x01" 1 10 :: labReads 0 "0x01" 1 10 ++
      [.check 0, .apply 0, .revoke 1, .handleRead 1, .handleScan, .record 0]) _ rfl
  refine h 1 (by decide) (fun call => ?_) "ent1-a0" ⟨"ent1-a0", 1, .active, 10, 100⟩ ⟨rfl, rfl⟩ rfl
  rcases call with _ | call
  · rfl
  · rfl

end A2AProvisioning.Controller
