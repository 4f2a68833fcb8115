import A2AProvisioning.ControllerThreads
import A2AProvisioning.NetworkProvisioner

/-! Double booking. The check of an activation looks for an active session of its entitlement, and the
session it is going to make is put into the table only after the provisioner calls, with no lock held in
between. Session ids are given out one by one, so no record overwrites another; that an entitlement has
one active session needs the checks of an entitlement to wait for each other's records. -/

namespace A2AProvisioning.Controller

open Machine

variable {N : Type} {cfg : Config} {p : Provisioner N} {terms : Int → EntitlementView} {s next : Threads N}

/-- At most one session per entitlement is active, no session id has been given out twice, and no call is
going to record its session over another one. -/
structure SingleBooking (s : Threads N) : Prop where
  single : ∀ sessionId sessionId' session session', s.service.ActiveAt sessionId session →
    s.service.ActiveAt sessionId' session' → session.entitlementId = session'.entitlementId →
      sessionId = sessionId'
  nodup : s.allocated.Nodup
  distinct : ∀ call call' plan plan', s.Holds call plan → s.Holds call' plan' →
    plan.sessionId = plan'.sessionId → call = call'
  fresh : ∀ call plan, s.Holds call plan → s.service.sessions.get? plan.sessionId = none

/-- A check that lets its request through is made while no other call for the entitlement is between its
check and its record. -/
def CheckedAlone (cfg : Config) (s : Threads N) : Step → Prop
  | .check call => ∀ request facts, s.calls call = .ready request facts → Passes cfg s.service request facts →
      ∀ other plan, s.Holds other plan → plan.entitlementId ≠ request.entitlementId
  | _ => True

/-- An active session or a plan in hand takes its entitlement for itself. -/
structure Booked (s : Threads N) : Prop extends Allocated s where
  single : ∀ sessionId sessionId' session session', s.service.ActiveAt sessionId session →
    s.service.ActiveAt sessionId' session' → session.entitlementId = session'.entitlementId →
      sessionId = sessionId'
  alone : ∀ call plan sessionId session, s.Holds call plan → s.service.ActiveAt sessionId session →
    plan.entitlementId ≠ session.entitlementId
  exclusive : ∀ call call' plan plan', s.Holds call plan → s.Holds call' plan' →
    plan.entitlementId = plan'.entitlementId → call = call'

theorem Booked.singleBooking (h : Booked s) : SingleBooking s := ⟨h.single, h.nodup, h.distinct, h.fresh⟩

theorem Booked.calm (h : Booked s) (hcalm : Calm terms s next) : Booked next where
  toAllocated := h.toAllocated.calm hcalm
  single := fun sessionId sessionId' session session' hactive hactive' =>
    h.single sessionId sessionId' session session' (hcalm.settles.active _ _ hactive)
      (hcalm.settles.active _ _ hactive')
  alone := fun call plan sessionId session hholds hactive =>
    h.alone call plan sessionId session (hcalm.holds call plan hholds) (hcalm.settles.active _ _ hactive)
  exclusive := fun call call' plan plan' hholds hholds' =>
    h.exclusive call call' plan plan' (hcalm.holds call plan hholds) (hcalm.holds call' plan' hholds')

/-- The predicate has seen every active session, and the guard covers the plans. -/
theorem Booked.planned (h : Booked s) {call : Nat} {request : Activation} {facts : Facts} {plan : Plan}
    (hready : s.calls call = .ready request facts)
    (hgranted : Granted cfg s.service facts request.entitlementId request.actionKind request.nonce
      request.signature plan)
    (halone : ∀ other plan, s.Holds other plan → plan.entitlementId ≠ request.entitlementId) :
    Booked (s.grant call request.nonce plan) := by
  have hview : facts.view.id = request.entitlementId := h.views call request facts.view (by rw [hready]; rfl)
  obtain ⟨-, -, -, -, -, -, hconflict⟩ := predicate_eq_none.mp hgranted.allowed
  rw [hview] at hconflict
  have hcases : ∀ {other plan'}, (s.grant call request.nonce plan).Holds other plan' →
      (other = call ∧ plan'.entitlementId = request.entitlementId) ∨ s.Holds other plan' := by
    intro other plan' hholds
    rcases holds_grant hholds with ⟨heq, rfl⟩ | ⟨-, hheld⟩
    · exact Or.inl ⟨heq, hgranted.entitlementId⟩
    · exact Or.inr hheld
  refine ⟨h.toAllocated.planned hgranted, h.single, ?_, ?_⟩
  · intro other plan' sessionId session hholds hactive
    rcases hcases hholds with ⟨-, hid⟩ | hheld
    · rw [hid]
      exact fun heq => hconflict (mem_activeIds.mpr ⟨sessionId, session, hactive, heq.symm⟩)
    · exact h.alone other plan' sessionId session hheld hactive
  · intro other other' plan' plan'' hholds hholds' heq
    rcases hcases hholds with ⟨hother, hid⟩ | hheld
    · rcases hcases hholds' with ⟨hother', -⟩ | hheld'
      · exact hother.trans hother'.symm
      · exact absurd (heq.symm.trans hid) (halone other' plan'' hheld')
    · rcases hcases hholds' with ⟨-, hid'⟩ | hheld'
      · exact absurd (heq.trans hid') (halone other plan' hheld)
      · exact h.exclusive other other' plan' plan'' hheld hheld' heq

/-- The recorded session takes over the entitlement from its plan. -/
theorem Booked.recorded (h : Booked s) {call : Nat} {plan : Plan} {applied : Option Bool}
    (happlied : s.calls call = .applied plan applied) : Booked (s.record p call plan applied) := by
  have hholding : s.Holds call plan := by rw [Threads.Holds, happlied]; rfl
  have hactive : ∀ {sessionId session}, (s.record p call plan applied).service.ActiveAt sessionId session →
      (sessionId = plan.sessionId ∧ session.entitlementId = plan.entitlementId) ∨
        s.service.ActiveAt sessionId session := active_record (h.state call plan hholding)
  refine ⟨h.toAllocated.recorded happlied, ?_, ?_, ?_⟩
  · intro sessionId sessionId' session session' hat hat' heq
    rcases hactive hat with ⟨hid, hentitlement⟩ | hold
    · rcases hactive hat' with ⟨hid', -⟩ | hold'
      · exact hid.trans hid'.symm
      · exact absurd (hentitlement.symm.trans heq) (h.alone call plan sessionId' session' hholding hold')
    · rcases hactive hat' with ⟨-, hentitlement'⟩ | hold'
      · exact absurd (heq.trans hentitlement').symm (h.alone call plan sessionId session hholding hold)
      · exact h.single sessionId sessionId' session session' hold hold' heq
  · intro other plan' sessionId session hholds hat
    obtain ⟨hother, hheld⟩ := holds_record hholds
    rcases hactive hat with ⟨-, hentitlement⟩ | hold
    · rw [hentitlement]
      exact fun heq => hother (h.exclusive other call plan' plan hheld hholding heq)
    · exact h.alone other plan' sessionId session hheld hold
  · exact fun other other' plan' plan'' hholds hholds' heq =>
      h.exclusive other other' plan' plan'' (holds_record hholds).2 (holds_record hholds').2 heq

theorem Booked.step (h : Booked s) {a : Step} (hguard : CheckedAlone cfg s a) (heffect : Effect cfg p terms s a next) :
    Booked next := by
  cases heffect with
  | calm _ _ hcalm _ => exact h.calm hcalm
  | planned call request facts plan hready hgranted =>
      exact h.planned hready hgranted (hguard request facts hready hgranted.passes)
  | recorded call plan applied happlied => exact h.recorded happlied
  | scanned entitlementId _ hcalm => exact h.calm hcalm

/-- In a run in which the checks of an entitlement wait for each other's records, it is booked once. -/
theorem no_double_booking (cfg : Config) (p : Provisioner N) (terms : Int → EntitlementView) (controllerId : String)
    (n : N) (steps : List Step) (s : Threads N)
    (halone : Guarded (Threads.step cfg p terms) (CheckedAlone cfg) (Threads.start controllerId n) steps)
    (hrun : run (Threads.step cfg p terms) (Threads.start controllerId n) steps = some s) : SingleBooking s := by
  have hstart : Booked (Threads.start controllerId n) :=
    ⟨allocated_start controllerId n, fun _ _ _ _ h => (by cases h.1), fun _ _ _ _ h => (by cases h),
      fun _ _ _ _ h => (by cases h)⟩
  have hbooked : Booked s := run_invariant (fun _ _ _ h hguard hstep => h.step hguard (step_effect hstep)) hstart
    halone hrun
  exact hbooked.singleBooking

/-- The request of `labActivation`. -/
def labRequest (nonce : String) (entitlementId : Int) (now : Nat) : Activation :=
  ⟨entitlementId, "bandwidth", nonce, labProof nonce entitlementId (now + nonceTtlS)⟩

def labChallenge (nonce : String) (entitlementId : Int) (now : Nat) : Step :=
  .perform (.request (labReader now) (.challenge entitlementId nonce))

def labReads (call : Nat) (nonce : String) (entitlementId : Int) (now : Nat) : List Step :=
  [.readView call (labRequest nonce entitlementId now), .readOwner call labOwner, .readTime call now]

def labSold (entitlementId : Int) : EntitlementView := labView entitlementId 10000000

/-- Two activations of entitlement 1, one after the other; the second is refused. -/
def oneByOne : List Step :=
  [labChallenge "0x01" 1 10, labChallenge "0x02" 1 10] ++ labReads 0 "0x01" 1 10 ++
    [.check 0, .apply 0, .record 0] ++ labReads 1 "0x02" 1 10 ++ [.check 1]

open Network in
theorem no_double_booking_one :
    ∃ s, run (Threads.step labConfig labProvisioner.provisioner labSold)
        (Threads.start "bw-ctrl-1" fun _ => .empty) oneByOne = some s ∧ s.service.activeIds = [1] ∧
      SingleBooking s := by
  refine ⟨_, rfl, by rfl, no_double_booking labConfig labProvisioner.provisioner labSold "bw-ctrl-1"
    (fun _ => .empty) oneByOne _ ?_ rfl⟩
  refine Guarded.cons trivial rfl (Guarded.cons trivial rfl (Guarded.cons trivial rfl (Guarded.cons trivial rfl
    (Guarded.cons trivial rfl (Guarded.cons ?_ rfl (Guarded.cons trivial rfl (Guarded.cons trivial rfl
      (Guarded.cons trivial rfl (Guarded.cons trivial rfl (Guarded.cons trivial rfl (Guarded.cons ?_ rfl
        trivial)))))))))))
  · intro request facts _ _ other plan hholds
    rcases other with _ | other
    · cases hholds
    · cases hholds
  · intro request facts hready hpasses
    cases hready
    exact absurd hpasses.allowed (by decide)

open Network in
/-- Two activations of entitlement 1 that are both checked before either is recorded. -/
theorem double_booking :
    ¬ ∀ (cfg : Config) (p : Provisioner Devices) (terms : Int → EntitlementView) (controllerId : String)
      (devices : Devices) (steps : List Step) (s : Threads Devices),
      run (Threads.step cfg p terms) (Threads.start controllerId devices) steps = some s → SingleBooking s := by
  intro hclaim
  have h := hclaim labConfig labProvisioner.provisioner labSold "bw-ctrl-1" (fun _ => .empty)
    ([labChallenge "0x01" 1 10, labChallenge "0x02" 1 10] ++ labReads 0 "0x01" 1 10 ++ labReads 1 "0x02" 1 10 ++
      [.check 0, .check 1, .apply 0, .apply 1, .record 0, .record 1]) _ rfl
  have hsame := h.single "ent1-a0" "ent1-a1" ⟨"ent1-a0", 1, .active, 10, 100⟩ ⟨"ent1-a1", 1, .active, 10, 100⟩
    ⟨rfl, rfl⟩ ⟨rfl, rfl⟩ rfl
  exact absurd hsame (by decide)

end A2AProvisioning.Controller
