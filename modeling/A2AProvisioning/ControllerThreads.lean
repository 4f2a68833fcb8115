import A2AProvisioning.ControllerSessions
import A2AProvisioning.LibraryMachine
import Mathlib.Logic.Function.Basic

/-! Activations on several threads. A call of `activate` is split at its ports: three reads of the chain,
the check that ends with a session id, the provisioner calls, and the record in the session table.
`handle_revoked` is split into its read and its scan. Between the steps of one call those of others may
happen, as may revocations on the chain and the other operations of the service. -/

namespace A2AProvisioning.Controller

open Machine

structure Activation where
  entitlementId : Int
  actionKind : String
  nonce : String
  signature : String

/-- How far a call of `activate` has got. -/
inductive Phase
  | idle
  | viewed (request : Activation) (view : EntitlementView)
  | owned (request : Activation) (view : EntitlementView) (owner : Address)
  | ready (request : Activation) (facts : Facts)
  | planned (plan : Plan)
  | applied (plan : Plan) (applied : Option Bool)

/-- The plan of a call between its check and its record. -/
def Phase.plan? : Phase → Option Plan
  | .planned plan => some plan
  | .applied plan _ => some plan
  | _ => none

/-- What a call before its check has read of the entitlement. -/
def Phase.view? : Phase → Option (Activation × EntitlementView)
  | .viewed request view => some (request, view)
  | .owned request view _ => some (request, view)
  | .ready request facts => some (request, facts.view)
  | _ => none

/-- `watcher` is the entitlement between the read and the scan of `handle_revoked`; `handled` the
entitlements it has been through; `allocated` the session ids that checks have given out. -/
structure Threads (N : Type) where
  service : Service N
  revoked : List Int
  calls : Nat → Phase
  watcher : Option Int
  handled : List Int
  allocated : List String

inductive Step
  | readView (call : Nat) (request : Activation)
  | readOwner (call : Nat) (owner : Address)
  | readTime (call : Nat) (now : Nat)
  | readFails (call : Nat)
  | check (call : Nat)
  | apply (call : Nat)
  | record (call : Nat)
  | revoke (entitlementId : Int)
  | handleRead (entitlementId : Int)
  | handleScan
  | perform (op : Op)

namespace Threads

variable {N : Type}

def start (controllerId : String) (n : N) : Threads N :=
  ⟨Service.start controllerId n, [], fun _ => .idle, none, [], []⟩

def move (s : Threads N) (call : Nat) (phase : Phase) : Threads N :=
  { s with calls := Function.update s.calls call phase }

variable (cfg : Config) (p : Provisioner N) (terms : Int → EntitlementView)

/-- The chain's view of an entitlement: its terms do not change, and the flag is set by `revoke`. -/
def view (s : Threads N) (entitlementId : Int) : EntitlementView :=
  { terms entitlementId with
    id := entitlementId
    revoked := decide (entitlementId ∈ s.revoked) }

def check (s : Threads N) (call : Nat) (request : Activation) (facts : Facts) : Threads N :=
  match s.service.authorize cfg facts request.entitlementId request.actionKind request.nonce request.signature with
  | (.error _, c) => { s.move call .idle with service := c }
  | (.ok plan, c) =>
      { s.move call (.planned plan) with
        service := c
        allocated := s.allocated ++ [plan.sessionId] }

def apply (s : Threads N) (call : Nat) (plan : Plan) : Threads N :=
  { s.move call (.applied plan (applyCalls p plan.calls s.service.net).1) with
    service := { s.service with net := (applyCalls p plan.calls s.service.net).2 } }

def record (s : Threads N) (call : Nat) (plan : Plan) (applied : Option Bool) : Threads N :=
  { s.move call .idle with service := (s.service.record p plan applied).2 }

def scan (s : Threads N) (entitlementId : Int) : Threads N :=
  { s with
    service := (s.service.endRevoked p entitlementId).2
    watcher := none
    handled := entitlementId :: s.handled }

def step (s : Threads N) : Step → Option (Threads N)
  | .readView call request =>
      match s.calls call with
      | .idle => some (s.move call (.viewed request (s.view terms request.entitlementId)))
      | _ => none
  | .readOwner call owner =>
      match s.calls call with
      | .viewed request view => some (s.move call (.owned request view owner))
      | _ => none
  | .readTime call now =>
      match s.calls call with
      | .owned request view owner => some (s.move call (.ready request ⟨view, owner, now⟩))
      | _ => none
  | .readFails call =>
      match s.calls call with
      | .viewed _ _ => some (s.move call .idle)
      | .owned _ _ _ => some (s.move call .idle)
      | _ => none
  | .check call =>
      match s.calls call with
      | .ready request facts => some (s.check cfg call request facts)
      | _ => none
  | .apply call =>
      match s.calls call with
      | .planned plan => some (s.apply p call plan)
      | _ => none
  | .record call =>
      match s.calls call with
      | .applied plan applied => some (s.record p call plan applied)
      | _ => none
  | .revoke entitlementId => some { s with revoked := entitlementId :: s.revoked }
  | .handleRead entitlementId =>
      if entitlementId ∈ s.revoked ∧ s.watcher = none then some { s with watcher := some entitlementId } else none
  | .handleScan =>
      match s.watcher with
      | some entitlementId => some (s.scan p entitlementId)
      | none => none
  | .perform op =>
      if op.isActivate then none else some { s with service := s.service.perform cfg p op }

end Threads

/-! ### What a step does -/

variable {N : Type} {cfg : Config} {p : Provisioner N} {terms : Int → EntitlementView} {s next : Threads N}

/-- The call is between its check and its record. -/
def Threads.Holds (s : Threads N) (call : Nat) (plan : Plan) : Prop := (s.calls call).plan? = some plan

/-- A call that has passed its check: its nonce is burnt, and it has a plan with a new session id. -/
def Threads.grant (s : Threads N) (call : Nat) (nonce : String) (plan : Plan) : Threads N :=
  { s.move call (.planned plan) with
    service := { s.service with auth := s.service.auth.burn nonce, seq := s.service.seq + 1 }
    allocated := s.allocated ++ [plan.sessionId] }

/-- The proof, the predicate and the resource map let the request through. -/
structure Passes (cfg : Config) (c : Service N) (request : Activation) (facts : Facts) : Prop where
  proof : (c.auth.verify cfg.recover request.entitlementId request.nonce request.signature facts.owner facts.now
    .activate).1 = none
  allowed : predicate facts.view facts.owner facts.owner facts.now c.activeIds (some request.actionKind)
    knownServiceTypes = none
  mapped : ∃ calls, translate (sessionIdOf request.entitlementId c.seq) facts.view cfg.resourceMap = .ok calls

theorem Granted.passes {c : Service N} {request : Activation} {facts : Facts} {plan : Plan}
    (h : Granted cfg c facts request.entitlementId request.actionKind request.nonce request.signature plan) :
    Passes cfg c request facts where
  proof := AuthStore.verify_eq_none.mpr h.proof
  allowed := h.allowed
  mapped := ⟨plan.calls, h.sessionId ▸ h.calls⟩

/-- A step that gives out no plan and records no session. -/
structure Calm (terms : Int → EntitlementView) (s next : Threads N) : Prop where
  keyed : Keyed s.service → Keyed next.service
  settles : Settles s.service next.service
  holds : ∀ call plan, next.Holds call plan → s.Holds call plan
  allocated : next.allocated = s.allocated
  views : ∀ call request view, (next.calls call).view? = some (request, view) →
    (s.calls call).view? = some (request, view) ∨ view = s.view terms request.entitlementId

/-- The steps by what they do to the session table and to the calls. -/
inductive Effect (cfg : Config) (p : Provisioner N) (terms : Int → EntitlementView) (s : Threads N) :
    Step → Threads N → Prop
  | calm (a : Step) (next : Threads N) (hcalm : Calm terms s next) (hhandled : next.handled = s.handled) :
      Effect cfg p terms s a next
  | planned (call : Nat) (request : Activation) (facts : Facts) (plan : Plan)
      (hready : s.calls call = .ready request facts)
      (hgranted : Granted cfg s.service facts request.entitlementId request.actionKind request.nonce
        request.signature plan) :
      Effect cfg p terms s (.check call)
        (s.grant call request.nonce plan)
  | recorded (call : Nat) (plan : Plan) (applied : Option Bool) (happlied : s.calls call = .applied plan applied) :
      Effect cfg p terms s (.record call) (s.record p call plan applied)
  | scanned (entitlementId : Int) (hwatcher : s.watcher = some entitlementId)
      (hcalm : Calm terms s (s.scan p entitlementId)) :
      Effect cfg p terms s .handleScan (s.scan p entitlementId)

theorem move_calls (call other : Nat) (phase : Phase) :
    (s.move call phase).calls other = if other = call then phase else s.calls other :=
  Function.update_apply s.calls call phase other

theorem holds_move {call other : Nat} {phase : Phase} {plan : Plan} :
    (s.move call phase).Holds other plan ↔
      (other = call ∧ phase.plan? = some plan) ∨ (other ≠ call ∧ s.Holds other plan) := by
  rw [Threads.Holds, Threads.Holds, move_calls]
  split_ifs with heq
  · simp [heq]
  · simp [heq]

/-- A call moves on without a new plan. -/
theorem Calm.move {call : Nat} {phase : Phase} {c : Service N} (hkeyed : Keyed s.service → Keyed c)
    (hsettles : Settles s.service c) (hplan : ∀ plan, phase.plan? = some plan → s.Holds call plan)
    (hview : ∀ request view, phase.view? = some (request, view) →
      (s.calls call).view? = some (request, view) ∨ view = s.view terms request.entitlementId) :
    Calm terms s { s.move call phase with service := c } where
  keyed := hkeyed
  settles := hsettles
  holds := fun other plan hholds => by
    rcases holds_move.mp hholds with ⟨rfl, hphase⟩ | ⟨-, hholds⟩
    · exact hplan plan hphase
    · exact hholds
  allocated := rfl
  views := fun other request view hother => by
    have hother' : ((s.move call phase).calls other).view? = some (request, view) := hother
    rw [move_calls] at hother'
    split_ifs at hother' with heq
    · rw [heq]
      exact hview request view hother'
    · exact Or.inl hother'

/-- The calls do not move. -/
theorem Calm.service {c : Service N} (hkeyed : Keyed s.service → Keyed c) (hsettles : Settles s.service c)
    (revoked : List Int) (watcher : Option Int) (handled : List Int) :
    Calm terms s
      { s with
        service := c
        revoked := revoked
        watcher := watcher
        handled := handled } :=
  ⟨hkeyed, hsettles, fun _ _ h => h, rfl, fun _ _ _ h => Or.inl h⟩

theorem holds_grant {call other : Nat} {nonce : String} {plan plan' : Plan}
    (h : (s.grant call nonce plan).Holds other plan') :
    (other = call ∧ plan' = plan) ∨ (other ≠ call ∧ s.Holds other plan') :=
  (holds_move.mp h).imp_left fun ⟨heq, hplan⟩ => ⟨heq, (Option.some.inj hplan).symm⟩

theorem check_effect {call : Nat} {request : Activation} {facts : Facts} (hready : s.calls call = .ready request facts) :
    Effect cfg p terms s (.check call) (s.check cfg call request facts) := by
  rw [Threads.check]
  split
  · rename_i failure c hauthorize
    obtain ⟨seq, hseq, rfl⟩ := authorize_error hauthorize
    refine .calm _ _ (Calm.move (fun h => h.quiet hseq) (settles_of_sessions rfl hseq) ?_ ?_) rfl
    · exact fun _ h => by cases h
    · exact fun _ _ h => by cases h
  · rename_i plan c hauthorize
    obtain ⟨hgranted, rfl⟩ := authorize_ok hauthorize
    exact .planned call request facts plan hready hgranted

/-- A call reads on, or gives up. -/
theorem read_effect {a : Step} {call : Nat} {phase : Phase} (hplan : phase.plan? = none)
    (hview : ∀ request view, phase.view? = some (request, view) →
      (s.calls call).view? = some (request, view) ∨ view = s.view terms request.entitlementId) :
    Effect cfg p terms s a (s.move call phase) := by
  refine .calm _ _ (Calm.move (fun h => h) (Settles.refl _) (fun plan h => ?_) hview) rfl
  cases hplan.symm.trans h

theorem step_effect {a : Step} (h : Threads.step cfg p terms s a = some next) : Effect cfg p terms s a next := by
  cases a with
  | readView call request =>
      simp only [Threads.step] at h
      split at h
      · cases h
        refine read_effect rfl fun request' view hview => Or.inr ?_
        cases hview
        rfl
      · cases h
  | readOwner call owner =>
      simp only [Threads.step] at h
      split at h
      · rename_i request view hviewed
        cases h
        refine read_effect rfl fun request' view' hview => Or.inl ?_
        rw [hviewed]
        exact hview
      · cases h
  | readTime call now =>
      simp only [Threads.step] at h
      split at h
      · rename_i request view owner howned
        cases h
        refine read_effect rfl fun request' view' hview => Or.inl ?_
        rw [howned]
        exact hview
      · cases h
  | readFails call =>
      simp only [Threads.step] at h
      split at h
      · cases h
        exact read_effect rfl fun _ _ hview => by cases hview
      · cases h
        exact read_effect rfl fun _ _ hview => by cases hview
      · cases h
  | check call =>
      simp only [Threads.step] at h
      split at h
      · rename_i request facts hready
        cases h
        exact check_effect hready
      · cases h
  | apply call =>
      simp only [Threads.step] at h
      split at h
      · rename_i plan hplanned
        cases h
        refine .calm _ _ (Calm.move (fun h => h.quiet le_rfl) (settles_of_sessions rfl le_rfl) ?_ ?_) rfl
        · intro plan' hplan
          rw [Threads.Holds, hplanned]
          exact hplan
        · exact fun _ _ hview => by cases hview
      · cases h
  | record call =>
      simp only [Threads.step] at h
      split at h
      · rename_i plan applied happlied
        cases h
        exact .recorded call plan applied happlied
      · cases h
  | revoke entitlementId =>
      cases h
      exact .calm _ _ (Calm.service (fun h => h) (Settles.refl _) _ _ _) rfl
  | handleRead entitlementId =>
      simp only [Threads.step] at h
      split_ifs at h
      cases h
      exact .calm _ _ (Calm.service (fun h => h) (Settles.refl _) _ _ _) rfl
  | handleScan =>
      simp only [Threads.step] at h
      split at h
      · rename_i entitlementId hwatcher
        cases h
        refine .scanned entitlementId hwatcher (Calm.service (fun h => ?_) (teardownAll_settles p _ _) _ _ _)
        exact endRevoked_invariant (fun _ _ h => h.teardown _) entitlementId h
      · cases h
  | perform op =>
      simp only [Threads.step] at h
      split_ifs at h with hop
      cases h
      exact .calm _ _ (Calm.service (fun h => h.perform op) (perform_settles (eq_false_of_ne_true hop)) _ _ _) rfl

/-- Every plan in hand has a session id of its own, and the table has no entry for it yet. -/
structure Allocated (s : Threads N) : Prop where
  keyed : Keyed s.service
  state : ∀ call plan, s.Holds call plan → plan.state = .authorized
  sessionId : ∀ call plan, s.Holds call plan →
    ∃ seq, seq < s.service.seq ∧ plan.sessionId = sessionIdOf plan.entitlementId seq
  mem : ∀ call plan, s.Holds call plan → plan.sessionId ∈ s.allocated
  fresh : ∀ call plan, s.Holds call plan → s.service.sessions.get? plan.sessionId = none
  distinct : ∀ call call' plan plan', s.Holds call plan → s.Holds call' plan' →
    plan.sessionId = plan'.sessionId → call = call'
  used : ∀ sessionId ∈ s.allocated, ∃ entitlementId seq, seq < s.service.seq ∧
    sessionId = sessionIdOf entitlementId seq
  nodup : s.allocated.Nodup
  views : ∀ call request view, (s.calls call).view? = some (request, view) → view.id = request.entitlementId

theorem allocated_start (controllerId : String) (n : N) : Allocated (Threads.start controllerId n) where
  keyed := keyed_start controllerId n
  state := fun _ _ h => by cases h
  sessionId := fun _ _ h => by cases h
  mem := fun _ _ h => by cases h
  fresh := fun _ _ h => by cases h
  distinct := fun _ _ _ _ h => by cases h
  used := fun _ h => absurd h List.not_mem_nil
  nodup := List.nodup_nil
  views := fun _ _ _ h => by cases h

theorem Allocated.calm (h : Allocated s) (hcalm : Calm terms s next) : Allocated next where
  keyed := hcalm.keyed h.keyed
  state := fun call plan hholds => h.state call plan (hcalm.holds call plan hholds)
  sessionId := fun call plan hholds => by
    obtain ⟨seq, hlt, heq⟩ := h.sessionId call plan (hcalm.holds call plan hholds)
    exact ⟨seq, hlt.trans_le hcalm.settles.seq, heq⟩
  mem := fun call plan hholds => hcalm.allocated ▸ h.mem call plan (hcalm.holds call plan hholds)
  fresh := fun call plan hholds =>
    hcalm.settles.absent (h.fresh call plan (hcalm.holds call plan hholds))
  distinct := fun call call' plan plan' hholds hholds' =>
    h.distinct call call' plan plan' (hcalm.holds call plan hholds) (hcalm.holds call' plan' hholds')
  used := fun sessionId hmem => by
    obtain ⟨entitlementId, seq, hlt, heq⟩ := h.used sessionId (hcalm.allocated ▸ hmem)
    exact ⟨entitlementId, seq, hlt.trans_le hcalm.settles.seq, heq⟩
  nodup := hcalm.allocated ▸ h.nodup
  views := fun call request view hview => by
    rcases hcalm.views call request view hview with hview | rfl
    · exact h.views call request view hview
    · rfl

theorem Allocated.planned (h : Allocated s) {call : Nat} {request : Activation} {facts : Facts} {plan : Plan}
    (hgranted : Granted cfg s.service facts request.entitlementId request.actionKind request.nonce
      request.signature plan) :
    Allocated (s.grant call request.nonce plan) := by
  have hid : plan.sessionId = sessionIdOf plan.entitlementId s.service.seq := by
    rw [hgranted.sessionId, hgranted.entitlementId]
  have hnew : plan.sessionId ∉ s.allocated := by
    intro hmem
    obtain ⟨entitlementId, seq, hlt, heq⟩ := h.used _ hmem
    exact absurd (sessionIdOf_injective (hid.symm.trans heq)) (by omega)
  refine ⟨h.keyed.quiet (Nat.le_succ _), ?_, ?_, ?_, ?_, ?_, ?_, ?_, ?_⟩
  · intro other plan' hholds
    rcases holds_grant hholds with ⟨-, rfl⟩ | ⟨-, hholds⟩
    · exact hgranted.state
    · exact h.state other plan' hholds
  · intro other plan' hholds
    rcases holds_grant hholds with ⟨-, rfl⟩ | ⟨-, hholds⟩
    · exact ⟨s.service.seq, Nat.lt_succ_self _, hid⟩
    · obtain ⟨seq, hlt, heq⟩ := h.sessionId other plan' hholds
      exact ⟨seq, Nat.lt_succ_of_lt hlt, heq⟩
  · intro other plan' hholds
    rcases holds_grant hholds with ⟨-, rfl⟩ | ⟨-, hholds⟩
    · exact List.mem_append_right _ (List.mem_singleton_self _)
    · exact List.mem_append_left _ (h.mem other plan' hholds)
  · intro other plan' hholds
    rcases holds_grant hholds with ⟨-, rfl⟩ | ⟨-, hholds⟩
    · exact hid ▸ h.keyed.fresh plan'.entitlementId
    · exact h.fresh other plan' hholds
  · intro other other' plan' plan'' hholds hholds' heq
    rcases holds_grant hholds with ⟨rfl, rfl⟩ | ⟨-, hheld⟩
    · rcases holds_grant hholds' with ⟨rfl, -⟩ | ⟨-, hheld'⟩
      · rfl
      · exact absurd (heq ▸ h.mem other' plan'' hheld') hnew
    · rcases holds_grant hholds' with ⟨-, rfl⟩ | ⟨-, hheld'⟩
      · exact absurd (heq ▸ h.mem other plan' hheld) hnew
      · exact h.distinct other other' plan' plan'' hheld hheld' heq
  · intro sessionId hmem
    rcases List.mem_append.mp hmem with hmem | hmem
    · obtain ⟨entitlementId, seq, hlt, heq⟩ := h.used sessionId hmem
      exact ⟨entitlementId, seq, Nat.lt_succ_of_lt hlt, heq⟩
    · cases List.mem_singleton.mp hmem
      exact ⟨plan.entitlementId, s.service.seq, Nat.lt_succ_self _, hid⟩
  · exact List.nodup_append.mpr ⟨h.nodup, List.nodup_singleton _, fun sessionId hmem sessionId' hmem' heq =>
      hnew (List.mem_singleton.mp hmem' ▸ heq ▸ hmem)⟩
  · intro other request' view hview
    have hview' : ((s.move call (.planned plan)).calls other).view? = some (request', view) := hview
    rw [move_calls] at hview'
    split_ifs at hview'
    · cases hview'
    · exact h.views other request' view hview'

/-- A recorded call has no plan any more. -/
theorem holds_record {call other : Nat} {plan plan' : Plan} {applied : Option Bool}
    (h : (s.record p call plan applied).Holds other plan') : other ≠ call ∧ s.Holds other plan' := by
  rcases holds_move.mp h with ⟨-, hplan⟩ | hholds
  · cases hplan
  · exact hholds

/-- The active sessions after a record are those from before, and at most the one of the plan. -/
theorem active_record {call : Nat} {plan : Plan} (hstate : plan.state = .authorized) {applied : Option Bool}
    {sessionId : String} {session : Session}
    (h : (s.record p call plan applied).service.ActiveAt sessionId session) :
    (sessionId = plan.sessionId ∧ session.entitlementId = plan.entitlementId) ∨
      s.service.ActiveAt sessionId session := by
  obtain ⟨hget, hactive⟩ := h
  have hget' : (s.service.record p plan applied).2.sessions.get? sessionId = some session := hget
  obtain ⟨-, heq | ⟨state, -, heq⟩⟩ := record_sessions p s.service hstate applied
  · rw [heq] at hget'
    exact Or.inr ⟨hget', hactive⟩
  · rw [heq] at hget'
    simp only [Service.insertSession, OrderedDict.get?_insert] at hget'
    split_ifs at hget' with hid
    · cases hget'
      exact Or.inl ⟨hid, rfl⟩
    · exact Or.inr ⟨hget', hactive⟩

theorem Allocated.recorded (h : Allocated s) {call : Nat} {plan : Plan} {applied : Option Bool}
    (happlied : s.calls call = .applied plan applied) : Allocated (s.record p call plan applied) := by
  have hholding : s.Holds call plan := by rw [Threads.Holds, happlied]; rfl
  obtain ⟨hseq, hsessions⟩ := record_sessions p s.service (h.state call plan hholding) applied
  obtain ⟨seq, hlt, hid⟩ := h.sessionId call plan hholding
  refine ⟨?_, ?_, ?_, ?_, ?_, ?_, ?_, h.nodup, ?_⟩
  · rcases hsessions with heq | ⟨state, -, heq⟩
    · exact h.keyed.congr heq hseq.ge
    · exact (h.keyed.insertSession hlt hid state).congr heq hseq.ge
  · exact fun other plan' hholds => h.state other plan' (holds_record hholds).2
  · intro other plan' hholds
    obtain ⟨seq', hlt', heq⟩ := h.sessionId other plan' (holds_record hholds).2
    exact ⟨seq', hlt'.trans_le hseq.ge, heq⟩
  · exact fun other plan' hholds => h.mem other plan' (holds_record hholds).2
  · intro other plan' hholds
    obtain ⟨hother, hholds⟩ := holds_record hholds
    have hne : plan'.sessionId ≠ plan.sessionId := fun heq =>
      hother (h.distinct other call plan' plan hholds hholding heq)
    have hfresh := h.fresh other plan' hholds
    show (s.service.record p plan applied).2.sessions.get? plan'.sessionId = none
    rcases hsessions with heq | ⟨state, -, heq⟩
    · rw [heq]
      exact hfresh
    · rw [heq]
      simp only [Service.insertSession, OrderedDict.get?_insert, if_neg hne]
      exact hfresh
  · exact fun other other' plan' plan'' hholds hholds' heq =>
      h.distinct other other' plan' plan'' (holds_record hholds).2 (holds_record hholds').2 heq
  · intro sessionId hmem
    obtain ⟨entitlementId, seq', hlt', heq⟩ := h.used sessionId hmem
    exact ⟨entitlementId, seq', hlt'.trans_le hseq.ge, heq⟩
  · intro other request view hview
    have hview' : ((s.move call .idle).calls other).view? = some (request, view) := hview
    rw [move_calls] at hview'
    split_ifs at hview'
    · cases hview'
    · exact h.views other request view hview'

theorem Allocated.step (h : Allocated s) {a : Step} (heffect : Effect cfg p terms s a next) : Allocated next := by
  cases heffect with
  | calm _ _ hcalm _ => exact h.calm hcalm
  | planned call request facts plan _ hgranted => exact h.planned hgranted
  | recorded call plan applied happlied => exact h.recorded happlied
  | scanned entitlementId _ hcalm => exact h.calm hcalm

/-- `activate` as one operation is one of the schedules. -/
theorem activation_schedule (cfg : Config) (p : Provisioner N) (terms : Int → EntitlementView) (s : Threads N)
    {call : Nat} (hidle : s.calls call = .idle) (request : Activation) (reader : Reader) (owner : Address) (now : Nat)
    (hview : reader.get request.entitlementId = .ok (s.view terms request.entitlementId))
    (howner : reader.ownerOf request.entitlementId = .ok owner) (hnow : reader.chainTime = .ok now) :
    ∃ steps t, run (Threads.step cfg p terms) s steps = some t ∧ t.calls = s.calls ∧
      t.service = (s.service.activate cfg p reader request.entitlementId request.actionKind request.nonce
        request.signature).2 := by
  have hfacts : readFacts reader request.entitlementId =
      .ok ⟨s.view terms request.entitlementId, owner, now⟩ := by
    simp only [readFacts, readView, hview, howner, hnow, read, bind, Except.bind, pure, Except.pure]
  have hback : ∀ phase, Function.update (Function.update s.calls call phase) call .idle = s.calls := by
    intro phase
    rw [Function.update_idem, ← hidle, Function.update_eq_self]
  have hreads : run (Threads.step cfg p terms) s [.readView call request, .readOwner call owner, .readTime call now] =
      some (s.move call (.ready request ⟨s.view terms request.entitlementId, owner, now⟩)) := by
    simp only [run, Threads.step, hidle, Threads.move, Function.update_self, Option.bind_some, Function.update_idem]
  cases hauthorize : s.service.authorize cfg ⟨s.view terms request.entitlementId, owner, now⟩ request.entitlementId
      request.actionKind request.nonce request.signature with
  | mk result c =>
      cases result with
      | error failure =>
          refine ⟨_ ++ [.check call], { s with service := c }, (run_append_eq_some _).mpr ⟨_, hreads, ?_⟩, rfl, ?_⟩
          · simp only [run, Threads.step, Threads.move, Function.update_self, Threads.check, hauthorize, hback,
              Option.bind_some]
          · simp only [Service.activate, hfacts, hauthorize]
      | ok plan =>
          let applied := applyCalls p plan.calls c.net
          refine ⟨_ ++ [.check call, .apply call, .record call],
            { s with
              service := (Service.record p { c with net := applied.2 } plan applied.1).2
              allocated := s.allocated ++ [plan.sessionId] },
            (run_append_eq_some _).mpr ⟨_, hreads, ?_⟩, rfl, ?_⟩
          · simp only [run, Threads.step, Threads.move, Function.update_self, Threads.check, hauthorize,
              Threads.apply, Threads.record, Function.update_idem, Option.bind_some, applied]
            rw [← hidle, Function.update_eq_self]
          · simp only [Service.activate, hfacts, hauthorize, applied]

end A2AProvisioning.Controller
