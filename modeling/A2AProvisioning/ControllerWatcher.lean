import A2AProvisioning.ControllerSessions
import A2AProvisioning.LibraryMachine
import A2AProvisioning.NetworkProvisioner

/-! The watcher of revocations. Each turn of its loop asks for the head of the chain and for the events
since the last block it has seen, hands every event to `handle_revoked`, and moves its cursor to the
head. What the callback raises is swallowed, so an event whose read fails is not delivered again. -/

namespace A2AProvisioning.Controller

open Machine

/-- Blocks are numbered from 1; of each the ids of its `Revoked` events are kept. -/
abbrev Blocks := List (List Int)

/-- The `Revoked` events of the blocks `fromBlock` to `toBlock`, each with its block. -/
def getLogs (blocks : Blocks) (fromBlock toBlock : Nat) : List (Nat × Int) :=
  (((blocks.zipIdx 1).take toBlock).drop (fromBlock - 1)).flatMap fun block =>
    block.1.map fun entitlementId => (block.2, entitlementId)

/-- The reader of one callback: an entitlement is revoked once an event says so, and the rest of its view
does not change. Nothing else is read. -/
def chainReader (terms : Int → EntitlementView) (blocks : Blocks) (answers : Bool) : Reader where
  get := fun entitlementId =>
    if answers then
      .ok { terms entitlementId with
        id := entitlementId
        revoked := decide (entitlementId ∈ blocks.flatten) }
    else .error .rpcError
  ownerOf := fun _ => .error .rpcError
  chainTime := .error .rpcError

/-- A record of one call of the callback: the event, and the sessions of its entitlement that were active
at that moment. -/
structure Delivery where
  event : Nat × Int
  active : List String

structure Watcher (N : Type) where
  service : Service N
  blocks : Blocks
  lastSeen : Nat
  deliveries : List Delivery

/-- Which calls of one turn of the loop are answered; `get` is the read of the callback for the n-th
event. -/
structure Poll where
  blockNumber : Bool
  getLogs : Bool
  get : Nat → Bool

inductive Occurrence
  | mine (revoked : List Int)
  | perform (op : Op)
  | poll (poll : Poll)

variable {N : Type}

def Service.activeSessions (c : Service N) (entitlementId : Int) : List String :=
  (c.sessions.values.filter fun session =>
    session.entitlementId = entitlementId ∧ session.state = .active).map Session.sessionId

namespace Watcher

/-- `watch_revoked`: the cursor starts at the head. -/
def start (service : Service N) (blocks : Blocks) : Watcher N := ⟨service, blocks, blocks.length, []⟩

variable (terms : Int → EntitlementView) (p : Provisioner N)

/-- An exception in the callback is swallowed. -/
def deliver (w : Watcher N) (event : Nat × Int) (answers : Bool) : Watcher N :=
  { w with
    service := (w.service.handleRevoked p (chainReader terms w.blocks answers) event.2).2
    deliveries := w.deliveries ++ [⟨event, w.service.activeSessions event.2⟩] }

def deliverAll : List ((Nat × Int) × Bool) → Watcher N → Watcher N
  | [], w => w
  | (event, answers) :: rest, w => deliverAll rest (w.deliver terms p event answers)

/-- The events the next turn will fetch, with what will become of the callback's read. -/
def pending (w : Watcher N) (poll : Poll) : List ((Nat × Int) × Bool) :=
  (Controller.getLogs w.blocks (w.lastSeen + 1) w.blocks.length).mapIdx fun n event => (event, poll.get n)

/-- One turn of `_watch_loop`. -/
def watchLoop (w : Watcher N) (poll : Poll) : Watcher N :=
  if poll.blockNumber = false then w
  else if w.blocks.length ≤ w.lastSeen then w
  else if poll.getLogs = false then w
  else { deliverAll terms p (w.pending poll) w with lastSeen := w.blocks.length }

variable (cfg : Config)

def step (w : Watcher N) : Occurrence → Option (Watcher N)
  | .mine revoked => some { w with blocks := w.blocks ++ [revoked] }
  | .perform op => some { w with service := w.service.perform cfg p op }
  | .poll poll => some (w.watchLoop terms p poll)

end Watcher

/-- Every event since the registration and up to the cursor has been delivered, and no session that was
active at its delivery is still active. -/
def NotLost (baseline : Nat) (w : Watcher N) : Prop :=
  ∀ event ∈ getLogs w.blocks (baseline + 1) w.lastSeen,
    (∃ delivery ∈ w.deliveries, delivery.event = event) ∧
      ∀ delivery ∈ w.deliveries, delivery.event = event →
        ∀ sessionId ∈ delivery.active, ∀ session, ¬ w.service.ActiveAt sessionId session

/-- Of the reads for an entitlement with an active session, one is answered. -/
def Due (c : Service N) (events : List ((Nat × Int) × Bool)) : Prop :=
  ∀ entitlementId ∈ c.activeIds, (∃ event ∈ events, event.1.2 = entitlementId) →
    ∃ event ∈ events, event.1.2 = entitlementId ∧ event.2 = true

/-- In a turn that gets to its events, the reads for an entitlement with an active session do not all
fail. -/
def ReadsOnce (w : Watcher N) : Occurrence → Prop
  | .poll poll => poll.blockNumber = true → poll.getLogs = true → Due w.service (w.pending poll)
  | _ => True

theorem mem_flatten_of_mem_getLogs {blocks : Blocks} {fromBlock toBlock : Nat} {event : Nat × Int}
    (hmem : event ∈ getLogs blocks fromBlock toBlock) : event.2 ∈ blocks.flatten := by
  obtain ⟨⟨revoked, number⟩, hblock, hevent⟩ := List.mem_flatMap.mp hmem
  obtain ⟨entitlementId, hid, rfl⟩ := List.mem_map.mp hevent
  have hblock' := List.mem_of_mem_take (List.mem_of_mem_drop hblock)
  obtain ⟨n, hn, heq⟩ := List.getElem_of_mem hblock'
  rw [List.getElem_zipIdx] at heq
  cases heq
  exact List.mem_flatten.mpr ⟨_, List.getElem_mem _, hid⟩

theorem getLogs_mine (blocks : Blocks) (revoked : List Int) (fromBlock : Nat) {toBlock : Nat}
    (hle : toBlock ≤ blocks.length) :
    getLogs (blocks ++ [revoked]) fromBlock toBlock = getLogs blocks fromBlock toBlock := by
  rw [getLogs, getLogs, List.zipIdx_append, List.take_append_of_le_length (by rw [List.length_zipIdx]; exact hle)]

theorem getLogs_self (blocks : Blocks) (block : Nat) : getLogs blocks (block + 1) block = [] := by
  rw [getLogs, Nat.add_sub_cancel, List.drop_eq_nil_of_le (List.length_take_le _ _), List.flatMap_nil]

theorem getLogs_append (blocks : Blocks) {first middle last : Nat} (hfirst : first ≤ middle)
    (hmiddle : middle ≤ last) (hlast : middle ≤ blocks.length) :
    getLogs blocks (first + 1) middle ++ getLogs blocks (middle + 1) last = getLogs blocks (first + 1) last := by
  simp only [getLogs, Nat.add_sub_cancel]
  rw [← List.flatMap_append]
  congr 1
  have hlength : first ≤ ((blocks.zipIdx 1).take middle).length := by
    rw [List.length_take, List.length_zipIdx]
    omega
  have htake : (blocks.zipIdx 1).take last =
      (blocks.zipIdx 1).take middle ++ ((blocks.zipIdx 1).take last).drop middle := by
    have hsplit := List.take_append_drop middle ((blocks.zipIdx 1).take last)
    rw [List.take_take, Nat.min_eq_left hmiddle] at hsplit
    exact hsplit.symm
  conv_rhs => rw [htake, List.drop_append_of_le_length hlength]

section Delivery

variable {terms : Int → EntitlementView} {p : Provisioner N} {w : Watcher N} {event : Nat × Int} {answers : Bool}
  {rest : List ((Nat × Int) × Bool)}

theorem mem_activeSessions {c : Service N} (hkeyed : Keyed c) {entitlementId : Int} {sessionId : String} :
    sessionId ∈ c.activeSessions entitlementId ↔
      ∃ session, c.ActiveAt sessionId session ∧ session.entitlementId = entitlementId := by
  simp only [Service.activeSessions, List.mem_map, List.mem_filter, decide_eq_true_eq, OrderedDict.mem_values,
    Service.ActiveAt]
  constructor
  · rintro ⟨session, ⟨⟨key, hget⟩, hid, hstate⟩, rfl⟩
    rw [(hkeyed key session hget).1]
    exact ⟨session, ⟨hget, hstate⟩, hid⟩
  · rintro ⟨session, ⟨hget, hstate⟩, hid⟩
    exact ⟨session, ⟨⟨sessionId, hget⟩, hid, hstate⟩, (hkeyed sessionId session hget).1⟩

theorem handleRevoked_answered (c : Service N) {blocks : Blocks} {entitlementId : Int}
    (hmem : entitlementId ∈ blocks.flatten) :
    (c.handleRevoked p (chainReader terms blocks true) entitlementId).2 = (c.endRevoked p entitlementId).2 := by
  simp only [Service.handleRevoked, chainReader, if_true, decide_eq_true hmem]
  split
  · rename_i failure next heq
    rw [heq]
  · rename_i ended next heq
    rw [heq]

/-- During the deliveries of a turn: a session that was active at a delivery is still in the table, and if
it is still active an event of its entitlement is among those to come. -/
structure Delivering (w : Watcher N) (rest : List ((Nat × Int) × Bool)) : Prop where
  keyed : Keyed w.service
  due : Due w.service rest
  settled : ∀ delivery ∈ w.deliveries, ∀ sessionId ∈ delivery.active,
    ∃ session, w.service.sessions.get? sessionId = some session ∧ session.entitlementId = delivery.event.2 ∧
      (session.state = .active → ∃ event ∈ rest, event.1.2 = delivery.event.2)

theorem Delivering.unanswered (h : Delivering w ((event, false) :: rest)) :
    Delivering (w.deliver terms p event false) rest := by
  have hdue : ∀ entitlementId ∈ w.service.activeIds,
      (∃ event' ∈ (event, false) :: rest, event'.1.2 = entitlementId) →
      ∃ event' ∈ rest, event'.1.2 = entitlementId ∧ event'.2 = true := by
    intro entitlementId hactive hsome
    obtain ⟨event', hmem, hid, hanswered⟩ := h.due entitlementId hactive hsome
    rcases List.mem_cons.mp hmem with rfl | hmem
    · cases hanswered
    · exact ⟨event', hmem, hid, hanswered⟩
  refine ⟨h.keyed, ?_, ?_⟩
  · rintro entitlementId hactive ⟨event', hmem, hid⟩
    exact hdue entitlementId hactive ⟨event', List.mem_cons_of_mem _ hmem, hid⟩
  · intro delivery hmem sessionId hsession
    rcases List.mem_append.mp hmem with hmem | hmem
    · obtain ⟨session, hget, hid, hstill⟩ := h.settled delivery hmem sessionId hsession
      refine ⟨session, hget, hid, fun hstate => ?_⟩
      obtain ⟨event', hmem', hid', -⟩ := hdue delivery.event.2
        (mem_activeIds.mpr ⟨sessionId, session, ⟨hget, hstate⟩, hid⟩) (hstill hstate)
      exact ⟨event', hmem', hid'⟩
    · cases List.mem_singleton.mp hmem
      obtain ⟨session, hactive, hid⟩ := (mem_activeSessions h.keyed).mp hsession
      refine ⟨session, hactive.1, hid, fun _ => ?_⟩
      obtain ⟨event', hmem', hid', -⟩ := hdue event.2 (mem_activeIds.mpr ⟨sessionId, session, hactive, hid⟩)
        ⟨_, List.mem_cons_self, rfl⟩
      exact ⟨event', hmem', hid'⟩

theorem Delivering.answered (h : Delivering w ((event, true) :: rest)) (hanswers : p.Answers)
    (hrevoked : event.2 ∈ w.blocks.flatten) : Delivering (w.deliver terms p event true) rest := by
  have hservice : (w.deliver terms p event true).service = (w.service.endRevoked p event.2).2 :=
    handleRevoked_answered w.service hrevoked
  have hlater : Later w.service (w.service.endRevoked p event.2).2 := teardownAll_later p _ _
  have hends : ∀ {sessionId session}, (w.service.endRevoked p event.2).2.ActiveAt sessionId session →
      session.entitlementId ≠ event.2 := endRevoked_ends hanswers h.keyed
  refine ⟨?_, ?_, ?_⟩
  · rw [hservice]
    exact endRevoked_invariant (fun _ _ h => h.teardown _) event.2 h.keyed
  · rw [hservice]
    rintro entitlementId hid ⟨event', hmem, hevent⟩
    obtain ⟨sessionId, session, hactive, rfl⟩ := mem_activeIds.mp hid
    obtain ⟨event'', hmem'', hid'', hanswered⟩ := h.due session.entitlementId
      (mem_activeIds.mpr ⟨sessionId, session, (teardownAll_settles p _ _).active _ _ hactive, rfl⟩)
      ⟨event', List.mem_cons_of_mem _ hmem, hevent⟩
    rcases List.mem_cons.mp hmem'' with rfl | hmem''
    · exact absurd hid''.symm (hends hactive)
    · exact ⟨event'', hmem'', hid'', hanswered⟩
  · rw [hservice]
    intro delivery hmem sessionId hsession
    rcases List.mem_append.mp hmem with hmem | hmem
    · obtain ⟨session, hget, hid, hstill⟩ := h.settled delivery hmem sessionId hsession
      obtain ⟨session', hget', hid', hactive'⟩ := hlater sessionId session hget
      refine ⟨session', hget', hid'.trans hid, fun hstate => ?_⟩
      have hne := hends ⟨hget', hstate⟩
      rw [hactive' hstate] at hstate
      obtain ⟨event', hmem', heq⟩ := hstill hstate
      rcases List.mem_cons.mp hmem' with rfl | hmem'
      · exact absurd ((hid'.trans hid).trans heq.symm) hne
      · exact ⟨event', hmem', heq⟩
    · cases List.mem_singleton.mp hmem
      obtain ⟨session, hactive, hid⟩ := (mem_activeSessions h.keyed).mp hsession
      obtain ⟨session', hget', hid', -⟩ := hlater sessionId session hactive.1
      exact ⟨session', hget', hid'.trans hid, fun hstate => absurd (hid'.trans hid) (hends ⟨hget', hstate⟩)⟩

theorem Delivering.deliverAll (hanswers : p.Answers) (h : Delivering w rest)
    (hrevoked : ∀ event ∈ rest, event.1.2 ∈ w.blocks.flatten) : Delivering (w.deliverAll terms p rest) [] := by
  induction rest generalizing w with
  | nil => exact h
  | cons first rest ih =>
      obtain ⟨event, answers⟩ := first
      have hrest : ∀ event' ∈ rest, event'.1.2 ∈ w.blocks.flatten := fun event' hmem =>
        hrevoked event' (List.mem_cons_of_mem _ hmem)
      cases answers with
      | false => exact ih h.unanswered hrest
      | true => exact ih (h.answered hanswers (hrevoked _ List.mem_cons_self)) hrest

variable (terms p) in
/-- Every event of a turn is delivered, whatever becomes of it. -/
theorem deliverAll_record (events : List ((Nat × Int) × Bool)) (w : Watcher N) :
    (w.deliverAll terms p events).deliveries.map Delivery.event =
        w.deliveries.map Delivery.event ++ events.map Prod.fst ∧
      (w.deliverAll terms p events).blocks = w.blocks := by
  induction events generalizing w with
  | nil => exact ⟨(List.append_nil _).symm, rfl⟩
  | cons first rest ih =>
      obtain ⟨event, answers⟩ := first
      obtain ⟨hdeliveries, hblocks⟩ := ih (w.deliver terms p event answers)
      refine ⟨?_, hblocks⟩
      rw [Watcher.deliverAll, hdeliveries]
      simp only [Watcher.deliver, List.map_append, List.map_cons, List.map_nil, List.append_assoc,
        List.singleton_append]

end Delivery

theorem Watcher.pending_events (w : Watcher N) (poll : Poll) :
    (w.pending poll).map Prod.fst = getLogs w.blocks (w.lastSeen + 1) w.blocks.length := by
  refine List.ext_getElem (by rw [Watcher.pending, List.length_map, List.length_mapIdx]) fun n hn hn' => ?_
  rw [List.getElem_map]
  simp only [Watcher.pending, List.getElem_mapIdx]

/-! ### Runs -/

/-- The invariant between turns. -/
structure Watched (baseline : Nat) (w : Watcher N) : Prop where
  keyed : Keyed w.service
  baseline_le : baseline ≤ w.lastSeen
  lastSeen_le : w.lastSeen ≤ w.blocks.length
  delivered : w.deliveries.map Delivery.event = getLogs w.blocks (baseline + 1) w.lastSeen
  settled : ∀ delivery ∈ w.deliveries, ∀ sessionId ∈ delivery.active,
    ∃ session, w.service.sessions.get? sessionId = some session ∧ session.entitlementId = delivery.event.2 ∧
      session.state ≠ .active

section Runs

variable {cfg : Config} {terms : Int → EntitlementView} {p : Provisioner N} {baseline : Nat} {w : Watcher N}

theorem Watched.notLost (h : Watched baseline w) : NotLost baseline w := by
  intro event hmem
  rw [← h.delivered] at hmem
  obtain ⟨delivery, hdelivery, heq⟩ := List.mem_map.mp hmem
  refine ⟨⟨delivery, hdelivery, heq⟩, fun delivery hdelivery _ sessionId hsession session hactive => ?_⟩
  obtain ⟨session', hget, -, hended⟩ := h.settled delivery hdelivery sessionId hsession
  cases hget.symm.trans hactive.1
  exact hended hactive.2

theorem watched_start (controllerId : String) (n : N) (blocks : Blocks) :
    Watched blocks.length (Watcher.start (Service.start controllerId n) blocks) where
  keyed := keyed_start controllerId n
  baseline_le := le_rfl
  lastSeen_le := le_rfl
  delivered := (getLogs_self blocks blocks.length).symm
  settled := fun _ hmem => absurd hmem List.not_mem_nil

theorem Watched.mine (h : Watched baseline w) (revoked : List Int) :
    Watched baseline { w with blocks := w.blocks ++ [revoked] } where
  keyed := h.keyed
  baseline_le := h.baseline_le
  lastSeen_le := h.lastSeen_le.trans (by rw [List.length_append]; exact Nat.le_add_right _ _)
  delivered := h.delivered.trans (getLogs_mine _ _ _ h.lastSeen_le).symm
  settled := h.settled

/-- No operation makes a settled session active again. -/
theorem Watched.perform (h : Watched baseline w) (op : Op) :
    Watched baseline { w with service := w.service.perform cfg p op } where
  keyed := h.keyed.perform op
  baseline_le := h.baseline_le
  lastSeen_le := h.lastSeen_le
  delivered := h.delivered
  settled := by
    intro delivery hmem sessionId hsession
    obtain ⟨session, hget, hid, hended⟩ := h.settled delivery hmem sessionId hsession
    obtain ⟨session', hget', hid', hactive⟩ := perform_later h.keyed op sessionId session hget
    refine ⟨session', hget', hid'.trans hid, fun hstate => hended ?_⟩
    rw [← hactive hstate]
    exact hstate

theorem Watched.watchLoop (hanswers : p.Answers) (h : Watched baseline w) {poll : Poll}
    (hreads : ReadsOnce w (.poll poll)) : Watched baseline (w.watchLoop terms p poll) := by
  rw [Watcher.watchLoop]
  split_ifs with hnumber hhead hlogs
  · exact h
  · exact h
  · exact h
  · have hdue := hreads (eq_true_of_ne_false hnumber) (eq_true_of_ne_false hlogs)
    have hbefore : Delivering w (w.pending poll) := by
      refine ⟨h.keyed, hdue, fun delivery hmem sessionId hsession => ?_⟩
      obtain ⟨session, hget, hid, hended⟩ := h.settled delivery hmem sessionId hsession
      exact ⟨session, hget, hid, fun hstate => absurd hstate hended⟩
    have hafter : Delivering (w.deliverAll terms p (w.pending poll)) [] := by
      refine hbefore.deliverAll hanswers fun event hmem => ?_
      exact mem_flatten_of_mem_getLogs (w.pending_events poll ▸ List.mem_map_of_mem hmem)
    obtain ⟨hrecord, hblocks⟩ := deliverAll_record terms p (w.pending poll) w
    refine ⟨hafter.keyed, ?_, ?_, ?_, ?_⟩
    · exact h.baseline_le.trans h.lastSeen_le
    · exact hblocks ▸ le_rfl
    · dsimp only
      rw [hrecord, hblocks, h.delivered, w.pending_events poll, getLogs_append _ h.baseline_le h.lastSeen_le h.lastSeen_le]
    · intro delivery hmem sessionId hsession
      obtain ⟨session, hget, hid, hstill⟩ := hafter.settled delivery hmem sessionId hsession
      refine ⟨session, hget, hid, fun hstate => ?_⟩
      obtain ⟨_, hmem', -⟩ := hstill hstate
      exact List.not_mem_nil hmem'

end Runs

/-- In a run in which the reads of a turn for an entitlement with an active session do not all fail, no
revocation is lost, whatever else fails. -/
theorem revocations_are_not_lost (cfg : Config) (terms : Int → EntitlementView) (p : Provisioner N)
    (hanswers : p.Answers) (controllerId : String) (n : N) (blocks : Blocks) (occurrences : List Occurrence)
    (w : Watcher N)
    (hreads : Guarded (Watcher.step terms p cfg) ReadsOnce (Watcher.start (Service.start controllerId n) blocks)
      occurrences)
    (hrun : run (Watcher.step terms p cfg) (Watcher.start (Service.start controllerId n) blocks) occurrences =
      some w) :
    NotLost blocks.length w := by
  have hwatched : Watched blocks.length w := by
    refine run_invariant (fun s occurrence next h hguard hstep => ?_) (watched_start controllerId n blocks) hreads
      hrun
    cases occurrence with
    | mine revoked =>
        cases hstep
        exact h.mine revoked
    | perform op =>
        cases hstep
        exact h.perform op
    | poll poll =>
        cases hstep
        exact h.watchLoop hanswers hguard
  exact hwatched.notLost

def labTerms (entitlementId : Int) : EntitlementView := labView entitlementId 10000000

/-- Entitlement 1 is activated and revoked, and the watcher polls; the read of its callback may fail. -/
def revocation (answered : Bool) : List Occurrence :=
  (labActivation "0x01" 1 10).map .perform ++ [.mine [1], .poll ⟨true, true, fun _ => answered⟩]

open Network in
theorem labProvisioner_answers : labProvisioner.provisioner.Answers := fun _ _ => rfl

open Network in
theorem revocations_are_not_lost_one :
    ∃ w, run (Watcher.step labTerms labProvisioner.provisioner labConfig)
        (Watcher.start (Service.start "bw-ctrl-1" fun _ => .empty) []) (revocation true) = some w ∧
      w.lastSeen = 1 ∧ NotLost 0 w := by
  refine ⟨_, rfl, rfl, revocations_are_not_lost labConfig labTerms labProvisioner.provisioner
    labProvisioner_answers "bw-ctrl-1" (fun _ => .empty) [] (revocation true) _ ?_ rfl⟩
  refine Guarded.cons trivial rfl (Guarded.cons trivial rfl (Guarded.cons trivial rfl (Guarded.cons ?_ rfl trivial)))
  rintro - - entitlementId - ⟨event, hmem, hid⟩
  cases List.mem_singleton.mp hmem
  exact ⟨_, hmem, hid, rfl⟩

open Network in
/-- One failed read: the cursor passes the event, and the session stays active. -/
theorem revocation_lost :
    ¬ ∀ (cfg : Config) (terms : Int → EntitlementView) (p : Provisioner Devices), p.Answers →
      ∀ (controllerId : String) (devices : Devices) (blocks : Blocks) (occurrences : List Occurrence)
        (w : Watcher Devices),
        run (Watcher.step terms p cfg) (Watcher.start (Service.start controllerId devices) blocks) occurrences =
          some w → NotLost blocks.length w := by
  intro hclaim
  have h := hclaim labConfig labTerms labProvisioner.provisioner labProvisioner_answers "bw-ctrl-1"
    (fun _ => .empty) [] (revocation false) _ rfl
  obtain ⟨-, hended⟩ := h (1, 1) (by decide)
  exact hended ⟨(1, 1), ["ent1-a0"]⟩ (List.mem_singleton_self _) rfl "ent1-a0" (List.mem_singleton_self _)
    ⟨"ent1-a0", 1, .active, 10, 100⟩ ⟨rfl, rfl⟩

end A2AProvisioning.Controller
