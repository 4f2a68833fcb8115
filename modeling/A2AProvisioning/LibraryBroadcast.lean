import A2AProvisioning.LibraryLockstep
import A2AProvisioning.LibraryMachine
import Mathlib.Data.List.Nodup

/-! A hub that gives every event to whoever is subscribed, and a worker that speaks through it. A broadcast holds the
hub while it goes from queue to queue; readers take from their queues meanwhile. The worker does one task at a time, and
who comes while it is busy is told so. The log is the order in which the broadcasts got hold of the hub. -/

namespace Broadcast

/-- A subscriber with what it has taken and what is queued for it, and how long the log was when it came. -/
structure Subscriber (E : Type) where
  id : Nat
  since : Nat
  taken : List E
  queue : List E

/-- A broadcast that is under way has an event, and subscribers that have yet to get it. -/
structure Hub (E : Type) where
  subscribers : List (Subscriber E)
  underway : Option (E × List Nat)
  fresh : Nat
  log : List E

variable {E : Type}

namespace Subscriber

def put (event : E) (s : Subscriber E) : Subscriber E := { s with queue := s.queue ++ [event] }

/-- The first event of the queue; nothing where it is empty. -/
def take (s : Subscriber E) : Subscriber E :=
  match s.queue with
  | [] => s
  | event :: rest => { s with
      taken := s.taken ++ [event]
      queue := rest }

@[simp] theorem take_id (s : Subscriber E) : s.take.id = s.id := by
  rw [take]
  split <;> rfl

@[simp] theorem take_since (s : Subscriber E) : s.take.since = s.since := by
  rw [take]
  split <;> rfl

/-- What is taken leaves the queue. -/
theorem take_received (s : Subscriber E) : s.take.taken ++ s.take.queue = s.taken ++ s.queue := by
  rw [take]
  split
  · rfl
  · rename_i event rest hqueue
    rw [hqueue, List.append_assoc, List.singleton_append]

end Subscriber

/-- The subscriber of that id, changed. -/
def at' (id : Nat) (change : Subscriber E → Subscriber E) (s : Subscriber E) : Subscriber E :=
  if s.id = id then change s else s

namespace Hub

def empty : Hub E := ⟨[], none, 0, []⟩

def subscribe (h : Hub E) : Option (Hub E) :=
  match h.underway with
  | some _ => none
  | none => some { h with
      subscribers := h.subscribers ++ [⟨h.fresh, h.log.length, [], []⟩]
      fresh := h.fresh + 1 }

/-- A broadcast gets hold of the hub. -/
def start (event : E) (h : Hub E) : Option (Hub E) :=
  match h.underway with
  | some _ => none
  | none => some { h with
      underway := if h.subscribers = [] then none else some (event, h.subscribers.map Subscriber.id)
      log := h.log ++ [event] }

/-- The next queue; with the last one the hub is free. -/
def put (h : Hub E) : Option (Hub E) :=
  match h.underway with
  | some (event, id :: rest) => some { h with
      subscribers := h.subscribers.map (at' id (.put event))
      underway := if rest = [] then none else some (event, rest) }
  | _ => none

def take (id : Nat) (h : Hub E) : Hub E := { h with subscribers := h.subscribers.map (at' id .take) }

def leave (id : Nat) (h : Hub E) : Option (Hub E) :=
  match h.underway with
  | some _ => none
  | none => some { h with subscribers := h.subscribers.filter fun s => s.id ≠ id }

end Hub

/-- What a broadcast has yet to bring to a subscriber. -/
def due (underway : Option (E × List Nat)) (id : Nat) : List E :=
  match underway with
  | some (event, rest) => if id ∈ rest then [event] else []
  | none => []

namespace Hub

/-- Every subscriber has the log since it came. -/
structure Follows (h : Hub E) : Prop where
  nodup : (h.subscribers.map Subscriber.id).Nodup
  fresh : ∀ s ∈ h.subscribers, s.id < h.fresh
  since : ∀ s ∈ h.subscribers, s.since ≤ h.log.length
  underway : ∀ event rest, h.underway = some (event, rest) → rest ≠ [] ∧ rest.Nodup
  received : ∀ s ∈ h.subscribers, s.taken ++ s.queue ++ due h.underway s.id = h.log.drop s.since

theorem follows_empty : Follows (empty : Hub E) where
  nodup := List.nodup_nil
  fresh _ hmem := absurd hmem List.not_mem_nil
  since _ hmem := absurd hmem List.not_mem_nil
  underway _ _ hsome := by cases hsome
  received _ hmem := absurd hmem List.not_mem_nil

section Follows

variable {h next : Hub E}

theorem Follows.subscribe (hfollows : Follows h) (hstep : h.subscribe = some next) : Follows next := by
  rw [Hub.subscribe] at hstep
  split at hstep
  · cases hstep
  · rename_i hfree
    cases hstep
    refine ⟨?_, fun s hmem => ?_, fun s hmem => ?_, hfollows.underway, fun s hmem => ?_⟩
    · rw [List.map_append, List.nodup_append]
      refine ⟨hfollows.nodup, List.nodup_singleton _, fun id hid id' hid' => ?_⟩
      obtain ⟨s, hmem, rfl⟩ := List.mem_map.mp hid
      rw [List.mem_singleton.mp hid']
      exact Nat.ne_of_lt (hfollows.fresh s hmem)
    · rcases List.mem_append.mp hmem with hmem | hmem
      · exact Nat.lt_succ_of_lt (hfollows.fresh s hmem)
      · rw [List.mem_singleton.mp hmem]
        exact Nat.lt_succ_self _
    · rcases List.mem_append.mp hmem with hmem | hmem
      · exact hfollows.since s hmem
      · obtain rfl := List.mem_singleton.mp hmem
        exact Nat.le_refl _
    · rcases List.mem_append.mp hmem with hmem | hmem
      · exact hfollows.received s hmem
      · rw [List.mem_singleton.mp hmem]
        dsimp only
        rw [hfree, List.drop_length]
        rfl

theorem Follows.start {event : E} (hfollows : Follows h) (hstep : h.start event = some next) : Follows next := by
  rw [Hub.start] at hstep
  split at hstep
  · cases hstep
  · rename_i hfree
    cases hstep
    refine ⟨hfollows.nodup, hfollows.fresh, fun s hmem => ?_, fun event' rest hsome => ?_, fun s hmem => ?_⟩
    · rw [List.length_append]
      exact Nat.le_add_right_of_le (hfollows.since s hmem)
    · split_ifs at hsome with hempty
      cases hsome
      exact ⟨fun hnil => hempty (List.map_eq_nil_iff.mp hnil), hfollows.nodup⟩
    · have hreceived := hfollows.received s hmem
      rw [hfree, due, List.append_nil] at hreceived
      rw [hreceived, List.drop_append_of_le_length (hfollows.since s hmem), if_neg (List.ne_nil_of_mem hmem), due,
        if_pos (List.mem_map_of_mem hmem)]

/-- The queues change, and what is on its way. -/
theorem Follows.of_map (hfollows : Follows h) {change : Subscriber E → Subscriber E} (hid : ∀ s, (change s).id = s.id)
    (hsince : ∀ s, (change s).since = s.since) {underway : Option (E × List Nat)}
    (hunderway : ∀ event rest, underway = some (event, rest) → rest ≠ [] ∧ rest.Nodup)
    (hreceived : ∀ s ∈ h.subscribers,
      (change s).taken ++ (change s).queue ++ due underway s.id = s.taken ++ s.queue ++ due h.underway s.id) :
    Follows { h with
      subscribers := h.subscribers.map change
      underway := underway } := by
  refine ⟨?_, fun s hmem => ?_, fun s hmem => ?_, hunderway, fun s hmem => ?_⟩
  · have hids : (h.subscribers.map change).map Subscriber.id = h.subscribers.map Subscriber.id := by
      rw [List.map_map]
      exact List.map_congr_left fun s _ => hid s
    rw [hids]
    exact hfollows.nodup
  all_goals obtain ⟨before, hbefore, rfl⟩ := List.mem_map.mp hmem
  · rw [hid]
    exact hfollows.fresh before hbefore
  · rw [hsince]
    exact hfollows.since before hbefore
  · rw [hid, hsince, hreceived before hbefore]
    exact hfollows.received before hbefore

theorem Follows.put (hfollows : Follows h) (hstep : h.put = some next) : Follows next := by
  rw [Hub.put] at hstep
  split at hstep
  · rename_i event id rest hunderway
    cases hstep
    obtain ⟨hid, hrest⟩ := List.nodup_cons.mp (hfollows.underway _ _ hunderway).2
    have hdue : ∀ other, due (if rest = [] then none else some (event, rest)) other =
        if other ∈ rest then [event] else [] := by
      intro other
      cases rest <;> rfl
    apply hfollows.of_map
    · intro s
      rw [at']
      split_ifs <;> rfl
    · intro s
      rw [at']
      split_ifs <;> rfl
    · intro event' rest' hsome
      split_ifs at hsome with hempty
      cases hsome
      exact ⟨hempty, hrest⟩
    · intro s hmem
      rw [hunderway, hdue, due, at']
      by_cases hat : s.id = id
      · rw [if_pos hat, hat, if_neg hid, if_pos List.mem_cons_self, List.append_nil, Subscriber.put, List.append_assoc]
      · simp only [if_neg hat, List.mem_cons, or_iff_right hat]
  · cases hstep

theorem Follows.take (hfollows : Follows h) (id : Nat) : Follows (h.take id) := by
  have hstays : ∀ s : Subscriber E, (at' id Subscriber.take s).id = s.id ∧ (at' id Subscriber.take s).since = s.since ∧
      (at' id Subscriber.take s).taken ++ (at' id Subscriber.take s).queue = s.taken ++ s.queue := by
    intro s
    rw [at']
    split_ifs
    · exact ⟨s.take_id, s.take_since, s.take_received⟩
    · exact ⟨rfl, rfl, rfl⟩
  apply hfollows.of_map (fun s => (hstays s).1) (fun s => (hstays s).2.1) hfollows.underway
  intro s _
  rw [(hstays s).2.2]

theorem Follows.leave (hfollows : Follows h) {id : Nat} (hstep : h.leave id = some next) : Follows next := by
  rw [Hub.leave] at hstep
  split at hstep
  · cases hstep
  · cases hstep
    have hsub : ∀ s ∈ h.subscribers.filter (fun s => s.id ≠ id), s ∈ h.subscribers := fun s hmem =>
      (List.mem_filter.mp hmem).1
    refine ⟨hfollows.nodup.sublist (List.filter_sublist.map _), fun s hmem => hfollows.fresh s (hsub s hmem),
      fun s hmem => hfollows.since s (hsub s hmem), hfollows.underway, fun s hmem => hfollows.received s (hsub s hmem)⟩

end Follows

end Hub

/-! ### The worker -/

/-- What is broadcast: a line of the worker, or the notice that it was busy. -/
inductive Event (L : Type)
  | line (line : L)
  | busy

/-- The lines of the worker. -/
def lines {L : Type} (events : List (Event L)) : List L :=
  events.filterMap fun event =>
    match event with
    | .line line => some line
    | .busy => none

/-- A prefix of the log has a prefix of the lines. -/
theorem lines_prefix {L : Type} {events log : List (Event L)} (h : events <+: log) : lines events <+: lines log :=
  h.filterMap _

/-- The worker with its task and what it has still to say, the requests that were turned away and have yet to tell, and
the tasks in the order in which they were taken on. -/
structure Server (S A L : Type) where
  hub : Hub (Event L)
  state : S
  running : Option (A × List L)
  turnedAway : Nat
  accepted : List A

inductive Act (A : Type)
  | request (task : A)
  | say
  | finish
  | tell
  | subscribe
  | put
  | take (id : Nat)
  | leave (id : Nat)

namespace Server

variable {S A L O : Type}

def start (s : S) : Server S A L := ⟨.empty, s, none, 0, []⟩

/-- The worker's own broadcast is under way. -/
def speaking (c : Server S A L) : Bool :=
  match c.hub.underway with
  | some (.line _, _) => true
  | _ => false

def withHub (c : Server S A L) (hub : Hub (Event L)) : Server S A L := { c with hub := hub }

variable (step : A → S → O × S) (report : A → S → List L)

def act (c : Server S A L) : Act A → Option (Server S A L)
  | .request task =>
      match c.running with
      | none => some { c with
          running := some (task, report task c.state)
          accepted := c.accepted ++ [task] }
      | some _ => some { c with turnedAway := c.turnedAway + 1 }
  | .say =>
      match c.running with
      | some (task, line :: rest) => (c.hub.start (.line line)).map fun hub => { c.withHub hub with
          running := some (task, rest) }
      | _ => none
  | .finish =>
      match c.running with
      | some (task, []) =>
          if c.speaking then none else some { c with
            state := (step task c.state).2
            running := none }
      | _ => none
  | .tell =>
      if c.turnedAway = 0 then none
      else (c.hub.start .busy).map fun hub => { c.withHub hub with turnedAway := c.turnedAway - 1 }
  | .subscribe => c.hub.subscribe.map c.withHub
  | .put => c.hub.put.map c.withHub
  | .take id => some (c.withHub (c.hub.take id))
  | .leave id => (c.hub.leave id).map c.withHub

/-- What the tasks say, done one after the other. -/
def spoken : S → List A → List L
  | _, [] => []
  | s, task :: tasks => report task s ++ spoken (step task s).2 tasks

theorem spoken_snoc (s : S) (tasks : List A) (task : A) :
    spoken step report s (tasks ++ [task]) =
      spoken step report s tasks ++ report task (Lockstep.run step s tasks).2 := by
  induction tasks generalizing s with
  | nil => rw [List.nil_append, spoken, spoken, spoken, List.append_nil]; rfl
  | cons first tasks ih =>
      rw [List.cons_append, spoken, ih, spoken, List.append_assoc]
      rfl

/-- The tasks are done one at a time, in the order in which they were taken on, and said so. -/
structure Serves (s : S) (c : Server S A L) : Prop where
  done : ∃ done, c.accepted = done ++ (c.running.map Prod.fst).toList ∧ c.state = (Lockstep.run step s done).2
  said : lines c.hub.log ++ (c.running.map Prod.snd).getD [] = spoken step report s c.accepted
  follows : c.hub.Follows

variable {step report} {s : S} {c next : Server S A L}

theorem serves_start (s : S) : Serves step report s (start s) where
  done := ⟨[], rfl, rfl⟩
  said := rfl
  follows := Hub.follows_empty

theorem log_of_start {E : Type} {h next : Hub E} {event : E} (hstep : h.start event = some next) :
    next.log = h.log ++ [event] := by
  rw [Hub.start] at hstep
  split at hstep
  · cases hstep
  · cases hstep
    rfl

/-- What a step does. Only with a request is a task taken on, and of the steps of the hub only a start changes the log. -/
inductive Does (step : A → S → O × S) (report : A → S → List L) (c : Server S A L) : Act A → Server S A L → Prop
  | takesOn {task : A} (hidle : c.running = none) : Does step report c (.request task) { c with
      running := some (task, report task c.state)
      accepted := c.accepted ++ [task] }
  | turnsAway {task : A} : Does step report c (.request task) { c with turnedAway := c.turnedAway + 1 }
  | speaks {task : A} {line : L} {rest : List L} {hub : Hub (Event L)} (hrunning : c.running = some (task, line :: rest))
      (hhub : c.hub.start (.line line) = some hub) :
      Does step report c .say { c.withHub hub with running := some (task, rest) }
  | ends {task : A} (hrunning : c.running = some (task, [])) : Does step report c .finish { c with
      state := (step task c.state).2
      running := none }
  | tells {hub : Hub (Event L)} (hhub : c.hub.start .busy = some hub) :
      Does step report c .tell { c.withHub hub with turnedAway := c.turnedAway - 1 }
  | moves {act : Act A} {hub : Hub (Event L)} (hlog : hub.log = c.hub.log) (hfollows : c.hub.Follows → hub.Follows) :
      Does step report c act (c.withHub hub)

theorem does_of_act {act : Act A} (hstep : c.act step report act = some next) : Does step report c act next := by
  cases act with
  | request task =>
      rw [Server.act] at hstep
      split at hstep
      · rename_i hidle
        cases hstep
        exact .takesOn hidle
      · cases hstep
        exact .turnsAway
  | say =>
      rw [Server.act] at hstep
      split at hstep
      · rename_i task line rest hrunning
        obtain ⟨hub, hhub, rfl⟩ := Option.map_eq_some_iff.mp hstep
        exact .speaks hrunning hhub
      · cases hstep
  | finish =>
      rw [Server.act] at hstep
      split at hstep
      · rename_i task hrunning
        split_ifs at hstep
        cases hstep
        exact .ends hrunning
      · cases hstep
  | tell =>
      rw [Server.act] at hstep
      split_ifs at hstep
      obtain ⟨hub, hhub, rfl⟩ := Option.map_eq_some_iff.mp hstep
      exact .tells hhub
  | subscribe =>
      obtain ⟨hub, hhub, rfl⟩ := Option.map_eq_some_iff.mp hstep
      refine .moves ?_ fun hfollows => hfollows.subscribe hhub
      rw [Hub.subscribe] at hhub
      split at hhub <;> cases hhub
      rfl
  | put =>
      obtain ⟨hub, hhub, rfl⟩ := Option.map_eq_some_iff.mp hstep
      refine .moves ?_ fun hfollows => hfollows.put hhub
      rw [Hub.put] at hhub
      split at hhub <;> cases hhub
      rfl
  | take id =>
      cases hstep
      exact .moves rfl fun hfollows => hfollows.take id
  | leave id =>
      obtain ⟨hub, hhub, rfl⟩ := Option.map_eq_some_iff.mp hstep
      refine .moves ?_ fun hfollows => hfollows.leave hhub
      rw [Hub.leave] at hhub
      split at hhub <;> cases hhub
      rfl

theorem Serves.act (h : Serves step report s c) {act : Act A} (hstep : c.act step report act = some next) :
    Serves step report s next := by
  obtain ⟨done, haccepted, hstate⟩ := h.done
  have hsaid := h.said
  cases does_of_act hstep with
  | takesOn hidle =>
      rw [hidle] at haccepted hsaid
      have hdone : c.accepted = done := by rw [haccepted]; exact List.append_nil _
      refine ⟨⟨done, by rw [hdone]; rfl, hstate⟩, ?_, h.follows⟩
      dsimp only
      rw [spoken_snoc, ← hsaid, hdone, ← hstate]
      simp
  | turnsAway => exact ⟨h.done, h.said, h.follows⟩
  | speaks hrunning hhub =>
      -- the line goes from what is still to be said to the end of the log
      rw [hrunning] at haccepted hsaid
      refine ⟨⟨done, haccepted, hstate⟩, ?_, h.follows.start hhub⟩
      dsimp only [Server.withHub]
      rw [log_of_start hhub, ← hsaid]
      simp [lines]
  | @ends task hrunning =>
      rw [hrunning] at haccepted hsaid
      refine ⟨⟨c.accepted, (List.append_nil _).symm, ?_⟩, hsaid, h.follows⟩
      have hlast : c.accepted = done ++ [task] := haccepted
      dsimp only
      rw [hlast, Lockstep.run_snoc, ← hstate]
  | tells hhub =>
      refine ⟨h.done, ?_, h.follows.start hhub⟩
      dsimp only [Server.withHub]
      rw [log_of_start hhub, ← hsaid]
      simp [lines]
  | moves hlog hfollows =>
      refine ⟨h.done, ?_, hfollows h.follows⟩
      dsimp only [Server.withHub]
      rw [hlog]
      exact h.said

/-- Over any interleaving of requests, the worker and the readers. -/
theorem serves_run {acts : List (Act A)} (hrun : Machine.run (Server.act step report) (start s) acts = some c) :
    Serves step report s c :=
  Machine.run_invariant_of_step (fun _ _ _ h hstep => h.act hstep) (serves_start s) hrun

/-- Nothing is taken on but what was requested. -/
theorem accepted_run {acts : List (Act A)} (hrun : Machine.run (Server.act step report) (start s) acts = some c) :
    ∀ task ∈ c.accepted, .request task ∈ acts := by
  refine @Machine.run_invariant_of_mem _ _ (Server.act step report) (fun c => ∀ task ∈ c.accepted, .request task ∈ acts)
    acts (fun before act hact next h hstep => ?_) _ _ (fun task hmem => absurd hmem List.not_mem_nil) hrun
  cases does_of_act hstep with
  | @takesOn taken hidle =>
      intro task hmem
      rcases List.mem_append.mp hmem with hmem | hmem
      · exact h task hmem
      · exact List.mem_singleton.mp hmem ▸ hact
  | _ => exact h

/-- A broadcast ends by its own steps. -/
theorem exists_free (h : Serves step report s c) :
    ∃ acts free, (∀ act ∈ acts, act = .put) ∧ Machine.run (Server.act step report) c acts = some free ∧
      free.hub.underway = none ∧ free.running = c.running ∧ free.state = c.state ∧ free.accepted = c.accepted := by
  cases hunderway : c.hub.underway with
  | none => exact ⟨[], c, fun _ hmem => absurd hmem List.not_mem_nil, rfl, hunderway, rfl, rfl, rfl⟩
  | some broadcast =>
      obtain ⟨event, rest⟩ := broadcast
      obtain ⟨hrest, -⟩ := h.follows.underway event rest hunderway
      induction rest generalizing c with
      | nil => exact absurd rfl hrest
      | cons id rest ih =>
          set hub : Hub (Event L) := { c.hub with
            subscribers := c.hub.subscribers.map (at' id (.put event))
            underway := if rest = [] then none else some (event, rest) } with hhub
          have hput : c.act step report .put = some (c.withHub hub) := by
            rw [act, Hub.put, hunderway]
            rfl
          have hnext := h.act hput
          by_cases hnil : rest = []
          · refine ⟨[.put], c.withHub hub, fun act hmem => List.mem_singleton.mp hmem, ?_, if_pos hnil, rfl, rfl, rfl⟩
            rw [Machine.run, hput]
            rfl
          · obtain ⟨acts, free, hacts, hrun, hfree⟩ := ih hnext (if_neg hnil) hnil
            refine ⟨.put :: acts, free, List.forall_mem_cons.mpr ⟨rfl, hacts⟩, ?_, hfree⟩
            rw [Machine.run, hput, Option.bind_some, hrun]

/-- The worker ends its task, whatever the others do not do. -/
theorem exists_idle (h : Serves step report s c) :
    ∃ acts idle, (∀ act ∈ acts, act = .put ∨ act = .say ∨ act = .finish) ∧
      Machine.run (Server.act step report) c acts = some idle ∧ idle.running = none ∧ idle.accepted = c.accepted := by
  cases hrunning : c.running with
  | none => exact ⟨[], c, fun _ hmem => absurd hmem List.not_mem_nil, rfl, hrunning, rfl⟩
  | some work =>
      obtain ⟨task, rest⟩ := work
      induction rest generalizing c with
      | nil =>
          obtain ⟨acts, free, hacts, hrun, hfree, hsame, -, haccepted⟩ := exists_free h
          set idle : Server S A L := { free with
            state := (step task free.state).2
            running := none } with hidle
          have hfinish : free.act step report .finish = some idle := by
            rw [act, hsame, hrunning]
            dsimp only
            rw [if_neg]
            rw [speaking, hfree]
            exact Bool.false_ne_true
          refine ⟨acts ++ [.finish], idle, fun act hmem => ?_, ?_, rfl, haccepted⟩
          · rcases List.mem_append.mp hmem with hmem | hmem
            · exact Or.inl (hacts act hmem)
            · exact Or.inr (Or.inr (List.mem_singleton.mp hmem))
          · rw [Machine.run_append, hrun, Option.bind_some, Machine.run, hfinish]
            rfl
      | cons line rest ih =>
          obtain ⟨acts, free, hacts, hrun, hfree, hsame, -, haccepted⟩ := exists_free h
          have hserves : Serves step report s free :=
            Machine.run_invariant_of_step (fun _ _ _ h hstep => h.act hstep) h hrun
          have hstart : ∃ hub, free.hub.start (.line line) = some hub := by
            rw [Hub.start, hfree]
            exact ⟨_, rfl⟩
          obtain ⟨hub, hhub⟩ := hstart
          have hsay : free.act step report .say = some { free.withHub hub with running := some (task, rest) } := by
            rw [act, hsame, hrunning]
            dsimp only
            rw [hhub]
            rfl
          obtain ⟨acts', idle, hacts', hrun', hidle, haccepted'⟩ := ih (hserves.act hsay) rfl
          refine ⟨acts ++ .say :: acts', idle, fun act hmem => ?_, ?_, hidle, haccepted'.trans haccepted⟩
          · rcases List.mem_append.mp hmem with hmem | hmem
            · exact Or.inl (hacts act hmem)
            · rcases List.mem_cons.mp hmem with rfl | hmem
              · exact Or.inr (Or.inl rfl)
              · exact hacts' act hmem
          · rw [Machine.run_append, hrun, Option.bind_some, Machine.run, hsay, Option.bind_some, hrun']

end Server

end Broadcast
