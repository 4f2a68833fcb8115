import A2AProvisioning.ControllerWatcher
import Mathlib.Logic.Function.Basic

/-! The loop of the watcher with any number of callbacks. A call to `watch_revoked` that finds no thread
reads the head of the chain as its baseline and starts one; each turn of the thread fetches the events
between its cursor and the head and hands each of them to every callback, whatever the callbacks raise. -/

namespace A2AProvisioning.Chain

open Machine Controller

inductive WatchError
  | blockNumber
  | getLogs
  | callback
  deriving DecidableEq

/-- `watcher` is the running thread, by the head of the chain it was started at. What a callback has been
handed is recorded under its place among the callbacks. -/
structure ChainWatcher (C : Type) where
  blocks : Blocks
  watchCallbacks : List C
  watcher : Option Nat
  lastSeen : Nat
  lastWatchError : Option WatchError
  handed : Nat → List Int

/-- Which requests of one turn are answered, and which callbacks raise: the n-th event at the callback in
that place. -/
structure Turn where
  blockNumber : Bool
  getLogs : Bool
  raises : Nat → Nat → Bool

inductive Occurrence (C : Type)
  | mine (revoked : List Int)
  | watchRevoked (callback : C) (blockNumber : Bool)
  | turn (turn : Turn)

def Occurrence.isTurn {C : Type} : Occurrence C → Bool
  | .turn _ => true
  | _ => false

def Occurrence.isRegistration {C : Type} : Occurrence C → Bool
  | .watchRevoked .. => true
  | _ => false

namespace ChainWatcher

variable {C : Type}

def start (blocks : Blocks) : ChainWatcher C := ⟨blocks, [], none, 0, none, fun _ => []⟩

/-- The callback is kept even where the read of the baseline raises. -/
def watchRevoked (w : ChainWatcher C) (callback : C) (blockNumber : Bool) : ChainWatcher C :=
  let w := { w with watchCallbacks := w.watchCallbacks ++ [callback] }
  match w.watcher with
  | some _ => w
  | none =>
      if blockNumber then
        { w with
          watcher := some w.blocks.length
          lastSeen := w.blocks.length }
      else w

/-- One call of a callback. -/
def handOver (w : ChainWatcher C) (entitlementId : Int) (place : Nat) (raises : Bool) : ChainWatcher C :=
  { w with
    handed := Function.update w.handed place (w.handed place ++ [entitlementId])
    lastWatchError := if raises then some .callback else w.lastWatchError }

/-- The inner loop, over the callbacks. -/
def handToAll (entitlementId : Int) (raises : Nat → Bool) : List Nat → ChainWatcher C → ChainWatcher C
  | [], w => w
  | place :: rest, w => handToAll entitlementId raises rest (w.handOver entitlementId place (raises place))

/-- The outer loop, over the events that were fetched, each with its number. -/
def deliverAll (raises : Nat → Nat → Bool) : List ((Nat × Int) × Nat) → ChainWatcher C → ChainWatcher C
  | [], w => w
  | (event, n) :: rest, w =>
      deliverAll raises rest (handToAll event.2 (raises n) (List.range w.watchCallbacks.length) w)

/-- One turn of `_watch_loop`. -/
def watchLoop (w : ChainWatcher C) (turn : Turn) : ChainWatcher C :=
  if turn.blockNumber = false then { w with lastWatchError := some .blockNumber }
  else if w.blocks.length ≤ w.lastSeen then w
  else if turn.getLogs = false then { w with lastWatchError := some .getLogs }
  else
    { deliverAll turn.raises (getLogs w.blocks (w.lastSeen + 1) w.blocks.length).zipIdx w with
      lastSeen := w.blocks.length }

/-- There are turns once the thread is running. -/
def step (w : ChainWatcher C) : Occurrence C → Option (ChainWatcher C)
  | .mine revoked => some { w with blocks := w.blocks ++ [revoked] }
  | .watchRevoked callback blockNumber => some (w.watchRevoked callback blockNumber)
  | .turn turn => if w.watcher.isSome then some (w.watchLoop turn) else none

end ChainWatcher

open ChainWatcher

variable {C : Type} {w next : ChainWatcher C}

/-- Handing an event round touches what the callbacks have been handed, and the last error. -/
theorem handToAll_eq (entitlementId : Int) (raises : Nat → Bool) {places : List Nat} (hnodup : places.Nodup)
    (w : ChainWatcher C) :
    ∃ error, handToAll entitlementId raises places w =
      { w with
        lastWatchError := error
        handed := fun place => if place ∈ places then w.handed place ++ [entitlementId] else w.handed place } := by
  induction places generalizing w with
  | nil => exact ⟨w.lastWatchError, rfl⟩
  | cons first rest ih =>
      obtain ⟨hfirst, hrest⟩ := List.nodup_cons.mp hnodup
      obtain ⟨error, heq⟩ := ih hrest (w.handOver entitlementId first (raises first))
      refine ⟨error, ?_⟩
      rw [handToAll, heq]
      simp only [handOver, mk.injEq, true_and]
      funext place
      by_cases hplace : place = first
      · subst hplace
        simp [hfirst]
      · simp [hplace]

/-- After the events of a turn each callback has been handed them all, in order. -/
theorem deliverAll_eq (raises : Nat → Nat → Bool) (events : List ((Nat × Int) × Nat)) (w : ChainWatcher C) :
    ∃ error, deliverAll raises events w =
      { w with
        lastWatchError := error
        handed := fun place =>
          if place < w.watchCallbacks.length then w.handed place ++ events.map (fun event => event.1.2)
          else w.handed place } := by
  induction events generalizing w with
  | nil => exact ⟨w.lastWatchError, by simp [deliverAll]⟩
  | cons first rest ih =>
      obtain ⟨event, n⟩ := first
      obtain ⟨error, hround⟩ := handToAll_eq event.2 (raises n) (List.nodup_range (n := w.watchCallbacks.length)) w
      obtain ⟨error', hrest⟩ := ih (handToAll event.2 (raises n) (List.range w.watchCallbacks.length) w)
      refine ⟨error', ?_⟩
      rw [deliverAll, hrest, hround]
      simp only [mk.injEq, true_and]
      funext place
      by_cases hplace : place < w.watchCallbacks.length
      · simp [hplace, List.mem_range]
      · simp [hplace, List.mem_range]

theorem map_zipIdx_events (events : List (Nat × Int)) :
    (events.zipIdx.map fun event => event.1.2) = events.map Prod.snd := by
  conv_rhs => rw [← List.zipIdx_map_fst 0 events, List.map_map]
  rfl

/-- Before the first turn nothing has been handed out, and the cursor of a running thread is its
baseline. -/
structure Registering (w : ChainWatcher C) : Prop where
  handed : ∀ place, w.handed place = []
  cursor : ∀ baseline, w.watcher = some baseline → w.lastSeen = baseline ∧ baseline ≤ w.blocks.length

/-- What each callback has been handed: the events since the baseline, up to the cursor. -/
structure CaughtUp (w : ChainWatcher C) : Prop where
  cursor : ∀ baseline, w.watcher = some baseline → baseline ≤ w.lastSeen ∧ w.lastSeen ≤ w.blocks.length
  handed : ∀ baseline, w.watcher = some baseline → ∀ place < w.watchCallbacks.length,
    w.handed place = (getLogs w.blocks (baseline + 1) w.lastSeen).map Prod.snd

theorem Registering.caughtUp (h : Registering w) : CaughtUp w where
  cursor := fun baseline hwatcher => by
    obtain ⟨hcursor, hle⟩ := h.cursor baseline hwatcher
    rw [hcursor]
    exact ⟨le_rfl, hle⟩
  handed := fun baseline hwatcher place _ => by
    rw [h.handed, (h.cursor baseline hwatcher).1, getLogs_self, List.map_nil]

theorem Registering.step (h : Registering w) {o : Occurrence C} (hturn : o.isTurn = false)
    (hstep : ChainWatcher.step w o = some next) : Registering next := by
  cases o with
  | mine revoked =>
      cases hstep
      refine ⟨h.handed, fun baseline hwatcher => ?_⟩
      obtain ⟨hcursor, hle⟩ := h.cursor baseline hwatcher
      exact ⟨hcursor, hle.trans (List.length_append ▸ Nat.le_add_right _ _)⟩
  | watchRevoked callback blockNumber =>
      cases hstep
      simp only [ChainWatcher.watchRevoked]
      split
      · exact ⟨h.handed, h.cursor⟩
      · split_ifs
        · refine ⟨h.handed, fun baseline heq => ?_⟩
          cases heq
          exact ⟨rfl, le_rfl⟩
        · exact ⟨h.handed, h.cursor⟩
  | turn turn => cases hturn

theorem CaughtUp.mine (h : CaughtUp w) (revoked : List Int) :
    CaughtUp { w with blocks := w.blocks ++ [revoked] } where
  cursor := fun baseline hwatcher => by
    obtain ⟨hbaseline, hle⟩ := h.cursor baseline hwatcher
    exact ⟨hbaseline, hle.trans (List.length_append ▸ Nat.le_add_right _ _)⟩
  handed := fun baseline hwatcher place hplace => by
    rw [getLogs_mine _ _ _ (h.cursor baseline hwatcher).2]
    exact h.handed baseline hwatcher place hplace

/-- A turn that gets to its events closes the gap up to the head; any other moves nothing. -/
theorem CaughtUp.watchLoop (h : CaughtUp w) (turn : Turn) : CaughtUp (w.watchLoop turn) := by
  rw [ChainWatcher.watchLoop]
  split_ifs with hnumber hhead hlogs
  · exact ⟨h.cursor, h.handed⟩
  · exact h
  · exact ⟨h.cursor, h.handed⟩
  · obtain ⟨error, heq⟩ := deliverAll_eq turn.raises
      (getLogs w.blocks (w.lastSeen + 1) w.blocks.length).zipIdx w
    rw [heq]
    refine ⟨fun baseline hwatcher => ⟨?_, le_rfl⟩, fun baseline hwatcher place hplace => ?_⟩
    · exact (h.cursor baseline hwatcher).1.trans (h.cursor baseline hwatcher).2
    · obtain ⟨hbaseline, hle⟩ := h.cursor baseline hwatcher
      have hplace' : place < w.watchCallbacks.length := hplace
      dsimp only
      rw [if_pos hplace', h.handed baseline hwatcher place hplace', map_zipIdx_events, ← List.map_append,
        getLogs_append _ hbaseline hle hle]

theorem CaughtUp.step (h : CaughtUp w) {o : Occurrence C} (hregistration : o.isRegistration = false)
    (hstep : ChainWatcher.step w o = some next) : CaughtUp next := by
  cases o with
  | mine revoked =>
      cases hstep
      exact h.mine revoked
  | watchRevoked callback blockNumber => cases hregistration
  | turn turn =>
      simp only [ChainWatcher.step] at hstep
      split_ifs at hstep
      cases hstep
      exact h.watchLoop turn

/-- Callbacks that are registered before the first turn are handed every event since the baseline and up to
the cursor, in the order of the chain and each once, whatever fails or raises. -/
theorem each_event_once (blocks : Blocks) (registrations turns : List (Occurrence C)) (w : ChainWatcher C)
    (hregistrations : ∀ o ∈ registrations, o.isTurn = false) (hturns : ∀ o ∈ turns, o.isRegistration = false)
    (hrun : run ChainWatcher.step (ChainWatcher.start blocks) (registrations ++ turns) = some w) (baseline : Nat)
    (hwatcher : w.watcher = some baseline) (place : Nat) (hplace : place < w.watchCallbacks.length) :
    w.handed place = (getLogs w.blocks (baseline + 1) w.lastSeen).map Prod.snd := by
  obtain ⟨first, hfirst, hrest⟩ := (run_append_eq_some _).mp hrun
  have hstart : Registering (ChainWatcher.start blocks : ChainWatcher C) := ⟨fun _ => rfl, fun _ h => by cases h⟩
  have hregistering : Registering first := run_invariant_of_mem
    (fun _ _ hmem _ h hstep => h.step (hregistrations _ hmem) hstep) hstart hfirst
  have hcaught : CaughtUp w := run_invariant_of_mem
    (fun _ _ hmem _ h hstep => h.step (hturns _ hmem) hstep) hregistering.caughtUp hrest
  exact hcaught.handed baseline hwatcher place hplace

/-- Two callbacks, the first of which raises; the second turn gets no logs, so the third has two blocks to
fetch. -/
theorem each_event_once_two :
    ∃ w : ChainWatcher String, run ChainWatcher.step (ChainWatcher.start [[7]])
        ([.watchRevoked "raises" true, .mine [1], .watchRevoked "returns" true] ++
          [.turn ⟨true, true, fun _ place => place = 0⟩, .mine [2, 1], .turn ⟨true, false, fun _ _ => false⟩,
            .mine [3], .turn ⟨true, true, fun _ place => place = 0⟩]) = some w ∧
      w.handed 1 = [1, 2, 1, 3] := by
  refine ⟨_, rfl, (each_event_once [[7]] [.watchRevoked "raises" true, .mine [1], .watchRevoked "returns" true]
    [.turn ⟨true, true, fun _ place => place = 0⟩, .mine [2, 1], .turn ⟨true, false, fun _ _ => false⟩, .mine [3],
      .turn ⟨true, true, fun _ place => place = 0⟩] _ ?_ ?_ rfl 1 rfl 1 (by decide)).trans rfl⟩
  · simp [Occurrence.isTurn]
  · simp [Occurrence.isRegistration]

/-- The same chain and cursor, and what the one callback has been handed. -/
structure Plays {N : Type} (w : Watcher N) (v : ChainWatcher C) : Prop where
  blocks : v.blocks = w.blocks
  lastSeen : v.lastSeen = w.lastSeen
  handed : v.handed 0 = w.deliveries.map fun delivery => delivery.event.2

/-- A turn of the controller's watcher is a turn of this loop with `handle_revoked` as its only callback. -/
theorem Plays.watchLoop {N : Type} {w : Watcher N} {v : ChainWatcher C} (h : Plays w v)
    (hone : v.watchCallbacks.length = 1) (terms : Int → EntitlementView) (p : Provisioner N) (poll : Poll)
    (raises : Nat → Nat → Bool) :
    Plays (w.watchLoop terms p poll) (v.watchLoop ⟨poll.blockNumber, poll.getLogs, raises⟩) := by
  rw [Watcher.watchLoop, ChainWatcher.watchLoop, h.blocks, h.lastSeen]
  split_ifs with hnumber hhead hlogs
  · exact ⟨rfl, rfl, h.handed⟩
  · exact h
  · exact ⟨rfl, rfl, h.handed⟩
  · obtain ⟨error, heq⟩ := deliverAll_eq raises (getLogs w.blocks (w.lastSeen + 1) w.blocks.length).zipIdx v
    obtain ⟨hrecord, hblocks⟩ := deliverAll_record terms p (w.pending poll) w
    have hids := congrArg (List.map Prod.snd) hrecord
    rw [heq]
    refine ⟨h.blocks.trans hblocks.symm, rfl, ?_⟩
    simp only [List.map_map, List.map_append] at hids
    dsimp only
    rw [hone, if_pos Nat.one_pos, h.handed, map_zipIdx_events, ← w.pending_events poll, List.map_map]
    exact hids.symm

end A2AProvisioning.Chain
