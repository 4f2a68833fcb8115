import A2AProvisioning.LibraryBroadcast
import A2AProvisioning.LifecycleConsole

/-! The server of the console. Any number of pages send requests and listen; `_run` lets one action run at a time, in a
thread of its own, and `_broadcast` brings what it emits to the queue of every page. -/

namespace A2AProvisioning.Lifecycle

open Reentrant

/-- `CONSOLE`, `_subscribers` and the two locks. A line is what an action emits. -/
abbrev Server (T K N L : Type) := Broadcast.Server (Console T K N) Action L

namespace Operator

variable {T K N L : Type} (x : Operator T K) (p : Controller.Provisioner N) (emits : Action → Console T K N → List L)

/-- A step of one of the threads: a request comes to `_run`, the worker or a request that was turned away gets hold of
`_subs_lock` for a `_broadcast`, an event is put into a queue, the worker releases `_busy`, or a page of `events` comes,
takes from its queue or goes. -/
def serve (c : Server T K N L) (act : Broadcast.Act Action) : Option (Server T K N L) := c.act (x.step p) emits act

/-- What holds of a server that began with the console `first`. -/
structure PagesFollow (first : Console T K N) (c : Server T K N L) : Prop where
  /-- The console is as if the actions had been run one after the other, and its books are kept. -/
  books : ∃ done, c.accepted = done ++ (c.running.map Prod.fst).toList ∧
    c.state = (Lockstep.run (x.step p) first done).2 ∧ KeepsBooks x (Lockstep.run (x.step p) first done).1 c.state
  /-- A page has taken, has queued or is about to get all that was broadcast since it came, in the one order. -/
  page : ∀ page ∈ c.hub.subscribers,
    page.taken ++ page.queue ++ Broadcast.due c.hub.underway page.id = c.hub.log.drop page.since
  /-- A page that was there from the start has read of the actions one after the other. -/
  early : ∀ page ∈ c.hub.subscribers, page.since = 0 →
    Broadcast.lines page.taken <+: Broadcast.Server.spoken (x.step p) emits first c.accepted
  /-- The worker needs nobody but the broadcasts to get done. -/
  ends : ∃ acts idle, (∀ act ∈ acts, act = .put ∨ act = .say ∨ act = .finish) ∧
    Machine.run (x.serve p emits) c acts = some idle ∧ idle.running = none ∧ idle.accepted = c.accepted

variable {x p emits}

/-- Whatever the pages request and however the threads interleave. -/
theorem pages_follow_the_console (x : Operator T K) (hd : Skeleton.Reliable x.deployment)
    (p : Controller.Provisioner N) (emits : Action → Console T K N → List L) (w : Settlement.World T K)
    (hreached : Reaches x.contracts (Settlement.World.deployed x.deployment) w) (controllerId : String) (n : N)
    (acts : List (Broadcast.Act Action)) (hstrange : ∀ action, .request action ∈ acts → x.Strange action)
    {c : Server T K N L} (hrun : Machine.run (x.serve p emits) (.start (x.start w controllerId n)) acts = some c) :
    PagesFollow x p emits (x.start w controllerId n) c := by
  have hserves : Broadcast.Server.Serves (x.step p) emits (x.start w controllerId n) c :=
    Broadcast.Server.serves_run hrun
  have haccepted : ∀ action ∈ c.accepted, x.Strange action := fun action hmem =>
    hstrange action (Broadcast.Server.accepted_run hrun action hmem)
  refine ⟨?_, hserves.follows.received, fun page hmem hearly => ?_, Broadcast.Server.exists_idle hserves⟩
  · obtain ⟨done, hdone, hstate⟩ := hserves.done
    refine ⟨done, hdone, hstate, ?_⟩
    rw [hstate]
    refine console_keeps_books x hd p w hreached controllerId n done fun action hmem => ?_
    exact haccepted action (hdone ▸ List.mem_append_left _ hmem)
  · have hreceived := hserves.follows.received page hmem
    rw [hearly, List.drop_zero] at hreceived
    calc Broadcast.lines page.taken
        <+: Broadcast.lines c.hub.log := Broadcast.lines_prefix ⟨_, by rw [← hreceived, List.append_assoc]⟩
      _ <+: Broadcast.Server.spoken (x.step p) emits (x.start w controllerId n) c.accepted := ⟨_, hserves.said⟩

end Operator

/-- A page comes, a purchase is begun, and a revocation that is asked for meanwhile is turned away. -/
def labActs : List (Broadcast.Act Action) :=
  [.subscribe, .request (.provision labProvision "bandwidth" 15), .request (.revoke labRevocation), .say, .put, .take 0,
    .tell, .put, .finish]

def labEmits : Action → Console Settlement.Registry Settlement.Ledger Network.Devices → List String
  | .provision _ service _, _ => [service]
  | .revoke _, _ => ["revoke"]

/-- The console has not been run yet. -/
def labServer : Server Settlement.Registry Settlement.Ledger Network.Devices String :=
  .start (labOperator.start labStack.world "bw-ctrl-1" fun _ => .empty)

theorem pages_follow_the_console_lab : ∃ c : Server Settlement.Registry Settlement.Ledger Network.Devices String,
    Machine.run (labOperator.serve Network.labProvisioner.provisioner labEmits) labServer labActs = some c ∧
      Operator.PagesFollow labOperator Network.labProvisioner.provisioner labEmits labServer.state c := by
  refine ⟨_, rfl, Operator.pages_follow_the_console labOperator labDeployment_reliable
    Network.labProvisioner.provisioner labEmits labStack.world (reaches_history _ _) "bw-ctrl-1" (fun _ => .empty)
    labActs (fun action hmem => ?_) rfl⟩
  simp only [labActs, List.mem_cons, List.not_mem_nil, or_false, Broadcast.Act.request.injEq, reduceCtorEq,
    false_or] at hmem
  rcases hmem with rfl | rfl
  · intro event hevent
    simp only [labProvision, List.mem_cons, List.not_mem_nil, or_false] at hevent
    rcases hevent with rfl | rfl
    · trivial
    · trivial
  · trivial

end A2AProvisioning.Lifecycle
