import A2AProvisioning.LibraryDict

/-! The part of a router's configuration that the provisioner reads and writes: policer templates, the
QoS entries of subinterfaces, and the two node kinds of a telemetry export. An update merges into the
tree, a delete takes a list entry away; one Set is one transaction. -/

namespace A2AProvisioning.Network

structure Policer where
  peakRateKbps : Nat
  committedRateKbps : Nat
  maximumBurstSize : Nat
  committedBurstSize : Nat
  deriving DecidableEq

/-- The policers of a template, by sequence id. -/
structure PolicerTemplate where
  policers : OrderedDict Nat Policer

/-- A QoS entry: the subinterface it refers to and the template attached to its input. -/
structure QosInterface where
  interfaceRef : Option (String × Nat)
  policerTemplate : Option String
  deriving DecidableEq

structure Destination where
  address : String
  port : Nat
  networkInstance : String
  deriving DecidableEq

structure Tunnel where
  adminState : String
  destination : String
  target : String
  server : String
  deriving DecidableEq

structure Device where
  templates : OrderedDict String PolicerTemplate
  interfaces : OrderedDict String QosInterface
  destinations : OrderedDict String Destination
  tunnels : OrderedDict String Tunnel

inductive Path
  | policerTemplate (name : String)
  | qosInterface (subinterface : String)
  | telemetryDestination (name : String)
  | telemetryTunnel (name : String)
  deriving DecidableEq

namespace Device

def empty : Device := ⟨.empty, .empty, .empty, .empty⟩

/-- The update of a template merges policer 1 into the policers that are there. -/
def updateTemplate (d : Device) (name : String) (policer : Policer) : Device :=
  let policers := (d.templates.get? name).elim .empty PolicerTemplate.policers
  { d with templates := d.templates.insert name ⟨policers.insert 1 policer⟩ }

def updateInterface (d : Device) (subif : String) (entry : QosInterface) : Device :=
  { d with interfaces := d.interfaces.insert subif entry }

def updateExport (d : Device) (name : String) (destination : Destination) (tunnel : Tunnel) : Device :=
  { d with
    destinations := d.destinations.insert name destination
    tunnels := d.tunnels.insert name tunnel }

def delete (d : Device) : Path → Device
  | .policerTemplate name => { d with templates := d.templates.erase name }
  | .qosInterface subif => { d with interfaces := d.interfaces.erase subif }
  | .telemetryDestination name => { d with destinations := d.destinations.erase name }
  | .telemetryTunnel name => { d with tunnels := d.tunnels.erase name }

def deleteAll (d : Device) (paths : List Path) : Device := paths.foldl delete d

/-- Some node of the device is named after the session, or attached to its template. -/
def HasNamed (d : Device) (name : String) : Prop :=
  (d.templates.get? name).isSome ∨
    (∃ subif entry, d.interfaces.get? subif = some entry ∧ entry.policerTemplate = some name) ∨
    (d.destinations.get? name).isSome ∨ (d.tunnels.get? name).isSome

variable (d : Device) (paths : List Path)

theorem exists_policer_updateTemplate (name : String) (policer : Policer) :
    ∃ template, (d.updateTemplate name policer).templates.get? name = some template ∧
      template.policers.get? 1 = some policer := by
  refine ⟨_, (OrderedDict.get?_insert _ _ _ _).trans (if_pos rfl), ?_⟩
  rw [OrderedDict.get?_insert, if_pos rfl]

theorem templates_deleteAll (key : String) :
    (d.deleteAll paths).templates.get? key = if .policerTemplate key ∈ paths then none else d.templates.get? key :=
  OrderedDict.get?_foldl_erase templates delete .policerTemplate (fun _ _ => rfl)
    (fun _ path hne => by cases path <;> first | rfl | exact absurd rfl (hne _))
    (fun _ _ h => by cases h; rfl) d paths key

theorem interfaces_deleteAll (key : String) :
    (d.deleteAll paths).interfaces.get? key = if .qosInterface key ∈ paths then none else d.interfaces.get? key :=
  OrderedDict.get?_foldl_erase interfaces delete .qosInterface (fun _ _ => rfl)
    (fun _ path hne => by cases path <;> first | rfl | exact absurd rfl (hne _))
    (fun _ _ h => by cases h; rfl) d paths key

theorem destinations_deleteAll (key : String) :
    (d.deleteAll paths).destinations.get? key = if .telemetryDestination key ∈ paths then none else d.destinations.get? key :=
  OrderedDict.get?_foldl_erase destinations delete .telemetryDestination (fun _ _ => rfl)
    (fun _ path hne => by cases path <;> first | rfl | exact absurd rfl (hne _))
    (fun _ _ h => by cases h; rfl) d paths key

theorem tunnels_deleteAll (key : String) :
    (d.deleteAll paths).tunnels.get? key = if .telemetryTunnel key ∈ paths then none else d.tunnels.get? key :=
  OrderedDict.get?_foldl_erase tunnels delete .telemetryTunnel (fun _ _ => rfl)
    (fun _ path hne => by cases path <;> first | rfl | exact absurd rfl (hne _))
    (fun _ _ h => by cases h; rfl) d paths key

end Device

end A2AProvisioning.Network
