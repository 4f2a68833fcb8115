import A2AProvisioning.NetworkRouter

/-! What is read back off a router: the names of the sessions that it limits or exports for, and the listings of the
page. A Get of two subtrees may come back as one notification or as several, and a set of names holds whatever the
router gave for a name. -/

namespace A2AProvisioning.Network

open Json

/-- What a set can hold. -/
def hashable : Json → Bool
  | .arr _ => false
  | .obj _ => false
  | _ => true

/-- `==` between two values that a set can hold. -/
def same : Json → Json → Bool
  | .null, .null => true
  | .bool b, .bool b' => b = b'
  | .bool b, .number n => b.toInt = n
  | .number n, .bool b => n = b.toInt
  | .number n, .number n' => n = n'
  | .str text, .str text' => text = text'
  | _, _ => false

/-- What a condition makes of a value. -/
def truthy : Json → Bool
  | .null => false
  | .bool b => b
  | .number n => n ≠ 0
  | .str text => text ≠ ""
  | .arr items => !items.isEmpty
  | .obj members => !members.isEmpty

/-- `names.add(entry.get("name", default))`. -/
def nameOf (default entry : Json) : Option Json := (entry.getD "name" default).filter hashable

/-- What a loop over entries adds to a list. -/
def gather (added : Json → Option (List Json)) (entries : List Json) : Option (List Json) :=
  (entries.mapM added).map List.flatten

def namesIn (list : String) (default : Json) (nodes : List Json) : Option (List Json) := do
  (← entriesOf list nodes).mapM (nameOf default)

/-- `_policer_names`, over the answer to its Get. -/
def policerNames (config : Json) : Option (List Json) := do namesIn "policer-template" (.str "") (← nodesOf config)

/-- The loop `for update in note.get("update") or []`. -/
def updatesOf (notification : Json) : Option (List Json) := do
  let update ← notification.getD "update" .null
  let updates ← (update.orElse (.arr [])).iterate
  updates.mapM fun (update : Json) => (update.index "val").map fun val => (val.orElse (.obj [])).denamespace

/-- The loop `for note in got.get("notification") or []`. -/
def notesOf (config : Json) : Option (List Json) := do
  let notification ← config.getD "notification" .null
  gather updatesOf (← (notification.orElse (.arr [])).iterate)

/-- `if tmpl: attached.add(tmpl)`. -/
def attachedName (interface : Json) : Option (List Json) := do
  let template ← attached interface
  if truthy template then if hashable template then some [template] else none else return []

/-- `_bandwidth_names`: the templates that are attached. -/
def bandwidthNames (config : Json) : Option (List Json) := do
  let nodes ← notesOf config
  let templates ← namesIn "policer-template" (.str "") nodes
  let attached ← gather attachedName (← entriesOf "interface" nodes)
  return templates.filter fun template => attached.any (same template)

/-- The name of a session's node. -/
def isOurs (name : String) : Bool := "a2a-".toList.isPrefixOf name.toList

/-- `d.get("name", "").startswith("a2a-")`, which only a string has. -/
def ours (entry : Json) : Option Bool :=
  match entry.getD "name" (.str "") with
  | some (.str name) => some (isOurs name)
  | _ => none

def oursIn (entries : List Json) : Option (List Json) :=
  gather (fun entry => (ours entry).map fun keeps => if keeps then [entry] else []) entries

/-- `_tunnel_oper_states`, as assignments in their order; no answer where the Get raises. -/
def tunnelOperStates : Option Json → Option (List (Json × Json))
  | none => some []
  | some state => do
      (← entriesOf "tunnel" (← nodesOf state)).mapM fun (tunnel : Json) => do
        return (← nameOf .null tunnel, ← tunnel.getD "oper-state" .null)

/-- `oper.get(name)`. -/
def operState (oper : List (Json × Json)) (name : Json) : Json :=
  ((oper.reverse.find? fun entry => same entry.1 name).map Prod.snd).getD .null

/-- `{**dest, "tunnel": …, "oper_state": …}`. -/
def exportEntry (tunnels : List Json) (oper : List (Json × Json)) (destination : Json) : Option Json := do
  let name ← destination.index "name"
  return .obj (write "oper_state" (operState oper name)
    (write "tunnel" (.bool (tunnels.any (same name))) destination.membersOf))

/-- `telemetry_config`, over the answer to its Get and to the one of the state. -/
def telemetryConfig (config : Json) (withState : Bool) (state : Option Json) : Option (List Json) := do
  let nodes ← nodesOf config
  let destinations ← oursIn (← entriesOf "destination" nodes)
  let tunnels ← namesIn "tunnel" .null nodes
  let oper ← if withState then tunnelOperStates state else some []
  destinations.mapM (exportEntry tunnels oper)

/-- `d["name"] for d in … if d["tunnel"]`. -/
def tunnelled (entry : Json) : Option (List Json) := do
  if truthy (← entry.index "tunnel") then return [← entry.index "name"] else return []

/-- `_telemetry_names`. -/
def telemetryNames (config : Json) : Option (List Json) := do gather tunnelled (← telemetryConfig config false none)

/-! ### The page -/

def shownPolicer (template : Json) : Option (List Json) := do
  if ← ours template then
    let policer ← (← template.index "policer").item 0
    return [.obj [("name", ← template.index "name"), ("peak_kbps", ← policer.index "peak-rate-kbps")]]
  else return []

/-- `oper["notification"][0]["update"][0]["val"]`. -/
def valueOf (oper : Json) : Option Json := do
  let notification ← (← oper.index "notification").item 0
  let update ← (← notification.index "update").item 0
  update.index "val"

/-- `device_state` of a router that is there, over the answers to its two Gets. -/
def deviceState (operState templates : Json) : Option Json := do
  let oper ← valueOf operState
  let policers ← gather shownPolicer (← entriesOf "policer-template" (← nodesOf templates))
  return .obj [("online", .bool true), ("interface", .str "ethernet-1/1"), ("oper", oper), ("policers", .arr policers)]

theorem same_str {text : String} {name : Json} : same (.str text) name = true ↔ name = .str text := by
  cases name <;> simp [same, eq_comm]

theorem gather_of_forall₂ {A : Type} {added : Json → Option (List Json)} {found : A → List Json} {listed : List A}
    {read : List Json} (h : List.Forall₂ (fun entry node => added node = some (found entry)) listed read) :
    gather added read = some (listed.flatMap found) := by
  rw [gather, mapM_of_forall₂ (List.forall₂_map_right_iff.mpr h.flip), Option.map_some, List.flatMap]

section Listed

variable {listed : List (String × Body)} {read : List Json}

/-- The names of the entries are read. -/
theorem names_of_reads (h : List.Forall₂ (fun entry node => Reads (entryNode "name" entry) node) listed read)
    (default : Json) : read.mapM (nameOf default) = some (listed.map fun entry => .str entry.1) := by
  refine mapM_of_forall₂ (List.forall₂_map_right_iff.mpr ?_)
  refine h.flip.imp fun node entry hread => ?_
  rw [nameOf, getD_key hread]
  rfl

theorem ours_of_reads {entry : String × Body} {node : Json} (h : Reads (entryNode "name" entry) node) :
    ours node = some (isOurs entry.1) := by
  rw [ours, getD_key h]

/-- The entries of sessions, in the order in which they are read. -/
theorem oursIn_of_reads (h : List.Forall₂ (fun entry node => Reads (entryNode "name" entry) node) listed read) :
    ∃ kept, oursIn read = some kept ∧ List.Forall₂ (fun entry node => Reads (entryNode "name" entry) node)
      (listed.filter fun entry => isOurs entry.1) kept := by
  induction h with
  | nil => exact ⟨[], rfl, .nil⟩
  | @cons entry node listed read hread _ ih =>
      obtain ⟨kept, hkept, hall⟩ := ih
      obtain ⟨nodes, hnodes, rfl⟩ := Option.map_eq_some_iff.mp hkept
      have hcons : oursIn (node :: read) = some ((if isOurs entry.1 = true then [node] else []) ++
          nodes.flatten) := by
        rw [oursIn, gather, List.mapM_cons, ours_of_reads hread, Option.map_some, hnodes]
        rfl
      refine ⟨_, hcons, ?_⟩
      rw [List.filter_cons]
      split_ifs
      · exact .cons hread hall
      · exact hall

end Listed

/-- The names of a list are those of its entries. -/
theorem mem_listed {dict : OrderedDict String Body} {listed : List (String × Body)} (h : listed.Perm dict.entries)
    (name : String) : .str name ∈ listed.map (fun entry => Json.str entry.1) ↔ (dict.get? name).isSome = true := by
  rw [List.mem_map, Option.isSome_iff_exists]
  constructor
  · rintro ⟨⟨key, body⟩, hmem, hkey⟩
    cases hkey
    exact ⟨body, OrderedDict.mem_entries.mp (h.mem_iff.mp hmem)⟩
  · rintro ⟨body, hget⟩
    exact ⟨(name, body), h.mem_iff.mpr (OrderedDict.mem_entries.mpr hget), rfl⟩

/-- `_policer_names` are the templates that the router has. -/
theorem mem_policerNames {r : Router} {answer : Query → Json} (h : r.Answers answer) :
    ∃ names, policerNames (answer .qosPolicerTemplates) = some names ∧
      ∀ name, .str name ∈ names ↔ (r.templates.get? name).isSome = true := by
  obtain ⟨nodes, read, listed, hnodes, hread, hlisted, hreads⟩ := list_of_reports h.templates List.mem_cons_self
  refine ⟨_, ?_, mem_listed hlisted⟩
  rw [policerNames, hnodes, Option.bind_eq_bind, Option.bind_some, namesIn, hread, Option.bind_eq_bind, Option.bind_some,
    names_of_reads hreads]

/-- The updates of one notification bring these parts. -/
def Router.Updates (notification : Body) (parts : List Body) : Prop :=
  ∃ updates, (lookup "update" notification = some (.arr updates) ∨
      updates = [] ∧ (lookup "update" notification = none ∨ lookup "update" notification = some .null)) ∧
    List.Forall₂ (fun part update => ∃ val, update.index "val" = some val ∧
      (part = [] ∧ val = .null ∨ Renders (.obj part) val)) parts updates

/-- What the router answers to a Get of several subtrees: any number of notifications, the lists split over all their
updates in any way. -/
def Router.ReportsAll (lists : List (String × List Json)) (config : Json) : Prop :=
  ∃ members notifications, ∃ groups : List (List Body),
    config = .obj members ∧
    (lookup "notification" members = some (.arr (notifications.map Json.obj)) ∨
      notifications = [] ∧ (lookup "notification" members = none ∨ lookup "notification" members = some .null)) ∧
    List.Forall₂ (fun parts notification => Router.Updates notification parts) groups notifications ∧
    ∀ list ∈ lists,
      (∀ part ∈ groups.flatten, ∀ value ∈ lookup list.1 part, ∃ items, value = .arr items) ∧
      (groups.flatten.flatMap (itemsOf list.1)).Perm list.2

/-- One notification is read as the first of an answer is. -/
theorem updatesOf_of_updates {notification : Body} {parts : List Body} (h : Router.Updates notification parts) :
    ∃ nodes, updatesOf (.obj notification) = some nodes ∧
      List.Forall₂ (fun (part : Body) node => Reads (.obj part) node) parts nodes := by
  obtain ⟨updates, hupdate, hparts⟩ := h
  obtain ⟨nodes, hnodes, hall⟩ := nodes_of_parts hparts
  refine ⟨nodes, ?_, hall⟩
  show (((lookup "update" notification).getD .null).orElse (.arr [])).iterate.bind _ = _
  rw [iterate_getD hupdate, Option.bind_some, hnodes]

/-- Every notification is read. -/
theorem notesOf_of_reports {lists : List (String × List Json)} {config : Json} (h : Router.ReportsAll lists config) :
    ∃ parts nodes, notesOf config = some nodes ∧
      List.Forall₂ (fun (part : Body) node => Reads (.obj part) node) parts nodes ∧
      ∀ list ∈ lists, (∀ part ∈ parts, ∀ value ∈ lookup list.1 part, ∃ items, value = .arr items) ∧
        (parts.flatMap (itemsOf list.1)).Perm list.2 := by
  obtain ⟨members, notifications, groups, rfl, hnotification, hgroups, hlists⟩ := h
  have hread : ∃ nodes, gather updatesOf (notifications.map Json.obj) = some nodes ∧
      List.Forall₂ (fun (part : Body) node => Reads (.obj part) node) groups.flatten nodes := by
    clear hnotification hlists
    induction hgroups with
    | nil => exact ⟨[], rfl, .nil⟩
    | @cons parts notification groups notifications hhead _ ih =>
        obtain ⟨first, hfirst, hall⟩ := updatesOf_of_updates hhead
        obtain ⟨rest, hrest, hall'⟩ := ih
        obtain ⟨nodes, hnodes, rfl⟩ := Option.map_eq_some_iff.mp hrest
        refine ⟨first ++ nodes.flatten, ?_, List.rel_append hall hall'⟩
        rw [gather, List.map_cons, List.mapM_cons, hfirst, hnodes]
        rfl
  obtain ⟨nodes, hnodes, hall⟩ := hread
  refine ⟨groups.flatten, nodes, ?_, hall, hlists⟩
  have hnotes : notesOf (.obj members) =
      (((lookup "notification" members).getD .null).orElse (.arr [])).iterate.bind (gather updatesOf) := rfl
  rw [hnotes, iterate_getD ?_, Option.bind_some, hnodes]
  refine hnotification.imp_right fun habsent => ⟨?_, habsent.2⟩
  rw [habsent.1, List.map_nil]

/-- A list of the configuration is read off the answer to a Get of several subtrees. -/
theorem list_of_reportsAll {parts : List Body} {nodes : List Json} {list key : String} {dict : OrderedDict String Body}
    (hnodes : List.Forall₂ (fun (part : Body) node => Reads (.obj part) node) parts nodes)
    (hlist : (∀ part ∈ parts, ∀ value ∈ lookup list part, ∃ items, value = .arr items) ∧
      (parts.flatMap (itemsOf list)).Perm (dict.entries.map (entryNode key))) :
    ∃ read listed, entriesOf list nodes = some read ∧ listed.Perm dict.entries ∧
      List.Forall₂ (fun entry node => Reads (entryNode key entry) node) listed read := by
  obtain ⟨ordered, read, hread, hordered, hall⟩ := entriesOf_of_parts hnodes hlist.1
  obtain ⟨listed, hlisted, hreads⟩ := entries_of_perm (hordered.trans hlist.2) hall
  exact ⟨read, listed, hread, hlisted, hreads⟩

/-- The template of an interface is a reference, so a name. -/
def Router.NamesTemplates (r : Router) : Prop :=
  ∀ id body, r.interfaces.get? id = some body → ∀ value ∈ attachment body, ∃ name, value = .str name

theorem attachedName_of_reads {entry : String × Body} {node : Json} (h : Reads (entryNode "interface-id" entry) node)
    (hinput : IsContainer (lookup "input" entry.2))
    (htemplates : IsContainer (childOf "policer-templates" (lookup "input" entry.2)))
    (hname : ∀ value ∈ attachment entry.2, ∃ name, value = .str name) :
    attachedName node = some ((attachment entry.2).toList.filter truthy) := by
  obtain ⟨template, hattached, ⟨hnone, rfl⟩ | ⟨value, hvalue, hread⟩⟩ := attached_reads h hinput htemplates
  · rw [attachedName, hattached, hnone]
    rfl
  · obtain ⟨name, rfl⟩ := hname value hvalue
    obtain rfl := hread.eq_str
    rw [attachedName, hattached, hvalue]
    show (if truthy (.str name) = true then some [Json.str name] else some []) = _
    rw [Option.toList_some, List.filter_cons]
    split_ifs <;> rfl

/-- `_bandwidth_names` are the templates that an interface is attached to. -/
theorem mem_bandwidthNames {r : Router} (hleaf : r.NamesTemplates) {config : Json}
    (h : Router.ReportsAll [("interface", r.interfaces.entries.map (entryNode "interface-id")),
      ("policer-template", r.templates.entries.map (entryNode "name"))] config) :
    ∃ names, bandwidthNames config = some names ∧ ∀ name, name ≠ "" → (.str name ∈ names ↔
      (r.templates.get? name).isSome = true ∧
        ∃ id body, r.interfaces.get? id = some body ∧ attachment body = some (.str name)) := by
  obtain ⟨parts, nodes, hnodes, hparts, hlists⟩ := notesOf_of_reports h
  obtain ⟨read, listed, hread, hlisted, hreads⟩ := list_of_reportsAll hparts (hlists _ List.mem_cons_self)
  obtain ⟨read', listed', hread', hlisted', hreads'⟩ :=
    list_of_reportsAll hparts (hlists _ (List.mem_cons_of_mem _ List.mem_cons_self))
  have hinterfaces : ∀ entry ∈ listed, (IsContainer (lookup "input" entry.2) ∧
      IsContainer (childOf "policer-templates" (lookup "input" entry.2))) ∧
      ∀ value ∈ attachment entry.2, ∃ name, value = .str name := by
    intro entry hmem
    have hget := OrderedDict.mem_entries.mp (hlisted.mem_iff.mp hmem)
    exact ⟨r.schema _ _ hget, hleaf _ _ hget⟩
  have hattached := @gather_of_forall₂ _ attachedName (fun entry => (attachment entry.2).toList.filter truthy) listed read
    (((List.forall₂_and_left _ _).mpr ⟨hinterfaces, hreads⟩).imp fun entry node hentry =>
      attachedName_of_reads hentry.2 hentry.1.1.1 hentry.1.1.2 hentry.1.2)
  refine ⟨(listed'.map fun entry => Json.str entry.1).filter fun template =>
    (listed.flatMap fun entry => (attachment entry.2).toList.filter truthy).any (same template), ?_, fun name hname => ?_⟩
  · simp only [bandwidthNames, hnodes, namesIn, hread', names_of_reads hreads', hread, hattached, Option.bind_eq_bind,
      Option.bind_some, Option.pure_def]
  · rw [List.mem_filter, mem_listed hlisted', List.any_eq_true]
    refine and_congr_right fun _ => ?_
    constructor
    · rintro ⟨found, hfound, hsame⟩
      obtain rfl := same_str.mp hsame
      obtain ⟨⟨id, body⟩, hmem, hbody⟩ := List.mem_flatMap.mp hfound
      have hattachment := Option.mem_toList.mp (List.mem_filter.mp hbody).1
      exact ⟨id, body, OrderedDict.mem_entries.mp (hlisted.mem_iff.mp hmem), hattachment⟩
    · rintro ⟨id, body, hget, hattachment⟩
      refine ⟨.str name, List.mem_flatMap.mpr ⟨(id, body), ?_, ?_⟩, same_str.mpr rfl⟩
      · exact hlisted.mem_iff.mpr (OrderedDict.mem_entries.mpr hget)
      · exact List.mem_filter.mpr ⟨Option.mem_toList.mpr hattachment, decide_eq_true hname⟩

/-- Two notifications, one without a template that is attached. -/
example : bandwidthNames (.obj [("notification", .arr [
      .obj [("update", .arr [.obj [("val", .obj [("srl_nokia-qos:policer-template",
        .arr [.obj [("name", .str "a2a-ent1-a0")], .obj [("name", .str "a2a-ent2-a0")]])])]])],
      .obj [("update", .arr [.obj [("val", .obj [("interface", .arr [.obj [("interface-id", .str "ethernet-1/1.0"),
        ("input", labAttachment "srl_nokia-acl-policers:policer-templates")]])])]])]])]) =
    some [.str "a2a-ent1-a0"] := rfl

/-- What a listing says of a destination: its own fields, whether it has a tunnel, and the state found for that. -/
structure Exported (r : Router) (state : String → Option Json) (entry : String × Body) (node : Json) : Prop where
  name : node.index "name" = some (.str entry.1)
  tunnel : node.index "tunnel" = some (.bool (r.tunnels.get? entry.1).isSome)
  operState : ∃ found, node.index "oper_state" = some found ∧ Found (state entry.1) found
  fields : ∀ leaf value, leaf ≠ "name" → leaf ≠ "tunnel" → leaf ≠ "oper_state" → lookup leaf entry.2 = some value →
    ∃ value', Reads value value' ∧ node.index leaf = some value'

theorem membersOf_of_reads {members : Body} {node : Json} (h : Reads (.obj members) node) :
    node = .obj node.membersOf := by
  obtain ⟨rendered, hrenders, rfl⟩ := h
  obtain ⟨rendered, rfl⟩ := renders_obj hrenders
  rw [denamespace, membersOf]

theorem exported_of_reads {r : Router} {tunnels : List Json} {oper : List (Json × Json)} {state : String → Option Json}
    (htunnels : ∀ name, .str name ∈ tunnels ↔ (r.tunnels.get? name).isSome = true)
    (hoper : ∀ name, Found (state name) (operState oper (.str name)))
    {entry : String × Body} {node : Json} (h : Reads (entryNode "name" entry) node) :
    ∃ listed, exportEntry tunnels oper node = some listed ∧ Exported r state entry listed := by
  have hname := index_key h
  have hmembers := membersOf_of_reads h
  have htunnel : tunnels.any (same (.str entry.1)) = (r.tunnels.get? entry.1).isSome := by
    rw [Bool.eq_iff_iff, ← htunnels, List.any_eq_true]
    constructor
    · rintro ⟨found, hfound, hsame⟩
      exact same_str.mp hsame ▸ hfound
    · exact fun hmem => ⟨_, hmem, same_str.mpr rfl⟩
  refine ⟨_, by rw [exportEntry, hname]; rfl, ?_⟩
  have hindex : ∀ leaf, leaf ≠ "tunnel" → leaf ≠ "oper_state" →
      Json.index leaf (.obj (write "oper_state" (operState oper (.str entry.1))
        (write "tunnel" (.bool (tunnels.any (same (.str entry.1)))) node.membersOf))) = node.index leaf := by
    intro leaf htunnel hstate
    rw [Json.index, lookup_write, if_neg hstate, lookup_write, if_neg htunnel, hmembers, Json.index, ← hmembers]
  constructor
  · rw [hindex _ (by decide) (by decide), hname]
  · rw [Json.index, lookup_write, if_neg (by decide), lookup_write, if_pos rfl, htunnel]
  · refine ⟨_, ?_, hoper entry.1⟩
    rw [Json.index, lookup_write, if_pos rfl]
  · intro leaf value hleaf htunnel hstate hvalue
    rw [hindex leaf htunnel hstate]
    refine h.index ?_
    rw [lookup, hvalue, Option.some_or]

theorem exists_of_forall₂ {A B : Type} {related : A → B → Prop} {as : List A} {bs : List B}
    (h : List.Forall₂ related as bs) :
    (∀ a ∈ as, ∃ b ∈ bs, related a b) ∧ ∀ b ∈ bs, ∃ a ∈ as, related a b := by
  induction h with
  | nil => exact ⟨fun _ hmem => absurd hmem List.not_mem_nil, fun _ hmem => absurd hmem List.not_mem_nil⟩
  | cons hhead _ ih =>
      constructor
      · intro a hmem
        rcases List.mem_cons.mp hmem with rfl | hmem
        · exact ⟨_, List.mem_cons_self, hhead⟩
        · obtain ⟨b, hb, hrelated⟩ := ih.1 a hmem
          exact ⟨b, List.mem_cons_of_mem _ hb, hrelated⟩
      · intro b hmem
        rcases List.mem_cons.mp hmem with rfl | hmem
        · exact ⟨_, List.mem_cons_self, hhead⟩
        · obtain ⟨a, ha, hrelated⟩ := ih.2 b hmem
          exact ⟨a, List.mem_cons_of_mem _ ha, hrelated⟩

/-- The state found for a tunnel is the one that the router has. -/
theorem operState_of_reads {states : OrderedDict String Body} {state : Json}
    (h : Router.Reports [("tunnel", states.entries.map (entryNode "name"))] state) :
    ∃ oper, tunnelOperStates (some state) = some oper ∧
      ∀ name, Found ((states.get? name).bind (lookup "oper-state")) (operState oper (.str name)) := by
  obtain ⟨nodes, read, listed, hnodes, hread, hlisted, hreads⟩ := list_of_reports h List.mem_cons_self
  have hoper : ∃ oper, read.mapM (fun (tunnel : Json) => do
        return (← nameOf .null tunnel, ← tunnel.getD "oper-state" .null)) = some oper ∧
      List.Forall₂ (fun (entry : String × Body) (found : Json × Json) => found.1 = .str entry.1 ∧
        Found (lookup "oper-state" entry.2) found.2) listed oper := by
    clear hlisted hread
    induction hreads with
    | nil => exact ⟨[], rfl, .nil⟩
    | @cons entry node listed read hhead _ ih =>
        obtain ⟨oper, hmap, hall⟩ := ih
        obtain ⟨found, hget, hfound⟩ := hhead.found "oper-state"
        have hlookup : lookup "oper-state" (("name", .str entry.1) :: entry.2) = lookup "oper-state" entry.2 := by
          rw [lookup, if_neg (by decide), Option.or_none]
        refine ⟨(.str entry.1, found) :: oper, ?_, .cons ⟨rfl, hlookup ▸ hfound⟩ hall⟩
        rw [List.mapM_cons, hmap, hget, nameOf, getD_key hhead]
        rfl
  obtain ⟨oper, hmap, hall⟩ := hoper
  obtain ⟨hto, hfrom⟩ := exists_of_forall₂ hall
  refine ⟨oper, ?_, fun name => ?_⟩
  · show (nodesOf state).bind _ = _
    rw [hnodes, Option.bind_some, hread]
    exact hmap
  cases hfind : oper.reverse.find? fun entry => same entry.1 (.str name) with
  | none =>
      have hnone : states.get? name = none := by
        by_contra hsome
        obtain ⟨body, hbody⟩ := Option.ne_none_iff_exists'.mp hsome
        obtain ⟨found, hfound, hkey, -⟩ := hto (name, body) (hlisted.mem_iff.mpr (OrderedDict.mem_entries.mpr hbody))
        refine List.find?_eq_none.mp hfind found (List.mem_reverse.mpr hfound) ?_
        rw [hkey]
        exact same_str.mpr rfl
      refine Or.inl ⟨by rw [hnone, Option.bind_none], ?_⟩
      rw [operState, hfind]
      rfl
  | some found =>
      have hmem := List.mem_reverse.mp (List.mem_of_find?_eq_some hfind)
      obtain ⟨⟨key, body⟩, hentry, hkey, hvalue⟩ := hfrom found hmem
      have hsame := List.find?_some hfind
      simp only [hkey, same_str] at hsame
      cases hsame
      rw [OrderedDict.mem_entries.mp (hlisted.mem_iff.mp hentry), Option.bind_some, operState, hfind]
      exact hvalue

/-- `telemetry_config` lists the destinations of sessions, each once. -/
theorem telemetryConfig_of_answers {r : Router} {answer : Query → Json} (h : r.Answers answer) (withState : Bool)
    {states : OrderedDict String Body} {state : Option Json}
    (hstate : ∀ found ∈ state, Router.Reports [("tunnel", states.entries.map (entryNode "name"))] found) :
    ∃ listed entries, telemetryConfig (answer .telemetryDestinations) withState state = some entries ∧
      listed.Perm (r.destinations.entries.filter fun entry => isOurs entry.1) ∧
      List.Forall₂ (Exported r fun name => if withState ∧ state.isSome then
        (states.get? name).bind (lookup "oper-state") else none) listed entries := by
  obtain ⟨nodes, read, listed, hnodes, hread, hlisted, hreads⟩ := list_of_reports h.tunnels List.mem_cons_self
  obtain ⟨nodes', read', listed', hnodes', hread', hlisted', hreads'⟩ :=
    list_of_reports h.tunnels (List.mem_cons_of_mem _ List.mem_cons_self)
  cases hnodes.symm.trans hnodes'
  obtain ⟨kept, hkept, hall⟩ := oursIn_of_reads hreads'
  have hoper : ∃ oper, (if withState then tunnelOperStates state else some []) = some oper ∧
      ∀ name, Found (if withState ∧ state.isSome then (states.get? name).bind (lookup "oper-state") else none)
        (operState oper (.str name)) := by
    cases withState with
    | false => exact ⟨[], rfl, fun _ => Or.inl ⟨rfl, rfl⟩⟩
    | true =>
        cases state with
        | none => exact ⟨[], rfl, fun _ => Or.inl ⟨rfl, rfl⟩⟩
        | some found => simpa using operState_of_reads (hstate found rfl)
  obtain ⟨oper, hoper, hstates⟩ := hoper
  have hentries : ∃ entries, kept.mapM (exportEntry (listed.map fun entry => .str entry.1) oper) = some entries ∧
      List.Forall₂ (Exported r fun name => if withState ∧ state.isSome then
        (states.get? name).bind (lookup "oper-state") else none) (listed'.filter fun entry => isOurs entry.1) entries := by
    clear hkept
    generalize listed'.filter (fun entry => isOurs entry.1) = destinations at hall ⊢
    induction hall with
    | nil => exact ⟨[], rfl, .nil⟩
    | cons hhead _ ih =>
        obtain ⟨entries, hmap, hrest⟩ := ih
        obtain ⟨entry, hentry, hexported⟩ := exported_of_reads (mem_listed hlisted) hstates hhead
        refine ⟨entry :: entries, ?_, .cons hexported hrest⟩
        rw [List.mapM_cons, hentry, hmap]
        rfl
  obtain ⟨entries, hmap, hexported⟩ := hentries
  refine ⟨_, entries, ?_, hlisted'.filter _, hexported⟩
  simp only [telemetryConfig, hnodes, hread', hkept, namesIn, hread, names_of_reads hreads, Option.bind_eq_bind,
    Option.bind_some]
  cases withState with
  | false =>
      cases hoper
      exact hmap
  | true =>
      change tunnelOperStates state = some oper at hoper
      rw [if_pos rfl, hoper]
      exact hmap

/-- `_telemetry_names` are the destinations of sessions that have a tunnel. -/
theorem mem_telemetryNames {r : Router} {answer : Query → Json} (h : r.Answers answer) :
    ∃ names, telemetryNames (answer .telemetryDestinations) = some names ∧ ∀ name, .str name ∈ names ↔
      isOurs name = true ∧ (r.destinations.get? name).isSome = true ∧ (r.tunnels.get? name).isSome = true := by
  obtain ⟨listed, entries, hconfig, hlisted, hexported⟩ :=
    @telemetryConfig_of_answers r answer h false OrderedDict.empty none fun _ hnone => by cases hnone
  have hnames : telemetryNames (answer .telemetryDestinations) =
      some (listed.flatMap fun entry => if (r.tunnels.get? entry.1).isSome then [Json.str entry.1] else []) := by
    rw [telemetryNames, hconfig, Option.bind_eq_bind, Option.bind_some]
    refine gather_of_forall₂ (hexported.imp fun entry node hentry => ?_)
    rw [tunnelled, hentry.tunnel, hentry.name]
    cases (r.tunnels.get? entry.1).isSome <;> rfl
  refine ⟨_, hnames, fun name => ?_⟩
  rw [List.mem_flatMap]
  constructor
  · rintro ⟨⟨key, body⟩, hmem, hname⟩
    split_ifs at hname with htunnel
    · cases List.mem_singleton.mp hname
      obtain ⟨hentry, hours⟩ := List.mem_filter.mp (hlisted.mem_iff.mp hmem)
      exact ⟨hours, Option.isSome_iff_exists.mpr ⟨body, OrderedDict.mem_entries.mp hentry⟩, htunnel⟩
    · cases hname
  · rintro ⟨hours, hdestination, htunnel⟩
    obtain ⟨body, hbody⟩ := Option.isSome_iff_exists.mp hdestination
    refine ⟨(name, body), hlisted.mem_iff.mpr (List.mem_filter.mpr ⟨OrderedDict.mem_entries.mpr hbody, hours⟩), ?_⟩
    rw [if_pos htunnel]
    exact List.mem_singleton_self _

/-- The one policer of a template. -/
def OnePolicer (body : Body) (peakRateKbps : Int) : Prop :=
  ∃ members, lookup "policer" body = some (.arr [.obj members]) ∧ lookup "peak-rate-kbps" members = some (.number peakRateKbps)

theorem shownPolicer_of_reads {entry : String × Body} {node : Json} (h : Reads (entryNode "name" entry) node)
    {peakRateKbps : Int} (hone : isOurs entry.1 = true → OnePolicer entry.2 peakRateKbps) :
    shownPolicer node = some (if isOurs entry.1 then
      [.obj [("name", .str entry.1), ("peak_kbps", .number peakRateKbps)]] else []) := by
  rw [shownPolicer, ours_of_reads h]
  cases hours : isOurs entry.1 with
  | false => rfl
  | true =>
      obtain ⟨members, hpolicer, hrate⟩ := hone hours
      have hlookup : lookup "policer" (("name", .str entry.1) :: entry.2) = some (.arr [.obj members]) := by
        rw [lookup, hpolicer, Option.some_or]
      obtain ⟨policers, hpolicers, hindex⟩ := h.index hlookup
      obtain ⟨ordered, read, rfl, hperm, hreads⟩ := hpolicers.items
      rw [List.perm_singleton.mp hperm] at hreads
      obtain ⟨policer, rest, hread, hrest, rfl⟩ := List.forall₂_cons_left_iff.mp hreads
      obtain ⟨rate, hnumber, hpeak⟩ := hread.index hrate
      rw [hnumber.eq_number] at hpeak
      rw [hindex, index_key h]
      show (policer.index "peak-rate-kbps").bind _ = _
      rw [hpeak]
      rfl

/-- The page shows each template of a session once, with its rate. -/
theorem deviceState_of_answers {r : Router} {answer : Query → Json} (h : r.Answers answer) {operState oper : Json}
    (hoper : valueOf operState = some oper) {rate : String → Int}
    (hone : ∀ name body, r.templates.get? name = some body → isOurs name = true → OnePolicer body (rate name)) :
    ∃ listed : List (String × Body), listed.Perm (r.templates.entries.filter fun entry => isOurs entry.1) ∧
      deviceState operState (answer .qosPolicerTemplates) = some (.obj [("online", .bool true),
        ("interface", .str "ethernet-1/1"), ("oper", oper), ("policers", .arr (listed.map fun entry =>
          .obj [("name", .str entry.1), ("peak_kbps", .number (rate entry.1))]))]) := by
  obtain ⟨nodes, read, listed, hnodes, hread, hlisted, hreads⟩ := list_of_reports h.templates List.mem_cons_self
  have hpolicers : ∀ entry ∈ listed, isOurs entry.1 = true → OnePolicer entry.2 (rate entry.1) := fun entry hmem =>
    hone entry.1 entry.2 (OrderedDict.mem_entries.mp (hlisted.mem_iff.mp hmem))
  have hshown := @gather_of_forall₂ _ shownPolicer (fun entry => if isOurs entry.1 then
      [.obj [("name", .str entry.1), ("peak_kbps", .number (rate entry.1))]] else []) listed read
    (((List.forall₂_and_left _ _).mpr ⟨hpolicers, hreads⟩).imp fun entry node hentry =>
      shownPolicer_of_reads hentry.2 hentry.1)
  refine ⟨listed.filter fun entry => isOurs entry.1, hlisted.filter _, ?_⟩
  have hfilter : (listed.flatMap fun entry => if isOurs entry.1 then
        [Json.obj [("name", .str entry.1), ("peak_kbps", .number (rate entry.1))]] else []) =
      (listed.filter fun entry => isOurs entry.1).map fun entry =>
        .obj [("name", .str entry.1), ("peak_kbps", .number (rate entry.1))] := by
    clear hpolicers hshown hreads hlisted
    induction listed with
    | nil => rfl
    | cons entry rest ih =>
        rw [List.flatMap_cons, ih, List.filter_cons]
        split_ifs <;> rfl
  simp only [deviceState, hoper, hnodes, hread, hshown, hfilter, Option.bind_eq_bind, Option.bind_some, Option.pure_def]

end A2AProvisioning.Network
