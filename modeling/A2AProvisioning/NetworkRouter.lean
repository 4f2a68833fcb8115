import A2AProvisioning.LibraryJson
import A2AProvisioning.NetworkProvisioner

/-! What `GnmiProvisioner.teardown` reads from one router, and what it deletes. The router answers each Get
with some rendering of its configuration; the delete list is the same for all of them, takes the references
to a node away before the node, and touches no other session. -/

namespace A2AProvisioning.Network

/-- The Gets of a teardown, by their path. -/
inductive Query
  | qosInterfaces
  | qosPolicerTemplates
  | telemetryDestinations
  deriving DecidableEq

/-- The loop `for update in config["notification"][0].get("update") or []` with its
`_denamespace(update["val"] or {})`. -/
def nodesOf (config : Json) : Option (List Json) := do
  let notifications ← config.index "notification"
  let notification ← notifications.item 0
  let update ← notification.getD "update" .null
  let updates ← (update.orElse (.arr [])).iterate
  updates.mapM fun (update : Json) => (update.index "val").map fun val => (val.orElse (.obj [])).denamespace

/-- The loop `for entry in node.get(list, [])` over the nodes. -/
def entriesOf (list : String) (nodes : List Json) : Option (List Json) :=
  (nodes.mapM fun (node : Json) => (node.getD list (.arr [])).bind Json.iterate).map List.flatten

/-- `interface.get("input", {}).get("policer-templates", {}).get("policer-template")`. -/
def attached (interface : Json) : Option Json := do
  let input ← interface.getD "input" (.obj [])
  let policerTemplates ← input.getD "policer-templates" (.obj [])
  policerTemplates.getD "policer-template" .null

/-- What an f-string makes of a value; `repr` is for those that are no strings. -/
def formatted (repr : Json → String) : Json → String
  | .str value => value
  | value => repr value

/-- The path, for an entry whose `get("name")` is the name. -/
def namedPath (path : Path) (name : String) (entry : Json) : Option (List Path) :=
  (entry.getD "name" .null).map fun found => if found.isStr name then [path] else []

/-- The paths that a loop over entries collects. -/
def collect (paths : Json → Option (List Path)) (entries : List Json) : Option (List Path) :=
  (entries.mapM paths).map List.flatten

def attachedPath (repr : Json → String) (name : String) (interface : Json) : Option (List Path) := do
  let template ← attached interface
  if template.isStr name then
    let id ← interface.index "interface-id"
    return [.qosInterface (formatted repr id)]
  else return []

/-- `none` where the source raises, which `teardown` reports as a failure. -/
def sessionConfigRead (repr : Json → String) (name : String) (answer : Query → Json) : Option (List Path) := do
  let interfaces ← entriesOf "interface" (← nodesOf (answer .qosInterfaces))
  let attachments ← collect (attachedPath repr name) interfaces
  let templates ← entriesOf "policer-template" (← nodesOf (answer .qosPolicerTemplates))
  return attachments ++ (← collect (namedPath (.policerTemplate name) name) templates)

def sessionTelemetryRead (name : String) (answer : Query → Json) : Option (List Path) := do
  let nodes ← nodesOf (answer .telemetryDestinations)
  let tunnels ← collect (namedPath (.telemetryTunnel name) name) (← entriesOf "tunnel" nodes)
  let destinations ← collect (namedPath (.telemetryDestination name) name) (← entriesOf "destination" nodes)
  return tunnels ++ destinations

/-- The delete list of a session on one router. -/
def deletesRead (repr : Json → String) (name : String) (answer : Query → Json) : Option (List Path) := do
  let deletes ← sessionConfigRead repr name answer
  return deletes ++ (← sessionTelemetryRead name answer)

/-! ### The configuration of a router -/

/-- The members of a list entry next to its key. -/
abbrev Body := List (String × Json)

def childOf (name : String) (node : Option Json) : Option Json := node.bind (Json.index name)

/-- The template at the input of an interface. -/
def attachment (body : Body) : Option Json :=
  childOf "policer-template" (childOf "policer-templates" (Json.lookup "input" body))

/-- The destinations a tunnel refers to. -/
def destinationsOf (body : Body) : List Json :=
  match Json.lookup "destination" body with
  | some (.arr items) => items.filterMap (Json.index "name")
  | _ => []

def IsContainer (node : Option Json) : Prop := ∀ value ∈ node, ∃ members, value = .obj members

/-- Four lists of a configuration tree, by the keys of their entries; the schema makes containers of two
members of an interface. -/
structure Router where
  interfaces : OrderedDict String Body
  templates : OrderedDict String Body
  tunnels : OrderedDict String Body
  destinations : OrderedDict String Body
  schema : ∀ id body, interfaces.get? id = some body →
    IsContainer (Json.lookup "input" body) ∧ IsContainer (childOf "policer-templates" (Json.lookup "input" body))

/-- The entries of a list in one part of a container. -/
def itemsOf (list : String) (part : Body) : List Json :=
  match Json.lookup list part with
  | some (.arr items) => items
  | _ => []

/-- A list entry with its key leaf. -/
def entryNode (key : String) (entry : String × Body) : Json := .obj ((key, .str entry.1) :: entry.2)

namespace Router

def delete (r : Router) : Path → Router
  | .policerTemplate name => { r with templates := r.templates.erase name }
  | .qosInterface id =>
      { r with
        interfaces := r.interfaces.erase id
        schema := fun key body hget => by
          rw [OrderedDict.get?_erase] at hget
          split_ifs at hget
          exact r.schema key body hget }
  | .telemetryDestination name => { r with destinations := r.destinations.erase name }
  | .telemetryTunnel name => { r with tunnels := r.tunnels.erase name }

def deleteAll (r : Router) (paths : List Path) : Router := paths.foldl delete r

/-- An interface is attached to the template, or the tunnel of a session refers to the destination. -/
def Referenced (r : Router) : Path → Prop
  | .policerTemplate name => ∃ id body, r.interfaces.get? id = some body ∧ attachment body = some (.str name)
  | .telemetryDestination name => ∃ sessionId body, r.tunnels.get? (templateName sessionId) = some body ∧
      .str name ∈ destinationsOf body
  | _ => False

/-- Some node of the router is named so, or attached to the template of that name. -/
def HasNamed (r : Router) (name : String) : Prop :=
  (r.templates.get? name).isSome ∨
    (∃ id body, r.interfaces.get? id = some body ∧ attachment body = some (.str name)) ∨
    (r.destinations.get? name).isSome ∨ (r.tunnels.get? name).isSome

/-- The path is that of a destination to which the tunnel of another session refers. -/
def Shared (r : Router) : Path → Prop
  | .telemetryDestination name => ∃ sessionId body, templateName sessionId ≠ name ∧
      r.tunnels.get? (templateName sessionId) = some body ∧ .str name ∈ destinationsOf body
  | _ => False

/-- The tunnel of a session refers to its own destination and to no other, as `apply_telemetry` writes it. -/
def OwnTunnels (r : Router) : Prop :=
  ∀ sessionId body, r.tunnels.get? (templateName sessionId) = some body →
    ∀ destination ∈ destinationsOf body, destination = .str (templateName sessionId)

/-- What the router answers to a Get: one notification, the lists split over its updates in any way. An
update without a value adds nothing. -/
def Reports (lists : List (String × List Json)) (config : Json) : Prop :=
  ∃ notification updates, ∃ parts : List Body,
    config.index "notification" = some (.arr [.obj notification]) ∧
    (Json.lookup "update" notification = some (.arr updates) ∨
      updates = [] ∧ (Json.lookup "update" notification = none ∨ Json.lookup "update" notification = some .null)) ∧
    List.Forall₂ (fun part update => ∃ val, update.index "val" = some val ∧
      (part = [] ∧ val = .null ∨ Json.Renders (.obj part) val)) parts updates ∧
    ∀ list ∈ lists,
      (∀ part ∈ parts, ∀ value ∈ Json.lookup list.1 part, ∃ items, value = .arr items) ∧
      (parts.flatMap (itemsOf list.1)).Perm list.2

/-- The answers of the router to the three Gets. -/
structure Answers (r : Router) (answer : Query → Json) : Prop where
  interfaces : Reports [("interface", r.interfaces.entries.map (entryNode "interface-id"))] (answer .qosInterfaces)
  templates : Reports [("policer-template", r.templates.entries.map (entryNode "name"))] (answer .qosPolicerTemplates)
  tunnels : Reports [("tunnel", r.tunnels.entries.map (entryNode "name")),
    ("destination", r.destinations.entries.map (entryNode "name"))] (answer .telemetryDestinations)

end Router

/-- The body of the loop of `teardown` on one device: whether it went well, and what it leaves. `set` is the
transaction of the router, `none` where it refuses. -/
def teardownOn (repr : Json → String) (name : String) (answer : Query → Json)
    (set : List Path → Router → Option Router) (r : Router) : Bool × Router :=
  match deletesRead repr name answer with
  | none => (false, r)
  | some [] => (true, r)
  | some (path :: rest) =>
      match set (path :: rest) r with
      | none => (false, r)
      | some next => (true, next)

open Json

theorem mapM_of_forall₂ {A B : Type} {f : A → Option B} {as : List A} {bs : List B}
    (h : List.Forall₂ (fun a b => f a = some b) as bs) : as.mapM f = some bs := by
  induction h with
  | nil => rfl
  | cons hhead _ ih =>
      rw [List.mapM_cons, hhead, ih]
      rfl

/-- A list that may be missing, as the reader takes it. -/
theorem iterate_getD {members : Body} {name : String} {items : List Json}
    (h : lookup name members = some (.arr items) ∨
      items = [] ∧ (lookup name members = none ∨ lookup name members = some .null)) :
    (((lookup name members).getD .null).orElse (.arr [])).iterate = some items := by
  rcases h with hsome | ⟨rfl, hnone | hnull⟩
  · rw [hsome, Option.getD_some, orElse_arr, Json.iterate]
  · rw [hnone, Option.getD_none, orElse, Json.iterate]
  · rw [hnull, Option.getD_some, orElse, Json.iterate]

/-- The nodes of the updates read the parts that they bring. -/
theorem nodes_of_parts {parts : List Body} {updates : List Json}
    (hparts : List.Forall₂ (fun part update => ∃ val, update.index "val" = some val ∧
      (part = [] ∧ val = .null ∨ Json.Renders (.obj part) val)) parts updates) :
    ∃ nodes, updates.mapM (fun (update : Json) => (update.index "val").map fun val =>
        (val.orElse (.obj [])).denamespace) = some nodes ∧
      List.Forall₂ (fun (part : Body) node => Reads (.obj part) node) parts nodes := by
  induction hparts with
  | nil => exact ⟨[], rfl, .nil⟩
  | cons hhead _ ih =>
      obtain ⟨nodes, hnodes, hall⟩ := ih
      obtain ⟨val, hval, hread⟩ := hhead
      refine ⟨(val.orElse (.obj [])).denamespace :: nodes, ?_, .cons ?_ hall⟩
      · rw [List.mapM_cons, hval, Option.map_some, hnodes]
        rfl
      · rcases hread with ⟨rfl, rfl⟩ | hrenders
        · rw [orElse, denamespace, denamespaceMembers]
          exact reads_nil
        · obtain ⟨rendered, rfl⟩ := renders_obj hrenders
          rw [orElse_obj]
          exact ⟨_, hrenders, rfl⟩

/-- The nodes of an answer read the parts of the container. -/
theorem nodesOf_of_reports {lists : List (String × List Json)} {config : Json} (h : Router.Reports lists config) :
    ∃ parts nodes, nodesOf config = some nodes ∧
      List.Forall₂ (fun (part : Body) node => Reads (.obj part) node) parts nodes ∧
      ∀ list ∈ lists, (∀ part ∈ parts, ∀ value ∈ lookup list.1 part, ∃ items, value = .arr items) ∧
        (parts.flatMap (itemsOf list.1)).Perm list.2 := by
  obtain ⟨notification, updates, parts, hnotification, hupdate, hparts, hlists⟩ := h
  obtain ⟨nodes, hread, hall⟩ := nodes_of_parts hparts
  refine ⟨parts, nodes, ?_, hall, hlists⟩
  rw [nodesOf, hnotification]
  show (((lookup "update" notification).getD .null).orElse (.arr [])).iterate.bind _ = _
  rw [iterate_getD hupdate, Option.bind_some, hread]

theorem entriesOf_of_parts {list : String} {parts : List Body} {nodes : List Json}
    (hnodes : List.Forall₂ (fun (part : Body) node => Reads (.obj part) node) parts nodes)
    (hlists : ∀ part ∈ parts, ∀ value ∈ lookup list part, ∃ items, value = .arr items) :
    ∃ ordered read, entriesOf list nodes = some read ∧ ordered.Perm (parts.flatMap (itemsOf list)) ∧
      List.Forall₂ Reads ordered read := by
  induction hnodes with
  | nil => exact ⟨[], [], rfl, .nil, .nil⟩
  | @cons part node parts nodes hread hrest ih =>
      obtain ⟨ordered, read, hentries, hperm, hall⟩ := ih fun part hmem => hlists part (List.mem_cons_of_mem _ hmem)
      have hfirst : ∃ items items', (node.getD list (.arr [])).bind Json.iterate = some items' ∧
          items.Perm (itemsOf list part) ∧ List.Forall₂ Reads items items' := by
        rcases hread.getD (.arr []) with ⟨hnone, hget⟩ | ⟨value, value', hsome, hvalue, hget⟩
        · refine ⟨[], [], by rw [hget]; rfl, ?_, .nil⟩
          rw [itemsOf, hnone]
        · obtain ⟨items, rfl⟩ := hlists part List.mem_cons_self value hsome
          obtain ⟨items', read', hiterate, hperm', hall'⟩ := hvalue.iterate
          refine ⟨items', read', by rw [hget, Option.bind_some, hiterate], ?_, hall'⟩
          rw [itemsOf, hsome]
          exact hperm'
      obtain ⟨items, items', hitems, hperm', hall'⟩ := hfirst
      refine ⟨items ++ ordered, items' ++ read, ?_, ?_, List.rel_append hall' hall⟩
      · rw [entriesOf] at hentries ⊢
        obtain ⟨reads, hreads, rfl⟩ := Option.map_eq_some_iff.mp hentries
        rw [List.mapM_cons, hitems, hreads]
        rfl
      · rw [List.flatMap_cons]
        exact hperm'.append hperm

/-- The entries of a list, in the order in which they are read. -/
theorem entries_of_perm {key : String} {entries : List (String × Body)} {ordered read : List Json}
    (hperm : ordered.Perm (entries.map (entryNode key))) (hall : List.Forall₂ Reads ordered read) :
    ∃ listed : List (String × Body), listed.Perm entries ∧
      List.Forall₂ (fun entry node => Reads (entryNode key entry) node) listed read := by
  obtain ⟨mid, hmid, hpermMid⟩ := List.perm_comp_forall₂ hperm.symm hall
  have hentries := (List.forall₂_map_left_iff.mp hmid).flip
  obtain ⟨listed, hlisted, hpermListed⟩ := List.perm_comp_forall₂ hpermMid.symm hentries
  exact ⟨listed, hpermListed, hlisted.flip⟩

theorem collect_of_forall₂ {paths : Json → Option (List Path)} {found : String × Body → List Path}
    {listed : List (String × Body)} {read : List Json}
    (h : List.Forall₂ (fun entry node => paths node = some (found entry)) listed read) :
    collect paths read = some (listed.flatMap found) := by
  rw [collect, mapM_of_forall₂ (List.forall₂_map_right_iff.mpr h.flip), Option.map_some, List.flatMap]

/-- The key of an entry is read. -/
theorem getD_key {key : String} {entry : String × Body} {node : Json} (h : Reads (entryNode key entry) node)
    (default : Json) : node.getD key default = some (.str entry.1) := by
  have hkey : lookup key ((key, .str entry.1) :: entry.2) = some (.str entry.1) :=
    (lookup_eq_some_iff h.nodup).mpr List.mem_cons_self
  rcases h.getD default with ⟨hnone, -⟩ | ⟨value, value', hsome, hvalue, hget⟩
  · cases hnone.symm.trans hkey
  · cases hsome.symm.trans hkey
    rw [hget, isStr_iff.mp ((hvalue.isStr entry.1).trans (isStr_iff.mpr rfl))]

theorem index_key {key : String} {entry : String × Body} {node : Json} (h : Reads (entryNode key entry) node) :
    node.index key = some (.str entry.1) := by
  obtain ⟨value, hvalue, hindex⟩ := h.index ((lookup_eq_some_iff h.nodup).mpr List.mem_cons_self)
  rw [hindex, hvalue.eq_str]

theorem namedPath_of_reads {path : Path} {name : String} {entry : String × Body} {node : Json}
    (h : Reads (entryNode "name" entry) node) :
    namedPath path name node = some (if entry.1 = name then [path] else []) := by
  rw [namedPath, getD_key h, Option.map_some]
  simp only [isStr, decide_eq_true_eq]

/-- The attachment of an interface is read; where there is none, nothing is. -/
theorem attached_reads {entry : String × Body} {node : Json} (h : Reads (entryNode "interface-id" entry) node)
    (hinput : IsContainer (lookup "input" entry.2))
    (htemplates : IsContainer (childOf "policer-templates" (lookup "input" entry.2))) :
    ∃ template, attached node = some template ∧ Found (attachment entry.2) template := by
  have hlookup : lookup "input" (("interface-id", .str entry.1) :: entry.2) = lookup "input" entry.2 := by
    rw [lookup, if_neg (by decide), Option.or_none]
  rcases h.getD (.obj []) with ⟨hnone, hget⟩ | ⟨input, input', hsome, hread, hget⟩
  · rw [hlookup] at hnone
    refine ⟨.null, ?_, Or.inl ⟨?_, rfl⟩⟩
    · rw [attached, hget]
      rfl
    · rw [attachment, hnone]
      rfl
  · rw [hlookup] at hsome
    obtain ⟨members, rfl⟩ := hinput input hsome
    rw [hsome] at htemplates
    have hattachment : attachment entry.2 =
        (lookup "policer-templates" members).bind (Json.index "policer-template") := by
      rw [attachment, hsome]
      rfl
    have hattached : attached node = (input'.getD "policer-templates" (.obj [])).bind fun policerTemplates =>
        policerTemplates.getD "policer-template" .null := by
      rw [attached, hget]
      rfl
    rcases hread.getD (.obj []) with ⟨hnone', hget'⟩ | ⟨templates, templates', hsome', hread', hget'⟩
    · refine ⟨.null, ?_, Or.inl ⟨?_, rfl⟩⟩
      · rw [hattached, hget']
        rfl
      · rw [hattachment, hnone']
        rfl
    · obtain ⟨members', rfl⟩ := htemplates templates hsome'
      rw [hget', Option.bind_some] at hattached
      rw [hsome', Option.bind_some, Json.index] at hattachment
      rw [hattached, hattachment]
      exact hread'.found "policer-template"

/-- The attachment of an interface is read, or what is read is no name. -/
theorem attached_of_reads {entry : String × Body} {node : Json} (h : Reads (entryNode "interface-id" entry) node)
    (hinput : IsContainer (lookup "input" entry.2))
    (htemplates : IsContainer (childOf "policer-templates" (lookup "input" entry.2))) :
    ∃ template, attached node = some template ∧
      ∀ name, template.isStr name = (attachment entry.2).any (isStr name) := by
  obtain ⟨template, hattached, ⟨hnone, rfl⟩ | ⟨value, hvalue, hread⟩⟩ := attached_reads h hinput htemplates
  · refine ⟨.null, hattached, fun name => ?_⟩
    rw [hnone]
    rfl
  · refine ⟨template, hattached, fun name => ?_⟩
    rw [hvalue, Option.any_some]
    exact hread.isStr name

theorem attachedPath_of_reads {repr : Json → String} {name : String} {entry : String × Body} {node : Json}
    (h : Reads (entryNode "interface-id" entry) node) (hinput : IsContainer (lookup "input" entry.2))
    (htemplates : IsContainer (childOf "policer-templates" (lookup "input" entry.2))) :
    attachedPath repr name node =
      some (if (attachment entry.2).any (isStr name) then [.qosInterface entry.1] else []) := by
  obtain ⟨template, hattached, htemplate⟩ := attached_of_reads h hinput htemplates
  have hid := index_key h
  rw [attachedPath, hattached, ← htemplate name]
  show (if template.isStr name = true then _ else _) = _
  rw [hid]
  split_ifs <;> rfl

/-- A list of the configuration is read off the answer to its Get. -/
theorem list_of_reports {lists : List (String × List Json)} {config : Json} {list key : String}
    {dict : OrderedDict String Body} (hreports : Router.Reports lists config)
    (hmem : (list, dict.entries.map (entryNode key)) ∈ lists) :
    ∃ nodes read listed, nodesOf config = some nodes ∧ entriesOf list nodes = some read ∧
      listed.Perm dict.entries ∧ List.Forall₂ (fun entry node => Reads (entryNode key entry) node) listed read := by
  obtain ⟨parts, nodes, hnodes, hparts, hlists⟩ := nodesOf_of_reports hreports
  obtain ⟨harr, hitems⟩ := hlists _ hmem
  obtain ⟨ordered, read, hread, hordered, hall⟩ := entriesOf_of_parts hparts harr
  obtain ⟨listed, hlisted, hreads⟩ := entries_of_perm (hordered.trans hitems) hall
  exact ⟨nodes, read, listed, hnodes, hread, hlisted, hreads⟩

/-- Of a list in any order, the entry of a name gives its path once. -/
theorem flatMap_named {dict : OrderedDict String Body} {listed : List (String × Body)}
    (hperm : listed.Perm dict.entries) (path : Path) (name : String) :
    (listed.flatMap fun entry => if entry.1 = name then [path] else []) =
      if (dict.get? name).isSome then [path] else [] := by
  have hkeys : ∀ listed : List (String × Body), (listed.map Prod.fst).Nodup →
      (listed.flatMap fun entry => if entry.1 = name then [path] else []) =
        if name ∈ listed.map Prod.fst then [path] else [] := by
    intro listed hnodup
    induction listed with
    | nil => rfl
    | cons entry rest ih =>
        obtain ⟨hfresh, hrest⟩ := List.nodup_cons.mp hnodup
        rw [List.flatMap_cons, ih hrest, List.map_cons]
        by_cases hname : entry.1 = name
        · rw [if_pos hname, if_neg (hname ▸ hfresh), if_pos (hname ▸ List.mem_cons_self), List.append_nil]
        · have hmem : name ∈ entry.1 :: rest.map Prod.fst ↔ name ∈ rest.map Prod.fst := by
            rw [List.mem_cons, or_iff_right fun h => hname h.symm]
          rw [if_neg hname, List.nil_append]
          simp only [hmem]
  rw [hkeys listed ((hperm.map Prod.fst).nodup_iff.mpr dict.nodup)]
  have hpresent : name ∈ listed.map Prod.fst ↔ (dict.get? name).isSome = true := by
    rw [(hperm.map Prod.fst).mem_iff, Option.isSome_iff_exists]
    constructor
    · intro hmem
      obtain ⟨⟨key, body⟩, hentry, rfl⟩ := List.mem_map.mp hmem
      exact ⟨body, OrderedDict.mem_entries.mp hentry⟩
    · rintro ⟨body, hget⟩
      exact List.mem_map_of_mem (OrderedDict.mem_entries.mpr hget)
  simp only [hpresent]

/-- The delete list of a name, over the interfaces that are attached to its template. -/
def deleteList (r : Router) (name : String) (ids : List String) : List Path :=
  (ids.map .qosInterface ++ if (r.templates.get? name).isSome then [.policerTemplate name] else []) ++
    ((if (r.tunnels.get? name).isSome then [.telemetryTunnel name] else []) ++
      if (r.destinations.get? name).isSome then [.telemetryDestination name] else [])

/-- The interfaces of the list are those attached to the template, each once. -/
structure Attached (r : Router) (name : String) (ids : List String) : Prop where
  nodup : ids.Nodup
  mem : ∀ id, id ∈ ids ↔ ∃ body, r.interfaces.get? id = some body ∧ attachment body = some (.str name)

theorem any_isStr_iff {found : Option Json} {name : String} :
    found.any (isStr name) = true ↔ found = some (.str name) := by
  cases found with
  | none => exact iff_of_false Bool.false_ne_true (Option.some_ne_none _).symm
  | some value => rw [Option.any_some, isStr_iff, Option.some.injEq]

/-- Every rendering of a configuration gives the delete list of the name. -/
theorem deletesRead_of_answers (repr : Json → String) {r : Router} {answer : Query → Json} (h : r.Answers answer)
    (name : String) : ∃ ids, Attached r name ids ∧ deletesRead repr name answer = some (deleteList r name ids) := by
  obtain ⟨nodes, read, listed, hnodes, hread, hlisted, hreads⟩ := list_of_reports h.interfaces List.mem_cons_self
  obtain ⟨nodes₁, read₁, listed₁, hnodes₁, hread₁, hlisted₁, hreads₁⟩ :=
    list_of_reports h.templates List.mem_cons_self
  obtain ⟨nodes₂, read₂, listed₂, hnodes₂, hread₂, hlisted₂, hreads₂⟩ := list_of_reports h.tunnels List.mem_cons_self
  obtain ⟨nodes₃, read₃, listed₃, hnodes₃, hread₃, hlisted₃, hreads₃⟩ :=
    list_of_reports h.tunnels (List.mem_cons_of_mem _ List.mem_cons_self)
  cases hnodes₂.symm.trans hnodes₃
  have hschema : ∀ entry ∈ listed, IsContainer (lookup "input" entry.2) ∧
      IsContainer (childOf "policer-templates" (lookup "input" entry.2)) := fun entry hmem =>
    r.schema entry.1 entry.2 (OrderedDict.mem_entries.mp (hlisted.mem_iff.mp hmem))
  have hattached := @collect_of_forall₂ (attachedPath repr name) _ listed read
    (((List.forall₂_and_left _ _).mpr ⟨hschema, hreads⟩).imp fun entry node hentry =>
      @attachedPath_of_reads repr name entry node hentry.2 hentry.1.1 hentry.1.2)
  have htemplates := @collect_of_forall₂ (namedPath (.policerTemplate name) name) _ listed₁ read₁
    (hreads₁.imp fun entry node hentry => namedPath_of_reads hentry)
  have htunnels := @collect_of_forall₂ (namedPath (.telemetryTunnel name) name) _ listed₂ read₂
    (hreads₂.imp fun entry node hentry => namedPath_of_reads hentry)
  have hdestinations := @collect_of_forall₂ (namedPath (.telemetryDestination name) name) _ listed₃ read₃
    (hreads₃.imp fun entry node hentry => namedPath_of_reads hentry)
  have hids : (listed.flatMap fun entry => if (attachment entry.2).any (isStr name) then
        [Path.qosInterface entry.1] else []) =
      ((listed.filter fun entry => (attachment entry.2).any (isStr name)).map Prod.fst).map .qosInterface := by
    clear hattached hschema hreads hlisted
    induction listed with
    | nil => rfl
    | cons entry rest ih =>
        rw [List.flatMap_cons, ih, List.filter_cons]
        split_ifs <;> rfl
  refine ⟨(listed.filter fun entry => (attachment entry.2).any (isStr name)).map Prod.fst, ⟨?_, fun id => ?_⟩, ?_⟩
  · have hnodup := (hlisted.map Prod.fst).nodup_iff.mpr r.interfaces.nodup
    exact hnodup.sublist (List.filter_sublist.map _)
  · simp only [List.mem_map, List.mem_filter, any_isStr_iff]
    constructor
    · rintro ⟨⟨key, body⟩, ⟨hmem, hbody⟩, rfl⟩
      exact ⟨body, OrderedDict.mem_entries.mp (hlisted.mem_iff.mp hmem), hbody⟩
    · rintro ⟨body, hget, hbody⟩
      exact ⟨(id, body), ⟨hlisted.mem_iff.mpr (OrderedDict.mem_entries.mpr hget), hbody⟩, rfl⟩
  · rw [flatMap_named hlisted₁] at htemplates
    rw [flatMap_named hlisted₂] at htunnels
    rw [flatMap_named hlisted₃] at hdestinations
    rw [hids] at hattached
    simp only [deletesRead, sessionConfigRead, sessionTelemetryRead, hnodes, hread, hattached, hnodes₁, hread₁,
      htemplates, hnodes₂, hread₂, htunnels, hread₃, hdestinations, Option.bind_eq_bind, Option.bind_some,
      Option.pure_def, deleteList]

section Deleted

variable (r : Router) (paths : List Path)

theorem Router.templates_deleteAll (key : String) :
    (r.deleteAll paths).templates.get? key = if .policerTemplate key ∈ paths then none else r.templates.get? key :=
  OrderedDict.get?_foldl_erase Router.templates Router.delete .policerTemplate (fun _ _ => rfl)
    (fun _ path hne => by cases path <;> first | rfl | exact absurd rfl (hne _))
    (fun _ _ h => by cases h; rfl) r paths key

theorem Router.interfaces_deleteAll (key : String) :
    (r.deleteAll paths).interfaces.get? key = if .qosInterface key ∈ paths then none else r.interfaces.get? key :=
  OrderedDict.get?_foldl_erase Router.interfaces Router.delete .qosInterface (fun _ _ => rfl)
    (fun _ path hne => by cases path <;> first | rfl | exact absurd rfl (hne _))
    (fun _ _ h => by cases h; rfl) r paths key

theorem Router.destinations_deleteAll (key : String) :
    (r.deleteAll paths).destinations.get? key =
      if .telemetryDestination key ∈ paths then none else r.destinations.get? key :=
  OrderedDict.get?_foldl_erase Router.destinations Router.delete .telemetryDestination (fun _ _ => rfl)
    (fun _ path hne => by cases path <;> first | rfl | exact absurd rfl (hne _))
    (fun _ _ h => by cases h; rfl) r paths key

theorem Router.tunnels_deleteAll (key : String) :
    (r.deleteAll paths).tunnels.get? key = if .telemetryTunnel key ∈ paths then none else r.tunnels.get? key :=
  OrderedDict.get?_foldl_erase Router.tunnels Router.delete .telemetryTunnel (fun _ _ => rfl)
    (fun _ path hne => by cases path <;> first | rfl | exact absurd rfl (hne _))
    (fun _ _ h => by cases h; rfl) r paths key

end Deleted

/-- The path is that of a node of the name, or of an interface attached to the template of that name. -/
def Present (r : Router) (name : String) : Path → Prop
  | .policerTemplate other => other = name ∧ (r.templates.get? name).isSome
  | .qosInterface id => ∃ body, r.interfaces.get? id = some body ∧ attachment body = some (.str name)
  | .telemetryDestination other => other = name ∧ (r.destinations.get? name).isSome
  | .telemetryTunnel other => other = name ∧ (r.tunnels.get? name).isSome

section DeleteList

variable {r : Router} {name : String} {ids : List String}

theorem mem_deleteList (hattached : Attached r name ids) {path : Path} :
    path ∈ deleteList r name ids ↔ Present r name path := by
  simp only [deleteList, List.mem_append, List.mem_map]
  cases path with
  | policerTemplate other => split_ifs <;> simp_all [Present]
  | qosInterface id =>
      refine Iff.trans ?_ (hattached.mem id)
      constructor
      · intro h
        split_ifs at h <;> simpa using h
      · exact fun h => Or.inl (Or.inl ⟨id, h, rfl⟩)
  | telemetryDestination other => split_ifs <;> simp_all [Present]
  | telemetryTunnel other => split_ifs <;> simp_all [Present]

variable (path : Path) in
theorem not_mem_deleteList (hattached : Attached r name ids) (h : ¬ Present r name path) :
    path ∉ deleteList r name ids :=
  fun hmem => h ((mem_deleteList hattached).mp hmem)

theorem nodup_deleteList (hattached : Attached r name ids) : (deleteList r name ids).Nodup := by
  have hids : (ids.map Path.qosInterface).Nodup := hattached.nodup.map fun _ _ h => by cases h; rfl
  rw [deleteList]
  split_ifs <;> simp [List.nodup_append, hids]

/-- What stands before an element that is not in the first half has that half before it. -/
theorem exists_of_append_eq_append_cons {A : Type} {first second before after : List A} {a : A}
    (h : first ++ second = before ++ a :: after) (ha : a ∉ first) : ∃ between, before = first ++ between := by
  rcases List.append_eq_append_iff.mp h with ⟨between, hbefore, -⟩ | ⟨between, hfirst, hcons⟩
  · exact ⟨between, hbefore⟩
  · cases between with
    | nil => exact ⟨[], by rw [hfirst, List.append_nil, List.append_nil]⟩
    | cons b between =>
        rw [List.cons_append] at hcons
        cases hcons
        exact absurd (hfirst ▸ List.mem_append_right _ List.mem_cons_self) ha

/-- The references to a node are deleted before the node, but for those of other sessions. -/
theorem referenced_iff {sessionId : String} (hattached : Attached r (templateName sessionId) ids)
    {before after : List Path} {path : Path}
    (hdeletes : deleteList r (templateName sessionId) ids = before ++ path :: after) :
    (r.deleteAll before).Referenced path ↔ r.Shared path := by
  have hpresent : Present r (templateName sessionId) path := by
    rw [← mem_deleteList hattached, hdeletes]
    exact List.mem_append_right _ List.mem_cons_self
  cases path with
  | policerTemplate other =>
      obtain rfl : other = templateName sessionId := hpresent.1
      refine iff_of_false ?_ id
      rintro ⟨id, body, hget, hbody⟩
      rw [Router.interfaces_deleteAll] at hget
      split_ifs at hget with hdeleted
      rw [deleteList, List.append_assoc] at hdeletes
      obtain ⟨between, rfl⟩ := exists_of_append_eq_append_cons hdeletes (by simp)
      refine hdeleted (List.mem_append_left _ (List.mem_map.mpr ⟨id, ?_, rfl⟩))
      exact (hattached.mem id).mpr ⟨body, hget, hbody⟩
  | telemetryDestination other =>
      obtain rfl : other = templateName sessionId := hpresent.1
      constructor
      · rintro ⟨sessionId', body, hget, hbody⟩
        rw [Router.tunnels_deleteAll] at hget
        split_ifs at hget with hdeleted
        refine ⟨sessionId', body, fun hsame => ?_, hget, hbody⟩
        rw [hsame] at hget hdeleted
        rw [deleteList, ← List.append_assoc] at hdeletes
        obtain ⟨between, rfl⟩ := exists_of_append_eq_append_cons hdeletes (by split_ifs <;> simp)
        refine hdeleted (List.mem_append_left _ (List.mem_append_right _ ?_))
        rw [hget]
        exact List.mem_singleton_self _
      · rintro ⟨sessionId', body, hne, hget, hbody⟩
        refine ⟨sessionId', body, ?_, hbody⟩
        rw [Router.tunnels_deleteAll, if_neg, hget]
        intro hmem
        have hdeleted : .telemetryTunnel (templateName sessionId') ∈ deleteList r (templateName sessionId) ids :=
          hdeletes ▸ List.mem_append_left _ hmem
        exact hne ((mem_deleteList hattached).mp hdeleted).1
  | qosInterface subif => exact Iff.rfl
  | telemetryTunnel other => exact Iff.rfl

end DeleteList

/-- What a delete list of a name is, and does to a router. What goes is out of use, unless it is a destination that the
tunnel of another session was made to refer to. -/
structure Clears (r : Router) (name : String) (deletes : List Path) : Prop where
  mem : ∀ path, path ∈ deletes ↔ Present r name path
  nodup : deletes.Nodup
  ordered : ∀ before path after, deletes = before ++ path :: after →
    ((r.deleteAll before).Referenced path ↔ r.Shared path)
  gone : ¬ (r.deleteAll deletes).HasNamed name
  templates : ∀ other, other ≠ name → (r.deleteAll deletes).templates.get? other = r.templates.get? other
  interfaces : ∀ id body, r.interfaces.get? id = some body → attachment body ≠ some (.str name) →
    (r.deleteAll deletes).interfaces.get? id = some body
  destinations : ∀ other, other ≠ name → (r.deleteAll deletes).destinations.get? other = r.destinations.get? other
  tunnels : ∀ other, other ≠ name → (r.deleteAll deletes).tunnels.get? other = r.tunnels.get? other

theorem clears_deleteList {r : Router} {sessionId : String} {ids : List String}
    (hattached : Attached r (templateName sessionId) ids) :
    Clears r (templateName sessionId) (deleteList r (templateName sessionId) ids) where
  mem := fun _ => mem_deleteList hattached
  nodup := nodup_deleteList hattached
  ordered := fun _ _ _ hdeletes => referenced_iff hattached hdeletes
  gone := by
    rintro (htemplate | ⟨id, body, hget, hbody⟩ | hdestination | htunnel)
    · rw [Router.templates_deleteAll] at htemplate
      split_ifs at htemplate with hmem
      · cases htemplate
      · exact hmem ((mem_deleteList hattached).mpr ⟨rfl, htemplate⟩)
    · rw [Router.interfaces_deleteAll] at hget
      split_ifs at hget with hmem
      exact hmem ((mem_deleteList hattached).mpr ⟨body, hget, hbody⟩)
    · rw [Router.destinations_deleteAll] at hdestination
      split_ifs at hdestination with hmem
      · cases hdestination
      · exact hmem ((mem_deleteList hattached).mpr ⟨rfl, hdestination⟩)
    · rw [Router.tunnels_deleteAll] at htunnel
      split_ifs at htunnel with hmem
      · cases htunnel
      · exact hmem ((mem_deleteList hattached).mpr ⟨rfl, htunnel⟩)
  templates := fun other hother => by
    rw [Router.templates_deleteAll, if_neg (not_mem_deleteList (.policerTemplate other) hattached fun h => hother h.1)]
  interfaces := fun id body hget hbody => by
    rw [Router.interfaces_deleteAll, if_neg, hget]
    intro hmem
    obtain ⟨body', hget', hbody'⟩ := (mem_deleteList hattached).mp hmem
    cases hget.symm.trans hget'
    exact hbody hbody'
  destinations := fun other hother => by
    rw [Router.destinations_deleteAll, if_neg (not_mem_deleteList (.telemetryDestination other) hattached fun h => hother h.1)]
  tunnels := fun other hother => by
    rw [Router.tunnels_deleteAll, if_neg (not_mem_deleteList (.telemetryTunnel other) hattached fun h => hother h.1)]

/-- With the tunnels that `apply_telemetry` writes, nothing goes that is in use. -/
theorem Clears.not_referenced {r : Router} {name : String} {deletes : List Path} (h : Clears r name deletes)
    (hown : r.OwnTunnels) {before after : List Path} {path : Path} (hdeletes : deletes = before ++ path :: after) :
    ¬ (r.deleteAll before).Referenced path := by
  rw [h.ordered before path after hdeletes]
  cases path with
  | telemetryDestination other =>
      rintro ⟨sessionId, body, hne, hget, hbody⟩
      exact hne (Json.str.inj (hown sessionId body hget _ hbody)).symm
  | policerTemplate other => exact id
  | qosInterface subif => exact id
  | telemetryTunnel other => exact id

/-- Where nothing has the name there is nothing to delete. -/
theorem deleteList_eq_nil {r : Router} {name : String} {ids : List String} (hattached : Attached r name ids)
    (hgone : ¬ r.HasNamed name) : deleteList r name ids = [] := by
  refine List.eq_nil_iff_forall_not_mem.mpr fun path hmem => hgone ?_
  have hpresent := (mem_deleteList hattached).mp hmem
  cases path with
  | policerTemplate other => exact Or.inl hpresent.2
  | qosInterface id =>
      obtain ⟨body, hget, hbody⟩ := hpresent
      exact Or.inr (Or.inl ⟨id, body, hget, hbody⟩)
  | telemetryDestination other => exact Or.inr (Or.inr (Or.inl hpresent.2))
  | telemetryTunnel other => exact Or.inr (Or.inr (Or.inr hpresent.2))

/-- However the router renders its configuration, a teardown deletes what belongs to the session and nothing else, in
an order in which no reference of the session dangles, and a second one finds nothing and succeeds. -/
theorem teardown_of_any_rendering (repr : Json → String) (r : Router) (sessionId : String) (answer : Query → Json)
    (hanswers : r.Answers answer) :
    ∃ deletes, deletesRead repr (templateName sessionId) answer = some deletes ∧
      Clears r (templateName sessionId) deletes ∧
      teardownOn repr (templateName sessionId) answer (fun paths r => some (r.deleteAll paths)) r =
        (true, r.deleteAll deletes) ∧
      ∀ answer', (r.deleteAll deletes).Answers answer' → ∀ set,
        teardownOn repr (templateName sessionId) answer' set (r.deleteAll deletes) = (true, r.deleteAll deletes) := by
  obtain ⟨ids, hattached, hread⟩ := deletesRead_of_answers repr hanswers (templateName sessionId)
  have hclears := clears_deleteList hattached
  refine ⟨_, hread, hclears, ?_, fun answer' hanswers' set => ?_⟩
  · rw [teardownOn, hread]
    cases deleteList r (templateName sessionId) ids <;> rfl
  · obtain ⟨ids', hattached', hread'⟩ := deletesRead_of_answers repr hanswers' (templateName sessionId)
    rw [deleteList_eq_nil hattached' hclears.gone] at hread'
    rw [teardownOn, hread']

def policerNode (policer : Nat × Policer) : Json :=
  .obj [("sequence-id", .number policer.1), ("peak-rate-kbps", .number policer.2.peakRateKbps),
    ("committed-rate-kbps", .number policer.2.committedRateKbps),
    ("maximum-burst-size", .number policer.2.maximumBurstSize),
    ("committed-burst-size", .number policer.2.committedBurstSize), ("violate-action", .obj [("drop", .arr [.null])])]

def templateBody (template : PolicerTemplate) : Body := [("policer", .arr (template.policers.entries.map policerNode))]

def interfaceBody (entry : QosInterface) : Body :=
  (entry.interfaceRef.elim [] fun ref =>
      [("interface-ref", .obj [("interface", .str ref.1), ("subinterface", .number ref.2)])]) ++
    entry.policerTemplate.elim [] fun template =>
      [("input", .obj [("policer-templates", .obj [("policer-template", .str template)])])]

def destinationBody (destination : Destination) : Body :=
  [("address", .str destination.address), ("port", .number destination.port),
    ("network-instance", .str destination.networkInstance)]

def tunnelBody (tunnel : Tunnel) : Body :=
  [("admin-state", .str tunnel.adminState),
    ("destination", .arr [.obj [("name", .str tunnel.destination), ("admin-state", .str "enable")]]),
    ("target", .arr [.obj [("name", .str tunnel.target), ("id", .obj [("node-name", .arr [.null])]),
      ("type", .obj [("gnmi-gnoi-server", .str tunnel.server)])]])]

theorem lookup_interfaceBody (entry : QosInterface) :
    lookup "input" (interfaceBody entry) = entry.policerTemplate.map fun template =>
      .obj [("policer-templates", .obj [("policer-template", .str template)])] := by
  obtain ⟨ref, template⟩ := entry
  cases ref <;> cases template <;> rfl

theorem attachment_interfaceBody (entry : QosInterface) :
    attachment (interfaceBody entry) = entry.policerTemplate.map .str := by
  rw [attachment, lookup_interfaceBody]
  cases entry.policerTemplate <;> rfl

/-- The configuration tree of a device. -/
def Device.router (d : Device) : Router where
  interfaces := d.interfaces.mapValues interfaceBody
  templates := d.templates.mapValues templateBody
  tunnels := d.tunnels.mapValues tunnelBody
  destinations := d.destinations.mapValues destinationBody
  schema := fun id body hget => by
    rw [OrderedDict.get?_mapValues] at hget
    obtain ⟨entry, -, rfl⟩ := Option.map_eq_some_iff.mp hget
    rw [lookup_interfaceBody]
    cases entry.policerTemplate with
    | none => exact ⟨fun _ hmem => (by cases hmem), fun _ hmem => (by cases hmem)⟩
    | some template =>
        exact ⟨fun _ hmem => ⟨_, (Option.some.inj hmem).symm⟩, fun _ hmem => ⟨_, (Option.some.inj hmem).symm⟩⟩

/-- Whatever a device answers, the delete list is made of the paths of `deletesOn`. -/
theorem deletesRead_router (repr : Json → String) (d : Device) {answer : Query → Json} (h : d.router.Answers answer)
    (name : String) :
    ∃ deletes, deletesRead repr name answer = some deletes ∧
      ∀ path, path ∈ deletes ↔ path ∈ GnmiProvisioner.deletesOn d name := by
  obtain ⟨ids, hattached, hread⟩ := deletesRead_of_answers repr h name
  refine ⟨_, hread, fun path => ?_⟩
  rw [mem_deleteList hattached, GnmiProvisioner.mem_deletesOn]
  cases path with
  | policerTemplate other => simp only [Present, Device.router, OrderedDict.get?_mapValues, Option.isSome_map]
  | telemetryDestination other => simp only [Present, Device.router, OrderedDict.get?_mapValues, Option.isSome_map]
  | telemetryTunnel other => simp only [Present, Device.router, OrderedDict.get?_mapValues, Option.isSome_map]
  | qosInterface id =>
      simp only [Present, Device.router, OrderedDict.get?_mapValues, Option.map_eq_some_iff]
      constructor
      · rintro ⟨_, ⟨entry, hget, rfl⟩, hbody⟩
        rw [attachment_interfaceBody] at hbody
        obtain ⟨template, htemplate, hname⟩ := Option.map_eq_some_iff.mp hbody
        cases hname
        exact ⟨entry, hget, htemplate⟩
      · rintro ⟨entry, hget, htemplate⟩
        exact ⟨_, ⟨entry, hget, rfl⟩, by rw [attachment_interfaceBody, htemplate]; rfl⟩

/-- The tunnels that an apply writes refer to their own destinations. -/
theorem ownTunnels_updateExport {d : Device} (h : d.router.OwnTunnels) (sessionId : String) (destination : Destination)
    {tunnel : Tunnel} (htunnel : tunnel.destination = templateName sessionId) :
    (d.updateExport (templateName sessionId) destination tunnel).router.OwnTunnels := by
  intro sessionId' body hget found hmem
  simp only [Device.router, Device.updateExport, OrderedDict.get?_mapValues, OrderedDict.get?_insert] at hget
  split_ifs at hget with hsame
  · cases hget
    obtain rfl : found = .str tunnel.destination := List.mem_singleton.mp hmem
    rw [htunnel, hsame]
  · refine h sessionId' body ?_ found hmem
    rw [← hget, Device.router, OrderedDict.get?_mapValues]

/-! ### A router that answers with its tree -/

def notificationOf (vals : List Json) : Json :=
  .obj [("notification", .arr [.obj [("update", .arr (vals.map fun val => .obj [("val", val)]))]])]

namespace Router

/-- The entries of the lists have the names of the schema, each once. -/
def Tidy (r : Router) : Prop :=
  tidyItems (r.interfaces.entries.map (entryNode "interface-id")) = true ∧
    tidyItems (r.templates.entries.map (entryNode "name")) = true ∧
    tidyItems (r.tunnels.entries.map (entryNode "name")) = true ∧
    tidyItems (r.destinations.entries.map (entryNode "name")) = true

instance (r : Router) : Decidable r.Tidy := inferInstanceAs (Decidable (_ ∧ _ ∧ _ ∧ _))

/-- The configuration as the tree has it. -/
def answer (r : Router) : Query → Json
  | .qosInterfaces => notificationOf [.obj [("interface", .arr (r.interfaces.entries.map (entryNode "interface-id")))]]
  | .qosPolicerTemplates =>
      notificationOf [.obj [("policer-template", .arr (r.templates.entries.map (entryNode "name")))]]
  | .telemetryDestinations => notificationOf [.obj [("tunnel", .arr (r.tunnels.entries.map (entryNode "name"))),
      ("destination", .arr (r.destinations.entries.map (entryNode "name")))]]

/-- One update with all the lists is a report of them. -/
theorem reports_self {lists : List (String × List Json)} (hnodup : (lists.map Prod.fst).Nodup)
    (htidy : Json.tidy (.obj (lists.map fun list => (list.1, .arr list.2))) = true) :
    Reports lists (notificationOf [.obj (lists.map fun list => (list.1, .arr list.2))]) := by
  refine ⟨_, _, [lists.map fun list => (list.1, .arr list.2)], rfl, Or.inl rfl,
    .cons ⟨_, rfl, Or.inr (renders_self _ htidy)⟩ .nil, fun list hmem => ?_⟩
  have hkeys : (lists.map fun list => (list.1, Json.arr list.2)).map Prod.fst = lists.map Prod.fst := by
    rw [List.map_map]
    rfl
  have hlookup : lookup list.1 (lists.map fun list => (list.1, Json.arr list.2)) = some (.arr list.2) :=
    (lookup_eq_some_iff (hkeys ▸ hnodup)).mpr (List.mem_map_of_mem hmem)
  constructor
  · intro part hpart value hvalue
    obtain rfl := List.mem_singleton.mp hpart
    exact ⟨list.2, Option.some.inj (hvalue.symm.trans hlookup)⟩
  · rw [List.flatMap_singleton, itemsOf, hlookup]

theorem answers_self {r : Router} (h : r.Tidy) : r.Answers r.answer := by
  obtain ⟨hinterfaces, htemplates, htunnels, hdestinations⟩ := h
  have hnodup : ["tunnel", "destination"].Nodup := by decide
  refine ⟨reports_self (List.nodup_singleton _) ?_, reports_self (List.nodup_singleton _) ?_, reports_self hnodup ?_⟩
  · simp [tidy, tidyMembers, hinterfaces]
    decide
  · simp [tidy, tidyMembers, htemplates]
    decide
  · simp [tidy, tidyMembers, htunnels, hdestinations]
    decide

end Router

theorem renders_singleton {name spelled : String} {value value' : Json} (hname : IsIdentifier name)
    (hspells : Spells name spelled) (hvalue : Renders value value') :
    Renders (.obj [(name, value)]) (.obj [(spelled, value')]) :=
  @Renders.obj [(name, value)] [(spelled, value')] _ (List.nodup_singleton name)
    (fun _ hmem => List.mem_singleton.mp hmem ▸ hname) (.cons hspells .nil) (.cons hvalue .nil) (.refl _)

def labAttachment (spelled : String) : Json := .obj [(spelled, .obj [("policer-template", .str "a2a-ent1-a0")])]

def labRouter : Router where
  interfaces := OrderedDict.empty.insert "ethernet-1/1.0" [("input", labAttachment "policer-templates")]
  templates := OrderedDict.empty.insert "a2a-ent1-a0" []
  tunnels := .empty
  destinations := .empty
  schema := fun id body hget => by
    rw [OrderedDict.get?_insert] at hget
    split_ifs at hget
    · cases hget
      exact ⟨fun _ hmem => ⟨_, (Option.some.inj hmem).symm⟩, fun _ hmem => ⟨_, (Option.some.inj hmem).symm⟩⟩
    · cases hget

/-- The interfaces come in two updates, the first of them empty, under the names of two modules. -/
def labAnswer : Query → Json
  | .qosInterfaces => notificationOf [.null, .obj [("srl_nokia-qos:interface",
      .arr [.obj [("interface-id", .str "ethernet-1/1.0"),
        ("input", labAttachment "srl_nokia-acl-policers:policer-templates")]])]]
  | .qosPolicerTemplates => notificationOf [.obj [("policer-template", .arr [.obj [("name", .str "a2a-ent1-a0")]])]]
  | .telemetryDestinations => notificationOf []

theorem labRouter_answers : labRouter.Answers labAnswer := by
  have hplain : ∀ name, Spells name name := fun _ => Or.inl rfl
  have hattachment : Renders (labAttachment "policer-templates")
      (labAttachment "srl_nokia-acl-policers:policer-templates") :=
    renders_singleton (by decide) (Or.inr ⟨"srl_nokia-acl-policers", by decide, rfl⟩)
      (renders_singleton (by decide) (hplain _) (.str _))
  have hinterface : Renders (entryNode "interface-id" ("ethernet-1/1.0", [("input", labAttachment "policer-templates")]))
      (.obj [("interface-id", .str "ethernet-1/1.0"),
        ("input", labAttachment "srl_nokia-acl-policers:policer-templates")]) :=
    @Renders.obj _ [("interface-id", .str "ethernet-1/1.0"),
        ("input", labAttachment "srl_nokia-acl-policers:policer-templates")] _ (by decide) (by decide)
      (.cons (hplain _) (.cons (hplain _) .nil)) (.cons (.str _) (.cons hattachment .nil)) (.refl _)
  refine ⟨⟨_, _, [[], [("interface", .arr [entryNode "interface-id" ("ethernet-1/1.0",
    [("input", labAttachment "policer-templates")])])]], rfl, Or.inl rfl, ?_, ?_⟩, ⟨_, _, [[("policer-template",
    .arr [entryNode "name" ("a2a-ent1-a0", [])])]], rfl, Or.inl rfl, ?_, ?_⟩,
    ⟨_, _, [], rfl, Or.inl rfl, .nil, ?_⟩⟩
  · refine .cons ⟨_, rfl, Or.inl ⟨rfl, rfl⟩⟩ (.cons ⟨_, rfl, Or.inr ?_⟩ .nil)
    exact renders_singleton (by decide) (Or.inr ⟨"srl_nokia-qos", by decide, rfl⟩)
      (.arr (.cons hinterface .nil) (.refl _))
  · intro list hmem
    obtain rfl := List.mem_singleton.mp hmem
    refine ⟨fun part hpart value hvalue => ?_, .refl _⟩
    rcases List.mem_cons.mp hpart with rfl | hpart
    · cases hvalue
    · obtain rfl := List.mem_singleton.mp hpart
      exact ⟨_, (Option.some.inj hvalue).symm⟩
  · refine .cons ⟨_, rfl, Or.inr ?_⟩ .nil
    exact renders_singleton (by decide) (hplain _)
      (.arr (.cons (renders_singleton (by decide) (hplain _) (.str _)) .nil) (.refl _))
  · intro list hmem
    obtain rfl := List.mem_singleton.mp hmem
    refine ⟨fun part hpart value hvalue => ?_, .refl _⟩
    obtain rfl := List.mem_singleton.mp hpart
    exact ⟨_, (Option.some.inj hvalue).symm⟩
  · intro list hmem
    refine ⟨fun part hpart => absurd hpart List.not_mem_nil, ?_⟩
    rcases List.mem_cons.mp hmem with rfl | hmem
    · exact .refl _
    · obtain rfl := List.mem_singleton.mp hmem
      exact .refl _

theorem teardown_of_any_rendering_one :
    ∃ deletes, deletesRead (fun _ => "") (templateName "ent1-a0") labAnswer = some deletes ∧
      Clears labRouter (templateName "ent1-a0") deletes ∧
      teardownOn (fun _ => "") (templateName "ent1-a0") labAnswer (fun paths r => some (r.deleteAll paths)) labRouter =
        (true, labRouter.deleteAll deletes) ∧
      ∀ answer', (labRouter.deleteAll deletes).Answers answer' → ∀ set,
        teardownOn (fun _ => "") (templateName "ent1-a0") answer' set (labRouter.deleteAll deletes) =
          (true, labRouter.deleteAll deletes) :=
  teardown_of_any_rendering (fun _ => "") labRouter "ent1-a0" labAnswer labRouter_answers

/-- The tunnel of the second session was made to refer to the destination of the first. -/
def sharedRouter : Router where
  interfaces := .empty
  templates := .empty
  tunnels := OrderedDict.empty.insert "a2a-ent2-a0" [("destination", .arr [.obj [("name", .str "a2a-ent1-a0")]])]
  destinations := OrderedDict.empty.insert "a2a-ent1-a0" []
  schema := fun id body hget => by cases hget

theorem shared_destination_deleted :
    ¬ ∀ (repr : Json → String) (r : Router) (sessionId : String) (answer : Query → Json), r.Answers answer →
      ∀ deletes, deletesRead repr (templateName sessionId) answer = some deletes →
        ∀ before path after, deletes = before ++ path :: after → ¬ (r.deleteAll before).Referenced path := by
  intro h
  have hread : deletesRead (fun _ => "") (templateName "ent1-a0") sharedRouter.answer =
      some [.telemetryDestination "a2a-ent1-a0"] := by decide
  have htidy : sharedRouter.Tidy := by decide
  exact h (fun _ => "") sharedRouter "ent1-a0" sharedRouter.answer (Router.answers_self htidy) _ hread [] _ [] rfl
    ⟨"ent2-a0", _, rfl, List.mem_singleton_self _⟩

end A2AProvisioning.Network
