import A2AProvisioning.NetworkTeardown

/-! The two apply calls as updates of a router, each one transaction, and the teardown after them. An update
merges into what the entry held; a teardown takes the entry away. -/

namespace A2AProvisioning.Network

open Json

/-- The key leaf of a list of the schema. -/
def keyLeaf : String → Option String
  | "policer" => some "sequence-id"
  | "destination" => some "name"
  | "target" => some "name"
  | _ => none

/-- A list of the tree with the update merged into one of its entries. -/
def merged (table : OrderedDict String Body) (key : String) (update : Body) : OrderedDict String Body :=
  table.insert key (mergeMembers keyLeaf ((table.get? key).getD []) update)

/-- What `apply_bandwidth` writes at the ingress of a path. -/
def attachmentBody (ingressIf name : String) : Body := interfaceBody ⟨some (ingressIf, 0), some name⟩

def templateUpdate (capacityBps : Nat) : Body :=
  templateBody ⟨OrderedDict.empty.insert 1 (GnmiProvisioner.policer capacityBps)⟩

theorem get?_merged (table : OrderedDict String Body) (key other : String) (update : Body) :
    (merged table key update).get? other =
      if other = key then some (mergeMembers keyLeaf ((table.get? key).getD []) update) else table.get? other :=
  OrderedDict.get?_insert table key other _

/-- The input of an entry that an attachment is merged into. -/
theorem input_attached (old : Body) (ingressIf name : String) :
    lookup "input" (mergeMembers keyLeaf old (attachmentBody ingressIf name)) =
      some (.obj (mergeMembers keyLeaf ((lookup "input" old).getD .null).membersOf
        [("policer-templates", .obj [("policer-template", .str name)])])) := by
  have hnodup : ((attachmentBody ingressIf name).map Prod.fst).Nodup := by
    show ["interface-ref", "input"].Nodup
    decide
  have hinput : lookup "input" (attachmentBody ingressIf name) =
      some (.obj [("policer-templates", .obj [("policer-template", .str name)])]) := rfl
  rw [lookup_mergeMembers keyLeaf "input" old hnodup, hinput, Option.elim_some, merge]

theorem templates_attached (old : Body) (ingressIf name : String) :
    ∃ members, childOf "policer-templates" (lookup "input" (mergeMembers keyLeaf old (attachmentBody ingressIf name))) =
        some (.obj members) ∧ lookup "policer-template" members = some (.str name) := by
  rw [input_attached]
  refine ⟨mergeMembers keyLeaf ((lookup "policer-templates" ((lookup "input" old).getD .null).membersOf).getD
    .null).membersOf [("policer-template", .str name)], ?_, ?_⟩
  · show lookup "policer-templates" (mergeMembers keyLeaf _ _) = _
    rw [lookup_mergeMember, merge]
  · rw [lookup_mergeMember, merge]

/-- Whatever the entry held, it is attached to the template now. -/
theorem attachment_attached (old : Body) (ingressIf name : String) :
    attachment (mergeMembers keyLeaf old (attachmentBody ingressIf name)) = some (.str name) := by
  obtain ⟨members, htemplates, htemplate⟩ := templates_attached old ingressIf name
  rw [attachment, htemplates]
  exact htemplate

namespace Router

/-- Policer template and ingress attachment, in one Set. -/
def updateBandwidth (r : Router) (name ingressIf : String) (capacityBps : Nat) : Router :=
  { r with
    templates := merged r.templates name (templateUpdate capacityBps)
    interfaces := merged r.interfaces (ingressIf ++ ".0") (attachmentBody ingressIf name)
    schema := fun id body hget => by
      rw [get?_merged] at hget
      split_ifs at hget
      · cases hget
        obtain ⟨members, htemplates, -⟩ := templates_attached
          ((r.interfaces.get? (ingressIf ++ ".0")).getD []) ingressIf name
        rw [htemplates, input_attached]
        exact ⟨fun _ hmem => ⟨_, (Option.some.inj hmem).symm⟩, fun _ hmem => ⟨_, (Option.some.inj hmem).symm⟩⟩
      · exact r.schema id body hget }

/-- Destination and tunnel, in one Set. -/
def updateExport (r : Router) (name : String) (destination : Destination) (tunnel : Tunnel) : Router :=
  { r with
    destinations := merged r.destinations name (destinationBody destination)
    tunnels := merged r.tunnels name (tunnelBody tunnel) }

end Router

namespace GnmiProvisioner

variable (g : GnmiProvisioner) (gnmi : Gnmi)

/-- One Set on a device, and the report of it. -/
def setOver (device detail : String) (update : Router → Router) (routers : Routers) : ApplyResult × Routers :=
  if device ∈ g.targets then
    match gnmi.set device (update (routers device)) with
    | none => (⟨false, "gNMI Set failed: " ++ gnmi.error device⟩, routers)
    | some next => (⟨true, detail⟩, Function.update routers device next)
  else (⟨false, "gNMI Set failed: " ++ g.error⟩, routers)

def applyBandwidthOver (sessionId : String) (path : ResolvedPath) (capacityBps : Nat) (routers : Routers) :
    ApplyResult × Routers :=
  let name := templateName sessionId
  g.setOver gnmi path.device ("policer " ++ name ++ " @ " ++ path.device ++ "/" ++ subif path)
    (fun r => r.updateBandwidth name path.ingressIf capacityBps) routers

/-- `none` where `int` raises on the port. -/
def applyTelemetryOver (sessionId : String) (target : ResolvedNode) (collectorEndpoint : String) (routers : Routers) :
    Option ApplyResult × Routers :=
  let name := templateName sessionId
  let endpoint := rpartition collectorEndpoint.toList
  match portOf g.unicode endpoint.2 with
  | none => (none, routers)
  | some port =>
      let address := if endpoint.1 = [] then "0.0.0.0" else String.ofList endpoint.1
      let applied := g.setOver gnmi target.device
        ("telemetry export " ++ name ++ " @ " ++ target.device ++ " → " ++ collectorEndpoint)
        (fun r => r.updateExport name ⟨address, port, "mgmt"⟩ ⟨"enable", name, target.device, tunnelGrpcServer⟩) routers
      (some applied.1, applied.2)

variable {g gnmi}

theorem setOver_ok {device detail : String} {update : Router → Router} {routers : Routers}
    (hok : (g.setOver gnmi device detail update routers).1.ok = true) :
    device ∈ g.targets ∧
      (g.setOver gnmi device detail update routers).2 = Function.update routers device (update (routers device)) := by
  unfold setOver at hok ⊢
  split_ifs at hok ⊢ with hmem
  · refine ⟨hmem, ?_⟩
    cases hset : gnmi.set device (update (routers device)) with
    | none =>
        rw [hset] at hok
        exact absurd hok Bool.false_ne_true
    | some next => rw [Gnmi.set_eq_some hset]

end GnmiProvisioner

/-- Where nothing is there yet the update is written as it stands. -/
theorem merged_of_none {table : OrderedDict String Body} {key : String} (hnone : table.get? key = none) {update : Body}
    (hplain : mergeMembers keyLeaf [] update = update) : merged table key update = table.insert key update := by
  rw [merged, hnone, Option.getD_none, hplain]

theorem Device.router_applyBandwidth {d : Device} {name ingressIf : String} (capacityBps : Nat)
    (htemplate : d.templates.get? name = none) (hinterface : d.interfaces.get? (ingressIf ++ ".0") = none) :
    ((d.updateTemplate name (GnmiProvisioner.policer capacityBps)).updateInterface (ingressIf ++ ".0")
        ⟨some (ingressIf, 0), some name⟩).router = d.router.updateBandwidth name ingressIf capacityBps := by
  have hinterfaces : (d.interfaces.mapValues interfaceBody).get? (ingressIf ++ ".0") = none := by
    rw [OrderedDict.get?_mapValues, hinterface, Option.map_none]
  have htemplates : (d.templates.mapValues templateBody).get? name = none := by
    rw [OrderedDict.get?_mapValues, htemplate, Option.map_none]
  ext1
  · show (d.interfaces.insert _ _).mapValues interfaceBody = merged (d.interfaces.mapValues interfaceBody) _ _
    rw [OrderedDict.mapValues_insert, merged_of_none hinterfaces rfl, attachmentBody]
  · show (d.templates.insert name ⟨((d.templates.get? name).elim .empty PolicerTemplate.policers).insert 1 _⟩).mapValues
      templateBody = merged (d.templates.mapValues templateBody) _ _
    rw [OrderedDict.mapValues_insert, merged_of_none htemplates rfl, htemplate, Option.elim_none, templateUpdate]
  · rfl
  · rfl

theorem Device.router_updateExport {d : Device} {name : String} (destination : Destination) (tunnel : Tunnel)
    (hdestination : d.destinations.get? name = none) (htunnel : d.tunnels.get? name = none) :
    (d.updateExport name destination tunnel).router = d.router.updateExport name destination tunnel := by
  have hdestinations : (d.destinations.mapValues destinationBody).get? name = none := by
    rw [OrderedDict.get?_mapValues, hdestination, Option.map_none]
  have htunnels : (d.tunnels.mapValues tunnelBody).get? name = none := by
    rw [OrderedDict.get?_mapValues, htunnel, Option.map_none]
  ext1
  · rfl
  · rfl
  · show (d.tunnels.insert _ _).mapValues tunnelBody = merged (d.tunnels.mapValues tunnelBody) _ _
    rw [OrderedDict.mapValues_insert, merged_of_none htunnels rfl]
  · show (d.destinations.insert _ _).mapValues destinationBody = merged (d.destinations.mapValues destinationBody) _ _
    rw [OrderedDict.mapValues_insert, merged_of_none hdestinations rfl]

/-! ### What the teardown finds, and what it leaves -/

section Undo

variable {r : Router} {name : String}

/-- The teardown finds the template and the attachment that were written. -/
theorem present_updateBandwidth (hfresh : ¬ r.HasNamed name) (ingressIf : String) (capacityBps : Nat) (path : Path) :
    Present (r.updateBandwidth name ingressIf capacityBps) name path ↔
      path ∈ [.qosInterface (ingressIf ++ ".0"), .policerTemplate name] := by
  rw [Router.HasNamed, not_or, not_or, not_or] at hfresh
  obtain ⟨-, hinterfaces, hdestinations, htunnels⟩ := hfresh
  cases path with
  | policerTemplate other =>
      have hsome : ((r.updateBandwidth name ingressIf capacityBps).templates.get? name).isSome = true := by
        show ((merged r.templates name _).get? name).isSome = true
        rw [get?_merged, if_pos rfl, Option.isSome_some]
      simp [Present, hsome]
  | qosInterface id =>
      show (∃ body, (merged r.interfaces _ _).get? id = some body ∧ attachment body = some (.str name)) ↔ _
      rw [get?_merged]
      split_ifs with hid
      · refine iff_of_true ⟨_, rfl, attachment_attached _ ingressIf name⟩ ?_
        rw [hid]
        exact List.mem_cons_self
      · refine iff_of_false ?_ (by simp [hid])
        rintro ⟨body, hget, hbody⟩
        exact hinterfaces ⟨id, body, hget, hbody⟩
  | telemetryDestination other => exact iff_of_false (fun h => hdestinations h.2) (by simp)
  | telemetryTunnel other => exact iff_of_false (fun h => htunnels h.2) (by simp)

/-- Without them the entry of the subinterface is gone, with all it held. -/
theorem deleteAll_updateBandwidth (hfresh : ¬ r.HasNamed name) (ingressIf : String) (capacityBps : Nat) :
    (r.updateBandwidth name ingressIf capacityBps).deleteAll [.qosInterface (ingressIf ++ ".0"), .policerTemplate name] =
      r.delete (.qosInterface (ingressIf ++ ".0")) := by
  have htemplate : r.templates.get? name = none := Option.not_isSome_iff_eq_none.mp fun h => hfresh (Or.inl h)
  ext1
  · exact OrderedDict.erase_insert r.interfaces _ _
  · exact (OrderedDict.erase_insert r.templates _ _).trans (OrderedDict.erase_of_get?_eq_none htemplate)
  · rfl
  · rfl

theorem present_updateExport (hfresh : ¬ r.HasNamed name) (destination : Destination) (tunnel : Tunnel) (path : Path) :
    Present (r.updateExport name destination tunnel) name path ↔
      path ∈ [.telemetryTunnel name, .telemetryDestination name] := by
  rw [Router.HasNamed, not_or, not_or, not_or] at hfresh
  obtain ⟨htemplates, hinterfaces, -, -⟩ := hfresh
  cases path with
  | policerTemplate other => exact iff_of_false (fun h => htemplates h.2) (by simp)
  | qosInterface id =>
      refine iff_of_false ?_ (by simp)
      rintro ⟨body, hget, hbody⟩
      exact hinterfaces ⟨id, body, hget, hbody⟩
  | telemetryDestination other =>
      have hsome : ((r.updateExport name destination tunnel).destinations.get? name).isSome = true := by
        show ((merged r.destinations name _).get? name).isSome = true
        rw [get?_merged, if_pos rfl, Option.isSome_some]
      simp [Present, hsome]
  | telemetryTunnel other =>
      have hsome : ((r.updateExport name destination tunnel).tunnels.get? name).isSome = true := by
        show ((merged r.tunnels name _).get? name).isSome = true
        rw [get?_merged, if_pos rfl, Option.isSome_some]
      simp [Present, hsome]

theorem deleteAll_updateExport (hfresh : ¬ r.HasNamed name) (destination : Destination) (tunnel : Tunnel) :
    (r.updateExport name destination tunnel).deleteAll [.telemetryTunnel name, .telemetryDestination name] = r := by
  rw [Router.HasNamed, not_or, not_or, not_or] at hfresh
  obtain ⟨-, -, hdestinations, htunnels⟩ := hfresh
  ext1
  · rfl
  · rfl
  · exact (OrderedDict.erase_insert r.tunnels _ _).trans
      (OrderedDict.erase_of_get?_eq_none (Option.not_isSome_iff_eq_none.mp htunnels))
  · exact (OrderedDict.erase_insert r.destinations _ _).trans
      (OrderedDict.erase_of_get?_eq_none (Option.not_isSome_iff_eq_none.mp hdestinations))

/-- A device that takes the calls loses what the teardown finds on it. -/
theorem torn_eq {gnmi : Gnmi} {sessionId device : String} {routers : Routers} {paths : List Path}
    (hfaithful : gnmi.Faithful routers) (hnot : ¬ gnmi.Fails (templateName sessionId) routers device)
    (hpaths : ∀ path, Present (routers device) (templateName sessionId) path ↔ path ∈ paths) :
    gnmi.torn (templateName sessionId) routers device = (routers device).deleteAll paths := by
  obtain ⟨⟨deletes, next⟩, hstep⟩ := Option.ne_none_iff_exists'.mp hnot
  obtain ⟨hclears, rfl⟩ := Gnmi.clears_of_teardownDevice (hfaithful device) hstep
  rw [Gnmi.torn, hstep]
  exact Router.deleteAll_congr _ fun path => (hclears.mem path).trans (hpaths path)

end Undo

namespace GnmiProvisioner

variable (g : GnmiProvisioner) (gnmi gnmi' : Gnmi) (sessionId : String) (routers : Routers)

/-- An apply on a device where nothing has the name of the session, and the teardown after it, both successful. -/
structure RoundTrip (device : String) (applied : ApplyResult × Routers) : Prop where
  fresh : ¬ (routers device).HasNamed (templateName sessionId)
  installed : applied.1.ok = true
  faithful : gnmi'.Faithful applied.2
  removed : (g.teardownOver gnmi' sessionId applied.2).1.ok = true

variable {g gnmi gnmi' sessionId routers} in
/-- What a round trip through one Set leaves of the device. -/
theorem left_of_roundTrip {device detail : String} {update : Router → Router} {paths : List Path}
    (h : g.RoundTrip gnmi' sessionId routers device (g.setOver gnmi device detail update routers))
    (hpaths : ∀ path, Present (update (routers device)) (templateName sessionId) path ↔ path ∈ paths) :
    (g.teardownOver gnmi' sessionId (g.setOver gnmi device detail update routers).2).2 device =
      (update (routers device)).deleteAll paths := by
  obtain ⟨hmem, hset⟩ := setOver_ok h.installed
  obtain ⟨hnot, htorn⟩ := teardownOver_of_ok h.removed hmem
  have hdevice : (g.setOver gnmi device detail update routers).2 device = update (routers device) := by
    rw [hset, Function.update_self]
  rw [← hdevice] at hpaths ⊢
  exact htorn.trans (torn_eq h.faithful hnot hpaths)

variable {g gnmi gnmi' sessionId routers} in
theorem delete_of_roundTrip {path : ResolvedPath} {capacityBps : Nat}
    (h : g.RoundTrip gnmi' sessionId routers path.device (g.applyBandwidthOver gnmi sessionId path capacityBps routers)) :
    (g.teardownOver gnmi' sessionId (g.applyBandwidthOver gnmi sessionId path capacityBps routers).2).2 path.device =
      (routers path.device).delete (.qosInterface (subif path)) := by
  have hleft := @left_of_roundTrip g gnmi gnmi' sessionId routers path.device _
    (fun r => r.updateBandwidth (templateName sessionId) path.ingressIf capacityBps) _ h
    (present_updateBandwidth h.fresh path.ingressIf capacityBps)
  exact hleft.trans (deleteAll_updateBandwidth h.fresh path.ingressIf capacityBps)

/-- The teardown of a bandwidth session takes the QoS entry of the subinterface away and leaves the rest as it was
before the session; the teardown of a telemetry session leaves everything as it was. -/
theorem teardown_after_apply :
    (∀ path capacityBps,
      g.RoundTrip gnmi' sessionId routers path.device (g.applyBandwidthOver gnmi sessionId path capacityBps routers) →
        (g.teardownOver gnmi' sessionId (g.applyBandwidthOver gnmi sessionId path capacityBps routers).2).2 path.device =
            (routers path.device).delete (.qosInterface (subif path)) ∧
          ((g.teardownOver gnmi' sessionId (g.applyBandwidthOver gnmi sessionId path capacityBps routers).2).2
                path.device = routers path.device ↔
            (routers path.device).interfaces.get? (subif path) = none)) ∧
      ∀ target collectorEndpoint result applied,
        g.applyTelemetryOver gnmi sessionId target collectorEndpoint routers = (some result, applied) →
        g.RoundTrip gnmi' sessionId routers target.device (result, applied) →
        (g.teardownOver gnmi' sessionId applied).2 target.device = routers target.device := by
  constructor
  · intro path capacityBps h
    have hdelete := delete_of_roundTrip h
    refine ⟨hdelete, (congrArg (· = routers path.device) hdelete).to_iff.trans ?_⟩
    rw [Router.ext_iff]
    show (_ = _ ∧ _ = _ ∧ _ = _ ∧ _ = _) ↔ _
    exact ⟨fun heq => OrderedDict.erase_eq_self_iff.mp heq.1, fun hnone =>
      ⟨OrderedDict.erase_eq_self_iff.mpr hnone, rfl, rfl, rfl⟩⟩
  · intro target collectorEndpoint result applied happlied h
    unfold applyTelemetryOver at happlied
    dsimp only at happlied
    split at happlied
    · cases happlied
    · cases happlied
      have hleft := @left_of_roundTrip g gnmi gnmi' sessionId routers target.device _
        (fun r => r.updateExport (templateName sessionId) _ _) _ h (present_updateExport h.fresh _ _)
      exact hleft.trans (deleteAll_updateExport h.fresh _ _)

end GnmiProvisioner

/-- Devices that answer with what they have and commit whatever they are sent. -/
def obliging (routers : Routers) : Gnmi := ⟨fun _ => "", fun device => some (routers device).answer, fun _ _ => true, fun _ => ""⟩

theorem obliging_faithful {routers : Routers} (h : ∀ device, (routers device).Tidy) : (obliging routers).Faithful routers := by
  intro device answer hget
  cases hget
  exact Router.answers_self (h device)

namespace GnmiProvisioner

variable {g : GnmiProvisioner} {routers : Routers}

theorem setOver_obliging {device : String} (hmem : device ∈ g.targets) (before : Routers) (detail : String)
    (update : Router → Router) :
    g.setOver (obliging before) device detail update routers =
      (⟨true, detail⟩, Function.update routers device (update (routers device))) := by
  unfold setOver
  rw [if_pos hmem]
  rfl

theorem teardownOver_obliging (h : ∀ device, (routers device).Tidy) (sessionId : String) :
    (g.teardownOver (obliging routers) sessionId routers).1.ok = true :=
  (g.teardownOver_ok (obliging routers) sessionId routers).mpr fun device _ =>
    Gnmi.not_fails rfl (Router.answers_self (h device)) fun _ => rfl

/-- A fresh session is put on a tidy device and taken off it. -/
theorem roundTrip_obliging {sessionId device : String} (hmem : device ∈ g.targets) (detail : String)
    {update : Router → Router} (hfresh : ¬ (routers device).HasNamed (templateName sessionId))
    (htidy : ∀ device, (routers device).Tidy) (hupdate : (update (routers device)).Tidy) :
    g.RoundTrip (obliging (Function.update routers device (update (routers device)))) sessionId routers device
      (g.setOver (obliging routers) device detail update routers) := by
  have hafter : ∀ other, (Function.update routers device (update (routers device)) other).Tidy := by
    intro other
    rw [Function.update_apply]
    split_ifs
    · exact hupdate
    · exact htidy other
  rw [setOver_obliging hmem]
  exact ⟨hfresh, rfl, obliging_faithful hafter, teardownOver_obliging hafter sessionId⟩

/-- The ingress of the lab router, where another session is attached already. -/
def labIngress : ResolvedPath := ⟨"srl1", "ethernet-1/1", "ethernet-1/2"⟩

theorem labRouter_fresh : ¬ labRouter.HasNamed (templateName "ent2-a0") := by
  rintro (htemplate | ⟨id, body, hget, hbody⟩ | hdestination | htunnel)
  · exact absurd htemplate (by decide)
  · simp only [labRouter, OrderedDict.get?_insert] at hget
    split_ifs at hget
    · cases hget
      exact absurd (Json.str.inj (Option.some.inj hbody)) (by decide)
    · cases hget
  · exact absurd hdestination (by decide)
  · exact absurd htunnel (by decide)

theorem labRouter_tidy : labRouter.Tidy := by decide

theorem labRoundTrip :
    labProvisioner.RoundTrip (obliging (Function.update (fun _ => labRouter) "srl1"
        (labRouter.updateBandwidth (templateName "ent2-a0") "ethernet-1/1" 50000000))) "ent2-a0" (fun _ => labRouter) "srl1"
      (labProvisioner.applyBandwidthOver (obliging fun _ => labRouter) "ent2-a0" labIngress 50000000 fun _ => labRouter) := by
  have hupdate : (labRouter.updateBandwidth (templateName "ent2-a0") "ethernet-1/1" 50000000).Tidy := by decide
  exact @roundTrip_obliging labProvisioner (fun _ => labRouter) "ent2-a0" "srl1" List.mem_cons_self _
    (fun r => r.updateBandwidth (templateName "ent2-a0") "ethernet-1/1" 50000000) labRouter_fresh
    (fun _ => labRouter_tidy) hupdate

/-- The attachment of the other session is not put back. -/
theorem attachment_not_restored :
    ¬ ∀ (g : GnmiProvisioner) (gnmi gnmi' : Gnmi) (sessionId : String) (routers : Routers) (path : ResolvedPath)
        (capacityBps : Nat),
      g.RoundTrip gnmi' sessionId routers path.device (g.applyBandwidthOver gnmi sessionId path capacityBps routers) →
        (g.teardownOver gnmi' sessionId (g.applyBandwidthOver gnmi sessionId path capacityBps routers).2).2 path.device =
          routers path.device := by
  intro h
  have hsame := h labProvisioner (obliging fun _ => labRouter) _ "ent2-a0" (fun _ => labRouter) labIngress 50000000
    labRoundTrip
  have hdelete := @delete_of_roundTrip labProvisioner _ _ "ent2-a0" (fun _ => labRouter) labIngress 50000000 labRoundTrip
  have hgone : (labRouter.delete (.qosInterface "ethernet-1/1.0")).interfaces = labRouter.interfaces :=
    congrArg Router.interfaces (hdelete.symm.trans hsame)
  exact absurd (OrderedDict.erase_eq_self_iff.mp hgone) (by decide)

/-- The template is gone again, and so is the entry of the subinterface, which was attached to another session. -/
theorem teardown_after_apply_one :
    (labProvisioner.teardownOver (obliging (Function.update (fun _ => labRouter) "srl1"
          (labRouter.updateBandwidth (templateName "ent2-a0") "ethernet-1/1" 50000000))) "ent2-a0"
        (labProvisioner.applyBandwidthOver (obliging fun _ => labRouter) "ent2-a0" labIngress 50000000
          fun _ => labRouter).2).2 "srl1" =
      labRouter.delete (.qosInterface "ethernet-1/1.0") :=
  ((teardown_after_apply labProvisioner (obliging fun _ => labRouter) _ "ent2-a0" fun _ => labRouter).1 labIngress 50000000
    labRoundTrip).1

end GnmiProvisioner

end A2AProvisioning.Network
