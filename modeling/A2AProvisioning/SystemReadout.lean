import A2AProvisioning.ControllerMock
import A2AProvisioning.NetworkReadout
import A2AProvisioning.NetworkUndo
import A2AProvisioning.SystemRates

/-! What the harness and the page read back off the routers, against the sessions of the controller that wrote to them.
The harness takes a name that it reads for the proof that a session is enforced, and its absence for the end of it. -/

namespace A2AProvisioning.System

open Controller Network GnmiProvisioner Json

/-- What a router answers: to the Gets of single subtrees, and to the one of both subtrees of the rate limits. -/
structure Readout where
  answer : Query → Json
  both : Json

/-- The answers are renderings of the configuration. -/
def Readout.Of (o : Readout) (r : Router) : Prop :=
  r.Answers o.answer ∧ Router.ReportsAll [("interface", r.interfaces.entries.map (entryNode "interface-id")),
    ("policer-template", r.templates.entries.map (entryNode "name"))] o.both

/-- `names = _bandwidth_names if service == "bandwidth" else _telemetry_names`. -/
def Readout.names (o : Readout) (service : String) : Option (List Json) :=
  if service = "bandwidth" then bandwidthNames o.both else telemetryNames (o.answer .telemetryDestinations)

/-- Both nodes of the service are there. -/
def Enforces (d : Device) (service name : String) : Prop :=
  if service = "bandwidth" then (d.templates.get? name).isSome = true ∧ ∃ subif, d.AttachedTo subif name
  else (d.destinations.get? name).isSome = true ∧ (d.tunnels.get? name).isSome = true

theorem templateName_ne (sessionId : String) : templateName sessionId ≠ "" := by
  intro h
  have hlength := congrArg String.length h
  rw [templateName, String.length_append] at hlength
  exact absurd hlength (by simp)

theorem isOurs_templateName (sessionId : String) : isOurs (templateName sessionId) = true := by
  rw [isOurs, templateName, String.toList_append, List.isPrefixOf_iff_prefix]
  exact List.prefix_append _ _

theorem namesTemplates_router (d : Device) : d.router.NamesTemplates := by
  intro id body hget value hvalue
  rw [Device.router, OrderedDict.get?_mapValues] at hget
  obtain ⟨entry, -, rfl⟩ := Option.map_eq_some_iff.mp hget
  rw [attachment_interfaceBody] at hvalue
  obtain ⟨template, -, rfl⟩ := Option.map_eq_some_iff.mp hvalue
  exact ⟨template, rfl⟩

/-- However the device answers, the harness reads a name exactly where both nodes are there. -/
theorem mem_names {d : Device} {o : Readout} (h : o.Of d.router) (service : String) :
    ∃ names, o.names service = some names ∧
      ∀ sessionId, .str (templateName sessionId) ∈ names ↔ Enforces d service (templateName sessionId) := by
  rw [Readout.names]
  simp only [Enforces]
  split_ifs
  · obtain ⟨names, hnames, hmem⟩ := mem_bandwidthNames (namesTemplates_router d) h.2
    refine ⟨names, hnames, fun sessionId => (hmem _ (templateName_ne sessionId)).trans ?_⟩
    simp only [Device.router, OrderedDict.get?_mapValues, Option.isSome_map, Option.map_eq_some_iff]
    refine and_congr_right fun _ => ?_
    constructor
    · rintro ⟨subif, _, ⟨entry, hget, rfl⟩, hattached⟩
      rw [attachment_interfaceBody] at hattached
      obtain ⟨template, htemplate, hname⟩ := Option.map_eq_some_iff.mp hattached
      cases hname
      exact ⟨subif, entry, hget, htemplate⟩
    · rintro ⟨subif, entry, hget, htemplate⟩
      exact ⟨subif, _, ⟨entry, hget, rfl⟩, by rw [attachment_interfaceBody, htemplate]; rfl⟩
  · obtain ⟨names, hnames, hmem⟩ := mem_telemetryNames h.1
    refine ⟨names, hnames, fun sessionId => (hmem _).trans ?_⟩
    simp only [Device.router, OrderedDict.get?_mapValues, Option.isSome_map]
    exact and_iff_right (isOurs_templateName sessionId)

theorem mem_policers {d : Device} {o : Readout} (h : o.Of d.router) :
    ∃ names, policerNames (o.answer .qosPolicerTemplates) = some names ∧
      ∀ name, .str name ∈ names ↔ (d.templates.get? name).isSome = true := by
  obtain ⟨names, hnames, hmem⟩ := mem_policerNames h.1
  refine ⟨names, hnames, fun name => (hmem name).trans ?_⟩
  rw [Device.router, OrderedDict.get?_mapValues, Option.isSome_map]

/-- The call writes nodes of the service for the session to the device. -/
def Writes (device service sessionId : String) : NetCall → Prop
  | .applyBandwidth id path _ _ => service = "bandwidth" ∧ id = sessionId ∧ deviceOf path = device
  | .applyTelemetry id target _ _ _ => service ≠ "bandwidth" ∧ id = sessionId ∧ deviceOf target = device
  | .teardown _ => False

/-- Every template and every destination of a session was written by a call, and a template has the one policer that
this call asked for. -/
structure Traced (g : GnmiProvisioner) (net : Net Devices) : Prop where
  template : ∀ device ∈ g.targets, ∀ sessionId template,
    (net.state device).templates.get? (templateName sessionId) = some template →
      ∃ path capacityBps qosClass, .applyBandwidth sessionId path capacityBps qosClass ∈ net.calls ∧
        deviceOf path = device ∧ template.policers.entries = [(1, policer capacityBps)]
  destination : ∀ device ∈ g.targets, ∀ sessionId,
    ((net.state device).destinations.get? (templateName sessionId)).isSome = true →
      ∃ call ∈ net.calls, Writes device "telemetry" sessionId call

variable {g : GnmiProvisioner} {net : Net Devices}

theorem traced_start {devices : Devices} (hclean : ∀ sessionId, ¬ g.Named devices sessionId) :
    Traced g ⟨devices, []⟩ where
  template device hmem sessionId template hget :=
    absurd ⟨device, hmem, Or.inl (Option.isSome_iff_exists.mpr ⟨template, hget⟩)⟩ (hclean sessionId)
  destination device hmem sessionId hsome :=
    absurd ⟨device, hmem, Or.inr (Or.inr (Or.inl hsome))⟩ (hclean sessionId)

/-- More calls do not take a trace away. -/
theorem Traced.append (h : Traced g net) (call : NetCall) : Traced g ⟨net.state, net.calls ++ [call]⟩ where
  template device hmem sessionId template hget := by
    obtain ⟨path, capacityBps, qosClass, hcall, hwritten⟩ := h.template device hmem sessionId template hget
    exact ⟨path, capacityBps, qosClass, List.mem_append_left _ hcall, hwritten⟩
  destination device hmem sessionId hsome := by
    obtain ⟨call, hcall, hwrites⟩ := h.destination device hmem sessionId hsome
    exact ⟨call, List.mem_append_left _ hcall, hwrites⟩

theorem Traced.teardown (h : Traced g net) (ended : String) :
    Traced g (net.invoke g.provisioner (.teardown ended)).2 := by
  have happend := h.append (.teardown ended)
  constructor
  · intro device hmem sessionId template hget
    change ((g.teardown ended net.state).2 device).templates.get? _ = _ at hget
    rw [teardown_devices, if_pos hmem, templates_remove] at hget
    split_ifs at hget
    exact happend.template device hmem sessionId template hget
  · intro device hmem sessionId hsome
    change (((g.teardown ended net.state).2 device).destinations.get? _).isSome = true at hsome
    rw [teardown_devices, if_pos hmem, destinations_remove] at hsome
    split_ifs at hsome
    · cases hsome
    · exact happend.destination device hmem sessionId hsome

/-- Merging a policer into a template with at most the policer 1 leaves that one. -/
theorem entries_insert_one {policers : OrderedDict Nat Policer} {new : Policer}
    (h : policers.entries = [] ∨ ∃ old, policers.entries = [(1, old)]) : (policers.insert 1 new).entries = [(1, new)] := by
  change OrderedDict.assign 1 new policers.entries = _
  rcases h with h | ⟨old, h⟩ <;> rw [h] <;> rfl

theorem Traced.applyBandwidth (h : Traced g net) {sessionId : String} {path : ResolvedPath} {capacityBps qosClass : Nat}
    (hdevice : path.device ∈ g.targets) :
    Traced g (net.invoke g.provisioner (.applyBandwidth sessionId (.path path) capacityBps qosClass)).2 := by
  set call : NetCall := .applyBandwidth sessionId (.path path) capacityBps qosClass with hcall
  have happend := h.append call
  have hnew : call ∈ net.calls ++ [call] := List.mem_append_right _ (List.mem_singleton_self _)
  have hstate : (net.invoke g.provisioner call).2 = ⟨Function.update net.state path.device
      (policed (net.state path.device) sessionId path capacityBps), net.calls ++ [call]⟩ := by
    change Net.mk (g.applyBandwidth sessionId (.path path) capacityBps net.state).2 _ = _
    rw [applyBandwidth_eq hdevice]
  rw [hstate]
  constructor
  · intro device hmem other template hget
    by_cases hat : device = path.device
    · subst hat
      dsimp only at hget
      rw [Function.update_self, templates_policed] at hget
      split_ifs at hget with hname
      · cases hget
        obtain rfl := templateName_injective hname
        refine ⟨.path path, capacityBps, qosClass, hnew, rfl, entries_insert_one ?_⟩
        cases hbefore : (net.state path.device).templates.get? (templateName other) with
        | none => exact Or.inl rfl
        | some before =>
            obtain ⟨_, _, _, -, -, hentries⟩ := h.template path.device hmem other before hbefore
            exact Or.inr ⟨_, hentries⟩
      · exact happend.template path.device hmem other template hget
    · dsimp only at hget
      rw [Function.update_of_ne hat] at hget
      exact happend.template device hmem other template hget
  · intro device hmem other hsome
    by_cases hat : device = path.device
    · subst hat
      dsimp only at hsome
      rw [Function.update_self] at hsome
      exact happend.destination path.device hmem other hsome
    · dsimp only at hsome
      rw [Function.update_of_ne hat] at hsome
      exact happend.destination device hmem other hsome

theorem Traced.applyTelemetry (h : Traced g net) {sessionId : String} {target : Resolved} {sensorPaths : List String}
    {collectorEndpoint : String} {sampleIntervalS port : Nat} (hdevice : deviceOf target ∈ g.targets)
    (hport : portOf g.unicode (rpartition collectorEndpoint.toList).2 = some port) :
    Traced g (net.invoke g.provisioner
      (.applyTelemetry sessionId target sensorPaths collectorEndpoint sampleIntervalS)).2 := by
  set call : NetCall := .applyTelemetry sessionId target sensorPaths collectorEndpoint sampleIntervalS with hcall
  have happend := h.append call
  have hnew : call ∈ net.calls ++ [call] := List.mem_append_right _ (List.mem_singleton_self _)
  have hstate : (net.invoke g.provisioner call).2 =
      ⟨(g.applyTelemetry sessionId target collectorEndpoint net.state).2, net.calls ++ [call]⟩ := rfl
  rw [hstate, applyTelemetry_eq hdevice hport]
  constructor
  · intro device hmem other template hget
    by_cases hat : device = deviceOf target
    · subst hat
      dsimp only at hget
      rw [Function.update_self] at hget
      exact happend.template (deviceOf target) hmem other template hget
    · dsimp only at hget
      rw [Function.update_of_ne hat] at hget
      exact happend.template device hmem other template hget
  · intro device hmem other hsome
    by_cases hat : device = deviceOf target
    · subst hat
      dsimp only at hsome
      rw [Function.update_self, Device.updateExport, OrderedDict.get?_insert] at hsome
      by_cases hname : templateName other = templateName sessionId
      · obtain rfl := templateName_injective hname
        exact ⟨call, hnew, by decide, rfl, rfl⟩
      · rw [if_neg hname] at hsome
        exact happend.destination (deviceOf target) hmem other hsome
    · dsimp only at hsome
      rw [Function.update_of_ne hat] at hsome
      exact happend.destination device hmem other hsome

theorem Traced.invoke (h : Traced g net) (call : NetCall) : Traced g (net.invoke g.provisioner call).2 := by
  by_cases htaken : g.Takes call
  · cases call with
    | teardown ended => exact h.teardown ended
    | applyBandwidth sessionId path capacityBps qosClass =>
        obtain ⟨⟨path, rfl⟩, hdevice⟩ := htaken
        exact h.applyBandwidth hdevice
    | applyTelemetry sessionId target sensorPaths collectorEndpoint sampleIntervalS =>
        obtain ⟨port, hport⟩ := Option.ne_none_iff_exists'.mp htaken.1
        exact h.applyTelemetry htaken.2 hport
  · -- A call that is not taken leaves the devices as they were.
    have happly : call.isApply = true := by
      cases call with
      | teardown ended => exact absurd trivial htaken
      | applyBandwidth => rfl
      | applyTelemetry => rfl
    have hunchanged : (g.provisioner.call call net.state).2 = net.state := by
      refine devices_of_apply_not_ok happly fun result hresult => Bool.eq_false_iff.mpr fun hok => htaken ?_
      rw [← provisioner_ok_iff call net.state, hresult]
      exact hok
    rw [Net.invoke, hunchanged]
    exact h.append call

/-! ### What is read is what is active -/

theorem exists_of_isOurs {name : String} (h : isOurs name = true) : ∃ sessionId, name = templateName sessionId := by
  rw [isOurs, List.isPrefixOf_iff_prefix] at h
  obtain ⟨rest, hrest⟩ := h
  refine ⟨String.ofList rest, String.toList_inj.mp ?_⟩
  rw [templateName, String.toList_append, ← hrest]
  exact congrArg _ String.toList_ofList.symm

/-- The rate of the first policer of a template. -/
def rateOf (d : Device) (name : String) : Int :=
  ((d.templates.get? name).bind fun template => template.policers.entries.head?).elim 0 fun entry =>
    entry.2.peakRateKbps

/-- What the page says of a session. -/
def shownLimit (sessionId : String) (capacityBps : Nat) : Json :=
  .obj [("name", .str (templateName sessionId)), ("peak_kbps", .number (rateKbps capacityBps))]

/-- What is read off a router is true of the controller: every name is that of an active session, for which a call wrote
the nodes to this device, and every rate on the page is the one of such a call. -/
structure ReadsTrue (c : Service Devices) (device : String) (o : Readout) : Prop where
  names : ∀ service, ∃ names, o.names service = some names ∧ ∀ sessionId, .str (templateName sessionId) ∈ names →
    (∃ session, c.ActiveAt sessionId session) ∧ ∃ call ∈ c.net.calls, Writes device
      (if service = "bandwidth" then "bandwidth" else "telemetry") sessionId call
  policers : ∃ names, policerNames (o.answer .qosPolicerTemplates) = some names ∧
    ∀ sessionId, .str (templateName sessionId) ∈ names →
      (∃ session, c.ActiveAt sessionId session) ∧ ∃ call ∈ c.net.calls, Writes device "bandwidth" sessionId call
  page : ∀ operState oper, valueOf operState = some oper → ∃ policers,
    deviceState operState (o.answer .qosPolicerTemplates) = some (.obj [("online", .bool true),
      ("interface", .str "ethernet-1/1"), ("oper", oper), ("policers", .arr policers)]) ∧
    ∀ entry ∈ policers, ∃ sessionId session path capacityBps qosClass, c.ActiveAt sessionId session ∧
      .applyBandwidth sessionId path capacityBps qosClass ∈ c.net.calls ∧ deviceOf path = device ∧
      entry = shownLimit sessionId capacityBps

theorem rateOf_eq {d : Device} {name : String} {template : PolicerTemplate} {capacityBps : Nat}
    (hget : d.templates.get? name = some template) (hentries : template.policers.entries = [(1, policer capacityBps)]) :
    rateOf d name = rateKbps capacityBps := by
  rw [rateOf, hget, Option.bind_some, hentries]
  rfl

theorem onePolicer_router {d : Device} {name : String} {template : PolicerTemplate} {capacityBps : Nat}
    (hget : d.templates.get? name = some template) (hentries : template.policers.entries = [(1, policer capacityBps)]) :
    OnePolicer (templateBody template) (rateOf d name) := by
  refine ⟨_, by rw [templateBody, hentries]; rfl, ?_⟩
  rw [rateOf_eq hget hentries]
  rfl

theorem onePolicer_of_trace (htrace : Traced g net) {device : String} (hdevice : device ∈ g.targets) (name : String)
    (body : Body) (hget : (net.state device).router.templates.get? name = some body) (hours : isOurs name = true) :
    OnePolicer body (rateOf (net.state device) name) := by
  obtain ⟨sessionId, rfl⟩ := exists_of_isOurs hours
  rw [Device.router, OrderedDict.get?_mapValues] at hget
  obtain ⟨template, htemplate, rfl⟩ := Option.map_eq_some_iff.mp hget
  obtain ⟨_, capacityBps, _, -, -, hentries⟩ := htrace.template device hdevice sessionId template htemplate
  exact onePolicer_router htemplate hentries

theorem readsTrue_of_trace {c : Service Devices} (hnetwork : OnNetwork g c) (htrace : Traced g c.net) {device : String}
    (hdevice : device ∈ g.targets) {o : Readout} (ho : o.Of (c.net.state device).router) : ReadsTrue c device o := by
  have hactive : ∀ sessionId, (c.net.state device).HasNamed (templateName sessionId) →
      ∃ session, c.ActiveAt sessionId session := fun sessionId hnamed =>
    (hnetwork.named sessionId).mp ⟨device, hdevice, hnamed⟩
  have hwritten : ∀ sessionId, ((c.net.state device).templates.get? (templateName sessionId)).isSome = true →
      (∃ session, c.ActiveAt sessionId session) ∧ ∃ call ∈ c.net.calls, Writes device "bandwidth" sessionId call := by
    intro sessionId hsome
    obtain ⟨template, htemplate⟩ := Option.isSome_iff_exists.mp hsome
    obtain ⟨path, capacityBps, qosClass, hcall, hpath, -⟩ := htrace.template device hdevice sessionId template htemplate
    exact ⟨hactive sessionId (Or.inl hsome), _, hcall, rfl, rfl, hpath⟩
  constructor
  · intro service
    obtain ⟨names, hnames, hmem⟩ := mem_names ho service
    refine ⟨names, hnames, fun sessionId hname => ?_⟩
    have henforces := (hmem sessionId).mp hname
    rw [Enforces] at henforces
    split_ifs at henforces with hservice
    · rw [if_pos hservice]
      exact hwritten sessionId henforces.1
    · rw [if_neg hservice]
      exact ⟨hactive sessionId (Or.inr (Or.inr (Or.inl henforces.1))),
        htrace.destination device hdevice sessionId henforces.1⟩
  · obtain ⟨names, hnames, hmem⟩ := mem_policers ho
    exact ⟨names, hnames, fun sessionId hname => hwritten sessionId ((hmem _).mp hname)⟩
  · intro operState oper hoper
    obtain ⟨listed, hlisted, hstate⟩ := deviceState_of_answers ho.1 hoper (onePolicer_of_trace htrace hdevice)
    refine ⟨_, hstate, fun entry hentry => ?_⟩
    obtain ⟨⟨name, body⟩, hmem, rfl⟩ := List.mem_map.mp hentry
    obtain ⟨hbody, hours⟩ := List.mem_filter.mp (hlisted.mem_iff.mp hmem)
    obtain ⟨sessionId, rfl⟩ := exists_of_isOurs hours
    have hget := OrderedDict.mem_entries.mp hbody
    rw [Device.router, OrderedDict.get?_mapValues] at hget
    obtain ⟨template, htemplate, -⟩ := Option.map_eq_some_iff.mp hget
    obtain ⟨path, capacityBps, qosClass, hcall, hpath, hentries⟩ :=
      htrace.template device hdevice sessionId template htemplate
    obtain ⟨session, hsession⟩ := hactive sessionId (Or.inl (Option.isSome_iff_exists.mpr ⟨template, htemplate⟩))
    refine ⟨sessionId, session, path, capacityBps, qosClass, hsession, hcall, hpath, ?_⟩
    rw [shownLimit, rateOf_eq htemplate hentries]

/-- Right after a call that is taken, both nodes of its service are there. -/
theorem enforces_of_call {call : NetCall} {device service sessionId : String} {devices : Devices}
    (hwrites : Writes device service sessionId call) (htaken : g.Takes call) :
    device ∈ g.targets ∧ Enforces ((g.provisioner.call call devices).2 device) service (templateName sessionId) := by
  cases call with
  | teardown ended => cases hwrites
  | applyBandwidth id path capacityBps qosClass =>
      obtain ⟨⟨path, rfl⟩, hdevice⟩ := htaken
      obtain ⟨rfl, rfl, rfl⟩ := hwrites
      change path.device ∈ g.targets at hdevice
      refine ⟨hdevice, ?_⟩
      change Enforces ((g.applyBandwidth id (.path path) capacityBps devices).2 path.device) _ _
      rw [applyBandwidth_eq hdevice]
      dsimp only
      rw [Function.update_self, Enforces, if_pos rfl]
      refine ⟨templates_policed_isSome.mpr (Or.inl rfl), subif path, ⟨some (path.ingressIf, 0), some (templateName id)⟩, ?_, rfl⟩
      rw [interfaces_policed, if_pos rfl]
  | applyTelemetry id target sensorPaths collectorEndpoint sampleIntervalS =>
      obtain ⟨hport, hdevice⟩ := htaken
      obtain ⟨port, hport⟩ := Option.ne_none_iff_exists'.mp hport
      obtain ⟨hservice, rfl, rfl⟩ := hwrites
      refine ⟨hdevice, ?_⟩
      change Enforces ((g.applyTelemetry id target collectorEndpoint devices).2 (deviceOf target)) _ _
      rw [applyTelemetry_eq hdevice hport]
      dsimp only
      rw [Function.update_self, Enforces, if_neg hservice]
      constructor
      · rw [Device.updateExport, OrderedDict.get?_insert, if_pos rfl]
        rfl
      · rw [Device.updateExport, OrderedDict.get?_insert, if_pos rfl]
        rfl

/-- A translation writes the service of its action to one device. -/
theorem writes_of_translate {sessionId actionKind : String} {view : EntitlementView}
    {resourceMap : Bytes32 → Option Resolved} {call : NetCall}
    (h : translate sessionId view resourceMap = .ok [call]) (hkind : actionKinds actionKind = some view.serviceType) :
    ∃ device, Writes device actionKind sessionId call := by
  have hservice : view.serviceType = 0 ↔ actionKind = "bandwidth" := by
    rw [actionKinds] at hkind
    split_ifs at hkind with hbandwidth htelemetry
    · exact iff_of_true (Option.some.inj hkind).symm hbandwidth
    · exact iff_of_false (fun hzero => absurd ((Option.some.inj hkind).trans hzero) (by decide)) hbandwidth
  rw [Controller.translate] at h
  split at h
  · cases h
  · rename_i resolved _
    split_ifs at h with hzero
    · rw [bandwidth] at h
      split at h
      · cases h
        exact ⟨_, hservice.mp hzero, rfl, rfl⟩
      · cases h
    · rw [telemetry] at h
      split at h
      · cases h
      · cases h
        exact ⟨_, fun heq => hzero (hservice.mpr heq), rfl, rfl⟩

/-- What the reads show of a session, by the call that was made for it. A rate limit is on the page and among the
templates; the harness looks at the attachments too, so it sees the session only while an interface belongs to it. -/
def Shown (calls : List NetCall) (o : Readout) (sessionId : String) : NetCall → Prop
  | .applyBandwidth _ path capacityBps _ =>
      (∃ names, policerNames (o.answer .qosPolicerTemplates) = some names ∧ .str (templateName sessionId) ∈ names) ∧
        (∃ names, o.names "bandwidth" = some names ∧ (.str (templateName sessionId) ∈ names ↔
          ∃ subif, holder (deviceOf path) subif calls = some sessionId)) ∧
        ∀ operState oper, valueOf operState = some oper → ∃ state policers,
          deviceState operState (o.answer .qosPolicerTemplates) = some state ∧
            state.index "policers" = some (.arr policers) ∧ shownLimit sessionId capacityBps ∈ policers
  | .applyTelemetry .. => ∃ names, o.names "telemetry" = some names ∧ .str (templateName sessionId) ∈ names
  | .teardown _ => False

/-- What is read off the routers, in a state of the service: nothing but active sessions, every active session where it
was written, and an activation that returns at once. -/
structure ReadBack (cfg : Config) (g : GnmiProvisioner) (c : Service Devices) : Prop where
  reads : ∀ device ∈ g.targets, ∀ o : Readout, o.Of (c.net.state device).router → ReadsTrue c device o
  active : ∀ sessionId session, c.ActiveAt sessionId session → ∃ call ∈ c.net.calls, ∃ device ∈ g.targets,
    (∃ service, Writes device service sessionId call) ∧
      ∀ o : Readout, o.Of (c.net.state device).router → Shown c.net.calls o sessionId call
  activated : ∀ reader entitlementId actionKind nonce signature info,
    (c.activate cfg g.provisioner reader entitlementId actionKind nonce signature).1 = .ok info →
      ∃ device ∈ g.targets, ∀ o : Readout, o.Of ((c.activate cfg g.provisioner reader entitlementId actionKind nonce
        signature).2.net.state device).router →
          ∃ names, o.names actionKind = some names ∧ .str (templateName info.sessionId) ∈ names

/-- What the record has of a call is on the device of the call, and is read there. -/
theorem shown_of_holds (htrace : Traced g net) (hattaches : g.Attaches net.calls net.state) {call : NetCall} {applied : Applied} (happlied : Applied.ofCall call = some applied)
    (hdevice : applied.device ∈ g.targets) (hholds : g.Holds net.state call.sessionId applied) :
    (∃ service, Writes applied.device service call.sessionId call) ∧
      ∀ o : Readout, o.Of (net.state applied.device).router → Shown net.calls o call.sessionId call := by
  cases call with
  | teardown ended => cases happlied
  | applyBandwidth id path capacityBps qosClass =>
      cases happlied
      refine ⟨⟨"bandwidth", rfl, rfl, rfl⟩, fun o ho => ⟨?_, ?_, fun operState oper hoper => ?_⟩⟩
      · obtain ⟨template, htemplate, -⟩ := hholds
        obtain ⟨names, hnames, hmem⟩ := mem_policers ho
        exact ⟨names, hnames, (hmem _).mpr (Option.isSome_iff_exists.mpr ⟨template, htemplate⟩)⟩
      · obtain ⟨template, htemplate, -⟩ := hholds
        obtain ⟨names, hnames, hmem⟩ := mem_names ho "bandwidth"
        refine ⟨names, hnames, (hmem id).trans ?_⟩
        rw [Enforces, if_pos rfl]
        refine (and_iff_right (Option.isSome_iff_exists.mpr ⟨template, htemplate⟩)).trans ?_
        exact exists_congr fun subif => hattaches (deviceOf path) hdevice subif id
      · obtain ⟨template, htemplate, hpolicer⟩ := hholds
        change (net.state (deviceOf path)).templates.get? (templateName id) = some template at htemplate
        obtain ⟨_, capacityBps', _, -, -, hentries⟩ := htrace.template (deviceOf path) hdevice id template htemplate
        obtain ⟨listed, hlisted, hstate⟩ := deviceState_of_answers ho.1 hoper (onePolicer_of_trace htrace hdevice)
        have hsame : rateKbps capacityBps' = rateKbps capacityBps := by
          have hget : template.policers.get? 1 = some (policer capacityBps') := by
            rw [OrderedDict.get?, hentries]
            rfl
          exact congrArg Policer.peakRateKbps (Option.some.inj (hget.symm.trans hpolicer))
        refine ⟨_, _, hstate, rfl, List.mem_map.mpr ⟨(templateName id, templateBody template), ?_, ?_⟩⟩
        · refine hlisted.mem_iff.mpr (List.mem_filter.mpr ⟨OrderedDict.mem_entries.mpr ?_, isOurs_templateName id⟩)
          change ((net.state (deviceOf path)).router).templates.get? _ = _
          rw [Device.router, OrderedDict.get?_mapValues, htemplate, Option.map_some]
        · change Json.obj [_, ("peak_kbps", .number (rateOf (net.state (deviceOf path)) (templateName id)))] = _
          rw [rateOf_eq htemplate hentries, hsame]
          rfl
  | applyTelemetry id target sensorPaths collectorEndpoint sampleIntervalS =>
      cases happlied
      obtain ⟨-, ⟨port, -, hdestination⟩, htunnel⟩ := hholds
      refine ⟨⟨"telemetry", by decide, rfl, rfl⟩, fun o ho => ?_⟩
      obtain ⟨names, hnames, hmem⟩ := mem_names ho "telemetry"
      refine ⟨names, hnames, (hmem id).mpr ?_⟩
      rw [Enforces, if_neg (by decide)]
      exact ⟨Option.isSome_iff_exists.mpr ⟨_, hdestination⟩, Option.isSome_iff_exists.mpr ⟨_, htunnel⟩⟩

/-- Over every run of operations whose calls the routers take, from routers without a node of any session: however the
routers answer, what the harness and the page read off them is true of the sessions of the controller. -/
theorem readback_follows_sessions (cfg : Config) (g : GnmiProvisioner) (controllerId : String) (devices : Devices)
    (hclean : ∀ sessionId, ¬ g.Named devices sessionId) (ops : List Op) (htaken : ∀ op ∈ ops, op.Allowed cfg g.Takes) :
    ReadBack cfg g ((Service.start controllerId devices).performAll cfg g.provisioner ops) := by
  obtain ⟨hrecorded, halike⟩ := recorded_alike cfg g controllerId devices hclean ops htaken
  have htrace : Traced g ((Service.start controllerId devices).performAll cfg g.provisioner ops).net :=
    performAll_net (fun _ call h => h.invoke call) (traced_start hclean) ops
  have hattaches := @attaches_performAll cfg g devices hclean controllerId ops
  generalize (Service.start controllerId devices).performAll cfg g.provisioner ops = c at halike htrace hattaches
  refine ⟨fun device hdevice o ho => ?_, fun sessionId session hactive => ?_, ?_⟩
  · exact readsTrue_of_trace (hrecorded.onNetwork halike hattaches) htrace hdevice ho
  · have hsome := (hrecorded.active sessionId).mpr ⟨session, by rwa [Service.ActiveAt, halike.sessions]⟩
    obtain ⟨applied, happlied⟩ := Option.isSome_iff_exists.mp hsome
    obtain ⟨call, hcall, rfl, hcalled⟩ := hrecorded.called sessionId applied happlied
    obtain ⟨hdevice, hholds⟩ := halike.net.state.holds call.sessionId applied happlied
    exact ⟨call, halike.net.calls ▸ hcall, applied.device, hdevice, shown_of_holds htrace hattaches hcalled hdevice hholds⟩
  · intro reader entitlementId actionKind nonce signature info hok
    obtain ⟨facts, plan, call, result, -, hgranted, hcalls, hid, hresult, hwell, hstate⟩ := activate_ok hok
    obtain ⟨-, -, -, -, -, hkind, -⟩ := predicate_eq_none.mp hgranted.allowed
    obtain ⟨device, hwrites⟩ := writes_of_translate (hcalls ▸ hgranted.calls) (hkind actionKind rfl)
    have htaken : g.Takes call := by
      rw [← provisioner_ok_iff call c.net.state, hresult]
      exact hwell
    obtain ⟨hdevice, henforces⟩ := @enforces_of_call g call device actionKind plan.sessionId c.net.state hwrites htaken
    refine ⟨device, hdevice, fun o ho => ?_⟩
    obtain ⟨names, hnames, hmem⟩ := mem_names ho actionKind
    refine ⟨names, hnames, (hmem _).mpr ?_⟩
    rw [hstate, hid]
    exact henforces

/-- A tidy router that answers with what it has, the two subtrees in a notification each. -/
theorem readout_of_tidy {r : Router} (h : r.Tidy) : Readout.Of ⟨r.answer, .obj [("notification", .arr [
      .obj [("update", .arr [.obj [("val", .obj [("interface", .arr (r.interfaces.entries.map (entryNode "interface-id")))])]])],
      .obj [("update", .arr [.obj [("val", .obj [("policer-template", .arr (r.templates.entries.map (entryNode "name")))])]])]])]⟩
    r := by
  have hupdates : ∀ list items, IsIdentifier list → tidyItems items = true →
      Router.Updates [("update", .arr [.obj [("val", .obj [(list, .arr items)])]])] [[(list, .arr items)]] := by
    intro list items hlist hitems
    refine ⟨_, Or.inl rfl, .cons ⟨_, rfl, Or.inr (renders_self _ ?_)⟩ .nil⟩
    simp [tidy, tidyMembers, hitems, hlist]
  refine ⟨Router.answers_self h, _, [_, _], [[[("interface", .arr (r.interfaces.entries.map (entryNode "interface-id")))]],
    [[("policer-template", .arr (r.templates.entries.map (entryNode "name")))]]], rfl, Or.inl rfl, ?_, ?_⟩
  · exact .cons (hupdates "interface" _ (by decide) h.1) (.cons (hupdates "policer-template" _ (by decide) h.2.1) .nil)
  · intro list hmem
    rw [List.mem_pair] at hmem
    constructor
    · intro part hpart value hvalue
      have hparts : ∃ name items, part = [(name, Json.arr items)] := by
        rcases List.mem_pair.mp hpart with rfl | rfl <;> exact ⟨_, _, rfl⟩
      obtain ⟨name, items, rfl⟩ := hparts
      rw [lookup, lookup, Option.none_or] at hvalue
      split_ifs at hvalue
      · exact ⟨items, (Option.some.inj hvalue).symm⟩
      · cases hvalue
    · rcases hmem with rfl | rfl <;> exact .of_eq (List.append_nil _)

theorem readback_follows_sessions_lab :
    ∃ o : Readout, o.Of (((Service.start "bw-ctrl-1" fun _ => .empty).performAll labConfig labProvisioner.provisioner
        (labActivation "0x01" 1 10)).net.state "srl1").router ∧
      ∃ names, o.names "bandwidth" = some names ∧ .str (templateName "ent1-a0") ∈ names := by
  have htidy : (((Service.start "bw-ctrl-1" fun _ => .empty).performAll labConfig labProvisioner.provisioner
      (labActivation "0x01" 1 10)).net.state "srl1").router.Tidy := by decide +kernel
  have hback := readback_follows_sessions labConfig labProvisioner "bw-ctrl-1" (fun _ => .empty)
    (not_named_empty labProvisioner) [.request (labReader 10) (.challenge 1 "0x01")] fun op hmem => by
      rw [List.mem_singleton.mp hmem]
      trivial
  obtain ⟨device, hdevice, hread⟩ := hback.activated (labReader 10) 1 "bandwidth" "0x01"
    (labProof "0x01" 1 (10 + nonceTtlS)) ⟨"ent1-a0", 1, .active, 10, 100⟩ (by rfl)
  rw [List.mem_singleton.mp hdevice] at hread
  exact ⟨_, readout_of_tidy htidy, hread _ (readout_of_tidy htidy)⟩

end A2AProvisioning.System
