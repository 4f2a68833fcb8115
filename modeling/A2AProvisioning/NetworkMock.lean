import A2AProvisioning.LibraryLockstep
import A2AProvisioning.NetworkProvisioner

/-! `MockProvisioner`, which remembers what a router would have been told, against `GnmiProvisioner`. On the calls
that the real one takes, the record and the routers are two views of one thing after every run of calls. -/

namespace A2AProvisioning.Network

open Controller

/-- What an apply call leaves in the record. -/
inductive Applied
  | bandwidth (path : Resolved) (capacityBps qosClass : Nat)
  | telemetry (target : Resolved) (sensorPaths : List String) (collectorEndpoint : String) (sampleIntervalS : Nat)
      (nodes : List String)
  deriving DecidableEq

/-- What an apply call would leave. -/
def Applied.ofCall : NetCall → Option Applied
  | .applyBandwidth _ path capacityBps qosClass => some (.bandwidth path capacityBps qosClass)
  | .applyTelemetry _ target sensorPaths collectorEndpoint sampleIntervalS =>
      some (.telemetry target sensorPaths collectorEndpoint sampleIntervalS ["destination", "tunnel"])
  | .teardown _ => none

structure MockProvisioner where
  applied : OrderedDict String Applied
  tornDown : List String

namespace MockProvisioner

def new : MockProvisioner := ⟨.empty, []⟩

def applyBandwidth (sessionId : String) (path : Resolved) (capacityBps qosClass : Nat) (m : MockProvisioner) :
    ApplyResult × MockProvisioner :=
  (⟨true, ""⟩, { m with applied := m.applied.insert sessionId (.bandwidth path capacityBps qosClass) })

/-- Both nodes of an export are recorded. -/
def applyTelemetry (sessionId : String) (target : Resolved) (sensorPaths : List String) (collectorEndpoint : String)
    (sampleIntervalS : Nat) (m : MockProvisioner) : ApplyResult × MockProvisioner :=
  (⟨true, ""⟩, { m with
    applied := m.applied.insert sessionId
      (.telemetry target sensorPaths collectorEndpoint sampleIntervalS ["destination", "tunnel"]) })

def teardown (sessionId : String) (m : MockProvisioner) : ApplyResult × MockProvisioner :=
  (⟨true, ""⟩, ⟨m.applied.erase sessionId, m.tornDown ++ [sessionId]⟩)

def call : NetCall → MockProvisioner → ApplyResult × MockProvisioner
  | .applyBandwidth sessionId path capacityBps qosClass => applyBandwidth sessionId path capacityBps qosClass
  | .applyTelemetry sessionId target sensorPaths collectorEndpoint sampleIntervalS =>
      applyTelemetry sessionId target sensorPaths collectorEndpoint sampleIntervalS
  | .teardown sessionId => teardown sessionId

/-- As the port has it. No call raises. -/
def provisioner : Provisioner MockProvisioner where
  call netCall m := (some (call netCall m).1, (call netCall m).2)

theorem call_ok (netCall : NetCall) (m : MockProvisioner) : (call netCall m).1.ok = true := by
  cases netCall <;> rfl

theorem applied_call {netCall : NetCall} (hcall : netCall.isApply = true) (m : MockProvisioner) (sessionId : String) :
    ((call netCall m).2.applied.get? sessionId).isSome = true ↔
      sessionId = netCall.sessionId ∨ (m.applied.get? sessionId).isSome = true := by
  have hinsert : ∀ (at' : String) (applied : Applied),
      ((m.applied.insert at' applied).get? sessionId).isSome = true ↔
        sessionId = at' ∨ (m.applied.get? sessionId).isSome = true := by
    intro at' applied
    rw [OrderedDict.get?_insert]
    split_ifs with hat
    · exact iff_of_true rfl (Or.inl hat)
    · exact (or_iff_right hat).symm
  cases netCall with
  | applyBandwidth => exact hinsert _ _
  | applyTelemetry => exact hinsert _ _
  | teardown => cases hcall

/-- What is on record was there before, or is of this call. -/
theorem applied_of_call {netCall : NetCall} {m : MockProvisioner} {sessionId : String} {applied : Applied}
    (h : (call netCall m).2.applied.get? sessionId = some applied) :
    (netCall.sessionId = sessionId ∧ Applied.ofCall netCall = some applied) ∨
      m.applied.get? sessionId = some applied := by
  have hinsert : ∀ (at' : String) (applied' : Applied),
      (m.applied.insert at' applied').get? sessionId = some applied →
        (at' = sessionId ∧ some applied' = some applied) ∨ m.applied.get? sessionId = some applied := by
    intro at' applied' hget
    rw [OrderedDict.get?_insert] at hget
    split_ifs at hget with hat
    · exact Or.inl ⟨hat.symm, hget⟩
    · exact Or.inr hget
  cases netCall with
  | applyBandwidth => exact hinsert _ _ h
  | applyTelemetry => exact hinsert _ _ h
  | teardown ended =>
      refine Or.inr ?_
      change (m.applied.erase ended).get? sessionId = some applied at h
      rw [OrderedDict.get?_erase] at h
      split_ifs at h
      exact h

end MockProvisioner

/-- The subinterface is attached to the template. -/
def Device.AttachedTo (d : Device) (subif name : String) : Prop :=
  ∃ entry, d.interfaces.get? subif = some entry ∧ entry.policerTemplate = some name

/-- Whom a subinterface belongs to after a call. -/
def holderAfter (device subif : String) (holder : Option String) : NetCall → Option String
  | .applyBandwidth sessionId (.path path) _ _ =>
      if path.device = device ∧ GnmiProvisioner.subif path = subif then some sessionId else holder
  | .teardown sessionId => if holder = some sessionId then none else holder
  | _ => holder

/-- It belongs to the session that was applied on it last, until that one is torn down; nobody else gets it back. -/
def holder (device subif : String) (calls : List NetCall) : Option String := calls.foldl (holderAfter device subif) none

/-- The subinterfaces of the known devices are attached to the templates of the sessions that they belong to. -/
def GnmiProvisioner.Attaches (g : GnmiProvisioner) (calls : List NetCall) (devices : Devices) : Prop :=
  ∀ device ∈ g.targets, ∀ subif sessionId,
    (devices device).AttachedTo subif (templateName sessionId) ↔ holder device subif calls = some sessionId

/-- The values of the record are on the device: the template with the rate, or both nodes of the export. Whether the
interface obeys the template is another matter, since the next session may take it. -/
def GnmiProvisioner.Holds (g : GnmiProvisioner) (devices : Devices) (sessionId : String) : Applied → Prop
  | .bandwidth path capacityBps _ =>
      ∃ template, (devices (deviceOf path)).templates.get? (templateName sessionId) = some template ∧
        template.policers.get? 1 = some (policer capacityBps)
  | .telemetry target _ collectorEndpoint _ nodes =>
      nodes = ["destination", "tunnel"] ∧
        (∃ port, portOf g.unicode (rpartition collectorEndpoint.toList).2 = some port ∧
          (devices (deviceOf target)).destinations.get? (templateName sessionId) =
            some ⟨if (rpartition collectorEndpoint.toList).1 = [] then "0.0.0.0"
              else String.ofList (rpartition collectorEndpoint.toList).1, port, "mgmt"⟩) ∧
        (devices (deviceOf target)).tunnels.get? (templateName sessionId) =
          some ⟨"enable", templateName sessionId, deviceOf target, tunnelGrpcServer⟩

/-- The device an entry of the record speaks of. -/
def Applied.device : Applied → String
  | .bandwidth path _ _ => deviceOf path
  | .telemetry target _ _ _ _ => deviceOf target

namespace GnmiProvisioner

variable (g : GnmiProvisioner)

/-- The calls that the real provisioner takes. -/
def Takes : NetCall → Prop
  | .applyBandwidth _ path _ _ => (∃ resolved, path = .path resolved) ∧ deviceOf path ∈ g.targets
  | .applyTelemetry _ target _ collectorEndpoint _ =>
      portOf g.unicode (rpartition collectorEndpoint.toList).2 ≠ none ∧ deviceOf target ∈ g.targets
  | .teardown _ => True

/-- A session is in the record while something is named after it on a router, and the router holds what the
record says. A template that is attached is there. -/
structure Mirrors (m : MockProvisioner) (devices : Devices) : Prop where
  named : ∀ sessionId, (m.applied.get? sessionId).isSome = true ↔ g.Named devices sessionId
  holds : ∀ sessionId applied, m.applied.get? sessionId = some applied →
    applied.device ∈ g.targets ∧ g.Holds devices sessionId applied
  attached : ∀ device ∈ g.targets, ∀ subif entry sessionId, (devices device).interfaces.get? subif = some entry →
    entry.policerTemplate = some (templateName sessionId) →
    ((devices device).templates.get? (templateName sessionId)).isSome = true

variable {g} {m : MockProvisioner} {devices : Devices} {sessionId : String}

/-- Routers without a node of any session mirror an empty record. -/
theorem mirrors_new (hclean : ∀ sessionId, ¬ g.Named devices sessionId) : g.Mirrors .new devices where
  named sessionId := iff_of_false (by rw [MockProvisioner.new, OrderedDict.get?_empty]; exact Bool.false_ne_true)
    (hclean sessionId)
  holds sessionId applied happlied := by cases happlied
  attached device hmem subif entry sessionId hget hattached :=
    absurd ⟨device, hmem, Or.inr (Or.inl ⟨subif, entry, hget, hattached⟩)⟩ (hclean sessionId)

theorem named_teardown_iff {other : String} (hother : other ≠ sessionId) :
    g.Named (g.teardown sessionId devices).2 other ↔ g.Named devices other := by
  refine ⟨named_of_teardown, ?_⟩
  rintro ⟨device, hmem, hnamed⟩
  have hname : templateName other ≠ templateName sessionId := templateName_injective.ne hother
  refine ⟨device, hmem, ?_⟩
  rw [teardown_devices, if_pos hmem]
  rcases hnamed with htemplate | ⟨subif, entry, hget, hattached⟩ | hdestination | htunnel
  · exact Or.inl (by rwa [templates_remove, if_neg hname])
  · refine Or.inr (Or.inl ⟨subif, entry, ?_, hattached⟩)
    exact interfaces_remove_of_ne _ _ hget (by rw [hattached]; exact fun h => hname (Option.some.inj h))
  · exact Or.inr (Or.inr (Or.inl (by rwa [destinations_remove, if_neg hname])))
  · exact Or.inr (Or.inr (Or.inr (by rwa [tunnels_remove, if_neg hname])))

theorem holds_teardown {other : String} (hother : other ≠ sessionId) {applied : Applied}
    (hdevice : applied.device ∈ g.targets) (h : g.Holds devices other applied) :
    g.Holds (g.teardown sessionId devices).2 other applied := by
  have hname : templateName other ≠ templateName sessionId := templateName_injective.ne hother
  cases applied with
  | bandwidth path capacityBps qosClass =>
      change deviceOf path ∈ g.targets at hdevice
      obtain ⟨template, hget, hpolicer⟩ := h
      refine ⟨template, ?_, hpolicer⟩
      rw [teardown_devices, if_pos hdevice, templates_remove, if_neg hname, hget]
  | telemetry target sensorPaths collectorEndpoint sampleIntervalS nodes =>
      change deviceOf target ∈ g.targets at hdevice
      obtain ⟨hnodes, ⟨port, hport, hdestination⟩, htunnel⟩ := h
      refine ⟨hnodes, ⟨port, hport, ?_⟩, ?_⟩
      · rw [teardown_devices, if_pos hdevice, destinations_remove, if_neg hname, hdestination]
      · rw [teardown_devices, if_pos hdevice, tunnels_remove, if_neg hname, htunnel]

theorem Mirrors.teardown (h : g.Mirrors m devices) (sessionId : String) :
    g.Mirrors (m.teardown sessionId).2 (g.teardown sessionId devices).2 where
  named other := by
    rw [MockProvisioner.teardown, OrderedDict.get?_erase]
    by_cases hother : other = sessionId
    · rw [if_pos hother, hother]
      exact iff_of_false Bool.false_ne_true (not_named_teardown sessionId)
    · rw [if_neg hother, h.named, named_teardown_iff hother]
  holds other applied happlied := by
    rw [MockProvisioner.teardown, OrderedDict.get?_erase] at happlied
    split_ifs at happlied with hother
    obtain ⟨hdevice, hholds⟩ := h.holds other applied happlied
    exact ⟨hdevice, holds_teardown hother hdevice hholds⟩
  attached device hmem subif entry other hget hattached := by
    rw [teardown_devices, if_pos hmem] at hget ⊢
    obtain ⟨hget, hne⟩ := interfaces_of_remove _ _ hget
    rw [hattached] at hne
    rw [templates_remove, if_neg (fun heq => hne (congrArg some heq))]
    exact h.attached device hmem subif entry other hget hattached

section Apply

variable {path : ResolvedPath} {capacityBps qosClass : Nat} {target : Resolved} {sensorPaths : List String}
  {collectorEndpoint : String} {sampleIntervalS : Nat}

/-- The device after a bandwidth apply. -/
def policed (d : Device) (sessionId : String) (path : ResolvedPath) (capacityBps : Nat) : Device :=
  (d.updateTemplate (templateName sessionId) (policer capacityBps)).updateInterface (subif path)
    ⟨some (path.ingressIf, 0), some (templateName sessionId)⟩

theorem applyBandwidth_eq (hdevice : path.device ∈ g.targets) :
    g.applyBandwidth sessionId (.path path) capacityBps devices =
      (some ⟨true, "policer " ++ templateName sessionId ++ " @ " ++ path.device ++ "/" ++ subif path⟩,
        Function.update devices path.device (policed (devices path.device) sessionId path capacityBps)) := by
  rw [applyBandwidth]
  exact if_pos hdevice

theorem templates_policed (d : Device) (name : String) :
    (policed d sessionId path capacityBps).templates.get? name =
      if name = templateName sessionId then
        some ⟨((d.templates.get? (templateName sessionId)).elim .empty PolicerTemplate.policers).insert 1
          (policer capacityBps)⟩
      else d.templates.get? name :=
  OrderedDict.get?_insert _ _ _ _

theorem interfaces_policed (d : Device) (name : String) :
    (policed d sessionId path capacityBps).interfaces.get? name =
      if name = subif path then some ⟨some (path.ingressIf, 0), some (templateName sessionId)⟩
      else d.interfaces.get? name :=
  OrderedDict.get?_insert _ _ _ _

/-- A template that was there is there, and the new one is. -/
theorem templates_policed_isSome {d : Device} {name : String} :
    ((policed d sessionId path capacityBps).templates.get? name).isSome = true ↔
      name = templateName sessionId ∨ (d.templates.get? name).isSome = true := by
  rw [templates_policed]
  split_ifs with hname
  · exact iff_of_true rfl (Or.inl hname)
  · exact (or_iff_right hname).symm

/-- An attachment that an apply takes over leaves its template behind, so its session keeps its name. -/
theorem Mirrors.hasNamed_policed (h : g.Mirrors m devices) (hdevice : path.device ∈ g.targets) {other : String}
    (hnamed : (devices path.device).HasNamed (templateName other)) :
    (policed (devices path.device) sessionId path capacityBps).HasNamed (templateName other) := by
  rcases hnamed with htemplate | ⟨subif, entry, hget, hattached⟩ | hdestination | htunnel
  · exact Or.inl (templates_policed_isSome.mpr (Or.inr htemplate))
  · exact Or.inl (templates_policed_isSome.mpr (Or.inr
      (h.attached path.device hdevice subif entry other hget hattached)))
  · exact Or.inr (Or.inr (Or.inl hdestination))
  · exact Or.inr (Or.inr (Or.inr htunnel))

/-- Configuration of a session before or after one device has changed. -/
theorem named_update {device : String} {updated : Device} {other : String} (hdevice : device ∈ g.targets)
    (hkept : (devices device).HasNamed (templateName other) → updated.HasNamed (templateName other))
    (hnamed : g.Named devices other) : g.Named (Function.update devices device updated) other := by
  obtain ⟨found, hmem, hnamed⟩ := hnamed
  by_cases hfound : found = device
  · subst hfound
    exact ⟨found, hmem, by rw [Function.update_self]; exact hkept hnamed⟩
  · exact ⟨found, hmem, by rwa [Function.update_of_ne hfound]⟩

/-- After an apply on a known device, the session has a node, and the others have one where they had. -/
theorem named_apply_iff {device other : String} {updated : Device} (hdevice : device ∈ g.targets)
    (hself : updated.HasNamed (templateName sessionId))
    (hkept : ∀ name, (devices device).HasNamed (templateName name) → updated.HasNamed (templateName name))
    (honly : ∀ name, updated.HasNamed name → name = templateName sessionId ∨ (devices device).HasNamed name) :
    g.Named (Function.update devices device updated) other ↔ other = sessionId ∨ g.Named devices other := by
  constructor
  · exact named_of_update honly
  · rintro (rfl | hnamed)
    · exact ⟨device, hdevice, by rwa [Function.update_self]⟩
    · exact named_update hdevice (hkept other) hnamed

/-- A device that changes elsewhere holds what it held. -/
theorem holds_update {device other : String} {updated : Device}
    (htemplates : updated.templates.get? (templateName other) = (devices device).templates.get? (templateName other))
    (hdestinations : updated.destinations.get? (templateName other) =
      (devices device).destinations.get? (templateName other))
    (htunnels : updated.tunnels.get? (templateName other) = (devices device).tunnels.get? (templateName other))
    {applied : Applied} (h : g.Holds devices other applied) :
    g.Holds (Function.update devices device updated) other applied := by
  have hframe : ∀ found,
      (Function.update devices device updated found).templates.get? (templateName other) =
        (devices found).templates.get? (templateName other) ∧
      (Function.update devices device updated found).destinations.get? (templateName other) =
        (devices found).destinations.get? (templateName other) ∧
      (Function.update devices device updated found).tunnels.get? (templateName other) =
        (devices found).tunnels.get? (templateName other) := by
    intro found
    by_cases hat : found = device
    · subst hat
      rw [Function.update_self]
      exact ⟨htemplates, hdestinations, htunnels⟩
    · rw [Function.update_of_ne hat]
      exact ⟨rfl, rfl, rfl⟩
  cases applied with
  | bandwidth resolved capacity qos =>
      obtain ⟨template, hget, hpolicer⟩ := h
      exact ⟨template, (hframe _).1.trans hget, hpolicer⟩
  | telemetry target sensorPaths collectorEndpoint sampleIntervalS nodes =>
      obtain ⟨hnodes, ⟨port, hport, hdestination⟩, htunnel⟩ := h
      exact ⟨hnodes, ⟨port, hport, (hframe _).2.1.trans hdestination⟩, (hframe _).2.2.trans htunnel⟩

theorem Mirrors.applyBandwidth (h : g.Mirrors m devices) (hdevice : path.device ∈ g.targets) :
    g.Mirrors (m.applyBandwidth sessionId (.path path) capacityBps qosClass).2
      (g.applyBandwidth sessionId (.path path) capacityBps devices).2 := by
  rw [applyBandwidth_eq hdevice]
  change g.Mirrors _ (Function.update devices path.device (policed (devices path.device) sessionId path capacityBps))
  refine ⟨fun other => ?_, fun other applied happlied => ?_, fun device hmem subif' entry other hget hattached => ?_⟩
  · rw [MockProvisioner.applyBandwidth, OrderedDict.get?_insert,
      named_apply_iff hdevice (Or.inl (templates_policed_isSome.mpr (Or.inl rfl)))
        (fun name => h.hasNamed_policed hdevice) (fun name => hasNamed_of_updateTemplate)]
    split_ifs with hother
    · exact iff_of_true rfl (Or.inl hother)
    · rw [h.named, or_iff_right hother]
  · rw [MockProvisioner.applyBandwidth, OrderedDict.get?_insert] at happlied
    split_ifs at happlied with hother
    · cases happlied
      obtain ⟨template, hget, hpolicer⟩ :=
        Device.exists_policer_updateTemplate (devices path.device) (templateName sessionId) (policer capacityBps)
      refine ⟨hdevice, template, ?_, hpolicer⟩
      change (Function.update devices path.device _ path.device).templates.get? _ = _
      rw [Function.update_self, hother]
      exact hget
    · obtain ⟨hknown, hholds⟩ := h.holds other applied happlied
      have hname : templateName other ≠ templateName sessionId := templateName_injective.ne hother
      exact ⟨hknown, holds_update ((templates_policed _ _).trans (if_neg hname)) rfl rfl hholds⟩
  · by_cases hat : device = path.device
    · subst hat
      rw [Function.update_self] at hget ⊢
      rw [interfaces_policed] at hget
      rw [templates_policed_isSome]
      split_ifs at hget with hsubif
      · cases hget
        exact Or.inl (Option.some.inj hattached).symm
      · exact Or.inr (h.attached path.device hmem subif' entry other hget hattached)
    · rw [Function.update_of_ne hat] at hget ⊢
      exact h.attached device hmem subif' entry other hget hattached

theorem applyTelemetry_eq (hdevice : deviceOf target ∈ g.targets) {port : Nat}
    (hport : portOf g.unicode (rpartition collectorEndpoint.toList).2 = some port) :
    g.applyTelemetry sessionId target collectorEndpoint devices =
      (some ⟨true, "telemetry export " ++ templateName sessionId ++ " @ " ++ deviceOf target ++ " → " ++
          collectorEndpoint⟩,
        Function.update devices (deviceOf target) ((devices (deviceOf target)).updateExport (templateName sessionId)
          ⟨if (rpartition collectorEndpoint.toList).1 = [] then "0.0.0.0"
            else String.ofList (rpartition collectorEndpoint.toList).1, port, "mgmt"⟩
          ⟨"enable", templateName sessionId, deviceOf target, tunnelGrpcServer⟩)) := by
  rw [applyTelemetry]
  simp only [hport, if_pos hdevice]

theorem Mirrors.applyTelemetry (h : g.Mirrors m devices) (hdevice : deviceOf target ∈ g.targets) {port : Nat}
    (hport : portOf g.unicode (rpartition collectorEndpoint.toList).2 = some port) :
    g.Mirrors (m.applyTelemetry sessionId target sensorPaths collectorEndpoint sampleIntervalS).2
      (g.applyTelemetry sessionId target collectorEndpoint devices).2 := by
  rw [applyTelemetry_eq hdevice hport]
  set destination : Destination := ⟨if (rpartition collectorEndpoint.toList).1 = [] then "0.0.0.0"
    else String.ofList (rpartition collectorEndpoint.toList).1, port, "mgmt"⟩ with hdestination
  set tunnel : Tunnel := ⟨"enable", templateName sessionId, deviceOf target, tunnelGrpcServer⟩ with htunnel
  set exported := (devices (deviceOf target)).updateExport (templateName sessionId) destination tunnel with hexported
  have hnew : ∀ name, exported.destinations.get? name =
      if name = templateName sessionId then some destination else (devices (deviceOf target)).destinations.get? name :=
    fun _ => OrderedDict.get?_insert _ _ _ _
  have hnew' : ∀ name, exported.tunnels.get? name =
      if name = templateName sessionId then some tunnel else (devices (deviceOf target)).tunnels.get? name :=
    fun _ => OrderedDict.get?_insert _ _ _ _
  have hkept : ∀ name, (devices (deviceOf target)).HasNamed (templateName name) →
      exported.HasNamed (templateName name) := by
    intro name hnamed
    by_cases hname : templateName name = templateName sessionId
    · exact Or.inr (Or.inr (Or.inl (by rw [hnew, if_pos hname]; rfl)))
    · rcases hnamed with htemplate | hattached | hgone | hgone
      · exact Or.inl htemplate
      · exact Or.inr (Or.inl hattached)
      · exact Or.inr (Or.inr (Or.inl (by rwa [hnew, if_neg hname])))
      · exact Or.inr (Or.inr (Or.inr (by rwa [hnew', if_neg hname])))
  change g.Mirrors _ (Function.update devices (deviceOf target) exported)
  refine ⟨fun other => ?_, fun other applied happlied => ?_, fun device hmem subif' entry other hget hattached => ?_⟩
  · rw [MockProvisioner.applyTelemetry, OrderedDict.get?_insert,
      named_apply_iff hdevice (Or.inr (Or.inr (Or.inl (by rw [hnew, if_pos rfl]; rfl)))) hkept
        (fun name => hasNamed_of_updateExport)]
    split_ifs with hother
    · exact iff_of_true rfl (Or.inl hother)
    · rw [h.named, or_iff_right hother]
  · rw [MockProvisioner.applyTelemetry, OrderedDict.get?_insert] at happlied
    split_ifs at happlied with hother
    · cases happlied
      subst hother
      refine ⟨hdevice, rfl, ⟨port, hport, ?_⟩, ?_⟩
      · rw [Function.update_self, hnew, if_pos rfl]
      · rw [Function.update_self, hnew', if_pos rfl]
    · obtain ⟨hknown, hholds⟩ := h.holds other applied happlied
      have hname : templateName other ≠ templateName sessionId := templateName_injective.ne hother
      have htemplates : exported.templates.get? (templateName other) =
        (devices (deviceOf target)).templates.get? (templateName other) := rfl
      exact ⟨hknown, holds_update htemplates ((hnew _).trans (if_neg hname)) ((hnew' _).trans (if_neg hname)) hholds⟩
  · by_cases hat : device = deviceOf target
    · subst hat
      rw [Function.update_self] at hget ⊢
      exact h.attached (deviceOf target) hmem subif' entry other hget hattached
    · rw [Function.update_of_ne hat] at hget ⊢
      exact h.attached device hmem subif' entry other hget hattached

end Apply

theorem attaches_nil (hclean : ∀ sessionId, ¬ g.Named devices sessionId) : g.Attaches [] devices := by
  intro device hmem subif sessionId
  refine iff_of_false ?_ fun h => by cases h
  rintro ⟨entry, hget, hattached⟩
  exact hclean sessionId ⟨device, hmem, Or.inr (Or.inl ⟨subif, entry, hget, hattached⟩)⟩

theorem attachedTo_remove {d : Device} {name other subif : String} :
    (remove d name).AttachedTo subif other ↔ d.AttachedTo subif other ∧ other ≠ name := by
  constructor
  · rintro ⟨entry, hget, hattached⟩
    obtain ⟨hget, hne⟩ := interfaces_of_remove d name hget
    exact ⟨⟨entry, hget, hattached⟩, fun heq => hne (heq ▸ hattached)⟩
  · rintro ⟨⟨entry, hget, hattached⟩, hne⟩
    exact ⟨entry, interfaces_remove_of_ne d name hget fun heq => hne (Option.some.inj (hattached.symm.trans heq)), hattached⟩

theorem attachedTo_policed {d : Device} {path : ResolvedPath} {capacityBps : Nat} {other subif' : String} :
    (policed d sessionId path capacityBps).AttachedTo subif' other ↔
      if subif path = subif' then other = templateName sessionId else d.AttachedTo subif' other := by
  unfold Device.AttachedTo
  rw [interfaces_policed]
  by_cases hsubif : subif' = subif path
  · rw [if_pos hsubif, if_pos hsubif.symm]
    constructor
    · rintro ⟨entry, hentry, hattached⟩
      cases hentry
      exact (Option.some.inj hattached).symm
    · rintro rfl
      exact ⟨_, rfl, rfl⟩
  · rw [if_neg hsubif, if_neg fun heq => hsubif heq.symm]

/-- A call moves the attachments as it moves the holders, whether it is taken or not. -/
theorem Attaches.call {calls : List NetCall} (h : g.Attaches calls devices) (netCall : NetCall) :
    g.Attaches (calls ++ [netCall]) (g.provisioner.call netCall devices).2 := by
  intro device hmem subif' other
  have hbefore := h device hmem subif' other
  rw [holder, List.foldl_append, List.foldl_cons, List.foldl_nil, ← holder]
  cases netCall with
  | teardown sessionId =>
      change ((g.teardown sessionId devices).2 device).AttachedTo _ _ ↔ _
      rw [teardown_devices, if_pos hmem, attachedTo_remove, hbefore, holderAfter, templateName_injective.ne_iff]
      by_cases hends : holder device subif' calls = some sessionId
      · rw [if_pos hends, hends]
        exact iff_of_false (fun h => h.2 (Option.some.inj h.1).symm) fun h => by cases h
      · rw [if_neg hends]
        refine ⟨fun h => h.1, fun hholder => ⟨hholder, ?_⟩⟩
        rintro rfl
        exact hends hholder
  | applyTelemetry sessionId target sensorPaths collectorEndpoint sampleIntervalS =>
      change ((g.applyTelemetry sessionId target collectorEndpoint devices).2 device).AttachedTo _ _ ↔ _
      rw [Device.AttachedTo, (applyTelemetry_frame sessionId target collectorEndpoint devices device).2]
      exact hbefore
  | applyBandwidth sessionId resolved capacityBps qosClass =>
      cases resolved with
      | node node => exact hbefore
      | path path =>
          change ((g.applyBandwidth sessionId (.path path) capacityBps devices).2 device).AttachedTo _ _ ↔ _
          rw [holderAfter]
          by_cases hknown : path.device ∈ g.targets
          · rw [applyBandwidth_eq hknown]
            dsimp only
            by_cases hat : device = path.device
            · subst hat
              rw [Function.update_self, attachedTo_policed]
              by_cases hsubif : subif path = subif'
              · rw [if_pos hsubif, if_pos ⟨rfl, hsubif⟩, templateName_injective.eq_iff, Option.some.injEq, eq_comm]
              · rw [if_neg hsubif, if_neg fun h : path.device = path.device ∧ _ => hsubif h.2]
                exact hbefore
            · rw [Function.update_of_ne hat, if_neg fun h : path.device = device ∧ _ => hat h.1.symm]
              exact hbefore
          · rw [GnmiProvisioner.applyBandwidth, if_neg hknown, if_neg fun h : path.device = device ∧ _ => hknown (h.1 ▸ hmem)]
            exact hbefore

/-! ### Whole runs -/

/-- The real provisioner does well exactly with the calls it takes. -/
theorem provisioner_ok_iff (call : NetCall) (devices : Devices) :
    (g.provisioner.call call devices).1.any ApplyResult.ok = true ↔ g.Takes call := by
  cases call with
  | applyBandwidth sessionId path capacityBps qosClass =>
      change (g.applyBandwidth sessionId path capacityBps devices).1.any ApplyResult.ok = true ↔ _
      cases path with
      | node node => exact iff_of_false Bool.false_ne_true (fun h => by obtain ⟨⟨_, hpath⟩, -⟩ := h; cases hpath)
      | path path =>
          by_cases hdevice : path.device ∈ g.targets
          · rw [applyBandwidth_eq hdevice]
            exact iff_of_true rfl ⟨⟨path, rfl⟩, hdevice⟩
          · rw [applyBandwidth, if_neg hdevice]
            exact iff_of_false Bool.false_ne_true fun h => hdevice h.2
  | applyTelemetry sessionId target sensorPaths collectorEndpoint sampleIntervalS =>
      change (g.applyTelemetry sessionId target collectorEndpoint devices).1.any ApplyResult.ok = true ↔ _
      cases hport : portOf g.unicode (rpartition collectorEndpoint.toList).2 with
      | none =>
          simp only [applyTelemetry, hport]
          exact iff_of_false Bool.false_ne_true fun h => h.1 hport
      | some port =>
          by_cases hdevice : deviceOf target ∈ g.targets
          · rw [applyTelemetry_eq hdevice hport]
            exact iff_of_true rfl ⟨by rw [hport]; exact Option.some_ne_none port, hdevice⟩
          · simp only [applyTelemetry, hport, if_neg hdevice]
            exact iff_of_false Bool.false_ne_true fun h => hdevice h.2
  | teardown sessionId => exact iff_of_true rfl trivial

/-- Every call that the real provisioner takes keeps the record and the routers together. -/
theorem Mirrors.call (h : g.Mirrors m devices) {netCall : NetCall} (htakes : g.Takes netCall) :
    g.Mirrors (MockProvisioner.call netCall m).2 (g.provisioner.call netCall devices).2 := by
  cases netCall with
  | applyBandwidth sessionId path capacityBps qosClass =>
      obtain ⟨⟨resolved, rfl⟩, hdevice⟩ := htakes
      exact h.applyBandwidth hdevice
  | applyTelemetry sessionId target sensorPaths collectorEndpoint sampleIntervalS =>
      obtain ⟨hport, hdevice⟩ := htakes
      obtain ⟨port, hport⟩ := Option.ne_none_iff_exists'.mp hport
      exact h.applyTelemetry hdevice hport
  | teardown sessionId => exact h.teardown sessionId

theorem attaches_run {calls done : List NetCall} (h : g.Attaches done devices) :
    g.Attaches (done ++ calls) (Lockstep.run g.provisioner.call devices calls).2 := by
  induction calls generalizing done devices with
  | nil =>
      rw [List.append_nil]
      exact h
  | cons netCall calls ih =>
      have hrest := ih (h.call netCall)
      rw [List.append_assoc] at hrest
      exact hrest

/-- The mock keeps the contract of the real provisioner: on routers without a node of any session, after every run
of calls that the real one takes, the two have answered alike, and a session is in the record exactly while a node
is named after it, with the values of the record; a subinterface is attached to the template of the session that it
belongs to by the calls so far. The mock alone does well with any other call. -/
theorem mock_keeps_the_contract (g : GnmiProvisioner) (devices : Devices)
    (hclean : ∀ sessionId, ¬ g.Named devices sessionId) :
    (∀ calls : List NetCall, (∀ netCall ∈ calls, g.Takes netCall) →
      List.Forall₂ (fun x y => x.1.any ApplyResult.ok = true ∧ y.1.any ApplyResult.ok = true ∧ g.Mirrors x.2 y.2)
        (Lockstep.trace MockProvisioner.provisioner.call .new calls)
        (Lockstep.trace g.provisioner.call devices calls)) ∧
    (∀ calls, g.Attaches calls (Lockstep.run g.provisioner.call devices calls).2) ∧
    ∀ netCall m devices', (MockProvisioner.provisioner.call netCall m).1.any ApplyResult.ok =
      (g.provisioner.call netCall devices').1.any ApplyResult.ok ↔ g.Takes netCall := by
  refine ⟨fun calls htakes => ?_, fun calls => attaches_run (attaches_nil hclean), fun netCall m devices' => ?_⟩
  · apply Lockstep.trace_simulates (fun _ m devices => g.Mirrors m devices) ?_ (mirrors_new hclean)
    intro netCall hmem n m devices h
    have hnext := h.call (htakes netCall hmem)
    exact ⟨⟨MockProvisioner.call_ok netCall m, (provisioner_ok_iff netCall devices).mpr (htakes netCall hmem), hnext⟩,
      hnext⟩
  · have hmock : (MockProvisioner.provisioner.call netCall m).1.any ApplyResult.ok = true :=
      MockProvisioner.call_ok netCall m
    rw [hmock, eq_comm, provisioner_ok_iff]

theorem not_named_empty (g : GnmiProvisioner) (sessionId : String) : ¬ g.Named (fun _ => .empty) sessionId := by
  rintro ⟨device, -, htemplate | ⟨subif, entry, hget, -⟩ | hdestination | htunnel⟩
  · exact Bool.false_ne_true htemplate
  · cases hget
  · exact Bool.false_ne_true hdestination
  · exact Bool.false_ne_true htunnel

/-- Two sessions on one interface, and the second of them ends. -/
def sharedCalls : List NetCall :=
  [.applyBandwidth "ent1-a0" (.path ⟨"srl1", "ethernet-1/1", "ethernet-1/2"⟩) 50000000 1,
    .applyBandwidth "ent2-a1" (.path ⟨"srl1", "ethernet-1/1", "ethernet-1/2"⟩) 10000000 1, .teardown "ent2-a1"]

/-- The first session is on record and its template on the router, but the interface is not attached to it. -/
theorem mock_keeps_the_contract_lab :
    List.Forall₂ (fun x y => x.1.any ApplyResult.ok = true ∧ y.1.any ApplyResult.ok = true ∧
        labProvisioner.Mirrors x.2 y.2)
      (Lockstep.trace MockProvisioner.provisioner.call .new sharedCalls)
      (Lockstep.trace labProvisioner.provisioner.call (fun _ => .empty) sharedCalls) ∧
    ¬ ((Lockstep.run labProvisioner.provisioner.call (fun _ => .empty) sharedCalls).2 "srl1").AttachedTo "ethernet-1/1.0"
      (templateName "ent1-a0") ∧
    ¬ (MockProvisioner.provisioner.call (.applyBandwidth "s" (.node ⟨"srl1"⟩) 1 1) .new).1.any ApplyResult.ok =
      (labProvisioner.provisioner.call (.applyBandwidth "s" (.node ⟨"srl1"⟩) 1 1) fun _ => .empty).1.any
        ApplyResult.ok := by
  obtain ⟨hruns, hattaches, hother⟩ :=
    mock_keeps_the_contract labProvisioner (fun _ => .empty) (not_named_empty labProvisioner)
  have hknown : "srl1" ∈ labProvisioner.targets := List.mem_singleton_self "srl1"
  refine ⟨hruns sharedCalls ?_, ?_, ?_⟩
  · intro netCall hmem
    simp only [sharedCalls, List.mem_cons, List.not_mem_nil, or_false] at hmem
    rcases hmem with rfl | rfl | rfl
    · exact ⟨⟨_, rfl⟩, hknown⟩
    · exact ⟨⟨_, rfl⟩, hknown⟩
    · trivial
  · rw [hattaches sharedCalls "srl1" hknown]
    decide
  · rw [hother]
    rintro ⟨⟨_, hpath⟩, -⟩
    cases hpath

end GnmiProvisioner

end A2AProvisioning.Network
