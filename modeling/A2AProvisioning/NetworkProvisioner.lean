import A2AProvisioning.ControllerService
import A2AProvisioning.NetworkDevice

/-! `GnmiProvisioner` while every gNMI operation succeeds: the two apply calls, and the teardown that
finds the configuration of a session by its name on every device the provisioner knows. A second
provisioner lets chosen calls fail and leave the devices as they were. -/

namespace A2AProvisioning.Network

open Controller

def burstBytes : Nat := 125000

def tunnelGrpcServer : String := "telemetry"

/-- What `str.isdigit` and `int` know of a character: whether it counts as a digit, and its decimal
value if it has one. -/
structure Unicode where
  isDigit : Char → Bool
  decimal : Char → Option Nat

/-- The devices by name. Only those of `targets` are ever reached. -/
abbrev Devices := String → Device

structure GnmiProvisioner where
  targets : List String
  nodup : targets.Nodup
  unicode : Unicode
  /-- The text of an exception that an apply call reports. -/
  error : String

def templateName (sessionId : String) : String := "a2a-" ++ sessionId

theorem templateName_injective : Function.Injective templateName := by
  intro sessionId sessionId' h
  have hchars := congrArg String.toList h
  rw [templateName, templateName, String.toList_append, String.toList_append] at hchars
  exact String.toList_inj.mp (List.append_cancel_left hchars)

/-- `str.rpartition(":")` without the separator. -/
def rpartition (s : List Char) : List Char × List Char :=
  match s.reverse.dropWhile fun c => c ≠ ':' with
  | [] => ([], s)
  | _ :: before => (before.reverse, (s.reverse.takeWhile fun c => c ≠ ':').reverse)

/-- `int` refuses a longer string of digits. -/
def intMaxStrDigits : Nat := 4300

/-- `int(port) if port.isdigit() else 57400`; `none` where `int` raises. -/
def portOf (unicode : Unicode) (port : List Char) : Option Nat :=
  if port ≠ [] ∧ port.all unicode.isDigit then
    if port.length ≤ intMaxStrDigits then
      (port.mapM unicode.decimal).map fun digits => digits.foldl (fun n digit => 10 * n + digit) 0
    else none
  else some 57400

def deviceOf : Resolved → String
  | .path path => path.device
  | .node node => node.device

namespace GnmiProvisioner

variable (g : GnmiProvisioner)

def subif (path : ResolvedPath) : String := path.ingressIf ++ ".0"

def rateKbps (capacityBps : Nat) : Nat := max (capacityBps / 1000) 1

def policer (capacityBps : Nat) : Policer :=
  ⟨rateKbps capacityBps, rateKbps capacityBps, burstBytes, burstBytes⟩

/-- A node has no ingress interface, so the call raises on one. -/
def applyBandwidth (sessionId : String) (path : Resolved) (capacityBps : Nat) (devices : Devices) :
    Option ApplyResult × Devices :=
  let name := templateName sessionId
  match path with
  | .node _ => (none, devices)
  | .path path =>
      if path.device ∈ g.targets then
        (some ⟨true, "policer " ++ name ++ " @ " ++ path.device ++ "/" ++ subif path⟩,
          Function.update devices path.device
            (((devices path.device).updateTemplate name (policer capacityBps)).updateInterface (subif path)
              ⟨some (path.ingressIf, 0), some name⟩))
      else (some ⟨false, "gNMI Set failed: " ++ g.error⟩, devices)

def applyTelemetry (sessionId : String) (target : Resolved) (collectorEndpoint : String) (devices : Devices) :
    Option ApplyResult × Devices :=
  let name := templateName sessionId
  let device := deviceOf target
  let endpoint := rpartition collectorEndpoint.toList
  match portOf g.unicode endpoint.2 with
  | none => (none, devices)
  | some port =>
      let address := if endpoint.1 = [] then "0.0.0.0" else String.ofList endpoint.1
      if device ∈ g.targets then
        (some ⟨true, "telemetry export " ++ name ++ " @ " ++ device ++ " → " ++ collectorEndpoint⟩,
          Function.update devices device
            ((devices device).updateExport name ⟨address, port, "mgmt"⟩
              ⟨"enable", name, device, tunnelGrpcServer⟩))
      else (some ⟨false, "gNMI Set failed: " ++ g.error⟩, devices)

/-- The attachments first: a template that is still referenced cannot go. -/
def sessionConfigOn (d : Device) (name : String) : List Path :=
  (d.interfaces.entries.filter fun entry => entry.2.policerTemplate = some name).map
      (fun entry => .qosInterface entry.1) ++
    if (d.templates.get? name).isSome then [.policerTemplate name] else []

/-- The tunnel first: it holds a reference to the destination. -/
def sessionTelemetryOn (d : Device) (name : String) : List Path :=
  (if (d.tunnels.get? name).isSome then [.telemetryTunnel name] else []) ++
    if (d.destinations.get? name).isSome then [.telemetryDestination name] else []

def deletesOn (d : Device) (name : String) : List Path := sessionConfigOn d name ++ sessionTelemetryOn d name

/-- The loop of `teardown`: the devices something was removed from, and what is left. -/
def removeFrom (name : String) : List String → Devices → List String × Devices
  | [], devices => ([], devices)
  | device :: rest, devices =>
      if deletesOn (devices device) name = [] then removeFrom name rest devices
      else
        let removed := removeFrom name rest
          (Function.update devices device ((devices device).deleteAll (deletesOn (devices device) name)))
        (device :: removed.1, removed.2)

def teardown (sessionId : String) (devices : Devices) : Option ApplyResult × Devices :=
  let removed := removeFrom (templateName sessionId) g.targets devices
  (some ⟨true, if removed.1 ≠ [] then "removed: " ++ ", ".intercalate removed.1 else "nothing to remove"⟩,
    removed.2)

/-- The quality of service class, the sensor paths and the sample interval are not written anywhere. -/
def provisioner : Provisioner Devices where
  call
    | .applyBandwidth sessionId path capacityBps _ => g.applyBandwidth sessionId path capacityBps
    | .applyTelemetry sessionId target _ collectorEndpoint _ => g.applyTelemetry sessionId target collectorEndpoint
    | .teardown sessionId => g.teardown sessionId

/-- The calls with a fault report it and leave the devices as they were. -/
def faulty (faults : NetCall → Option String) : Provisioner Devices where
  call call devices :=
    match faults call with
    | none => g.provisioner.call call devices
    | some detail => (some ⟨false, detail⟩, devices)

/-- Configuration of the session is left on a device. -/
def Named (devices : Devices) (sessionId : String) : Prop :=
  ∃ device ∈ g.targets, (devices device).HasNamed (templateName sessionId)

theorem mem_deletesOn {d : Device} {name : String} {path : Path} :
    path ∈ deletesOn d name ↔
      match path with
      | .policerTemplate n => n = name ∧ (d.templates.get? name).isSome
      | .qosInterface subif => ∃ entry, d.interfaces.get? subif = some entry ∧ entry.policerTemplate = some name
      | .telemetryDestination n => n = name ∧ (d.destinations.get? name).isSome
      | .telemetryTunnel n => n = name ∧ (d.tunnels.get? name).isSome := by
  simp only [deletesOn, sessionConfigOn, sessionTelemetryOn, List.mem_append, List.mem_map, List.mem_filter]
  cases path with
  | policerTemplate n => split_ifs <;> simp_all
  | qosInterface subif =>
      constructor
      · intro h
        have hentry : ∃ entry ∈ d.interfaces.entries,
            decide (entry.2.policerTemplate = some name) = true ∧ Path.qosInterface entry.1 = .qosInterface subif := by
          split_ifs at h <;> simp_all
        obtain ⟨⟨key, entry⟩, hmem, hattached, hkey⟩ := hentry
        cases hkey
        exact ⟨entry, OrderedDict.mem_entries.mp hmem, of_decide_eq_true hattached⟩
      · rintro ⟨entry, hget, hattached⟩
        exact Or.inl (Or.inl ⟨(subif, entry), ⟨OrderedDict.mem_entries.mpr hget, decide_eq_true hattached⟩, rfl⟩)
  | telemetryDestination n => split_ifs <;> simp_all
  | telemetryTunnel n => split_ifs <;> simp_all

variable {g} in
/-- A telemetry export touches no policer and no attachment. -/
theorem applyTelemetry_frame (sessionId : String) (target : Resolved) (collectorEndpoint : String) (devices : Devices)
    (device : String) :
    ((g.applyTelemetry sessionId target collectorEndpoint devices).2 device).templates = (devices device).templates ∧
      ((g.applyTelemetry sessionId target collectorEndpoint devices).2 device).interfaces =
        (devices device).interfaces := by
  simp only [applyTelemetry]
  split
  · exact ⟨rfl, rfl⟩
  · by_cases hmem : deviceOf target ∈ g.targets
    · rw [if_pos hmem]
      dsimp only
      by_cases hdevice : device = deviceOf target
      · rw [hdevice, Function.update_self]
        exact ⟨rfl, rfl⟩
      · rw [Function.update_of_ne hdevice]
        exact ⟨rfl, rfl⟩
    · rw [if_neg hmem]
      exact ⟨rfl, rfl⟩

section Removed

variable (d : Device) (name : String)

/-- A device without the configuration named so. -/
def remove : Device := d.deleteAll (deletesOn d name)

theorem templates_remove (key : String) :
    (remove d name).templates.get? key = if key = name then none else d.templates.get? key := by
  rw [remove, Device.templates_deleteAll]
  simp only [mem_deletesOn]
  by_cases hkey : key = name
  · subst hkey
    cases d.templates.get? key <;> simp
  · simp [hkey]

theorem interfaces_remove_of_ne {subif : String} {entry : QosInterface}
    (hget : d.interfaces.get? subif = some entry) (hne : entry.policerTemplate ≠ some name) :
    (remove d name).interfaces.get? subif = some entry := by
  rw [remove, Device.interfaces_deleteAll, if_neg, hget]
  rw [mem_deletesOn]
  rintro ⟨entry', hget', hattached⟩
  cases hget.symm.trans hget'
  exact hne hattached

theorem interfaces_of_remove {subif : String} {entry : QosInterface}
    (hget : (remove d name).interfaces.get? subif = some entry) :
    d.interfaces.get? subif = some entry ∧ entry.policerTemplate ≠ some name := by
  rw [remove, Device.interfaces_deleteAll] at hget
  split_ifs at hget with hmem
  exact ⟨hget, fun hattached => hmem (mem_deletesOn.mpr ⟨entry, hget, hattached⟩)⟩

theorem destinations_remove (key : String) :
    (remove d name).destinations.get? key = if key = name then none else d.destinations.get? key := by
  rw [remove, Device.destinations_deleteAll]
  simp only [mem_deletesOn]
  by_cases hkey : key = name
  · subst hkey
    cases d.destinations.get? key <;> simp
  · simp [hkey]

theorem tunnels_remove (key : String) :
    (remove d name).tunnels.get? key = if key = name then none else d.tunnels.get? key := by
  rw [remove, Device.tunnels_deleteAll]
  simp only [mem_deletesOn]
  by_cases hkey : key = name
  · subst hkey
    cases d.tunnels.get? key <;> simp
  · simp [hkey]

theorem not_hasNamed_remove : ¬ (remove d name).HasNamed name := by
  rintro (htemplate | ⟨subif, entry, hget, hattached⟩ | hdestination | htunnel)
  · rw [templates_remove, if_pos rfl] at htemplate
    cases htemplate
  · exact (interfaces_of_remove d name hget).2 hattached
  · rw [destinations_remove, if_pos rfl] at hdestination
    cases hdestination
  · rw [tunnels_remove, if_pos rfl] at htunnel
    cases htunnel

/-- Removing one name leaves no other one behind that was not there. -/
theorem hasNamed_of_remove {other : String} (h : (remove d name).HasNamed other) : d.HasNamed other := by
  by_cases hother : other = name
  · subst hother
    exact absurd h (not_hasNamed_remove d other)
  · rcases h with htemplate | ⟨subif, entry, hget, hattached⟩ | hdestination | htunnel
    · rw [templates_remove, if_neg hother] at htemplate
      exact Or.inl htemplate
    · exact Or.inr (Or.inl ⟨subif, entry, (interfaces_of_remove d name hget).1, hattached⟩)
    · rw [destinations_remove, if_neg hother] at hdestination
      exact Or.inr (Or.inr (Or.inl hdestination))
    · rw [tunnels_remove, if_neg hother] at htunnel
      exact Or.inr (Or.inr (Or.inr htunnel))

end Removed

/-- `teardown` removes the name from each device it knows, once. -/
theorem removeFrom_devices {name : String} {targets : List String} (hnodup : targets.Nodup)
    (devices : Devices) (device : String) :
    (removeFrom name targets devices).2 device =
      if device ∈ targets then remove (devices device) name else devices device := by
  induction targets generalizing devices with
  | nil => rfl
  | cons first rest ih =>
      obtain ⟨hfirst, hrest⟩ := List.nodup_cons.mp hnodup
      have hstep : ∀ devices' : Devices, devices' first = remove (devices first) name →
          (∀ other, other ≠ first → devices' other = devices other) →
          (removeFrom name rest devices').2 device =
            if device ∈ first :: rest then remove (devices device) name else devices device := by
        intro devices' hat hother
        rw [ih hrest]
        by_cases hdevice : device = first
        · subst hdevice
          rw [if_neg hfirst, if_pos List.mem_cons_self, hat]
        · simp only [List.mem_cons, hdevice, false_or, hother device hdevice]
      by_cases hempty : deletesOn (devices first) name = []
      · rw [removeFrom, if_pos hempty]
        refine hstep devices ?_ (fun _ _ => rfl)
        rw [remove, hempty]
        rfl
      · rw [removeFrom, if_neg hempty]
        exact hstep _ (Function.update_self _ _ _) (fun other hne => Function.update_of_ne hne _ _)

variable {g} {devices : Devices}

theorem teardown_devices (sessionId device : String) :
    (g.teardown sessionId devices).2 device =
      if device ∈ g.targets then remove (devices device) (templateName sessionId) else devices device :=
  removeFrom_devices g.nodup devices device

theorem not_named_teardown (sessionId : String) : ¬ g.Named (g.teardown sessionId devices).2 sessionId := by
  rintro ⟨device, hmem, hnamed⟩
  rw [teardown_devices, if_pos hmem] at hnamed
  exact not_hasNamed_remove _ _ hnamed

theorem named_of_teardown {sessionId other : String} (h : g.Named (g.teardown sessionId devices).2 other) :
    g.Named devices other := by
  obtain ⟨device, hmem, hnamed⟩ := h
  rw [teardown_devices, if_pos hmem] at hnamed
  exact ⟨device, hmem, hasNamed_of_remove _ _ hnamed⟩

theorem hasNamed_of_updateTemplate {d : Device} {name other : String} {policer : Policer} {subif : String}
    {ref : Option (String × Nat)}
    (h : ((d.updateTemplate name policer).updateInterface subif ⟨ref, some name⟩).HasNamed other) :
    other = name ∨ d.HasNamed other := by
  rcases h with htemplate | ⟨subif', entry, hget, hattached⟩ | hdestination | htunnel
  · simp only [Device.updateInterface, Device.updateTemplate, OrderedDict.get?_insert] at htemplate
    split_ifs at htemplate with hother
    · exact Or.inl hother
    · exact Or.inr (Or.inl htemplate)
  · simp only [Device.updateInterface, Device.updateTemplate, OrderedDict.get?_insert] at hget
    split_ifs at hget with hsubif
    · cases hget
      exact Or.inl (Option.some.inj hattached).symm
    · exact Or.inr (Or.inr (Or.inl ⟨subif', entry, hget, hattached⟩))
  · exact Or.inr (Or.inr (Or.inr (Or.inl hdestination)))
  · exact Or.inr (Or.inr (Or.inr (Or.inr htunnel)))

theorem hasNamed_of_updateExport {d : Device} {name other : String} {destination : Destination}
    {tunnel : Tunnel} (h : (d.updateExport name destination tunnel).HasNamed other) :
    other = name ∨ d.HasNamed other := by
  rcases h with htemplate | hinterface | hdestination | htunnel
  · exact Or.inr (Or.inl htemplate)
  · exact Or.inr (Or.inr (Or.inl hinterface))
  · simp only [Device.updateExport, OrderedDict.get?_insert] at hdestination
    split_ifs at hdestination with hother
    · exact Or.inl hother
    · exact Or.inr (Or.inr (Or.inr (Or.inl hdestination)))
  · simp only [Device.updateExport, OrderedDict.get?_insert] at htunnel
    split_ifs at htunnel with hother
    · exact Or.inl hother
    · exact Or.inr (Or.inr (Or.inr (Or.inr htunnel)))

theorem named_of_update {device sessionId other : String} {updated : Device}
    (hupdated : ∀ name, updated.HasNamed name → name = templateName sessionId ∨ (devices device).HasNamed name)
    (h : g.Named (Function.update devices device updated) other) : other = sessionId ∨ g.Named devices other := by
  obtain ⟨device', hmem, hnamed⟩ := h
  by_cases hdevice : device' = device
  · subst hdevice
    rw [Function.update_self] at hnamed
    rcases hupdated _ hnamed with hname | hnamed
    · exact Or.inl (templateName_injective hname)
    · exact Or.inr ⟨device', hmem, hnamed⟩
  · rw [Function.update_of_ne hdevice] at hnamed
    exact Or.inr ⟨device', hmem, hnamed⟩

/-- An apply names nodes after its own session alone, a teardown none. -/
theorem named_of_call (call : NetCall) {other : String} (h : g.Named (g.provisioner.call call devices).2 other) :
    (call.isApply = true ∧ other = call.sessionId) ∨ g.Named devices other := by
  cases call with
  | applyBandwidth sessionId path capacityBps qosClass =>
      change g.Named (g.applyBandwidth sessionId path capacityBps devices).2 other at h
      cases path with
      | node node => exact Or.inr h
      | path path =>
          simp only [applyBandwidth] at h
          split_ifs at h
          · rcases named_of_update (fun _ => hasNamed_of_updateTemplate) h with hother | hnamed
            · exact Or.inl ⟨rfl, hother⟩
            · exact Or.inr hnamed
          · exact Or.inr h
  | applyTelemetry sessionId target sensorPaths collectorEndpoint sampleIntervalS =>
      change g.Named (g.applyTelemetry sessionId target collectorEndpoint devices).2 other at h
      simp only [applyTelemetry] at h
      split at h
      · exact Or.inr h
      · split_ifs at h
        · rcases named_of_update (fun _ => hasNamed_of_updateExport) h with hother | hnamed
          · exact Or.inl ⟨rfl, hother⟩
          · exact Or.inr hnamed
        · rcases named_of_update (fun _ => hasNamed_of_updateExport) h with hother | hnamed
          · exact Or.inl ⟨rfl, hother⟩
          · exact Or.inr hnamed
        · exact Or.inr h
  | teardown sessionId => exact Or.inr (named_of_teardown h)

/-- An apply that does not succeed writes nothing. -/
theorem devices_of_apply_not_ok {call : NetCall} (hcall : call.isApply = true)
    (hnot : ∀ result, (g.provisioner.call call devices).1 = some result → result.ok = false) :
    (g.provisioner.call call devices).2 = devices := by
  cases call with
  | applyBandwidth sessionId path capacityBps qosClass =>
      change (g.applyBandwidth sessionId path capacityBps devices).2 = devices
      change ∀ result, (g.applyBandwidth sessionId path capacityBps devices).1 = some result → _ at hnot
      cases path with
      | node node => rfl
      | path path =>
          simp only [applyBandwidth] at hnot ⊢
          split_ifs at hnot ⊢
          · exact absurd (hnot _ rfl) (by simp)
          · rfl
  | applyTelemetry sessionId target sensorPaths collectorEndpoint sampleIntervalS =>
      change (g.applyTelemetry sessionId target collectorEndpoint devices).2 = devices
      change ∀ result, (g.applyTelemetry sessionId target collectorEndpoint devices).1 = some result → _ at hnot
      simp only [applyTelemetry] at hnot ⊢
      split at hnot
      · rfl
      · by_cases hmem : deviceOf target ∈ g.targets
        · rw [if_pos hmem] at hnot
          exact absurd (hnot _ rfl) (by simp)
        · rw [if_neg hmem]
  | teardown sessionId => cases hcall

variable {faults : NetCall → Option String}

theorem named_of_faulty_call (call : NetCall) {other : String}
    (h : g.Named ((g.faulty faults).call call devices).2 other) :
    (call.isApply = true ∧ other = call.sessionId) ∨ g.Named devices other := by
  simp only [faulty] at h
  split at h
  · exact named_of_call call h
  · exact Or.inr h

theorem devices_of_faulty_apply_not_ok {call : NetCall} (hcall : call.isApply = true)
    (hnot : ∀ result, ((g.faulty faults).call call devices).1 = some result → result.ok = false) :
    ((g.faulty faults).call call devices).2 = devices := by
  simp only [faulty] at hnot ⊢
  split
  · rename_i hnone
    rw [hnone] at hnot
    exact devices_of_apply_not_ok hcall hnot
  · rfl

theorem not_named_faulty_teardown {sessionId : String} (hnone : faults (.teardown sessionId) = none) :
    ¬ g.Named ((g.faulty faults).call (.teardown sessionId) devices).2 sessionId := by
  simp only [faulty, hnone]
  exact not_named_teardown sessionId

/-! ### The same over a network that may fail in any way -/

/-- A gNMI operation that fails is reported; whatever it left done is left. What raises does so before any
of them. -/
def unreliable (faults : NetCall → Devices → Option (String × Devices)) : Provisioner Devices where
  call call devices :=
    match g.provisioner.call call devices, faults call devices with
    | (none, devices), _ => (none, devices)
    | (some result, next), none => (some result, next)
    | (some _, _), some (detail, left) => (some ⟨false, detail⟩, left)

/-- The calls that raise instead of reporting. -/
def Raises : NetCall → Prop
  | .applyBandwidth _ (.node _) _ _ => True
  | .applyTelemetry _ _ _ collectorEndpoint _ => portOf g.unicode (rpartition collectorEndpoint.toList).2 = none
  | _ => False

theorem call_eq_none {call : NetCall} : (g.provisioner.call call devices).1 = none ↔ g.Raises call := by
  cases call with
  | applyBandwidth sessionId path capacityBps qosClass =>
      change (g.applyBandwidth sessionId path capacityBps devices).1 = none ↔ _
      cases path with
      | node node => exact iff_of_true rfl trivial
      | path path =>
          rw [applyBandwidth]
          split <;> exact iff_of_false (Option.some_ne_none _) id
  | applyTelemetry sessionId target sensorPaths collectorEndpoint sampleIntervalS =>
      change (g.applyTelemetry sessionId target collectorEndpoint devices).1 = none ↔ _
      rw [applyTelemetry, Raises]
      cases portOf g.unicode (rpartition collectorEndpoint.toList).2 with
      | none => exact iff_of_true rfl rfl
      | some port =>
          dsimp only
          split <;> exact iff_of_false (Option.some_ne_none _) (Option.some_ne_none _)
  | teardown sessionId => exact iff_of_false (Option.some_ne_none _) id

theorem unreliable_call_eq_none {faults : NetCall → Devices → Option (String × Devices)} {call : NetCall} :
    ((g.unreliable faults).call call devices).1 = none ↔ g.Raises call := by
  rw [← @call_eq_none g devices call, unreliable]
  dsimp only
  rcases g.provisioner.call call devices with ⟨_ | result, next⟩
  · exact Iff.rfl
  · cases faults call devices with
    | none => exact Iff.rfl
    | some fault => exact iff_of_false (Option.some_ne_none _) (Option.some_ne_none _)

/-- Only the fault, or a device the provisioner does not know, keeps a telemetry export from going well. -/
theorem unreliable_applyTelemetry_ok {faults : NetCall → Devices → Option (String × Devices)} {sessionId : String}
    {target : Resolved} {sensorPaths : List String} {collectorEndpoint : String} {sampleIntervalS : Nat}
    (hreturns : ¬ g.Raises (.applyTelemetry sessionId target sensorPaths collectorEndpoint sampleIntervalS)) :
    ((g.unreliable faults).call (.applyTelemetry sessionId target sensorPaths collectorEndpoint sampleIntervalS)
        devices).1.any ApplyResult.ok = true ↔
      deviceOf target ∈ g.targets ∧
        faults (.applyTelemetry sessionId target sensorPaths collectorEndpoint sampleIntervalS) devices = none := by
  obtain ⟨port, hport⟩ := Option.ne_none_iff_exists'.mp hreturns
  rw [unreliable]
  change (match g.applyTelemetry sessionId target collectorEndpoint devices, faults _ devices with
    | (none, devices), _ => ((none, devices) : Option ApplyResult × Devices)
    | (some result, next), none => (some result, next)
    | (some _, _), some (detail, left) => (some ⟨false, detail⟩, left)).1.any ApplyResult.ok = true ↔ _
  simp only [applyTelemetry, hport]
  by_cases hmem : deviceOf target ∈ g.targets
  · simp only [hmem, ↓reduceIte, true_and]
    cases faults _ devices <;> simp
  · simp only [hmem, ↓reduceIte, false_and]
    cases faults _ devices <;> simp

end GnmiProvisioner

/-- A provisioner for one device. -/
def labProvisioner : GnmiProvisioner where
  targets := ["srl1"]
  nodup := List.nodup_singleton "srl1"
  unicode := ⟨Char.isDigit, fun c => if c.isDigit then some (c.toNat - 48) else none⟩
  error := "unreachable"

end A2AProvisioning.Network
