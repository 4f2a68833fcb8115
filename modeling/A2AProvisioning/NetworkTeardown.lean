import A2AProvisioning.NetworkRouter

/-! `GnmiProvisioner.teardown` over routers of which some do not take the calls. The loop returns at the first
device that fails, so a device behind it keeps its configuration. -/

namespace A2AProvisioning.Network

abbrev Routers := String → Router

/-- How the devices take the calls of one operation: what each answers to the Gets, `none` where one of them
fails, and whether it commits a transaction that leaves it so. -/
structure Gnmi where
  repr : Json → String
  get : String → Option (Query → Json)
  commits : String → Router → Bool
  /-- The text of the exception that a device raises. -/
  error : String → String

namespace Gnmi

variable (gnmi : Gnmi)

/-- A Set is one transaction: it leaves the router as written, or it raises. -/
def set (device : String) (next : Router) : Option Router := if gnmi.commits device next then some next else none

/-- What a device answers is a rendering of its configuration. -/
def Faithful (routers : Routers) : Prop :=
  ∀ device answer, gnmi.get device = some answer → (routers device).Answers answer

/-- The body of the loop of `teardown`: the paths deleted on the device, and what that leaves. -/
def teardownDevice (name device : String) (r : Router) : Option (List Path × Router) := do
  let deletes ← deletesRead gnmi.repr name (← gnmi.get device)
  match deletes with
  | [] => return ([], r)
  | path :: rest => return (path :: rest, ← gnmi.set device (r.deleteAll (path :: rest)))

/-- The loop of `teardown`: the devices something was removed from, or the first that failed. -/
def teardownLoop (name : String) : List String → Routers → Except String (List String) × Routers
  | [], routers => (.ok [], routers)
  | device :: rest, routers =>
      match gnmi.teardownDevice name device (routers device) with
      | none => (.error device, routers)
      | some (deletes, r) =>
          let next := teardownLoop name rest (Function.update routers device r)
          (next.1.map fun removed => if deletes = [] then removed else device :: removed, next.2)

/-- A call of the teardown fails on the device. -/
def Fails (name : String) (routers : Routers) (device : String) : Prop :=
  gnmi.teardownDevice name device (routers device) = none

instance (name : String) (routers : Routers) : DecidablePred (gnmi.Fails name routers) := fun _ =>
  decidable_of_iff ((gnmi.teardownDevice name _ (routers _)).isNone = true) Option.isNone_iff_eq_none

/-- What the body of the loop leaves of a device. -/
def torn (name : String) (routers : Routers) (device : String) : Router :=
  (gnmi.teardownDevice name device (routers device)).elim (routers device) Prod.snd

end Gnmi

/-- What `teardown` returns once the loop is left. -/
def Gnmi.report (gnmi : Gnmi) : Except String (List String) → ApplyResult
  | .error device => ⟨false, "gNMI teardown failed on " ++ device ++ ": " ++ gnmi.error device⟩
  | .ok removed => ⟨true, if removed ≠ [] then "removed: " ++ ", ".intercalate removed else "nothing to remove"⟩

def GnmiProvisioner.teardownOver (g : GnmiProvisioner) (gnmi : Gnmi) (sessionId : String) (routers : Routers) :
    ApplyResult × Routers :=
  let torn := gnmi.teardownLoop (templateName sessionId) g.targets routers
  (gnmi.report torn.1, torn.2)

namespace Gnmi

variable {gnmi : Gnmi} {name : String}

theorem set_eq_some {device : String} {next r : Router} (h : gnmi.set device next = some r) : r = next := by
  unfold set at h
  split_ifs at h
  exact (Option.some.inj h).symm

/-- The body of the loop, as the transaction of the device takes it. -/
theorem teardownOn_eq {device : String} {answer : Query → Json} (hget : gnmi.get device = some answer) (r : Router) :
    teardownOn gnmi.repr name answer (fun deletes r => gnmi.set device (r.deleteAll deletes)) r =
      ((gnmi.teardownDevice name device r).isSome, (gnmi.teardownDevice name device r).elim r Prod.snd) := by
  unfold teardownOn teardownDevice
  rw [hget, Option.bind_eq_bind, Option.bind_some]
  cases deletesRead gnmi.repr name answer with
  | none => rfl
  | some deletes =>
      cases deletes with
      | nil => rfl
      | cons path rest =>
          dsimp only
          cases hset : gnmi.set device (r.deleteAll (path :: rest)) <;> simp [hset]

/-- What a device that takes the calls answers, and what is deleted for it. -/
theorem teardownDevice_eq_some {device : String} {r next : Router} {deletes : List Path}
    (h : gnmi.teardownDevice name device r = some (deletes, next)) :
    ∃ answer, gnmi.get device = some answer ∧ deletesRead gnmi.repr name answer = some deletes ∧
      next = r.deleteAll deletes := by
  unfold teardownDevice at h
  obtain ⟨answer, hget, h⟩ := Option.bind_eq_some_iff.mp h
  obtain ⟨found, hread, h⟩ := Option.bind_eq_some_iff.mp h
  cases found with
  | nil =>
      cases h
      exact ⟨answer, hget, hread, rfl⟩
  | cons path rest =>
      obtain ⟨left, hset, h⟩ := Option.bind_eq_some_iff.mp h
      cases h
      exact ⟨answer, hget, hread, set_eq_some hset⟩

/-- A device that takes the calls is cleared of the session. -/
theorem clears_of_teardownDevice {sessionId device : String} {r next : Router} {deletes : List Path}
    (hanswers : ∀ answer, gnmi.get device = some answer → r.Answers answer)
    (h : gnmi.teardownDevice (templateName sessionId) device r = some (deletes, next)) :
    Clears r (templateName sessionId) deletes ∧ next = r.deleteAll deletes := by
  obtain ⟨answer, hget, hread, hnext⟩ := teardownDevice_eq_some h
  obtain ⟨ids, hattached, hlist⟩ := deletesRead_of_answers gnmi.repr (hanswers answer hget) (templateName sessionId)
  cases hread.symm.trans hlist
  exact ⟨clears_deleteList hattached, hnext⟩

/-! ### The loop -/

section Loop

variable (gnmi name)

/-- The devices that are reached: the loop stops at the first that fails. -/
def reached (routers : Routers) (targets : List String) : List String :=
  targets.takeWhile fun device => ¬ gnmi.Fails name routers device

variable {gnmi name} {routers : Routers} {targets : List String}

/-- Where the first device fails the loop leaves everything as it was. -/
theorem teardownLoop_of_fails {device : String} (hfails : gnmi.Fails name routers device) :
    gnmi.teardownLoop name (device :: targets) routers = (.error device, routers) := by
  have hnone : gnmi.teardownDevice name device (routers device) = none := hfails
  rw [teardownLoop, hnone]

/-- Where it does not, the loop goes on with the device torn down. -/
theorem teardownLoop_of_not_fails {device : String} (hnot : ¬ gnmi.Fails name routers device) :
    ∃ deletes, gnmi.teardownDevice name device (routers device) = some (deletes, gnmi.torn name routers device) ∧
      gnmi.teardownLoop name (device :: targets) routers =
        ((gnmi.teardownLoop name targets (Function.update routers device (gnmi.torn name routers device))).1.map
            fun removed => if deletes = [] then removed else device :: removed,
          (gnmi.teardownLoop name targets (Function.update routers device (gnmi.torn name routers device))).2) := by
  obtain ⟨⟨deletes, r⟩, hstep⟩ := Option.ne_none_iff_exists'.mp hnot
  have htorn : gnmi.torn name routers device = r := by
    rw [torn, hstep]
    rfl
  rw [htorn]
  refine ⟨deletes, hstep, ?_⟩
  rw [teardownLoop, hstep]

theorem fails_update_of_ne {device other : String} (hne : other ≠ device) (r : Router) :
    gnmi.Fails name (Function.update routers device r) other ↔ gnmi.Fails name routers other := by
  unfold Fails
  rw [Function.update_of_ne hne]

theorem reached_update_of_not_mem {device : String} (hfresh : device ∉ targets) (r : Router) :
    gnmi.reached name (Function.update routers device r) targets = gnmi.reached name routers targets := by
  unfold reached
  induction targets with
  | nil => rfl
  | cons first rest ih =>
      rw [List.mem_cons, not_or] at hfresh
      simp only [List.takeWhile_cons, fails_update_of_ne (Ne.symm hfresh.1), ih hfresh.2]

/-- The loop succeeds when no device fails. -/
theorem teardownLoop_ok (hnodup : targets.Nodup) (routers : Routers) :
    (∃ removed, (gnmi.teardownLoop name targets routers).1 = .ok removed) ↔
      ∀ device ∈ targets, ¬ gnmi.Fails name routers device := by
  induction targets generalizing routers with
  | nil => exact iff_of_true ⟨[], rfl⟩ fun _ hmem => absurd hmem List.not_mem_nil
  | cons first rest ih =>
      obtain ⟨hfirst, hrest⟩ := List.nodup_cons.mp hnodup
      rw [List.forall_mem_cons]
      by_cases hfails : gnmi.Fails name routers first
      · rw [teardownLoop_of_fails hfails]
        exact iff_of_false (fun ⟨_, h⟩ => nomatch h) fun h => h.1 hfails
      · obtain ⟨deletes, -, hloop⟩ := @teardownLoop_of_not_fails gnmi name routers rest first hfails
        have hothers : ∀ device ∈ rest, gnmi.Fails name (Function.update routers first (gnmi.torn name routers first)) device ↔
            gnmi.Fails name routers device := fun device hmem =>
          fails_update_of_ne (fun heq : device = first => hfirst (heq ▸ hmem)) _
        rw [hloop, and_iff_right hfails]
        refine Iff.trans ?_ ((ih hrest _).trans (forall₂_congr fun device hmem => not_congr (hothers device hmem)))
        cases (gnmi.teardownLoop name rest (Function.update routers first (gnmi.torn name routers first))).1 with
        | error device => exact iff_of_false (fun ⟨_, h⟩ => nomatch h) fun ⟨_, h⟩ => nomatch h
        | ok removed => exact iff_of_true ⟨_, rfl⟩ ⟨_, rfl⟩

/-- A device is torn down when it is reached, and left alone otherwise. -/
theorem teardownLoop_routers (hnodup : targets.Nodup) (routers : Routers) (device : String) :
    (gnmi.teardownLoop name targets routers).2 device =
      if device ∈ gnmi.reached name routers targets then gnmi.torn name routers device else routers device := by
  induction targets generalizing routers with
  | nil => rfl
  | cons first rest ih =>
      obtain ⟨hfirst, hrest⟩ := List.nodup_cons.mp hnodup
      by_cases hfails : gnmi.Fails name routers first
      · have hnone : gnmi.reached name routers (first :: rest) = [] :=
          List.takeWhile_cons_of_neg (by simp [hfails])
        rw [teardownLoop_of_fails hfails, hnone, if_neg List.not_mem_nil]
      · obtain ⟨deletes, -, hloop⟩ := @teardownLoop_of_not_fails gnmi name routers rest first hfails
        have hcons : gnmi.reached name routers (first :: rest) = first :: gnmi.reached name routers rest :=
          List.takeWhile_cons_of_pos (by simp [hfails])
        rw [hloop, hcons]
        show (gnmi.teardownLoop name rest _).2 device = _
        rw [ih hrest, reached_update_of_not_mem hfirst]
        by_cases hdevice : device = first
        · subst hdevice
          have hnot : device ∉ gnmi.reached name routers rest := fun hmem => hfirst (List.takeWhile_subset _ hmem)
          rw [if_neg hnot, if_pos List.mem_cons_self, Function.update_self]
        · have hmem : device ∈ first :: gnmi.reached name routers rest ↔ device ∈ gnmi.reached name routers rest := by
            rw [List.mem_cons, or_iff_right hdevice]
          simp only [hmem, torn, Function.update_of_ne hdevice]

/-- A device is reached when it does not fail and none before it does. -/
theorem mem_reached_iff (hnodup : targets.Nodup) {before after : List String} {device : String}
    (htargets : targets = before ++ device :: after) :
    device ∈ gnmi.reached name routers targets ↔
      ¬ gnmi.Fails name routers device ∧ ∀ earlier ∈ before, ¬ gnmi.Fails name routers earlier := by
  subst htargets
  induction before with
  | nil =>
      by_cases hfails : gnmi.Fails name routers device <;> simp [reached, hfails]
  | cons first rest ih =>
      rw [List.cons_append] at hnodup
      obtain ⟨hfirst, hrest⟩ := List.nodup_cons.mp hnodup
      have hne : device ≠ first := fun heq => hfirst (heq ▸ List.mem_append_right _ List.mem_cons_self)
      have ih := ih hrest
      unfold reached at ih ⊢
      by_cases hfails : gnmi.Fails name routers first
      · simp [hfails]
      · rw [List.cons_append, List.takeWhile_cons_of_pos (by simp [hfails]), List.mem_cons, or_iff_right hne, ih,
          List.forall_mem_cons, and_iff_right hfails]

end Loop

/-- A device that answers and commits whatever is asked does not fail. -/
theorem not_fails {routers : Routers} {device sessionId : String} {answer : Query → Json}
    (hget : gnmi.get device = some answer) (hanswers : (routers device).Answers answer)
    (hcommits : ∀ next, gnmi.commits device next = true) : ¬ gnmi.Fails (templateName sessionId) routers device := by
  obtain ⟨ids, -, hread⟩ := deletesRead_of_answers gnmi.repr hanswers (templateName sessionId)
  unfold Fails teardownDevice
  rw [hget, Option.bind_eq_bind, Option.bind_some, hread, Option.bind_eq_bind, Option.bind_some]
  cases deleteList (routers device) (templateName sessionId) ids with
  | nil => exact Option.some_ne_none _
  | cons path rest =>
      simp only [set, hcommits, ↓reduceIte]
      exact Option.some_ne_none _

/-- A device that does not fail holds nothing of the session when it is torn down. -/
theorem not_hasNamed_torn {sessionId device : String} {routers : Routers} (hfaithful : gnmi.Faithful routers)
    (hnot : ¬ gnmi.Fails (templateName sessionId) routers device) :
    ¬ (gnmi.torn (templateName sessionId) routers device).HasNamed (templateName sessionId) := by
  obtain ⟨⟨deletes, r⟩, hstep⟩ := Option.ne_none_iff_exists'.mp hnot
  obtain ⟨hclears, rfl⟩ := clears_of_teardownDevice (hfaithful device) hstep
  rw [torn, hstep]
  exact hclears.gone

end Gnmi

namespace GnmiProvisioner

variable (g : GnmiProvisioner) (gnmi : Gnmi) (sessionId : String) (routers : Routers)

theorem teardownOver_ok :
    (g.teardownOver gnmi sessionId routers).1.ok = true ↔
      ∀ device ∈ g.targets, ¬ gnmi.Fails (templateName sessionId) routers device := by
  rw [← Gnmi.teardownLoop_ok g.nodup]
  show (gnmi.report (gnmi.teardownLoop (templateName sessionId) g.targets routers).1).ok = true ↔ _
  cases (gnmi.teardownLoop (templateName sessionId) g.targets routers).1 with
  | error device => exact iff_of_false Bool.false_ne_true fun ⟨_, h⟩ => nomatch h
  | ok removed => exact iff_of_true rfl ⟨removed, rfl⟩

theorem teardownOver_routers (device : String) :
    (g.teardownOver gnmi sessionId routers).2 device =
      if device ∈ gnmi.reached (templateName sessionId) routers g.targets then
        gnmi.torn (templateName sessionId) routers device
      else routers device :=
  Gnmi.teardownLoop_routers g.nodup routers device

variable {g gnmi sessionId routers} in
/-- A teardown that succeeds reached every device. -/
theorem teardownOver_of_ok (hok : (g.teardownOver gnmi sessionId routers).1.ok = true) {device : String}
    (hmem : device ∈ g.targets) :
    ¬ gnmi.Fails (templateName sessionId) routers device ∧
      (g.teardownOver gnmi sessionId routers).2 device = gnmi.torn (templateName sessionId) routers device := by
  rw [teardownOver_ok] at hok
  obtain ⟨before, after, htargets⟩ := List.append_of_mem hmem
  have hreached : device ∈ gnmi.reached (templateName sessionId) routers g.targets :=
    (Gnmi.mem_reached_iff g.nodup htargets).mpr ⟨hok device hmem, fun earlier hearlier =>
      hok earlier (htargets ▸ List.mem_append_left _ hearlier)⟩
  rw [teardownOver_routers, if_pos hreached]
  exact ⟨hok device hmem, rfl⟩

/-- No device that takes the calls keeps configuration of the session, and the answer says whether one failed. -/
def Thorough : Prop :=
  (∀ device ∈ g.targets, ¬ gnmi.Fails (templateName sessionId) routers device →
      ¬ ((g.teardownOver gnmi sessionId routers).2 device).HasNamed (templateName sessionId)) ∧
    ((g.teardownOver gnmi sessionId routers).1.ok = true ↔
      ∀ device ∈ g.targets, ¬ gnmi.Fails (templateName sessionId) routers device)

/-- A teardown reaches every device that takes the calls when no device that fails stands before one with
configuration of the session. -/
theorem thorough_iff (hfaithful : gnmi.Faithful routers) :
    g.Thorough gnmi sessionId routers ↔
      ∀ before device after, g.targets = before ++ device :: after →
        ¬ gnmi.Fails (templateName sessionId) routers device →
        (routers device).HasNamed (templateName sessionId) →
        ∀ earlier ∈ before, ¬ gnmi.Fails (templateName sessionId) routers earlier := by
  rw [Thorough, and_iff_left (g.teardownOver_ok gnmi sessionId routers)]
  simp only [teardownOver_routers]
  constructor
  · intro hgone before device after htargets hnot hnamed
    have hgone := hgone device (htargets ▸ List.mem_append_right _ List.mem_cons_self) hnot
    by_cases hreached : device ∈ gnmi.reached (templateName sessionId) routers g.targets
    · exact ((Gnmi.mem_reached_iff g.nodup htargets).mp hreached).2
    · rw [if_neg hreached] at hgone
      exact absurd hnamed hgone
  · intro hbefore device hmem hnot
    obtain ⟨before, after, htargets⟩ := List.append_of_mem hmem
    split_ifs with hreached
    · exact Gnmi.not_hasNamed_torn hfaithful hnot
    · intro hnamed
      refine hreached ((Gnmi.mem_reached_iff g.nodup htargets).mpr ⟨hnot, ?_⟩)
      exact hbefore before device after htargets hnot hnamed

end GnmiProvisioner

attribute [ext] Router OrderedDict

theorem Device.router_delete (d : Device) (path : Path) : (d.delete path).router = d.router.delete path := by
  cases path <;> simp only [Device.router, Device.delete, Router.delete, OrderedDict.mapValues_erase]

theorem Device.router_deleteAll (d : Device) (paths : List Path) :
    (d.deleteAll paths).router = d.router.deleteAll paths := by
  unfold Device.deleteAll Router.deleteAll
  induction paths generalizing d with
  | nil => rfl
  | cons path rest ih => rw [List.foldl_cons, List.foldl_cons, ih, router_delete]

/-- What is deleted counts, not the order. -/
theorem Router.deleteAll_congr (r : Router) {paths paths' : List Path} (h : ∀ path, path ∈ paths ↔ path ∈ paths') :
    r.deleteAll paths = r.deleteAll paths' := by
  have hentries : ∀ (table : Router → OrderedDict String Body) (stepOf : String → Path),
      (∀ r key, table (Router.delete r (stepOf key)) = (table r).erase key) →
      (∀ r path, (∀ key, path ≠ stepOf key) → table (Router.delete r path) = table r) → Function.Injective stepOf →
        (table (r.deleteAll paths)).entries = (table (r.deleteAll paths')).entries := by
    intro table stepOf hhit hmiss hinj
    unfold Router.deleteAll
    rw [OrderedDict.entries_foldl_erase table Router.delete stepOf hhit hmiss hinj,
      OrderedDict.entries_foldl_erase table Router.delete stepOf hhit hmiss hinj]
    simp only [h]
  ext1
  · ext1
    exact hentries Router.interfaces .qosInterface (fun _ _ => rfl)
      (fun _ path hne => by cases path <;> first | rfl | exact absurd rfl (hne _)) fun _ _ h => by cases h; rfl
  · ext1
    exact hentries Router.templates .policerTemplate (fun _ _ => rfl)
      (fun _ path hne => by cases path <;> first | rfl | exact absurd rfl (hne _)) fun _ _ h => by cases h; rfl
  · ext1
    exact hentries Router.tunnels .telemetryTunnel (fun _ _ => rfl)
      (fun _ path hne => by cases path <;> first | rfl | exact absurd rfl (hne _)) fun _ _ h => by cases h; rfl
  · ext1
    exact hentries Router.destinations .telemetryDestination (fun _ _ => rfl)
      (fun _ path hne => by cases path <;> first | rfl | exact absurd rfl (hne _)) fun _ _ h => by cases h; rfl

/-- Where no device fails, this is the teardown of the devices. -/
theorem teardownOver_router (g : GnmiProvisioner) (gnmi : Gnmi) (sessionId : String) (devices : Devices)
    (hfaithful : gnmi.Faithful fun device => (devices device).router)
    (hok : (g.teardownOver gnmi sessionId fun device => (devices device).router).1.ok = true) :
    (g.teardownOver gnmi sessionId fun device => (devices device).router).2 =
      fun device => ((g.teardown sessionId devices).2 device).router := by
  funext device
  rw [GnmiProvisioner.teardown_devices]
  by_cases hmem : device ∈ g.targets
  · obtain ⟨hnot, htorn⟩ := GnmiProvisioner.teardownOver_of_ok hok hmem
    rw [htorn, if_pos hmem]
    obtain ⟨⟨deletes, r⟩, hstep⟩ := Option.ne_none_iff_exists'.mp hnot
    obtain ⟨answer, hget, hread, rfl⟩ := Gnmi.teardownDevice_eq_some hstep
    obtain ⟨deletes', hread', hpaths⟩ := deletesRead_router gnmi.repr (devices device)
      (hfaithful device answer hget) (templateName sessionId)
    cases hread.symm.trans hread'
    rw [Gnmi.torn, hstep, GnmiProvisioner.remove, Device.router_deleteAll]
    exact Router.deleteAll_congr _ hpaths
  · have hnot : device ∉ gnmi.reached (templateName sessionId) (fun device => (devices device).router) g.targets :=
      fun hreached => hmem (List.takeWhile_subset _ hreached)
    rw [GnmiProvisioner.teardownOver_routers, if_neg hnot, if_neg hmem]

namespace GnmiProvisioner

def twoDevices : GnmiProvisioner := ⟨["srl1", "srl2"], by decide, labProvisioner.unicode, "unreachable"⟩

/-- Two devices, one of which does not answer. -/
def unreached (down : String) : Gnmi where
  repr := fun _ => ""
  get := fun device => if device = down then none else some labAnswer
  commits := fun _ _ => true
  error := fun _ => "unreachable"

theorem unreached_faithful (down : String) : (unreached down).Faithful fun _ => labRouter := by
  intro device answer hget
  unfold unreached at hget
  dsimp only at hget
  split_ifs at hget
  cases hget
  exact labRouter_answers

/-- The first device answers and is cleared; the one that does not answer stands behind it. -/
theorem thorough_iff_srl2 :
    labRouter.HasNamed (templateName "ent1-a0") ∧ twoDevices.Thorough (unreached "srl2") "ent1-a0" fun _ => labRouter := by
  refine ⟨Or.inl (by decide), (twoDevices.thorough_iff (unreached "srl2") "ent1-a0" (fun _ => labRouter)
    (unreached_faithful "srl2")).mpr ?_⟩
  intro before device after htargets hnot _ earlier hmem
  rcases before with _ | ⟨first, before⟩
  · cases hmem
  · obtain ⟨rfl, hrest⟩ := List.cons.inj htargets
    have hmem' : device ∈ ["srl2"] := hrest ▸ List.mem_append_right before List.mem_cons_self
    cases List.mem_singleton.mp hmem'
    exact absurd rfl hnot

/-- The session stays on the second device for as long as the first does not answer. -/
theorem srl2_keeps_the_session :
    ¬ ∀ (g : GnmiProvisioner) (gnmi : Gnmi) (sessionId : String) (routers : Routers),
      gnmi.Faithful routers → g.Thorough gnmi sessionId routers := by
  intro h
  have hgone := (h twoDevices (unreached "srl1") "ent1-a0" (fun _ => labRouter) (unreached_faithful "srl1")).1 "srl2"
    (by decide) (Gnmi.not_fails rfl labRouter_answers fun _ => rfl)
  have hnot : "srl2" ∉ (unreached "srl1").reached (templateName "ent1-a0") (fun _ => labRouter) twoDevices.targets := by
    intro hreached
    have htargets : twoDevices.targets = ["srl1"] ++ "srl2" :: [] := rfl
    exact ((Gnmi.mem_reached_iff twoDevices.nodup htargets).mp hreached).2 "srl1" List.mem_cons_self rfl
  rw [teardownOver_routers, if_neg hnot] at hgone
  exact hgone (Or.inl (by decide))

end GnmiProvisioner

end A2AProvisioning.Network
