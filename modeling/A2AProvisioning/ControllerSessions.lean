import A2AProvisioning.ControllerRuns

/-! The sessions over operations. An entry of the table stays there, under the same entitlement; a session
that is not active does not become active again; and only an activation makes a new one active. A scan
for a revoked entitlement ends all of its sessions, given that the provisioner answers. -/

namespace A2AProvisioning.Controller

variable {N : Type} {cfg : Config} {p : Provisioner N} {c next last : Service N}

def Service.ActiveAt (c : Service N) (sessionId : String) (session : Session) : Prop :=
  c.sessions.get? sessionId = some session ∧ session.state = .active

/-- No session has been added, and every active one was active before. -/
structure Settles (c next : Service N) : Prop where
  seq : c.seq ≤ next.seq
  entries : ∀ sessionId session', next.sessions.get? sessionId = some session' →
    ∃ session, c.sessions.get? sessionId = some session ∧ session'.entitlementId = session.entitlementId
  active : ∀ sessionId session, next.ActiveAt sessionId session → c.ActiveAt sessionId session

/-- The entries of `c` are all in `next`, and the active ones among them have not been touched. -/
def Later (c next : Service N) : Prop :=
  ∀ sessionId session, c.sessions.get? sessionId = some session →
    ∃ session', next.sessions.get? sessionId = some session' ∧
      session'.entitlementId = session.entitlementId ∧ (session'.state = .active → session' = session)

/-- Teardown calls return, whatever they report. -/
def Provisioner.Answers (p : Provisioner N) : Prop :=
  ∀ sessionId n, (p.call (.teardown sessionId) n).1.isSome

theorem mem_activeIds {entitlementId : Int} :
    entitlementId ∈ c.activeIds ↔
      ∃ sessionId session, c.ActiveAt sessionId session ∧ session.entitlementId = entitlementId := by
  simp only [Service.activeIds, List.mem_map, List.mem_filter, decide_eq_true_eq, OrderedDict.mem_values,
    Service.ActiveAt]
  constructor
  · rintro ⟨session, ⟨⟨sessionId, hget⟩, hstate⟩, hid⟩
    exact ⟨sessionId, session, ⟨hget, hstate⟩, hid⟩
  · rintro ⟨sessionId, session, ⟨hget, hstate⟩, hid⟩
    exact ⟨session, ⟨⟨sessionId, hget⟩, hstate⟩, hid⟩

theorem settles_of_sessions (hsessions : next.sessions = c.sessions) (hseq : c.seq ≤ next.seq) :
    Settles c next where
  seq := hseq
  entries := fun _ session' hget => ⟨session', hsessions ▸ hget, rfl⟩
  active := fun _ _ hactive => ⟨hsessions ▸ hactive.1, hactive.2⟩

theorem Settles.refl (c : Service N) : Settles c c := settles_of_sessions rfl le_rfl

theorem Settles.trans (h : Settles c next) (h' : Settles next last) : Settles c last where
  seq := h.seq.trans h'.seq
  entries := fun sessionId session'' hget'' => by
    obtain ⟨session', hget', hid'⟩ := h'.entries sessionId session'' hget''
    obtain ⟨session, hget, hid⟩ := h.entries sessionId session' hget'
    exact ⟨session, hget, hid'.trans hid⟩
  active := fun sessionId session hactive => h.active sessionId session (h'.active sessionId session hactive)

theorem Settles.absent (h : Settles c next) {sessionId : String} (hnone : c.sessions.get? sessionId = none) :
    next.sessions.get? sessionId = none := by
  by_contra hsome
  obtain ⟨session', hget'⟩ := Option.ne_none_iff_exists'.mp hsome
  obtain ⟨session, hget, -⟩ := h.entries sessionId session' hget'
  cases hnone.symm.trans hget

theorem Later.refl (c : Service N) : Later c c := fun _ session hget => ⟨session, hget, rfl, fun _ => rfl⟩

theorem Later.congr (h : Later c next) (hsessions : last.sessions = next.sessions) : Later c last := by
  intro sessionId session hget
  rw [hsessions]
  exact h sessionId session hget

theorem Later.trans (h : Later c next) (h' : Later next last) : Later c last := by
  intro sessionId session hget
  obtain ⟨session', hget', hid, hactive⟩ := h sessionId session hget
  obtain ⟨session'', hget'', hid', hactive'⟩ := h' sessionId session' hget'
  refine ⟨session'', hget'', hid'.trans hid, fun hstate => ?_⟩
  have heq := hactive' hstate
  rw [heq] at hstate ⊢
  exact hactive hstate

/-- A teardown does not lead to the active state. -/
theorem teardown_not_active {state state' : SessionState} (h : transition state .teardown = some state') :
    state' ≠ .active := by
  rintro rfl
  exact absurd (transition_active h).2 (by decide)

variable (p c) in
theorem teardown_settles (sessionId : String) : Settles c (c.teardown p sessionId).2 := by
  rcases teardown_cases p c sessionId with ⟨-, heq⟩ | ⟨session, state, hget, -, htransition, heq⟩
  · rw [heq]
    exact settles_of_sessions rfl le_rfl
  · rw [heq]
    refine ⟨le_rfl, fun sessionId' session' hget' => ?_, fun sessionId' session' hactive => ?_⟩
    · simp only [OrderedDict.get?_insert] at hget'
      split_ifs at hget' with hid
      · cases hget'
        exact ⟨session, hid ▸ hget, rfl⟩
      · exact ⟨session', hget', rfl⟩
    · obtain ⟨hget', hstate⟩ := hactive
      simp only [OrderedDict.get?_insert] at hget'
      split_ifs at hget' with hid
      · cases hget'
        exact absurd hstate (teardown_not_active htransition)
      · exact ⟨hget', hstate⟩

variable (p c) in
theorem teardown_later (sessionId : String) : Later c (c.teardown p sessionId).2 := by
  rcases teardown_cases p c sessionId with ⟨-, heq⟩ | ⟨session, state, hget, -, htransition, heq⟩
  · rw [heq]
    exact Later.refl c
  · rw [heq]
    intro sessionId' session' hget'
    by_cases hid : sessionId' = sessionId
    · subst hid
      cases hget.symm.trans hget'
      refine ⟨{ session with state := state }, ?_, rfl, fun hactive => ?_⟩
      · simp only [OrderedDict.get?_insert, if_pos]
      · exact absurd hactive (teardown_not_active htransition)
    · refine ⟨session', ?_, rfl, fun _ => rfl⟩
      simp only [OrderedDict.get?_insert, if_neg hid]
      exact hget'

/-- A teardown that is answered ends an active session. -/
theorem teardown_ends (hanswers : p.Answers) {sessionId : String} {session : Session}
    (hget : c.sessions.get? sessionId = some session)
    (hstate : session.state = .active ∨ session.state = .tornDown) :
    (c.teardown p sessionId).2.sessions.get? sessionId = some { session with state := .tornDown } := by
  have htransition : transition session.state .teardown = some .tornDown := by
    rw [transition_teardown]
    rcases hstate with hstate | hstate
    · rw [hstate]
    · rw [hstate]
  rcases teardown_cases p c sessionId with ⟨hfails, -⟩ | ⟨session', state, hget', -, htransition', heq⟩
  · rcases hfails session hget with hnone | hnone
    · have hsome := hanswers sessionId c.net.state
      rw [show (p.call (.teardown sessionId) c.net.state).1 = none from hnone] at hsome
      cases hsome
    · cases htransition.symm.trans hnone
  · cases hget.symm.trans hget'
    cases htransition.symm.trans htransition'
    rw [heq]
    simp only [OrderedDict.get?_insert, if_pos]

/-- The session is in the table, and a teardown is defined for it. -/
def Standing (c : Service N) (sessionId : String) : Prop :=
  ∃ session, c.sessions.get? sessionId = some session ∧
    (session.state = .active ∨ session.state = .tornDown)

theorem Standing.teardown (hanswers : p.Answers) {sessionId : String} (h : Standing c sessionId)
    (other : String) : Standing (c.teardown p other).2 sessionId := by
  obtain ⟨session, hget, hstate⟩ := h
  by_cases hid : sessionId = other
  · subst hid
    exact ⟨_, teardown_ends hanswers hget hstate, Or.inr rfl⟩
  · rcases teardown_cases p c other with ⟨-, heq⟩ | ⟨_, _, -, -, -, heq⟩
    · rw [heq]
      exact ⟨session, hget, hstate⟩
    · rw [heq]
      refine ⟨session, ?_, hstate⟩
      simp only [OrderedDict.get?_insert, if_neg hid]
      exact hget

theorem teardownAll_settles (p : Provisioner N) (c : Service N) (sessions : List Session) :
    Settles c (Service.teardownAll p sessions c).2 :=
  @teardownAll_invariant N p c (Settles c)
    (fun c' sessionId h => h.trans (teardown_settles p c' sessionId)) sessions (Settles.refl c)

theorem teardownAll_later (p : Provisioner N) (c : Service N) (sessions : List Session) :
    Later c (Service.teardownAll p sessions c).2 :=
  @teardownAll_invariant N p c (Later c)
    (fun c' sessionId h => h.trans (teardown_later p c' sessionId)) sessions (Later.refl c)

/-- The answer of a teardown of a standing session is not an exception. -/
theorem teardown_eq_ok (hanswers : p.Answers) {sessionId : String} (h : Standing c sessionId) :
    ∃ info, (c.teardown p sessionId).1 = .ok info := by
  obtain ⟨session, hget, hstate⟩ := h
  have hsome := hanswers sessionId c.net.state
  obtain ⟨result, hresult⟩ := Option.isSome_iff_exists.mp hsome
  have hinvoke : c.net.invoke p (.teardown sessionId) =
      (some result, (c.net.invoke p (.teardown sessionId)).2) := Prod.ext hresult rfl
  rw [Service.teardown, hget]
  dsimp only
  rw [hinvoke]
  rcases hstate with hstate | hstate
  · rw [hstate]
    exact ⟨_, rfl⟩
  · rw [hstate]
    exact ⟨_, rfl⟩

/-- A loop of teardowns over standing sessions gets to its end, and none of them is active after it. -/
theorem teardownAll_ends (hanswers : p.Answers) {sessions : List Session}
    (hstanding : ∀ session ∈ sessions, Standing c session.sessionId) :
    ∀ session ∈ sessions, ∀ session', ¬ (Service.teardownAll p sessions c).2.ActiveAt session.sessionId session' := by
  induction sessions generalizing c with
  | nil => exact fun _ hmem => absurd hmem List.not_mem_nil
  | cons first rest ih =>
      obtain ⟨info, hinfo⟩ := teardown_eq_ok hanswers (hstanding first List.mem_cons_self)
      have hrest : (Service.teardownAll p (first :: rest) c).2 =
          (Service.teardownAll p rest (c.teardown p first.sessionId).2).2 := by
        rw [Service.teardownAll]
        have heq : c.teardown p first.sessionId = (.ok info, (c.teardown p first.sessionId).2) :=
          Prod.ext hinfo rfl
        rw [heq]
        dsimp only
        split
        · rename_i hall
          rw [hall]
        · rename_i hall
          rw [hall]
      rw [hrest]
      intro session hmem session' hactive
      rcases List.mem_cons.mp hmem with rfl | hmem
      · obtain ⟨entry, hget, hstate⟩ := hstanding session List.mem_cons_self
        have hended := teardown_ends hanswers hget hstate
        obtain ⟨hget', hactive'⟩ := (teardownAll_settles p _ rest).active _ _ hactive
        cases hended.symm.trans hget'
        cases hactive'
      · exact ih (fun session hmem => (hstanding session (List.mem_cons_of_mem _ hmem)).teardown hanswers _)
          session hmem session' hactive

/-- A scan for an entitlement leaves none of its sessions active. -/
theorem endRevoked_ends (hanswers : p.Answers) (hkeyed : Keyed c) {entitlementId : Int} {sessionId : String}
    {session : Session} (hactive : (c.endRevoked p entitlementId).2.ActiveAt sessionId session) :
    session.entitlementId ≠ entitlementId := by
  intro hid
  obtain ⟨hget, hstate⟩ := (teardownAll_settles p c _).active _ _ hactive
  have hkey := (hkeyed sessionId session hget).1
  refine teardownAll_ends hanswers (fun found hmem => ?_) session ?_ session (hkey.symm ▸ hactive)
  · obtain ⟨hmem, hfound⟩ := List.mem_filter.mp hmem
    obtain ⟨-, hstate'⟩ := of_decide_eq_true hfound
    obtain ⟨key, hget'⟩ := OrderedDict.mem_values.mp hmem
    rw [(hkeyed key found hget').1]
    exact ⟨found, hget', Or.inl hstate'⟩
  · exact List.mem_filter.mpr ⟨OrderedDict.mem_values.mpr ⟨sessionId, hget⟩, decide_eq_true ⟨hid, hstate⟩⟩

/-- The operation is an activation. -/
def Op.isActivate : Op → Bool
  | .request _ (.activate ..) => true
  | _ => false

theorem perform_settles {op : Op} (hop : op.isActivate = false) : Settles c (c.perform cfg p op) :=
  @perform_invariant N cfg p c (Settles c) (Settles c) (fun _ h => h)
    (fun _ _ _ hseq h => h.trans (settles_of_sessions rfl hseq))
    (fun c' sessionId h => h.trans (teardown_settles p c' sessionId)) op
    (fun _ _ _ _ _ heq _ => by rw [heq] at hop; cases hop) (Settles.refl c)

theorem Later.insertSession (hlater : Later c next) {plan : Plan}
    (hfresh : next.sessions.get? plan.sessionId = none) (state : SessionState) :
    Later c (next.insertSession plan state) := by
  intro sessionId session hget
  obtain ⟨session', hget', hid, hactive⟩ := hlater sessionId session hget
  refine ⟨session', ?_, hid, hactive⟩
  have hne : sessionId ≠ plan.sessionId := by
    rintro rfl
    cases hfresh.symm.trans hget'
  simp only [Service.insertSession, OrderedDict.get?_insert, if_neg hne]
  exact hget'

variable (cfg p) in
theorem activate_later (hkeyed : Keyed c) (reader : Reader) (entitlementId : Int)
    (actionKind nonce signature : String) :
    Later c (c.activate cfg p reader entitlementId actionKind nonce signature).2 := by
  obtain ⟨-, heq | ⟨facts, plan, state, -, hgranted, -, -, heq⟩⟩ :=
    activate_sessions cfg p c entitlementId actionKind nonce signature reader
  · exact (Later.refl c).congr heq
  · have hfresh : c.sessions.get? plan.sessionId = none := hgranted.sessionId ▸ hkeyed.fresh entitlementId
    exact ((Later.refl c).insertSession hfresh state).congr heq

theorem perform_later (hkeyed : Keyed c) (op : Op) : Later c (c.perform cfg p op) := by
  have hlater := @perform_invariant N cfg p c (Later c) (fun c' => Keyed c' ∧ Later c c')
    (fun _ h => h.2) (fun _ _ _ hseq h => ⟨h.1.quiet hseq, h.2⟩)
    (fun c' sessionId h => ⟨h.1.teardown sessionId, h.2.trans (teardown_later p c' sessionId)⟩) op
    (fun reader entitlementId actionKind nonce signature _ h =>
      h.2.trans (activate_later cfg p h.1 reader entitlementId actionKind nonce signature))
  exact hlater ⟨hkeyed, Later.refl c⟩

end A2AProvisioning.Controller
