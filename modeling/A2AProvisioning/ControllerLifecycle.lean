import A2AProvisioning.ControllerSessions

/-! The life of a session over whole runs of the service. A session is stored once, active or failed,
under an id that was never used; an active one is torn down at some time, and nothing else happens to it.
A tick ends what has expired, and says what it ended. -/

namespace A2AProvisioning.Controller

variable {N : Type} {cfg : Config} {p : Provisioner N} {c next last : Service N}

/-- Every call returns, whatever it reports. -/
def Provisioner.Returns (p : Provisioner N) : Prop := ∀ call n, (p.call call n).1.isSome

theorem Provisioner.Returns.answers (h : p.Returns) : p.Answers := fun sessionId n => h (.teardown sessionId) n

/-- The view of an entitlement is that of the entitlement asked for. -/
def Reader.Faithful (reader : Reader) : Prop :=
  ∀ entitlementId view, reader.get entitlementId = .ok view → view.id = entitlementId

def Op.reader? : Op → Option Reader
  | .request reader _ => some reader
  | .teardown _ => none
  | .tick reader => some reader
  | .handleRevoked reader _ => some reader

def failureOf {α : Type} : Except Failure α → Option Failure
  | .ok _ => none
  | .error failure => some failure

namespace Service

/-- How an operation fails, if it does. -/
def failure (cfg : Config) (p : Provisioner N) (c : Service N) : Op → Option Failure
  | .request reader (.challenge entitlementId nonce) => failureOf (c.challenge reader entitlementId nonce).1
  | .request reader (.activate entitlementId actionKind nonce signature) =>
      failureOf (c.activate cfg p reader entitlementId actionKind nonce signature).1
  | .request reader (.teardownRequested sessionId nonce signature) =>
      failureOf (c.teardownRequested cfg p reader sessionId nonce signature).1
  | .request _ (.session sessionId) => failureOf (c.session sessionId)
  | .teardown sessionId => failureOf (c.teardown p sessionId).1
  | .tick reader => failureOf (c.tick p reader).1
  | .handleRevoked reader entitlementId => failureOf (c.handleRevoked p reader entitlementId).1

def performAll (cfg : Config) (p : Provisioner N) (c : Service N) (ops : List Op) : Service N :=
  ops.foldl (perform cfg p) c

theorem performAll_snoc (ops : List Op) (op : Op) :
    performAll cfg p c (ops ++ [op]) = (performAll cfg p c ops).perform cfg p op := by
  rw [performAll, List.foldl_append, List.foldl_cons, List.foldl_nil, performAll]

/-- No session is on its way. -/
def Settled (c : Service N) : Prop :=
  ∀ sessionId session, c.sessions.get? sessionId = some session →
    session.state = .active ∨ session.state = .failed ∨ session.state = .tornDown

end Service

/-- The sessions of `c` are all in `next`, each as it was, or torn down if it was active. -/
def Evolves (c next : Service N) : Prop :=
  ∀ sessionId session, c.sessions.get? sessionId = some session →
    ∃ session', next.sessions.get? sessionId = some session' ∧
      (session' = session ∨ session.state = .active ∧ session' = { session with state := .tornDown })

theorem Evolves.refl (c : Service N) : Evolves c c := fun _ session hget => ⟨session, hget, Or.inl rfl⟩

theorem Evolves.trans (h : Evolves c next) (h' : Evolves next last) : Evolves c last := by
  intro sessionId session hget
  obtain ⟨session', hget', hsame | ⟨hactive, htorn⟩⟩ := h sessionId session hget
  · rw [hsame] at hget'
    exact h' sessionId session hget'
  · obtain ⟨session'', hget'', hsame' | ⟨hactive', -⟩⟩ := h' sessionId session' hget'
    · exact ⟨session'', hget'', Or.inr ⟨hactive, hsame'.trans htorn⟩⟩
    · rw [htorn] at hactive'
      cases hactive'

theorem Evolves.congr (h : Evolves c next) (hsessions : last.sessions = next.sessions) : Evolves c last := by
  intro sessionId session hget
  rw [hsessions]
  exact h sessionId session hget

theorem Evolves.insertSession (h : Evolves c next) {plan : Plan}
    (hfresh : next.sessions.get? plan.sessionId = none) (state : SessionState) :
    Evolves c (next.insertSession plan state) := by
  intro sessionId session hget
  obtain ⟨session', hget', hsession⟩ := h sessionId session hget
  refine ⟨session', ?_, hsession⟩
  have hne : sessionId ≠ plan.sessionId := by
    rintro rfl
    cases hfresh.symm.trans hget'
  simp only [Service.insertSession, OrderedDict.get?_insert, if_neg hne]
  exact hget'

variable (p c) in
theorem teardown_evolves (sessionId : String) : Evolves c (c.teardown p sessionId).2 := by
  rcases teardown_cases p c sessionId with ⟨-, heq⟩ | ⟨session, state, hget, -, htransition, heq⟩
  · exact (Evolves.refl c).congr (by rw [heq])
  · intro sessionId' session' hget'
    rw [heq]
    simp only [OrderedDict.get?_insert]
    by_cases hid : sessionId' = sessionId
    · subst hid
      cases hget.symm.trans hget'
      refine ⟨_, if_pos rfl, ?_⟩
      obtain ⟨_, _, current, _, _⟩ := session
      rw [transition_teardown] at htransition
      cases current with
      | active =>
          cases htransition
          exact Or.inr ⟨rfl, rfl⟩
      | tornDown =>
          cases htransition
          exact Or.inl rfl
      | failed =>
          cases htransition
          exact Or.inl rfl
      | requested => cases htransition
      | authorized => cases htransition
    · exact ⟨session', (if_neg hid).trans hget', Or.inl rfl⟩

theorem teardownAll_evolves (p : Provisioner N) (c : Service N) (sessions : List Session) :
    Evolves c (Service.teardownAll p sessions c).2 :=
  @teardownAll_invariant N p c (Evolves c)
    (fun c' sessionId h => h.trans (teardown_evolves p c' sessionId)) sessions (Evolves.refl c)

variable (cfg p) in
theorem perform_evolves (hkeyed : Keyed c) (op : Op) : Evolves c (c.perform cfg p op) := by
  have hevolves := @perform_invariant N cfg p c (Evolves c) (fun c' => Keyed c' ∧ Evolves c c')
    (fun _ h => h.2) (fun _ _ _ hseq h => ⟨h.1.quiet hseq, h.2⟩)
    (fun c' sessionId h => ⟨h.1.teardown sessionId, h.2.trans (teardown_evolves p c' sessionId)⟩) op
    (fun reader entitlementId actionKind nonce signature _ h => ?_)
  · exact hevolves ⟨hkeyed, Evolves.refl c⟩
  · obtain ⟨-, heq | ⟨facts, plan, state, -, hgranted, -, -, heq⟩⟩ :=
      activate_sessions cfg p c entitlementId actionKind nonce signature reader
    · exact (Evolves.refl c).congr heq
    · have hfresh : c.sessions.get? plan.sessionId = none := hgranted.sessionId ▸ hkeyed.fresh entitlementId
      exact ((Evolves.refl c).insertSession hfresh state).congr heq

/-- A session is new in the table only if the operation was an activation that was granted and recorded
it. -/
theorem perform_entry {op : Op} {sessionId : String} {session : Session}
    (hget : (c.perform cfg p op).sessions.get? sessionId = some session) :
    (∃ before, c.sessions.get? sessionId = some before) ∨
      ∃ reader entitlementId actionKind nonce signature facts plan state,
        op = .request reader (.activate entitlementId actionKind nonce signature) ∧
        readFacts reader entitlementId = .ok facts ∧
        Granted cfg c facts entitlementId actionKind nonce signature plan ∧
        (state = .active ∨ state = .failed) ∧ sessionId = plan.sessionId ∧
        session = ⟨plan.sessionId, plan.entitlementId, state, plan.since, plan.expiresAt⟩ := by
  cases hop : op.isActivate with
  | false =>
      obtain ⟨before, hbefore, -⟩ := (@perform_settles N cfg p c op hop).entries sessionId session hget
      exact Or.inl ⟨before, hbefore⟩
  | true =>
      cases op with
      | request reader request =>
          cases request with
          | activate entitlementId actionKind nonce signature =>
              simp only [Service.perform] at hget
              obtain ⟨-, heq | ⟨facts, plan, state, hfacts, hgranted, hstate, -, heq⟩⟩ :=
                activate_sessions cfg p c entitlementId actionKind nonce signature reader
              · rw [heq] at hget
                exact Or.inl ⟨session, hget⟩
              · rw [heq] at hget
                simp only [Service.insertSession, OrderedDict.get?_insert] at hget
                split_ifs at hget with hid
                · cases hget
                  exact Or.inr ⟨reader, entitlementId, actionKind, nonce, signature, facts, plan, state, rfl, hfacts,
                    hgranted, hstate, hid, rfl⟩
                · exact Or.inl ⟨session, hget⟩
          | _ => cases hop
      | _ => cases hop

theorem Service.Settled.teardown (h : c.Settled) (sessionId : String) : (c.teardown p sessionId).2.Settled := by
  intro sessionId' session' hget'
  obtain ⟨session, hget, -⟩ := (teardown_settles p c sessionId).entries sessionId' session' hget'
  obtain ⟨session'', hget'', hsame | ⟨-, htorn⟩⟩ := teardown_evolves p c sessionId sessionId' session hget
  · cases hget'.symm.trans hget''
    rw [hsame]
    exact h sessionId' session hget
  · cases hget'.symm.trans hget''
    rw [htorn]
    exact Or.inr (Or.inr rfl)

theorem teardown_legal (h : c.Settled) (sessionId : String) :
    failureOf (c.teardown p sessionId).1 ≠ some .illegalTransition := by
  rw [Service.teardown]
  split
  · split <;> exact fun heq => by cases heq
  · rename_i session hget
    split
    · exact fun heq => by cases heq
    · split
      · rename_i htransition
        rw [transition_teardown] at htransition
        rcases h sessionId session hget with hstate | hstate | hstate
        · rw [hstate] at htransition
          cases htransition
        · rw [hstate] at htransition
          cases htransition
        · rw [hstate] at htransition
          cases htransition
      · exact fun heq => by cases heq

theorem teardownAll_legal (sessions : List Session) (h : c.Settled) :
    failureOf (Service.teardownAll p sessions c).1 ≠ some .illegalTransition := by
  induction sessions generalizing c with
  | nil => exact fun heq => by cases heq
  | cons session rest ih =>
      have hfirst := @teardown_legal N p c h session.sessionId
      have hsettled := @Service.Settled.teardown N p c h session.sessionId
      rw [Service.teardownAll]
      split
      · rename_i failure next heq
        rw [heq] at hfirst
        exact hfirst
      · rename_i info next heq
        rw [heq] at hsettled
        have hrest := ih hsettled
        split
        · rename_i failure last heq'
          rw [heq'] at hrest
          exact hrest
        · exact fun heq => by cases heq

theorem authorize_legal (facts : Facts) (entitlementId : Int) (actionKind nonce signature : String) :
    failureOf (c.authorize cfg facts entitlementId actionKind nonce signature).1 ≠ some .illegalTransition := by
  simp only [Service.authorize]
  split
  · exact fun heq => by cases heq
  · split
    · exact fun heq => by cases heq
    · split
      · rename_i htransition
        cases htransition
      · split <;> exact fun heq => by cases heq

theorem record_legal {plan : Plan} (hstate : plan.state = .authorized) (applied : Option Bool) :
    failureOf (c.record p plan applied).1 ≠ some .illegalTransition := by
  rcases applied with _ | _ | _
  · exact fun heq => by cases heq
  · simp only [Service.record]
    split
    · exact fun heq => by cases heq
    · rw [hstate]
      exact fun heq => by cases heq
  · simp only [Service.record]
    rw [hstate]
    exact fun heq => by cases heq

theorem read_legal {α : Type} {result : Except ReadError α} {failure : Failure} (h : read result = .error failure) :
    failure ≠ .illegalTransition := by
  cases result with
  | ok value => cases h
  | error err =>
      cases h
      exact fun heq => by cases heq

theorem readView_legal {reader : Reader} {entitlementId : Int} {failure : Failure}
    (h : readView reader entitlementId = .error failure) : failure ≠ .illegalTransition := by
  rw [readView] at h
  split at h
  · cases h
  · cases h
    exact fun heq => by cases heq
  · cases h
    exact fun heq => by cases heq

theorem readFacts_legal {reader : Reader} {entitlementId : Int} {failure : Failure}
    (h : readFacts reader entitlementId = .error failure) : failure ≠ .illegalTransition := by
  simp only [readFacts, bind, Except.bind] at h
  split at h
  · rename_i hview
    cases h
    exact readView_legal hview
  · split at h
    · rename_i howner
      cases h
      exact read_legal howner
    · split at h
      · rename_i hnow
        cases h
        exact read_legal hnow
      · cases h

variable (cfg p) in
/-- No operation asks the state machine for a move that its diagram does not have. -/
theorem failure_legal (h : c.Settled) (op : Op) : c.failure cfg p op ≠ some .illegalTransition := by
  cases op with
  | request reader request =>
      cases request with
      | challenge entitlementId nonce =>
          simp only [Service.failure, Service.challenge]
          split
          · rename_i hview
            exact fun heq => readView_legal hview (Option.some.inj heq)
          · split
            · rename_i hnow
              exact fun heq => read_legal hnow (Option.some.inj heq)
            · exact fun heq => by cases heq
      | activate entitlementId actionKind nonce signature =>
          simp only [Service.failure, Service.activate]
          split
          · rename_i hfacts
            exact fun heq => readFacts_legal hfacts (Option.some.inj heq)
          · rename_i facts _
            have hauthorize := @authorize_legal N cfg c facts entitlementId actionKind nonce signature
            split
            · rename_i heq
              rw [heq] at hauthorize
              exact hauthorize
            · rename_i heq
              exact record_legal (authorize_ok heq).1.state _
      | teardownRequested sessionId nonce signature =>
          simp only [Service.failure, Service.teardownRequested]
          split
          · exact fun heq => by cases heq
          · split
            · rename_i howner
              exact fun heq => read_legal howner (Option.some.inj heq)
            · rename_i hnow
              exact fun heq => read_legal hnow (Option.some.inj heq)
            · split
              · exact fun heq => by cases heq
              · refine teardown_legal ?_ sessionId
                exact h
      | session sessionId =>
          simp only [Service.failure, Service.session]
          split <;> exact fun heq => by cases heq
  | teardown sessionId => exact teardown_legal h sessionId
  | tick reader =>
      simp only [Service.failure, Service.tick]
      split
      · rename_i hnow
        exact fun heq => read_legal hnow (Option.some.inj heq)
      · exact teardownAll_legal _ h
  | handleRevoked reader entitlementId =>
      simp only [Service.failure, Service.handleRevoked]
      split
      · exact fun heq => by cases heq
      · split_ifs
        · have hscan := @teardownAll_legal N p c (c.sessions.values.filter fun session =>
            session.entitlementId = entitlementId ∧ session.state = .active) h
          split
          · rename_i heq
            rw [Service.endRevoked] at heq
            rw [heq] at hscan
            exact hscan
          · exact fun heq => by cases heq
        · exact fun heq => by cases heq

/-- A loop of teardowns over standing sessions says which they were. -/
theorem teardownAll_eq_ok (hanswers : p.Answers) {sessions : List Session}
    (hstanding : ∀ session ∈ sessions, Standing c session.sessionId) :
    (Service.teardownAll p sessions c).1 = .ok (sessions.map Session.sessionId) := by
  induction sessions generalizing c with
  | nil => rfl
  | cons first rest ih =>
      obtain ⟨info, hinfo⟩ := teardown_eq_ok hanswers (hstanding first List.mem_cons_self)
      have hrest := @ih (c.teardown p first.sessionId).2 fun session hmem =>
        (hstanding session (List.mem_cons_of_mem _ hmem)).teardown hanswers _
      rw [Service.teardownAll]
      split
      · rename_i heq
        rw [heq] at hinfo
        cases hinfo
      · rename_i heq
        rw [heq] at hrest
        split
        · rename_i hall
          rw [hall] at hrest
          cases hrest
        · rename_i hall
          rw [hall] at hrest
          cases hrest
          rfl

/-- It leaves every other session alone. -/
theorem teardownAll_others (sessions : List Session) {sessionId : String}
    (hother : sessionId ∉ sessions.map Session.sessionId) :
    (Service.teardownAll p sessions c).2.sessions.get? sessionId = c.sessions.get? sessionId := by
  induction sessions generalizing c with
  | nil => rfl
  | cons first rest ih =>
      rw [List.map_cons, List.mem_cons, not_or] at hother
      have hfirst : (c.teardown p first.sessionId).2.sessions.get? sessionId = c.sessions.get? sessionId := by
        rcases teardown_cases p c first.sessionId with ⟨-, heq⟩ | ⟨_, _, -, -, -, heq⟩
        · rw [heq]
        · rw [heq]
          simp only [OrderedDict.get?_insert, if_neg hother.1]
      have hrest := @ih (c.teardown p first.sessionId).2 hother.2
      rw [Service.teardownAll]
      split
      · rename_i heq
        rw [heq] at hfirst
        exact hfirst
      · rename_i heq
        rw [heq] at hfirst hrest
        split
        · rename_i hall
          rw [hall] at hrest
          exact hrest.trans hfirst
        · rename_i hall
          rw [hall] at hrest
          exact hrest.trans hfirst

/-- The sessions a tick finds to have expired. -/
def Service.expired (c : Service N) (now : Nat) : List Session :=
  c.sessions.values.filter fun session => session.state = .active ∧ now ≥ session.expiresAt

theorem Keyed.mem_expired (h : Keyed c) {now : Nat} {sessionId : String} :
    sessionId ∈ (c.expired now).map Session.sessionId ↔
      ∃ session, c.ActiveAt sessionId session ∧ session.expiresAt ≤ now := by
  simp only [Service.expired, List.mem_map, List.mem_filter, decide_eq_true_eq, OrderedDict.mem_values,
    Service.ActiveAt]
  constructor
  · rintro ⟨session, ⟨⟨key, hget⟩, hstate, hexpired⟩, rfl⟩
    rw [(h key session hget).1]
    exact ⟨session, ⟨hget, hstate⟩, hexpired⟩
  · rintro ⟨session, ⟨hget, hstate⟩, hexpired⟩
    exact ⟨session, ⟨⟨sessionId, hget⟩, hstate, hexpired⟩, (h sessionId session hget).1⟩

theorem Keyed.expired_nodup (h : Keyed c) (now : Nat) : ((c.expired now).map Session.sessionId).Nodup := by
  have hkeys : c.sessions.values.map Session.sessionId = c.sessions.entries.map Prod.fst := by
    rw [OrderedDict.values, List.map_map]
    refine List.map_congr_left fun entry hmem => ?_
    exact (h entry.1 entry.2 (OrderedDict.mem_entries.mp hmem)).1
  have hsublist := (List.filter_sublist (p := fun session : Session => session.state = .active ∧
    now ≥ session.expiresAt) (l := c.sessions.values)).map Session.sessionId
  rw [hkeys] at hsublist
  exact c.sessions.nodup.sublist hsublist

/-- What a tick at a time does: it returns the ids of the sessions that it ends, which are the active ones
past their end, and leaves none of them active. -/
structure TickEnds (c : Service N) (now : Nat) (ended : List String) (next : Service N) : Prop where
  nodup : ended.Nodup
  mem : ∀ sessionId, sessionId ∈ ended ↔ ∃ session, c.ActiveAt sessionId session ∧
    next.sessions.get? sessionId = some { session with state := .tornDown }
  expired : ∀ sessionId ∈ ended, ∃ session, c.ActiveAt sessionId session ∧ session.expiresAt ≤ now
  active : ∀ sessionId session, next.ActiveAt sessionId session → now < session.expiresAt

theorem tick_ends (hanswers : p.Answers) (hkeyed : Keyed c) {reader : Reader} {now : Nat}
    (hnow : reader.chainTime = .ok now) :
    ∃ ended, (c.tick p reader).1 = .ok ended ∧ TickEnds c now ended (c.tick p reader).2 := by
  have htick : c.tick p reader = Service.teardownAll p (c.expired now) c := by
    simp only [Service.tick, hnow, read]
    rfl
  have hstanding : ∀ session ∈ c.expired now, Standing c session.sessionId := by
    intro session hmem
    obtain ⟨session', hactive, -⟩ := hkeyed.mem_expired.mp (List.mem_map_of_mem hmem)
    exact ⟨session', hactive.1, Or.inl hactive.2⟩
  have hended : ∀ sessionId ∈ (c.expired now).map Session.sessionId, ∀ session,
      ¬ (c.tick p reader).2.ActiveAt sessionId session := by
    intro sessionId hmem session
    obtain ⟨found, hfound, rfl⟩ := List.mem_map.mp hmem
    rw [htick]
    exact teardownAll_ends hanswers hstanding found hfound session
  refine ⟨(c.expired now).map Session.sessionId, ?_, hkeyed.expired_nodup now, fun sessionId => ?_, fun sessionId => ?_,
    fun sessionId session hactive => ?_⟩
  · rw [htick, teardownAll_eq_ok hanswers hstanding]
  · constructor
    · intro hmem
      obtain ⟨session, hactive, -⟩ := hkeyed.mem_expired.mp hmem
      have hevolves := teardownAll_evolves p c (c.expired now)
      rw [← htick] at hevolves
      obtain ⟨session', hget', hsame | ⟨-, htorn⟩⟩ := hevolves sessionId session hactive.1
      · exact absurd ⟨hget', hsame ▸ hactive.2⟩ (hended sessionId hmem session')
      · exact ⟨session, hactive, htorn ▸ hget'⟩
    · rintro ⟨session, hactive, htorn⟩
      by_contra hmem
      rw [htick, teardownAll_others _ hmem, hactive.1] at htorn
      have hstate := congrArg Session.state (Option.some.inj htorn)
      rw [hactive.2] at hstate
      cases hstate
  · exact hkeyed.mem_expired.mp
  · by_contra hexpired
    have hsettles := teardownAll_settles p c (c.expired now)
    rw [← htick] at hsettles
    have hbefore := hsettles.active sessionId session hactive
    exact hended sessionId (hkeyed.mem_expired.mpr ⟨session, hbefore, not_lt.mp hexpired⟩) session hactive

/-! ### Runs -/

/-- No entitlement has two active sessions. -/
def SingleActive (c : Service N) : Prop :=
  ∀ sessionId session sessionId' session', c.ActiveAt sessionId session → c.ActiveAt sessionId' session' →
    session.entitlementId = session'.entitlementId → sessionId = sessionId'

variable (cfg p) in
/-- The session became active in the run, by an activation at a chain time within the window of its
entitlement, which was not revoked. -/
def Opened (start : Service N) (ops : List Op) (sessionId : String) (session : Session) : Prop :=
  ∃ before reader actionKind nonce signature after view,
    ops = before ++ .request reader (.activate session.entitlementId actionKind nonce signature) :: after ∧
    reader.get session.entitlementId = .ok view ∧ reader.chainTime = .ok session.since ∧
    view.startTime.toNat ≤ session.since ∧ session.since < view.endTime.toNat ∧ view.revoked = false ∧
    session.expiresAt = view.endTime.toNat ∧
    (start.performAll cfg p before).sessions.get? sessionId = none ∧
    ((start.performAll cfg p before).perform cfg p
      (.request reader (.activate session.entitlementId actionKind nonce signature))).ActiveAt sessionId
        { session with state := .active }

/-- An active session was active before the operation, or the operation activated it. -/
theorem perform_active (hkeyed : Keyed c) {op : Op} {sessionId : String} {session : Session}
    (hactive : (c.perform cfg p op).ActiveAt sessionId session) :
    c.ActiveAt sessionId session ∨
      ∃ reader entitlementId actionKind nonce signature facts plan,
        op = .request reader (.activate entitlementId actionKind nonce signature) ∧
        readFacts reader entitlementId = .ok facts ∧
        Granted cfg c facts entitlementId actionKind nonce signature plan ∧
        sessionId = plan.sessionId ∧ session.entitlementId = entitlementId := by
  obtain ⟨hget, hstate⟩ := hactive
  rcases perform_entry hget with ⟨before, hbefore⟩ |
    ⟨reader, entitlementId, actionKind, nonce, signature, facts, plan, state, hop, hfacts, hgranted, -, hid, rfl⟩
  · obtain ⟨session', hget', hsame | ⟨-, htorn⟩⟩ := perform_evolves cfg p hkeyed op sessionId before hbefore
    · cases hget.symm.trans hget'
      exact Or.inl ⟨hsame ▸ hbefore, hstate⟩
    · cases hget.symm.trans hget'
      rw [htorn] at hstate
      cases hstate
  · exact Or.inr ⟨reader, entitlementId, actionKind, nonce, signature, facts, plan, hop, hfacts, hgranted, hid,
      hgranted.entitlementId⟩

theorem SingleActive.perform (h : SingleActive c) (hkeyed : Keyed c) {op : Op}
    (hfaithful : ∀ reader ∈ op.reader?, reader.Faithful) : SingleActive (c.perform cfg p op) := by
  -- an activation is refused if its entitlement has an active session
  have hnew : ∀ reader entitlementId actionKind nonce signature facts plan,
      op = .request reader (.activate entitlementId actionKind nonce signature) →
      readFacts reader entitlementId = .ok facts →
      Granted cfg c facts entitlementId actionKind nonce signature plan →
      ∀ sessionId session, c.ActiveAt sessionId session → session.entitlementId ≠ entitlementId := by
    rintro reader entitlementId actionKind nonce signature facts plan rfl hfacts hgranted sessionId session hactive
      hsame
    have hview := hfaithful reader rfl entitlementId facts.view (readFacts_eq_ok hfacts).1
    obtain ⟨-, -, -, -, -, -, hconflict⟩ := predicate_eq_none.mp hgranted.allowed
    rw [hview] at hconflict
    exact hconflict (mem_activeIds.mpr ⟨sessionId, session, hactive, hsame⟩)
  intro sessionId session sessionId' session' hactive hactive' hsame
  rcases perform_active hkeyed hactive with hbefore |
    ⟨reader, entitlementId, actionKind, nonce, signature, facts, plan, hop, hfacts, hgranted, hid, hent⟩
  · rcases perform_active hkeyed hactive' with hbefore' |
      ⟨reader, entitlementId, actionKind, nonce, signature, facts, plan, hop, hfacts, hgranted, -, hent⟩
    · exact h sessionId session sessionId' session' hbefore hbefore' hsame
    · exact absurd (hsame.trans hent) (hnew _ _ _ _ _ facts plan hop hfacts hgranted sessionId session hbefore)
  · rcases perform_active hkeyed hactive' with hbefore' |
      ⟨reader', entitlementId', actionKind', nonce', signature', facts', plan', hop', -, hgranted', hid', -⟩
    · exact absurd (hsame.symm.trans hent) (hnew _ _ _ _ _ facts plan hop hfacts hgranted sessionId' session' hbefore')
    · cases hop.symm.trans hop'
      rw [hid, hid', hgranted.sessionId, hgranted'.sessionId]

theorem Service.Settled.perform (h : c.Settled) (hkeyed : Keyed c) (op : Op) : (c.perform cfg p op).Settled := by
  intro sessionId session hget
  rcases perform_entry hget with ⟨before, hbefore⟩ | ⟨_, _, _, _, _, _, _, state, -, -, -, hstate, -, rfl⟩
  · obtain ⟨session', hget', hsame | ⟨-, htorn⟩⟩ := perform_evolves cfg p hkeyed op sessionId before hbefore
    · cases hget.symm.trans hget'
      rw [hsame]
      exact h sessionId before hbefore
    · cases hget.symm.trans hget'
      rw [htorn]
      exact Or.inr (Or.inr rfl)
  · rcases hstate with rfl | rfl
    · exact Or.inl rfl
    · exact Or.inr (Or.inl rfl)

theorem Opened.append {start : Service N} {ops : List Op} {sessionId : String} {session : Session}
    (h : Opened cfg p start ops sessionId session) (op : Op) : Opened cfg p start (ops ++ [op]) sessionId session := by
  obtain ⟨before, reader, actionKind, nonce, signature, after, view, rfl, hopened⟩ := h
  refine ⟨before, reader, actionKind, nonce, signature, after ++ [op], view, ?_, hopened⟩
  rw [List.append_assoc, List.cons_append]

/-- What holds of the table after any run. -/
structure Kept (cfg : Config) (p : Provisioner N) (start : Service N) (ops : List Op) : Prop where
  keyed : Keyed (start.performAll cfg p ops)
  settled : (start.performAll cfg p ops).Settled
  single : SingleActive (start.performAll cfg p ops)
  opened : ∀ sessionId session, (start.performAll cfg p ops).sessions.get? sessionId = some session →
    session.state ≠ .failed → Opened cfg p start ops sessionId session
  entered : ∀ before after, ops = before ++ after →
    Evolves (start.performAll cfg p before) (start.performAll cfg p ops)

theorem Kept.start (controllerId : String) (n : N) : Kept cfg p (Service.start controllerId n) [] where
  keyed := keyed_start controllerId n
  settled := fun _ _ hget => by cases hget
  single := fun _ _ _ _ hactive => by cases hactive.1
  opened := fun _ _ hget => by cases hget
  entered := fun before after happ => by
    obtain ⟨rfl, rfl⟩ := List.append_eq_nil_iff.mp happ.symm
    exact Evolves.refl _

theorem Kept.snoc {start : Service N} {ops : List Op} {op : Op} (h : Kept cfg p start ops)
    (hfaithful : ∀ reader ∈ op.reader?, reader.Faithful) : Kept cfg p start (ops ++ [op]) where
  keyed := by
    rw [Service.performAll_snoc]
    exact h.keyed.perform op
  settled := by
    rw [Service.performAll_snoc]
    exact h.settled.perform h.keyed op
  single := by
    rw [Service.performAll_snoc]
    exact h.single.perform h.keyed hfaithful
  opened := by
    rw [Service.performAll_snoc]
    intro sessionId session hget hstate
    rcases perform_entry hget with ⟨before, hbefore⟩ | ⟨reader, entitlementId, actionKind, nonce, signature, facts, plan,
      state, rfl, hfacts, hgranted, hstate', rfl, rfl⟩
    · obtain ⟨session', hget', hsame | ⟨hactive, htorn⟩⟩ := perform_evolves cfg p h.keyed op sessionId before hbefore
      · cases hget.symm.trans hget'
        rw [← hsame] at hbefore
        exact (h.opened sessionId session hbefore hstate).append op
      · cases hget.symm.trans hget'
        have hopened := (h.opened sessionId before hbefore (by rw [hactive]; exact SessionState.noConfusion)).append op
        rw [htorn]
        exact hopened
    · obtain rfl := hstate'.resolve_right hstate
      obtain ⟨hview, -, hnow⟩ := readFacts_eq_ok hfacts
      obtain ⟨-, hstart, hend, hrevoked, -⟩ := predicate_eq_none.mp hgranted.allowed
      have hent := hgranted.entitlementId
      refine ⟨ops, reader, actionKind, nonce, signature, [], facts.view, ?_, ?_, ?_, ?_, ?_, hrevoked,
        hgranted.expiresAt, ?_, ?_⟩
      · rw [hent]
      · rw [hent]
        exact hview
      · rw [hgranted.since]
        exact hnow
      · rw [hgranted.since]
        exact hstart
      · rw [hgranted.since]
        exact hend
      · rw [hgranted.sessionId]
        exact h.keyed.fresh entitlementId
      · rw [hent] at hget ⊢
        exact ⟨hget, rfl⟩
  entered := fun before after happ => by
    rw [Service.performAll_snoc]
    rcases List.eq_nil_or_concat after with rfl | ⟨rest, last, rfl⟩
    · rw [List.append_nil] at happ
      rw [← happ, Service.performAll_snoc]
      exact Evolves.refl _
    · rw [List.concat_eq_append, ← List.append_assoc] at happ
      obtain ⟨hops, -⟩ := List.append_inj' happ rfl
      exact (h.entered before rest hops).trans (perform_evolves cfg p h.keyed op)

theorem kept (controllerId : String) (n : N) {ops : List Op}
    (hfaithful : ∀ op ∈ ops, ∀ reader ∈ op.reader?, reader.Faithful) :
    Kept cfg p (Service.start controllerId n) ops := by
  induction ops using List.reverseRecOn with
  | nil => exact Kept.start controllerId n
  | append_singleton ops op ih =>
      have hinit := ih fun op hmem => hfaithful op (List.mem_append_left _ hmem)
      exact hinit.snoc (hfaithful op (List.mem_append_right _ (List.mem_singleton_self op)))

/-- The state after a run, and what any operation does from there. -/
structure Lifecycle (cfg : Config) (p : Provisioner N) (start : Service N) (ops : List Op) : Prop where
  settled : (start.performAll cfg p ops).Settled
  single : SingleActive (start.performAll cfg p ops)
  opened : ∀ sessionId session, (start.performAll cfg p ops).sessions.get? sessionId = some session →
    session.state ≠ .failed → Opened cfg p start ops sessionId session
  changes : ∀ op, Evolves (start.performAll cfg p ops) ((start.performAll cfg p ops).perform cfg p op)
  legal : ∀ op, (start.performAll cfg p ops).failure cfg p op ≠ some .illegalTransition
  /-- A record enters the table by an activation, under an id that was in it at no earlier time. -/
  fresh : ∀ op sessionId session,
    ((start.performAll cfg p ops).perform cfg p op).sessions.get? sessionId = some session →
    (start.performAll cfg p ops).sessions.get? sessionId = none →
      op.isActivate = true ∧ (session.state = .active ∨ session.state = .failed) ∧
      ∀ before after, ops = before ++ after → (start.performAll cfg p before).sessions.get? sessionId = none
  ticks : ∀ reader now, reader.chainTime = .ok now →
    ∃ ended, ((start.performAll cfg p ops).tick p reader).1 = .ok ended ∧
      TickEnds (start.performAll cfg p ops) now ended ((start.performAll cfg p ops).tick p reader).2

/-- The life of the sessions, over every run of the service on a provisioner whose calls return. -/
theorem session_lifecycle (cfg : Config) (p : Provisioner N) (hreturns : p.Returns) (controllerId : String) (n : N)
    (ops : List Op) (hfaithful : ∀ op ∈ ops, ∀ reader ∈ op.reader?, reader.Faithful) :
    Lifecycle cfg p (Service.start controllerId n) ops := by
  have hkept := @kept N cfg p controllerId n ops hfaithful
  refine ⟨hkept.settled, hkept.single, hkept.opened, fun op => perform_evolves cfg p hkept.keyed op,
    fun op => failure_legal cfg p hkept.settled op, fun op sessionId session hget hnone => ?_,
    fun reader now hnow => tick_ends hreturns.answers hkept.keyed hnow⟩
  rcases perform_entry hget with ⟨before, hbefore⟩ | ⟨_, _, _, _, _, _, _, state, rfl, -, -, hstate, -, rfl⟩
  · cases hnone.symm.trans hbefore
  · refine ⟨rfl, hstate, fun before after happ => ?_⟩
    by_contra hsome
    obtain ⟨session, hearlier⟩ := Option.ne_none_iff_exists'.mp hsome
    obtain ⟨session', hlater, -⟩ := hkept.entered before after happ sessionId session hearlier
    cases hnone.symm.trans hlater

theorem labReader_faithful (now : Nat) : (labReader now).Faithful := by
  intro entitlementId view hget
  cases hget
  rfl

/-- It does whatever it is asked. -/
def obliging : Provisioner Unit where
  call := fun _ network => (some ⟨true, "done"⟩, network)

/-- A session is recorded at time 10, and the tick at time 100 ends it. -/
theorem session_lifecycle_one :
    Lifecycle labConfig obliging (Service.start "bw-ctrl-1" ())
        (labActivation "0x01" 1 10 ++ [.tick (labReader 100)]) ∧
      ((Service.start "bw-ctrl-1" ()).performAll labConfig obliging (labActivation "0x01" 1 10)).sessions.get?
        "ent1-a0" = some ⟨"ent1-a0", 1, .active, 10, 100⟩ ∧
      (((Service.start "bw-ctrl-1" ()).performAll labConfig obliging (labActivation "0x01" 1 10)).tick obliging
        (labReader 100)).1 = .ok ["ent1-a0"] := by
  refine ⟨session_lifecycle labConfig obliging (fun _ _ => rfl) "bw-ctrl-1" () _ fun op hmem reader hreader => ?_,
    rfl, rfl⟩
  simp only [labActivation, List.cons_append, List.nil_append, List.mem_cons, List.not_mem_nil, or_false] at hmem
  rcases hmem with rfl | rfl | rfl
  · cases hreader
    exact labReader_faithful 10
  · cases hreader
    exact labReader_faithful 10
  · cases hreader
    exact labReader_faithful 100

end A2AProvisioning.Controller
