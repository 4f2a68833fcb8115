import A2AProvisioning.ControllerRuns

/-! Complete mediation. The world may send any requests in any order, with any arguments, over any chain
and against a network that does as it likes; what an outside request brings about, the owner of the
ticket has asked for by signing a nonce that was issued for it and is used once. -/

namespace A2AProvisioning.Controller

/-- An operation with the provisioner as it behaves during it. -/
structure Event (N : Type) where
  provisioner : Provisioner N
  op : Op

variable {N : Type}

def after (cfg : Config) (c : Service N) (events : List (Event N)) : Service N :=
  events.foldl (fun c event => c.perform cfg event.provisioner event.op) c

/-- The nonces the generator returned. -/
def issuedNonces (events : List (Event N)) : List String :=
  events.filterMap fun event =>
    match event.op with
    | .request _ (.challenge _ nonce) => some nonce
    | _ => none

/-- The nonce was issued for the entitlement at that chain time. -/
def IssuedAt (events : List (Event N)) (nonce : String) (entitlementId : Int) (time : Nat) : Prop :=
  ∃ event ∈ events, ∃ reader view, event.op = .request reader (.challenge entitlementId nonce) ∧
    reader.get entitlementId = .ok view ∧ reader.chainTime = .ok time

/-- A session changed, or the provisioner was called. -/
def Effective (c next : Service N) : Prop := next.sessions ≠ c.sessions ∨ next.net.calls ≠ c.net.calls

theorem not_effective {c next : Service N} (hsessions : next.sessions = c.sessions)
    (hcalls : next.net.calls = c.net.calls) : ¬ Effective c next :=
  fun h => h.elim (fun hne => hne hsessions) fun hne => hne hcalls

/-- The nonce a request presents, the entitlement it is about, and the verb. -/
def presented (c : Service N) : Request → Option (String × Int × ProofAction)
  | .activate entitlementId _ nonce _ => some (nonce, entitlementId, .activate)
  | .teardownRequested sessionId nonce _ =>
      (c.sessions.get? sessionId).map fun session => (nonce, session.entitlementId, .teardown)
  | _ => none

/-- The current owner signed the message that names the controller, the verb, the entitlement and a nonce
that was issued for the entitlement at most `nonceTtlS` before. -/
def Mediated (signs : Address → String → Prop) (controllerId : String) (before : List (Event N)) (c : Service N)
    (reader : Reader) (request : Request) : Prop :=
  ∃ nonce entitlementId action owner now issued,
    presented c request = some (nonce, entitlementId, action) ∧ reader.ownerOf entitlementId = .ok owner ∧
      reader.chainTime = .ok now ∧ IssuedAt before nonce entitlementId issued ∧ now ≤ issued + nonceTtlS ∧
      signs owner (proofMessage controllerId nonce entitlementId (issued + nonceTtlS) action)

section Step

variable {cfg : Config} {p : Provisioner N} {c : Service N}

theorem auth_teardown (sessionId : String) : (c.teardown p sessionId).2.auth = c.auth := by
  rcases teardown_cases p c sessionId with ⟨-, heq⟩ | ⟨_, _, -, -, -, heq⟩
  · rw [heq]
  · rw [heq]

variable (cfg p c) in
theorem auth_activate (reader : Reader) (entitlementId : Int) (actionKind nonce signature : String) :
    (c.activate cfg p reader entitlementId actionKind nonce signature).2.auth = c.auth ∨
      (c.activate cfg p reader entitlementId actionKind nonce signature).2.auth = c.auth.burn nonce := by
  rcases activate_cases cfg p c entitlementId actionKind nonce signature reader with
    ⟨seq, auth, -, hauth, heq⟩ | ⟨facts, plan, -, hgranted, heq⟩
  · rw [heq]
    exact hauth
  · rw [heq]
    refine Or.inr ?_
    rcases record_cases p _ hgranted.state (applyCalls p plan.calls c.net).1 with
      ⟨-, heq⟩ | ⟨-, -, heq⟩ | ⟨-, -, heq⟩ | ⟨-, heq⟩ <;> rw [heq] <;> rfl

variable (cfg p c) in
/-- What an operation does to the nonces: a challenge opens one, a proof burns one. -/
theorem auth_perform (op : Op) :
    (c.perform cfg p op).auth = c.auth ∨ (∃ nonce, (c.perform cfg p op).auth = c.auth.burn nonce) ∨
      ∃ reader entitlementId nonce view now, op = .request reader (.challenge entitlementId nonce) ∧
        reader.get entitlementId = .ok view ∧ reader.chainTime = .ok now ∧
        (c.perform cfg p op).auth = (c.auth.issue nonce entitlementId now).2 := by
  have hended : ∀ sessions : List Session, (Service.teardownAll p sessions c).2.auth = c.auth := fun sessions =>
    @teardownAll_invariant N p c (fun c' => c'.auth = c.auth)
      (fun c' sessionId h => (auth_teardown sessionId).trans h) sessions rfl
  cases op with
  | request reader request =>
      cases request with
      | challenge entitlementId nonce =>
          simp only [Service.perform, Service.challenge]
          split
          · exact Or.inl rfl
          · rename_i view hview
            split
            · exact Or.inl rfl
            · rename_i now hnow
              exact Or.inr (Or.inr ⟨reader, entitlementId, nonce, view, now, rfl, readView_eq_ok hview,
                read_eq_ok hnow, rfl⟩)
      | activate entitlementId actionKind nonce signature =>
          rcases auth_activate cfg p c reader entitlementId actionKind nonce signature with hauth | hauth
          · exact Or.inl hauth
          · exact Or.inr (Or.inl ⟨nonce, hauth⟩)
      | teardownRequested sessionId nonce signature =>
          simp only [Service.perform]
          rcases teardownRequested_cases cfg p c reader sessionId nonce signature with
            heq | heq | ⟨_, _, _, _, -, -, -, -, -, -, heq⟩
          · exact Or.inl (congrArg Service.auth heq)
          · exact Or.inr (Or.inl ⟨nonce, congrArg Service.auth heq⟩)
          · exact Or.inr (Or.inl ⟨nonce, (congrArg Service.auth heq).trans (auth_teardown sessionId)⟩)
      | session sessionId => exact Or.inl rfl
  | teardown sessionId => exact Or.inl (auth_teardown sessionId)
  | tick reader =>
      simp only [Service.perform, Service.tick]
      split
      · exact Or.inl rfl
      · exact Or.inl (hended _)
  | handleRevoked reader entitlementId =>
      have hauth := hended (c.sessions.values.filter fun session =>
        session.entitlementId = entitlementId ∧ session.state = .active)
      simp only [Service.perform, Service.handleRevoked, Service.endRevoked]
      split
      · exact Or.inl rfl
      · split_ifs
        · split
          · rename_i failure next heq
            rw [heq] at hauth
            exact Or.inl hauth
          · rename_i ended next heq
            rw [heq] at hauth
            exact Or.inl hauth
        · exact Or.inl rfl

/-- An effective request comes with a proof that passes, and its nonce is spent. -/
theorem effective_request {reader : Reader} {request : Request}
    (heffective : Effective c (c.perform cfg p (.request reader request))) :
    ∃ nonce entitlementId action owner now expiresAt signature,
      presented c request = some (nonce, entitlementId, action) ∧ reader.ownerOf entitlementId = .ok owner ∧
        reader.chainTime = .ok now ∧ c.auth.opened.get? nonce = some (entitlementId, expiresAt) ∧
        now ≤ expiresAt ∧
        cfg.recover (proofMessage c.auth.controllerId nonce entitlementId expiresAt action) signature =
          some owner ∧
        (c.perform cfg p (.request reader request)).auth.opened.get? nonce = none := by
  have hburnt : ∀ nonce, (c.auth.burn nonce).opened.get? nonce = none := fun nonce =>
    (OrderedDict.get?_erase _ _ _).trans (if_pos rfl)
  cases request with
  | challenge entitlementId nonce =>
      simp only [Service.perform, Service.challenge] at heffective
      exfalso
      split at heffective
      · exact not_effective rfl rfl heffective
      · split at heffective
        · exact not_effective rfl rfl heffective
        · exact not_effective rfl rfl heffective
  | activate entitlementId actionKind nonce signature =>
      simp only [Service.perform] at heffective ⊢
      rcases activate_cases cfg p c entitlementId actionKind nonce signature reader with
        ⟨seq, auth, -, -, heq⟩ | ⟨facts, plan, hfacts, hgranted, heq⟩
      · rw [heq] at heffective
        exact (not_effective rfl rfl heffective).elim
      · obtain ⟨-, howner, hnow⟩ := readFacts_eq_ok hfacts
        obtain ⟨expiresAt, hopen, hfresh, hsigned⟩ := hgranted.proof
        refine ⟨nonce, entitlementId, .activate, facts.owner, facts.now, expiresAt, signature, rfl, howner, hnow,
          hopen, hfresh, hsigned, ?_⟩
        have hauth : (c.activate cfg p reader entitlementId actionKind nonce signature).2.auth =
            c.auth.burn nonce := by
          rw [heq]
          rcases record_cases p _ hgranted.state (applyCalls p plan.calls c.net).1 with
            ⟨-, heq⟩ | ⟨-, -, heq⟩ | ⟨-, -, heq⟩ | ⟨-, heq⟩ <;> rw [heq] <;> rfl
        rw [hauth]
        exact hburnt nonce
  | teardownRequested sessionId nonce signature =>
      simp only [Service.perform] at heffective ⊢
      rcases teardownRequested_cases cfg p c reader sessionId nonce signature with
        heq | heq | ⟨session, owner, now, expiresAt, hget, howner, hnow, hopen, hfresh, hsigned, heq⟩
      · rw [heq] at heffective
        exact (not_effective rfl rfl heffective).elim
      · rw [heq] at heffective
        exact (not_effective rfl rfl heffective).elim
      · refine ⟨nonce, session.entitlementId, .teardown, owner, now, expiresAt, signature, ?_, howner, hnow, hopen,
          hfresh, hsigned, ?_⟩
        · rw [presented, hget]
          rfl
        · rw [heq, auth_teardown]
          exact hburnt nonce
  | session sessionId => exact (not_effective rfl rfl heffective).elim

end Step

section Runs

variable {cfg : Config}

theorem after_append (c : Service N) (events events' : List (Event N)) :
    after cfg c (events ++ events') = after cfg (after cfg c events) events' :=
  List.foldl_append

theorem after_snoc (c : Service N) (events : List (Event N)) (event : Event N) :
    after cfg c (events ++ [event]) = (after cfg c events).perform cfg event.provisioner event.op := by
  rw [after_append]
  rfl

theorem issuedNonces_append (events events' : List (Event N)) :
    issuedNonces (events ++ events') = issuedNonces events ++ issuedNonces events' :=
  List.filterMap_append

variable (cfg) in
/-- Every open nonce was issued for its entitlement, and for `nonceTtlS`. -/
theorem opened_after (controllerId : String) (net : N) (events : List (Event N)) :
    (after cfg (Service.start controllerId net) events).auth.controllerId = controllerId ∧
      ∀ nonce entitlementId expiresAt,
        (after cfg (Service.start controllerId net) events).auth.opened.get? nonce =
          some (entitlementId, expiresAt) →
        ∃ issued, expiresAt = issued + nonceTtlS ∧ IssuedAt events nonce entitlementId issued := by
  induction events using List.reverseRecOn with
  | nil => exact ⟨rfl, fun _ _ _ hget => by cases hget⟩
  | append_singleton events event ih =>
      have hgrows : ∀ nonce entitlementId issued, IssuedAt events nonce entitlementId issued →
          IssuedAt (events ++ [event]) nonce entitlementId issued := by
        rintro nonce entitlementId issued ⟨event', hmem, h⟩
        exact ⟨event', List.mem_append_left _ hmem, h⟩
      have hold : ∀ nonce entitlementId expiresAt,
          (after cfg (Service.start controllerId net) events).auth.opened.get? nonce =
            some (entitlementId, expiresAt) →
          ∃ issued, expiresAt = issued + nonceTtlS ∧ IssuedAt (events ++ [event]) nonce entitlementId issued :=
        fun nonce entitlementId expiresAt hget =>
          (ih.2 nonce entitlementId expiresAt hget).imp fun issued h => ⟨h.1, hgrows _ _ _ h.2⟩
      rw [after_snoc]
      rcases auth_perform cfg event.provisioner _ event.op with
        hauth | ⟨burnt, hauth⟩ | ⟨reader, entitlementId, nonce, view, now, hop, hview, hnow, hauth⟩
      · rw [hauth]
        exact ⟨ih.1, hold⟩
      · rw [hauth]
        refine ⟨ih.1, fun nonce entitlementId expiresAt hget => hold nonce entitlementId expiresAt ?_⟩
        simp only [AuthStore.burn, OrderedDict.get?_erase] at hget
        split_ifs at hget
        exact hget
      · rw [hauth]
        refine ⟨ih.1, fun nonce' entitlementId' expiresAt hget => ?_⟩
        simp only [AuthStore.issue, OrderedDict.get?_insert] at hget
        split_ifs at hget with hnonce
        · cases hget
          subst hnonce
          exact ⟨now, rfl, event, List.mem_append_right _ (List.mem_singleton_self event), reader, view, hop,
            hview, hnow⟩
        · exact hold nonce' entitlementId' expiresAt hget

variable (cfg) in
/-- A nonce that is not open, and is not issued again, stays closed. -/
theorem closed_after {c : Service N} {nonce : String} (hclosed : c.auth.opened.get? nonce = none)
    (events : List (Event N)) (hnot : nonce ∉ issuedNonces events) :
    (after cfg c events).auth.opened.get? nonce = none := by
  induction events using List.reverseRecOn with
  | nil => exact hclosed
  | append_singleton events event ih =>
      rw [issuedNonces_append, List.mem_append, not_or] at hnot
      have hbefore := ih hnot.1
      rw [after_snoc]
      rcases auth_perform cfg event.provisioner _ event.op with
        hauth | ⟨burnt, hauth⟩ | ⟨reader, entitlementId, nonce', view, now, hop, -, -, hauth⟩
      · rw [hauth]
        exact hbefore
      · rw [hauth]
        simp only [AuthStore.burn, OrderedDict.get?_erase]
        split_ifs
        · rfl
        · exact hbefore
      · rw [hauth]
        have hne : nonce ≠ nonce' := by
          rintro rfl
          refine hnot.2 (List.mem_filterMap.mpr ⟨event, List.mem_singleton_self event, ?_⟩)
          rw [hop]
        simp only [AuthStore.issue, OrderedDict.get?_insert, if_neg hne]
        exact hbefore

theorem mem_issuedNonces_of_issuedAt {events : List (Event N)} {nonce : String} {entitlementId : Int}
    {issued : Nat} (h : IssuedAt events nonce entitlementId issued) : nonce ∈ issuedNonces events := by
  obtain ⟨event, hmem, reader, view, hop, -, -⟩ := h
  refine List.mem_filterMap.mpr ⟨event, hmem, ?_⟩
  rw [hop]

end Runs

/-- Whatever is asked, in whatever order: an effective request is mediated, and no nonce serves two. -/
theorem complete_mediation (cfg : Config) (signs : Address → String → Prop)
    (hrecover : ∀ message signature a, cfg.recover message signature = some a → signs a message)
    (controllerId : String) (net : N) (events : List (Event N)) (hfresh : (issuedNonces events).Nodup) :
    (∀ before event rest reader request, events = before ++ event :: rest →
        event.op = .request reader request →
        Effective (after cfg (Service.start controllerId net) before)
          (after cfg (Service.start controllerId net) (before ++ [event])) →
        Mediated signs controllerId before (after cfg (Service.start controllerId net) before) reader request) ∧
      ∀ before event between event' rest reader request reader' request' nonce nonce',
        events = before ++ event :: between ++ event' :: rest →
        event.op = .request reader request → event'.op = .request reader' request' →
        Effective (after cfg (Service.start controllerId net) before)
          (after cfg (Service.start controllerId net) (before ++ [event])) →
        Effective (after cfg (Service.start controllerId net) (before ++ event :: between))
          (after cfg (Service.start controllerId net) (before ++ event :: between ++ [event'])) →
        (presented (after cfg (Service.start controllerId net) before) request).map Prod.fst = some nonce →
        (presented (after cfg (Service.start controllerId net) (before ++ event :: between)) request').map
          Prod.fst = some nonce' →
        nonce ≠ nonce' := by
  constructor
  · intro before event rest reader request hevents hop heffective
    rw [after_snoc, hop] at heffective
    obtain ⟨nonce, entitlementId, action, owner, now, expiresAt, signature, hpresented, howner, hnow, hopen,
      hfresh, hsigned, -⟩ := effective_request heffective
    obtain ⟨hcontroller, hopened⟩ := opened_after cfg controllerId net before
    obtain ⟨issued, rfl, hissued⟩ := hopened nonce entitlementId expiresAt hopen
    rw [hcontroller] at hsigned
    exact ⟨nonce, entitlementId, action, owner, now, issued, hpresented, howner, hnow, hissued, hfresh,
      hrecover _ _ _ hsigned⟩
  · intro before event between event' rest reader request reader' request' nonce nonce' hevents hop hop'
      heffective heffective' hpresented hpresented' hsame
    rw [after_snoc, hop] at heffective
    rw [after_snoc, hop'] at heffective'
    obtain ⟨n, entitlementId, action, owner, now, expiresAt, signature, hn, -, -, hopen, -, -, hspent⟩ :=
      effective_request heffective
    obtain ⟨n', entitlementId', action', owner', now', expiresAt', signature', hn', -, -, hopen', -, -, -⟩ :=
      effective_request heffective'
    rw [hn] at hpresented
    cases hpresented
    rw [hn'] at hpresented'
    cases hpresented'
    cases hsame
    obtain ⟨issued, -, hissued⟩ := (opened_after cfg controllerId net before).2 n entitlementId expiresAt hopen
    have hnot : n ∉ issuedNonces between := by
      intro hmem
      rw [hevents, List.append_assoc, issuedNonces_append] at hfresh
      refine (List.nodup_append.mp hfresh).2.2 n (mem_issuedNonces_of_issuedAt hissued) n ?_ rfl
      rw [← List.singleton_append, List.append_assoc, issuedNonces_append, issuedNonces_append]
      exact List.mem_append_right _ (List.mem_append_left _ hmem)
    have hclosed := closed_after cfg hspent between hnot
    have hsplit : before ++ event :: between = before ++ [event] ++ between := by
      rw [List.append_assoc, List.singleton_append]
    rw [hsplit, after_append, after_snoc, hop, hclosed] at hopen'
    cases hopen'

/-- A provisioner that answers every call, and has nothing behind it. -/
def silentProvisioner : Provisioner Unit where
  call := fun _ n => (some ⟨true, ""⟩, n)

def labEvents : List (Event Unit) := (labActivation "0x01" 1 10).map (Event.mk silentProvisioner)

theorem complete_mediation_lab :
    (after labConfig (Service.start "bw-ctrl-1" ()) labEvents).activeIds = [1] ∧
      (issuedNonces labEvents).Nodup ∧
      ∀ before event rest reader request, labEvents = before ++ event :: rest →
        event.op = .request reader request →
        Effective (after labConfig (Service.start "bw-ctrl-1" ()) before)
          (after labConfig (Service.start "bw-ctrl-1" ()) (before ++ [event])) →
        Mediated (fun a _ => a = labOwner) "bw-ctrl-1" before
          (after labConfig (Service.start "bw-ctrl-1" ()) before) reader request := by
  have hrecover : ∀ message signature a, labConfig.recover message signature = some a → a = labOwner := by
    intro message signature a hsome
    simp only [labConfig] at hsome
    split_ifs at hsome
    exact (Option.some.inj hsome).symm
  refine ⟨by rfl, by decide, ?_⟩
  exact (complete_mediation labConfig (fun a _ => a = labOwner) hrecover "bw-ctrl-1" () labEvents
    (by decide)).1

end A2AProvisioning.Controller
