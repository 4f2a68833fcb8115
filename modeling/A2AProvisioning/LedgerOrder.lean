import A2AProvisioning.LedgerAccounts
import A2AProvisioning.LedgerRuns

/-! Runs that cannot mistake one hold for another. A run owns the hold of its admission until it has signed
or refused, and its offer owns it from then on; the ledger tells the holds of a window apart by their units
and their order alone. Where every run signs or refuses before its hold lapses, and in an order in which the
first match is its own hold, the ledger's holds are the ones that the runs own. -/

namespace A2AProvisioning.Ledger

open Machine

/-- A market with the time at which each of its runs was admitted. -/
structure TimedMarket where
  market : Market
  admitted : List Nat

/-- The hold behind a run: that of its admission, or that of its offer. -/
def GraphRun.hold (run : GraphRun) (admittedAt : Nat) : Option Hold :=
  match run.state.result with
  | none => some ⟨demand run.state.need, some (admittedAt + quoteHoldS)⟩
  | some (.signed signed) => some ⟨demand run.state.need, some signed.offer.validUntil.toNat⟩
  | some (.decline _) => none

/-- The run is still at its price within `quoteHoldS` of its admission, or its offer has not lapsed. -/
def GraphRun.Outstanding (now : Nat) (run : GraphRun) (admittedAt : Nat) : Prop :=
  match run.state.result with
  | none => now < admittedAt + quoteHoldS
  | some (.signed signed) => now < signed.offer.validUntil.toNat
  | some (.decline _) => False

namespace TimedMarket

def start (capacity now : Nat) : TimedMarket := ⟨Market.start capacity now, []⟩

def step (t : TimedMarket) (action : Action) : Option TimedMarket :=
  (t.market.step action).map fun next =>
    ⟨next, match action with
      | .admitNeed _ => t.admitted ++ [t.market.now]
      | _ => t.admitted⟩

def runs (t : TimedMarket) : List (GraphRun × Nat) := t.market.runs.zip t.admitted

/-- The condition on a step, in terms of the runs. A run comes to `hold_until` or to `release` before its
hold lapses; at `hold_until` no run admitted later for the same window and as many units is outstanding, at
`release` none admitted earlier for the same window. -/
def Orderly (t : TimedMarket) : Action → Prop
  | .advance _ => True
  | .admitNeed need => t.market.Careful (.admitNeed need)
  | .signOffer .. => True
  | .holdUntil i =>
      ∀ run admittedAt, t.runs[i]? = some (run, admittedAt) → t.market.now < admittedAt + quoteHoldS ∧
        ∀ later other otherAt, i < later → t.runs[later]? = some (other, otherAt) →
          windowOf other.state.need = windowOf run.state.need → demand other.state.need = demand run.state.need →
          ¬ other.Outstanding t.market.now otherAt
  | .release i _ =>
      ∀ run admittedAt, t.runs[i]? = some (run, admittedAt) → t.market.now < admittedAt + quoteHoldS ∧
        0 < demand run.state.need ∧
        ∀ earlier other otherAt, earlier < i → t.runs[earlier]? = some (other, otherAt) →
          windowOf other.state.need = windowOf run.state.need → ¬ other.Outstanding t.market.now otherAt

end TimedMarket

/-- The hold that a run, with the time of its admission, owns in a window. -/
def ownedHold (window : Window) (run : GraphRun × Nat) : Option Hold :=
  if windowOf run.1.state.need = window then run.1.hold run.2 else none

/-- The holds that the runs own in a window, in the order of their admissions. -/
def owned (window : Window) (runs : List (GraphRun × Nat)) : List Hold := runs.filterMap (ownedHold window)

theorem owned_append (window : Window) (runs runs' : List (GraphRun × Nat)) :
    owned window (runs ++ runs') = owned window runs ++ owned window runs' := List.filterMap_append

theorem owned_cons (window : Window) (run : GraphRun × Nat) (runs : List (GraphRun × Nat)) :
    owned window (run :: runs) = (ownedHold window run).toList ++ owned window runs := by
  cases hrun : ownedHold window run with
  | none => exact List.filterMap_cons_none hrun
  | some hold => exact List.filterMap_cons_some hrun

theorem units_of_hold {run : GraphRun} {admittedAt : Nat} {hold : Hold} (h : run.hold admittedAt = some hold) :
    hold.units = demand run.state.need := by
  rw [GraphRun.hold] at h
  split at h
  · cases h; rfl
  · cases h; rfl
  · cases h

/-- The hold of a run is kept by the sweep as long as the run is outstanding. -/
theorem outstanding_of_keeps {run : GraphRun} {admittedAt now : Nat} {hold : Hold}
    (h : run.hold admittedAt = some hold) (hkeeps : hold.keeps now = true) : run.Outstanding now admittedAt := by
  rw [GraphRun.hold] at h
  rw [GraphRun.Outstanding]
  split at h
  · cases h
    exact of_decide_eq_true hkeeps
  · cases h
    exact of_decide_eq_true hkeeps
  · cases h

theorem mem_sweepHolds_owned {now : Nat} {window : Window} {runs : List (GraphRun × Nat)} {hold : Hold}
    (hmem : hold ∈ sweepHolds (some now) (owned window runs)) :
    ∃ run admittedAt, (run, admittedAt) ∈ runs ∧ windowOf run.state.need = window ∧
      run.hold admittedAt = some hold ∧ run.Outstanding now admittedAt := by
  obtain ⟨hmem, hkeeps⟩ := List.mem_filter.mp hmem
  obtain ⟨⟨run, admittedAt⟩, hrun, hhold⟩ := List.mem_filterMap.mp hmem
  rw [ownedHold] at hhold
  split_ifs at hhold with hwindow
  exact ⟨run, admittedAt, hrun, hwindow, hhold, outstanding_of_keeps hhold hkeeps⟩

/-- What the runs have promised is held by them. -/
theorem promises_le_owned (window : Window) (runs : List (GraphRun × Nat)) :
    (((runs.map Prod.fst).filterMap (GraphRun.promise window) : List _) : Multiset (Lease Nat Nat)) ≤
      leases (owned window runs) := by
  induction runs with
  | nil => exact le_rfl
  | cons run rest ih =>
      obtain ⟨run, admittedAt⟩ := run
      rw [owned_cons, leases_append, List.map_cons]
      cases hpromise : run.promise window with
      | none =>
          rw [List.filterMap_cons_none hpromise]
          exact ih.trans (Multiset.le_add_left _ _)
      | some lease =>
          rw [List.filterMap_cons_some hpromise, ← Multiset.cons_coe, ← Multiset.singleton_add]
          refine add_le_add (le_of_eq ?_) ih
          rw [GraphRun.promise] at hpromise
          split at hpromise
          · rename_i signed hresult
            split_ifs at hpromise with hwindow
            cases hpromise
            simp only [ownedHold, if_pos hwindow, GraphRun.hold, hresult]
            rfl
          · cases hpromise

section Holds

variable {units expiry now : Nat} {own : Hold} {before after : List Hold}

theorem withoutFirst_append (hbefore : ∀ hold ∈ before, hold.units ≠ units) (hown : own.units = units) :
    withoutFirst units (before ++ own :: after) = some (own, before ++ after) := by
  induction before with
  | nil => rw [List.nil_append, withoutFirst, if_pos hown, List.nil_append]
  | cons hold before ih =>
      rw [List.cons_append, withoutFirst, if_neg (hbefore hold List.mem_cons_self),
        ih fun hold' hmem => hbefore hold' (List.mem_cons_of_mem _ hmem)]
      rfl

theorem restampFirst_append (hbefore : ∀ hold ∈ before, hold.units ≠ units) (hown : own.units = units) :
    restampFirst units expiry (before ++ own :: after) = before ++ ⟨units, some expiry⟩ :: after := by
  induction before with
  | nil => rw [List.nil_append, restampFirst, if_pos hown, hown, List.nil_append]
  | cons hold before ih =>
      rw [List.cons_append, restampFirst, if_neg (hbefore hold List.mem_cons_self),
        ih fun hold' hmem => hbefore hold' (List.mem_cons_of_mem _ hmem), List.cons_append]

theorem releaseHolds_zero (holds : List Hold) : releaseHolds holds 0 = holds := by
  cases holds with
  | nil => rfl
  | cons hold holds => exact if_pos rfl

theorem untouchedBy_zero (holds : List Hold) : untouchedBy holds 0 = holds := by
  cases holds with
  | nil => rfl
  | cons hold holds => exact if_pos rfl

theorem releaseHolds_cons (hpos : 0 < units) (hown : own.units = units) :
    releaseHolds (own :: after) units = after := by
  rw [releaseHolds, if_neg hpos.ne', if_neg (not_lt.mpr hown.le), hown, Nat.sub_self, releaseHolds_zero]

theorem untouchedBy_cons (hpos : 0 < units) (hown : own.units = units) :
    untouchedBy (own :: after) units = after := by
  rw [untouchedBy, if_neg hpos.ne', if_neg (not_lt.mpr hown.le), hown, Nat.sub_self, untouchedBy_zero]

theorem sweepHolds_append (holds holds' : List Hold) :
    sweepHolds (some now) (holds ++ holds') = sweepHolds (some now) holds ++ sweepHolds (some now) holds' :=
  List.filter_append ..

/-- A later sweep leaves what it would have left without the earlier one. -/
theorem sweepHolds_sweepHolds {later : Nat} (hle : now ≤ later) (holds : List Hold) :
    sweepHolds (some later) (sweepHolds (some now) holds) = sweepHolds (some later) holds := by
  rw [sweepHolds, sweepHolds, sweepHolds, List.filter_filter]
  refine List.filter_congr fun hold _ => ?_
  rw [Bool.eq_iff_iff, Bool.and_eq_true, keeps_iff, keeps_iff]
  exact ⟨And.left, fun hlater => ⟨hlater, (WithTop.coe_le_coe.mpr hle).trans_lt hlater⟩⟩

end Holds

theorem zip_set {α β : Type} {as : List α} {bs : List β} {i : Nat} {b : β} (hb : bs[i]? = some b) (a : α) :
    (as.set i a).zip bs = (as.zip bs).set i (a, b) := by
  induction as generalizing bs i with
  | nil => rfl
  | cons a' as ih =>
      cases bs with
      | nil => cases hb
      | cons b' bs =>
          cases i with
          | zero =>
              cases hb
              rfl
          | succ i => exact congrArg ((a', b') :: ·) (ih hb)

namespace TimedMarket

variable {t : TimedMarket} {capacity : Nat}

/-- The unexpired holds of every window are those of the outstanding runs, in the order of admission. -/
structure Tracked (t : TimedMarket) : Prop where
  length : t.admitted.length = t.market.runs.length
  holds : ∀ window, sweepHolds (some t.market.now) (t.market.ledger.holds window) =
    sweepHolds (some t.market.now) (owned window t.runs)

theorem tracked_start (capacity now : Nat) : Tracked (start capacity now) where
  length := rfl
  holds := fun _ => rfl

/-- A run with the runs before and after it. -/
theorem Tracked.split (h : Tracked t) {i : Nat} {run : GraphRun} (hrun : t.market.runs[i]? = some run) :
    ∃ admittedAt, t.runs[i]? = some (run, admittedAt) ∧
      t.runs = t.runs.take i ++ (run, admittedAt) :: t.runs.drop (i + 1) ∧
      ∀ next, (t.market.runs.set i next).zip t.admitted =
        t.runs.take i ++ (next, admittedAt) :: t.runs.drop (i + 1) := by
  obtain ⟨hlt, rfl⟩ := List.getElem?_eq_some_iff.mp hrun
  obtain ⟨admittedAt, hadmitted⟩ : ∃ admittedAt, t.admitted[i]? = some admittedAt :=
    ⟨_, List.getElem?_eq_getElem (h.length ▸ hlt)⟩
  have hget : t.runs[i]? = some (t.market.runs[i], admittedAt) := List.getElem?_zip_eq_some.mpr ⟨hrun, hadmitted⟩
  obtain ⟨hlt', -⟩ := List.getElem?_eq_some_iff.mp hget
  have hset : ∀ next, (t.market.runs.set i next).zip t.admitted =
      t.runs.take i ++ (next, admittedAt) :: t.runs.drop (i + 1) := by
    intro next
    rw [zip_set hadmitted]
    exact List.set_eq_take_append_cons_drop.trans (if_pos hlt')
  refine ⟨admittedAt, hget, ?_, hset⟩
  rw [← hset, List.set_getElem_self]
  rfl

/-- Around the hold of a run that is still at its price, the ledger keeps the holds of the others. -/
theorem Tracked.around (h : Tracked t) {i : Nat} {run : GraphRun} {admittedAt : Nat}
    (hsplit : t.runs = t.runs.take i ++ (run, admittedAt) :: t.runs.drop (i + 1))
    (hresult : run.state.result = none) (hintime : t.market.now < admittedAt + quoteHoldS) :
    sweepHolds (some t.market.now) (t.market.ledger.holds (windowOf run.state.need)) =
      sweepHolds (some t.market.now) (owned (windowOf run.state.need) (t.runs.take i)) ++
        ⟨demand run.state.need, some (admittedAt + quoteHoldS)⟩ ::
          sweepHolds (some t.market.now) (owned (windowOf run.state.need) (t.runs.drop (i + 1))) := by
  have hown : ownedHold (windowOf run.state.need) (run, admittedAt) =
      some ⟨demand run.state.need, some (admittedAt + quoteHoldS)⟩ := by
    simp only [ownedHold, if_true, GraphRun.hold, hresult]
  have hkeeps : Hold.keeps t.market.now ⟨demand run.state.need, some (admittedAt + quoteHoldS)⟩ = true :=
    decide_eq_true hintime
  rw [h.holds]
  nth_rewrite 1 [hsplit]
  rw [owned_append, owned_cons, hown, Option.toList_some, List.singleton_append, sweepHolds_append]
  exact congrArg _ (List.filter_cons_of_pos hkeeps)

/-- A run that is still at its price has promised nothing, and the promises are behind the others. -/
theorem Tracked.promises_le (h : Tracked t) {i : Nat} {run : GraphRun} {admittedAt : Nat}
    (hsplit : t.runs = t.runs.take i ++ (run, admittedAt) :: t.runs.drop (i + 1))
    (hresult : run.state.result = none) (window : Window) :
    t.market.promises window ≤
      leases (owned window (t.runs.take i)) + leases (owned window (t.runs.drop (i + 1))) := by
  have hruns : t.market.runs = t.runs.map Prod.fst := (List.map_fst_zip h.length.ge).symm
  rw [Market.promises, hruns]
  nth_rewrite 1 [hsplit]
  rw [List.map_append, List.map_cons, List.filterMap_append,
    List.filterMap_cons_none (Market.promise_of_result_none hresult window), ← Multiset.coe_add]
  exact add_le_add (promises_le_owned window _) (promises_le_owned window _)

/-- Without the hold of such a run the ledger still has one for each promise. -/
theorem Tracked.spared (h : Tracked t) {i : Nat} {run : GraphRun} {admittedAt : Nat}
    (hsplit : t.runs = t.runs.take i ++ (run, admittedAt) :: t.runs.drop (i + 1))
    (hresult : run.state.result = none) {window : Window} {holds : List Hold}
    (hholds : leases holds = leases (sweepHolds (some t.market.now) (owned window (t.runs.take i))) +
      leases (sweepHolds (some t.market.now) (owned window (t.runs.drop (i + 1))))) :
    t.market.Spared window holds := by
  rw [Market.Spared, hholds, leases_sweepHolds, leases_sweepHolds, ← Lease.live_add, Lease.live_live le_rfl]
  exact Lease.live_mono t.market.now (h.promises_le hsplit hresult window)

theorem units_ne_of_orderly {i : Nat} {run : GraphRun} {admittedAt : Nat} (horderly : t.Orderly (.holdUntil i))
    (hget : t.runs[i]? = some (run, admittedAt)) :
    ∀ hold ∈ sweepHolds (some t.market.now) (owned (windowOf run.state.need) (t.runs.drop (i + 1))),
      hold.units ≠ demand run.state.need := by
  intro hold hmem hunits
  obtain ⟨other, otherAt, hmem, hwindow, hhold, houtstanding⟩ := mem_sweepHolds_owned hmem
  obtain ⟨k, hk⟩ := List.mem_iff_getElem?.mp hmem
  rw [List.getElem?_drop] at hk
  exact (horderly run admittedAt hget).2 (i + 1 + k) other otherAt (by omega) hk hwindow
    ((units_of_hold hhold).symm.trans hunits) houtstanding

theorem sweepHolds_take_of_orderly {i : Nat} {llm : Option (Option QuoteDecision)} {run : GraphRun} {admittedAt : Nat}
    (horderly : t.Orderly (.release i llm)) (hget : t.runs[i]? = some (run, admittedAt)) :
    sweepHolds (some t.market.now) (owned (windowOf run.state.need) (t.runs.take i)) = [] := by
  refine List.eq_nil_iff_forall_not_mem.mpr fun hold hmem => ?_
  obtain ⟨other, otherAt, hmem, hwindow, -, houtstanding⟩ := mem_sweepHolds_owned hmem
  obtain ⟨k, hk, hother⟩ := List.mem_take_iff_getElem.mp hmem
  refine (horderly run admittedAt hget).2.2 k other otherAt (by omega) ?_ hwindow houtstanding
  rw [List.getElem?_eq_some_iff]
  exact ⟨by omega, hother⟩

/-- `hold_until` finds the hold of its own run: the later ones are of other units. -/
theorem Tracked.careful_holdUntil (h : Tracked t) {i : Nat} {run : GraphRun} (hrun : t.market.runs[i]? = some run)
    (hresult : run.state.result = none) (horderly : t.Orderly (.holdUntil i)) :
    t.market.Careful (.holdUntil i) := by
  obtain ⟨admittedAt, hget, hsplit, -⟩ := h.split hrun
  intro run' hrun'
  cases hrun.symm.trans hrun'
  rw [h.around hsplit hresult (horderly run admittedAt hget).1, List.reverse_append, List.reverse_cons,
    List.append_assoc, List.singleton_append]
  refine ⟨_, _, withoutFirst_append (fun hold hmem => ?_) rfl, h.spared hsplit hresult ?_⟩
  · exact units_ne_of_orderly horderly hget hold (List.mem_reverse.mp hmem)
  · rw [leases_append, leases_reverse, leases_reverse, add_comm]

/-- `release` gives back the hold of its own run: there is none before it. -/
theorem Tracked.careful_release (h : Tracked t) {i : Nat} {llm : Option (Option QuoteDecision)} {run : GraphRun}
    (hrun : t.market.runs[i]? = some run) (hresult : run.state.result = none)
    (horderly : t.Orderly (.release i llm)) : t.market.Careful (.release i llm) := by
  obtain ⟨admittedAt, hget, hsplit, -⟩ := h.split hrun
  intro run' hrun'
  cases hrun.symm.trans hrun'
  have htake := sweepHolds_take_of_orderly horderly hget
  obtain ⟨hintime, hpos, -⟩ := horderly run admittedAt hget
  rw [h.around hsplit hresult hintime, htake, List.nil_append, untouchedBy_cons hpos rfl]
  refine h.spared hsplit hresult ?_
  rw [htake, leases_nil, zero_add]

theorem Tracked.advance (h : Tracked t) {later : Nat} (hle : t.market.now ≤ later) :
    Tracked { t with market := { t.market with now := later } } where
  length := h.length
  holds := fun window => by
    have hholds := congrArg (sweepHolds (some later)) (h.holds window)
    rwa [sweepHolds_sweepHolds hle, sweepHolds_sweepHolds hle] at hholds

theorem Tracked.admitNeed (h : Tracked t) (need : ServiceNeed) :
    Tracked ⟨{ t.market with
      ledger := (Ledger.admitNeed t.market.ledger t.market.now need).2
      runs := t.market.runs ++ [(Ledger.admitNeed t.market.ledger t.market.now need).1] },
      t.admitted ++ [t.market.now]⟩ := by
  refine ⟨by simp only [List.length_append, h.length, List.length_singleton], fun window => ?_⟩
  have hruns : (t.market.runs ++ [(Ledger.admitNeed t.market.ledger t.market.now need).1]).zip
      (t.admitted ++ [t.market.now]) =
        t.runs ++ [((Ledger.admitNeed t.market.ledger t.market.now need).1, t.market.now)] :=
    List.zip_append h.length.symm
  have hledger : (Ledger.admitNeed t.market.ledger t.market.now need).2 =
      (t.market.ledger.tryReserve (some t.market.now) (some t.market.now) (windowOf need) (demand need)).2 := by
    simp only [Ledger.admitNeed]
    split_ifs <;> rfl
  have hneed : (Ledger.admitNeed t.market.ledger t.market.now need).1.state.need = need := by
    simp only [Ledger.admitNeed]
    split_ifs <;> rfl
  change sweepHolds (some t.market.now) ((Ledger.admitNeed t.market.ledger t.market.now need).2.holds window) =
    sweepHolds (some t.market.now) (owned window (List.zip _ _))
  rw [hruns, owned_append, owned_cons, sweepHolds_append, ← h.holds, hledger]
  by_cases hwindow : window = windowOf need
  · subst hwindow
    rw [CapacityLedger.tryReserve_holds_self, sweepHolds_append, sweepHolds_sweepHolds le_rfl]
    refine congrArg _ ?_
    rw [ownedHold, if_pos (congrArg windowOf hneed)]
    by_cases htaken : (t.market.ledger.tryReserve (some t.market.now) (some t.market.now) (windowOf need)
        (demand need)).1 = true
    · simp only [Ledger.admitNeed, htaken, if_true, GraphRun.hold]
      rfl
    · simp only [Ledger.admitNeed, htaken, GraphRun.hold]
      rfl
  · have hother : ¬ windowOf need = window := fun heq => hwindow heq.symm
    rw [tryReserve_holds_of_ne hwindow, ownedHold, hneed, if_neg hother]
    exact (List.append_nil _).symm

/-- A step on one run keeps the account if it keeps it in the window of the run and leaves the others alone. -/
theorem Tracked.set (h : Tracked t) {i : Nat} {run : GraphRun} {admittedAt : Nat} (next : GraphRun)
    (ledger : CapacityLedger)
    (hsplit : t.runs = t.runs.take i ++ (run, admittedAt) :: t.runs.drop (i + 1))
    (hset : (t.market.runs.set i next).zip t.admitted =
      t.runs.take i ++ (next, admittedAt) :: t.runs.drop (i + 1))
    (hneed : next.state.need = run.state.need)
    (hothers : ∀ window, window ≠ windowOf run.state.need → ledger.holds window = t.market.ledger.holds window)
    (hself : sweepHolds (some t.market.now) (ledger.holds (windowOf run.state.need)) =
      sweepHolds (some t.market.now) (owned (windowOf run.state.need)
        (t.runs.take i ++ (next, admittedAt) :: t.runs.drop (i + 1)))) :
    Tracked { t with market := { t.market with ledger := ledger, runs := t.market.runs.set i next } } := by
  refine ⟨by simp only [List.length_set, h.length], fun window => ?_⟩
  change sweepHolds (some t.market.now) (ledger.holds window) =
    sweepHolds (some t.market.now) (owned window (List.zip _ _))
  rw [hset]
  by_cases hwindow : window = windowOf run.state.need
  · subst hwindow
    exact hself
  · have hnone : ∀ other : GraphRun, other.state.need = run.state.need →
        ownedHold window (other, admittedAt) = none := fun other heq => if_neg (heq ▸ Ne.symm hwindow)
    rw [hothers window hwindow, h.holds]
    nth_rewrite 1 [hsplit]
    rw [owned_append, owned_append, owned_cons, owned_cons, hnone run rfl, hnone next hneed]

theorem Tracked.signOffer (h : Tracked t) {i : Nat} {state : ProviderState}
    (hrun : t.market.runs[i]? = some ⟨state, .quote⟩) (decision : QuoteDecision) (signed : SignedOffer) :
    Tracked { t with market := { t.market with runs := t.market.runs.set i ⟨state, .signed decision signed⟩ } } := by
  obtain ⟨admittedAt, -, hsplit, hset⟩ := h.split hrun
  refine h.set ⟨state, .signed decision signed⟩ t.market.ledger hsplit (hset _) rfl (fun _ _ => rfl) ?_
  rw [h.holds]
  nth_rewrite 1 [hsplit]
  rw [owned_append, owned_append, owned_cons, owned_cons]
  rfl

theorem Tracked.holdUntil (h : Tracked t) {i : Nat} {state : ProviderState} {decision : QuoteDecision}
    {signed : SignedOffer} (hrun : t.market.runs[i]? = some ⟨state, .signed decision signed⟩)
    (hresult : state.result = none) (horderly : t.Orderly (.holdUntil i)) :
    Tracked { t with market := { t.market with
      ledger := t.market.ledger.holdUntil (some t.market.now) (windowOf state.need) (demand state.need)
        signed.offer.validUntil.toNat
      runs := t.market.runs.set i (returnSigned state decision signed) } } := by
  obtain ⟨admittedAt, hget, hsplit, hset⟩ := h.split hrun
  refine h.set (returnSigned state decision signed) _ hsplit (hset _) rfl
    (fun window hwindow => holdUntil_holds_of_ne hwindow) ?_
  have hunits := units_ne_of_orderly horderly hget
  have hown : ownedHold (windowOf state.need) (returnSigned state decision signed, admittedAt) =
      some ⟨demand state.need, some signed.offer.validUntil.toNat⟩ := if_pos rfl
  rw [CapacityLedger.holdUntil_holds_self, h.around hsplit hresult (horderly _ admittedAt hget).1,
    List.reverse_append, List.reverse_cons, List.append_assoc, List.singleton_append,
    restampFirst_append (fun hold hmem => hunits hold (List.mem_reverse.mp hmem)) rfl, List.reverse_append,
    List.reverse_cons, List.reverse_reverse, List.reverse_reverse, owned_append, owned_cons, hown,
    Option.toList_some, List.append_assoc]
  simp only [sweepHolds_append, sweepHolds_sweepHolds le_rfl]

theorem Tracked.release (h : Tracked t) {i : Nat} {state : ProviderState} {llm : Option (Option QuoteDecision)}
    (hrun : t.market.runs[i]? = some ⟨state, .quote⟩) (hresult : state.result = none)
    (horderly : t.Orderly (.release i llm)) :
    Tracked { t with market := { t.market with
      ledger := t.market.ledger.release (some t.market.now) (windowOf state.need) (demand state.need)
      runs := t.market.runs.set i (returnDecline state (decision state.need llm)) } } := by
  obtain ⟨admittedAt, hget, hsplit, hset⟩ := h.split hrun
  refine h.set (returnDecline state (decision state.need llm)) _ hsplit (hset _) rfl
    (fun window hwindow => release_holds_of_ne hwindow) ?_
  obtain ⟨hintime, hpos, -⟩ := horderly _ admittedAt hget
  have hnone : ownedHold (windowOf state.need) (returnDecline state (decision state.need llm), admittedAt) = none :=
    if_pos rfl
  have htake := sweepHolds_take_of_orderly horderly hget
  rw [CapacityLedger.release_holds_self, h.around hsplit hresult hintime, htake, List.nil_append,
    releaseHolds_cons hpos rfl, sweepHolds_sweepHolds le_rfl, owned_append, owned_cons, hnone, Option.toList_none,
    List.nil_append, sweepHolds_append, htake, List.nil_append]

theorem Tracked.step (h : Tracked t) (hcovered : Market.Covered capacity t.market) {action : Action}
    {next : TimedMarket} (horderly : t.Orderly action) (hstep : t.step action = some next) : Tracked next := by
  obtain ⟨market, hmarket, rfl⟩ := Option.map_eq_some_iff.mp hstep
  cases action with
  | advance later =>
      obtain ⟨hle, rfl⟩ := Market.step_advance hmarket
      exact h.advance hle
  | admitNeed need =>
      cases hmarket
      exact h.admitNeed need
  | signOffer i llm signed =>
      obtain ⟨state, hrun, -, rfl⟩ := Market.step_signOffer hmarket
      exact h.signOffer hrun _ signed
  | holdUntil i =>
      obtain ⟨state, decision, signed, hrun, rfl⟩ := Market.step_holdUntil hmarket
      exact h.holdUntil hrun (hcovered.pending_of_get hrun fun heq => by cases heq) horderly
  | release i llm =>
      obtain ⟨state, hrun, -, rfl⟩ := Market.step_release hmarket
      exact h.release hrun (hcovered.pending_of_get hrun fun heq => by cases heq) horderly

theorem Tracked.careful (h : Tracked t) (hcovered : Market.Covered capacity t.market) {action : Action}
    {next : TimedMarket} (horderly : t.Orderly action) (hstep : t.step action = some next) :
    t.market.Careful action := by
  obtain ⟨market, hmarket, -⟩ := Option.map_eq_some_iff.mp hstep
  cases action with
  | advance later => trivial
  | admitNeed need => exact horderly
  | signOffer i llm signed => trivial
  | holdUntil i =>
      obtain ⟨state, decision, signed, hrun, -⟩ := Market.step_holdUntil hmarket
      exact h.careful_holdUntil hrun (hcovered.pending_of_get hrun fun heq => by cases heq) horderly
  | release i llm =>
      obtain ⟨state, hrun, -, -⟩ := Market.step_release hmarket
      exact h.careful_release hrun (hcovered.pending_of_get hrun fun heq => by cases heq) horderly

/-- In an orderly run every step is careful. -/
theorem careful_of_orderly (capacity now : Nat) (actions : List Action) (m : Market)
    (horderly : Guarded TimedMarket.step TimedMarket.Orderly (TimedMarket.start capacity now) actions)
    (hrun : run Market.step (Market.start capacity now) actions = some m) :
    Guarded Market.step Market.Careful (Market.start capacity now) actions := by
  have hview : ∀ t action, Market.step (TimedMarket.market t) action = (TimedMarket.step t action).map market := by
    intro t action
    unfold TimedMarket.step
    cases t.market.step action <;> rfl
  refine Guarded.map market (fun t => Tracked t ∧ Market.Covered capacity t.market) hview
    (fun t action next h horderly hstep => h.1.careful h.2 horderly hstep)
    (fun t action next h horderly hstep => ⟨h.1.step h.2 horderly hstep, ?_⟩)
    ⟨tracked_start capacity now, Market.covered_start capacity now⟩ horderly hrun
  have hcareful := h.1.careful h.2 horderly hstep
  obtain ⟨market, hmarket, rfl⟩ := Option.map_eq_some_iff.mp hstep
  exact h.2.step hcareful hmarket

/-- Two overlapping runs for different units are orderly. -/
example : Guarded TimedMarket.step Orderly (start 200 0) twoQuotes := by
  refine Guarded.cons (fun _ => by decide) rfl (Guarded.cons (fun _ => by decide) rfl (Guarded.cons trivial rfl
    (Guarded.cons trivial rfl (Guarded.cons ?_ rfl (Guarded.cons ?_ rfl (Guarded.cons trivial rfl trivial))))))
  · rintro run admittedAt ⟨⟩
    refine ⟨by decide, fun later other otherAt hlater hget => ?_⟩
    rcases later with _ | _ | later
    · omega
    · omega
    · cases hget
  · rintro run admittedAt ⟨⟩
    refine ⟨by decide, fun later other otherAt hlater hget _ hunits => ?_⟩
    rcases later with _ | _ | later
    · omega
    · cases hget
      exact absurd hunits (by decide)
    · cases hget

end TimedMarket

end A2AProvisioning.Ledger
