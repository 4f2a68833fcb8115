import A2AProvisioning.LedgerHolds

/-! The books of the capacity ledger over any sequence of calls, whatever the clock returns to each of
them. The units held for a window stay within the capacity, a reservation is taken exactly when it fits,
and a release takes off what it names as far as there is that much. -/

namespace A2AProvisioning.Ledger

/-- A call on the ledger, with what the clock returned to it; `none` for a ledger without a clock. -/
inductive LedgerCall
  | reserved (now : Option Nat) (window : Window)
  | available (now : Option Nat) (window : Window)
  | tryReserve (now later : Option Nat) (window : Window) (units : Nat)
  | holdUntil (now : Option Nat) (window : Window) (units expiry : Nat)
  | release (now : Option Nat) (window : Window) (units : Nat)

/-- The call was made on a ledger without a clock. -/
def LedgerCall.Clockless : LedgerCall → Prop
  | .reserved now _ => now = none
  | .available now _ => now = none
  | .tryReserve now later _ _ => now = none ∧ later = none
  | .holdUntil now _ _ _ => now = none
  | .release now _ _ => now = none

namespace CapacityLedger

/-- The two reads sweep the window and leave the rest alone. -/
def perform (ledger : CapacityLedger) : LedgerCall → CapacityLedger
  | .reserved now window => ledger.sweep now window
  | .available now window => ledger.sweep now window
  | .tryReserve now later window units => (ledger.tryReserve now later window units).2
  | .holdUntil now window units expiry => ledger.holdUntil now window units expiry
  | .release now window units => ledger.release now window units

def performAll (ledger : CapacityLedger) (calls : List LedgerCall) : CapacityLedger := calls.foldl perform ledger

/-- The units that a call takes for the window. -/
def acceptedBy (ledger : CapacityLedger) (window : Window) : LedgerCall → Nat
  | .tryReserve now later window' units =>
      if window' = window ∧ (ledger.tryReserve now later window' units).1 then units else 0
  | _ => 0

/-- The units that a call gives back for the window; those above what was reserved have no effect. -/
def releasedBy (ledger : CapacityLedger) (window : Window) : LedgerCall → Nat
  | .release now window' units => if window' = window then min units (ledger.reserved now window) else 0
  | _ => 0

/-- The running total of a quantity over a sequence of calls. -/
def runningTotal (quantity : CapacityLedger → LedgerCall → Nat) : CapacityLedger → List LedgerCall → Nat
  | _, [] => 0
  | ledger, call :: rest => quantity ledger call + runningTotal quantity (ledger.perform call) rest

end CapacityLedger

/-- The second list is the first with holds removed or made smaller. -/
inductive Shrinks : List Hold → List Hold → Prop
  | nil : Shrinks [] []
  | drop (hold : Hold) {holds holds' : List Hold} (h : Shrinks holds holds') : Shrinks (hold :: holds) holds'
  | keep (hold : Hold) {units : Nat} (hle : units ≤ hold.units) {holds holds' : List Hold}
      (h : Shrinks holds holds') : Shrinks (hold :: holds) ({ hold with units := units } :: holds')

namespace Shrinks

theorem refl (holds : List Hold) : Shrinks holds holds := by
  induction holds with
  | nil => exact .nil
  | cons hold rest ih => exact .keep hold le_rfl ih

theorem filter (keeps : Hold → Bool) (holds : List Hold) : Shrinks holds (holds.filter keeps) := by
  induction holds with
  | nil => exact .nil
  | cons hold rest ih =>
      by_cases hkeeps : keeps hold = true
      · rw [List.filter_cons_of_pos hkeeps]
        exact .keep hold le_rfl ih
      · rw [List.filter_cons_of_neg hkeeps]
        exact .drop hold ih

theorem sweepHolds (now : Option Nat) (holds : List Hold) : Shrinks holds (sweepHolds now holds) := by
  cases now with
  | none => exact refl holds
  | some now => exact filter (Hold.keeps now) holds

theorem trans {holds holds' holds'' : List Hold} (h : Shrinks holds holds') (h' : Shrinks holds' holds'') :
    Shrinks holds holds'' := by
  induction h generalizing holds'' with
  | nil => exact h'
  | drop hold _ ih => exact .drop hold (ih h')
  | keep hold hle _ ih =>
      cases h' with
      | drop _ hrest => exact .drop hold (ih hrest)
      | keep _ hle' hrest => exact .keep hold (hle'.trans hle) (ih hrest)

theorem releaseHolds (holds : List Hold) (units : Nat) : Shrinks holds (releaseHolds holds units) := by
  induction holds generalizing units with
  | nil => exact .nil
  | cons head rest ih =>
      rw [Ledger.releaseHolds]
      split_ifs with hzero hpart
      · exact refl _
      · exact .keep head (Nat.sub_le _ _) (refl rest)
      · exact .drop head (ih _)

/-- No hold is new: each was there with at least these units, and with this expiry. -/
theorem mem {holds holds' : List Hold} (h : Shrinks holds holds') {hold' : Hold} (hmem : hold' ∈ holds') :
    ∃ hold ∈ holds, hold'.units ≤ hold.units ∧ hold'.expiresAt = hold.expiresAt := by
  induction h with
  | nil => cases hmem
  | drop _ _ ih =>
      obtain ⟨hold, hmem, hhold⟩ := ih hmem
      exact ⟨hold, List.mem_cons_of_mem _ hmem, hhold⟩
  | keep hold hle _ ih =>
      rcases List.mem_cons.mp hmem with rfl | hmem
      · exact ⟨hold, List.mem_cons_self, hle, rfl⟩
      · obtain ⟨hold, hmem, hhold⟩ := ih hmem
        exact ⟨hold, List.mem_cons_of_mem _ hmem, hhold⟩

theorem unitsOf_le {holds holds' : List Hold} (h : Shrinks holds holds') : unitsOf holds' ≤ unitsOf holds := by
  induction h with
  | nil => exact le_rfl
  | drop _ _ ih =>
      simp only [unitsOf, List.map_cons, List.sum_cons] at ih ⊢
      omega
  | keep _ hle _ ih =>
      simp only [unitsOf, List.map_cons, List.sum_cons] at ih ⊢
      omega

end Shrinks

theorem unitsOf_cons (hold : Hold) (holds : List Hold) : unitsOf (hold :: holds) = hold.units + unitsOf holds := by
  simp only [unitsOf, List.map_cons, List.sum_cons]

theorem unitsOf_append (holds holds' : List Hold) : unitsOf (holds ++ holds') = unitsOf holds + unitsOf holds' := by
  simp only [unitsOf, List.map_append, List.sum_append]

theorem unitsOf_reverse (holds : List Hold) : unitsOf holds.reverse = unitsOf holds := by
  simp only [unitsOf, List.map_reverse, List.sum_reverse]

theorem unitsOf_restampFirst (units expiry : Nat) (holds : List Hold) :
    unitsOf (restampFirst units expiry holds) = unitsOf holds := by
  induction holds with
  | nil => rfl
  | cons hold rest ih =>
      rw [restampFirst]
      split_ifs
      · rfl
      · rw [unitsOf_cons, unitsOf_cons, ih]

/-- The loop of `release` takes off the units it was given, down to nothing. -/
theorem unitsOf_releaseHolds (holds : List Hold) (units : Nat) :
    unitsOf (releaseHolds holds units) = unitsOf holds - units := by
  induction holds generalizing units with
  | nil => exact (Nat.zero_sub units).symm
  | cons head rest ih =>
      rw [releaseHolds, unitsOf_cons]
      split_ifs with hzero hpart
      · rw [unitsOf_cons]
        omega
      · simp only [unitsOf_cons]
        omega
      · rw [ih]
        omega

/-- Holds that have been swept at a time are not swept by that time again. -/
theorem sweepHolds_of_shrinks {now : Option Nat} {holds holds' : List Hold}
    (h : Shrinks (sweepHolds now holds) holds') : sweepHolds now holds' = holds' := by
  cases now with
  | none => rfl
  | some now =>
      refine List.filter_eq_self.mpr fun hold' hmem => ?_
      obtain ⟨hold, hmem, -, hexpiry⟩ := h.mem hmem
      have hkeeps : hold.keeps now = true := List.of_mem_filter hmem
      rw [Hold.keeps, hexpiry]
      exact hkeeps

namespace CapacityLedger

variable (ledger : CapacityLedger) (now later : Option Nat) (window : Window) (units expiry : Nat)

theorem reserved_eq : ledger.reserved now window = unitsOf (sweepHolds now (ledger.holds window)) := by
  rw [reserved, sweep_holds_self]

theorem tryReserve_fst : (ledger.tryReserve now later window units).1 = true ↔
    (units : Int) ≤ ledger.available now window := by
  rw [tryReserve]
  split_ifs with hfull
  · simpa using hfull
  · simpa using hfull

/-- What is held for the window after a reservation: the swept holds, with a new one if it fits. -/
theorem tryReserve_holds_self : (ledger.tryReserve now later window units).2.holds window =
    sweepHolds now (ledger.holds window) ++
      if (ledger.tryReserve now later window units).1 then [⟨units, later.map fun now => now + quoteHoldS⟩]
      else [] := by
  by_cases hfull : (units : Int) > ledger.available now window
  · rw [tryReserve, if_pos hfull, sweep_holds_self]
    exact (List.append_nil _).symm
  · rw [tryReserve, if_neg hfull, if_pos rfl, setHolds_holds_self, sweep_holds_self]

theorem holdUntil_holds_self : (ledger.holdUntil now window units expiry).holds window =
    (restampFirst units expiry (sweepHolds now (ledger.holds window)).reverse).reverse := by
  rw [holdUntil, setHolds_holds_self, sweep_holds_self]

theorem release_holds_self : (ledger.release now window units).holds window =
    releaseHolds (sweepHolds now (ledger.holds window)) units := by
  rw [release, setHolds_holds_self, sweep_holds_self]

end CapacityLedger

def LedgerCall.window : LedgerCall → Window
  | .reserved _ window => window
  | .available _ window => window
  | .tryReserve _ _ window _ => window
  | .holdUntil _ window _ _ => window
  | .release _ window _ => window

section Calls

variable {ledger : CapacityLedger} {capacity : Nat}

theorem perform_capacity (call : LedgerCall) : (ledger.perform call).capacity = ledger.capacity := by
  cases call with
  | tryReserve now later window units =>
      rw [CapacityLedger.perform, CapacityLedger.tryReserve]
      split_ifs <;> rfl
  | _ => rfl

variable (ledger) in
/-- A call touches its own window only. -/
theorem perform_holds_of_ne (call : LedgerCall) {window : Window} (hne : window ≠ call.window) :
    (ledger.perform call).holds window = ledger.holds window := by
  have hsweep : ∀ now, (ledger.sweep now call.window).holds window = ledger.holds window := fun now =>
    CapacityLedger.setHolds_holds_of_ne ledger _ hne
  cases call with
  | reserved now _ => exact hsweep now
  | available now _ => exact hsweep now
  | tryReserve now later _ units =>
      rw [CapacityLedger.perform, CapacityLedger.tryReserve]
      split_ifs
      · exact hsweep now
      · exact (CapacityLedger.setHolds_holds_of_ne _ _ hne).trans (hsweep now)
  | holdUntil now _ units expiry => exact (CapacityLedger.setHolds_holds_of_ne _ _ hne).trans (hsweep now)
  | release now _ units => exact (CapacityLedger.setHolds_holds_of_ne _ _ hne).trans (hsweep now)

/-- The units of every window are within the capacity. -/
structure Within (capacity : Nat) (ledger : CapacityLedger) : Prop where
  limit : ledger.capacity = capacity
  units : ∀ window, unitsOf (ledger.holds window) ≤ capacity

theorem Within.perform (h : Within capacity ledger) (call : LedgerCall) : Within capacity (ledger.perform call) := by
  refine ⟨(perform_capacity call).trans h.limit, fun window => ?_⟩
  by_cases hwindow : window = call.window
  · have hswept : ∀ now, unitsOf (sweepHolds now (ledger.holds window)) ≤ capacity := fun now =>
      (Shrinks.sweepHolds now _).unitsOf_le.trans (h.units window)
    subst hwindow
    cases call with
    | reserved now window =>
        rw [CapacityLedger.perform, LedgerCall.window, CapacityLedger.sweep_holds_self]
        exact hswept now
    | available now window =>
        rw [CapacityLedger.perform, LedgerCall.window, CapacityLedger.sweep_holds_self]
        exact hswept now
    | tryReserve now later window units =>
        rw [CapacityLedger.perform, LedgerCall.window, CapacityLedger.tryReserve_holds_self, unitsOf_append]
        split_ifs with htaken
        · -- the new hold fits into what the swept ones leave
          have hfits := (ledger.tryReserve_fst now later window units).mp htaken
          rw [CapacityLedger.available, CapacityLedger.reserved_eq, h.limit] at hfits
          simp only [unitsOf, List.map_cons, List.map_nil, List.sum_cons, List.sum_nil] at hfits ⊢
          omega
        · exact hswept now
    | holdUntil now window units expiry =>
        rw [CapacityLedger.perform, LedgerCall.window, CapacityLedger.holdUntil_holds_self, unitsOf_reverse,
          unitsOf_restampFirst, unitsOf_reverse]
        exact hswept now
    | release now window units =>
        rw [CapacityLedger.perform, LedgerCall.window, CapacityLedger.release_holds_self]
        exact (Shrinks.releaseHolds _ units).unitsOf_le.trans (hswept now)
  · rw [perform_holds_of_ne ledger call hwindow]
    exact h.units window

theorem Within.available (h : Within capacity ledger) (now : Option Nat) (window : Window) :
    0 ≤ ledger.available now window := by
  have hunits := (Shrinks.sweepHolds now (ledger.holds window)).unitsOf_le.trans (h.units window)
  rw [CapacityLedger.available, CapacityLedger.reserved_eq, h.limit]
  omega

variable (ledger) in
/-- Without a clock a call changes what is held by what it takes and gives back. -/
theorem perform_balance {call : LedgerCall} (hclock : call.Clockless) (window : Window) :
    unitsOf ((ledger.perform call).holds window) + ledger.releasedBy window call =
      unitsOf (ledger.holds window) + ledger.acceptedBy window call := by
  by_cases hwindow : window = call.window
  · subst hwindow
    cases call with
    | reserved now window =>
        cases hclock
        rw [CapacityLedger.perform, LedgerCall.window, CapacityLedger.sweep_holds_self]
        rfl
    | available now window =>
        cases hclock
        rw [CapacityLedger.perform, LedgerCall.window, CapacityLedger.sweep_holds_self]
        rfl
    | tryReserve now later window units =>
        obtain ⟨rfl, rfl⟩ := hclock
        rw [CapacityLedger.perform, LedgerCall.window, CapacityLedger.tryReserve_holds_self, unitsOf_append]
        simp only [CapacityLedger.releasedBy, CapacityLedger.acceptedBy, true_and, sweepHolds]
        split_ifs
        · rfl
        · rfl
    | holdUntil now window units expiry =>
        cases hclock
        rw [CapacityLedger.perform, LedgerCall.window, CapacityLedger.holdUntil_holds_self, unitsOf_reverse,
          unitsOf_restampFirst, unitsOf_reverse]
        rfl
    | release now window units =>
        cases hclock
        rw [CapacityLedger.perform, LedgerCall.window, CapacityLedger.release_holds_self, unitsOf_releaseHolds]
        simp only [CapacityLedger.releasedBy, CapacityLedger.acceptedBy, if_true, CapacityLedger.reserved_eq,
          sweepHolds]
        omega
  · rw [perform_holds_of_ne ledger call hwindow]
    have hother : ¬ call.window = window := fun heq => hwindow heq.symm
    cases call with
    | tryReserve now later window' units =>
        have hskip : ¬ (window' = window ∧ (ledger.tryReserve now later window' units).1 = true) :=
          fun htaken => hother htaken.1
        simp only [CapacityLedger.releasedBy, CapacityLedger.acceptedBy, if_neg hskip]
    | release now window' units =>
        have hskip : ¬ window' = window := hother
        simp only [CapacityLedger.releasedBy, CapacityLedger.acceptedBy, if_neg hskip]
    | _ => rfl

variable (ledger) in
theorem performAll_balance {calls : List LedgerCall} (hclock : ∀ call ∈ calls, call.Clockless) (window : Window) :
    unitsOf ((ledger.performAll calls).holds window) +
        CapacityLedger.runningTotal (fun ledger => ledger.releasedBy window) ledger calls =
      unitsOf (ledger.holds window) +
        CapacityLedger.runningTotal (fun ledger => ledger.acceptedBy window) ledger calls := by
  induction calls generalizing ledger with
  | nil => rfl
  | cons call rest ih =>
      have hcall := perform_balance ledger (hclock call List.mem_cons_self) window
      have hrest := ih (ledger.perform call) fun call hmem => hclock call (List.mem_cons_of_mem _ hmem)
      simp only [CapacityLedger.performAll, List.foldl_cons, CapacityLedger.runningTotal] at hrest ⊢
      omega

/-! ### The books -/

/-- What every call can rely on. -/
structure Accounts (capacity : Nat) (ledger : CapacityLedger) : Prop where
  units : ∀ window, unitsOf (ledger.holds window) ≤ capacity
  available : ∀ now window, 0 ≤ ledger.available now window
  left : ∀ now window, ledger.available now window = capacity - ledger.reserved now window
  taken : ∀ now later window units, (ledger.tryReserve now later window units).1 = true ↔
    (units : Int) ≤ ledger.available now window
  refused : ∀ now later window units, (ledger.tryReserve now later window units).1 = false →
    ∀ window', ((ledger.tryReserve now later window units).2.holds window').Sublist (ledger.holds window')
  released : ∀ now window units, (ledger.release now window units).reserved now window =
    ledger.reserved now window - units
  shrunk : ∀ now window units, Shrinks (ledger.holds window) ((ledger.release now window units).holds window)
  others : ∀ now window units, ∀ window' ≠ window,
    (ledger.release now window units).holds window' = ledger.holds window'

theorem sublist_sweepHolds (now : Option Nat) (holds : List Hold) : (sweepHolds now holds).Sublist holds := by
  cases now with
  | none => exact List.Sublist.refl holds
  | some now => exact List.filter_sublist

theorem Within.accounts (h : Within capacity ledger) : Accounts capacity ledger where
  units := h.units
  available := h.available
  left := fun now window => h.limit ▸ rfl
  taken := ledger.tryReserve_fst
  refused := fun now later window units hfull window' => by
    by_cases hwindow : window' = window
    · subst hwindow
      rw [CapacityLedger.tryReserve_holds_self, hfull, if_neg Bool.false_ne_true, List.append_nil]
      exact sublist_sweepHolds now _
    · have hsame := perform_holds_of_ne ledger (.tryReserve now later window units) hwindow
      rw [CapacityLedger.perform] at hsame
      rw [hsame]
  released := fun now window units => by
    have hswept : sweepHolds now (releaseHolds (sweepHolds now (ledger.holds window)) units) = _ :=
      sweepHolds_of_shrinks (Shrinks.releaseHolds _ units)
    rw [CapacityLedger.reserved_eq, CapacityLedger.release_holds_self, hswept, unitsOf_releaseHolds,
      CapacityLedger.reserved_eq]
  shrunk := fun now window units => by
    rw [CapacityLedger.release_holds_self]
    exact (Shrinks.sweepHolds now _).trans (Shrinks.releaseHolds _ units)
  others := fun now window units window' hne => perform_holds_of_ne ledger (.release now window units) hne

end Calls

/-- After any calls on a ledger that starts empty its books are in order; without a clock, what is reserved
for a window is what was taken for it less what was given back. -/
theorem ledger_accounts (capacity : Nat) (calls : List LedgerCall) :
    Accounts capacity ((CapacityLedger.empty capacity).performAll calls) ∧
      ((∀ call ∈ calls, call.Clockless) → ∀ window,
        ((CapacityLedger.empty capacity).performAll calls).reserved none window +
            CapacityLedger.runningTotal (fun ledger => ledger.releasedBy window) (CapacityLedger.empty capacity)
              calls =
          CapacityLedger.runningTotal (fun ledger => ledger.acceptedBy window) (CapacityLedger.empty capacity)
            calls) := by
  have hempty : Within capacity (CapacityLedger.empty capacity) := ⟨rfl, fun _ => Nat.zero_le _⟩
  have hwithin : Within capacity ((CapacityLedger.empty capacity).performAll calls) :=
    List.foldlRecOn calls CapacityLedger.perform hempty fun _ h call _ => h.perform call
  refine ⟨hwithin.accounts, fun hclock window => ?_⟩
  have hbalance := performAll_balance (CapacityLedger.empty capacity) hclock window
  rw [CapacityLedger.reserved_eq]
  exact hbalance.trans (Nat.zero_add _)

/-- Without a clock: 100 and 60 of 200 units are taken, 50 more do not fit, and 30 are given back. -/
def clocklessCalls : List LedgerCall :=
  [.tryReserve none none (0, 1000) 100, .tryReserve none none (0, 1000) 60, .tryReserve none none (0, 1000) 50,
    .release none (0, 1000) 30]

theorem ledger_accounts_clockless :
    Accounts 200 ((CapacityLedger.empty 200).performAll clocklessCalls) ∧
      ((CapacityLedger.empty 200).performAll clocklessCalls).reserved none (0, 1000) + 30 = 160 := by
  obtain ⟨haccounts, hbalance⟩ := ledger_accounts 200 clocklessCalls
  refine ⟨haccounts, hbalance (fun call hmem => ?_) (0, 1000)⟩
  simp only [clocklessCalls, List.mem_cons, List.not_mem_nil, or_false] at hmem
  rcases hmem with rfl | rfl | rfl | rfl
  · exact ⟨rfl, rfl⟩
  · exact ⟨rfl, rfl⟩
  · exact ⟨rfl, rfl⟩
  · rfl

end A2AProvisioning.Ledger
