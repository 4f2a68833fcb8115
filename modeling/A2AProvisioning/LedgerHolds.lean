import A2AProvisioning.Interfaces
import A2AProvisioning.LibraryLease
import Mathlib.Algebra.Order.Group.Nat

/-! The capacity ledger of the provider's graph: unit holds per window, swept lazily against the
injected clock. A call takes what the clock returned to it, `none` for a ledger without a clock, and
returns the ledger it leaves behind. -/

namespace A2AProvisioning.Ledger

/-- How long a quote that nobody accepted keeps capacity off the market. -/
def quoteHoldS : Nat := 300

structure Hold where
  units : Nat
  expiresAt : Option Nat
  deriving DecidableEq

/-- A window is its start and its end. -/
abbrev Window := Nat × Nat

structure CapacityLedger where
  capacity : Nat
  holds : Window → List Hold

def unitsOf (holds : List Hold) : Nat := (holds.map Hold.units).sum

/-- The test of the sweep: a hold lasts up to, but not through, its expiry. -/
def Hold.keeps (now : Nat) (hold : Hold) : Bool :=
  match hold.expiresAt with
  | none => true
  | some expiry => expiry > now

def sweepHolds (now : Option Nat) (holds : List Hold) : List Hold :=
  match now with
  | none => holds
  | some now => holds.filter (Hold.keeps now)

/-- Restamps the first hold of that many units. -/
def restampFirst (units expiry : Nat) : List Hold → List Hold
  | [] => []
  | hold :: rest =>
      if hold.units = units then { hold with expiresAt := some expiry } :: rest
      else hold :: restampFirst units expiry rest

/-- The loop of `release`: whole holds from the front while they fit, then a part of the next. -/
def releaseHolds : List Hold → Nat → List Hold
  | [], _ => []
  | head :: rest, remaining =>
      if remaining = 0 then head :: rest
      else if head.units > remaining then { head with units := head.units - remaining } :: rest
      else releaseHolds rest (remaining - head.units)

namespace CapacityLedger

def empty (capacity : Nat) : CapacityLedger := ⟨capacity, fun _ => []⟩

def setHolds (ledger : CapacityLedger) (window : Window) (holds : List Hold) : CapacityLedger :=
  { ledger with holds := Function.update ledger.holds window holds }

def sweep (ledger : CapacityLedger) (now : Option Nat) (window : Window) : CapacityLedger :=
  ledger.setHolds window (sweepHolds now (ledger.holds window))

def reserved (ledger : CapacityLedger) (now : Option Nat) (window : Window) : Nat :=
  unitsOf ((ledger.sweep now window).holds window)

def available (ledger : CapacityLedger) (now : Option Nat) (window : Window) : Int :=
  ledger.capacity - ledger.reserved now window

/-- The clock is read twice: by the sweep inside `available`, and for the new hold's expiry. -/
def tryReserve (ledger : CapacityLedger) (now later : Option Nat) (window : Window) (units : Nat) :
    Bool × CapacityLedger :=
  let swept := ledger.sweep now window
  if (units : Int) > ledger.available now window then (false, swept)
  else (true, swept.setHolds window
    (swept.holds window ++ [⟨units, later.map fun now => now + quoteHoldS⟩]))

/-- Restamps the most recent hold of that many units, if the sweep left one. -/
def holdUntil (ledger : CapacityLedger) (now : Option Nat) (window : Window) (units expiry : Nat) :
    CapacityLedger :=
  let swept := ledger.sweep now window
  swept.setHolds window (restampFirst units expiry (swept.holds window).reverse).reverse

/-- Gives the units back, oldest hold first. -/
def release (ledger : CapacityLedger) (now : Option Nat) (window : Window) (units : Nat) :
    CapacityLedger :=
  let swept := ledger.sweep now window
  swept.setHolds window (releaseHolds (swept.holds window) units)

@[simp] theorem setHolds_holds_self (ledger : CapacityLedger) (window : Window) (holds : List Hold) :
    (ledger.setHolds window holds).holds window = holds := by
  simp [setHolds]

theorem setHolds_holds_of_ne (ledger : CapacityLedger) {window window' : Window} (holds : List Hold)
    (hne : window' ≠ window) : (ledger.setHolds window holds).holds window' = ledger.holds window' := by
  simp [setHolds, Function.update_of_ne hne]

@[simp] theorem sweep_holds_self (ledger : CapacityLedger) (now : Option Nat) (window : Window) :
    (ledger.sweep now window).holds window = sweepHolds now (ledger.holds window) :=
  setHolds_holds_self _ _ _

end CapacityLedger

/-! ### Holds as leases

A hold is a lease of its units up to its expiry; a hold without an expiry never lapses. -/

def Hold.lease (hold : Hold) : Lease Nat Nat := ⟨hold.units, hold.expiresAt⟩

def leases (holds : List Hold) : Multiset (Lease Nat Nat) := (holds.map Hold.lease : List _)

@[simp] theorem leases_nil : leases [] = 0 := rfl

@[simp] theorem leases_cons (hold : Hold) (holds : List Hold) :
    leases (hold :: holds) = hold.lease ::ₘ leases holds := rfl

theorem leases_append (holds holds' : List Hold) : leases (holds ++ holds') = leases holds + leases holds' := by
  simp [leases]

@[simp] theorem leases_reverse (holds : List Hold) : leases holds.reverse = leases holds := by
  simp [leases]

theorem total_leases (holds : List Hold) : Lease.total (leases holds) = unitsOf holds := by
  simp [Lease.total, leases, unitsOf, Hold.lease, Function.comp_def]

theorem keeps_iff (now : Nat) (hold : Hold) :
    hold.keeps now = true ↔ WithTop.some now < hold.lease.lapse := by
  obtain ⟨units, expiresAt⟩ := hold
  cases expiresAt with
  | none => exact iff_of_true rfl (WithTop.coe_lt_top now)
  | some expiry => exact decide_eq_true_iff.trans WithTop.coe_lt_coe.symm

/-- Sweeping keeps exactly the live leases. -/
theorem leases_sweepHolds (now : Nat) (holds : List Hold) :
    leases (sweepHolds (some now) holds) = Lease.live now (leases holds) := by
  induction holds with
  | nil => rfl
  | cons hold rest ih =>
      simp only [sweepHolds] at ih ⊢
      by_cases hkeeps : hold.keeps now = true
      · rw [List.filter_cons_of_pos hkeeps, leases_cons, leases_cons, ih,
          Lease.live_cons_of_lt ((keeps_iff now hold).mp hkeeps)]
      · rw [List.filter_cons_of_neg hkeeps, leases_cons, ih,
          Lease.live_cons_of_not_lt (mt (keeps_iff now hold).mpr hkeeps)]

theorem live_sweepHolds (now : Nat) (holds : List Hold) :
    Lease.live now (leases (sweepHolds (some now) holds)) = Lease.live now (leases holds) := by
  rw [leases_sweepHolds, Lease.live_live le_rfl]

theorem reserved_eq_total (ledger : CapacityLedger) (now : Nat) (window : Window) :
    ledger.reserved (some now) window = Lease.total (Lease.live now (leases (ledger.holds window))) := by
  rw [CapacityLedger.reserved, CapacityLedger.sweep_holds_self, ← total_leases, leases_sweepHolds]

/-- The holds behind the first hold of that many units, which is the one `restampFirst` takes. -/
def withoutFirst (units : Nat) : List Hold → Option (Hold × List Hold)
  | [] => none
  | hold :: rest =>
      if hold.units = units then some (hold, rest)
      else (withoutFirst units rest).map fun found => (found.1, hold :: found.2)

/-- What restamping does to the leases: one lease of that many units changes its expiry. -/
theorem leases_restampFirst {units : Nat} {holds rest : List Hold} {hold : Hold}
    (hfound : withoutFirst units holds = some (hold, rest)) (expiry : Nat) :
    hold.units = units ∧ hold ∈ holds ∧ leases holds = hold.lease ::ₘ leases rest ∧
      leases (restampFirst units expiry holds) = ⟨units, some expiry⟩ ::ₘ leases rest := by
  induction holds generalizing rest with
  | nil => cases hfound
  | cons first tail ih =>
      by_cases hunits : first.units = units
      · rw [withoutFirst, if_pos hunits] at hfound
        cases hfound
        refine ⟨hunits, List.mem_cons_self, rfl, ?_⟩
        rw [restampFirst, if_pos hunits, leases_cons, Hold.lease, hunits]
      · rw [withoutFirst, if_neg hunits, Option.map_eq_some_iff] at hfound
        obtain ⟨⟨hold', rest'⟩, hfound, heq⟩ := hfound
        cases heq
        obtain ⟨h1, h2, h3, h4⟩ := ih hfound
        refine ⟨h1, List.mem_cons_of_mem _ h2, ?_, ?_⟩
        · rw [leases_cons, h3, leases_cons, Multiset.cons_swap]
        · rw [restampFirst, if_neg hunits, leases_cons, h4, leases_cons, Multiset.cons_swap]

/-- The holds `release` does not touch. -/
def untouchedBy : List Hold → Nat → List Hold
  | [], _ => []
  | head :: rest, remaining =>
      if remaining = 0 then head :: rest
      else if head.units > remaining then rest
      else untouchedBy rest (remaining - head.units)

theorem leases_untouchedBy_le (holds : List Hold) (units : Nat) :
    leases (untouchedBy holds units) ≤ leases (releaseHolds holds units) := by
  induction holds generalizing units with
  | nil => rfl
  | cons head rest ih =>
      rw [untouchedBy, releaseHolds]
      split_ifs with hzero hpart
      · exact le_rfl
      · exact Multiset.le_cons_self _ _
      · exact ih _

/-- Giving units back adds none, and leaves every hold at its expiry. -/
theorem total_live_releaseHolds_le (now : Nat) (holds : List Hold) (units : Nat) :
    Lease.total (Lease.live now (leases (releaseHolds holds units))) ≤
      Lease.total (Lease.live now (leases holds)) := by
  induction holds generalizing units with
  | nil => rfl
  | cons head rest ih =>
      rw [releaseHolds]
      split_ifs with hzero hpart
      · exact le_rfl
      · simp only [leases_cons]
        by_cases hlive : WithTop.some now < head.lease.lapse
        · have hsmaller : WithTop.some now < Lease.lapse (Hold.lease { head with units := head.units - units }) :=
            hlive
          rw [Lease.live_cons_of_lt hlive, Lease.live_cons_of_lt hsmaller, Lease.total_cons, Lease.total_cons]
          exact add_le_add_left (Nat.sub_le _ _) _
        · have hsmaller : ¬ WithTop.some now < Lease.lapse (Hold.lease { head with units := head.units - units }) :=
            hlive
          rw [Lease.live_cons_of_not_lt hlive, Lease.live_cons_of_not_lt hsmaller]
      · refine (ih _).trans (Lease.total_mono (Lease.live_mono now ?_))
        exact Multiset.le_cons_self _ _

section Backed

open Lease

variable {ledger : CapacityLedger} {now : Nat} {window window' : Window} {units expiry : Nat}
  {capacity : Nat} {promised : Multiset (Lease Nat Nat)}

theorem tryReserve_holds_of_ne (hne : window' ≠ window) :
    (ledger.tryReserve (some now) (some now) window units).2.holds window' = ledger.holds window' := by
  rw [CapacityLedger.tryReserve]
  split_ifs
  · exact CapacityLedger.setHolds_holds_of_ne ledger _ hne
  · rw [CapacityLedger.setHolds_holds_of_ne _ _ hne]
    exact CapacityLedger.setHolds_holds_of_ne ledger _ hne

theorem holdUntil_holds_of_ne (hne : window' ≠ window) :
    (ledger.holdUntil (some now) window units expiry).holds window' = ledger.holds window' := by
  rw [CapacityLedger.holdUntil, CapacityLedger.setHolds_holds_of_ne _ _ hne]
  exact CapacityLedger.setHolds_holds_of_ne ledger _ hne

theorem release_holds_of_ne (hne : window' ≠ window) :
    (ledger.release (some now) window units).holds window' = ledger.holds window' := by
  rw [CapacityLedger.release, CapacityLedger.setHolds_holds_of_ne _ _ hne]
  exact CapacityLedger.setHolds_holds_of_ne ledger _ hne

theorem tryReserve_capacity :
    (ledger.tryReserve (some now) (some now) window units).2.capacity = ledger.capacity := by
  rw [CapacityLedger.tryReserve]
  split_ifs <;> rfl

/-- Sweeping changes nothing that a promise can see. -/
theorem backed_sweepHolds {holds : List Hold} (h : Backed now capacity (leases holds) promised) :
    Backed now capacity (leases (sweepHolds (some now) holds)) promised :=
  h.congr (live_sweepHolds now holds)

theorem backed_tryReserve
    (h : Backed now ledger.capacity (leases (ledger.holds window)) promised)
    (hroom : (units : Int) ≤ ledger.available (some now) window →
      units + (total (expiring now promised) : Nat) ≤ ledger.available (some now) window) :
    Backed now ledger.capacity
      (leases ((ledger.tryReserve (some now) (some now) window units).2.holds window)) promised := by
  rw [CapacityLedger.tryReserve]
  split_ifs with hfull
  · rw [CapacityLedger.sweep_holds_self]
    exact backed_sweepHolds h
  · have hfits := hroom (not_lt.mp hfull)
    rw [CapacityLedger.available, reserved_eq_total] at hfits
    rw [CapacityLedger.setHolds_holds_self, CapacityLedger.sweep_holds_self, leases_append, add_comm,
      leases_cons, leases_nil, Multiset.cons_add, zero_add]
    refine (backed_sweepHolds h).reserve _ ?_
    rw [live_sweepHolds]
    change units + _ ≤ _
    omega

theorem backed_holdUntil {hold : Hold} {rest : List Hold}
    (h : Backed now capacity (leases (ledger.holds window)) promised)
    (hfound : withoutFirst units (sweepHolds (some now) (ledger.holds window)).reverse = some (hold, rest))
    (hspare : live now promised ≤ live now (leases rest)) :
    Backed now capacity (leases ((ledger.holdUntil (some now) window units expiry).holds window))
      (⟨units, WithTop.some expiry⟩ ::ₘ promised) := by
  obtain ⟨hunits, hmem, hbefore, hafter⟩ := leases_restampFirst hfound expiry
  have hlive : WithTop.some now < hold.lease.lapse :=
    (keeps_iff now hold).mp (List.of_mem_filter (List.mem_reverse.mp hmem))
  have hswept := backed_sweepHolds h
  rw [← leases_reverse, hbefore] at hswept
  have hpromised := hswept.promise hlive hspare (WithTop.some expiry)
  have hlease : hold.lease.units = units := hunits
  rw [CapacityLedger.holdUntil, CapacityLedger.setHolds_holds_self, CapacityLedger.sweep_holds_self,
    leases_reverse, hafter]
  rw [hlease] at hpromised
  exact hpromised

theorem backed_release
    (h : Backed now capacity (leases (ledger.holds window)) promised)
    (hspare : live now promised ≤
      live now (leases (untouchedBy (sweepHolds (some now) (ledger.holds window)) units))) :
    Backed now capacity (leases ((ledger.release (some now) window units).holds window)) promised := by
  rw [CapacityLedger.release, CapacityLedger.setHolds_holds_self, CapacityLedger.sweep_holds_self]
  refine (backed_sweepHolds h).withdraw ?_ ?_
  · exact hspare.trans (live_mono now (leases_untouchedBy_le _ _))
  · exact total_live_releaseHolds_le now _ _

end Backed

end A2AProvisioning.Ledger
