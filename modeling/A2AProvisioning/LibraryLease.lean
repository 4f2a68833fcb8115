import Mathlib.Algebra.BigOperators.Group.Multiset.Basic
import Mathlib.Algebra.Order.BigOperators.Group.Multiset
import Mathlib.Algebra.Order.Group.Multiset
import Mathlib.Order.WithBot

/-! Leases on a common stock. A lease is an amount and the time it lapses, `⊤` for never. A stock of
leases backs a collection of promises when every promise that is not yet in its last instant has a
lease of its own in the stock, and the stock together with the promises in their last instant stays
within the capacity. The rules below say which moves keep the promises backed: letting time pass,
reserving, turning a spare lease into a promise, and handing spare leases back. -/

/-- An amount held until a time. -/
structure Lease (U T : Type) where
  units : U
  lapse : WithTop T

namespace Lease

set_option linter.unusedSectionVars false

variable {U T : Type} [LinearOrder T]

def live (now : T) (leases : Multiset (Lease U T)) : Multiset (Lease U T) :=
  leases.filter fun lease => (now : WithTop T) < lease.lapse

def expiring (now : T) (leases : Multiset (Lease U T)) : Multiset (Lease U T) :=
  leases.filter fun lease => lease.lapse = (now : WithTop T)

def total [AddCommMonoid U] (leases : Multiset (Lease U T)) : U := (leases.map Lease.units).sum

theorem live_mono (now : T) {leases leases' : Multiset (Lease U T)} (hle : leases ≤ leases') :
    live now leases ≤ live now leases' :=
  Multiset.filter_le_filter _ hle

theorem live_add (now : T) (leases leases' : Multiset (Lease U T)) :
    live now (leases + leases') = live now leases + live now leases' := Multiset.filter_add _ _ _

/-- What is live later was live before. -/
theorem live_live {now later : T} (hle : now ≤ later) (leases : Multiset (Lease U T)) :
    live later (live now leases) = live later leases := by
  rw [live, live, Multiset.filter_filter]
  refine Multiset.filter_congr fun lease _ => ⟨fun h => h.1, fun h => ⟨h, ?_⟩⟩
  exact lt_of_le_of_lt (WithTop.coe_le_coe.mpr hle) h

/-- What lapses later was live before. -/
theorem expiring_live {now later : T} (hlt : now < later) (leases : Multiset (Lease U T)) :
    expiring later (live now leases) = expiring later leases := by
  rw [expiring, live, expiring, Multiset.filter_filter]
  refine Multiset.filter_congr fun lease _ => ⟨fun h => h.1, fun h => ⟨h, ?_⟩⟩
  rw [h]
  exact WithTop.coe_lt_coe.mpr hlt

theorem live_cons_of_lt {now : T} {lease : Lease U T} (h : (now : WithTop T) < lease.lapse)
    (leases : Multiset (Lease U T)) : live now (lease ::ₘ leases) = lease ::ₘ live now leases :=
  Multiset.filter_cons_of_pos _ h

theorem live_cons_of_not_lt {now : T} {lease : Lease U T} (h : ¬ (now : WithTop T) < lease.lapse)
    (leases : Multiset (Lease U T)) : live now (lease ::ₘ leases) = live now leases :=
  Multiset.filter_cons_of_neg _ h

theorem expiring_cons_of_eq {now : T} {lease : Lease U T} (h : lease.lapse = (now : WithTop T))
    (leases : Multiset (Lease U T)) : expiring now (lease ::ₘ leases) = lease ::ₘ expiring now leases :=
  Multiset.filter_cons_of_pos _ h

theorem expiring_cons_of_ne {now : T} {lease : Lease U T} (h : lease.lapse ≠ (now : WithTop T))
    (leases : Multiset (Lease U T)) : expiring now (lease ::ₘ leases) = expiring now leases :=
  Multiset.filter_cons_of_neg _ h

/-- The leases that lapse at an instant and those that outlast it are different leases. -/
theorem live_add_expiring (now : T) (leases : Multiset (Lease U T)) :
    live now leases + expiring now leases = leases.filter fun lease => (now : WithTop T) ≤ lease.lapse := by
  have hboth : leases.filter (fun lease => (now : WithTop T) < lease.lapse ∧ lease.lapse = (now : WithTop T)) = 0 :=
    Multiset.filter_eq_nil.mpr fun lease _ h => (ne_of_gt h.1) h.2
  rw [live, expiring, Multiset.filter_add_filter, hboth, add_zero]
  exact Multiset.filter_congr fun lease _ => (or_congr_right eq_comm).trans le_iff_lt_or_eq.symm

section Total

variable [AddCommMonoid U]

@[simp] theorem total_zero : total (0 : Multiset (Lease U T)) = 0 := rfl

@[simp] theorem total_cons (lease : Lease U T) (leases : Multiset (Lease U T)) :
    total (lease ::ₘ leases) = lease.units + total leases := by
  simp [total]

@[simp] theorem total_add (leases leases' : Multiset (Lease U T)) :
    total (leases + leases') = total leases + total leases' := by
  simp only [total, Multiset.map_add, Multiset.sum_add]

variable [PartialOrder U] [CanonicallyOrderedAdd U]

theorem total_mono {leases leases' : Multiset (Lease U T)} (hle : leases ≤ leases') :
    total leases ≤ total leases' := by
  obtain ⟨rest, rfl⟩ := Multiset.le_iff_exists_add.mp hle
  rw [total_add]
  exact le_self_add

theorem total_live_add_expiring_le (now : T) (leases : Multiset (Lease U T)) :
    total (live now leases) + total (expiring now leases) ≤ total leases := by
  rw [← total_add, live_add_expiring]
  exact total_mono (Multiset.filter_le _ _)

end Total

/-! ### Backed promises -/

section Backed

variable [AddCommMonoid U] [PartialOrder U] [CanonicallyOrderedAdd U] [IsOrderedAddMonoid U]

/-- The stock backs the promises within the capacity. -/
structure Backed (now : T) (capacity : U) (stock promised : Multiset (Lease U T)) : Prop where
  covered : live now promised ≤ live now stock
  within : total (live now stock) + total (expiring now promised) ≤ capacity

variable {now later : T} {capacity : U} {stock stock' rest promised : Multiset (Lease U T)}

/-- The promises that are not yet past add up to no more than the capacity. -/
theorem Backed.total_le (h : Backed now capacity stock promised) :
    total (promised.filter fun lease => (now : WithTop T) ≤ lease.lapse) ≤ capacity := by
  rw [← live_add_expiring, total_add]
  exact (add_le_add_left (total_mono h.covered) _).trans h.within

theorem Backed.empty : Backed now capacity (0 : Multiset (Lease U T)) 0 :=
  ⟨le_rfl, by simp [live, expiring]⟩

/-- A lease and the promise it backs lapse together, the lease at the start of the instant in which
the promise still stands. -/
theorem Backed.advance (h : Backed now capacity stock promised) (hle : now ≤ later) :
    Backed later capacity stock promised := by
  rcases hle.eq_or_lt with rfl | hlt
  · exact h
  · refine ⟨?_, ?_⟩
    · rw [← live_live hle promised, ← live_live hle stock]
      exact live_mono later h.covered
    · have hexpiring : expiring later promised ≤ expiring later (live now stock) := by
        rw [← expiring_live hlt promised]
        exact Multiset.filter_le_filter _ h.covered
      calc
        total (live later stock) + total (expiring later promised)
          ≤ total (live later (live now stock)) + total (expiring later (live now stock)) := by
            rw [live_live hle]
            exact add_le_add_right (total_mono hexpiring) _
        _ ≤ total (live now stock) := total_live_add_expiring_le later _
        _ ≤ total (live now stock) + total (expiring now promised) := le_self_add
        _ ≤ capacity := h.within

/-- Only the live part of a stock matters. -/
theorem Backed.congr (h : Backed now capacity stock promised) (heq : live now stock' = live now stock) :
    Backed now capacity stock' promised :=
  ⟨heq ▸ h.covered, heq ▸ h.within⟩

theorem Backed.reserve (h : Backed now capacity stock promised) (lease : Lease U T)
    (hfits : lease.units + (total (live now stock) + total (expiring now promised)) ≤ capacity) :
    Backed now capacity (lease ::ₘ stock) promised := by
  by_cases hlive : (now : WithTop T) < lease.lapse
  · refine ⟨?_, ?_⟩
    · rw [live_cons_of_lt hlive]
      exact h.covered.trans (Multiset.le_cons_self _ _)
    · rw [live_cons_of_lt hlive, total_cons, add_assoc]
      exact hfits
  · exact h.congr (live_cons_of_not_lt hlive stock)

/-- Handing back leases that no promise needs. -/
theorem Backed.withdraw (h : Backed now capacity stock promised)
    (hcovered : live now promised ≤ live now rest)
    (htotal : total (live now rest) ≤ total (live now stock)) : Backed now capacity rest promised :=
  ⟨hcovered, (add_le_add_left htotal _).trans h.within⟩

/-- A live lease that no promise needs is restamped to back a new promise of the same amount. -/
theorem Backed.promise {lease : Lease U T} (h : Backed now capacity (lease ::ₘ rest) promised)
    (hlive : (now : WithTop T) < lease.lapse) (hspare : live now promised ≤ live now rest)
    (lapse : WithTop T) :
    Backed now capacity (⟨lease.units, lapse⟩ ::ₘ rest) (⟨lease.units, lapse⟩ ::ₘ promised) := by
  have hwithin := h.within
  rw [live_cons_of_lt hlive, total_cons] at hwithin
  have hrest : total (live now rest) + total (expiring now promised) ≤ capacity :=
    (add_le_add_left le_add_self _).trans hwithin
  rcases lt_trichotomy (now : WithTop T) lapse with hlt | heq | hgt
  · refine ⟨?_, ?_⟩
    · rw [live_cons_of_lt hlt, live_cons_of_lt hlt]
      exact Multiset.cons_le_cons _ hspare
    · rw [live_cons_of_lt hlt, expiring_cons_of_ne (ne_of_gt hlt), total_cons]
      exact hwithin
  · refine ⟨?_, ?_⟩
    · rw [live_cons_of_not_lt heq.not_lt, live_cons_of_not_lt heq.not_lt]
      exact hspare
    · rw [live_cons_of_not_lt heq.not_lt, expiring_cons_of_eq heq.symm, total_cons, ← add_assoc,
        add_comm (total _)]
      exact hwithin
  · refine ⟨?_, ?_⟩
    · rw [live_cons_of_not_lt hgt.not_gt, live_cons_of_not_lt hgt.not_gt]
      exact hspare
    · rw [live_cons_of_not_lt hgt.not_gt, expiring_cons_of_ne (ne_of_lt hgt)]
      exact hrest

end Backed

end Lease
