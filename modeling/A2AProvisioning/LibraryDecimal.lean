import Mathlib.Algebra.Order.Group.Nat
import Mathlib.Data.List.Basic

/-! Decimal numerals as Python reads them, and at the end of a string. A numeral has digits only, so a
string that ends in one, right after a character that is no digit, determines the number. -/

namespace Decimal

/-- `int` refuses a longer string of digits, leading zeros counted. -/
def maxStrDigits : Nat := 4300

def valueOf (cs : List Char) : Nat := Nat.ofDigitChars 10 cs 0

/-- `int(s)` on a string of digits; `none` where it raises. -/
def readInt (cs : List Char) : Option Nat := if cs.length ≤ maxStrDigits then some (valueOf cs) else none

/-- A number that fits a word has few enough digits for `str` and `int`. -/
theorem digits_le {n : Nat} (h : n < 2 ^ 256) : (Nat.toDigits 10 n).length ≤ maxStrDigits := by
  have hshort : (Nat.toDigits 10 n).length ≤ 78 := by
    apply (Nat.length_toDigits_le_iff (by decide) (by decide)).mpr
    calc
      n < 2 ^ 256 := h
      _ ≤ 10 ^ 78 := by decide
  exact Nat.le_trans hshort (by decide)

theorem isDigit_of_mem_toString {n : Nat} {c : Char} (hmem : c ∈ (toString n).toList) : c.isDigit = true := by
  rw [Nat.toString_eq_repr, Nat.toList_repr] at hmem
  exact Nat.isDigit_of_mem_toDigits (by decide) (by decide) hmem

theorem toString_injective {n m : Nat} (h : (toString n).toList = (toString m).toList) : n = m := by
  rw [Nat.toString_eq_repr, Nat.toString_eq_repr, Nat.toList_repr, Nat.toList_repr] at h
  rw [← @Nat.ofDigitChars_ten_toDigits n, h, Nat.ofDigitChars_ten_toDigits]

theorem toString_ne_nil (n : Nat) : (toString n).toList ≠ [] := by
  rw [Nat.toString_eq_repr, Nat.toList_repr]
  exact Nat.toDigits_ne_nil

theorem valueOf_toString (n : Nat) : valueOf (toString n).toList = n := by
  rw [valueOf, Nat.toString_eq_repr, Nat.toList_repr, Nat.ofDigitChars_ten_toDigits]

theorem ne_of_isDigit {c d : Char} (hd : d.isDigit = true) (hc : c.isDigit = false) : d ≠ c := by
  rintro rfl
  rw [hc] at hd
  exact Bool.noConfusion hd

/-- The longest run of digits at the end. -/
def digitSuffix (cs : List Char) : List Char := (cs.reverse.takeWhile Char.isDigit).reverse

theorem digitSuffix_append {cs digits : List Char} {c : Char} (hc : c.isDigit = false)
    (hdigits : ∀ d ∈ digits, d.isDigit = true) : digitSuffix (cs ++ c :: digits) = digits := by
  have hreverse : (cs ++ c :: digits).reverse = digits.reverse ++ c :: cs.reverse := by
    rw [List.reverse_append, List.reverse_cons, List.append_assoc, List.singleton_append]
  have hall : ∀ d ∈ digits.reverse, d.isDigit = true := fun d hmem => hdigits d (List.mem_reverse.mp hmem)
  have hstop : ¬ c.isDigit = true := by rw [hc]; exact Bool.false_ne_true
  rw [digitSuffix, hreverse, List.takeWhile_append_of_pos hall, List.takeWhile_cons_of_neg hstop,
    List.append_nil, List.reverse_reverse]

/-- A numeral behind a character that is no digit can be read back. -/
theorem append_toString_injective {s s' : List Char} {c : Char} (hc : c.isDigit = false) {n m : Nat}
    (h : s ++ c :: (toString n).toList = s' ++ c :: (toString m).toList) : n = m := by
  have hsuffix := congrArg digitSuffix h
  rw [digitSuffix_append hc fun _ => isDigit_of_mem_toString,
    digitSuffix_append hc fun _ => isDigit_of_mem_toString] at hsuffix
  exact toString_injective hsuffix

/-- A positive number has no leading zero. -/
theorem head?_toString {n : Nat} (hn : 0 < n) : (toString n).toList.head? ≠ some '0' := by
  rw [Nat.toString_eq_repr, Nat.toList_repr]
  induction n using Nat.strongRecOn with
  | _ n ih =>
      by_cases hlt : n < 10
      · have hdigit : ∀ d < 10, 0 < d → Nat.digitChar d ≠ '0' := by decide
        rw [Nat.toDigits_of_lt_base hlt, List.head?_cons]
        exact fun h => hdigit n hlt hn (Option.some.inj h)
      · rw [Nat.toDigits_of_base_le (by decide) (Nat.not_lt.mp hlt), List.head?_append_of_ne_nil _ Nat.toDigits_ne_nil]
        exact ih (n / 10) (by omega) (by omega)

theorem intToString_eq (n : Int) :
    (toString n).toList = if 0 ≤ n then (toString n.natAbs).toList else '-' :: (toString n.natAbs).toList := by
  cases n with
  | ofNat n =>
      have hpos : 0 ≤ Int.ofNat n := Int.natCast_nonneg n
      rw [if_pos hpos]
      rfl
  | negSucc n =>
      have hneg : ¬ 0 ≤ Int.negSucc n := Int.not_le.mpr (Int.negSucc_lt_zero n)
      rw [if_neg hneg]
      show ("-" ++ (n + 1).repr).toList = '-' :: ((n + 1).repr).toList
      rw [String.toList_append]
      rfl

theorem not_mem_intToString {c : Char} (hc : c.isDigit = false) (hminus : c ≠ '-') (n : Int) :
    c ∉ (toString n).toList := by
  have hdigits : c ∉ (toString n.natAbs).toList :=
    fun hmem => ne_of_isDigit (isDigit_of_mem_toString hmem) hc rfl
  rw [intToString_eq]
  split
  · exact hdigits
  · intro hmem
    cases List.mem_cons.mp hmem with
    | inl hhead => exact hminus hhead
    | inr htail => exact hdigits htail

theorem intToString_injective {n m : Int} (h : (toString n).toList = (toString m).toList) : n = m := by
  have hminus : ∀ k : Nat, '-' ∉ (toString k).toList :=
    fun k hmem => ne_of_isDigit (isDigit_of_mem_toString hmem) rfl rfl
  rw [intToString_eq, intToString_eq] at h
  split at h
  · split at h
    · have := toString_injective h
      omega
    · exact absurd (h ▸ List.mem_cons_self) (hminus n.natAbs)
  · split at h
    · exact absurd (h ▸ List.mem_cons_self) (hminus m.natAbs)
    · have := toString_injective (List.cons.inj h).2
      omega

end Decimal
