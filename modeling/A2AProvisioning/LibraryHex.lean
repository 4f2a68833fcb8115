import Mathlib.Data.List.Basic
import Mathlib.Tactic.Ring

/-! Hexadecimal, in either case, as Python reads and writes it: `int(s, 16)`, `bytes.fromhex` and the format
`064x`. What is read does not depend on the case, and nothing else is lost. -/

namespace Hex

def lowerDigits : List Char := ['0', '1', '2', '3', '4', '5', '6', '7', '8', '9', 'a', 'b', 'c', 'd', 'e', 'f']

def isDigit (c : Char) : Bool := lowerDigits.contains c.toLower

def digit (c : Char) : Nat := lowerDigits.idxOf c.toLower

/-- The number a string of digits stands for. -/
def valueOf (cs : List Char) : Nat := cs.foldl (fun n c => 16 * n + digit c) 0

/-- `int(s, 16)` on a string without sign, space or underscore; `none` where it raises. -/
def readInt (cs : List Char) : Option Nat := if cs ≠ [] ∧ cs.all isDigit then some (valueOf cs) else none

/-- `bytes.fromhex` passes over white space between two bytes. -/
def isSpace (c : Char) : Bool := [' ', '\t', '\n', '\r', '\x0b', '\x0c'].contains c

def byteOf (c d : Char) : UInt8 := UInt8.ofNat (16 * digit c + digit d)

/-- `bytes.fromhex`; `none` where it raises. -/
def fromHex : List Char → Option (List UInt8)
  | [] => some []
  | c :: rest =>
      if isSpace c then fromHex rest
      else match rest with
        | [] => none
        | d :: rest => if isDigit c && isDigit d then (fromHex rest).map (byteOf c d :: ·) else none

/-- The bytes of a string of digits, two by two. -/
def bytesOf : List Char → List UInt8
  | [] => []
  | [_] => []
  | c :: d :: rest => byteOf c d :: bytesOf rest

/-- The number a byte string stands for, most significant byte first. -/
def bigEndian (bytes : List UInt8) : Nat := bytes.foldl (fun n byte => 256 * n + byte.toNat) 0

/-- `format(n, "064x")` for the width 64: padded on the left, never cut. -/
def format (width n : Nat) : List Char :=
  List.replicate (width - (Nat.toDigits 16 n).length) '0' ++ Nat.toDigits 16 n

theorem digit_lt {c : Char} (hc : isDigit c = true) : digit c < 16 :=
  List.idxOf_lt_length_iff.mpr (List.contains_iff_mem.mp hc)

theorem toLower_eq_of_digit_eq {c d : Char} (hc : isDigit c = true) (hd : isDigit d = true)
    (h : digit c = digit d) : c.toLower = d.toLower := by
  have hget : lowerDigits[digit c]? = some c.toLower := List.getElem?_idxOf (List.contains_iff_mem.mp hc)
  have hget' : lowerDigits[digit d]? = some d.toLower := List.getElem?_idxOf (List.contains_iff_mem.mp hd)
  rw [h, hget'] at hget
  exact (Option.some.inj hget).symm

/-- Strings of one length that stand for one number differ in case at most. -/
theorem toLower_eq_of_valueOf_eq {cs cs' : List Char} (hlength : cs.length = cs'.length)
    (hcs : ∀ c ∈ cs, isDigit c = true) (hcs' : ∀ c ∈ cs', isDigit c = true) (h : valueOf cs = valueOf cs') :
    cs.map Char.toLower = cs'.map Char.toLower := by
  have hgeneral : ∀ n n', cs.foldl (fun n c => 16 * n + digit c) n = cs'.foldl (fun n c => 16 * n + digit c) n' →
      n = n' ∧ cs.map Char.toLower = cs'.map Char.toLower := by
    clear h
    induction cs generalizing cs' with
    | nil =>
        rw [List.length_eq_zero_iff.mp hlength.symm]
        exact fun n n' h => ⟨h, rfl⟩
    | cons c cs ih =>
        cases cs' with
        | nil => cases hlength
        | cons c' cs' =>
            intro n n' h
            rw [List.foldl_cons, List.foldl_cons] at h
            obtain ⟨hhead, htail⟩ := ih (Nat.succ.inj hlength) (fun d hd => hcs d (List.mem_cons_of_mem _ hd))
              (fun d hd => hcs' d (List.mem_cons_of_mem _ hd)) _ _ h
            have hlt := digit_lt (hcs c List.mem_cons_self)
            have hlt' := digit_lt (hcs' c' List.mem_cons_self)
            have hdigit : digit c = digit c' := by omega
            rw [List.map_cons, List.map_cons, htail, toLower_eq_of_digit_eq (hcs c List.mem_cons_self)
              (hcs' c' List.mem_cons_self) hdigit]
            exact ⟨by omega, rfl⟩
  exact (hgeneral 0 0 h).2

theorem valueOf_append (cs cs' : List Char) : valueOf (cs ++ cs') = 16 ^ cs'.length * valueOf cs + valueOf cs' := by
  have hgeneral : ∀ n, cs'.foldl (fun n c => 16 * n + digit c) n = 16 ^ cs'.length * n + valueOf cs' := by
    induction cs' with
    | nil =>
        intro n
        rw [List.length_nil, pow_zero, one_mul]
        rfl
    | cons c cs' ih =>
        intro n
        have hvalue : valueOf (c :: cs') = 16 ^ cs'.length * (16 * 0 + digit c) + valueOf cs' := ih _
        rw [List.foldl_cons, ih, hvalue, List.length_cons, pow_succ]
        ring
  rw [valueOf, List.foldl_append, hgeneral]
  rfl

theorem valueOf_lt {cs : List Char} (hcs : ∀ c ∈ cs, isDigit c = true) : valueOf cs < 16 ^ cs.length := by
  induction cs with
  | nil => exact Nat.one_pos
  | cons c cs ih =>
      have hrest := ih fun d hd => hcs d (List.mem_cons_of_mem _ hd)
      have hdigit := digit_lt (hcs c List.mem_cons_self)
      have hvalue : valueOf (c :: cs) = 16 ^ cs.length * digit c + valueOf cs := by
        rw [← List.singleton_append, valueOf_append, valueOf, List.foldl_cons, List.foldl_nil, Nat.mul_zero, Nat.zero_add]
      calc
        valueOf (c :: cs) < 16 ^ cs.length * digit c + 16 ^ cs.length := by omega
        _ = 16 ^ cs.length * (digit c + 1) := by ring
        _ ≤ 16 ^ cs.length * 16 := Nat.mul_le_mul_left _ hdigit
        _ = 16 ^ (c :: cs).length := by rw [List.length_cons, pow_succ]

theorem not_isSpace_of_isDigit {c : Char} (hc : isDigit c = true) : isSpace c = false := by
  by_contra hspace
  rw [Bool.not_eq_false, isSpace, List.contains_iff_mem] at hspace
  revert hc
  simp only [List.mem_cons, List.not_mem_nil, or_false] at hspace
  rcases hspace with rfl | rfl | rfl | rfl | rfl | rfl <;> decide

theorem bytesOf_length (cs : List Char) : (bytesOf cs).length = cs.length / 2 := by
  fun_induction bytesOf cs with
  | case1 => rfl
  | case2 c => simp
  | case3 c d rest ih =>
      rw [List.length_cons, ih, List.length_cons, List.length_cons]
      omega

/-- An even number of digits reads as a byte string. -/
theorem fromHex_eq {cs : List Char} (hcs : ∀ c ∈ cs, isDigit c = true) (heven : cs.length % 2 = 0) :
    fromHex cs = some (bytesOf cs) := by
  fun_induction bytesOf cs with
  | case1 => rfl
  | case2 c => cases heven
  | case3 c d rest ih =>
      have hc := hcs c List.mem_cons_self
      have hd := hcs d (List.mem_cons_of_mem _ List.mem_cons_self)
      have hlength : rest.length % 2 = 0 := by
        rw [List.length_cons, List.length_cons] at heven
        omega
      rw [fromHex, not_isSpace_of_isDigit hc, if_neg Bool.false_ne_true, hc, hd, Bool.and_self, if_pos rfl,
        ih (fun e he => hcs e (List.mem_cons_of_mem _ (List.mem_cons_of_mem _ he))) hlength]
      rfl

theorem byteOf_toNat {c d : Char} (hc : isDigit c = true) (hd : isDigit d = true) :
    (byteOf c d).toNat = 16 * digit c + digit d := by
  have hc' := digit_lt hc
  have hd' := digit_lt hd
  rw [byteOf, UInt8.toNat_ofNat']
  exact Nat.mod_eq_of_lt (by omega)

theorem bigEndian_bytesOf {cs : List Char} (hcs : ∀ c ∈ cs, isDigit c = true) (heven : cs.length % 2 = 0) :
    bigEndian (bytesOf cs) = valueOf cs := by
  have hgeneral : ∀ n, (bytesOf cs).foldl (fun n byte => 256 * n + byte.toNat) n =
      cs.foldl (fun n c => 16 * n + digit c) n := by
    fun_induction bytesOf cs with
    | case1 => exact fun n => rfl
    | case2 c => cases heven
    | case3 c d rest ih =>
        intro n
        have hlength : rest.length % 2 = 0 := by
          rw [List.length_cons, List.length_cons] at heven
          omega
        rw [List.foldl_cons, List.foldl_cons, List.foldl_cons, byteOf_toNat (hcs c List.mem_cons_self)
          (hcs d (List.mem_cons_of_mem _ List.mem_cons_self)),
          ih (fun e he => hcs e (List.mem_cons_of_mem _ (List.mem_cons_of_mem _ he))) hlength]
        congr 1
        ring
  exact hgeneral 0

/-- Strings of digits that read as the same bytes differ in case at most. -/
theorem toLower_eq_of_bytesOf_eq {cs cs' : List Char} (hcs : ∀ c ∈ cs, isDigit c = true)
    (hcs' : ∀ c ∈ cs', isDigit c = true) (heven : cs.length % 2 = 0) (heven' : cs'.length % 2 = 0)
    (h : bytesOf cs = bytesOf cs') : cs.map Char.toLower = cs'.map Char.toLower := by
  have hlength : cs.length = cs'.length := by
    have hlengths := congrArg List.length h
    rw [bytesOf_length, bytesOf_length] at hlengths
    omega
  apply toLower_eq_of_valueOf_eq hlength hcs hcs'
  rw [← bigEndian_bytesOf hcs heven, ← bigEndian_bytesOf hcs' heven', h]

theorem digit_digitChar : ∀ d < 16, isDigit (Nat.digitChar d) = true ∧ digit (Nat.digitChar d) = d := by decide

theorem toDigits_spec (n : Nat) :
    (∀ c ∈ Nat.toDigits 16 n, isDigit c = true) ∧ valueOf (Nat.toDigits 16 n) = n := by
  induction n using Nat.strong_induction_on with
  | _ n ih =>
      by_cases hn : n < 16
      · obtain ⟨hdigit, hvalue⟩ := digit_digitChar n hn
        rw [Nat.toDigits_of_lt_base hn]
        refine ⟨fun c hc => ?_, ?_⟩
        · rw [List.mem_singleton.mp hc]
          exact hdigit
        · rw [valueOf, List.foldl_cons, List.foldl_nil, hvalue, Nat.mul_zero, Nat.zero_add]
      · obtain ⟨hdigits, hvalue⟩ := ih (n / 16) (by omega)
        obtain ⟨hdigit, hlast⟩ := digit_digitChar (n % 16) (by omega)
        rw [Nat.toDigits_of_base_le (by omega) (not_lt.mp hn)]
        refine ⟨fun c hc => ?_, ?_⟩
        · rcases List.mem_append.mp hc with hc | hc
          · exact hdigits c hc
          · rw [List.mem_singleton.mp hc]
            exact hdigit
        · have hone : valueOf [Nat.digitChar (n % 16)] = n % 16 := by
            rw [valueOf, List.foldl_cons, List.foldl_nil, hlast, Nat.mul_zero, Nat.zero_add]
          rw [valueOf_append, hvalue, hone, List.length_singleton, pow_one]
          omega

theorem valueOf_replicate_zero (k : Nat) : valueOf (List.replicate k '0') = 0 := by
  induction k with
  | zero => rfl
  | succ k ih =>
      rw [List.replicate_succ', valueOf_append, ih, Nat.mul_zero, Nat.zero_add]
      decide

theorem isDigit_format {width n : Nat} {c : Char} (hc : c ∈ format width n) : isDigit c = true := by
  rcases List.mem_append.mp hc with hc | hc
  · rw [List.eq_of_mem_replicate hc]
    decide
  · exact (toDigits_spec n).1 c hc

theorem valueOf_format (width n : Nat) : valueOf (format width n) = n := by
  rw [format, valueOf_append, valueOf_replicate_zero, Nat.mul_zero, Nat.zero_add, (toDigits_spec n).2]

theorem format_length {width n : Nat} (hwidth : 0 < width) (hn : n < 16 ^ width) : (format width n).length = width := by
  have hlength := (Nat.length_toDigits_le_iff (by omega) hwidth).mpr hn
  rw [format, List.length_append, List.length_replicate]
  omega

theorem bigEndian_cons (byte : UInt8) (bytes : List UInt8) :
    bigEndian (byte :: bytes) = 256 ^ bytes.length * byte.toNat + bigEndian bytes := by
  have hgeneral : ∀ n, bytes.foldl (fun n byte => 256 * n + byte.toNat) n = 256 ^ bytes.length * n + bigEndian bytes := by
    induction bytes with
    | nil =>
        intro n
        rw [List.length_nil, pow_zero, one_mul]
        rfl
    | cons byte bytes ih =>
        intro n
        have hvalue : bigEndian (byte :: bytes) = 256 ^ bytes.length * (256 * 0 + byte.toNat) + bigEndian bytes := ih _
        rw [List.foldl_cons, ih, hvalue, List.length_cons, pow_succ]
        ring
  rw [bigEndian, List.foldl_cons, hgeneral, Nat.mul_zero, Nat.zero_add]

theorem bigEndian_lt (bytes : List UInt8) : bigEndian bytes < 256 ^ bytes.length := by
  induction bytes with
  | nil => exact Nat.one_pos
  | cons byte bytes ih =>
      have hbyte := byte.toNat_lt
      calc
        bigEndian (byte :: bytes) < 256 ^ bytes.length * byte.toNat + 256 ^ bytes.length := by
          rw [bigEndian_cons]
          omega
        _ = 256 ^ bytes.length * (byte.toNat + 1) := by ring
        _ ≤ 256 ^ bytes.length * 256 := Nat.mul_le_mul_left _ hbyte
        _ = 256 ^ (byte :: bytes).length := by rw [List.length_cons, pow_succ]

/-- Byte strings of one length are told apart by their numbers. -/
theorem bigEndian_injective {bytes bytes' : List UInt8} (hlength : bytes.length = bytes'.length)
    (h : bigEndian bytes = bigEndian bytes') : bytes = bytes' := by
  induction bytes generalizing bytes' with
  | nil => exact (List.length_eq_zero_iff.mp hlength.symm).symm
  | cons byte bytes ih =>
      cases bytes' with
      | nil => cases hlength
      | cons byte' bytes' =>
          have hlength' : bytes.length = bytes'.length := Nat.succ.inj hlength
          have hlt := bigEndian_lt bytes
          have hlt' := bigEndian_lt bytes'
          rw [bigEndian_cons, bigEndian_cons, hlength'] at h
          rw [hlength'] at hlt
          have hpos : 0 < 256 ^ bytes'.length := Nat.pow_pos (by omega)
          have hhead : byte.toNat = byte'.toNat := by
            have hdiv := congrArg (· / 256 ^ bytes'.length) h
            simpa only [Nat.mul_add_div hpos, Nat.div_eq_of_lt hlt, Nat.div_eq_of_lt hlt', Nat.add_zero] using hdiv
          rw [hhead] at h
          rw [UInt8.toNat_inj.mp hhead, ih hlength' (Nat.add_left_cancel h)]

/-- The last bytes of a number, most significant byte first. -/
def lastBytes (count n : Nat) : List UInt8 :=
  (List.range count).map fun i => UInt8.ofNat (n >>> (8 * (count - 1 - i)))

theorem bigEndian_lastBytes (count n : Nat) : bigEndian (lastBytes count n) = n % 256 ^ count := by
  induction count with
  | zero => rw [pow_zero, Nat.mod_one]; rfl
  | succ count ih =>
      have hcons : lastBytes (count + 1) n = UInt8.ofNat (n >>> (8 * count)) :: lastBytes count n := by
        rw [lastBytes, List.range_succ_eq_map, List.map_cons, List.map_map]
        congr 1
        refine List.map_congr_left fun i _ => ?_
        have hindex : count + 1 - 1 - (i + 1) = count - 1 - i := by omega
        rw [Function.comp_apply, Nat.succ_eq_add_one, hindex]
      have hbyte : (UInt8.ofNat (n >>> (8 * count))).toNat = n / 256 ^ count % 256 := by
        rw [UInt8.toNat_ofNat', Nat.shiftRight_eq_div_pow, pow_mul]
        rfl
      have hlength : (lastBytes count n).length = count := by
        rw [lastBytes, List.length_map, List.length_range]
      calc
        bigEndian (lastBytes (count + 1) n) = 256 ^ count * (n / 256 ^ count % 256) + n % 256 ^ count := by
          rw [hcons, bigEndian_cons, ih, hlength, hbyte]
        _ = n % 256 ^ (count + 1) := by rw [Nat.mod_pow_succ, Nat.add_comm]

/-- A formatted number reads as its bytes. -/
theorem bytesOf_format {count n : Nat} (hcount : 0 < count) (hn : n < 256 ^ count) :
    bytesOf (format (2 * count) n) = lastBytes count n := by
  have hn' : n < 16 ^ (2 * count) := by
    rw [pow_mul]
    exact hn
  have hlength := format_length (by omega) hn'
  apply bigEndian_injective
  · rw [bytesOf_length, hlength, lastBytes, List.length_map, List.length_range]
    omega
  · rw [bigEndian_bytesOf (fun _ => isDigit_format) (by omega), valueOf_format, bigEndian_lastBytes,
      Nat.mod_eq_of_lt hn]

theorem bytesOf_append {cs : List Char} (heven : cs.length % 2 = 0) (cs' : List Char) :
    bytesOf (cs ++ cs') = bytesOf cs ++ bytesOf cs' := by
  fun_induction bytesOf cs with
  | case1 => rfl
  | case2 c => cases heven
  | case3 c d rest ih =>
      rw [List.length_cons, List.length_cons] at heven
      rw [List.cons_append, List.cons_append, bytesOf, ih (by omega), List.cons_append]

end Hex
