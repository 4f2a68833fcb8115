import Mathlib.Data.List.Basic

/-! Base64: three bytes as four characters, with padding, and the lenient reader of Python's `base64`. What
is written is read back. -/

namespace Base64

def alphabet : List Char := "ABCDEFGHIJKLMNOPQRSTUVWXYZabcdefghijklmnopqrstuvwxyz0123456789+/".toList

/-- The character of six bits. -/
def sextet (n : Nat) : Char := alphabet.getD n 'A'

def index (c : Char) : Option Nat := if c ∈ alphabet then some (alphabet.idxOf c) else none

/-- RFC 4648, with padding. -/
def encode : List UInt8 → List Char
  | [] => []
  | [a] => [sextet (a.toNat / 4), sextet (a.toNat % 4 * 16), '=', '=']
  | [a, b] =>
      [sextet (a.toNat / 4), sextet (a.toNat % 4 * 16 + b.toNat / 16), sextet (b.toNat % 16 * 4), '=']
  | a :: b :: c :: rest =>
      sextet (a.toNat / 4) :: sextet (a.toNat % 4 * 16 + b.toNat / 16) ::
        sextet (b.toNat % 16 * 4 + c.toNat / 64) :: sextet (c.toNat % 64) :: encode rest

/-- The loop of `a2b_base64`: the position in the group of four, the bits left over, the padding seen. A
character outside the alphabet is passed over, and so is padding that comes too early. -/
def scan (quad left pads : Nat) : List Char → Option (List UInt8)
  | [] => if quad = 0 then some [] else none
  | c :: rest =>
      if c = '=' then
        if 2 ≤ quad then
          if 4 ≤ quad + (pads + 1) then some [] else scan quad left (pads + 1) rest
        else scan quad left pads rest
      else match index c with
        | none => scan quad left pads rest
        | some bits =>
            match quad with
            | 0 => scan 1 bits 0 rest
            | 1 => (scan 2 (bits % 16) 0 rest).map (UInt8.ofNat (left * 4 + bits / 16) :: ·)
            | 2 => (scan 3 (bits % 4) 0 rest).map (UInt8.ofNat (left * 16 + bits / 4) :: ·)
            | _ => (scan 0 0 0 rest).map (UInt8.ofNat (left * 64 + bits) :: ·)

/-- `base64.b64decode` on a string; `none` where it raises. -/
def decode (cs : List Char) : Option (List UInt8) :=
  if cs.all fun c => c.toNat < 128 then scan 0 0 0 cs else none

theorem sextet_spec : ∀ n < 64, index (sextet n) = some n ∧ sextet n ≠ '=' ∧ (sextet n).toNat < 128 := by decide

section Scan

variable {n left pads : Nat} {rest : List Char}

theorem scan_sextet (hn : n < 64) (quad : Nat) : scan quad left pads (sextet n :: rest) =
    match quad with
    | 0 => scan 1 n 0 rest
    | 1 => (scan 2 (n % 16) 0 rest).map (UInt8.ofNat (left * 4 + n / 16) :: ·)
    | 2 => (scan 3 (n % 4) 0 rest).map (UInt8.ofNat (left * 16 + n / 4) :: ·)
    | _ => (scan 0 0 0 rest).map (UInt8.ofNat (left * 64 + n) :: ·) := by
  obtain ⟨hindex, hpad, -⟩ := sextet_spec n hn
  rw [scan, if_neg hpad, hindex]

theorem scan_first (hn : n < 64) : scan 0 left pads (sextet n :: rest) = scan 1 n 0 rest := scan_sextet hn 0

theorem scan_second (hn : n < 64) {byte : UInt8} (hbyte : left * 4 + n / 16 = byte.toNat) :
    scan 1 left pads (sextet n :: rest) = (scan 2 (n % 16) 0 rest).map (byte :: ·) := by
  rw [scan_sextet hn 1, hbyte, UInt8.ofNat_toNat]
  rfl

theorem scan_third (hn : n < 64) {byte : UInt8} (hbyte : left * 16 + n / 4 = byte.toNat) :
    scan 2 left pads (sextet n :: rest) = (scan 3 (n % 4) 0 rest).map (byte :: ·) := by
  rw [scan_sextet hn 2, hbyte, UInt8.ofNat_toNat]
  rfl

theorem scan_fourth (hn : n < 64) {byte : UInt8} (hbyte : left * 64 + n = byte.toNat) :
    scan 3 left pads (sextet n :: rest) = (scan 0 0 0 rest).map (byte :: ·) := by
  rw [scan_sextet hn 3, hbyte, UInt8.ofNat_toNat]
  rfl

/-- A group of two characters and padding. -/
theorem scan_one (a : UInt8) : scan 0 left pads [sextet (a.toNat / 4), sextet (a.toNat % 4 * 16), '=', '='] =
    some [a] := by
  have ha := a.toNat_lt
  have hbyte : a.toNat / 4 * 4 + a.toNat % 4 * 16 / 16 = a.toNat := by omega
  rw [scan_first (by omega), scan_second (by omega) hbyte]
  rfl

/-- A group of three characters and padding. -/
theorem scan_two (a b : UInt8) : scan 0 left pads
    [sextet (a.toNat / 4), sextet (a.toNat % 4 * 16 + b.toNat / 16), sextet (b.toNat % 16 * 4), '='] =
      some [a, b] := by
  have ha := a.toNat_lt
  have hb := b.toNat_lt
  have hfirst : a.toNat / 4 * 4 + (a.toNat % 4 * 16 + b.toNat / 16) / 16 = a.toNat := by omega
  have hsecond : (a.toNat % 4 * 16 + b.toNat / 16) % 16 * 16 + b.toNat % 16 * 4 / 4 = b.toNat := by omega
  rw [scan_first (by omega), scan_second (by omega) hfirst, scan_third (by omega) hsecond]
  rfl

/-- A whole group. -/
theorem scan_three (a b c : UInt8) : scan 0 left pads
    (sextet (a.toNat / 4) :: sextet (a.toNat % 4 * 16 + b.toNat / 16) :: sextet (b.toNat % 16 * 4 + c.toNat / 64) ::
      sextet (c.toNat % 64) :: rest) = (scan 0 0 0 rest).map ([a, b, c] ++ ·) := by
  have ha := a.toNat_lt
  have hb := b.toNat_lt
  have hc := c.toNat_lt
  have hfirst : a.toNat / 4 * 4 + (a.toNat % 4 * 16 + b.toNat / 16) / 16 = a.toNat := by omega
  have hsecond : (a.toNat % 4 * 16 + b.toNat / 16) % 16 * 16 + (b.toNat % 16 * 4 + c.toNat / 64) / 4 = b.toNat := by
    omega
  have hthird : (b.toNat % 16 * 4 + c.toNat / 64) % 4 * 64 + c.toNat % 64 = c.toNat := by omega
  rw [scan_first (by omega), scan_second (by omega) hfirst, scan_third (by omega) hsecond,
    scan_fourth (by omega) hthird, Option.map_map, Option.map_map]
  rfl

end Scan

theorem scan_encode (bytes : List UInt8) : scan 0 0 0 (encode bytes) = some bytes := by
  fun_induction encode bytes with
  | case1 => rfl
  | case2 a => exact scan_one a
  | case3 a b => exact scan_two a b
  | case4 a b c rest ih =>
      rw [scan_three, ih]
      rfl

theorem ascii_encode (bytes : List UInt8) : (encode bytes).all (fun c => c.toNat < 128) = true := by
  have hsextet : ∀ n, n < 64 → decide ((sextet n).toNat < 128) = true :=
    fun n hn => decide_eq_true (sextet_spec n hn).2.2
  fun_induction encode bytes with
  | case1 => rfl
  | case2 a =>
      have ha := a.toNat_lt
      simp only [List.all_cons, hsextet _ (show a.toNat / 4 < 64 by omega),
        hsextet _ (show a.toNat % 4 * 16 < 64 by omega)]
      rfl
  | case3 a b =>
      have ha := a.toNat_lt
      have hb := b.toNat_lt
      simp only [List.all_cons, hsextet _ (show a.toNat / 4 < 64 by omega),
        hsextet _ (show a.toNat % 4 * 16 + b.toNat / 16 < 64 by omega),
        hsextet _ (show b.toNat % 16 * 4 < 64 by omega)]
      rfl
  | case4 a b c rest ih =>
      have ha := a.toNat_lt
      have hb := b.toNat_lt
      have hc := c.toNat_lt
      simp only [List.all_cons, hsextet _ (show a.toNat / 4 < 64 by omega),
        hsextet _ (show a.toNat % 4 * 16 + b.toNat / 16 < 64 by omega),
        hsextet _ (show b.toNat % 16 * 4 + c.toNat / 64 < 64 by omega),
        hsextet _ (show c.toNat % 64 < 64 by omega), Bool.true_and]
      exact ih

/-- What is written is read back. -/
theorem decode_encode (bytes : List UInt8) : decode (encode bytes) = some bytes := by
  rw [decode, if_pos (ascii_encode bytes), scan_encode]

end Base64
