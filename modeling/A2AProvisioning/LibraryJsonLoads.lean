import A2AProvisioning.LibraryDecimal
import A2AProvisioning.LibraryDict
import A2AProvisioning.LibraryHex
import A2AProvisioning.LibraryJsonText
import A2AProvisioning.LibrarySchema

/-! Python's reader of JSON texts, and a compact writer that it reads back. A duplicate key keeps its place and
takes the last value; a lone surrogate, which is no character here, is refused. -/

namespace JsonLoads

open JsonText (quoted)

def isSpace (c : Char) : Bool := [' ', '\t', '\n', '\r'].contains c

def skip (cs : List Char) : List Char := cs.dropWhile isSpace

def backslash : Char → Option Char
  | '\x22' => some '\x22'
  | '\x5c' => some '\x5c'
  | '/' => some '/'
  | 'b' => some '\x08'
  | 'f' => some '\x0c'
  | 'n' => some '\n'
  | 'r' => some '\r'
  | 't' => some '\t'
  | _ => none

/-- Four hexadecimal digits. -/
def codeUnit (digits : List Char) : Option Nat := if digits.all Hex.isDigit then some (Hex.valueOf digits) else none

/-- What stands behind the opening quote, up to the closing one, and the rest. -/
def scanString : List Char → Option (List Char × List Char)
  | [] => none
  | '\x22' :: rest => some ([], rest)
  | '\x5c' :: 'u' :: a :: b :: c :: d :: rest =>
      match codeUnit [a, b, c, d] with
      | none => none
      | some high =>
          if 0xd800 ≤ high ∧ high < 0xdc00 then
            match rest with
            | '\x5c' :: 'u' :: a' :: b' :: c' :: d' :: rest =>
                match codeUnit [a', b', c', d'] with
                | none => none
                | some low =>
                    if 0xdc00 ≤ low ∧ low < 0xe000 then
                      (scanString rest).map fun found =>
                        (Char.ofNat (0x10000 + (high - 0xd800) * 0x400 + (low - 0xdc00)) :: found.1, found.2)
                    else none
            | _ => none
          else if 0xdc00 ≤ high ∧ high < 0xe000 then none
          else (scanString rest).map fun found => (Char.ofNat high :: found.1, found.2)
  | '\x5c' :: c :: rest =>
      (backslash c).bind fun plain => (scanString rest).map fun found => (plain :: found.1, found.2)
  | c :: rest => if c.toNat < 0x20 then none else (scanString rest).map fun found => (c :: found.1, found.2)

/-- A dot and digits, or nothing. -/
def fraction : List Char → List Char × List Char
  | '.' :: rest =>
      if rest.takeWhile Char.isDigit = [] then ([], '.' :: rest)
      else ('.' :: rest.takeWhile Char.isDigit, rest.dropWhile Char.isDigit)
  | cs => ([], cs)

/-- The mark of an exponent, a sign and digits, or nothing. -/
def exponent : List Char → List Char × List Char
  | [] => ([], [])
  | mark :: rest =>
      if mark = 'e' ∨ mark = 'E' then
        let sign := (rest.take 1).filter fun c => c = '+' ∨ c = '-'
        let digits := rest.drop sign.length
        if digits.takeWhile Char.isDigit = [] then ([], mark :: rest)
        else (mark :: sign ++ digits.takeWhile Char.isDigit, digits.dropWhile Char.isDigit)
      else ([], mark :: rest)

/-- The whole part: one zero, or digits that do not start with one. -/
def whole : List Char → List Char × List Char
  | '0' :: rest => (['0'], rest)
  | cs => (cs.takeWhile Char.isDigit, cs.dropWhile Char.isDigit)

def sign : List Char → List Char × List Char
  | '-' :: rest => (['-'], rest)
  | cs => ([], cs)

section Reader

variable {F : Type} (float : List Char → F)

/-- A number: an integer where neither a fraction nor an exponent follows. -/
def number (cs : List Char) : Option (Document F × List Char) :=
  let minus := sign cs
  let digits := whole minus.2
  let point := fraction digits.2
  let mark := exponent point.2
  if digits.1 = [] then none
  else if point.1 = [] ∧ mark.1 = [] then
    (Decimal.readInt digits.1).map fun n : Nat => (.int (if minus.1 = [] then (n : Int) else -n), mark.2)
  else some (.float (float (minus.1 ++ digits.1 ++ point.1 ++ mark.1)), mark.2)

def words : List (List Char × Document F) :=
  [("null".toList, .null), ("true".toList, .bool true), ("false".toList, .bool false),
    ("NaN".toList, .float (float "NaN".toList)), ("Infinity".toList, .float (float "Infinity".toList)),
    ("-Infinity".toList, .float (float "-Infinity".toList))]

def word (cs : List Char) : Option (Document F × List Char) :=
  (words float).findSome? fun entry =>
    if entry.1.isPrefixOf cs then some (entry.2, cs.drop entry.1.length) else none

mutual

/-- One value and the rest; every call takes at least one character. -/
def value : Nat → List Char → Option (Document F × List Char)
  | 0, _ => none
  | fuel + 1, cs =>
      match cs with
      | '\x22' :: rest => (scanString rest).map fun found => (.str (String.ofList found.1), found.2)
      | '{' :: rest =>
          match skip rest with
          | '}' :: rest => some (.obj [], rest)
          | rest => (members fuel [] rest).map fun found => (.obj found.1, found.2)
      | '[' :: rest =>
          match skip rest with
          | ']' :: rest => some (.arr [], rest)
          | rest => (items fuel rest).map fun found => (.arr found.1, found.2)
      | cs => (word float cs).or (number float cs)

/-- The members behind those already read, up to the closing brace. -/
def members : Nat → List (String × Document F) → List Char → Option (List (String × Document F) × List Char)
  | fuel + 1, before, '\x22' :: rest =>
      match scanString rest with
      | none => none
      | some (key, rest) =>
          match skip rest with
          | ':' :: rest =>
              match value fuel (skip rest) with
              | none => none
              | some (document, rest) =>
                  let read := OrderedDict.assign (String.ofList key) document before
                  match skip rest with
                  | '}' :: rest => some (read, rest)
                  | ',' :: rest => members fuel read (skip rest)
                  | _ => none
          | _ => none
  | _, _, _ => none

/-- The items up to the closing bracket. -/
def items : Nat → List Char → Option (List (Document F) × List Char)
  | 0, _ => none
  | fuel + 1, cs =>
      match value fuel cs with
      | none => none
      | some (document, rest) =>
          match skip rest with
          | ']' :: rest => some ([document], rest)
          | ',' :: rest => (items fuel (skip rest)).map fun found => (document :: found.1, found.2)
          | _ => none

end

/-- `json.loads` on a string; `none` where it raises. -/
def loads (cs : List Char) : Option (Document F) :=
  if cs.head? = some '\ufeff' then none
  else (value float (cs.length + 1) (skip cs)).bind fun found => if skip found.2 = [] then some found.1 else none

end Reader

inductive Encoding
  | utf8
  | utf8Sig
  | utf16
  | utf16be
  | utf16le
  | utf32
  | utf32be
  | utf32le
  deriving DecidableEq

/-- From a byte order mark, else from the zeros among the first bytes. -/
def detectEncoding (bytes : List UInt8) : Encoding :=
  if [0, 0, 0xfe, 0xff].isPrefixOf bytes ∨ [0xff, 0xfe, 0, 0].isPrefixOf bytes then .utf32
  else if [0xfe, 0xff].isPrefixOf bytes ∨ [0xff, 0xfe].isPrefixOf bytes then .utf16
  else if [0xef, 0xbb, 0xbf].isPrefixOf bytes then .utf8Sig
  else match bytes with
    | a :: b :: c :: d :: _ =>
        if a = 0 then if b ≠ 0 then .utf16be else .utf32be
        else if b = 0 then if c ≠ 0 ∨ d ≠ 0 then .utf16le else .utf32le
        else .utf8
    | [a, b] => if a = 0 then .utf16be else if b = 0 then .utf16le else .utf8
    | _ => .utf8

def encodeUtf8 (cs : List Char) : List UInt8 := cs.flatMap String.utf8EncodeChar

def decodeUtf8 (bytes : List UInt8) : Option (List Char) := bytes.toByteArray.utf8Decode?.map Array.toList

/-- `json.loads` on bytes; `codec` decodes the wider encodings. -/
def loadsBytes {F : Type} (float : List Char → F) (codec : Encoding → List UInt8 → Option (List Char))
    (bytes : List UInt8) : Option (Document F) :=
  match detectEncoding bytes with
  | .utf8 => (decodeUtf8 bytes).bind (loads float)
  | .utf8Sig => (decodeUtf8 (bytes.drop 3)).bind (loads float)
  | encoding => (codec encoding bytes).bind (loads float)

/-! ### Writing -/

section Writer

variable {F : Type}

mutual

/-- A compact text, of a document that `Writable` allows. -/
def write : Document F → List Char
  | .null => "null".toList
  | .bool true => "true".toList
  | .bool false => "false".toList
  | .int n => (toString n).toList
  | .float _ => []
  | .str s => quoted s.toList
  | .arr entries => '[' :: writeItems entries ++ [']']
  | .obj entries => '{' :: writeMembers entries ++ ['}']

def writeItems : List (Document F) → List Char
  | [] => []
  | [document] => write document
  | document :: next :: rest => write document ++ ',' :: writeItems (next :: rest)

def writeMembers : List (String × Document F) → List Char
  | [] => []
  | [(key, document)] => quoted key.toList ++ ':' :: write document
  | (key, document) :: next :: rest => quoted key.toList ++ ':' :: (write document ++ ',' :: writeMembers (next :: rest))

end

@[simp] theorem write_int (n : Int) : write (.int n : Document F) = (toString n).toList := by rw [write]

@[simp] theorem write_str (s : String) : write (.str s : Document F) = quoted s.toList := by rw [write]

@[simp] theorem write_obj (entries : List (String × Document F)) :
    write (.obj entries) = '{' :: writeMembers entries ++ ['}'] := by rw [write]

/-- A text that stands between quotes as it is. -/
def Plain (cs : List Char) : Prop := ∀ c ∈ cs, c ≠ '\x22' ∧ c ≠ '\x5c' ∧ 0x20 ≤ c.toNat

mutual

/-- Plain strings, integers Python can read, distinct keys, no floating-point number. -/
def Writable : Document F → Prop
  | .null => True
  | .bool _ => True
  | .int n => (toString n.natAbs).toList.length ≤ Decimal.maxStrDigits
  | .float _ => False
  | .str s => Plain s.toList
  | .arr entries => WritableItems entries
  | .obj entries => (entries.map Prod.fst).Nodup ∧ WritableMembers entries

def WritableItems : List (Document F) → Prop
  | [] => True
  | document :: rest => Writable document ∧ WritableItems rest

def WritableMembers : List (String × Document F) → Prop
  | [] => True
  | (key, document) :: rest => Plain key.toList ∧ Writable document ∧ WritableMembers rest

end

theorem plain_of_all {cs : List Char} (h : cs.all (fun c => c ≠ '\x22' ∧ c ≠ '\x5c' ∧ 0x20 ≤ c.toNat) = true) : Plain cs :=
  fun c hc => of_decide_eq_true (List.all_eq_true.mp h c hc)

theorem Plain.append {cs cs' : List Char} (h : Plain cs) (h' : Plain cs') : Plain (cs ++ cs') := by
  intro c hc
  cases List.mem_append.mp hc with
  | inl hleft => exact h c hleft
  | inr hright => exact h' c hright

theorem plain_of_forall {P : Char → Prop} {cs : List Char} (h : ∀ c ∈ cs, P c) (hquote : ¬ P '\x22')
    (hslash : ¬ P '\x5c') (hcontrol : ∀ c, P c → 0x20 ≤ c.toNat) : Plain cs := by
  intro c hc
  refine ⟨?_, ?_, hcontrol c (h c hc)⟩
  · rintro rfl
    exact hquote (h _ hc)
  · rintro rfl
    exact hslash (h _ hc)

theorem plain_of_isDigit {cs : List Char} (h : ∀ c ∈ cs, c.isDigit = true) : Plain cs := by
  refine plain_of_forall h (by decide) (by decide) fun c hc => ?_
  have hbounds := Char.isDigit_iff_toNat.mp hc
  have hzero : '0'.toNat = 48 := rfl
  omega

theorem plain_of_isHexDigit {cs : List Char} (h : ∀ c ∈ cs, Hex.isDigit c = true) : Plain cs := by
  refine plain_of_forall h (by decide) (by decide) fun c hc => ?_
  have hlower : Hex.lowerDigits.all (fun d => 0x20 ≤ d.toNat) = true := by decide
  have hmem := of_decide_eq_true (List.all_eq_true.mp hlower _ (List.contains_iff_mem.mp hc))
  -- Only an upper-case letter is changed by `toLower`.
  unfold Char.toLower at hmem
  split at hmem
  · rename_i hupper
    have hle : 'A'.val.toNat ≤ c.toNat := hupper.1
    have hA : 'A'.val.toNat = 65 := rfl
    omega
  · exact hmem

theorem scanString_quoted {cs : List Char} (h : Plain cs) (rest : List Char) :
    scanString (cs ++ '\x22' :: rest) = some (cs, rest) := by
  induction cs with
  | nil => rfl
  | cons c cs ih =>
      obtain ⟨hquote, hslash, hcontrol⟩ := h c List.mem_cons_self
      have htail := ih fun d hd => h d (List.mem_cons_of_mem _ hd)
      rw [List.cons_append, scanString]
      · rw [if_neg (Nat.not_lt.mpr hcontrol), htail, Option.map_some]
      · exact fun heq => hquote heq
      · exact fun _ _ _ _ _ heq _ => hslash heq
      · exact fun _ _ heq _ => hslash heq

/-- A value ends here: the rest is empty or starts with a comma or a closing bracket. -/
def Ends (rest : List Char) : Prop := ∀ c ∈ rest.head?, c ∈ [',', ']', '}']

theorem Ends.takeWhile_isDigit {digits rest : List Char} (h : Ends rest) (hdigits : ∀ c ∈ digits, c.isDigit = true) :
    (digits ++ rest).takeWhile Char.isDigit = digits ∧ (digits ++ rest).dropWhile Char.isDigit = rest := by
  have hrest : rest.takeWhile Char.isDigit = [] ∧ rest.dropWhile Char.isDigit = rest := by
    cases rest with
    | nil => exact ⟨rfl, rfl⟩
    | cons c cs =>
        have hc : c.isDigit = false := by
          have hmem := h c rfl
          revert hmem
          simp only [List.mem_cons, List.not_mem_nil, or_false]
          rintro (rfl | rfl | rfl) <;> decide
        simp [hc]
  rw [List.takeWhile_append_of_pos hdigits, List.dropWhile_append_of_pos hdigits, hrest.1, hrest.2, List.append_nil]
  exact ⟨rfl, rfl⟩

theorem Ends.fraction {rest : List Char} (h : Ends rest) : fraction rest = ([], rest) := by
  cases rest with
  | nil => rfl
  | cons c cs =>
      rw [JsonLoads.fraction]
      intro digits heq
      rw [heq] at h
      exact absurd (h '.' rfl) (by decide)

theorem Ends.exponent {rest : List Char} (h : Ends rest) : exponent rest = ([], rest) := by
  cases rest with
  | nil => rfl
  | cons c cs =>
      have hmark : ¬ (c = 'e' ∨ c = 'E') := by
        intro hmark
        have hmem := h c rfl
        rcases hmark with rfl | rfl <;> exact absurd hmem (by decide)
      rw [JsonLoads.exponent, if_neg hmark]

variable (float : List Char → F)

theorem whole_toString (n : Nat) {rest : List Char} (h : Ends rest) :
    whole ((toString n).toList ++ rest) = ((toString n).toList, rest) := by
  have hdigits : ∀ c ∈ (toString n).toList, c.isDigit = true := fun _ => Decimal.isDigit_of_mem_toString
  obtain ⟨htake, hdrop⟩ := h.takeWhile_isDigit hdigits
  rcases Nat.eq_zero_or_pos n with rfl | hpos
  · rfl
  · rw [whole, htake, hdrop]
    intro cs heq
    have hhead := Decimal.head?_toString hpos
    have hfirst : ((toString n).toList ++ rest).head? = (toString n).toList.head? :=
      List.head?_append_of_ne_nil _ (Decimal.toString_ne_nil n)
    rw [← hfirst, heq] at hhead
    exact hhead rfl

theorem sign_digits {cs : List Char} (h : ∀ c ∈ cs.head?, c.isDigit = true) : sign cs = ([], cs) := by
  rw [sign]
  intro rest heq
  rw [heq] at h
  exact absurd (h '-' rfl) (by decide)

theorem number_toString {n : Int} (hread : (toString n.natAbs).toList.length ≤ Decimal.maxStrDigits)
    {rest : List Char} (h : Ends rest) : number float ((toString n).toList ++ rest) = some (.int n, rest) := by
  have hne := Decimal.toString_ne_nil n.natAbs
  have hvalue : Decimal.readInt (toString n.natAbs).toList = some n.natAbs := by
    rw [Decimal.readInt, if_pos hread, Decimal.valueOf_toString]
  have hdigit : ∀ c ∈ ((toString n.natAbs).toList ++ rest).head?, c.isDigit = true := by
    intro c hc
    rw [List.head?_append_of_ne_nil _ hne] at hc
    exact Decimal.isDigit_of_mem_toString (List.mem_of_mem_head? hc)
  rw [Decimal.intToString_eq]
  split
  · rename_i hpos
    have hsign := sign_digits hdigit
    simp only [number, hsign, whole_toString _ h, h.fraction, h.exponent, hvalue, if_neg hne, and_self, if_true,
      Option.map_some]
    rw [Int.natAbs_of_nonneg hpos]
  · rename_i hneg
    have hsign : sign ('-' :: (toString n.natAbs).toList ++ rest) = (['-'], (toString n.natAbs).toList ++ rest) := rfl
    simp only [number, hsign, whole_toString _ h, h.fraction, h.exponent, hvalue, if_neg hne, and_self, if_true,
      Option.map_some]
    rw [if_neg (List.cons_ne_nil _ _), Int.ofNat_natAbs_of_nonpos (by omega), Int.neg_neg]

theorem exists_succ {n fuel : Nat} (h : n < fuel) : ∃ rest, fuel = rest + 1 := ⟨fuel - 1, by omega⟩

/-- A numeral starts with a digit, or with a minus sign and a digit. -/
theorem cons_of_toString (n : Int) : ∃ d ds, d.isDigit = true ∧
    ((toString n).toList = d :: ds ∨ (toString n).toList = '-' :: d :: ds) := by
  rw [Decimal.intToString_eq]
  cases hcs : (toString n.natAbs).toList with
  | nil => exact absurd hcs (Decimal.toString_ne_nil _)
  | cons d ds =>
      have hdigit : d.isDigit = true := Decimal.isDigit_of_mem_toString (hcs ▸ List.mem_cons_self)
      refine ⟨d, ds, hdigit, ?_⟩
      split
      · exact Or.inl rfl
      · exact Or.inr rfl

/-- No word starts as a numeral does. -/
theorem word_digits {d : Char} (hd : d.isDigit = true) (cs : List Char) :
    word float (d :: cs) = none ∧ word float ('-' :: d :: cs) = none := by
  have hne : ∀ c : Char, c.isDigit = false → ¬ c = d := fun c hc => (Decimal.ne_of_isDigit hd hc).symm
  have hn := hne 'n' rfl
  have ht := hne 't' rfl
  have hf := hne 'f' rfl
  have hN := hne 'N' rfl
  have hI := hne 'I' rfl
  have hminus := hne '-' rfl
  constructor <;> simp [word, words, hn, ht, hf, hN, hI, hminus]

theorem value_toString {n : Int} (hread : (toString n.natAbs).toList.length ≤ Decimal.maxStrDigits) {fuel : Nat}
    (hfuel : 0 < fuel) {rest : List Char} (h : Ends rest) :
    value float fuel ((toString n).toList ++ rest) = some (.int n, rest) := by
  obtain ⟨fuel, rfl⟩ := exists_succ hfuel
  obtain ⟨d, ds, hd, hcs⟩ := cons_of_toString n
  have hword : word float ((toString n).toList ++ rest) = none := by
    rcases hcs with hcs | hcs
    · rw [hcs]
      exact (word_digits float hd _).1
    · rw [hcs]
      exact (word_digits float hd _).2
  have hother : ∀ c ∈ ['\x22', '{', '['], ∀ tail, (toString n).toList ++ rest ≠ c :: tail := by
    intro c hmem tail heq
    rcases hcs with hcs | hcs
    · rw [hcs] at heq
      have hhead := (List.cons.inj heq).1
      simp only [List.mem_cons, List.not_mem_nil, or_false] at hmem
      rcases hmem with rfl | rfl | rfl <;> exact Decimal.ne_of_isDigit hd rfl hhead
    · rw [hcs] at heq
      have hhead := (List.cons.inj heq).1
      rw [← hhead] at hmem
      exact absurd hmem (by decide)
  rw [value]
  · rw [hword, Option.none_or, number_toString float hread h]
  · exact fun tail => hother '\x22' (by decide) tail
  · exact fun tail => hother '{' (by decide) tail
  · exact fun tail => hother '[' (by decide) tail

theorem skip_cons {c : Char} (hc : isSpace c = false) (cs : List Char) : skip (c :: cs) = c :: cs := by
  rw [skip, List.dropWhile_cons_of_neg (by rw [hc]; exact Bool.false_ne_true)]

theorem isSpace_of_isDigit {c : Char} (hc : c.isDigit = true) : isSpace c = false := by
  by_contra hspace
  rw [Bool.not_eq_false, isSpace, List.contains_iff_mem] at hspace
  simp only [List.mem_cons, List.not_mem_nil, or_false] at hspace
  rcases hspace with rfl | rfl | rfl | rfl <;> exact absurd hc (by decide)

/-- The text of a document starts neither with a space nor with a closing bracket nor with a byte order mark. -/
theorem head_write {document : Document F} (h : Writable document) :
    ∃ c cs, write document = c :: cs ∧ isSpace c = false ∧ c ∉ [']', '\ufeff'] := by
  cases document with
  | null => exact ⟨'n', _, rfl, by decide, by decide⟩
  | bool b =>
      cases b with
      | true => exact ⟨'t', _, rfl, by decide, by decide⟩
      | false => exact ⟨'f', _, rfl, by decide, by decide⟩
  | int n =>
      obtain ⟨d, ds, hd, hcs | hcs⟩ := cons_of_toString n
      · refine ⟨d, ds, hcs, isSpace_of_isDigit hd, ?_⟩
        intro hmem
        simp only [List.mem_cons, List.not_mem_nil, or_false] at hmem
        rcases hmem with rfl | rfl <;> exact absurd hd (by decide)
      · exact ⟨'-', _, hcs, by decide, by decide⟩
  | float x => exact h.elim
  | str s => exact ⟨'\x22', _, rfl, by decide, by decide⟩
  | arr entries => exact ⟨'[', _, rfl, by decide, by decide⟩
  | obj entries => exact ⟨'{', _, rfl, by decide, by decide⟩

theorem skip_write {document : Document F} (h : Writable document) (rest : List Char) :
    skip (write document ++ rest) = write document ++ rest := by
  obtain ⟨c, cs, hcs, hspace, -⟩ := head_write h
  rw [hcs, List.cons_append, skip_cons hspace]

theorem value_str {s : String} (h : Plain s.toList) {fuel : Nat} (hfuel : 0 < fuel) (rest : List Char) :
    value float fuel (quoted s.toList ++ rest) = some (.str s, rest) := by
  obtain ⟨fuel, rfl⟩ := exists_succ hfuel
  show (scanString (s.toList ++ ['\x22'] ++ rest)).map (fun found => (Document.str (String.ofList found.1), found.2)) = _
  rw [List.append_assoc, List.singleton_append, scanString_quoted h, Option.map_some, String.ofList_toList]

theorem ends_cons {c : Char} (hc : c ∈ [',', ']', '}']) (rest : List Char) : Ends (c :: rest) := by
  intro d hd
  cases Option.some.inj hd
  exact hc

/-! One step of each loop, on a text without spaces. -/

section Steps

variable {float} {fuel : Nat} {cs rest : List Char} {document : Document F}

theorem value_bracket {c : Char} (hspace : isSpace c = false) (hc : c ≠ ']') :
    value float (fuel + 1) ('[' :: c :: cs) = (items float fuel (c :: cs)).map fun found => (.arr found.1, found.2) := by
  rw [value, skip_cons hspace]
  split
  · rename_i heq
    exact absurd (List.cons.inj heq).1 hc
  · rfl

theorem value_brace {c : Char} (hspace : isSpace c = false) (hc : c ≠ '}') :
    value float (fuel + 1) ('{' :: c :: cs) =
      (members float fuel [] (c :: cs)).map fun found => (.obj found.1, found.2) := by
  rw [value, skip_cons hspace]
  split
  · rename_i heq
    exact absurd (List.cons.inj heq).1 hc
  · rfl

theorem items_last (h : value float fuel cs = some (document, ']' :: rest)) :
    items float (fuel + 1) cs = some ([document], rest) := by
  rw [items, h]
  rfl

theorem items_more (h : value float fuel cs = some (document, ',' :: rest)) :
    items float (fuel + 1) cs = (items float fuel (skip rest)).map fun found => (document :: found.1, found.2) := by
  rw [items, h]
  rfl

variable {key : String} {before : List (String × Document F)}

/-- The first member of a text, up to its value. -/
theorem members_key (hkey : Plain key.toList) (hskip : skip cs = cs) :
    members float (fuel + 1) before (quoted key.toList ++ ':' :: cs) =
      match value float fuel cs with
      | none => none
      | some (document, rest) =>
          match skip rest with
          | '}' :: rest => some (OrderedDict.assign key document before, rest)
          | ',' :: rest => members float fuel (OrderedDict.assign key document before) (skip rest)
          | _ => none := by
  have htext : quoted key.toList ++ ':' :: cs = '\x22' :: (key.toList ++ '\x22' :: ':' :: cs) := by
    rw [quoted, List.append_assoc, List.cons_append, List.singleton_append]
  have hcolon : skip (':' :: cs) = ':' :: cs := skip_cons (by decide) cs
  rw [htext, members, scanString_quoted hkey]
  simp only [hcolon, hskip, String.ofList_toList]

theorem members_last (hkey : Plain key.toList) (hskip : skip cs = cs) (hnew : key ∉ before.map Prod.fst)
    (h : value float fuel cs = some (document, '}' :: rest)) :
    members float (fuel + 1) before (quoted key.toList ++ ':' :: cs) = some (before ++ [(key, document)], rest) := by
  rw [members_key hkey hskip, h, ← OrderedDict.assign_of_notMem document hnew]
  rfl

theorem members_more (hkey : Plain key.toList) (hskip : skip cs = cs) (hnew : key ∉ before.map Prod.fst)
    (h : value float fuel cs = some (document, ',' :: rest)) :
    members float (fuel + 1) before (quoted key.toList ++ ':' :: cs) =
      members float fuel (before ++ [(key, document)]) (skip rest) := by
  rw [members_key hkey hskip, h, ← OrderedDict.assign_of_notMem document hnew]
  rfl

end Steps

theorem head_writeItems {first : Document F} (h : Writable first) (others : List (Document F)) :
    ∃ c cs, writeItems (first :: others) = c :: cs ∧ isSpace c = false ∧ c ≠ ']' := by
  obtain ⟨c, cs, hcs, hspace, hhead⟩ := head_write h
  have hbracket : c ≠ ']' := fun heq => hhead (heq ▸ List.mem_cons_self)
  cases others with
  | nil => exact ⟨c, cs, hcs, hspace, hbracket⟩
  | cons second others =>
      rw [writeItems, hcs]
      exact ⟨c, _, rfl, hspace, hbracket⟩

theorem head_writeMembers (first : String × Document F) (others : List (String × Document F)) :
    ∃ cs, writeMembers (first :: others) = '\x22' :: cs := by
  cases others <;> exact ⟨_, rfl⟩

-- By induction on the fuel: each call of the reader has one less, and a shorter text.
mutual

theorem value_write (document : Document F) (h : Writable document) {fuel : Nat}
    (hfuel : (write document).length < fuel) {rest : List Char} (hends : Ends rest) :
    value float fuel (write document ++ rest) = some (document, rest) := by
  obtain ⟨fuel, rfl⟩ := exists_succ hfuel
  match document with
  | .null => rfl
  | .bool true => rfl
  | .bool false => rfl
  | .int n => exact value_toString float h (Nat.zero_lt_of_lt hfuel) hends
  | .float x => exact h.elim
  | .str s => exact value_str float h (Nat.zero_lt_of_lt hfuel) rest
  | .arr [] => rfl
  | .arr (first :: others) =>
      obtain ⟨c, cs, hcs, hspace, hbracket⟩ := head_writeItems h.1 others
      have hentries := items_write first others h (show _ + 1 < fuel by simpa [write] using hfuel) rest
      have htext : write (.arr (first :: others)) ++ rest = '[' :: (writeItems (first :: others) ++ ']' :: rest) := by
        rw [write, List.cons_append, List.cons_append, List.append_assoc, List.singleton_append]
      rw [hcs, List.cons_append] at hentries
      rw [htext, hcs, List.cons_append, value_bracket hspace hbracket, hentries]
      rfl
  | .obj [] => rfl
  | .obj (first :: others) =>
      obtain ⟨cs, hcs⟩ := head_writeMembers first others
      have hentries := members_write first others h.2 [] h.1
        (show (writeMembers (first :: others)).length < fuel by simp [write] at hfuel; omega) rest
      have htext : write (.obj (first :: others)) ++ rest = '{' :: (writeMembers (first :: others) ++ '}' :: rest) := by
        rw [write, List.cons_append, List.cons_append, List.append_assoc, List.singleton_append]
      rw [hcs, List.cons_append] at hentries
      rw [htext, hcs, List.cons_append, value_brace (by decide) (by decide), hentries]
      rfl
termination_by fuel

theorem items_write (first : Document F) (others : List (Document F)) (h : WritableItems (first :: others)) {fuel : Nat}
    (hfuel : (writeItems (first :: others)).length + 1 < fuel) (rest : List Char) :
    items float fuel (writeItems (first :: others) ++ ']' :: rest) = some (first :: others, rest) := by
  obtain ⟨fuel, rfl⟩ := exists_succ hfuel
  match others with
  | [] =>
      have hends : Ends (']' :: rest) := ends_cons (by decide) rest
      exact items_last (value_write first h.1 (Nat.lt_of_succ_lt_succ hfuel) hends)
  | second :: others =>
      have htext : writeItems (first :: second :: others) ++ ']' :: rest =
          write first ++ ',' :: (writeItems (second :: others) ++ ']' :: rest) := by
        rw [writeItems, List.append_assoc, List.cons_append]
      have hends : Ends (',' :: (writeItems (second :: others) ++ ']' :: rest)) := ends_cons (by decide) _
      have hskip : skip (writeItems (second :: others) ++ ']' :: rest) = writeItems (second :: others) ++ ']' :: rest := by
        obtain ⟨c, cs, hcs, hspace, -⟩ := head_writeItems h.2.1 others
        rw [hcs, List.cons_append, skip_cons hspace]
      rw [writeItems, List.length_append, List.length_cons] at hfuel
      have hfirst := value_write first h.1 (show (write first).length < fuel by omega) hends
      rw [htext, items_more hfirst, hskip, items_write second others h.2 (by omega) rest]
      rfl
termination_by fuel

theorem members_write (first : String × Document F) (others : List (String × Document F))
    (h : WritableMembers (first :: others)) (before : List (String × Document F))
    (hnodup : ((before ++ first :: others).map Prod.fst).Nodup) {fuel : Nat}
    (hfuel : (writeMembers (first :: others)).length < fuel) (rest : List Char) :
    members float fuel before (writeMembers (first :: others) ++ '}' :: rest) =
      some (before ++ first :: others, rest) := by
  obtain ⟨fuel, rfl⟩ := exists_succ hfuel
  obtain ⟨key, document⟩ := first
  have hnew : key ∉ before.map Prod.fst := by
    rw [List.map_append, List.nodup_append] at hnodup
    exact fun hmem => hnodup.2.2 key hmem key List.mem_cons_self rfl
  match others with
  | [] =>
      have hends : Ends ('}' :: rest) := ends_cons (by decide) rest
      have htext : writeMembers [(key, document)] ++ '}' :: rest =
          quoted key.toList ++ ':' :: (write document ++ '}' :: rest) := by
        rw [writeMembers, List.append_assoc, List.cons_append]
      rw [writeMembers, List.length_append, List.length_cons] at hfuel
      have hvalue := value_write document h.2.1 (show (write document).length < fuel by omega) hends
      rw [htext, members_last h.1 (skip_write h.2.1 _) hnew hvalue]
  | second :: others =>
      have hends : Ends (',' :: (writeMembers (second :: others) ++ '}' :: rest)) := ends_cons (by decide) _
      have htext : writeMembers ((key, document) :: second :: others) ++ '}' :: rest =
          quoted key.toList ++ ':' :: (write document ++ ',' :: (writeMembers (second :: others) ++ '}' :: rest)) := by
        rw [writeMembers, List.append_assoc, List.cons_append, List.append_assoc, List.cons_append]
      have hskip : skip (writeMembers (second :: others) ++ '}' :: rest) =
          writeMembers (second :: others) ++ '}' :: rest := by
        obtain ⟨cs, hcs⟩ := head_writeMembers second others
        rw [hcs, List.cons_append, skip_cons (by decide)]
      have hkeys : (before ++ (key, document) :: second :: others) = before ++ [(key, document)] ++ second :: others := by
        rw [List.append_assoc, List.singleton_append]
      rw [writeMembers, List.length_append, List.length_cons, List.length_append, List.length_cons] at hfuel
      have hvalue := value_write document h.2.1 (show (write document).length < fuel by omega) hends
      rw [hkeys] at hnodup ⊢
      rw [htext, members_more h.1 (skip_write h.2.1 _) hnew hvalue, hskip,
        members_write second others h.2.2 _ hnodup (by omega) rest]
termination_by fuel

end

/-- What is written is read back. -/
theorem loads_write {document : Document F} (h : Writable document) : loads float (write document) = some document := by
  have hends : Ends [] := fun c hc => by cases hc
  have hskip := skip_write h []
  have hvalue := value_write float document h (Nat.lt_succ_self _) hends
  rw [List.append_nil] at hskip hvalue
  obtain ⟨c, cs, hcs, -, hhead⟩ := head_write h
  have hmark : ¬ (write document).head? = some '\ufeff' := by
    intro heq
    rw [hcs, List.head?_cons] at heq
    exact hhead (Option.some.inj heq ▸ List.mem_cons_of_mem _ List.mem_cons_self)
  rw [loads, if_neg hmark, hskip, hvalue]
  rfl

theorem decodeUtf8_encodeUtf8 (cs : List Char) : decodeUtf8 (encodeUtf8 cs) = some cs := by
  have hdecode : (encodeUtf8 cs).toByteArray.utf8Decode? = some cs.toArray := List.utf8Decode?_utf8Encode
  rw [decodeUtf8, hdecode]
  rfl

/-- Two ASCII characters in front leave no doubt about the encoding. -/
theorem detectEncoding_brace (bytes : List UInt8) : detectEncoding (0x7b :: 0x22 :: bytes) = .utf8 := by
  match bytes with
  | [] => rfl
  | [_] => rfl
  | _ :: _ :: _ => rfl

/-- A written object is read back from its bytes. -/
theorem loadsBytes_write (codec : Encoding → List UInt8 → Option (List Char)) (first : String × Document F)
    (others : List (String × Document F)) (h : Writable (.obj (first :: others))) :
    loadsBytes float codec (encodeUtf8 (write (.obj (first :: others)))) = some (.obj (first :: others)) := by
  obtain ⟨cs, hcs⟩ := head_writeMembers first others
  have hdetect : detectEncoding (encodeUtf8 (write (.obj (first :: others)))) = .utf8 := by
    rw [write, hcs]
    exact detectEncoding_brace _
  rw [loadsBytes, hdetect]
  simp only [decodeUtf8_encodeUtf8, Option.bind_some]
  exact loads_write float h

end Writer

end JsonLoads
