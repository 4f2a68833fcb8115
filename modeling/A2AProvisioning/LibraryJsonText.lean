import Mathlib.Algebra.Order.Group.Int
import Mathlib.Data.List.Infix
import Mathlib.Data.List.TakeDrop

/-! Scans of a text that do not parse it: what stands behind the last occurrence of a mark, and where the
bracket that opens first is closed when brackets are merely counted. The grammar of JSON texts follows, with
what the count makes of them. -/

namespace Scan

variable {α : Type*}

section Prefixes

variable {mark : List α}

/-- A prefix does not reach past an element that it lacks. -/
theorem prefix_append_cons_iff {c : α} (hc : c ∉ mark) (before after : List α) :
    mark <+: before ++ c :: after ↔ mark <+: before := by
  constructor
  · intro h
    have hboth : before ++ [c] <+: before ++ c :: after := by simp
    refine List.prefix_of_prefix_length_le h (List.prefix_append _ _) ?_
    by_contra! hlong
    have hlength : (before ++ [c]).length ≤ mark.length := by
      rw [List.length_append, List.length_singleton]
      exact hlong
    exact hc ((List.prefix_of_prefix_length_le hboth h hlength).subset (by simp))
  · exact fun h => h.trans (List.prefix_append _ _)

theorem infix_append_cons_iff {c : α} (hc : c ∉ mark) (before after : List α) :
    mark <:+: before ++ c :: after ↔ mark <:+: before ∨ mark <:+: after := by
  induction before with
  | nil =>
      have hstart := prefix_append_cons_iff hc [] after
      rw [List.nil_append] at hstart ⊢
      rw [List.infix_cons_iff, hstart, List.prefix_nil, List.infix_nil]
  | cons d before ih =>
      have hstart := prefix_append_cons_iff hc (d :: before) after
      rw [List.cons_append] at hstart ⊢
      rw [List.infix_cons_iff, hstart, ih, List.infix_cons_iff, or_assoc]

end Prefixes

variable [DecidableEq α]

/-- What stands behind the last occurrence of `mark`. -/
def afterLast (mark : List α) : List α → Option (List α)
  | [] => none
  | c :: rest =>
      (afterLast mark rest).or (if mark <+: c :: rest then some ((c :: rest).drop mark.length) else none)

variable {mark : List α}

theorem afterLast_eq_none_iff (hmark : mark ≠ []) (text : List α) : afterLast mark text = none ↔ ¬ mark <:+: text := by
  induction text with
  | nil => simp [afterLast, hmark]
  | cons c rest ih =>
      rw [afterLast, Option.or_eq_none_iff, ih, List.infix_cons_iff, not_or, and_comm]
      simp

/-- It is an end of the text, and the mark stands before it. -/
theorem suffix_of_afterLast {text tail : List α} (h : afterLast mark text = some tail) :
    tail <:+ text ∧ tail.length + mark.length ≤ text.length := by
  induction text with
  | nil => cases h
  | cons c rest ih =>
      rw [afterLast, Option.or_eq_some_iff] at h
      rcases h with hrest | ⟨-, hhead⟩
      · obtain ⟨hsuffix, hlength⟩ := ih hrest
        refine ⟨hsuffix.trans (List.suffix_cons c rest), ?_⟩
        rw [List.length_cons]
        omega
      · split_ifs at hhead with hstart
        obtain rfl := Option.some.inj hhead
        refine ⟨List.drop_suffix _ _, ?_⟩
        have hle := hstart.length_le
        rw [List.length_drop]
        omega

/-- What is behind the last occurrence ends what is behind any. -/
theorem afterLast_of_occurrence (hmark : mark ≠ []) (before after : List α) :
    ∃ tail, afterLast mark (before ++ mark ++ after) = some tail ∧ tail <:+ after := by
  induction before with
  | nil =>
      have hsome : afterLast mark ([] ++ mark ++ after) ≠ none := by
        rw [Ne, afterLast_eq_none_iff hmark]
        exact not_not_intro ⟨[], after, rfl⟩
      obtain ⟨tail, htail⟩ := Option.ne_none_iff_exists'.mp hsome
      refine ⟨tail, htail, ?_⟩
      obtain ⟨hsuffix, hlength⟩ := suffix_of_afterLast htail
      refine List.suffix_of_suffix_length_le hsuffix (List.suffix_append _ _) ?_
      simp only [List.nil_append, List.length_append] at hlength
      omega
  | cons c before ih =>
      obtain ⟨tail, htail, hsuffix⟩ := ih
      refine ⟨tail, ?_, hsuffix⟩
      rw [List.cons_append, List.cons_append, afterLast, htail, Option.some_or]

/-- Behind an element that is not of the mark a text without the mark changes nothing. -/
theorem afterLast_append_cons (hmark : mark ≠ []) {c : α} (hc : c ∉ mark) {after : List α}
    (hafter : ¬ mark <:+: c :: after) (before : List α) :
    afterLast mark (before ++ c :: after) = (afterLast mark before).map (· ++ c :: after) := by
  induction before with
  | nil => exact (afterLast_eq_none_iff hmark _).mpr hafter
  | cons d before ih =>
      have hstart := prefix_append_cons_iff hc (d :: before) after
      rw [List.cons_append, afterLast, ih, ← List.cons_append, afterLast]
      by_cases h : mark <+: d :: before
      · rw [if_pos (hstart.mpr h), if_pos h, List.drop_append_of_le_length h.length_le]
        cases afterLast mark before <;> rfl
      · rw [if_neg (mt hstart.mp h), if_neg h]
        cases afterLast mark before <;> rfl

variable (opening ending : α)

/-- How many elements there are up to the one that brings the depth back to zero. -/
def closing : Int → List α → Option Nat
  | _, [] => none
  | depth, c :: rest =>
      if c = opening then (closing (depth + 1) rest).map (· + 1)
      else if c = ending then if depth - 1 = 0 then some 1 else (closing (depth - 1) rest).map (· + 1)
      else (closing depth rest).map (· + 1)

/-- The text up to there, or all of it. -/
def upToClosing (text : List α) : List α :=
  match closing opening ending 0 text with
  | some n => text.take n
  | none => text

/-- How many brackets of the text are left open. -/
def height (text : List α) : Int := text.count opening - text.count ending

variable {opening ending}

@[simp] theorem height_nil : height opening ending ([] : List α) = 0 := rfl

theorem height_append (text text' : List α) :
    height opening ending (text ++ text') = height opening ending text + height opening ending text' := by
  simp only [height, List.count_append]
  omega

theorem height_opening (hne : opening ≠ ending) : height opening ending [opening] = 1 := by
  rw [height, List.count_singleton_self, List.count_singleton, beq_eq_false_iff_ne.mpr hne]
  rfl

theorem height_ending (hne : opening ≠ ending) : height opening ending [ending] = -1 := by
  rw [height, List.count_singleton_self, List.count_singleton, beq_eq_false_iff_ne.mpr hne.symm]
  rfl

theorem height_of_not_mem {text : List α} (hopening : opening ∉ text) (hending : ending ∉ text) :
    height opening ending text = 0 := by
  rw [height, List.count_eq_zero.mpr hopening, List.count_eq_zero.mpr hending]
  rfl

theorem neg_one_le_height (hne : opening ≠ ending) (c : α) : -1 ≤ height opening ending [c] := by
  by_cases hending : c = ending
  · rw [hending, height_ending hne]
  · have hcount : [c].count ending = 0 := List.count_eq_zero.mpr (by simpa using Ne.symm hending)
    rw [height, hcount]
    omega

/-- Above the ground the count is the same for every element. -/
theorem closing_cons (hne : opening ≠ ending) {depth : Int} (hdepth : 0 < depth) (c : α) (rest : List α) :
    closing opening ending depth (c :: rest) =
      if depth + height opening ending [c] = 0 then some 1
      else (closing opening ending (depth + height opening ending [c]) rest).map (· + 1) := by
  rw [closing]
  by_cases hopening : c = opening
  · rw [if_pos hopening, hopening, height_opening hne, if_neg (by omega)]
  · rw [if_neg hopening]
    by_cases hending : c = ending
    · rw [if_pos hending, hending, height_ending hne, ← sub_eq_add_neg]
    · rw [if_neg hending, height_of_not_mem (by simpa using Ne.symm hopening) (by simpa using Ne.symm hending),
        add_zero, if_neg hdepth.ne']

theorem closing_eq_some_iff (hne : opening ≠ ending) {depth : Int} (hdepth : 0 < depth) {text : List α} {n : Nat} :
    closing opening ending depth text = some n ↔ n ≤ text.length ∧
      depth + height opening ending (text.take n) = 0 ∧
        ∀ m < n, 0 < depth + height opening ending (text.take m) := by
  induction text generalizing depth n with
  | nil =>
      refine iff_of_false (fun h => nomatch h) ?_
      rintro ⟨-, heven, -⟩
      rw [List.take_nil, height_nil] at heven
      omega
  | cons c rest ih =>
      have htake : ∀ m, height opening ending ((c :: rest).take (m + 1)) =
          height opening ending [c] + height opening ending (rest.take m) := fun m => height_append [c] _
      rw [closing_cons hne hdepth]
      cases n with
      | zero =>
          refine iff_of_false ?_ ?_
          · split_ifs <;> simp
          · rintro ⟨-, heven, -⟩
            rw [List.take_zero, height_nil] at heven
            omega
      | succ n =>
          have hfirst : (∀ m < n + 1, 0 < depth + height opening ending ((c :: rest).take m)) ↔
              ∀ m < n, 0 < depth + height opening ending [c] + height opening ending (rest.take m) := by
            constructor
            · intro h m hm
              have hsucc := h (m + 1) (by omega)
              rw [htake] at hsucc
              omega
            · intro h m hm
              cases m with
              | zero => simpa using hdepth
              | succ m =>
                  have hm := h m (by omega)
                  rw [htake]
                  omega
          rw [hfirst, htake, List.length_cons, Nat.succ_le_succ_iff, ← add_assoc]
          by_cases hzero : depth + height opening ending [c] = 0
          · rw [if_pos hzero, hzero]
            cases n with
            | zero => simp
            | succ n =>
                refine iff_of_false (by simp) ?_
                rintro ⟨-, -, hall⟩
                simpa using hall 0 n.succ_pos
          · have hpos : 0 < depth + height opening ending [c] := by
              have hge := neg_one_le_height hne c
              omega
            rw [if_neg hzero, Option.map_eq_some_iff, ← ih hpos]
            simp

theorem closing_eq_none_iff (hne : opening ≠ ending) {depth : Int} (hdepth : 0 < depth) {text : List α} :
    closing opening ending depth text = none ↔
      ∀ m ≤ text.length, 0 < depth + height opening ending (text.take m) := by
  constructor
  · intro hnone m
    induction m using Nat.strong_induction_on with
    | _ m ih =>
        intro hm
        cases m with
        | zero => simpa using hdepth
        | succ m =>
            -- the count falls by one at most, so the first time it is not positive it is zero
            have hge : -1 ≤ height opening ending [text[m]] := neg_one_le_height hne _
            have hpos := ih m m.lt_succ_self (by omega)
            have hstep : height opening ending (text.take (m + 1)) =
                height opening ending (text.take m) + height opening ending [text[m]] := by
              rw [← List.take_append_getElem (by omega), height_append]
            by_contra hle
            have hsome := (closing_eq_some_iff hne hdepth).mpr
              ⟨hm, by omega, fun m' hm' => ih m' hm' (by omega)⟩
            cases hnone.symm.trans hsome
  · intro hall
    by_contra hsome
    obtain ⟨n, hn⟩ := Option.ne_none_iff_exists'.mp hsome
    obtain ⟨hlength, heven, -⟩ := (closing_eq_some_iff hne hdepth).mp hn
    have hpos := hall n hlength
    omega

theorem upToClosing_cons (rest : List α) :
    upToClosing opening ending (opening :: rest) =
      opening :: ((closing opening ending 1 rest).map rest.take).getD rest := by
  rw [upToClosing, closing, if_pos rfl, zero_add]
  cases closing opening ending 1 rest <;> rfl

/-- Inside a block the scan stops at its end exactly where the brackets come out even there and not before;
without anything behind the block they may also stay open. -/
theorem take_closing_eq_iff (hne : opening ≠ ending) (body after : List α) :
    ((closing opening ending 1 (body ++ [ending] ++ after)).map (body ++ [ending] ++ after).take).getD
        (body ++ [ending] ++ after) = body ++ [ending] ↔
      (∀ n < (body ++ [ending]).length, 0 < 1 + height opening ending ((body ++ [ending]).take n)) ∧
        (1 + height opening ending (body ++ [ending]) = 0 ∨ after = []) := by
  have hinside : ∀ n ≤ (body ++ [ending]).length,
      (body ++ [ending] ++ after).take n = (body ++ [ending]).take n := fun n hn => List.take_append_of_le_length hn
  constructor
  · intro h
    cases hclosing : closing opening ending 1 (body ++ [ending] ++ after) with
    | none =>
        rw [hclosing, Option.map_none, Option.getD_none, List.append_right_eq_self] at h
        refine ⟨fun n hn => ?_, Or.inr h⟩
        have hpos := (closing_eq_none_iff hne one_pos).mp hclosing n (by rw [List.length_append]; omega)
        rwa [hinside n hn.le] at hpos
    | some n =>
        rw [hclosing, Option.map_some, Option.getD_some] at h
        obtain ⟨hlength, heven, hfirst⟩ := (closing_eq_some_iff hne one_pos).mp hclosing
        have hn : n = (body ++ [ending]).length := by
          rw [← h, List.length_take, min_eq_left hlength]
        subst hn
        refine ⟨fun m hm => ?_, Or.inl (by rwa [h] at heven)⟩
        have hpos := hfirst m hm
        rwa [hinside m hm.le] at hpos
  · rintro ⟨hall, heven⟩
    by_cases hzero : 1 + height opening ending (body ++ [ending]) = 0
    · have hclosing : closing opening ending 1 (body ++ [ending] ++ after) = some (body ++ [ending]).length := by
        refine (closing_eq_some_iff hne one_pos).mpr ⟨(List.prefix_append _ _).length_le, ?_, fun m hm => ?_⟩
        · rw [List.take_left, hzero]
        · rw [hinside m hm.le]
          exact hall m hm
      rw [hclosing, Option.map_some, Option.getD_some, List.take_left]
    · obtain rfl := heven.resolve_left hzero
      have hclosing : closing opening ending 1 (body ++ [ending] ++ []) = none := by
        refine (closing_eq_none_iff hne one_pos).mpr fun m hm => ?_
        rw [List.append_nil] at hm ⊢
        rcases hm.lt_or_eq with hlt | rfl
        · exact hall m hlt
        · have hbody := hall body.length (by rw [List.length_append, List.length_singleton]; omega)
          rw [List.take_left] at hbody
          rw [height_append, height_ending hne] at hzero
          rw [List.take_length, height_append, height_ending hne]
          omega
      rw [hclosing, Option.map_none, Option.getD_none, List.append_nil]

/-- The same, of the block with its bracket. -/
theorem upToClosing_eq_iff (hne : opening ≠ ending) (body after : List α) :
    upToClosing opening ending (opening :: body ++ [ending] ++ after) = opening :: body ++ [ending] ↔
      (∀ n, 0 < n → n < (opening :: body ++ [ending]).length →
        0 < height opening ending ((opening :: body ++ [ending]).take n)) ∧
          (height opening ending (opening :: body ++ [ending]) = 0 ∨ after = []) := by
  have hheight : ∀ text, height opening ending (opening :: text) = 1 + height opening ending text := by
    intro text
    rw [← List.singleton_append, height_append, height_opening hne]
  simp only [List.cons_append]
  rw [upToClosing_cons, List.cons.injEq, eq_self, true_and, take_closing_eq_iff hne, hheight]
  refine and_congr_left' ⟨fun h n hpos hn => ?_, fun h n hn => ?_⟩
  · obtain ⟨m, rfl⟩ := Nat.exists_eq_succ_of_ne_zero hpos.ne'
    rw [List.length_cons] at hn
    rw [List.take_succ_cons, hheight]
    exact h m (by omega)
  · have hsucc := h (n + 1) n.succ_pos (Nat.succ_lt_succ hn)
    rwa [List.take_succ_cons, hheight] at hsucc

variable (opening ending) in
/-- No bracket is closed that the text has not opened, and none is left open. -/
def Balanced (text : List α) : Prop :=
  height opening ending text = 0 ∧ ∀ n, 0 ≤ height opening ending (text.take n)

theorem balanced_of_not_mem {text : List α} (hopening : opening ∉ text) (hending : ending ∉ text) :
    Balanced opening ending text :=
  ⟨height_of_not_mem hopening hending, fun _ =>
    (height_of_not_mem (mt List.mem_of_mem_take hopening) (mt List.mem_of_mem_take hending)).ge⟩

theorem Balanced.append {text text' : List α} (h : Balanced opening ending text) (h' : Balanced opening ending text') :
    Balanced opening ending (text ++ text') := by
  refine ⟨by rw [height_append, h.1, h'.1, add_zero], fun n => ?_⟩
  rw [List.take_append, height_append]
  exact add_nonneg (h.2 n) (h'.2 _)

/-- Inside a block of a balanced text the count stays above the ground. -/
theorem Balanced.block_take (hne : opening ≠ ending) {text : List α} (h : Balanced opening ending text) {n : Nat}
    (hpos : 0 < n) (hn : n < (opening :: text ++ [ending]).length) :
    0 < height opening ending ((opening :: text ++ [ending]).take n) := by
  obtain ⟨m, rfl⟩ := Nat.exists_eq_succ_of_ne_zero hpos.ne'
  simp only [List.cons_append, List.length_cons, List.length_append, List.length_nil] at hn
  rw [List.cons_append, List.take_succ_cons, List.take_append_of_le_length (by omega), ← List.singleton_append,
    height_append, height_opening hne]
  have hge := h.2 m
  omega

theorem Balanced.block (hne : opening ≠ ending) {text : List α} (h : Balanced opening ending text) :
    Balanced opening ending (opening :: text ++ [ending]) := by
  have heven : height opening ending (opening :: text ++ [ending]) = 0 := by
    rw [← List.singleton_append, height_append, height_append, height_opening hne, height_ending hne, h.1]
    rfl
  refine ⟨heven, fun n => ?_⟩
  rcases n.eq_zero_or_pos with rfl | hpos
  · rfl
  · rcases lt_or_ge n (opening :: text ++ [ending]).length with hn | hn
    · exact (h.block_take hne hpos hn).le
    · rw [List.take_of_length_le hn, heven]

end Scan

/-! ### The grammar -/

namespace JsonText

def IsSpace (text : List Char) : Prop := ∀ c ∈ text, c ∈ [' ', '\t', '\n', '\r']

def IsDigits (text : List Char) : Prop := text ≠ [] ∧ ∀ c ∈ text, c.isDigit = true

/-- The whole part has no leading zero; the fraction and the exponent may be missing. -/
structure IsNumber (sign whole fraction exponent : List Char) : Prop where
  sign : sign ∈ [[], ['-']]
  whole : IsDigits whole ∧ (whole.head? = some '0' → whole = ['0'])
  fraction : fraction = [] ∨ ∃ digits, IsDigits digits ∧ fraction = '.' :: digits
  exponent : exponent = [] ∨ ∃ mark sign digits, mark ∈ ['e', 'E'] ∧ sign ∈ [[], ['+'], ['-']] ∧ IsDigits digits ∧
    exponent = mark :: sign ++ digits

/-- What stands between the quotes of a string. -/
inductive Contents : List Char → Prop
  | nil : Contents []
  | plain {c : Char} {rest : List Char} (hquote : c ≠ '\x22') (hslash : c ≠ '\x5c') (hcontrol : 0x20 ≤ c.toNat)
      (hrest : Contents rest) : Contents (c :: rest)
  | escape {c : Char} {rest : List Char} (hc : c ∈ ['\x22', '\x5c', '/', 'b', 'f', 'n', 'r', 't'])
      (hrest : Contents rest) : Contents ('\x5c' :: c :: rest)
  | unicode {digits rest : List Char} (hlength : digits.length = 4)
      (hdigits : ∀ c ∈ digits, c ∈ "0123456789abcdefABCDEF".toList) (hrest : Contents rest) :
      Contents ('\x5c' :: 'u' :: digits ++ rest)

def quoted (contents : List Char) : List Char := '\x22' :: contents ++ ['\x22']

inductive Part
  | value
  | element
  | items
  | member
  | members

/-- The texts of each part, the contents of every string being of the allowed ones. -/
inductive Derives (allowed : List Char → Prop) : Part → List Char → Prop
  | word {text : List Char} (htext : text ∈ ["true".toList, "false".toList, "null".toList]) :
      Derives allowed .value text
  | number {sign whole fraction exponent : List Char} (hnumber : IsNumber sign whole fraction exponent) :
      Derives allowed .value (sign ++ whole ++ fraction ++ exponent)
  | string {contents : List Char} (hcontents : Contents contents) (hallowed : allowed contents) :
      Derives allowed .value (quoted contents)
  | emptyArr {space : List Char} (hspace : IsSpace space) : Derives allowed .value ('[' :: space ++ [']'])
  | arr {items : List Char} (hitems : Derives allowed .items items) : Derives allowed .value ('[' :: items ++ [']'])
  | emptyObj {space : List Char} (hspace : IsSpace space) : Derives allowed .value ('{' :: space ++ ['}'])
  | obj {members : List Char} (hmembers : Derives allowed .members members) :
      Derives allowed .value ('{' :: members ++ ['}'])
  | element {space value space' : List Char} (hspace : IsSpace space) (hvalue : Derives allowed .value value)
      (hspace' : IsSpace space') : Derives allowed .element (space ++ value ++ space')
  | lastItem {element : List Char} (helement : Derives allowed .element element) : Derives allowed .items element
  | item {element items : List Char} (helement : Derives allowed .element element)
      (hitems : Derives allowed .items items) : Derives allowed .items (element ++ [','] ++ items)
  | member {space name space' element : List Char} (hspace : IsSpace space) (hname : Contents name)
      (hallowed : allowed name) (hspace' : IsSpace space') (helement : Derives allowed .element element) :
      Derives allowed .member (space ++ quoted name ++ space' ++ [':'] ++ element)
  | lastMember {member : List Char} (hmember : Derives allowed .member member) : Derives allowed .members member
  | moreMembers {member members : List Char} (hmember : Derives allowed .member member)
      (hmembers : Derives allowed .members members) : Derives allowed .members (member ++ [','] ++ members)

/-- A text of an object, from its brace to its brace. -/
def IsObject (allowed : List Char → Prop) (text : List Char) : Prop :=
  ∃ inner, text = '{' :: inner ++ ['}'] ∧ (IsSpace inner ∨ Derives allowed .members inner)

/-- No brace in a string is left unmatched. -/
def Braces (text : List Char) : Prop := Scan.Balanced '{' '}' text

theorem braces_of_forall {P : Char → Prop} {text : List Char} (h : ∀ c ∈ text, P c) (hopening : ¬ P '{')
    (hending : ¬ P '}') : Braces text :=
  Scan.balanced_of_not_mem (mt (h _) hopening) (mt (h _) hending)

theorem IsSpace.braces {text : List Char} (h : IsSpace text) : Braces text :=
  braces_of_forall h (by decide) (by decide)

theorem IsDigits.braces {text : List Char} (h : IsDigits text) : Braces text :=
  braces_of_forall h.2 (by decide) (by decide)

theorem IsNumber.braces {sign whole fraction exponent : List Char} (h : IsNumber sign whole fraction exponent) :
    Braces (sign ++ whole ++ fraction ++ exponent) := by
  have hsign : ∀ text ∈ [[], ['+'], ['-']], Braces text := by
    intro text htext
    refine braces_of_forall (P := fun c => c ∈ ['+', '-']) ?_ (by decide) (by decide)
    simp only [List.mem_cons, List.not_mem_nil, or_false] at htext
    rcases htext with rfl | rfl | rfl <;> simp
  have hsymbol : ∀ c ∈ ['.', 'e', 'E'], Braces [c] := by
    intro c hc
    refine braces_of_forall (P := fun c => c ∈ ['.', 'e', 'E']) ?_ (by decide) (by decide)
    simpa using hc
  have hfraction : Braces fraction := by
    rcases h.fraction with rfl | ⟨digits, hdigits, rfl⟩
    · exact hsign [] (by simp)
    · exact (hsymbol '.' (by simp)).append hdigits.braces
  have hexponent : Braces exponent := by
    rcases h.exponent with rfl | ⟨mark, sign, digits, hmark, hsigns, hdigits, rfl⟩
    · exact hsign [] (by simp)
    · have hmark : Braces [mark] := hsymbol mark (List.mem_cons_of_mem _ hmark)
      exact (hmark.append (hsign sign hsigns)).append hdigits.braces
  have hminus : Braces sign := by
    have hmem := h.sign
    simp only [List.mem_cons, List.not_mem_nil, or_false] at hmem
    rcases hmem with rfl | rfl
    · exact hsign [] (by simp)
    · exact hsign ['-'] (by simp)
  exact ((hminus.append h.whole.1.braces).append hfraction).append hexponent

theorem Braces.quoted {contents : List Char} (h : Braces contents) : Braces (quoted contents) := by
  have hquote : Braces ['\x22'] := braces_of_forall (P := (· = '\x22')) (by simp) (by decide) (by decide)
  exact (hquote.append h).append hquote

theorem Derives.braces {part : Part} {text : List Char} (h : Derives Braces part text) : Braces text := by
  have hsymbol : ∀ c ∈ ['[', ']', ',', ':'], Braces [c] := by
    intro c hc
    refine braces_of_forall (P := fun c => c ∈ ['[', ']', ',', ':']) ?_ (by decide) (by decide)
    simpa using hc
  have harr : ∀ {inner}, Braces inner → Braces ('[' :: inner ++ [']']) := fun hinner =>
    ((hsymbol '[' (by simp)).append hinner).append (hsymbol ']' (by simp))
  induction h with
  | word htext =>
      simp only [List.mem_cons, List.not_mem_nil, or_false] at htext
      rcases htext with rfl | rfl | rfl <;>
        exact Scan.balanced_of_not_mem (by decide) (by decide)
  | number hnumber => exact hnumber.braces
  | string _ hallowed => exact hallowed.quoted
  | emptyArr hspace => exact harr hspace.braces
  | arr _ ih => exact harr ih
  | emptyObj hspace => exact hspace.braces.block (by decide)
  | obj _ ih => exact ih.block (by decide)
  | element hspace _ hspace' ih => exact (hspace.braces.append ih).append hspace'.braces
  | lastItem _ ih => exact ih
  | item _ _ ih ih' => exact (ih.append (hsymbol ',' (by simp))).append ih'
  | member hspace _ hallowed hspace' _ ih =>
      exact (((hspace.braces.append hallowed.quoted).append hspace'.braces).append (hsymbol ':' (by simp))).append ih
  | lastMember _ ih => exact ih
  | moreMembers _ _ ih ih' => exact (ih.append (hsymbol ',' (by simp))).append ih'

theorem IsObject.braces_inner {text : List Char} (h : IsObject Braces text) :
    ∃ inner, text = '{' :: inner ++ ['}'] ∧ Braces inner := by
  obtain ⟨inner, htext, hspace | hmembers⟩ := h
  · exact ⟨inner, htext, hspace.braces⟩
  · exact ⟨inner, htext, hmembers.braces⟩

end JsonText
