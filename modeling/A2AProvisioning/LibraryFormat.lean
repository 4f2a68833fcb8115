import A2AProvisioning.LibraryDecimal
import Mathlib.Data.List.Induction

/-! Text filled in from a template with named fields, and what a reader can recover of a record of fields
that a delimiter joins. -/

namespace StrFormat

inductive Value
  | str (s : String)
  | int (n : Int)

/-- `format(value, "")`; `none` where it raises, on an integer of too many digits. -/
def Value.render : Value → Option String
  | .str s => some s
  | .int n => if (Nat.toDigits 10 n.natAbs).length ≤ Decimal.maxStrDigits then some (toString n) else none

inductive Piece
  | text (c : Char)
  | field (name : List Char)
  deriving DecidableEq

/-- The pieces of a template whose fields are plain names, with the name read so far in reverse; `none`
where a brace is left open or stands alone, or a field asks for more than a name. -/
def pieces : Option (List Char) → List Char → Option (List Piece)
  | none, [] => some []
  | none, '{' :: '{' :: cs => (pieces none cs).map (.text '{' :: ·)
  | none, '}' :: '}' :: cs => (pieces none cs).map (.text '}' :: ·)
  | none, '{' :: cs => pieces (some []) cs
  | none, '}' :: _ => none
  | none, c :: cs => (pieces none cs).map (.text c :: ·)
  | some _, [] => none
  | some name, '}' :: cs => (pieces none cs).map (.field name.reverse :: ·)
  | some name, c :: cs => if c ∈ ['{', ':', '!', '.', '['] then none else pieces (some (c :: name)) cs

/-- What stands for a name; `none` where it is missing. -/
def find (name : List Char) : List (String × Value) → Option Value
  | [] => none
  | (key, value) :: rest => if key.toList = name then some value else find name rest

def fill (values : List (String × Value)) : List Piece → Option (List Char)
  | [] => some []
  | .text c :: rest => (fill values rest).map (c :: ·)
  | .field name :: rest => do
      let value ← find name values
      let text ← value.render
      let tail ← fill values rest
      some (text.toList ++ tail)

/-- `template.format(**values)`. A value is not read as a template again. -/
def format (template : String) (values : List (String × Value)) : Option String := do
  let found ← pieces none template.toList
  let text ← fill values found
  some (String.ofList text)

variable {values : List (String × Value)}

theorem fill_text (c : Char) (rest : List Piece) : fill values (.text c :: rest) = (fill values rest).map (c :: ·) := rfl

theorem fill_text_append (text : List Char) (rest : List Piece) :
    fill values (text.map .text ++ rest) = (fill values rest).map (text ++ ·) := by
  induction text with
  | nil => exact Option.map_id'.symm
  | cons c cs ih =>
      rw [List.map_cons, List.cons_append, fill_text, ih, Option.map_map]
      rfl

theorem fill_str {name : List Char} {s : String} (rest : List Piece) (h : find name values = some (.str s)) :
    fill values (.field name :: rest) = (fill values rest).map (s.toList ++ ·) := by
  show (find name values).bind (fun value => value.render.bind fun text => (fill values rest).bind
    fun tail => some (text.toList ++ tail)) = _
  rw [h, Option.map_eq_bind]
  rfl

theorem fill_int {name : List Char} {n : Int} (rest : List Piece) (h : find name values = some (.int n)) :
    fill values (.field name :: rest) =
      (Value.int n).render.bind fun text => (fill values rest).map (text.toList ++ ·) := by
  show (find name values).bind (fun value => value.render.bind fun text => (fill values rest).bind
    fun tail => some (text.toList ++ tail)) = _
  rw [h, Option.bind_some]
  apply congrArg
  funext text
  exact Option.map_eq_bind.symm

theorem format_of_pieces {template : String} {found : List Piece} (h : pieces none template.toList = some found) :
    format template values = (fill values found).map String.ofList := by
  show (pieces none template.toList).bind (fun found => (fill values found).bind fun text =>
    some (String.ofList text)) = _
  rw [h, Option.map_eq_bind]
  rfl

theorem render_int_eq_some {n : Int} {text : String} (h : (Value.int n).render = some text) : text = toString n := by
  change (if _ then some (toString n) else none) = some text at h
  split_ifs at h
  exact (Option.some.inj h).symm

end StrFormat

namespace Delimited

variable {α : Type*} {d : α}

/-- `fields` and a delimiter behind each, then `middle`, then `rest` and a delimiter before each. -/
def record (d : α) (fields : List (List α)) (middle : List α) (rest : List (List α)) : List α :=
  fields.foldr (fun field tail => field ++ d :: tail) (middle ++ rest.flatMap (d :: ·))

theorem append_cons_inj {a b r s : List α} (ha : d ∉ a) (hb : d ∉ b) (h : a ++ d :: r = b ++ d :: s) :
    a = b ∧ r = s := by
  induction a generalizing b with
  | nil =>
      cases b with
      | nil => exact ⟨rfl, (List.cons.inj h).2⟩
      | cons y ys =>
          have hy : d = y := (List.cons.inj h).1
          exact absurd (hy ▸ List.mem_cons_self) hb
  | cons x xs ih =>
      cases b with
      | nil =>
          have hx : x = d := (List.cons.inj h).1
          exact absurd (hx ▸ List.mem_cons_self) ha
      | cons y ys =>
          obtain ⟨hhead, htail⟩ := List.cons.inj h
          obtain ⟨heq, hrest⟩ := ih (fun hm => ha (List.mem_cons_of_mem _ hm))
            (fun hm => hb (List.mem_cons_of_mem _ hm)) htail
          exact ⟨by rw [hhead, heq], hrest⟩

/-- The same from the other end. -/
theorem append_cons_inj_right {a b r s : List α} (ha : d ∉ a) (hb : d ∉ b) (h : r ++ d :: a = s ++ d :: b) :
    r = s ∧ a = b := by
  have hreverse : a.reverse ++ d :: r.reverse = b.reverse ++ d :: s.reverse := by
    have := congrArg List.reverse h
    simpa only [List.reverse_append, List.reverse_cons, List.append_assoc, List.singleton_append] using this
  obtain ⟨hab, hrs⟩ := append_cons_inj (fun hm => ha (List.mem_reverse.mp hm))
    (fun hm => hb (List.mem_reverse.mp hm)) hreverse
  exact ⟨List.reverse_injective hrs, List.reverse_injective hab⟩

theorem append_flatMap_injective {middle middle' : List α} {rest rest' : List (List α)}
    (hrest : ∀ f ∈ rest, d ∉ f) (hrest' : ∀ f ∈ rest', d ∉ f) (hlength : rest.length = rest'.length)
    (h : middle ++ rest.flatMap (d :: ·) = middle' ++ rest'.flatMap (d :: ·)) : middle = middle' ∧ rest = rest' := by
  induction rest using List.reverseRecOn generalizing rest' with
  | nil =>
      cases List.length_eq_zero_iff.mp hlength.symm
      exact ⟨List.append_cancel_right h, rfl⟩
  | append_singleton fs f ih =>
      cases rest' using List.reverseRecOn with
      | nil => simp at hlength
      | append_singleton gs g =>
          simp only [List.flatMap_append, List.flatMap_singleton, ← List.append_assoc] at h
          obtain ⟨hbefore, hlast⟩ := append_cons_inj_right (hrest f (by simp)) (hrest' g (by simp)) h
          obtain ⟨hmiddle, hfields⟩ := ih (fun x hx => hrest x (List.mem_append_left _ hx))
            (fun x hx => hrest' x (List.mem_append_left _ hx)) (by simpa using hlength) hbefore
          exact ⟨hmiddle, by rw [hfields, hlast]⟩

/-- One field may hold the delimiter: the others are cut off from both ends first. -/
theorem record_injective {fields fields' rest rest' : List (List α)} {middle middle' : List α}
    (hfields : ∀ f ∈ fields, d ∉ f) (hfields' : ∀ f ∈ fields', d ∉ f) (hrest : ∀ f ∈ rest, d ∉ f)
    (hrest' : ∀ f ∈ rest', d ∉ f) (hlength : fields.length = fields'.length)
    (hcount : rest.length = rest'.length) (h : record d fields middle rest = record d fields' middle' rest') :
    fields = fields' ∧ middle = middle' ∧ rest = rest' := by
  induction fields generalizing fields' with
  | nil =>
      cases List.length_eq_zero_iff.mp hlength.symm
      exact ⟨rfl, append_flatMap_injective hrest hrest' hcount h⟩
  | cons f fs ih =>
      cases fields' with
      | nil => cases hlength
      | cons g gs =>
          obtain ⟨hhead, htail⟩ := append_cons_inj (hfields f List.mem_cons_self) (hfields' g List.mem_cons_self) h
          obtain ⟨hfs, hmiddle⟩ := ih (fun x hx => hfields x (List.mem_cons_of_mem _ hx))
            (fun x hx => hfields' x (List.mem_cons_of_mem _ hx)) (Nat.succ.inj hlength) htail
          exact ⟨by rw [hhead, hfs], hmiddle⟩

end Delimited
