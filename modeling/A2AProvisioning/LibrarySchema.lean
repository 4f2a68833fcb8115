import Mathlib.Data.List.Nodup

/-! Records written as the members of a JSON object, each field under its alias. A reader takes a field from its
alias, or from its own name where the schema allows it, and can reject members that are no field. What was
dumped with one schema is read back with it. -/

/-- A JSON document; its floating-point numbers are those of `F`. -/
inductive Document (F : Type*)
  | null
  | bool (value : Bool)
  | int (value : Int)
  | float (value : F)
  | str (value : String)
  | arr (items : List (Document F))
  | obj (members : List (String × Document F))

/-- The members of a dictionary. -/
def Document.members {F : Type*} : Document F → Option (List (String × Document F))
  | .obj members => some members
  | _ => none

/-- `value == text` for a string on the right. -/
def Document.isStr {F : Type*} (text : String) : Document F → Bool
  | .str value => value = text
  | _ => false

/-- The fields of a model and the names they have on the wire. -/
structure Schema where
  fields : List String
  aliasOf : String → String
  byName : Bool
  nodup : (fields.map aliasOf).Nodup

namespace Schema

variable {F α : Type*} (s : Schema)

def dump (values : List (String × Document F)) : List (String × Document F) :=
  values.map fun field => (s.aliasOf field.1, field.2)

/-- The member that a field is taken from. -/
def keyOf (members : List (String × Document F)) (name : String) : Option String :=
  if (members.lookup (s.aliasOf name)).isSome then some (s.aliasOf name)
  else if s.byName ∧ (members.lookup name).isSome then some name
  else none

def read (members : List (String × Document F)) (name : String) : Option (Document F) :=
  (s.keyOf members name).bind fun key => members.lookup key

/-- Every member is taken by a field. -/
def closed (members : List (String × Document F)) : Bool :=
  members.all fun member => (s.fields.filterMap (s.keyOf members)).contains member.1

def required (members : List (String × Document F)) (name : String) (validate : Document F → Option α) : Option α :=
  (s.read members name).bind validate

/-- A field with a default. -/
def optional (members : List (String × Document F)) (name : String) (default : α)
    (validate : Document F → Option α) : Option α :=
  match s.read members name with
  | some value => validate value
  | none => some default

variable {s} {values : List (String × Document F)}

theorem lookup_dump (hvalues : values.map Prod.fst = s.fields) {name : String} (hname : name ∈ s.fields) :
    (s.dump values).lookup (s.aliasOf name) = values.lookup name := by
  have hinj : ∀ field ∈ values, s.aliasOf name = s.aliasOf field.1 ↔ name = field.1 := by
    intro field hfield
    have hmem : field.1 ∈ s.fields := hvalues ▸ List.mem_map_of_mem hfield
    exact ⟨fun heq => List.inj_on_of_nodup_map s.nodup hname hmem heq, fun heq => congrArg s.aliasOf heq⟩
  clear hvalues
  induction values with
  | nil => rfl
  | cons field rest ih =>
      have hhead : (s.aliasOf name == s.aliasOf field.1) = (name == field.1) := by
        rw [Bool.eq_iff_iff, beq_iff_eq, beq_iff_eq]
        exact hinj field List.mem_cons_self
      have htail := ih fun other hother => hinj other (List.mem_cons_of_mem _ hother)
      obtain ⟨key, value⟩ := field
      rw [dump, List.map_cons, List.lookup_cons, List.lookup_cons, hhead]
      rw [dump] at htail
      rw [htail]

theorem keyOf_dump (hvalues : values.map Prod.fst = s.fields) {name : String} (hname : name ∈ s.fields) :
    s.keyOf (s.dump values) name = some (s.aliasOf name) := by
  have hsome : (values.lookup name).isSome := by
    rw [List.lookup_isSome_iff]
    rw [← hvalues] at hname
    obtain ⟨field, hfield, rfl⟩ := List.mem_map.mp hname
    exact ⟨field, hfield, by simp⟩
  rw [keyOf, lookup_dump hvalues hname, if_pos hsome]

theorem read_dump (hvalues : values.map Prod.fst = s.fields) {name : String} (hname : name ∈ s.fields) :
    s.read (s.dump values) name = values.lookup name := by
  rw [read, keyOf_dump hvalues hname, Option.bind_some, lookup_dump hvalues hname]

theorem required_dump (hvalues : values.map Prod.fst = s.fields) {name : String} (hname : name ∈ s.fields)
    (validate : Document F → Option α) :
    s.required (s.dump values) name validate = (values.lookup name).bind validate := by
  rw [required, read_dump hvalues hname]

theorem optional_dump (hvalues : values.map Prod.fst = s.fields) {name : String} (hname : name ∈ s.fields)
    {value : Document F} (hvalue : values.lookup name = some value) (default : α) (validate : Document F → Option α) :
    s.optional (s.dump values) name default validate = validate value := by
  rw [optional, read_dump hvalues hname, hvalue]

theorem closed_dump (hvalues : values.map Prod.fst = s.fields) : s.closed (s.dump values) = true := by
  rw [closed, List.all_eq_true]
  intro member hmember
  obtain ⟨field, hfield, rfl⟩ := List.mem_map.mp hmember
  have hname : field.1 ∈ s.fields := hvalues ▸ List.mem_map_of_mem hfield
  rw [List.contains_iff_mem, List.mem_filterMap]
  exact ⟨field.1, hname, keyOf_dump hvalues hname⟩

end Schema
