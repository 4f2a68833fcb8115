import Mathlib.Data.List.Forall2
import Mathlib.Data.List.Nodup
import Mathlib.Data.List.Perm.Basic

/-! JSON values as a Python program reads them: a read that raises is `none`. A tree of data whose names are
identifiers can be rendered with module prefixes on its names and with its lists and members in any order;
what a reader finds who strips the prefixes is what the tree has. -/

inductive Json
  | null
  | bool (value : Bool)
  | number (value : Int)
  | str (value : String)
  | arr (items : List Json)
  | obj (members : List (String × Json))

namespace Json

/-- Of two members with one name the later one counts. -/
def lookup (name : String) : List (String × Json) → Option Json
  | [] => none
  | (key, value) :: rest => (lookup name rest).or (if key = name then some value else none)

/-- `node[name]` on a mapping. -/
def index (name : String) : Json → Option Json
  | .obj members => lookup name members
  | _ => none

/-- `node[i]` on a list. -/
def item (i : Nat) : Json → Option Json
  | .arr items => items[i]?
  | _ => none

/-- `node.get(name, default)`. -/
def getD (node : Json) (name : String) (default : Json) : Option Json :=
  match node with
  | .obj members => some ((lookup name members).getD default)
  | _ => none

/-- `node or default`. -/
def orElse (node default : Json) : Json :=
  match node with
  | .null => default
  | .bool false => default
  | .number 0 => default
  | .str "" => default
  | .arr [] => default
  | .obj [] => default
  | node => node

/-- `for item in node`. -/
def iterate : Json → Option (List Json)
  | .arr items => some items
  | .obj members => some ((members.map Prod.fst).eraseDups.map .str)
  | .str value => some (value.toList.map fun c => .str (String.singleton c))
  | _ => none

/-- `node == text` for a string on the right. -/
def isStr (text : String) : Json → Bool
  | .str value => value = text
  | _ => false

theorem isStr_iff {text : String} {node : Json} : node.isStr text = true ↔ node = .str text := by
  cases node <;> simp [isStr]

/-- `name.split(":", 1)[-1]`. -/
def localName (name : String) : String :=
  match name.toList.dropWhile fun c => c ≠ ':' with
  | [] => name
  | _ :: rest => String.ofList rest

mutual

/-- Every name of the tree without its prefix. -/
def denamespace : Json → Json
  | .null => .null
  | .bool value => .bool value
  | .number value => .number value
  | .str value => .str value
  | .arr items => .arr (denamespaceItems items)
  | .obj members => .obj (denamespaceMembers members)

def denamespaceItems : List Json → List Json
  | [] => []
  | item :: rest => denamespace item :: denamespaceItems rest

def denamespaceMembers : List (String × Json) → List (String × Json)
  | [] => []
  | (name, value) :: rest => (localName name, denamespace value) :: denamespaceMembers rest

end

theorem denamespaceItems_eq (items : List Json) : denamespaceItems items = items.map denamespace := by
  induction items with
  | nil => rw [denamespaceItems, List.map_nil]
  | cons item rest ih => rw [denamespaceItems, ih, List.map_cons]

theorem denamespaceMembers_eq (members : List (String × Json)) :
    denamespaceMembers members = members.map fun member => (localName member.1, denamespace member.2) := by
  induction members with
  | nil => rw [denamespaceMembers, List.map_nil]
  | cons member rest ih =>
      obtain ⟨name, value⟩ := member
      rw [denamespaceMembers, ih, List.map_cons]

def IsIdentifier (name : String) : Prop := ':' ∉ name.toList

instance (name : String) : Decidable (IsIdentifier name) := inferInstanceAs (Decidable (':' ∉ name.toList))

/-- The name as it stands, or behind the name of its module. -/
def Spells (name spelled : String) : Prop :=
  spelled = name ∨ ∃ qualifier, IsIdentifier qualifier ∧ spelled = qualifier ++ ":" ++ name

/-- A rendering of a tree: the names as a peer spells them, the items and the members in any order. -/
inductive Renders : Json → Json → Prop
  | null : Renders .null .null
  | bool (value : Bool) : Renders (.bool value) (.bool value)
  | number (value : Int) : Renders (.number value) (.number value)
  | str (value : String) : Renders (.str value) (.str value)
  | arr {items items' rendered : List Json} (hitems : List.Forall₂ Renders items items')
      (hperm : items'.Perm rendered) : Renders (.arr items) (.arr rendered)
  | obj {members members' rendered : List (String × Json)} (hnodup : (members.map Prod.fst).Nodup)
      (hnames : ∀ name ∈ members.map Prod.fst, IsIdentifier name)
      (hspells : List.Forall₂ Spells (members.map Prod.fst) (members'.map Prod.fst))
      (hvalues : List.Forall₂ Renders (members.map Prod.snd) (members'.map Prod.snd))
      (hperm : members'.Perm rendered) : Renders (.obj members) (.obj rendered)

theorem localName_of_spells {name spelled : String} (hname : IsIdentifier name) (h : Spells name spelled) :
    localName spelled = name := by
  have hdrop : ∀ (cs rest : List Char), ':' ∉ cs → (cs ++ rest).dropWhile (fun c => c ≠ ':') =
      rest.dropWhile fun c => c ≠ ':' := by
    intro cs rest hcs
    induction cs with
    | nil => rfl
    | cons c cs ih =>
        rw [List.mem_cons, not_or] at hcs
        have hc : decide (c ≠ ':') = true := decide_eq_true fun heq => hcs.1 heq.symm
        rw [List.cons_append, List.dropWhile_cons, if_pos hc, ih hcs.2]
  rcases h with rfl | ⟨qualifier, hqualifier, rfl⟩
  · have hnil : spelled.toList.dropWhile (fun c => c ≠ ':') = [] := by
      have hall := hdrop spelled.toList [] hname
      rwa [List.append_nil] at hall
    rw [localName, hnil]
  · have hcons : (qualifier ++ ":" ++ name).toList.dropWhile (fun c => c ≠ ':') = ':' :: name.toList := by
      rw [String.toList_append, String.toList_append, List.append_assoc, hdrop _ _ hqualifier]
      rfl
    rw [localName, hcons]
    exact String.ofList_toList

theorem lookup_eq_some_iff {name : String} {value : Json} {members : List (String × Json)}
    (hnodup : (members.map Prod.fst).Nodup) : lookup name members = some value ↔ (name, value) ∈ members := by
  induction members generalizing value with
  | nil => simp [lookup]
  | cons member rest ih =>
      obtain ⟨key, value'⟩ := member
      obtain ⟨hkey, hrest⟩ := List.nodup_cons.mp hnodup
      rw [lookup, List.mem_cons, Prod.mk.injEq, Option.or_eq_some_iff, ih hrest]
      constructor
      · rintro (hmem | ⟨-, hhead⟩)
        · exact Or.inr hmem
        · split_ifs at hhead with heq
          exact Or.inl ⟨heq.symm, (Option.some.inj hhead).symm⟩
      · rintro (⟨rfl, rfl⟩ | hmem)
        · refine Or.inr ⟨?_, if_pos rfl⟩
          by_contra hsome
          obtain ⟨found, hfound⟩ := Option.ne_none_iff_exists'.mp hsome
          exact hkey (List.mem_map.mpr ⟨_, (ih hrest).mp hfound, rfl⟩)
        · exact Or.inl hmem

theorem lookup_eq_none_iff {name : String} {members : List (String × Json)}
    (hnodup : (members.map Prod.fst).Nodup) : lookup name members = none ↔ name ∉ members.map Prod.fst := by
  constructor
  · intro hnone hmem
    obtain ⟨⟨key, value⟩, hmember, rfl⟩ := List.mem_map.mp hmem
    cases hnone.symm.trans ((lookup_eq_some_iff hnodup).mpr hmember)
  · intro hnot
    by_contra hsome
    obtain ⟨value, hvalue⟩ := Option.ne_none_iff_exists'.mp hsome
    exact hnot (List.mem_map_of_mem ((lookup_eq_some_iff hnodup).mp hvalue))

/-- The stripped names of a rendering are those of the tree. -/
theorem names_of_renders {members rendered : List (String × Json)} (h : Renders (.obj members) (.obj rendered)) :
    ((denamespaceMembers rendered).map Prod.fst).Perm (members.map Prod.fst) := by
  cases h with
  | obj hnodup hnames hspells hvalues hperm =>
      rename_i members'
      have hlocal : ∀ {names spelled : List String}, (∀ name ∈ names, IsIdentifier name) →
          List.Forall₂ Spells names spelled → spelled.map localName = names := by
        intro names spelled hidentifiers hall
        induction hall with
        | nil => rfl
        | cons hhead _ ih =>
            rw [List.map_cons, localName_of_spells (hidentifiers _ List.mem_cons_self) hhead,
              ih fun name hmem => hidentifiers name (List.mem_cons_of_mem _ hmem)]
      have hmap := (hperm.map Prod.fst).map localName
      rw [hlocal hnames hspells] at hmap
      rw [denamespaceMembers_eq, List.map_map]
      rw [List.map_map] at hmap
      exact hmap.symm

/-- A member of the tree is found in the rendering, rendered. -/
theorem lookup_of_renders {members rendered : List (String × Json)} {name : String} {value : Json}
    (h : Renders (.obj members) (.obj rendered)) (hget : lookup name members = some value) :
    ∃ value', Renders value value' ∧ lookup name (denamespaceMembers rendered) = some (denamespace value') := by
  have hnames := names_of_renders h
  cases h with
  | obj hnodup hidentifiers hspells hvalues hperm =>
      rename_i members'
      have hpaired : ∀ {members members' : List (String × Json)},
          List.Forall₂ Spells (members.map Prod.fst) (members'.map Prod.fst) →
          List.Forall₂ Renders (members.map Prod.snd) (members'.map Prod.snd) → (name, value) ∈ members →
            ∃ spelled value', (spelled, value') ∈ members' ∧ Spells name spelled ∧ Renders value value' := by
        intro members
        induction members with
        | nil => exact fun _ _ hmem => absurd hmem List.not_mem_nil
        | cons member rest ih =>
            intro members' hspells hvalues hmem
            cases members' with
            | nil => cases hspells
            | cons member' rest' =>
                obtain ⟨hspelled, hspells⟩ := List.forall₂_cons.mp hspells
                obtain ⟨hvalue, hvalues⟩ := List.forall₂_cons.mp hvalues
                rcases List.mem_cons.mp hmem with rfl | hmem
                · exact ⟨member'.1, member'.2, List.mem_cons_self, hspelled, hvalue⟩
                · obtain ⟨spelled, value', hmem', hfound⟩ := ih hspells hvalues hmem
                  exact ⟨spelled, value', List.mem_cons_of_mem _ hmem', hfound⟩
      have hmem := (lookup_eq_some_iff hnodup).mp hget
      obtain ⟨spelled, value', hmem', hspelled, hvalue⟩ := hpaired hspells hvalues hmem
      refine ⟨value', hvalue, (lookup_eq_some_iff (hnames.nodup_iff.mpr hnodup)).mpr ?_⟩
      rw [denamespaceMembers_eq, ← localName_of_spells (hidentifiers name (List.mem_map_of_mem hmem)) hspelled]
      exact List.mem_map.mpr ⟨(spelled, value'), hperm.mem_iff.mp hmem', rfl⟩

/-- What is no member of the tree is not found in the rendering. -/
theorem lookup_none_of_renders {members rendered : List (String × Json)} {name : String}
    (h : Renders (.obj members) (.obj rendered)) (hnone : lookup name members = none) :
    lookup name (denamespaceMembers rendered) = none := by
  have hnames := names_of_renders h
  cases h with
  | obj hnodup _ _ _ _ =>
      rw [lookup_eq_none_iff (hnames.nodup_iff.mpr hnodup), hnames.mem_iff]
      exact (lookup_eq_none_iff hnodup).mp hnone

theorem renders_obj {members : List (String × Json)} {node : Json} (h : Renders (.obj members) node) :
    ∃ rendered, node = .obj rendered := by
  cases h with
  | obj _ _ _ _ _ => exact ⟨_, rfl⟩

theorem renders_str_iff {text : String} {value node : Json} (h : Renders value node) :
    value = .str text ↔ denamespace node = .str text := by
  cases h with
  | str value => rw [denamespace]
  | null => rw [denamespace]
  | bool value => rw [denamespace]
  | number value => rw [denamespace]
  | arr _ _ => exact iff_of_false Json.noConfusion (by rw [denamespace]; exact Json.noConfusion)
  | obj _ _ _ _ _ => exact iff_of_false Json.noConfusion (by rw [denamespace]; exact Json.noConfusion)

/-- The items of a list, in the order in which they are rendered. -/
theorem items_of_renders {items : List Json} {node : Json} (h : Renders (.arr items) node) :
    ∃ ordered rendered, node = .arr rendered ∧ items.Perm ordered ∧ List.Forall₂ Renders ordered rendered := by
  cases h with
  | arr hitems hperm =>
      obtain ⟨ordered, hordered, hrendered⟩ := List.perm_comp_forall₂ hperm.symm hitems.flip
      exact ⟨ordered, _, rfl, hrendered.symm, hordered.flip⟩

/-- A value read off a rendering of the tree. -/
def Reads (value node : Json) : Prop := ∃ rendered, Renders value rendered ∧ node = rendered.denamespace

theorem Reads.getD {members : List (String × Json)} {node : Json} {name : String} (h : Reads (.obj members) node) (default : Json) :
    (lookup name members = none ∧ node.getD name default = some default) ∨
      ∃ value value', lookup name members = some value ∧ Reads value value' ∧ node.getD name default = some value' := by
  obtain ⟨rendered, hrenders, rfl⟩ := h
  obtain ⟨rendered, rfl⟩ := renders_obj hrenders
  rw [denamespace, Json.getD]
  cases hlookup : lookup name members with
  | none => exact Or.inl ⟨rfl, by rw [lookup_none_of_renders hrenders hlookup, Option.getD_none]⟩
  | some value =>
      obtain ⟨value', hvalue, hfound⟩ := lookup_of_renders hrenders hlookup
      exact Or.inr ⟨value, _, rfl, ⟨value', hvalue, rfl⟩, by rw [hfound, Option.getD_some]⟩

theorem Reads.nodup {members : List (String × Json)} {node : Json} (h : Reads (.obj members) node) :
    (members.map Prod.fst).Nodup := by
  obtain ⟨rendered, hrenders, rfl⟩ := h
  cases hrenders with
  | obj hnodup _ _ _ _ => exact hnodup

theorem Reads.isStr {value node : Json} (h : Reads value node) (text : String) : node.isStr text = value.isStr text := by
  obtain ⟨rendered, hrenders, rfl⟩ := h
  rw [Bool.eq_iff_iff, isStr_iff, isStr_iff]
  exact (renders_str_iff hrenders).symm

theorem Reads.items {items : List Json} {node : Json} (h : Reads (.arr items) node) :
    ∃ ordered read, node = .arr read ∧ ordered.Perm items ∧ List.Forall₂ Reads ordered read := by
  obtain ⟨rendered, hrenders, rfl⟩ := h
  obtain ⟨ordered, rendered, rfl, hperm, hall⟩ := items_of_renders hrenders
  refine ⟨ordered, rendered.map denamespace, ?_, hperm.symm, ?_⟩
  · rw [denamespace, denamespaceItems_eq]
  · exact List.forall₂_map_right_iff.mpr (hall.imp fun value node hnode => ⟨node, hnode, rfl⟩)

theorem Reads.iterate {items : List Json} {node : Json} (h : Reads (.arr items) node) :
    ∃ ordered read, node.iterate = some read ∧ ordered.Perm items ∧ List.Forall₂ Reads ordered read := by
  obtain ⟨ordered, read, rfl, hperm, hall⟩ := h.items
  exact ⟨ordered, read, by rw [Json.iterate], hperm, hall⟩

theorem Reads.index {members : List (String × Json)} {node value : Json} {name : String} (h : Reads (.obj members) node)
    (hget : lookup name members = some value) : ∃ value', Reads value value' ∧ node.index name = some value' := by
  obtain ⟨rendered, hrenders, rfl⟩ := h
  obtain ⟨rendered, rfl⟩ := renders_obj hrenders
  obtain ⟨value', hvalue, hfound⟩ := lookup_of_renders hrenders hget
  exact ⟨value'.denamespace, ⟨value', hvalue, rfl⟩, by rw [denamespace, Json.index, hfound]⟩

theorem Reads.eq_str {text : String} {node : Json} (h : Reads (.str text) node) : node = .str text :=
  isStr_iff.mp ((h.isStr text).trans (isStr_iff.mpr rfl))

theorem Reads.eq_number {n : Int} {node : Json} (h : Reads (.number n) node) : node = .number n := by
  obtain ⟨rendered, hrenders, rfl⟩ := h
  cases hrenders with
  | number => rw [denamespace]

/-- What is read of a member that may be missing. -/
def Found (value : Option Json) (node : Json) : Prop :=
  value = none ∧ node = .null ∨ ∃ present, value = some present ∧ Reads present node

theorem Reads.found {members : List (String × Json)} {node : Json} (h : Reads (.obj members) node) (name : String) :
    ∃ found, node.getD name .null = some found ∧ Found (lookup name members) found := by
  rcases h.getD .null with ⟨hnone, hget⟩ | ⟨value, value', hsome, hvalue, hget⟩
  · exact ⟨.null, hget, Or.inl ⟨hnone, rfl⟩⟩
  · exact ⟨value', hget, Or.inr ⟨value, hsome, hvalue⟩⟩

theorem reads_nil : Reads (.obj []) (.obj []) := by
  refine ⟨.obj [], ?_, by rw [denamespace, denamespaceMembers]⟩
  exact .obj List.nodup_nil (fun _ hmem => absurd hmem List.not_mem_nil) .nil .nil .nil

theorem orElse_arr (items : List Json) : (Json.arr items).orElse (.arr []) = .arr items := by
  cases items <;> rfl

theorem orElse_obj (members : List (String × Json)) : (Json.obj members).orElse (.obj []) = .obj members := by
  cases members <;> rfl

/-! ### Merges -/

/-- `node` as a container, empty where it is none. -/
def membersOf : Json → List (String × Json)
  | .obj members => members
  | _ => []

def listed : Json → List Json
  | .arr items => items
  | _ => []

/-- The members with one of them written anew. -/
def write (name : String) (value : Json) (members : List (String × Json)) : List (String × Json) :=
  members.filter (fun member => member.1 ≠ name) ++ [(name, value)]

/-- The two list entries have the same key. -/
def sameKey (key : String) (entry item : Json) : Bool :=
  match entry.index key, item.index key with
  | some (.str name), some (.str name') => name = name'
  | some (.number n), some (.number n') => n = n'
  | _, _ => false

mutual

/-- An update merges into what is there: a container member by member, a list with a key leaf entry by entry;
anything else is replaced. -/
def merge (keyOf : String → Option String) (name : String) (old : Json) : Json → Json
  | .obj members => .obj (mergeMembers keyOf old.membersOf members)
  | .arr items =>
      match keyOf name with
      | some key => .arr (mergeItems keyOf name key old.listed items)
      | none => .arr items
  | .null => .null
  | .bool value => .bool value
  | .number value => .number value
  | .str value => .str value

def mergeMembers (keyOf : String → Option String) (old : List (String × Json)) :
    List (String × Json) → List (String × Json)
  | [] => old
  | (name, value) :: rest =>
      mergeMembers keyOf (write name (merge keyOf name ((lookup name old).getD .null) value) old) rest

def mergeItems (keyOf : String → Option String) (name key : String) (old : List Json) : List Json → List Json
  | [] => old
  | item :: rest =>
      mergeItems keyOf name key
        (if old.any fun entry => sameKey key entry item then
          old.map fun entry => if sameKey key entry item then merge keyOf name entry item else entry
        else old ++ [item]) rest

end

theorem lookup_append (name : String) (members rest : List (String × Json)) :
    lookup name (members ++ rest) = (lookup name rest).or (lookup name members) := by
  induction members with
  | nil => simp [lookup]
  | cons member members ih =>
      obtain ⟨key, value⟩ := member
      rw [List.cons_append, lookup, ih, lookup, Option.or_assoc]

theorem lookup_write (name key : String) (value : Json) (members : List (String × Json)) :
    lookup key (write name value members) = if key = name then some value else lookup key members := by
  have hfilter : ∀ members : List (String × Json), key ≠ name →
      lookup key (members.filter fun member => member.1 ≠ name) = lookup key members := by
    intro members hne
    induction members with
    | nil => rfl
    | cons member members ih =>
        obtain ⟨name', value'⟩ := member
        by_cases hname : name' = name
        · rw [List.filter_cons_of_neg (by simpa using hname), ih, lookup, if_neg (hname ▸ hne.symm), Option.or_none]
        · rw [List.filter_cons_of_pos (by simpa using hname), lookup, ih, lookup]
  rw [write, lookup_append]
  by_cases hkey : key = name
  · simp [lookup, hkey]
  · rw [hfilter members hkey, lookup, lookup, if_neg (Ne.symm hkey), if_neg hkey, Option.or_none, Option.none_or]

/-- A member that the update names is merged, every other one is left. -/
theorem lookup_mergeMembers (keyOf : String → Option String) (name : String) (old : List (String × Json))
    {update : List (String × Json)} (hnodup : (update.map Prod.fst).Nodup) :
    lookup name (mergeMembers keyOf old update) =
      (lookup name update).elim (lookup name old) fun value =>
        some (merge keyOf name ((lookup name old).getD .null) value) := by
  induction update generalizing old with
  | nil => rw [mergeMembers, lookup, Option.elim_none]
  | cons member rest ih =>
      obtain ⟨key, value⟩ := member
      obtain ⟨hkey, hrest⟩ := List.nodup_cons.mp hnodup
      rw [mergeMembers, ih _ hrest, lookup_write, lookup]
      by_cases hname : name = key
      · subst hname
        rw [(lookup_eq_none_iff hrest).mpr hkey]
        simp
      · rw [if_neg hname, if_neg (Ne.symm hname), Option.or_none]

theorem lookup_mergeMember (keyOf : String → Option String) (name : String) (old : List (String × Json)) (value : Json) :
    lookup name (mergeMembers keyOf old [(name, value)]) =
      some (merge keyOf name ((lookup name old).getD .null) value) := by
  rw [mergeMembers, mergeMembers, lookup_write, if_pos rfl]

mutual

/-- The names are identifiers, and no container has one twice. -/
def tidy : Json → Bool
  | .arr items => tidyItems items
  | .obj members => decide (members.map Prod.fst).Nodup && tidyMembers members
  | .null => true
  | .bool _ => true
  | .number _ => true
  | .str _ => true

def tidyItems : List Json → Bool
  | [] => true
  | item :: rest => tidy item && tidyItems rest

def tidyMembers : List (String × Json) → Bool
  | [] => true
  | (name, value) :: rest => decide (IsIdentifier name) && tidy value && tidyMembers rest

end

theorem names_of_tidyMembers {members : List (String × Json)} (h : tidyMembers members = true) :
    ∀ name ∈ members.map Prod.fst, IsIdentifier name := by
  induction members with
  | nil => exact fun _ hmem => absurd hmem List.not_mem_nil
  | cons member rest ih =>
      obtain ⟨name, value⟩ := member
      rw [tidyMembers, Bool.and_eq_true, Bool.and_eq_true, decide_eq_true_eq] at h
      exact List.forall_mem_cons.mpr ⟨h.1.1, ih h.2⟩

mutual

theorem renders_self : ∀ value : Json, value.tidy = true → Renders value value
  | .null, _ => .null
  | .bool value, _ => .bool value
  | .number value, _ => .number value
  | .str value, _ => .str value
  | .arr items, h => .arr (renders_items_self items (by rwa [tidy] at h)) (.refl _)
  | .obj members, h => by
      rw [tidy, Bool.and_eq_true, decide_eq_true_eq] at h
      refine .obj h.1 (names_of_tidyMembers h.2) ?_ (renders_members_self members h.2) (.refl _)
      exact List.forall₂_same.mpr fun _ _ => Or.inl rfl

theorem renders_items_self : ∀ items : List Json, tidyItems items = true → List.Forall₂ Renders items items
  | [], _ => .nil
  | item :: rest, h => by
      rw [tidyItems, Bool.and_eq_true] at h
      exact .cons (renders_self item h.1) (renders_items_self rest h.2)

theorem renders_members_self : ∀ members : List (String × Json), tidyMembers members = true →
    List.Forall₂ Renders (members.map Prod.snd) (members.map Prod.snd)
  | [], _ => .nil
  | (name, value) :: rest, h => by
      rw [tidyMembers, Bool.and_eq_true, Bool.and_eq_true] at h
      exact .cons (renders_self value h.1.2) (renders_members_self rest h.2)

end

end Json
