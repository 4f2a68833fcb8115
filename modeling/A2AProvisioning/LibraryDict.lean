import Mathlib.Data.List.Basic
import Mathlib.Data.List.Nodup

/-! Insertion-ordered dictionaries: a list of entries whose keys are distinct. Assigning to a
present key keeps its place, assigning to a new key appends, so the entries stay in the order in
which their keys were first assigned. -/

structure OrderedDict (K V : Type) where
  entries : List (K × V)
  nodup : (entries.map Prod.fst).Nodup

namespace OrderedDict

variable {K V : Type} [DecidableEq K]

/-- Reading an entry list at a key. -/
def find (key : K) : List (K × V) → Option V
  | [] => none
  | (k, v) :: rest => if k = key then some v else find key rest

/-- Assignment on an entry list. -/
def assign (key : K) (value : V) : List (K × V) → List (K × V)
  | [] => [(key, value)]
  | (k, v) :: rest => if k = key then (k, value) :: rest else (k, v) :: assign key value rest

theorem mem_keys_assign {key k : K} {value : V} {entries : List (K × V)} :
    k ∈ (assign key value entries).map Prod.fst ↔ k = key ∨ k ∈ entries.map Prod.fst := by
  induction entries with
  | nil => simp [assign]
  | cons entry rest ih =>
      obtain ⟨k', v'⟩ := entry
      by_cases hk : k' = key
      · subst hk
        simp [assign]
      · simp only [assign, if_neg hk, List.map_cons, List.mem_cons, ih]
        tauto

theorem nodup_assign (key : K) (value : V) {entries : List (K × V)}
    (hnodup : (entries.map Prod.fst).Nodup) : ((assign key value entries).map Prod.fst).Nodup := by
  induction entries with
  | nil => simp [assign]
  | cons entry rest ih =>
      obtain ⟨k', v'⟩ := entry
      obtain ⟨hhead, hrest⟩ := List.nodup_cons.mp hnodup
      by_cases hk : k' = key
      · simpa [assign, hk] using hnodup
      · simp only [assign, if_neg hk, List.map_cons, List.nodup_cons]
        refine ⟨fun hmem => ?_, ih hrest⟩
        rcases mem_keys_assign.mp hmem with heq | hmem
        · exact hk heq
        · exact hhead hmem

theorem assign_of_notMem {key : K} (value : V) {entries : List (K × V)} (h : key ∉ entries.map Prod.fst) :
    assign key value entries = entries ++ [(key, value)] := by
  induction entries with
  | nil => rfl
  | cons entry rest ih =>
      obtain ⟨k, v⟩ := entry
      rw [List.map_cons, List.mem_cons, not_or] at h
      rw [assign, if_neg (Ne.symm h.1), ih h.2, List.cons_append]

theorem find_assign (key k : K) (value : V) (entries : List (K × V)) :
    find k (assign key value entries) = if k = key then some value else find k entries := by
  induction entries with
  | nil => simp [assign, find, eq_comm]
  | cons entry rest ih =>
      obtain ⟨k', v'⟩ := entry
      by_cases hk : k' = key
      · subst hk
        by_cases hk' : k' = k
        · simp [assign, find, hk']
        · simp [assign, find, hk', Ne.symm hk']
      · by_cases hk' : k' = k
        · subst hk'
          simp [assign, find, hk]
        · simp [assign, find, hk, hk', ih]

theorem find_eq_some_iff {key : K} {value : V} {entries : List (K × V)}
    (hnodup : (entries.map Prod.fst).Nodup) :
    find key entries = some value ↔ (key, value) ∈ entries := by
  induction entries with
  | nil => simp [find]
  | cons entry rest ih =>
      obtain ⟨k', v'⟩ := entry
      obtain ⟨hhead, hrest⟩ := List.nodup_cons.mp hnodup
      by_cases hk : k' = key
      · subst hk
        have hnot : (k', value) ∉ rest := fun hmem => hhead (List.mem_map.mpr ⟨_, hmem, rfl⟩)
        simp [find, hnot, eq_comm]
      · simp [find, hk, ih hrest, Ne.symm hk]

theorem find_filter (key k : K) (entries : List (K × V)) :
    find k (entries.filter fun entry => entry.1 ≠ key) = if k = key then none else find k entries := by
  induction entries with
  | nil => simp [find]
  | cons entry rest ih =>
      obtain ⟨k', v'⟩ := entry
      by_cases hk : k' = key
      · subst hk
        by_cases hk' : k' = k
        · subst hk'
          simpa using ih
        · simpa [find, hk', Ne.symm hk'] using ih
      · by_cases hk' : k' = k
        · subst hk'
          simp [find, hk]
        · simpa [find, hk, hk'] using ih

def empty : OrderedDict K V := ⟨[], List.nodup_nil⟩

def get? (d : OrderedDict K V) (key : K) : Option V := find key d.entries

def insert (d : OrderedDict K V) (key : K) (value : V) : OrderedDict K V :=
  ⟨assign key value d.entries, nodup_assign key value d.nodup⟩

def erase (d : OrderedDict K V) (key : K) : OrderedDict K V :=
  ⟨d.entries.filter fun entry => entry.1 ≠ key, d.nodup.sublist (List.filter_sublist.map _)⟩

def values (d : OrderedDict K V) : List V := d.entries.map Prod.snd

@[simp] theorem get?_empty (key : K) : (empty : OrderedDict K V).get? key = none := rfl

@[simp] theorem get?_insert (d : OrderedDict K V) (key k : K) (value : V) :
    (d.insert key value).get? k = if k = key then some value else d.get? k :=
  find_assign key k value d.entries

@[simp] theorem get?_erase (d : OrderedDict K V) (key k : K) :
    (d.erase key).get? k = if k = key then none else d.get? k :=
  find_filter key k d.entries

/-- Erasing an absent key does nothing. -/
theorem erase_of_get?_eq_none {d : OrderedDict K V} {key : K} (hnone : d.get? key = none) :
    d.erase key = d := by
  obtain ⟨entries, nodup⟩ := d
  have hall : entries.filter (fun entry => entry.1 ≠ key) = entries := by
    refine List.filter_eq_self.mpr fun entry hmem => decide_eq_true fun heq => ?_
    have hsome : find entry.1 entries = some entry.2 := (find_eq_some_iff nodup).mpr hmem
    rw [heq] at hsome
    cases hnone.symm.trans hsome
  simp only [erase, hall]

theorem mem_values {d : OrderedDict K V} {value : V} :
    value ∈ d.values ↔ ∃ key, d.get? key = some value := by
  simp only [values, get?, List.mem_map, find_eq_some_iff d.nodup, Prod.exists, exists_eq_right]

theorem mem_entries {d : OrderedDict K V} {key : K} {value : V} :
    (key, value) ∈ d.entries ↔ d.get? key = some value :=
  (find_eq_some_iff d.nodup).symm

def mapValues {W : Type} (f : V → W) (d : OrderedDict K V) : OrderedDict K W where
  entries := d.entries.map fun entry => (entry.1, f entry.2)
  nodup := by
    rw [List.map_map]
    exact d.nodup

@[simp] theorem get?_mapValues {W : Type} (f : V → W) (d : OrderedDict K V) (key : K) :
    (d.mapValues f).get? key = (d.get? key).map f := by
  obtain ⟨entries, nodup⟩ := d
  show find key (entries.map fun entry => (entry.1, f entry.2)) = (find key entries).map f
  clear nodup
  induction entries with
  | nil => rfl
  | cons entry rest ih =>
      rw [List.map_cons, find, find, ih]
      split_ifs <;> rfl

/-- A dictionary kept in a larger state, under steps of which those of the form `stepOf key` erase a key
and the others leave it alone: in the end the keys of all the steps are gone. -/
theorem get?_foldl_erase {S A : Type} (table : S → OrderedDict K V) (step : S → A → S) (stepOf : K → A)
    [DecidableEq A] (hhit : ∀ s key, table (step s (stepOf key)) = (table s).erase key)
    (hmiss : ∀ s a, (∀ key, a ≠ stepOf key) → table (step s a) = table s)
    (hinj : Function.Injective stepOf) (s : S) (as : List A) (key : K) :
    (table (as.foldl step s)).get? key = if stepOf key ∈ as then none else (table s).get? key := by
  induction as generalizing s with
  | nil => rfl
  | cons a as ih =>
      rw [List.foldl_cons, ih]
      by_cases ha : ∃ k, a = stepOf k
      · obtain ⟨k, rfl⟩ := ha
        rw [hhit, get?_erase]
        by_cases hk : key = k
        · simp [hk]
        · simp [hk, hinj.ne hk]
      · have hne : ∀ k, a ≠ stepOf k := fun k heq => ha ⟨k, heq⟩
        rw [hmiss s a hne]
        simp [Ne.symm (hne key)]

/-- What is left in the end, in the order in which it was. -/
theorem entries_foldl_erase {S A : Type} (table : S → OrderedDict K V) (step : S → A → S) (stepOf : K → A)
    [DecidableEq A] (hhit : ∀ s key, table (step s (stepOf key)) = (table s).erase key)
    (hmiss : ∀ s a, (∀ key, a ≠ stepOf key) → table (step s a) = table s)
    (hinj : Function.Injective stepOf) (s : S) (as : List A) :
    (table (as.foldl step s)).entries = (table s).entries.filter fun entry => stepOf entry.1 ∉ as := by
  induction as generalizing s with
  | nil => simp
  | cons a as ih =>
      rw [List.foldl_cons, ih]
      by_cases ha : ∃ k, a = stepOf k
      · obtain ⟨k, rfl⟩ := ha
        rw [hhit, erase, List.filter_filter]
        refine List.filter_congr fun entry _ => ?_
        simp only [List.mem_cons, hinj.eq_iff, not_or, Bool.decide_and, Bool.and_comm, ne_eq]
      · have hne : ∀ k, a ≠ stepOf k := fun k heq => ha ⟨k, heq⟩
        rw [hmiss s a hne]
        refine List.filter_congr fun entry _ => ?_
        simp only [List.mem_cons, (hne entry.1).symm, false_or]

/-- Erasing commutes with a map of the values. -/
theorem mapValues_erase {W : Type} (f : V → W) (d : OrderedDict K V) (key : K) :
    (d.erase key).mapValues f = (d.mapValues f).erase key := by
  simp only [mapValues, erase, List.filter_map, Function.comp_def]

theorem assign_map {W : Type} (f : V → W) (key : K) (value : V) (entries : List (K × V)) :
    (assign key value entries).map (fun entry => (entry.1, f entry.2)) =
      assign key (f value) (entries.map fun entry => (entry.1, f entry.2)) := by
  induction entries with
  | nil => rfl
  | cons entry rest ih =>
      simp only [assign, List.map_cons]
      split_ifs
      · rfl
      · rw [List.map_cons, ih]

/-- So does an assignment. -/
theorem mapValues_insert {W : Type} (f : V → W) (d : OrderedDict K V) (key : K) (value : V) :
    (d.insert key value).mapValues f = (d.mapValues f).insert key (f value) := by
  simp only [mapValues, insert, assign_map]

/-- An assignment is gone once its key is erased. -/
theorem erase_insert (d : OrderedDict K V) (key : K) (value : V) : (d.insert key value).erase key = d.erase key := by
  have hfilter : ∀ entries : List (K × V), (assign key value entries).filter (fun entry => entry.1 ≠ key) =
      entries.filter fun entry => entry.1 ≠ key := by
    intro entries
    induction entries with
    | nil => simp [assign]
    | cons entry rest ih =>
        by_cases hkey : entry.1 = key
        · simp [assign, hkey]
        · simp only [assign, if_neg hkey]
          rw [List.filter_cons_of_pos (by simpa using hkey), List.filter_cons_of_pos (by simpa using hkey), ih]
  simp only [insert, erase, hfilter]

/-- Erasing an absent key alone changes nothing. -/
theorem erase_eq_self_iff {d : OrderedDict K V} {key : K} : d.erase key = d ↔ d.get? key = none := by
  refine ⟨fun h => ?_, erase_of_get?_eq_none⟩
  rw [← h, get?_erase, if_pos rfl]

theorem countP_assign (holds : K × V → Bool) (key : K) (value : V) (entries : List (K × V)) :
    (assign key value entries).countP holds + ((find key entries).any fun old => holds (key, old)).toNat =
      entries.countP holds + (holds (key, value)).toNat := by
  have hcons : ∀ entry (rest : List (K × V)), (entry :: rest).countP holds = rest.countP holds + (holds entry).toNat := by
    intro entry rest
    rw [List.countP_cons]
    cases holds entry <;> rfl
  induction entries with
  | nil =>
      rw [assign, hcons]
      rfl
  | cons entry rest ih =>
      obtain ⟨k, v⟩ := entry
      by_cases hk : k = key
      · subst hk
        simp only [assign, find, if_true, hcons, Option.any_some]
        omega
      · simp only [assign, find, if_neg hk, hcons]
        omega

/-- An assignment takes the old entry off the count, and puts the new one on. -/
theorem countP_insert (d : OrderedDict K V) (holds : K × V → Bool) (key : K) (value : V) :
    (d.insert key value).entries.countP holds + ((d.get? key).any fun old => holds (key, old)).toNat =
      d.entries.countP holds + (holds (key, value)).toNat :=
  countP_assign holds key value d.entries

end OrderedDict
