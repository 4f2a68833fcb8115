import A2AProvisioning.AgentsWire
import A2AProvisioning.SettlementTokenUri

/-! The wire over a JSON library that writes compact texts and reads them as `json.loads` does. What the agents send is
read back, a need at least where its names need no escapes. -/

namespace A2AProvisioning.Agents

open JsonLoads

variable {F : Type}

/-- `Literal`: the very value, of the very kind. -/
def literal : Document F → Document F → Bool
  | .int expected, .int value => value = expected
  | .str expected, .str value => value = expected
  | .bool expected, .bool value => value = expected
  | _, _ => false

theorem literal_int (n : Int) : literal (.int n : Document F) (.int n) = true :=
  decide_eq_true rfl

theorem literal_str (s : String) : literal (.str s : Document F) (.str s) = true :=
  decide_eq_true rfl

/-- Python without coercions. -/
def jsonPython (float : List Char → F) (isZero : F → Bool) : Python F where
  dumps := fun document => String.ofList (write document)
  loads := fun text => loads float text.toList
  str
    | .str value => some value
    | _ => none
  int
    | .int value => some value
    | _ => none
  literal := literal
  isZero := isZero
  str_str := fun _ => rfl
  int_int := fun _ => rfl
  literal_int := literal_int
  literal_str := literal_str
  literal_true := rfl

/-- The names in a need stand between quotes as they are. -/
def PlainNeed : ServiceNeed → Prop
  | .bandwidth need => Plain need.src.toList ∧ Plain need.dst.toList
  | .telemetry need => Plain need.target.toList ∧ (∀ path ∈ need.sensorPaths, Plain path.toList) ∧
      Plain need.collectorEndpoint.toList

theorem jsonPython_reads (float : List Char → F) (isZero : F → Bool) {document : Document F} (h : Writable document) :
    (jsonPython float isZero).Reads document := by
  change loads float (String.ofList (write document)).toList = some document
  rw [String.toList_ofList]
  exact loads_write float h

theorem plain_of_isHex {digits : Nat → Bool} {s : String} (h : TypedData.isHex digits s = true) : Plain s.toList := by
  unfold TypedData.isHex at h
  split at h
  · rename_i cs hcs
    obtain ⟨-, hall⟩ := Bool.and_eq_true_iff.mp h
    rw [hcs]
    have hmark : Plain ['0', 'x'] := plain_of_all (by decide)
    exact hmark.append (plain_of_isHexDigit fun c hmem => List.all_eq_true.mp hall c hmem)
  · cases h

theorem plain_of_isDecimalString {s : String} (h : isDecimalString s = true) : Plain s.toList := by
  obtain ⟨-, hall⟩ := Bool.and_eq_true_iff.mp h
  exact plain_of_isDigit fun c hmem => List.all_eq_true.mp hall c hmem

theorem writable_uint {bits : Nat} (hbits : bits ≤ 64) (n : BitVec bits) : Writable (.int n.toNat : Document F) :=
  Settlement.Ticket.length_toString_le (n.isLt.trans_le (Nat.pow_le_pow_right (by decide) hbits))

theorem writable_zero : Writable (.int 0 : Document F) := (by decide : (toString (0 : Int).natAbs).toList.length ≤ _)

theorem writableMembers_of_forall {members : List (String × Document F)}
    (h : ∀ member ∈ members, Plain member.1.toList ∧ Writable member.2) : WritableMembers members := by
  induction members with
  | nil => trivial
  | cons member members ih =>
      obtain ⟨hkey, hvalue⟩ := h member List.mem_cons_self
      exact ⟨hkey, hvalue, ih fun other hmem => h other (List.mem_cons_of_mem _ hmem)⟩

/-- The aliases of a schema stand between quotes as they are. -/
def PlainSchema (s : Schema) : Bool :=
  s.fields.all fun field => (s.aliasOf field).toList.all fun c => c ≠ '\x22' ∧ c ≠ '\x5c' ∧ 0x20 ≤ c.toNat

/-- A dump can be written when its values can. -/
theorem writable_dump {s : Schema} (hs : PlainSchema s = true) {values : List (String × Document F)}
    (hvalues : values.map Prod.fst = s.fields) (h : ∀ value ∈ values.map Prod.snd, Writable value) :
    Writable (.obj (s.dump values)) := by
  have hnames : (s.dump values).map Prod.fst = s.fields.map s.aliasOf := by
    rw [Schema.dump, List.map_map, ← hvalues, List.map_map]
    rfl
  refine ⟨by rw [hnames]; exact s.nodup, writableMembers_of_forall fun member hmem => ?_⟩
  obtain ⟨field, hfield, rfl⟩ := List.mem_map.mp hmem
  have hname : field.1 ∈ s.fields := hvalues ▸ List.mem_map_of_mem hfield
  have hvalue : field.2 ∈ values.map Prod.snd := List.mem_map_of_mem hfield
  exact ⟨plain_of_all (List.all_eq_true.mp hs _ hname), h _ hvalue⟩

theorem writable_window (window : TimeWindow) :
    Writable (.obj (timeWindowModel.dump (windowValues window)) : Document F) := by
  apply writable_dump (by decide) rfl
  simp [windowValues, writable_uint]

theorem writable_strings {items : List String} (h : ∀ item ∈ items, Plain item.toList) :
    WritableItems (items.map .str : List (Document F)) := by
  induction items with
  | nil => trivial
  | cons item items ih =>
      exact ⟨h item List.mem_cons_self, ih fun other hmem => h other (List.mem_cons_of_mem _ hmem)⟩

theorem writable_need {need : ServiceNeed} (h : PlainNeed need) : Writable (dumpNeed need : Document F) := by
  have hkind : ∀ {s : String}, s.toList.all (fun c => c ≠ '\x22' ∧ c ≠ '\x5c' ∧ 0x20 ≤ c.toNat) = true →
      Writable (.str s : Document F) := fun hall => plain_of_all hall
  cases need with
  | bandwidth need =>
      obtain ⟨hsrc, hdst⟩ := h
      have hsrc' : Writable (.str need.src : Document F) := hsrc
      have hdst' : Writable (.str need.dst : Document F) := hdst
      have hname : Writable (.str "bandwidth" : Document F) := hkind (by decide)
      apply writable_dump (by decide) rfl
      simp [bandwidthNeedValues, writable_uint, writable_zero, writable_window, hsrc', hdst', hname]
  | telemetry need =>
      obtain ⟨htarget, hpaths, hendpoint⟩ := h
      have htarget' : Writable (.str need.target : Document F) := htarget
      have hendpoint' : Writable (.str need.collectorEndpoint : Document F) := hendpoint
      have hpaths' : Writable (.arr (need.sensorPaths.map .str) : Document F) := writable_strings hpaths
      have hname : Writable (.str "telemetry" : Document F) := hkind (by decide)
      apply writable_dump (by decide) rfl
      simp [telemetryNeedValues, writable_uint, writable_zero, writable_window, htarget', hendpoint', hpaths', hname]

theorem writable_hex {digits : Nat → Bool} {s : String} (h : TypedData.isHex digits s = true) :
    Writable (.str s : Document F) := plain_of_isHex h

theorem writable_offer {offer : Offer} (h : offer.Valid) :
    Writable (.obj (offerModel.dump (offerValues offer)) : Document F) := by
  have hprice : Writable (.str offer.price : Document F) := plain_of_isDecimalString h.price
  apply writable_dump (by decide) rfl
  simp [offerValues, writable_uint, writable_hex h.provider, writable_hex h.consumer, writable_hex h.resourceId,
    writable_hex h.params, writable_hex h.paymentToken, hprice, writable_hex h.salt, writable_hex h.termsHash]

/-- An offer without terms holds nothing but numbers and hexadecimal. -/
theorem writable_signed {signed : SignedOfferDoc F} (hterms : signed.termsDoc = []) :
    Writable (dumpAnswer (.signed signed)) := by
  have hnoTerms : Writable (.obj signed.termsDoc) := by
    rw [hterms]
    exact ⟨List.nodup_nil, trivial⟩
  apply writable_dump (by decide) rfl
  simp [signedOfferValues, writable_zero, writable_offer signed.valid, writable_hex signed.signatureValid, hnoTerms]

end A2AProvisioning.Agents
