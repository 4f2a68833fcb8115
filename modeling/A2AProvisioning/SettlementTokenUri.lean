import A2AProvisioning.LibraryBase64
import A2AProvisioning.LibraryJsonLoads
import A2AProvisioning.SettlementHistory

/-! `tokenURI`, with the libraries that write its numbers and its base64 as a parameter. The text it encodes is
that of a document, which the fields of the ticket determine and which determines them. -/

namespace A2AProvisioning.Settlement

open JsonLoads JsonText

/-- OpenZeppelin's `Strings` and `Base64`. -/
structure OpenZeppelin where
  toString : Nat → String
  toHexString : Nat → Nat → String
  toHexStringAddress : Address → String
  base64Encode : Bytes → String

/-- Lowercase digits behind `0x`, padded on the left. -/
def hexText (width n : Nat) : String := "0x" ++ String.ofList (Hex.format width n)

theorem toList_hexText (width n : Nat) : (hexText width n).toList = '0' :: 'x' :: Hex.format width n := by
  rw [hexText, String.toList_append, @String.toList_ofList (Hex.format width n)]
  rfl

/-- What they are documented to return. -/
structure OpenZeppelin.Correct (oz : OpenZeppelin) : Prop where
  toString : ∀ value, oz.toString value = Nat.repr value
  toHexString : ∀ value length, 0 < length → value < 256 ^ length →
    oz.toHexString value length = hexText (2 * length) value
  toHexStringAddress : ∀ account, oz.toHexStringAddress account = hexText 40 account.toNat
  base64Encode : ∀ data, oz.base64Encode data = String.ofList (Base64.encode data)

def dataPrefix : String := "data:application/json;base64,"

variable {T : Type}

def tokenURI (oz : OpenZeppelin) (p : Platform T) (tokenId : Nat) (s : Storage T) : Except Revert String :=
  if p.erc721.owner s.token tokenId = 0 then .error .erc721
  else
    let e := s.entitlements tokenId
    let json :=
      "\x7b\"name\":\"A2A Entitlement #" ++
      oz.toString tokenId ++
      "\",\"issuer\":\"" ++
      oz.toHexStringAddress e.issuer ++
      "\",\"serviceType\":" ++
      oz.toString e.serviceType.toNat ++
      ",\"resourceId\":\"" ++
      oz.toHexString e.resourceId.toNat 32 ++
      "\",\"startTime\":" ++
      oz.toString e.startTime.toNat ++
      ",\"endTime\":" ++
      oz.toString e.endTime.toNat ++
      ",\"revoked\":" ++
      (if e.revoked then "true" else "false") ++
      ",\"termsHash\":\"" ++
      oz.toHexString e.termsHash.toNat 32 ++
      "\"\x7d"
    .ok (dataPrefix ++ oz.base64Encode (encodeUtf8 json.toList))

/-- An id and what the contract stores under it, but for the params. -/
structure Ticket where
  id : Nat
  issuer : Address
  serviceType : Uint8
  resourceId : Bytes32
  startTime : Uint64
  endTime : Uint64
  revoked : Bool
  termsHash : Bytes32
  deriving DecidableEq

def ticketOf (id : Nat) (e : Entitlement) : Ticket :=
  ⟨id, e.issuer, e.serviceType, e.resourceId, e.startTime, e.endTime, e.revoked, e.termsHash⟩

namespace Ticket

variable {F : Type}

def name (id : Nat) : String := "A2A Entitlement #" ++ Nat.repr id

theorem toList_name (id : Nat) : (name id).toList = "A2A Entitlement #".toList ++ (Nat.repr id).toList :=
  String.toList_append

def fields (t : Ticket) : List (String × Document F) :=
  [("name", .str (name t.id)), ("issuer", .str (hexText 40 t.issuer.toNat)),
    ("serviceType", .int t.serviceType.toNat), ("resourceId", .str (hexText 64 t.resourceId.toNat)),
    ("startTime", .int t.startTime.toNat), ("endTime", .int t.endTime.toNat), ("revoked", .bool t.revoked),
    ("termsHash", .str (hexText 64 t.termsHash.toNat))]

def document (t : Ticket) : Document F := .obj t.fields

/-- The text that `tokenURI` encodes. -/
theorem write_document (t : Ticket) : String.ofList (write (t.document : Document F)) =
    "\x7b\"name\":\"A2A Entitlement #" ++ Nat.repr t.id ++ "\",\"issuer\":\"" ++ hexText 40 t.issuer.toNat ++
      "\",\"serviceType\":" ++ Nat.repr t.serviceType.toNat ++ ",\"resourceId\":\"" ++
      hexText 64 t.resourceId.toNat ++ "\",\"startTime\":" ++ Nat.repr t.startTime.toNat ++ ",\"endTime\":" ++
      Nat.repr t.endTime.toNat ++ ",\"revoked\":" ++ (if t.revoked then "true" else "false") ++
      ",\"termsHash\":\"" ++ hexText 64 t.termsHash.toNat ++ "\"\x7d" := by
  have hname : "\x7b\"name\":\"A2A Entitlement #".toList =
      '{' :: (quoted "name".toList ++ ':' :: '\x22' :: "A2A Entitlement #".toList) := by decide
  have hissuer : "\",\"issuer\":\"".toList = '\x22' :: ',' :: (quoted "issuer".toList ++ [':', '\x22']) := by decide
  have hservice : "\",\"serviceType\":".toList = '\x22' :: ',' :: (quoted "serviceType".toList ++ [':']) := by decide
  have hresource : ",\"resourceId\":\"".toList = ',' :: (quoted "resourceId".toList ++ [':', '\x22']) := by decide
  have hstart : "\",\"startTime\":".toList = '\x22' :: ',' :: (quoted "startTime".toList ++ [':']) := by decide
  have hend : ",\"endTime\":".toList = ',' :: (quoted "endTime".toList ++ [':']) := by decide
  have hrevoked : ",\"revoked\":".toList = ',' :: (quoted "revoked".toList ++ [':']) := by decide
  have hterms : ",\"termsHash\":\"".toList = ',' :: (quoted "termsHash".toList ++ [':', '\x22']) := by decide
  have hclose : "\"\x7d".toList = ['\x22', '}'] := by decide
  have hnumber : ∀ n : Nat, (toString (n : Int)).toList = n.repr.toList := fun _ => rfl
  have hflag : write (.bool t.revoked : Document F) = (if t.revoked then "true" else "false").toList := by
    cases t.revoked <;> rfl
  apply String.toList_injective
  rw [String.toList_ofList]
  simp only [document, fields, write_obj, write_int, write_str, writeMembers, hflag, hnumber, hname, hissuer,
    hservice, hresource, hstart, hend, hrevoked, hterms, hclose, quoted, toList_name, String.toList_append,
    List.append_assoc, List.cons_append, List.nil_append]

theorem plain_hexText (width n : Nat) : Plain (hexText width n).toList := by
  have hmark : Plain ['0', 'x'] := plain_of_all (by decide)
  have hdigits : Plain (Hex.format width n) := plain_of_isHexDigit fun c hc => Hex.isDigit_format hc
  rw [toList_hexText]
  exact hmark.append hdigits

theorem plain_name (id : Nat) : Plain (name id).toList := by
  have htext : Plain "A2A Entitlement #".toList := plain_of_all (by decide)
  rw [toList_name]
  refine htext.append (plain_of_isDigit fun c hc => ?_)
  exact Decimal.isDigit_of_mem_toString (n := id) hc

theorem length_toString_le {n : Nat} (hn : n < 2 ^ 64) :
    (toString (n : Int).natAbs).toList.length ≤ Decimal.maxStrDigits := by
  have hle : n < 10 ^ 20 := hn.trans (by decide)
  have hdigits := (Nat.length_toDigits_le_iff (b := 10) (by decide) (by decide : 0 < 20)).mpr hle
  rw [Int.natAbs_natCast, Nat.toString_eq_repr, Nat.toList_repr]
  exact hdigits.trans (by decide)

theorem writable_document (t : Ticket) : Writable (t.document : Document F) := by
  have htype : t.serviceType.toNat < 2 ^ 64 := t.serviceType.isLt.trans (by decide)
  refine ⟨by simp [fields], ?_⟩
  exact ⟨plain_of_all (by decide), plain_name _, plain_of_all (by decide), plain_hexText _ _,
    plain_of_all (by decide), length_toString_le htype, plain_of_all (by decide), plain_hexText _ _,
    plain_of_all (by decide), length_toString_le t.startTime.isLt, plain_of_all (by decide),
    length_toString_le t.endTime.isLt, plain_of_all (by decide), trivial, plain_of_all (by decide),
    plain_hexText _ _, trivial⟩

/-- What stands behind a mark. -/
def behind (mark : List Char) (s : String) : Option (List Char) :=
  if mark.isPrefixOf s.toList then some (s.toList.drop mark.length) else none

def readId (s : String) : Option Nat :=
  (behind "A2A Entitlement #".toList s).bind fun digits =>
    if digits ≠ [] ∧ digits.all Char.isDigit then some (Decimal.valueOf digits) else none

def readHex (bits : Nat) (s : String) : Option (BitVec bits) :=
  (behind ['0', 'x'] s).bind fun digits => (Hex.readInt digits).bind fun n =>
    if n < 2 ^ bits then some (BitVec.ofNat bits n) else none

def readUint (bits : Nat) : Document F → Option (BitVec bits)
  | .int n => if 0 ≤ n ∧ n < 2 ^ bits then some (BitVec.ofNat bits n.toNat) else none
  | _ => none

def readStr {α : Type} (read : String → Option α) : Document F → Option α
  | .str s => read s
  | _ => none

def readFlag : Document F → Option Bool
  | .bool b => some b
  | _ => none

/-- The ticket a document of this form stands for. -/
def read (document : Document F) : Option Ticket := do
  let fields ← document.members
  let id ← (OrderedDict.find "name" fields).bind (readStr readId)
  let issuer ← (OrderedDict.find "issuer" fields).bind (readStr (readHex 160))
  let serviceType ← (OrderedDict.find "serviceType" fields).bind (readUint 8)
  let resourceId ← (OrderedDict.find "resourceId" fields).bind (readStr (readHex 256))
  let startTime ← (OrderedDict.find "startTime" fields).bind (readUint 64)
  let endTime ← (OrderedDict.find "endTime" fields).bind (readUint 64)
  let revoked ← (OrderedDict.find "revoked" fields).bind readFlag
  let termsHash ← (OrderedDict.find "termsHash" fields).bind (readStr (readHex 256))
  some ⟨id, issuer, serviceType, resourceId, startTime, endTime, revoked, termsHash⟩

theorem behind_append {mark digits : List Char} {s : String} (h : s.toList = mark ++ digits) :
    behind mark s = some digits := by
  rw [behind, h, if_pos (List.isPrefixOf_iff_prefix.mpr (List.prefix_append _ _)), List.drop_left]

theorem readId_name (id : Nat) : readId (name id) = some id := by
  have hdigits : (Nat.repr id).toList.all Char.isDigit = true :=
    List.all_eq_true.mpr fun c hc => Decimal.isDigit_of_mem_toString (n := id) hc
  have hne : (Nat.repr id).toList ≠ [] := Decimal.toString_ne_nil id
  have hvalue : Decimal.valueOf (Nat.repr id).toList = id := Decimal.valueOf_toString id
  rw [readId, behind_append (toList_name id), Option.bind_some, if_pos ⟨hne, hdigits⟩, hvalue]

theorem readHex_hexText {bits : Nat} (width : Nat) (n : BitVec bits) :
    readHex bits (hexText width n.toNat) = some n := by
  have hbehind : behind ['0', 'x'] (hexText width n.toNat) = some (Hex.format width n.toNat) :=
    behind_append (toList_hexText width n.toNat)
  have hdigits : (Hex.format width n.toNat).all Hex.isDigit = true :=
    List.all_eq_true.mpr fun c hc => Hex.isDigit_format hc
  have hne : Hex.format width n.toNat ≠ [] := by
    intro hnil
    have hdigit := (List.append_eq_nil_iff.mp hnil).2
    exact Nat.toDigits_ne_nil hdigit
  have hread : Hex.readInt (Hex.format width n.toNat) = some n.toNat := by
    rw [Hex.readInt, if_pos ⟨hne, hdigits⟩, Hex.valueOf_format]
  rw [readHex, hbehind, Option.bind_some, hread, Option.bind_some, if_pos n.isLt, BitVec.ofNat_toNat, BitVec.setWidth_eq]

theorem readUint_toNat {bits : Nat} (n : BitVec bits) : readUint bits (.int n.toNat : Document F) = some n := by
  have hlt : (n.toNat : Int) < 2 ^ bits := by exact_mod_cast n.isLt
  rw [readUint, if_pos ⟨Int.natCast_nonneg _, hlt⟩, Int.toNat_natCast, BitVec.ofNat_toNat, BitVec.setWidth_eq]

theorem readStr_str {α : Type} (read : String → Option α) (s : String) : readStr read (.str s : Document F) = read s :=
  rfl

theorem find_fields (t : Ticket) :
    OrderedDict.find "name" (t.fields : List (String × Document F)) = some (.str (name t.id)) ∧
    OrderedDict.find "issuer" (t.fields : List (String × Document F)) = some (.str (hexText 40 t.issuer.toNat)) ∧
    OrderedDict.find "serviceType" (t.fields : List (String × Document F)) = some (.int t.serviceType.toNat) ∧
    OrderedDict.find "resourceId" (t.fields : List (String × Document F)) =
      some (.str (hexText 64 t.resourceId.toNat)) ∧
    OrderedDict.find "startTime" (t.fields : List (String × Document F)) = some (.int t.startTime.toNat) ∧
    OrderedDict.find "endTime" (t.fields : List (String × Document F)) = some (.int t.endTime.toNat) ∧
    OrderedDict.find "revoked" (t.fields : List (String × Document F)) = some (.bool t.revoked) ∧
    OrderedDict.find "termsHash" (t.fields : List (String × Document F)) =
      some (.str (hexText 64 t.termsHash.toNat)) := by
  refine ⟨?_, ?_, ?_, ?_, ?_, ?_, ?_, ?_⟩ <;> simp [fields, OrderedDict.find]

theorem read_of_fields {document : Document F} {fields : List (String × Document F)} (t : Ticket)
    (hfields : document.members = some fields)
    (hname : (OrderedDict.find "name" fields).bind (readStr readId) = some t.id)
    (hissuer : (OrderedDict.find "issuer" fields).bind (readStr (readHex 160)) = some t.issuer)
    (htype : (OrderedDict.find "serviceType" fields).bind (readUint 8) = some t.serviceType)
    (hresource : (OrderedDict.find "resourceId" fields).bind (readStr (readHex 256)) = some t.resourceId)
    (hstart : (OrderedDict.find "startTime" fields).bind (readUint 64) = some t.startTime)
    (hend : (OrderedDict.find "endTime" fields).bind (readUint 64) = some t.endTime)
    (hrevoked : (OrderedDict.find "revoked" fields).bind readFlag = some t.revoked)
    (hterms : (OrderedDict.find "termsHash" fields).bind (readStr (readHex 256)) = some t.termsHash) :
    read document = some t := by
  unfold read
  simp only [hfields, hname, hissuer, htype, hresource, hstart, hend, hrevoked, hterms, Option.bind_eq_bind,
    Option.bind_some]

/-- Every field is read back from the document. -/
theorem read_document (t : Ticket) : read (t.document : Document F) = some t := by
  obtain ⟨hname, hissuer, htype, hresource, hstart, hend, hrevoked, hterms⟩ := @find_fields F t
  apply read_of_fields t rfl
  · rw [hname, Option.bind_some, readStr_str, readId_name]
  · rw [hissuer, Option.bind_some, readStr_str, readHex_hexText]
  · rw [htype, Option.bind_some, readUint_toNat]
  · rw [hresource, Option.bind_some, readStr_str, readHex_hexText]
  · rw [hstart, Option.bind_some, readUint_toNat]
  · rw [hend, Option.bind_some, readUint_toNat]
  · rw [hrevoked, Option.bind_some, readFlag]
  · rw [hterms, Option.bind_some, readStr_str, readHex_hexText]

theorem document_injective {t t' : Ticket} (h : (t.document : Document F) = t'.document) : t = t' := by
  have hread := congrArg read h
  rw [read_document, read_document] at hread
  exact Option.some.inj hread

/-- The text of the document, as a URI that carries it. -/
def uri (t : Ticket) : String :=
  dataPrefix ++ String.ofList (Base64.encode (encodeUtf8 (write (t.document : Document Empty))))

theorem uri_eq (t : Ticket) :
    t.uri = dataPrefix ++ String.ofList (Base64.encode (encodeUtf8 (write (t.document : Document F)))) := by
  have htext : write (t.document : Document Empty) = write (t.document : Document F) :=
    String.ofList_injective ((write_document t).trans (write_document t).symm)
  rw [uri, htext]

end Ticket

variable {oz : OpenZeppelin} {p : Platform T} {s : Storage T} {id : Nat}

/-- For a minted id the URI is that of its ticket, and an id without an owner has none. -/
theorem tokenURI_eq (hoz : oz.Correct) :
    tokenURI oz p id s = if Minted p s id then .ok (ticketOf id (s.entitlements id)).uri else .error .erc721 := by
  by_cases hminted : Minted p s id
  · have hissuer : (s.entitlements id).issuer.toNat < 2 ^ 160 := (s.entitlements id).issuer.isLt
    have hbytes : ∀ w : Bytes32, oz.toHexString w.toNat 32 = hexText 64 w.toNat :=
      fun w => hoz.toHexString w.toNat 32 (by decide) w.isLt
    have howner : ¬ p.erc721.owner s.token id = 0 := hminted
    rw [if_pos hminted, tokenURI, if_neg howner]
    simp only [hoz.toString, hoz.toHexStringAddress, hoz.base64Encode, hbytes]
    rw [Ticket.uri, ← @String.toList_ofList (write _), Ticket.write_document]
    rfl
  · have howner : p.erc721.owner s.token id = 0 := not_not.mp hminted
    rw [if_neg hminted, tokenURI, if_pos howner]

end A2AProvisioning.Settlement
