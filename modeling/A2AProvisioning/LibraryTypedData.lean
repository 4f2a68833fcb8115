import A2AProvisioning.LibraryDict
import A2AProvisioning.LibraryHex

/-! Typed structured data, as EIP-712 hashes it: a struct type is a name and typed members, a message gives
the members their values, and the struct hash is the hash of the type's own hash and one word for each
member. The hash function and the byte form of a word are parameters. -/

namespace TypedData

inductive MemberType
  | address
  | uint (bits : Nat)
  | bytes32
  | bytes
  | string
  deriving DecidableEq

def MemberType.name : MemberType → String
  | .address => "address"
  | .uint bits => "uint" ++ toString bits
  | .bytes32 => "bytes32"
  | .bytes => "bytes"
  | .string => "string"

structure StructType where
  name : String
  members : List (String × MemberType)

/-- A message holds an address as its spelling. -/
inductive Value
  | text (s : String)
  | int (n : Nat)
  | bytes (bytes : List UInt8)

abbrev Message := OrderedDict String Value

/-- `encodeType` of a struct type whose members are no structs themselves. -/
def encodeType (type : StructType) : String :=
  type.name ++ "(" ++ ",".intercalate (type.members.map fun member => member.2.name ++ " " ++ member.1) ++ ")"

/-- `0x` and so many digits. -/
def isHex (digits : Nat → Bool) (s : String) : Bool :=
  match s.toList with
  | '0' :: 'x' :: cs => digits cs.length && cs.all Hex.isDigit
  | _ => false

/-- The digits behind `0x`. -/
def digitsOf (s : String) : List Char := s.toList.drop 2

def isAddress (s : String) : Bool := isHex (fun n => n == 40) s

def addressOf (s : String) : BitVec 160 := BitVec.ofNat 160 (Hex.valueOf (digitsOf s))

variable (keccak256 : List UInt8 → BitVec 256) (word : BitVec 256 → List UInt8)

/-- `encodeData` of one member; `none` where the value is not of the type. -/
def encodeValue : MemberType → Value → Option (BitVec 256)
  | .address, .text s => if isAddress s then some ((addressOf s).setWidth 256) else none
  | .uint bits, .int n => if n < 2 ^ bits then some (BitVec.ofNat 256 n) else none
  | .bytes32, .bytes bytes => if bytes.length = 32 then some (BitVec.ofNat 256 (Hex.bigEndian bytes)) else none
  | .bytes, .bytes bytes => some (keccak256 bytes)
  | .string, .text s => some (keccak256 s.toUTF8.toList)
  | _, _ => none

def encodeMember (message : Message) (member : String × MemberType) : Option (BitVec 256) :=
  (message.get? member.1).bind (encodeValue keccak256 member.2)

def encodeData (type : StructType) (message : Message) : Option (List (BitVec 256)) :=
  type.members.mapM (encodeMember keccak256 message)

def hashType (type : StructType) : BitVec 256 := keccak256 (encodeType type).toUTF8.toList

def hashStruct (type : StructType) (message : Message) : Option (BitVec 256) :=
  (encodeData keccak256 type message).map fun words => keccak256 ((hashType keccak256 type :: words).flatMap word)

/-- The domain's own type, with the four members that are in use. -/
def domainType : StructType :=
  ⟨"EIP712Domain", [("name", .string), ("version", .string), ("chainId", .uint 256), ("verifyingContract", .address)]⟩

/-- What is signed: `0x19`, the version byte, the domain's hash and the message's. -/
structure SignableMessage where
  version : List UInt8
  header : List UInt8
  body : List UInt8

def encodeTypedData (domain : Message) (type : StructType) (message : Message) : Option SignableMessage :=
  match hashStruct keccak256 word domainType domain, hashStruct keccak256 word type message with
  | some header, some body => some ⟨[0x01], word header, word body⟩
  | _, _ => none

def SignableMessage.preimage (signable : SignableMessage) : List UInt8 :=
  0x19 :: (signable.version ++ signable.header ++ signable.body)

section Spelling

variable {digits : Nat → Bool} {s : String}

theorem digitsOf_of_isHex (h : isHex digits s = true) :
    digits (digitsOf s).length = true ∧ ∀ c ∈ digitsOf s, Hex.isDigit c = true := by
  unfold isHex at h
  split at h
  · rename_i cs hcs
    rw [digitsOf, hcs, List.drop_succ_cons, List.drop_succ_cons, List.drop_zero]
    obtain ⟨hdigits, hall⟩ := Bool.and_eq_true_iff.mp h
    exact ⟨hdigits, fun c hmem => List.all_eq_true.mp hall c hmem⟩
  · cases h

/-- The spelling in lower case. -/
def lower (s : String) : List Char := s.toList.map Char.toLower

/-- Behind the common `0x`, the case of the digits is all that can differ. -/
theorem lower_eq_iff {digits' : Nat → Bool} {s' : String} (h : isHex digits s = true) (h' : isHex digits' s' = true) :
    lower s = lower s' ↔ (digitsOf s).map Char.toLower = (digitsOf s').map Char.toLower := by
  unfold isHex at h h'
  split at h
  · rename_i cs hcs
    split at h'
    · rename_i cs' hcs'
      rw [lower, lower, digitsOf, digitsOf, hcs, hcs']
      simp only [List.map_cons, List.cons.injEq, true_and, List.drop_succ_cons, List.drop_zero]
    · cases h'
  · cases h

theorem addressOf_toNat (h : isAddress s = true) : (addressOf s).toNat = Hex.valueOf (digitsOf s) := by
  obtain ⟨hlength, hdigits⟩ := digitsOf_of_isHex h
  rw [beq_iff_eq] at hlength
  have hlt := Hex.valueOf_lt hdigits
  rw [hlength] at hlt
  rw [addressOf, BitVec.toNat_ofNat]
  exact Nat.mod_eq_of_lt (by omega)

theorem lower_eq_of_addressOf_eq {s' : String} (h : isAddress s = true) (h' : isAddress s' = true)
    (heq : addressOf s = addressOf s') : lower s = lower s' := by
  obtain ⟨hlength, hdigits⟩ := digitsOf_of_isHex h
  obtain ⟨hlength', hdigits'⟩ := digitsOf_of_isHex h'
  rw [beq_iff_eq] at hlength hlength'
  have hvalue := congrArg BitVec.toNat heq
  rw [addressOf_toNat h, addressOf_toNat h'] at hvalue
  rw [lower_eq_iff h h']
  exact Hex.toLower_eq_of_valueOf_eq (hlength.trans hlength'.symm) hdigits hdigits' hvalue

end Spelling

section Encoding

variable {keccak256}

theorem encodeValue_address {s : String} (h : isAddress s = true) :
    encodeValue keccak256 .address (.text s) = some ((addressOf s).setWidth 256) := if_pos h

theorem encodeValue_uint {bits : Nat} (n : BitVec bits) :
    encodeValue keccak256 (.uint bits) (.int n.toNat) = some (n.setWidth 256) := by
  rw [encodeValue, if_pos n.isLt, BitVec.ofNat_toNat]

theorem encodeValue_bytes32 {bytes : List UInt8} (h : bytes.length = 32) :
    encodeValue keccak256 .bytes32 (.bytes bytes) = some (BitVec.ofNat 256 (Hex.bigEndian bytes)) := if_pos h

theorem encodeValue_bytes (bytes : List UInt8) :
    encodeValue keccak256 .bytes (.bytes bytes) = some (keccak256 bytes) := rfl

theorem encodeValue_string (s : String) :
    encodeValue keccak256 .string (.text s) = some (keccak256 s.toUTF8.toList) := rfl

/-- A message that has the members in the order of the type is encoded entry by entry. -/
theorem encodeData_eq {type : StructType} {message : Message}
    (h : message.entries.map Prod.fst = type.members.map Prod.fst) :
    encodeData keccak256 type message =
      (type.members.zip message.entries).mapM fun entry => encodeValue keccak256 entry.1.2 entry.2.2 := by
  have hget : ∀ entry ∈ message.entries, message.get? entry.1 = some entry.2 := fun entry hmem =>
    OrderedDict.mem_entries.mp hmem
  have hgeneral : ∀ (members : List (String × MemberType)) (entries : List (String × Value)),
      entries.map Prod.fst = members.map Prod.fst → (∀ entry ∈ entries, message.get? entry.1 = some entry.2) →
        members.mapM (encodeMember keccak256 message) =
          (members.zip entries).mapM fun entry => encodeValue keccak256 entry.1.2 entry.2.2 := by
    intro members
    induction members with
    | nil => exact fun entries _ _ => rfl
    | cons member members ih =>
        intro entries hnames hentries
        cases entries with
        | nil => cases hnames
        | cons entry entries =>
            obtain ⟨hname, hrest⟩ := List.cons.inj hnames
            have hmember : encodeMember keccak256 message member = encodeValue keccak256 member.2 entry.2 := by
              rw [encodeMember, ← hname, hentries entry List.mem_cons_self]
              rfl
            rw [List.mapM_cons, hmember, ih entries hrest fun e he => hentries e (List.mem_cons_of_mem _ he),
              List.zip_cons_cons, List.mapM_cons]
  exact hgeneral _ _ h hget

end Encoding

end TypedData
