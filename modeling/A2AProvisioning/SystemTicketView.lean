import A2AProvisioning.SettlementTokenUri

/-! The panel's view of a ticket: the metadata is decoded from the contract's URI, the owner is read beside it. -/

namespace A2AProvisioning.System

open Reentrant Settlement JsonLoads

section Decode

variable {F : Type} (float : List Char → F) (codec : Encoding → List UInt8 → Option (List Char))

/-- What stands behind the first comma of a URI, decoded and read; `none` where any of it raises. -/
def ticketMeta (uri : String) : Option (Document F) :=
  match uri.toList.dropWhile (· ≠ ',') with
  | [] => none
  | _ :: payload => (Base64.decode payload).bind (loadsBytes float codec)

structure TicketView (F : Type) where
  id : Int
  name : Document F
  symbol : String
  owner : Address
  ownerLabel : String
  issuer : Document F
  issuerLabel : String
  service : String
  window : String
  resourceId : Document F
  revoked : Document F
  metadata : Document F

/-- `eqZero` is `value == 0`, `hm` the clock time of a timestamp. -/
def ticketView (eqZero : Document F → Bool) (hm : Document F → Option String) (owner : Address) (eid : Int)
    (uri : String) : Option (TicketView F) := do
  let metadata ← ticketMeta float codec uri
  let fields ← metadata.members
  let name ← OrderedDict.find "name" fields
  let issuer ← OrderedDict.find "issuer" fields
  let serviceType ← OrderedDict.find "serviceType" fields
  let startTime ← OrderedDict.find "startTime" fields
  let opens ← hm startTime
  let endTime ← OrderedDict.find "endTime" fields
  let closes ← hm endTime
  let resourceId ← OrderedDict.find "resourceId" fields
  let revoked ← OrderedDict.find "revoked" fields
  some {
    id := eid
    name := name
    symbol := "A2AENT"
    owner := owner
    ownerLabel := "Ada"
    issuer := issuer
    issuerLabel := "Bell"
    service := if eqZero serviceType then "bandwidth" else "telemetry"
    window := opens ++ "–" ++ closes
    resourceId := resourceId
    revoked := revoked
    metadata := metadata }

/-- Behind the first comma stands the whole payload. -/
theorem dropWhile_dataPrefix (payload : List Char) :
    (dataPrefix ++ String.ofList payload).toList.dropWhile (· ≠ ',') = ',' :: payload := by
  have hhead : dataPrefix.toList = "data:application/json;base64".toList ++ [','] := by decide
  have hall : "data:application/json;base64".toList.all (fun c => c ≠ ',') = true := by decide
  have hfree : ∀ c ∈ "data:application/json;base64".toList, decide (c ≠ ',') = true := List.all_eq_true.mp hall
  rw [String.toList_append, String.toList_ofList, hhead, List.append_assoc, List.singleton_append,
    List.dropWhile_append_of_pos hfree]
  rfl

theorem loadsBytes_uri (t : Ticket) :
    loadsBytes float codec (encodeUtf8 (write (t.document : Document F))) = some t.document := by
  obtain ⟨first, others, hfields⟩ : ∃ first others, (t.fields : List (String × Document F)) = first :: others :=
    ⟨_, _, rfl⟩
  have hwritable := t.writable_document (F := F)
  rw [Ticket.document, hfields] at hwritable ⊢
  exact loadsBytes_write float codec first others hwritable

/-- Decoding the URI of a ticket gives the document of the ticket back. -/
theorem ticketMeta_uri (t : Ticket) : ticketMeta float codec t.uri = some t.document := by
  rw [ticketMeta, t.uri_eq (F := F), dropWhile_dataPrefix]
  simp only [Base64.decode_encode, Option.bind_some, loadsBytes_uri]

/-- The panel shows the ticket's own fields beside the owner that was read. -/
theorem ticketView_uri (eqZero : Document F → Bool) (hm : Document F → Option String) (owner : Address) (eid : Int)
    (t : Ticket) : ticketView float codec eqZero hm owner eid t.uri =
      (hm (.int t.startTime.toNat)).bind fun opens => (hm (.int t.endTime.toNat)).map fun closes =>
        ⟨eid, .str (Ticket.name t.id), "A2AENT", owner, "Ada", .str (hexText 40 t.issuer.toNat), "Bell",
          if eqZero (.int t.serviceType.toNat) then "bandwidth" else "telemetry", opens ++ "–" ++ closes,
          .str (hexText 64 t.resourceId.toNat), .bool t.revoked, t.document⟩ := by
  obtain ⟨hname, hissuer, htype, hresource, hstart, hend, hrevoked, -⟩ := t.find_fields (F := F)
  have hfields : (t.document : Document F).members = some t.fields := rfl
  unfold ticketView
  simp only [ticketMeta_uri, hfields, hname, hissuer, htype, hresource, hstart, hend, hrevoked, Option.bind_eq_bind,
    Option.bind_some]
  cases hm (.int t.startTime.toNat) with
  | none => rfl
  | some opens => cases hm (.int t.endTime.toNat) <;> rfl

end Decode

section Restates

variable {T : Type} {oz : OpenZeppelin} {p : Platform T}

/-- Two minted ids, or one at two moments, have one URI exactly if their tickets agree. -/
theorem tokenURI_eq_iff (hoz : oz.Correct) {s s' : Storage T} {id id' : Nat} (hminted : Minted p s id)
    (hminted' : Minted p s' id') : tokenURI oz p id s = tokenURI oz p id' s' ↔
      ticketOf id (s.entitlements id) = ticketOf id' (s'.entitlements id') := by
  rw [tokenURI_eq hoz, tokenURI_eq hoz, if_pos hminted, if_pos hminted']
  constructor
  · intro heq
    have hmeta := congrArg (ticketMeta (fun _ => ()) fun _ _ => none) (Except.ok.inj heq)
    rw [ticketMeta_uri, ticketMeta_uri] at hmeta
    exact Ticket.document_injective (Option.some.inj hmeta)
  · intro heq
    rw [heq]

/-- The minted ids of a state are those that its history issued. -/
theorem minted_iff_issued (hspec : p.erc721.Spec) (txs : List (Nat × Call Msg)) (id : Nat) :
    Minted p (history (settlement p) (deployed p) txs).1 id ↔
      ∃ mint ∈ mints (history (settlement p) (deployed p) txs).2, mint.id = id := by
  have hbooks := books_history hspec txs
  have hids : id ∈ (mints (history (settlement p) (deployed p) txs).2).map Mint.id ↔
      1 ≤ id ∧ id ≤ (history (settlement p) (deployed p) txs).1.lastId := by
    rw [hbooks.ids, List.mem_range'_1]
    omega
  exact (hbooks.owned id).trans (hids.symm.trans List.mem_map)

/-- Stripped of its prefix and decoded, the URI of a minted id is the document of its ticket, from which the id and
the stored fields are read back; nothing else about the state has a part in it. -/
theorem tokenURI_restates_storage {F : Type} (float : List Char → F)
    (codec : Encoding → List UInt8 → Option (List Char)) (hoz : oz.Correct) (hspec : p.erc721.Spec) :
    (∀ (s : Storage T) (id : Nat), Minted p s id → ∃ payload bytes document,
      tokenURI oz p id s = .ok (dataPrefix ++ payload) ∧ Base64.decode payload.toList = some bytes ∧
        loadsBytes float codec bytes = some document ∧
        ticketMeta float codec (dataPrefix ++ payload) = some document ∧
        document = (ticketOf id (s.entitlements id)).document ∧
        Ticket.read document = some (ticketOf id (s.entitlements id))) ∧
    (∀ (s s' : Storage T) (id id' : Nat), Minted p s id → Minted p s' id' →
      (tokenURI oz p id s = tokenURI oz p id' s' ↔
        ticketOf id (s.entitlements id) = ticketOf id' (s'.entitlements id'))) ∧
    (∀ (s : Storage T) (id : Nat), ¬ Minted p s id → tokenURI oz p id s = .error .erc721) ∧
    ∀ (txs : List (Nat × Call Msg)) (id : Nat), Minted p (history (settlement p) (deployed p) txs).1 id ↔
      ∃ mint ∈ mints (history (settlement p) (deployed p) txs).2, mint.id = id := by
  refine ⟨?_, ?_, ?_, minted_iff_issued hspec⟩
  · intro s id hminted
    have hbytes := loadsBytes_uri float codec (ticketOf id (s.entitlements id))
    refine ⟨String.ofList (Base64.encode (encodeUtf8 (write ((ticketOf id (s.entitlements id)).document : Document F)))),
      _, _, ?_, ?_, hbytes, ?_, rfl, Ticket.read_document _⟩
    · rw [tokenURI_eq hoz, if_pos hminted, Ticket.uri_eq (F := F)]
    · rw [String.toList_ofList]
      exact Base64.decode_encode _
    · rw [← Ticket.uri_eq]
      exact ticketMeta_uri float codec _
  · exact fun s s' id id' hminted hminted' => tokenURI_eq_iff hoz hminted hminted'
  · intro s id hminted
    rw [tokenURI_eq hoz, if_neg hminted]

/-- The two libraries as they are documented. -/
def documentedOpenZeppelin : OpenZeppelin where
  toString := Nat.repr
  toHexString := fun value length => hexText (2 * length) value
  toHexStringAddress := fun account => hexText 40 account.toNat
  base64Encode := fun data => String.ofList (Base64.encode data)

theorem documentedOpenZeppelin_correct : documentedOpenZeppelin.Correct where
  toString := fun _ => rfl
  toHexString := fun _ _ _ _ => rfl
  toHexStringAddress := fun _ => rfl
  base64Encode := fun _ => rfl

/-- The sale of ticket 1, before and after bell revokes it and ada sends it away. -/
theorem tokenURI_restates_storage_sale :
    (∃ payload document, tokenURI documentedOpenZeppelin smallPlatform 1
        (history (settlement smallPlatform) (deployed smallPlatform) replayedSale).1 = .ok (dataPrefix ++ payload) ∧
      ticketMeta (fun _ => ()) (fun _ _ => none) (dataPrefix ++ payload) = some document ∧
      Ticket.read document = some ⟨1, bell, 0, 1, 0, 100, false, 8⟩) ∧
    tokenURI documentedOpenZeppelin smallPlatform 1
        (history (settlement smallPlatform) (deployed smallPlatform) replayedSale).1 ≠
      tokenURI documentedOpenZeppelin smallPlatform 1
        (history (settlement smallPlatform) (deployed smallPlatform) revokedSale).1 ∧
    tokenURI documentedOpenZeppelin smallPlatform 2
        (history (settlement smallPlatform) (deployed smallPlatform) revokedSale).1 = .error .erc721 := by
  obtain ⟨hread, hiff, hnone, -⟩ := tokenURI_restates_storage (fun _ => ()) (fun _ _ => none)
    documentedOpenZeppelin_correct (show smallPlatform.erc721.Spec from Registry.erc721_spec)
  refine ⟨?_, ?_, hnone _ 2 (by decide)⟩
  · obtain ⟨payload, bytes, document, huri, -, -, hmeta, -, hticket⟩ := hread
      (history (settlement smallPlatform) (deployed smallPlatform) replayedSale).1 1 (by decide)
    exact ⟨payload, document, huri, hmeta, hticket⟩
  · intro heq
    have hticket := (hiff _ _ 1 1 (by decide) (by decide)).mp heq
    exact Bool.noConfusion (congrArg Ticket.revoked hticket)

end Restates

end A2AProvisioning.System
