import A2AProvisioning.AgentsOffers
import A2AProvisioning.LedgerAccounts
import A2AProvisioning.LedgerRuns
import A2AProvisioning.SigningDigest

/-! One run of the provider's graph with the tools that sign over its chain. The capacity is reserved before
the price is known; a price that the offer or its encoding rejects raises with the hold still in place. -/

namespace A2AProvisioning.Agents

open Ledger

/-- 65 bytes. -/
def isSignature (s : String) : Bool := TypedData.isHex (fun n => n == 130) s

/-- The provider's client of the chain, with the libraries that encode and sign. -/
structure ProviderChain where
  tools : ChainProviderTools
  encode : Signing.Encoder
  chainId : Uint256
  settlement : String
  sign : TypedData.SignableMessage → String

/-- What the libraries document: addresses and blobs in hexadecimal, 65 bytes for a signature, and the encoding of
EIP-712 with an error where a value is out of the range of its type. -/
structure ProviderChain.Reliable (chain : ProviderChain) (keccak256 : Bytes → Bytes32) : Prop where
  address : TypedData.isAddress chain.tools.address = true
  settlement : TypedData.isAddress chain.settlement = true
  telemetryParams : ∀ need, isHexData (chain.tools.telemetryParams need) = true
  signature : ∀ message, isSignature (chain.sign message) = true
  implements : Signing.Implements chain.encode keccak256
  strict : ∀ domain type message, TypedData.encodeTypedData keccak256 Settlement.word domain type message = none →
    chain.encode domain type message = none

namespace ProviderChain

variable (chain : ProviderChain)

def offerAt (need : ServiceNeed) (price salt : String) : Offer := { chain.tools.draft need 0 salt with price := price }

/-- `none` where it raises: the offer does not validate, or does not encode. -/
def signOffer (need : ServiceNeed) (priceTok : Int) (salt : String) : Option SignedOffer := do
  let price ← strOf (priceTok * 10 ^ 18)
  if (chain.offerAt need price salt).Valid then
    let signable ← Signing.encodeOffer chain.encode (chain.offerAt need price salt) chain.chainId.toNat chain.settlement
    if isSignature (chain.sign signable) then some ⟨chain.offerAt need price salt, chain.sign signable⟩ else none
  else none

end ProviderChain

/-- The `admit` node. -/
def admitNode (ledger : CapacityLedger) (now : Option Nat) (need : ServiceNeed) : ProviderState × CapacityLedger :=
  let reserved := ledger.tryReserve now now (windowOf need) (demand need)
  if reserved.1 then
    (⟨need, true, none, [s!"admit: reserved {fmt need (demand need)} in window"]⟩, reserved.2)
  else
    (⟨need, false, some (.decline ⟨"insufficient capacity in the requested window"⟩),
      ["admit: over capacity → decline (no overselling)"]⟩, reserved.2)

/-- The `quote` node; `none` where it raises. -/
def quoteNode (signOffer : ServiceNeed → Int → Option SignedOffer) (ledger : CapacityLedger) (now : Option Nat)
    (state : ProviderState) (llm : Option (Option QuoteDecision)) : Option ProviderState × CapacityLedger :=
  let decision := decision state.need llm
  if decision.quote then
    match signOffer state.need decision.priceTok with
    | none => (none, ledger)
    | some signed =>
        (some (returnSigned state decision signed).state,
          ledger.holdUntil now (windowOf state.need) (demand state.need) signed.offer.validUntil.toNat)
  else
    (some (returnDecline state decision).state, ledger.release now (windowOf state.need) (demand state.need))

/-- A run of the graph while the clock stands still: its last state, and the ledger it leaves. -/
def runProvider (signOffer : ServiceNeed → Int → Option SignedOffer) (ledger : CapacityLedger) (now : Option Nat)
    (need : ServiceNeed) (llm : Option (Option QuoteDecision)) : Option ProviderState × CapacityLedger :=
  let admitted := admitNode ledger now need
  if admitted.1.admitted then quoteNode signOffer admitted.2 now admitted.1 llm else (some admitted.1, admitted.2)

/-- The nodes are those of the runs over one market. -/
theorem admitNode_eq (ledger : CapacityLedger) (now : Nat) (need : ServiceNeed) :
    admitNode ledger (some now) need =
      ((admitNeed ledger now need).1.state, (admitNeed ledger now need).2) := by
  unfold admitNode admitNeed
  dsimp only
  split_ifs <;> rfl

section Sign

variable {chain : ProviderChain} {keccak256 : Bytes → Bytes32} {salt : String}

/-- Whatever is asked for, only the price can be wrong with the offer. -/
theorem offerAt_valid_iff (hreliable : chain.Reliable keccak256) (need : ServiceNeed) (price : String)
    (hsalt : isBytes32Hex salt = true) : (chain.offerAt need price salt).Valid ↔ isDecimalString price = true := by
  refine ⟨fun hvalid => hvalid.price, fun hprice => ?_⟩
  have hresource : isBytes32Hex (chain.offerAt need price salt).resourceId = true := by
    cases need with
    | bandwidth need => exact isBytes32Hex_word64 7
    | telemetry need => exact isBytes32Hex_word64 8
  have hparams : isHexData (chain.offerAt need price salt).params = true := by
    cases need with
    | bandwidth need => exact isHexData_bandwidthParams need
    | telemetry need => exact hreliable.telemetryParams need
  exact {
    provider := hreliable.address
    consumer := isHex_ofList (by decide) (isDigit_replicate 40 (by decide))
    resourceId := hresource
    params := hparams
    paymentToken := (by decide : TypedData.isAddress mockTok = true)
    price := hprice
    salt := hsalt
    termsHash := isHex_ofList (by decide) (isDigit_replicate 64 (by decide)) }

/-- A number of base units is written in decimal, with a sign if it is negative. -/
theorem isDecimalString_iff (n : Int) : isDecimalString (toString n) = true ↔ 0 ≤ n := by
  cases n with
  | ofNat n =>
      refine iff_of_true ?_ (Int.natCast_nonneg n)
      show isDecimalString n.repr = true
      have hne : n.repr.toList ≠ [] := by
        rw [Nat.toList_repr]
        exact Nat.toDigits_ne_nil
      rw [isDecimalString, decide_eq_true hne, Bool.true_and]
      exact List.all_eq_true.mpr fun c => Decimal.isDigit_of_mem_toString
  | negSucc n =>
      refine iff_of_false ?_ (by omega)
      show ¬ isDecimalString ("-" ++ n.succ.repr) = true
      rw [isDecimalString, String.toList_append]
      simp

theorem amount_offerAt (need : ServiceNeed) (n : Nat) : (chain.offerAt need (toString n) salt).amount = n := by
  show Nat.ofDigitChars 10 (toString n).toList 0 = n
  rw [Nat.toString_eq_repr, Nat.toList_repr, Nat.ofDigitChars_ten_toDigits]

/-- The encoding takes an offer when its price fits the word. -/
theorem encodeOffer_isSome_iff (hreliable : chain.Reliable keccak256) {offer : Offer} (hvalid : offer.Valid)
    (hread : offer.price.toList.length ≤ Decimal.maxStrDigits) :
    (Signing.encodeOffer chain.encode offer chain.chainId.toNat chain.settlement).isSome = true ↔
      offer.amount < 2 ^ 256 := by
  have hencode : Signing.encodeOffer chain.encode offer chain.chainId.toNat chain.settlement =
      chain.encode (Signing.eip712Domain chain.chainId.toNat chain.settlement) Signing.offerTypes
        (Signing.messageOf offer offer.amount) := by
    rw [Signing.encodeOffer, Signing.offerToMessage_eq hvalid, Decimal.readInt, if_pos hread]
    rfl
  constructor
  · intro hsome
    by_contra hlarge
    have hnone : TypedData.encodeTypedData keccak256 Settlement.word
        (Signing.eip712Domain chain.chainId.toNat chain.settlement) Signing.offerTypes
        (Signing.messageOf offer offer.amount) = none := by
      have hnames : (Signing.messageOf offer offer.amount).entries.map Prod.fst =
          Signing.offerTypes.members.map Prod.fst := by
        rw [Signing.messageOf_entries]
        rfl
      have hprice : TypedData.encodeValue keccak256 (.uint 256) (.int offer.amount) = none := if_neg hlarge
      have hdata : TypedData.encodeData keccak256 Signing.offerTypes (Signing.messageOf offer offer.amount) = none := by
        rw [TypedData.encodeData_eq hnames, Signing.messageOf_entries]
        simp [Signing.offerTypes, hprice]
      unfold TypedData.encodeTypedData
      have hbody : TypedData.hashStruct keccak256 Settlement.word Signing.offerTypes
          (Signing.messageOf offer offer.amount) = none := by
        rw [TypedData.hashStruct, hdata, Option.map_none]
      rw [hbody]
      split
      · rename_i h
        cases h
      · rfl
    rw [hencode, hreliable.strict _ _ _ hnone] at hsome
    cases hsome
  · intro hprice
    have hdigest := Signing.offerDigest_eq keccak256 (fun _ _ => none) chain.chainId hreliable.implements hvalid hprice
      hreliable.settlement
    rw [Decimal.readInt, if_pos hread, Option.map_some, Signing.offerDigest] at hdigest
    exact Option.isSome_map.symm.trans (congrArg Option.isSome hdigest)

/-- The provider can sign at a price that is not negative and fits the word. -/
theorem signOffer_isSome_iff (hreliable : chain.Reliable keccak256) (hsalt : isBytes32Hex salt = true)
    (need : ServiceNeed) (priceTok : Int) :
    (chain.signOffer need priceTok salt).isSome = true ↔ 0 ≤ priceTok ∧ priceTok * 10 ^ 18 < 2 ^ 256 := by
  unfold ProviderChain.signOffer strOf
  by_cases hdigits : (Nat.toDigits 10 (priceTok * 10 ^ 18).natAbs).length ≤ Decimal.maxStrDigits
  · rw [if_pos hdigits, Option.bind_eq_bind, Option.bind_some]
    by_cases hneg : 0 ≤ priceTok * 10 ^ 18
    · obtain ⟨n, hn⟩ := Int.eq_ofNat_of_zero_le hneg
      rw [hn] at hdigits ⊢
      have htext : toString (n : Int) = toString n := rfl
      have hvalid : (chain.offerAt need (toString (n : Int)) salt).Valid :=
        (offerAt_valid_iff hreliable need _ hsalt).mpr ((isDecimalString_iff n).mpr (Int.natCast_nonneg n))
      have hread : (chain.offerAt need (toString (n : Int)) salt).price.toList.length ≤ Decimal.maxStrDigits := by
        show (toString n).toList.length ≤ _
        rw [Nat.toString_eq_repr, Nat.toList_repr]
        exact hdigits
      have hamount : (chain.offerAt need (toString (n : Int)) salt).amount = n := by
        rw [htext, amount_offerAt]
      have hsome := encodeOffer_isSome_iff hreliable hvalid hread
      rw [hamount] at hsome
      rw [if_pos hvalid]
      have hrange : 0 ≤ priceTok ∧ (n : Int) < 2 ^ 256 ↔ n < 2 ^ 256 := by omega
      rw [hrange, ← hsome]
      cases Signing.encodeOffer chain.encode (chain.offerAt need (toString (n : Int)) salt) chain.chainId.toNat
        chain.settlement with
      | none => exact Iff.rfl
      | some signable =>
          rw [Option.bind_eq_bind, Option.bind_some, if_pos (hreliable.signature signable)]
          exact Iff.rfl
    · rw [if_neg fun hvalid => hneg ((isDecimalString_iff _).mp ((offerAt_valid_iff hreliable need _ hsalt).mp hvalid))]
      refine iff_of_false Bool.false_ne_true ?_
      omega
  · rw [if_neg hdigits]
    refine iff_of_false Bool.false_ne_true ?_
    rintro ⟨hnonneg, hlt⟩
    refine hdigits (Decimal.digits_le ?_)
    omega

end Sign

/-! ### The ledger of a run -/

section Holds

variable (ledger : CapacityLedger) (now : Option Nat) (need : ServiceNeed)

theorem sweepHolds_append (holds holds' : List Hold) :
    sweepHolds now (holds ++ holds') = sweepHolds now holds ++ sweepHolds now holds' := by
  cases now with
  | none => rfl
  | some now => exact List.filter_append _ _

/-- A hold of a quote lasts beyond the time it was made. -/
theorem sweepHolds_fresh (units : Nat) :
    sweepHolds now [⟨units, now.map fun now => now + quoteHoldS⟩] =
      [⟨units, now.map fun now => now + quoteHoldS⟩] := by
  cases now with
  | none => rfl
  | some now =>
      refine List.filter_cons_of_pos ?_
      show decide (now + quoteHoldS > now) = true
      exact decide_eq_true (by unfold quoteHoldS; omega)

/-- What an admission reserves is there afterwards, at the same time. -/
theorem reserved_tryReserve (window : Window) (units : Nat) :
    (ledger.tryReserve now now window units).2.reserved now window =
      ledger.reserved now window + if (ledger.tryReserve now now window units).1 then units else 0 := by
  have hswept : sweepHolds now (sweepHolds now (ledger.holds window)) = sweepHolds now (ledger.holds window) :=
    sweepHolds_of_shrinks (Shrinks.refl _)
  rw [CapacityLedger.reserved_eq, CapacityLedger.reserved_eq, CapacityLedger.tryReserve_holds_self, sweepHolds_append,
    hswept]
  split_ifs with hroom
  · rw [sweepHolds_fresh, unitsOf_append]
    rfl
  · have hnil : sweepHolds now ([] : List Hold) = [] := by cases now <;> rfl
    rw [hnil, List.append_nil, add_zero]

theorem reserved_release (window : Window) (units : Nat) :
    (ledger.release now window units).reserved now window = ledger.reserved now window - units := by
  rw [CapacityLedger.reserved_eq, CapacityLedger.reserved_eq, CapacityLedger.release_holds_self,
    sweepHolds_of_shrinks (Shrinks.releaseHolds _ _), unitsOf_releaseHolds]

end Holds

/-- The run ended with a signed offer. -/
def EndsSigned (outcome : Option ProviderState × CapacityLedger) : Prop :=
  ∃ state signed, outcome.1 = some state ∧ state.result = some (.signed signed)

def EndsDeclined (outcome : Option ProviderState × CapacityLedger) : Prop :=
  ∃ state decline, outcome.1 = some state ∧ state.result = some (.decline decline)

section Run

variable {ledger : CapacityLedger} {now : Option Nat} {need : ServiceNeed} {llm : Option (Option QuoteDecision)}
  {sign : ServiceNeed → Int → Option SignedOffer}

variable (sign llm) in
/-- Without the capacity the run declines, and reserves nothing. -/
theorem run_of_full (hfull : ¬ (demand need : Int) ≤ ledger.available now (windowOf need)) :
    EndsDeclined (runProvider sign ledger now need llm) ∧
      (runProvider sign ledger now need llm).2.reserved now (windowOf need) = ledger.reserved now (windowOf need) := by
  have hfirst : ¬ (ledger.tryReserve now now (windowOf need) (demand need)).1 = true :=
    fun h => hfull ((ledger.tryReserve_fst now now (windowOf need) (demand need)).mp h)
  have hreserved := reserved_tryReserve ledger now (windowOf need) (demand need)
  rw [if_neg hfirst, add_zero] at hreserved
  have hrun : runProvider sign ledger now need llm =
      (some ⟨need, false, some (.decline ⟨"insufficient capacity in the requested window"⟩),
        ["admit: over capacity → decline (no overselling)"]⟩,
        (ledger.tryReserve now now (windowOf need) (demand need)).2) := by
    unfold runProvider admitNode
    simp only [if_neg hfirst, Bool.false_eq_true, ↓reduceIte]
  rw [hrun]
  exact ⟨⟨_, _, rfl, rfl⟩, hreserved⟩

variable (sign llm) in
/-- With it, the judgment is asked, over a ledger that holds the units. -/
theorem run_of_room (hroom : (demand need : Int) ≤ ledger.available now (windowOf need)) :
    ∃ reserved : CapacityLedger, ∃ transcript,
      reserved.reserved now (windowOf need) = ledger.reserved now (windowOf need) + demand need ∧
        runProvider sign ledger now need llm = quoteNode sign reserved now ⟨need, true, none, transcript⟩ llm := by
  have hfirst : (ledger.tryReserve now now (windowOf need) (demand need)).1 = true :=
    (ledger.tryReserve_fst now now (windowOf need) (demand need)).mpr hroom
  have hreserved := reserved_tryReserve ledger now (windowOf need) (demand need)
  rw [if_pos hfirst] at hreserved
  refine ⟨_, [s!"admit: reserved {fmt need (demand need)} in window"], hreserved, ?_⟩
  unfold runProvider admitNode
  simp only [if_pos hfirst, ↓reduceIte]

variable (sign) in
/-- A refusal gives back what was reserved. -/
theorem quoteNode_of_refusal {state : ProviderState} {units : Nat} (hstate : state.need = need)
    (hunits : ledger.reserved now (windowOf need) = units + demand need) (hquote : (decision need llm).quote = false) :
    EndsDeclined (quoteNode sign ledger now state llm) ∧
      (quoteNode sign ledger now state llm).2.reserved now (windowOf need) = units := by
  subst hstate
  unfold quoteNode
  simp only [hquote, Bool.false_eq_true, ↓reduceIte]
  refine ⟨⟨_, _, rfl, rfl⟩, ?_⟩
  rw [reserved_release, hunits]
  omega

variable (ledger now) in
theorem quoteNode_of_signed {state : ProviderState} (hquote : (decision state.need llm).quote = true)
    (hsign : (sign state.need (decision state.need llm).priceTok).isSome = true) :
    EndsSigned (quoteNode sign ledger now state llm) := by
  obtain ⟨signed, hsigned⟩ := Option.isSome_iff_exists.mp hsign
  unfold quoteNode
  simp only [hquote, hsigned, ↓reduceIte]
  exact ⟨_, _, rfl, rfl⟩

theorem quoteNode_of_raised {state : ProviderState} (hquote : (decision state.need llm).quote = true)
    (hsign : sign state.need (decision state.need llm).priceTok = none) :
    quoteNode sign ledger now state llm = (none, ledger) := by
  unfold quoteNode
  simp only [hquote, hsign, ↓reduceIte]

end Run

/-- A run answers with an offer or a decline, and one that returns no offer leaves the reserved units of the window
as they were. -/
def Answers (ledger : CapacityLedger) (now : Option Nat) (need : ServiceNeed)
    (outcome : Option ProviderState × CapacityLedger) : Prop :=
  (EndsSigned outcome ∨ EndsDeclined outcome) ∧
    (¬ EndsSigned outcome → outcome.2.reserved now (windowOf need) = ledger.reserved now (windowOf need))

/-- A run answers when the need does not fit, when the judgment refuses, or when it names a price that can be
signed. -/
theorem run_answers_iff (chain : ProviderChain) (keccak256 : Bytes → Bytes32) (hreliable : chain.Reliable keccak256)
    (salt : String) (hsalt : isBytes32Hex salt = true) (ledger : CapacityLedger) (now : Option Nat) (need : ServiceNeed)
    (llm : Option (Option QuoteDecision)) :
    Answers ledger now need
        (runProvider (fun need priceTok => chain.signOffer need priceTok salt) ledger now need llm) ↔
      (demand need : Int) > ledger.available now (windowOf need) ∨ (decision need llm).quote = false ∨
        0 ≤ (decision need llm).priceTok ∧ (decision need llm).priceTok * 10 ^ 18 < 2 ^ 256 := by
  by_cases hroom : (demand need : Int) ≤ ledger.available now (windowOf need)
  · obtain ⟨reserved, transcript, hreserved, hrun⟩ :=
      run_of_room llm (fun need priceTok => chain.signOffer need priceTok salt) hroom
    rw [hrun, or_iff_right (not_lt.mpr hroom)]
    cases hquote : (decision need llm).quote with
    | false =>
        have hstate : (⟨need, true, none, transcript⟩ : ProviderState).need = need := rfl
        obtain ⟨hdeclined, hunits⟩ := quoteNode_of_refusal (fun need priceTok => chain.signOffer need priceTok salt)
          hstate hreserved hquote
        exact iff_of_true ⟨Or.inr hdeclined, fun _ => hunits⟩ (Or.inl rfl)
    | true =>
        rw [or_iff_right (by simp), ← signOffer_isSome_iff hreliable hsalt need]
        cases hsign : chain.signOffer need (decision need llm).priceTok salt with
        | none =>
            -- the exception leaves the graph with the hold in the ledger
            rw [quoteNode_of_raised hquote hsign]
            refine iff_of_false ?_ Bool.false_ne_true
            rintro ⟨⟨_, _, hstate, -⟩ | ⟨_, _, hstate, -⟩, -⟩
            · cases hstate
            · cases hstate
        | some signed =>
            have hsome : (chain.signOffer need (decision need llm).priceTok salt).isSome = true :=
              Option.isSome_of_mem hsign
            have hends := @quoteNode_of_signed reserved now llm (fun need priceTok => chain.signOffer need priceTok salt)
              ⟨need, true, none, transcript⟩ hquote hsome
            exact iff_of_true ⟨Or.inl hends, fun hnot => absurd hends hnot⟩ rfl
  · obtain ⟨hdeclined, hunits⟩ := run_of_full llm (fun need priceTok => chain.signOffer need priceTok salt) hroom
    exact iff_of_true ⟨Or.inr hdeclined, fun _ => hunits⟩ (Or.inl (not_le.mp hroom))

/-- Every message gets the same signature. -/
def labChain : ProviderChain where
  tools := ⟨"0x000000000000000000000000000000000000000b", fun _ => "0x"⟩
  encode := TypedData.encodeTypedData Signing.lengthHash Settlement.word
  chainId := 31337
  settlement := Signing.anvilSettlement
  sign := fun _ => String.ofList ('0' :: 'x' :: List.replicate 130 '0')

theorem labChain_reliable : labChain.Reliable Signing.lengthHash where
  address := by decide
  settlement := by decide
  telemetryParams := fun _ => (by decide : isHexData "0x" = true)
  signature := fun _ => isHex_ofList (by rw [List.length_replicate]; rfl) (isDigit_replicate 130 (by decide))
  implements := fun _ _ _ _ h => h
  strict := fun _ _ _ h => h

def labNeedOf (capacityBps : Uint64) : ServiceNeed := .bandwidth ⟨"hostA", "hostB", capacityBps, 1, ⟨0, 100⟩⟩

/-- The run raises, and the ledger keeps the hold. -/
theorem negative_price_raises :
    ¬ ∀ (chain : ProviderChain) (keccak256 : Bytes → Bytes32) (salt : String) (ledger : CapacityLedger)
        (now : Option Nat) (need : ServiceNeed) (llm : Option (Option QuoteDecision)),
      chain.Reliable keccak256 → isBytes32Hex salt = true →
        Answers ledger now need
          (runProvider (fun need priceTok => chain.signOffer need priceTok salt) ledger now need llm) := by
  intro h
  have hanswers := (h labChain Signing.lengthHash (word64 (23 : Uint256).toNat) (.empty 1000000000) (some 10)
    (labNeedOf 50000000) (some (some ⟨true, -1, "a rebate"⟩)) labChain_reliable (isBytes32Hex_word64 23)).1
  have hroom : (demand (labNeedOf 50000000) : Int) ≤
      (CapacityLedger.empty 1000000000).available (some 10) (windowOf (labNeedOf 50000000)) := by decide
  have hsign : labChain.signOffer (labNeedOf 50000000) (-1) (word64 (23 : Uint256).toNat) = none := by
    rw [← Option.not_isSome_iff_eq_none, signOffer_isSome_iff labChain_reliable (isBytes32Hex_word64 23)]
    decide
  obtain ⟨reserved, transcript, -, hrun⟩ := run_of_room (some (some ⟨true, -1, "a rebate"⟩))
    (fun need priceTok => labChain.signOffer need priceTok (word64 (23 : Uint256).toNat)) hroom
  rw [hrun, @quoteNode_of_raised reserved (some 10) (some (some ⟨true, -1, "a rebate"⟩))
    (fun need priceTok => labChain.signOffer need priceTok (word64 (23 : Uint256).toNat))
    ⟨labNeedOf 50000000, true, none, transcript⟩ rfl hsign] at hanswers
  rcases hanswers with ⟨_, _, hstate, -⟩ | ⟨_, _, hstate, -⟩
  · cases hstate
  · cases hstate

/-- At the list price the run answers. -/
theorem run_answers_iff_list_price :
    Answers (.empty 1000000000) (some 10) (labNeedOf 50000000)
      (runProvider (fun need priceTok => labChain.signOffer need priceTok (word64 (23 : Uint256).toNat))
        (.empty 1000000000) (some 10) (labNeedOf 50000000) none) :=
  (run_answers_iff labChain Signing.lengthHash labChain_reliable (word64 (23 : Uint256).toNat) (isBytes32Hex_word64 23)
    (.empty 1000000000) (some 10) (labNeedOf 50000000) none).mpr (Or.inr (Or.inr (by decide)))

end A2AProvisioning.Agents
