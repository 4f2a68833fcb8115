import A2AProvisioning.SkeletonSimulation

/-! All or nothing, for the fake: its checks come before its first write, but the params are decoded after the last
one. -/

namespace A2AProvisioning.Skeleton

open TypedData
open Settlement (ada)

variable (offer : Offer) (buyer : String) (f : FakeChain)

/-- What `fulfill` asks for before it writes. -/
structure FakeChain.Accepts : Prop where
  serviceType : offer.serviceType = 0
  unexpired : f.now ≤ offer.validUntil.toNat
  consumer : Hex.valueOf (digitsOf offer.consumer) = 0 ∨ offer.consumer = buyer
  unused : f.consumed offer.salt = false
  readable : offer.price.toList.length ≤ Decimal.maxStrDigits
  funded : (offer.amount : Int) ≤ f.balances buyer

/-- The blob has a word for the capacity, within its range, and the digits behind it are a class. -/
structure Decodable (params : String) : Prop where
  words : 64 < (digitsOf params).length
  capacityBps : Hex.valueOf ((digitsOf params).take 64) < 2 ^ 64
  qosClass : Hex.valueOf (((digitsOf params).drop 64).take 64) < 2 ^ 8

/-- A call that raises leaves the fake as it was; one that returns has minted the next id and moved the price. -/
structure AllOrNothing (outcome : Except FakeError Nat × FakeChain) : Prop where
  refused : ∀ err, outcome.1 = .error err → outcome.2 = f
  minted : ∀ id, outcome.1 = .ok id → id = f.nextId ∧ outcome.2.nextId = f.nextId + 1 ∧
    outcome.2.owners id = some buyer ∧ (outcome.2.entitlements id).isSome = true
  paid : ∀ id, outcome.1 = .ok id → ∀ a, outcome.2.balances a =
    f.balances a + ((if a = offer.provider then (offer.amount : Int) else 0) - if a = buyer then (offer.amount : Int) else 0)

variable {offer buyer f}

theorem check_eq_ok_iff {price : Nat} :
    f.check offer buyer = .ok price ↔ f.Accepts offer buyer ∧ price = offer.amount := by
  unfold FakeChain.check
  constructor
  · intro h
    split_ifs at h with htype hexpired hconsumer hused
    split at h
    · cases h
    · rename_i price hread
      split_ifs at h with hpoor
      cases h
      rw [Decimal.readInt] at hread
      split_ifs at hread with hlength
      obtain rfl : offer.amount = price := Option.some.inj hread
      refine ⟨⟨not_not.mp htype, not_lt.mp hexpired, ?_, eq_false_of_ne_true hused, hlength, not_lt.mp hpoor⟩, rfl⟩
      by_cases hopen : Hex.valueOf (digitsOf offer.consumer) = 0
      · exact Or.inl hopen
      · exact Or.inr (not_not.mp fun hne => hconsumer ⟨hopen, hne⟩)
  · rintro ⟨haccepts, rfl⟩
    have hread : Decimal.readInt offer.price.toList = some offer.amount := if_pos haccepts.readable
    have hconsumer : ¬ (Hex.valueOf (digitsOf offer.consumer) ≠ 0 ∧ offer.consumer ≠ buyer) :=
      fun h => haccepts.consumer.elim h.1 h.2
    rw [if_neg (not_not.mpr haccepts.serviceType), if_neg (not_lt.mpr haccepts.unexpired), if_neg hconsumer,
      haccepts.unused, if_neg Bool.false_ne_true, hread]
    exact if_neg (not_lt.mpr haccepts.funded)

/-- `int(_, 16)` of digits raises if there are none. -/
theorem readInt_of_digits {cs : List Char} (hdigits : ∀ c ∈ cs, Hex.isDigit c = true) :
    Hex.readInt cs = if cs = [] then none else some (Hex.valueOf cs) := by
  rw [Hex.readInt]
  by_cases hempty : cs = []
  · rw [if_neg (fun h => h.1 hempty), if_pos hempty]
  · rw [if_pos ⟨hempty, List.all_eq_true.mpr hdigits⟩, if_neg hempty]

/-- The decoder does not read every blob that the offer model lets through. -/
theorem decodeBandwidthParams_isSome_iff {params : String} (hparams : isHexData params = true) :
    (decodeBandwidthParams params).isSome = true ↔ Decodable params := by
  obtain ⟨-, hdigits⟩ := digitsOf_of_isHex hparams
  have hfirst : Hex.readInt ((digitsOf params).take 64) = _ :=
    readInt_of_digits fun c hc => hdigits c (List.mem_of_mem_take hc)
  have hsecond : Hex.readInt (((digitsOf params).drop 64).take 64) = _ :=
    readInt_of_digits fun c hc => hdigits c (List.mem_of_mem_drop (List.mem_of_mem_take hc))
  unfold decodeBandwidthParams
  dsimp only
  rw [hfirst, hsecond]
  by_cases hwords : 64 < (digitsOf params).length
  · have htake : (digitsOf params).take 64 ≠ [] := by
      rw [← List.length_pos_iff, List.length_take]
      omega
    have hdrop : ((digitsOf params).drop 64).take 64 ≠ [] := by
      rw [← List.length_pos_iff, List.length_take, List.length_drop]
      omega
    rw [if_neg htake, if_neg hdrop]
    dsimp only
    split_ifs with hrange
    · exact iff_of_true rfl ⟨hwords, hrange.1, hrange.2⟩
    · exact iff_of_false Bool.false_ne_true fun h => hrange ⟨h.capacityBps, h.qosClass⟩
  · have hdrop : ((digitsOf params).drop 64).take 64 = [] := by
      rw [List.drop_eq_nil_of_le (not_lt.mp hwords), List.take_nil]
    rw [if_pos hdrop]
    refine iff_of_false ?_ fun h => hwords h.words
    split_ifs
    · exact Bool.false_ne_true
    · exact Bool.false_ne_true

theorem viewOf_isSome_iff (hvalid : offer.Valid) (id : Nat) :
    (FakeChain.viewOf offer id).isSome = true ↔ Decodable offer.params := by
  rw [← decodeBandwidthParams_isSome_iff hvalid.params]
  unfold FakeChain.viewOf
  rw [(Signing.fromHex_bytes32 hvalid.resourceId).1, (Signing.fromHex_bytes32 hvalid.termsHash).1]
  cases decodeBandwidthParams offer.params with
  | none => exact iff_of_eq rfl
  | some params => exact iff_of_true rfl rfl

/-- A payment moves the price, from the buyer to the provider. -/
theorem balances_pay (price : Nat) (a : String) :
    (f.pay offer buyer price).balances a =
      f.balances a + ((if a = offer.provider then (price : Int) else 0) - if a = buyer then (price : Int) else 0) := by
  show Function.update (Function.update f.balances buyer (f.balances buyer - price)) offer.provider _ a = _
  by_cases hprovider : a = offer.provider
  · rw [hprovider, Function.update_self, if_pos rfl]
    by_cases hbuyer : offer.provider = buyer
    · rw [hbuyer, Function.update_self, if_pos rfl]
      omega
    · rw [Function.update_of_ne hbuyer, if_neg hbuyer]
      omega
  · rw [Function.update_of_ne hprovider, if_neg hprovider]
    by_cases hbuyer : a = buyer
    · rw [hbuyer, Function.update_self, if_pos rfl]
      omega
    · rw [Function.update_of_ne hbuyer, if_neg hbuyer]
      omega

/-- A call is all or nothing if the checks refuse it or its params can be decoded. -/
theorem fulfill_allOrNothing_iff (offer : Offer) (hvalid : offer.Valid) (buyer : String) (f : FakeChain) :
    AllOrNothing offer buyer f (f.fulfill offer buyer) ↔ (f.Accepts offer buyer → Decodable offer.params) := by
  cases hcheck : f.check offer buyer with
  | error err =>
      have hrefused : ¬ f.Accepts offer buyer := by
        intro haccepts
        rw [check_eq_ok_iff.mpr ⟨haccepts, rfl⟩] at hcheck
        cases hcheck
      rw [fulfill_of_check hcheck]
      refine iff_of_true ⟨fun _ _ => rfl, fun id hok => ?_, fun id hok => ?_⟩ fun haccepts => absurd haccepts hrefused
      · cases hok
      · cases hok
  | ok price =>
      obtain ⟨haccepts, rfl⟩ := check_eq_ok_iff.mp hcheck
      rw [← viewOf_isSome_iff hvalid f.nextId]
      unfold FakeChain.fulfill
      rw [hcheck]
      dsimp only
      cases hview : FakeChain.viewOf offer f.nextId with
      | none =>
          -- the salt is spent, the price paid, and the id handed out
          refine iff_of_false (fun h => ?_) fun h => Bool.false_ne_true (h haccepts)
          have hid : (f.pay offer buyer offer.amount).nextId = f.nextId := congrArg FakeChain.nextId (h.refused _ rfl)
          have hnext : (f.pay offer buyer offer.amount).nextId = f.nextId + 1 := rfl
          omega
      | some view =>
          refine iff_of_true ⟨fun err herr => ?_, fun id hok => ?_, fun id _ a => balances_pay offer.amount a⟩
            fun _ => rfl
          · cases herr
          · cases hok
            refine ⟨rfl, rfl, Function.update_self .., ?_⟩
            dsimp only
            rw [Function.update_self]
            rfl

/-- With its params the offer is sold whole. -/
theorem fulfill_allOrNothing_iff_plain :
    AllOrNothing plainOffer (lowerCase.spell ada) (FakeChain.start 5 (booksOf ada 25) 1)
      ((FakeChain.start 5 (booksOf ada 25) 1).fulfill plainOffer (lowerCase.spell ada)) :=
  (fulfill_allOrNothing_iff plainOffer plainOffer_signed.valid _ _).mpr fun _ =>
    ⟨by decide +kernel, by decide +kernel, by decide +kernel⟩

/-- Bell's offer without params. -/
def emptyOffer : Offer := { plainOffer with params := "0x" }

theorem emptyOffer_valid : emptyOffer.Valid := by
  obtain ⟨hprovider, hconsumer, hresource, -, htoken, hprice, hsalt, hterms⟩ := plainOffer_signed.valid
  exact ⟨hprovider, hconsumer, hresource, (by decide : isHexData "0x" = true), htoken, hprice, hsalt, hterms⟩

theorem empty_params_leave_traces :
    ¬ ∀ (offer : Offer) (buyer : String) (f : FakeChain), offer.Valid →
      AllOrNothing offer buyer f (f.fulfill offer buyer) := by
  intro h
  have hrefused := (h emptyOffer (lowerCase.spell ada) (FakeChain.start 5 (booksOf ada 25) 1) emptyOffer_valid).refused
  have hraised : ((FakeChain.start 5 (booksOf ada 25) 1).fulfill emptyOffer (lowerCase.spell ada)).1 = .error .raised := by
    decide +kernel
  have hid : ((FakeChain.start 5 (booksOf ada 25) 1).fulfill emptyOffer (lowerCase.spell ada)).2.nextId = 2 := by
    decide +kernel
  rw [hrefused _ hraised] at hid
  cases hid

end A2AProvisioning.Skeleton
