import A2AProvisioning.SettlementPayments

/-! Where every TOK is. A balance is what the account got outside of `fulfill`, less what it paid for its
tickets, plus what the tickets it issued were sold for. -/

namespace A2AProvisioning.Settlement

open Reentrant

variable {T K : Type} (d : Deployment T K)

/-- Every ticket ever issued, whatever it was paid in. -/
def tickets (log : WorldLog T K) : List Mint := mints (log.flatMap (project d))

/-- The tickets that were sold for TOK. -/
def sales (log : WorldLog T K) : List Mint := (tickets d log).filter fun mint => mint.offer.paymentToken = d.tok

def Mint.price (mint : Mint) : Nat := mint.offer.price.toNat

/-- What the sale of a ticket brings an account. -/
def Mint.flow (a : Address) (mint : Mint) : Int :=
  Settlement.flow mint.caller mint.offer.provider mint.price a

/-- What an account gets from the faucet and by direct transfers. -/
def direct (a : Address) (ch : Change Nat Sent (World T K)) : Int :=
  match ch.half with
  | .enter ⟨_, _, .faucet target amount⟩ => if a = target then (amount.toNat : Int) else 0
  | .enter ⟨sender, _, .tokTransfer target amount⟩ => flow sender target amount.toNat a
  | .enter ⟨_, _, .tokTransferFrom source target amount⟩ => flow source target amount.toNat a
  | _ => 0

/-- What the faucet gives out. -/
def issuance (ch : Change Nat Sent (World T K)) : Nat :=
  match ch.half with
  | .enter ⟨_, _, .faucet _ amount⟩ => amount.toNat
  | _ => 0

def received (log : WorldLog T K) (a : Address) : Int := (log.map (direct a)).sum

def paid (log : WorldLog T K) (a : Address) : Nat :=
  (((sales d log).filter fun sale => sale.caller = a).map Mint.price).sum

/-- What the tickets that the account is the issuer of were sold for. -/
def earned (log : WorldLog T K) (w : World T K) (a : Address) : Nat :=
  (((sales d log).filter fun sale => (w.settlement.entitlements sale.id).issuer = a).map Mint.price).sum

variable {d}

/-- What a change does to the balances and to the supply. -/
structure Booked (ch : Change Nat Sent (World T K)) : Prop where
  balance : ∀ a, (d.erc20.balanceOf ch.after.tok a : Int) =
    d.erc20.balanceOf ch.before.tok a + (direct a ch + ((sales d [ch]).map (Mint.flow a)).sum)
  supply : d.erc20.totalSupply ch.after.tok = d.erc20.totalSupply ch.before.tok + issuance ch

theorem booked_of_quiet {ch : Change Nat Sent (World T K)} (htok : ch.after.tok = ch.before.tok)
    (hdirect : ∀ a, direct a ch = 0) (hissuance : issuance ch = 0) (hsales : sales d [ch] = []) :
    Booked (d := d) ch where
  balance := fun a => by
    rw [htok, hdirect, hsales]
    simp
  supply := by rw [htok, hissuance, Nat.add_zero]

theorem tickets_one (ch : Change Nat Sent (World T K)) : tickets d [ch] = mints (project d ch) := by
  rw [tickets, List.flatMap_cons, List.flatMap_nil, List.append_nil]

theorem sales_fulfill {timestamp : Nat} {sender : Address} {hsender : sender ≠ 0} {offer : Offer}
    {signature : Bytes} {w next : World T K} (htok : offer.paymentToken = d.tok) :
    sales d [⟨timestamp, w, .enter ⟨sender, hsender, .settlement (.fulfill offer signature)⟩, next⟩] =
      [⟨next.settlement.lastId, offer, signature, sender, timestamp⟩] := by
  rw [sales, tickets_one, project]
  dsimp only
  rw [if_pos htok]
  change List.filter _ [(⟨next.settlement.lastId, offer, signature, sender, timestamp⟩ : Mint)] = _
  rw [List.filter_singleton, decide_eq_true htok]
  rfl

theorem booked_enter (hspec : d.erc20.Spec) {timestamp : Nat} {sent : Sent} {w next : World T K}
    (htook : Took d timestamp sent w sent.request next) : Booked (d := d) ⟨timestamp, w, .enter sent, next⟩ := by
  obtain ⟨sender, hsender, request⟩ := sent
  cases htook with
  | @fulfill offer signature paid issued htok hok hunused hpaid hissued =>
      obtain ⟨-, hcovered, hbalance, -, hsupply⟩ := hspec.transferFrom _ _ _ _ _ _ hpaid
      refine ⟨fun a => ?_, hsupply⟩
      rw [sales_fulfill htok]
      change (d.erc20.balanceOf paid a : Int) = d.erc20.balanceOf w.tok a +
        (0 + (flow sender offer.provider offer.price.toNat a + 0))
      rw [hbalance, moved_eq hcovered, zero_add, add_zero]
  | @settlement data next hother hentered =>
      refine booked_of_quiet rfl (fun _ => rfl) rfl ?_
      rw [sales, tickets_one, project_enter_of_other hother]
      rfl
  | @faucet target amount k hk =>
      obtain ⟨hbalance, -, hsupply⟩ := hspec.mint _ _ _ _ hk
      refine ⟨fun a => ?_, hsupply⟩
      change (d.erc20.balanceOf k a : Int) = d.erc20.balanceOf w.tok a + ((if a = target then (amount.toNat : Int) else 0) + 0)
      rw [hbalance]
      by_cases ha : a = target
      · subst ha
        rw [Function.update_self, if_pos rfl]
        omega
      · rw [Function.update_of_ne ha, if_neg ha]
        omega
  | @tokApprove spender amount k hk =>
      obtain ⟨hbalance, -, hsupply⟩ := hspec.approve _ _ _ _ _ hk
      refine ⟨fun a => ?_, hsupply⟩
      change (d.erc20.balanceOf k a : Int) = d.erc20.balanceOf w.tok a + (0 + 0)
      rw [hbalance, add_zero, add_zero]
  | @tokTransfer target amount k hk =>
      obtain ⟨hcovered, hbalance, -, hsupply⟩ := hspec.transfer _ _ _ _ _ hk
      refine ⟨fun a => ?_, hsupply⟩
      change (d.erc20.balanceOf k a : Int) = d.erc20.balanceOf w.tok a + (flow sender target amount.toNat a + 0)
      rw [hbalance, moved_eq hcovered, add_zero]
  | @tokTransferFrom source target amount k hk =>
      obtain ⟨-, hcovered, hbalance, -, hsupply⟩ := hspec.transferFrom _ _ _ _ _ _ hk
      refine ⟨fun a => ?_, hsupply⟩
      change (d.erc20.balanceOf k a : Int) = d.erc20.balanceOf w.tok a + (flow source target amount.toNat a + 0)
      rw [hbalance, moved_eq hcovered, add_zero]

/-- A call that has waited was not paid in TOK. -/
theorem booked_leave {timestamp : Nat} {sent : Sent} {w next : World T K}
    (hcalls : World.callsOut d sent = true) (hleft : World.leave d sent w = .ok next) :
    Booked (d := d) ⟨timestamp, w, .leave sent, next⟩ := by
  obtain ⟨sender, hsender, request⟩ := sent
  cases request with
  | settlement data =>
      obtain ⟨s, hs, rfl⟩ := onSettlement_eq_ok.mp hleft
      refine booked_of_quiet rfl (fun _ => rfl) rfl ?_
      rw [sales, tickets_one]
      cases data with
      | fulfill offer signature =>
          have htok : offer.paymentToken ≠ d.tok := by
            intro htok
            rw [World.callsOut, inTok_of_eq signature htok] at hcalls
            cases hcalls
          change List.filter _ [(⟨s.lastId, offer, signature, sender, timestamp⟩ : Mint)] = []
          rw [List.filter_singleton, decide_eq_false htok]
          rfl
      | safeTransferFrom source target id data => rfl
      | revoke id => rfl
      | approve target id => rfl
      | setApprovalForAll operator ok => rfl
      | transferFrom source target id => rfl
  | faucet target amount => cases hcalls
  | tokApprove spender amount => cases hcalls
  | tokTransfer target amount => cases hcalls
  | tokTransferFrom source target amount => cases hcalls

theorem booked_of_fires (hspec : d.erc20.Spec) {ch : Change Nat Sent (World T K)} (hfires : ch.Fires (world d)) :
    Booked (d := d) ch := by
  obtain ⟨timestamp, w, half, next⟩ := ch
  cases half with
  | enter sent => exact booked_enter hspec (took_of_enter hfires)
  | leave sent => exact booked_leave hfires.1 hfires.2

/-- A payment goes to the signer of the offer, who is not the settlement. -/
theorem balance_le_of_fulfill (hspec : d.erc20.Spec)
    (hsigner : ∀ digest signature, d.recover digest signature ≠ some d.address)
    {ch : Change Nat Sent (World T K)} (hfires : ch.Fires (world d)) {sent : Sent} {offer : Offer}
    {signature : Bytes} (hhalf : ch.half = .enter sent ∨ ch.half = .leave sent)
    (hrequest : sent.request = .settlement (.fulfill offer signature)) :
    d.erc20.balanceOf ch.after.tok d.address ≤ d.erc20.balanceOf ch.before.tok d.address := by
  obtain ⟨timestamp, w, half, next⟩ := ch
  obtain ⟨sender, hsender, request⟩ := sent
  cases hrequest
  rcases hhalf with hhalf | hhalf
  · cases hhalf
    have htook : Took d timestamp ⟨sender, hsender, _⟩ w (.settlement (.fulfill offer signature)) next :=
      took_of_enter hfires
    cases htook with
    | @fulfill _ _ paid issued htok hok hunused hpaid hissued =>
        change d.erc20.balanceOf paid d.address ≤ d.erc20.balanceOf w.tok d.address
        obtain ⟨-, hcovered, hbalance, -, -⟩ := hspec.transferFrom _ _ _ _ _ _ hpaid
        have hne : d.address ≠ offer.provider := fun heq => hsigner _ _ (heq ▸ hok.signer)
        have hmoved := moved_eq hcovered offer.provider d.address
        rw [flow, if_neg hne, ← hbalance] at hmoved
        split at hmoved
        · omega
        · omega
    | settlement hother hentered => exact le_rfl
  · cases hhalf
    have hleft : World.leave d ⟨sender, hsender, .settlement (.fulfill offer signature)⟩ w = .ok next := hfires.2
    obtain ⟨s, hs, rfl⟩ := onSettlement_eq_ok.mp hleft
    exact le_rfl

theorem sales_cons (ch : Change Nat Sent (World T K)) (log : WorldLog T K) :
    sales d (ch :: log) = sales d [ch] ++ sales d log := by
  rw [sales, sales, sales, tickets, tickets, tickets, mints, mints, mints, ← List.filter_append,
    ← List.filterMap_append, ← List.flatMap_append, List.singleton_append]

theorem sum_sales (log : WorldLog T K) (a : Address) :
    (log.map fun ch => ((sales d [ch]).map (Mint.flow a)).sum).sum = ((sales d log).map (Mint.flow a)).sum := by
  induction log with
  | nil => rfl
  | cons ch log ih => rw [List.map_cons, List.sum_cons, ih, sales_cons ch log, List.map_append, List.sum_append]

/-- What sales bring an account is what it sold, less what it bought; it may have bought from itself. -/
theorem sum_flow (list : List Mint) (a : Address) :
    (list.map (Mint.flow a)).sum =
      (((list.filter fun mint => mint.offer.provider = a).map Mint.price).sum : Int) -
        ((list.filter fun mint => mint.caller = a).map Mint.price).sum := by
  induction list with
  | nil => rfl
  | cons mint list ih =>
      rw [List.map_cons, List.sum_cons, ih, Mint.flow, flow, List.filter_cons, List.filter_cons]
      by_cases hprovider : mint.offer.provider = a
      · by_cases hcaller : mint.caller = a
        · simp [hprovider, hcaller]
        · simp [hprovider, hcaller, Ne.symm hcaller]
          omega
      · by_cases hcaller : mint.caller = a
        · simp [hprovider, hcaller, Ne.symm hprovider]
          omega
        · simp [hprovider, hcaller, Ne.symm hprovider, Ne.symm hcaller]

/-- The history of the world, as the settlement sees it, keeps the settlement's own books. -/
theorem books_world (hspec : d.erc721.Spec) (txs : List (Nat × Call Sent)) :
    Books d.toPlatform [] ((history (world d) (World.deployed d) txs).2.flatMap (project d))
      (history (world d) (World.deployed d) txs).1.settlement := by
  obtain ⟨txs', htxs'⟩ := history_refines (world_refines d) txs (World.deployed d)
  have hbooks := books_history hspec txs'
  have hdeployed : (World.deployed d).settlement = deployed d.toPlatform := rfl
  rw [← hdeployed, htxs'] at hbooks
  exact hbooks

/-- A sale is found in the registry under the issuer that it paid. -/
theorem earned_eq (hspec : d.erc721.Spec) (txs : List (Nat × Call Sent)) (a : Address) :
    earned d (history (world d) (World.deployed d) txs).2 (history (world d) (World.deployed d) txs).1 a =
      (((sales d (history (world d) (World.deployed d) txs).2).filter
        fun sale => sale.offer.provider = a).map Mint.price).sum := by
  rw [earned]
  congr 2
  refine List.filter_congr fun sale hmem => ?_
  have hterms := (books_world hspec txs).terms sale (List.mem_filter.mp hmem).1
  rw [hterms.1]
  rfl

/-- The accounts of a history. `log` is all of it, so `tickets` lists every ticket ever issued. -/
structure Accounts (d : Deployment T K) (log : WorldLog T K) (w : World T K) : Prop where
  ids : (tickets d log).map Mint.id = List.range' 1 w.settlement.lastId
  terms : ∀ mint ∈ tickets d log, (w.settlement.entitlements mint.id).SameTerms mint.offer.entitlement
  balance : ∀ a, (d.erc20.balanceOf w.tok a : Int) = received log a - paid d log a + earned d log w a
  supply : d.erc20.totalSupply w.tok = (log.map issuance).sum
  faucet : ∀ ch ∈ log, d.erc20.totalSupply ch.after.tok ≠ d.erc20.totalSupply ch.before.tok →
    ∃ sent target amount, ch.half = .enter sent ∧ sent.request = .faucet target amount

theorem accounts (h721 : d.erc721.Spec) (h20 : d.erc20.Spec) (txs : List (Nat × Call Sent)) :
    Accounts d (history (world d) (World.deployed d) txs).2 (history (world d) (World.deployed d) txs).1 := by
  have hbooks := books_world h721 txs
  obtain ⟨hchained, hfires⟩ := history_chained (world d) (World.deployed d) txs
  refine ⟨hbooks.ids, hbooks.terms, fun a => ?_, ?_, fun ch hmem hne => ?_⟩
  · have hsum := hchained.sum (fun w => (d.erc20.balanceOf w.tok a : Int))
      fun ch hmem => (booked_of_fires h20 (hfires ch hmem)).balance a
    have hzero : d.erc20.balanceOf (World.deployed d).tok a = 0 := h20.deployed.1 a
    calc
      _ = received _ a + ((sales d (history (world d) (World.deployed d) txs).2).map (Mint.flow a)).sum := by
        rw [hsum, hzero, List.sum_map_add, sum_sales, received, Nat.cast_zero, zero_add]
      _ = _ := by
        rw [sum_flow, earned_eq h721, paid]
        omega
  · have hsum := hchained.sum (fun w => d.erc20.totalSupply w.tok)
      fun ch hmem => (booked_of_fires h20 (hfires ch hmem)).supply
    have hzero : d.erc20.totalSupply (World.deployed d).tok = 0 := h20.deployed.2.2
    rw [hsum, hzero, Nat.zero_add]
  · have hsupply := (booked_of_fires h20 (hfires ch hmem)).supply
    unfold issuance at hsupply
    split at hsupply
    · rename_i hhalf
      exact ⟨_, _, _, hhalf, rfl⟩
    · exact absurd hsupply hne

/-- Nobody gets control in a call of `fulfill` in TOK. -/
theorem exec_inTok {sent : Sent} {offer : Offer} {signature : Bytes}
    (hinTok : sent.request.inTok d = some (offer, signature)) (timestamp : Nat) (callee : List (Call Sent)) (ok : Bool)
    (w : World T K) :
    exec (world d) timestamp (.entry sent callee ok) w =
      match fulfillInTok d timestamp sent.sender offer signature w with
      | .error failure => .error failure
      | .ok next => .ok (next, [⟨timestamp, w, .enter sent, next⟩]) := by
  have henter : (world d).enter timestamp sent w = fulfillInTok d timestamp sent.sender offer signature w := by
    change World.enter d timestamp sent w = _
    unfold World.enter
    rw [hinTok]
  have hcalls : (world d).callsOut sent = false := by
    change World.callsOut d sent = false
    unfold World.callsOut
    rw [hinTok]
  rw [exec, henter]
  cases fulfillInTok d timestamp sent.sender offer signature w with
  | error failure => rfl
  | ok next =>
      dsimp only
      rw [hcalls, if_neg Bool.false_ne_true]

/-- A call of `fulfill` in TOK does all of its steps or none. -/
theorem transact_fulfill_inTok {sent : Sent} {offer : Offer} {signature : Bytes}
    (hinTok : sent.request.inTok d = some (offer, signature)) (timestamp : Nat) (callee : List (Call Sent)) (ok : Bool)
    (w : World T K) :
    transact (world d) timestamp (.entry sent callee ok) w = (w, []) ∨
      ∃ paid issued, Redeemable d.toPlatform timestamp sent.sender offer signature ∧
        d.erc20.transferFrom d.address sent.sender offer.provider offer.price.toNat w.tok = .ok paid ∧
        issue d.toPlatform sent.sender offer.entitlement (punched d offer w.settlement) = .ok issued ∧
        transact (world d) timestamp (.entry sent callee ok) w =
          (⟨issued, paid⟩, [⟨timestamp, w, .enter sent, ⟨issued, paid⟩⟩]) := by
  cases hdone : fulfillInTok d timestamp sent.sender offer signature w with
  | error failure =>
      left
      rw [transact, exec_inTok hinTok, hdone]
  | ok next =>
      obtain ⟨hok, -, paid, issued, hpaid, hissued, rfl⟩ := fulfillInTok_eq_ok.mp hdone
      refine Or.inr ⟨paid, issued, hok, hpaid, hissued, ?_⟩
      rw [transact, exec_inTok hinTok, hdone]

/-- A reverted call is as if it had not been made, as a transaction and within any other call. -/
theorem undone_of_error {call : Call Sent} {timestamp : Nat} {w : World T K} {failure : Failure}
    (herror : exec (world d) timestamp call w = .error failure) :
    transact (world d) timestamp call w = (w, []) ∧
      ∀ rest, execAll (world d) timestamp (call :: rest) w = execAll (world d) timestamp rest w := by
  refine ⟨?_, fun rest => ?_⟩
  · rw [transact, herror]
  · rw [execAll, herror]

/-- No ECDSA signature recovers to the settlement, which is a contract. -/
def NoKey (d : Deployment T K) : Prop := ∀ digest signature, d.recover digest signature ≠ some d.address

theorem every_ticket_paid_for (d : Deployment T K) (h721 : d.erc721.Spec) (h20 : d.erc20.Spec)
    (txs : List (Nat × Call Sent)) :
    Accounts d (history (world d) (World.deployed d) txs).2 (history (world d) (World.deployed d) txs).1 ∧
      (NoKey d → ∀ ch ∈ (history (world d) (World.deployed d) txs).2, ∀ sent offer signature,
        (ch.half = .enter sent ∨ ch.half = .leave sent) → sent.request = .settlement (.fulfill offer signature) →
          d.erc20.balanceOf ch.after.tok d.address ≤ d.erc20.balanceOf ch.before.tok d.address) ∧
      (∀ timestamp sent offer signature callee ok w failure, sent.request = .settlement (.fulfill offer signature) →
        exec (world d) timestamp (.entry sent callee ok) w = .error failure →
          transact (world d) timestamp (.entry sent callee ok) w = (w, []) ∧
            ∀ rest, execAll (world d) timestamp (.entry sent callee ok :: rest) w =
              execAll (world d) timestamp rest w) ∧
      ∀ timestamp sent offer signature callee ok w, sent.request.inTok d = some (offer, signature) →
        transact (world d) timestamp (.entry sent callee ok) w = (w, []) ∨
          ∃ paid issued, Redeemable d.toPlatform timestamp sent.sender offer signature ∧
            d.erc20.transferFrom d.address sent.sender offer.provider offer.price.toNat w.tok = .ok paid ∧
            issue d.toPlatform sent.sender offer.entitlement (punched d offer w.settlement) = .ok issued ∧
            transact (world d) timestamp (.entry sent callee ok) w =
              (⟨issued, paid⟩, [⟨timestamp, w, .enter sent, ⟨issued, paid⟩⟩]) := by
  have hfires := (history_chained (world d) (World.deployed d) txs).2
  refine ⟨accounts h721 h20 txs, fun hkey ch hmem sent offer signature hhalf hrequest => ?_, ?_, ?_⟩
  · exact balance_le_of_fulfill h20 hkey (hfires ch hmem) hhalf hrequest
  · exact fun timestamp sent offer signature callee ok w failure _ herror => undone_of_error herror
  · exact fun timestamp sent offer signature callee ok w hinTok =>
      transact_fulfill_inTok hinTok timestamp callee ok w

def smallDeployment : Deployment Registry Ledger :=
  { smallPlatform with erc20 := Ledger.erc20, address := 0x5e, tok := 0xc }

/-- ada gets 25 TOK and buys bell's offer for 10; a second try to redeem it fails. -/
def paidSale : List (Nat × Call Sent) :=
  [(5, .entry ⟨ada, ada_ne_zero, .faucet ada 25⟩ [] true), (5, .entry ⟨ada, ada_ne_zero, .tokApprove 0x5e 20⟩ [] true),
    (5, .entry ⟨ada, ada_ne_zero, .settlement (.fulfill smallOffer [1])⟩ [] true),
    (6, .entry ⟨ada, ada_ne_zero, .settlement (.fulfill smallOffer [1])⟩ [] true)]

theorem every_ticket_paid_for_one :
    Accounts smallDeployment (history (world smallDeployment) (World.deployed smallDeployment) paidSale).2
        (history (world smallDeployment) (World.deployed smallDeployment) paidSale).1 ∧
      paid smallDeployment (history (world smallDeployment) (World.deployed smallDeployment) paidSale).2 ada = 10 ∧
      Ledger.balanceOf (history (world smallDeployment) (World.deployed smallDeployment) paidSale).1.tok ada = 15 :=
  ⟨(every_ticket_paid_for smallDeployment Registry.erc721_spec Ledger.erc20_spec paidSale).1, by decide, by decide⟩

end A2AProvisioning.Settlement
