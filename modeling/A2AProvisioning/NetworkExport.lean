import Mathlib.Data.List.TakeWhile
import A2AProvisioning.NetworkUndo

/-! Where a telemetry export points to. `apply_telemetry` splits the endpoint at its last colon, so the text of an
endpoint without a colon ends up on the side of the port. -/

namespace A2AProvisioning.Network

open Json

/-- A decimal number as `int` reads it. -/
def numberOf (unicode : Unicode) (port : List Char) : Option Nat :=
  (port.mapM unicode.decimal).map fun digits => digits.foldl (fun n digit => 10 * n + digit) 0

/-- What Python documents of its tables: a decimal character counts as a digit, and of the ASCII characters the
digits alone do. -/
structure Unicode.Lawful (unicode : Unicode) : Prop where
  isDigit_of_decimal : ∀ c, (unicode.decimal c).isSome = true → unicode.isDigit c = true
  ascii : ∀ c : Char, c.toNat < 128 →
    unicode.isDigit c = c.isDigit ∧ unicode.decimal c = if c.isDigit then some (c.toNat - 48) else none

/-- The endpoint ends in a colon and a number, which may be left out. -/
def HasPort (unicode : Unicode) (collectorEndpoint : String) : Prop :=
  ∃ host port, collectorEndpoint.toList = host ++ ':' :: port ∧ (numberOf unicode port).isSome = true

/-- The address in an endpoint: what stands before its port, or all of it where it has none. -/
def AddressIn (unicode : Unicode) (collectorEndpoint address : String) : Prop :=
  (∃ port, collectorEndpoint.toList = address.toList ++ ':' :: port ∧ (numberOf unicode port).isSome = true) ∨
    address = collectorEndpoint ∧ ¬ HasPort unicode collectorEndpoint

/-- The export of the session on the device has this destination. -/
def PointsTo (r : Router) (name address : String) (port : Nat) : Prop :=
  ∃ body, r.destinations.get? name = some body ∧
    lookup "address" body = some (.str address) ∧ lookup "port" body = some (.number port)

/-- Every call with the endpoint returns, and an export goes to the collector of the ticket: to the host and the
port of the endpoint, or to the endpoint at the default port where it has none, and never to an address that the endpoint
does not have. -/
structure GnmiProvisioner.Exports (g : GnmiProvisioner) (collectorEndpoint : String) : Prop where
  returns : ∀ gnmi sessionId target routers,
    (g.applyTelemetryOver gnmi sessionId target collectorEndpoint routers).1 ≠ none
  bought : ∀ host port n, collectorEndpoint.toList = host ++ ':' :: port → host ≠ [] → port ≠ [] →
    numberOf g.unicode port = some n → ∀ gnmi sessionId target routers result applied,
      g.applyTelemetryOver gnmi sessionId target collectorEndpoint routers = (some result, applied) →
      result.ok = true → PointsTo (applied target.device) (templateName sessionId) (String.ofList host) n
  default : collectorEndpoint ≠ "" → ¬ HasPort g.unicode collectorEndpoint →
    ∀ gnmi sessionId target routers result applied,
      g.applyTelemetryOver gnmi sessionId target collectorEndpoint routers = (some result, applied) →
      result.ok = true → PointsTo (applied target.device) (templateName sessionId) collectorEndpoint 57400
  kept : ∀ gnmi sessionId target routers result applied,
    g.applyTelemetryOver gnmi sessionId target collectorEndpoint routers = (some result, applied) → result.ok = true →
      ∃ address port, AddressIn g.unicode collectorEndpoint address ∧
        PointsTo (applied target.device) (templateName sessionId) address port

theorem rpartition_of_not_mem {s : List Char} (h : ':' ∉ s) : rpartition s = ([], s) := by
  have hnil : s.reverse.dropWhile (fun c => c ≠ ':') = [] := by
    refine List.dropWhile_eq_nil_iff.mpr fun c hmem => decide_eq_true ?_
    rintro rfl
    exact h (List.mem_reverse.mp hmem)
  rw [rpartition, hnil]

theorem rpartition_append (host : List Char) {port : List Char} (h : ':' ∉ port) :
    rpartition (host ++ ':' :: port) = (host, port) := by
  have hport : ∀ c ∈ port.reverse, decide (c ≠ ':') = true := by
    intro c hmem
    refine decide_eq_true ?_
    rintro rfl
    exact h (List.mem_reverse.mp hmem)
  have hreverse : (host ++ ':' :: port).reverse = port.reverse ++ ':' :: host.reverse := by
    rw [List.reverse_append, List.reverse_cons, List.append_assoc, List.singleton_append]
  have hdrop : (host ++ ':' :: port).reverse.dropWhile (fun c => c ≠ ':') = ':' :: host.reverse := by
    rw [hreverse, List.dropWhile_append_of_pos hport, List.dropWhile_cons_of_neg (by decide)]
  have htake : (host ++ ':' :: port).reverse.takeWhile (fun c => c ≠ ':') = port.reverse := by
    rw [hreverse, List.takeWhile_append_of_pos hport, List.takeWhile_cons_of_neg (by decide), List.append_nil]
  rw [rpartition, hdrop]
  dsimp only
  rw [htake, List.reverse_reverse, List.reverse_reverse]

/-- A string has no colon, or a last one. -/
theorem no_colon_or_last (s : List Char) : ':' ∉ s ∨ ∃ host port, s = host ++ ':' :: port ∧ ':' ∉ port := by
  induction s with
  | nil => exact Or.inl List.not_mem_nil
  | cons c s ih =>
      rcases ih with hnot | ⟨host, port, rfl, hport⟩
      · by_cases hc : c = ':'
        · exact Or.inr ⟨[], s, by rw [hc, List.nil_append], hnot⟩
        · exact Or.inl fun hmem => (List.mem_cons.mp hmem).elim (fun h => hc h.symm) hnot
      · exact Or.inr ⟨c :: host, port, rfl, hport⟩

section Port

variable {unicode : Unicode} {port : List Char}

theorem decimal_of_numberOf (h : (numberOf unicode port).isSome = true) {c : Char} (hmem : c ∈ port) :
    (unicode.decimal c).isSome = true := by
  rw [numberOf, Option.isSome_map] at h
  induction port with
  | nil => exact absurd hmem List.not_mem_nil
  | cons first rest ih =>
      rw [List.mapM_cons] at h
      obtain ⟨digits, hdigits⟩ := Option.isSome_iff_exists.mp h
      obtain ⟨digit, hfirst, hdigits⟩ := Option.bind_eq_some_iff.mp hdigits
      obtain ⟨others, hrest, -⟩ := Option.bind_eq_some_iff.mp hdigits
      rcases List.mem_cons.mp hmem with rfl | hmem
      · exact Option.isSome_of_mem hfirst
      · exact ih (Option.isSome_of_mem hrest) hmem

/-- A number has no colon in it. -/
theorem colon_not_mem (hlawful : unicode.Lawful) (h : (numberOf unicode port).isSome = true) : ':' ∉ port := by
  intro hmem
  have hsome := decimal_of_numberOf h hmem
  rw [(hlawful.ascii ':' (by decide)).2] at hsome
  exact absurd hsome (by decide)

/-- `int` is called on a number, and takes one that is not too long. -/
theorem portOf_of_number (hlawful : unicode.Lawful) (hport : port ≠ []) {n : Nat} (hn : numberOf unicode port = some n) :
    portOf unicode port = if port.length ≤ intMaxStrDigits then some n else none := by
  have hall : port.all unicode.isDigit = true := List.all_eq_true.mpr fun c hmem =>
    hlawful.isDigit_of_decimal c (decimal_of_numberOf (Option.isSome_of_mem hn) hmem)
  rw [numberOf] at hn
  rw [portOf, if_pos ⟨hport, hall⟩, hn]

theorem portOf_nil : portOf unicode [] = some 57400 := rfl

end Port

/-! ### The export -/

/-- The address and the port are written over what was there. -/
theorem pointsTo_updateExport (r : Router) (name address networkInstance : String) (port : Nat) (tunnel : Tunnel) :
    PointsTo (r.updateExport name ⟨address, port, networkInstance⟩ tunnel) name address port := by
  have hnodup : ((destinationBody ⟨address, port, networkInstance⟩).map Prod.fst).Nodup := by
    show ["address", "port", "network-instance"].Nodup
    decide
  refine ⟨_, (get?_merged r.destinations name name _).trans (if_pos rfl), ?_, ?_⟩
  · rw [lookup_mergeMembers keyLeaf "address" _ hnodup]
    rfl
  · rw [lookup_mergeMembers keyLeaf "port" _ hnodup]
    rfl

theorem PointsTo.unique {r : Router} {name address address' : String} {port port' : Nat}
    (h : PointsTo r name address port) (h' : PointsTo r name address' port') : address = address' ∧ port = port' := by
  obtain ⟨body, hget, haddress, hport⟩ := h
  obtain ⟨body', hget', haddress', hport'⟩ := h'
  cases hget.symm.trans hget'
  refine ⟨Json.str.inj (Option.some.inj (haddress.symm.trans haddress')), ?_⟩
  exact Int.ofNat.inj (Json.number.inj (Option.some.inj (hport.symm.trans hport')))

namespace GnmiProvisioner

variable {g : GnmiProvisioner} {collectorEndpoint : String}

/-- The address that is written for what stands before the last colon. -/
def addressOf (host : List Char) : String := if host = [] then "0.0.0.0" else String.ofList host

/-- A call that reports success wrote the two halves of the endpoint. -/
theorem pointsTo_of_ok {gnmi : Gnmi} {sessionId : String} {target : ResolvedNode} {routers applied : Routers}
    {result : ApplyResult} {port : Nat} (hport : portOf g.unicode (rpartition collectorEndpoint.toList).2 = some port)
    (happlied : g.applyTelemetryOver gnmi sessionId target collectorEndpoint routers = (some result, applied))
    (hok : result.ok = true) :
    PointsTo (applied target.device) (templateName sessionId)
      (addressOf (rpartition collectorEndpoint.toList).1) port := by
  unfold applyTelemetryOver at happlied
  simp only [hport] at happlied
  cases happlied
  rw [(setOver_ok hok).2, Function.update_self]
  exact pointsTo_updateExport _ _ _ _ _ _

theorem applyTelemetryOver_eq_none {gnmi : Gnmi} {sessionId : String} {target : ResolvedNode} {routers : Routers} :
    (g.applyTelemetryOver gnmi sessionId target collectorEndpoint routers).1 = none ↔
      portOf g.unicode (rpartition collectorEndpoint.toList).2 = none := by
  unfold applyTelemetryOver
  dsimp only
  cases portOf g.unicode (rpartition collectorEndpoint.toList).2 with
  | none => exact iff_of_true rfl rfl
  | some port => exact iff_of_false (Option.some_ne_none _) (Option.some_ne_none _)

/-- On a device that takes the calls the export is written. -/
theorem applied_of_obliging {target : ResolvedNode} (hmem : target.device ∈ g.targets) (sessionId : String)
    (routers : Routers) {port : Nat} (hport : portOf g.unicode (rpartition collectorEndpoint.toList).2 = some port) :
    ∃ result applied, g.applyTelemetryOver (obliging routers) sessionId target collectorEndpoint routers =
      (some result, applied) ∧ result.ok = true := by
  unfold applyTelemetryOver
  simp only [hport, setOver_obliging hmem]
  exact ⟨_, _, rfl, rfl⟩

/-- An endpoint that ends in a colon and a number is split there. -/
theorem exports_of_port (hlawful : g.unicode.Lawful) {host port : List Char}
    (hendpoint : collectorEndpoint.toList = host ++ ':' :: port) (hnumber : (numberOf g.unicode port).isSome = true)
    (hlength : port.length ≤ intMaxStrDigits) (hhost : host ≠ []) : g.Exports collectorEndpoint := by
  have hsplit : rpartition collectorEndpoint.toList = (host, port) := by
    rw [hendpoint, rpartition_append host (colon_not_mem hlawful hnumber)]
  obtain ⟨n, hn⟩ := Option.isSome_iff_exists.mp hnumber
  have hport : port ≠ [] → portOf g.unicode (rpartition collectorEndpoint.toList).2 = some n := by
    intro hne
    rw [hsplit, portOf_of_number hlawful hne hn, if_pos hlength]
  have hsome : ∃ found, portOf g.unicode (rpartition collectorEndpoint.toList).2 = some found := by
    by_cases hne : port = []
    · exact ⟨57400, by rw [hsplit, hne, portOf_nil]⟩
    · exact ⟨n, hport hne⟩
  refine ⟨fun gnmi sessionId target routers => ?_, ?_, fun _ hnot => absurd ⟨host, port, hendpoint, hnumber⟩ hnot, ?_⟩
  · obtain ⟨found, hfound⟩ := hsome
    rw [Ne, applyTelemetryOver_eq_none, hfound]
    exact Option.some_ne_none _
  · intro host' port' n' hendpoint' hhost' hne hn' gnmi sessionId target routers result applied happlied hok
    have hsplit' : rpartition collectorEndpoint.toList = (host', port') := by
      rw [hendpoint', rpartition_append host' (colon_not_mem hlawful (Option.isSome_of_mem hn'))]
    cases hsplit.symm.trans hsplit'
    cases hn.symm.trans hn'
    have hpoints := pointsTo_of_ok (hport hne) happlied hok
    rwa [hsplit, addressOf, if_neg hhost'] at hpoints
  · intro gnmi sessionId target routers result applied happlied hok
    obtain ⟨found, hfound⟩ := hsome
    have hpoints := pointsTo_of_ok hfound happlied hok
    rw [hsplit, addressOf, if_neg hhost] at hpoints
    exact ⟨String.ofList host, found, Or.inl ⟨port, by rw [String.toList_ofList, hendpoint], hnumber⟩, hpoints⟩

/-- The default address is kept, with everything on the side of the port. -/
theorem exports_default (hlawful : g.unicode.Lawful) : g.Exports "0.0.0.0" := by
  have hcolon : ':' ∉ "0.0.0.0".toList := by decide
  have hnot : ¬ HasPort g.unicode "0.0.0.0" := by
    rintro ⟨host, port, hendpoint, -⟩
    exact hcolon (hendpoint ▸ List.mem_append_right _ List.mem_cons_self)
  have hdot : g.unicode.isDigit '.' = false := (hlawful.ascii '.' (by decide)).1
  have hsplit := rpartition_of_not_mem hcolon
  have hport : portOf g.unicode (rpartition "0.0.0.0".toList).2 = some 57400 := by
    rw [hsplit, portOf, if_neg]
    rintro ⟨-, hall⟩
    have hdigit := List.all_eq_true.mp hall '.' (by decide)
    rw [hdot] at hdigit
    cases hdigit
  have hpoints : ∀ gnmi sessionId target routers result applied,
      g.applyTelemetryOver gnmi sessionId target "0.0.0.0" routers = (some result, applied) → result.ok = true →
        PointsTo (applied target.device) (templateName sessionId) "0.0.0.0" 57400 := by
    intro gnmi sessionId target routers result applied happlied hok
    have hpoints := pointsTo_of_ok hport happlied hok
    rwa [hsplit, addressOf, if_pos rfl] at hpoints
  refine ⟨fun gnmi sessionId target routers => ?_, ?_, fun _ _ => hpoints, ?_⟩
  · rw [Ne, applyTelemetryOver_eq_none, hport]
    exact Option.some_ne_none _
  · intro host port n hendpoint _ _ hn
    exact absurd ⟨host, port, hendpoint, Option.isSome_of_mem hn⟩ hnot
  · intro gnmi sessionId target routers result applied happlied hok
    exact ⟨"0.0.0.0", 57400, Or.inr ⟨rfl, hnot⟩, hpoints gnmi sessionId target routers result applied happlied hok⟩

/-- A call that returns has found a port that `int` takes. -/
theorem length_le_of_port (hlawful : g.unicode.Lawful) {host digits : List Char} {port : Nat}
    (hendpoint : collectorEndpoint.toList = host ++ ':' :: digits) (hnumber : (numberOf g.unicode digits).isSome = true)
    (hport : portOf g.unicode (rpartition collectorEndpoint.toList).2 = some port) : digits.length ≤ intMaxStrDigits := by
  by_cases hne : digits = []
  · rw [hne]
    exact Nat.zero_le _
  · obtain ⟨n, hn⟩ := Option.isSome_iff_exists.mp hnumber
    rw [hendpoint, rpartition_append host (colon_not_mem hlawful hnumber), portOf_of_number hlawful hne hn] at hport
    by_contra hlong
    rw [if_neg hlong] at hport
    cases hport

/-- An export goes to the collector of the ticket when the endpoint has a host, a colon behind it and then a number that
`int` takes, or none; of the endpoints without a colon only the default address is kept. -/
theorem exports_iff (hlawful : g.unicode.Lawful) (hknown : g.targets ≠ []) (collectorEndpoint : String) :
    g.Exports collectorEndpoint ↔
      collectorEndpoint = "0.0.0.0" ∨
        ∃ host port, collectorEndpoint.toList = host ++ ':' :: port ∧ host ≠ [] ∧
          (numberOf g.unicode port).isSome = true ∧ port.length ≤ intMaxStrDigits := by
  constructor
  · intro h
    obtain ⟨device, hmem⟩ := List.exists_mem_of_ne_nil g.targets hknown
    have hreturns := h.returns (obliging fun _ => labRouter) "" ⟨device⟩ fun _ => labRouter
    rw [Ne, applyTelemetryOver_eq_none] at hreturns
    obtain ⟨port, hport⟩ := Option.ne_none_iff_exists'.mp hreturns
    obtain ⟨result, applied, happlied, hok⟩ := @applied_of_obliging g collectorEndpoint ⟨device⟩ hmem ""
      (fun _ => labRouter) port hport
    obtain ⟨address, written, hin, hpoints⟩ := h.kept _ _ _ _ _ _ happlied hok
    have haddress := ((pointsTo_of_ok hport happlied hok).unique hpoints).1
    rcases hin with ⟨digits, hendpoint, hnumber⟩ | ⟨rfl, -⟩
    · refine Or.inr ⟨address.toList, digits, hendpoint, fun hempty => ?_, hnumber,
        length_le_of_port hlawful hendpoint hnumber hport⟩
      -- without a host the default address is written
      rw [hendpoint, rpartition_append _ (colon_not_mem hlawful hnumber), addressOf, if_pos hempty] at haddress
      rw [← haddress] at hempty
      exact absurd hempty (by decide)
    · rcases no_colon_or_last address.toList with hcolon | ⟨host, digits, hendpoint, hdigits⟩
      · rw [rpartition_of_not_mem hcolon] at haddress
        exact Or.inl haddress.symm
      · rw [hendpoint, rpartition_append host hdigits, addressOf] at haddress
        split_ifs at haddress with hhost
        · exact Or.inl haddress.symm
        · -- what stands before the colon is shorter than the endpoint
          have hlength := congrArg (List.length ∘ String.toList) haddress
          simp only [Function.comp_apply, hendpoint, String.toList_ofList, List.length_append, List.length_cons] at hlength
          omega
  · rintro (rfl | ⟨host, port, hendpoint, hhost, hnumber, hlength⟩)
    · exact exports_default hlawful
    · exact exports_of_port hlawful hendpoint hnumber hlength hhost

theorem labProvisioner_lawful : labProvisioner.unicode.Lawful where
  isDigit_of_decimal := fun c h => by
    by_contra hdigit
    have hnone : labProvisioner.unicode.decimal c = none := if_neg hdigit
    rw [hnone] at h
    cases h
  ascii := fun _ _ => ⟨rfl, rfl⟩

/-- The router is pointed at the unspecified address, and the call reports success. -/
theorem collector_not_kept :
    ¬ ∀ (g : GnmiProvisioner) (collectorEndpoint : String), g.unicode.Lawful → g.Exports collectorEndpoint := by
  intro h
  have hexports := h labProvisioner "collector.example" labProvisioner_lawful
  have hcolon : ':' ∉ "collector.example".toList := by decide
  have hport : portOf labProvisioner.unicode (rpartition "collector.example".toList).2 = some 57400 := by decide
  have hnot : ¬ HasPort labProvisioner.unicode "collector.example" := by
    rintro ⟨host, port, hendpoint, -⟩
    exact hcolon (hendpoint ▸ List.mem_append_right _ List.mem_cons_self)
  obtain ⟨result, applied, happlied, hok⟩ := @applied_of_obliging labProvisioner _ ⟨"srl1"⟩ List.mem_cons_self "ent1-a0"
    (fun _ => labRouter) 57400 hport
  have haddress := ((pointsTo_of_ok hport happlied hok).unique
    (hexports.default (by decide) hnot _ _ _ _ _ _ happlied hok)).1
  rw [rpartition_of_not_mem hcolon] at haddress
  exact absurd haddress (by decide)

theorem exports_iff_lab :
    labProvisioner.Exports "[2001:db8::1]:50051" ↔
      "[2001:db8::1]:50051" = "0.0.0.0" ∨
        ∃ host port, "[2001:db8::1]:50051".toList = host ++ ':' :: port ∧ host ≠ [] ∧
          (numberOf labProvisioner.unicode port).isSome = true ∧ port.length ≤ intMaxStrDigits :=
  exports_iff labProvisioner_lawful (List.cons_ne_nil _ _) "[2001:db8::1]:50051"

end GnmiProvisioner

end A2AProvisioning.Network
