import A2AProvisioning.AgentsConsumer
import A2AProvisioning.LibraryJsonText

/-! Structured answers of a language model: the object is cut out of the reply by counting braces over the raw
text, and the model is asked again until one validates. The replies and the schema's validation are parameters.
A brace in a string is counted like any other, so what the cut keeps is said by the count. -/

namespace A2AProvisioning

namespace Agents

def thinkEnd : List Char := "</think>".toList

/-- `_extract_json`. -/
def extractJson (text : List Char) : List Char :=
  let text := (Scan.afterLast thinkEnd text).getD text
  match text.dropWhile fun c => c ≠ '{' with
  | [] => text
  | rest => Scan.upToClosing '{' '}' rest

variable {T : Type*}

/-- What is left of the loop of `structured`, `attempts` being the replies so far. -/
def structuredFrom (validate : List Char → Option T) (replies : Nat → List Char) :
    Nat → List (List Char) → Except (List (List Char)) T
  | 0, attempts => .error attempts
  | left + 1, attempts =>
      let reply := replies attempts.length
      match validate (extractJson reply) with
      | some object => .ok object
      | none => structuredFrom validate replies left (attempts ++ [reply])

/-- `structured`: the object, or `StructuredError` with the attempts. -/
def structured (validate : List Char → Option T) (maxRetries : Nat) (replies : Nat → List Char) :
    Except (List (List Char)) T :=
  structuredFrom validate replies maxRetries []

/-- A reply in its parts. -/
structure Wrapping where
  reasoning : Option (List Char)
  before : List Char
  answer : List Char
  after : List Char

def Wrapping.lead (w : Wrapping) : List Char :=
  match w.reasoning with
  | none => w.before
  | some reasoning => reasoning ++ thinkEnd ++ w.before

def Wrapping.text (w : Wrapping) : List Char := w.lead ++ w.answer ++ w.after

/-- The answer is a JSON object that validates, and the rest does not get in its way. -/
structure Wrapping.WellFormed (validate : List Char → Option T) (w : Wrapping) : Prop where
  before : '{' ∉ w.before
  object : JsonText.IsObject (fun _ => True) w.answer
  valid : (validate w.answer).isSome
  answer : ¬ thinkEnd <:+: w.answer
  after : ¬ thinkEnd <:+: w.after

/-- Counted over the raw text, the braces of the answer come out even at its end, and not before. -/
def Wrapping.Counted (w : Wrapping) : Prop :=
  (∀ n, 0 < n → n < w.answer.length → (w.answer.take n).count '}' < (w.answer.take n).count '{') ∧
    (w.answer.count '}' = w.answer.count '{' ∨ w.after = [])

theorem exists_tail_lead (w : Wrapping) :
    ∃ tail, (Scan.afterLast thinkEnd w.lead).getD w.lead = tail ∧ tail <:+ w.before := by
  have hmark : thinkEnd ≠ [] := by decide
  rw [Wrapping.lead]
  cases w.reasoning with
  | none =>
      cases htail : Scan.afterLast thinkEnd w.before with
      | none => exact ⟨w.before, rfl, List.suffix_refl _⟩
      | some tail => exact ⟨tail, rfl, (Scan.suffix_of_afterLast htail).1⟩
  | some reasoning =>
      obtain ⟨tail, htail, hsuffix⟩ := Scan.afterLast_of_occurrence hmark reasoning w.before
      exact ⟨tail, by rw [htail, Option.getD_some], hsuffix⟩

/-- The cut starts at the answer's brace. -/
theorem extractJson_text {w : Wrapping} {body : List Char} (hbefore : '{' ∉ w.before)
    (hanswer : w.answer = '{' :: body ++ ['}']) (hthink : ¬ thinkEnd <:+: w.answer)
    (hafter : ¬ thinkEnd <:+: w.after) :
    extractJson w.text = Scan.upToClosing '{' '}' (w.answer ++ w.after) := by
  have htext : w.text = w.lead ++ '{' :: (body ++ ['}'] ++ w.after) := by
    rw [Wrapping.text, hanswer]
    simp
  -- the mark reaches neither across the last brace of the answer nor across its first one
  have hrest : ¬ thinkEnd <:+: '{' :: (body ++ ['}'] ++ w.after) := by
    have hsplit : '{' :: (body ++ ['}'] ++ w.after) = '{' :: body ++ '}' :: w.after := by simp
    rw [hsplit, Scan.infix_append_cons_iff (by decide), not_or]
    refine ⟨fun h => hthink (h.trans ?_), hafter⟩
    rw [hanswer]
    exact (List.prefix_append _ _).isInfix
  obtain ⟨tail, htail, hsuffix⟩ := exists_tail_lead w
  have hstart : (Scan.afterLast thinkEnd w.text).getD w.text = tail ++ '{' :: (body ++ ['}'] ++ w.after) := by
    rw [htext, Scan.afterLast_append_cons (by decide) (by decide) hrest, ← htail]
    cases Scan.afterLast thinkEnd w.lead <;> rfl
  have hdrop : (tail ++ '{' :: (body ++ ['}'] ++ w.after)).dropWhile (fun c => c ≠ '{') =
      '{' :: (body ++ ['}'] ++ w.after) := by
    rw [List.dropWhile_append_of_pos]
    · rw [List.dropWhile_cons, if_neg (by simp)]
    · intro c hc
      rw [decide_eq_true_eq]
      rintro rfl
      exact hbefore (hsuffix.subset hc)
  rw [extractJson, hstart, hdrop, hanswer]
  simp only [List.cons_append]

/-- The cut is the answer exactly where the count comes out even at its end. -/
theorem extractJson_text_iff {validate : List Char → Option T} {w : Wrapping} (h : w.WellFormed validate) :
    extractJson w.text = w.answer ↔ w.Counted := by
  obtain ⟨body, hanswer, -⟩ := h.object
  rw [extractJson_text h.before hanswer h.answer h.after, Wrapping.Counted, hanswer, Scan.upToClosing_eq_iff (by decide)]
  refine and_congr (forall_congr' fun n => imp_congr_right fun _ => imp_congr_right fun _ => ?_) (or_congr ?_ Iff.rfl)
  · rw [Scan.height]
    omega
  · rw [Scan.height]
    omega

/-- An answer in whose strings every brace is matched is kept, however deep it nests. -/
theorem extractJson_of_braces {validate : List Char → Option T} {w : Wrapping} (h : w.WellFormed validate)
    (hbraces : JsonText.IsObject JsonText.Braces w.answer) : extractJson w.text = w.answer := by
  rw [extractJson_text_iff h, Wrapping.Counted]
  obtain ⟨inner, hanswer, hinner⟩ := hbraces.braces_inner
  rw [hanswer]
  refine ⟨fun n hpos hn => ?_, Or.inl ?_⟩
  · have habove := hinner.block_take (by decide) hpos hn
    rw [Scan.height] at habove
    omega
  · have heven := (hinner.block (by decide)).1
    rw [Scan.height] at heven
    omega

section Loop

variable {validate : List Char → Option T} {replies : Nat → List Char}

/-- The loop stops at the first reply that validates. -/
theorem structuredFrom_eq_ok {object : T} {k : Nat} (hobject : validate (extractJson (replies k)) = some object)
    {left : Nat} {attempts : List (List Char)} (hfrom : attempts.length ≤ k) (hk : k < attempts.length + left)
    (hearlier : ∀ j, attempts.length ≤ j → j < k → validate (extractJson (replies j)) = none) :
    structuredFrom validate replies left attempts = .ok object := by
  induction left generalizing attempts with
  | zero => omega
  | succ left ih =>
      rw [structuredFrom]
      rcases hfrom.eq_or_lt with rfl | hlt
      · simp only [hobject]
      · have hlength : (attempts ++ [replies attempts.length]).length = attempts.length + 1 := by
          rw [List.length_append, List.length_singleton]
        simp only [hearlier _ le_rfl hlt]
        refine ih (by omega) (by omega) fun j hj hjk => hearlier j (by omega) hjk

/-- It raises only when none of the replies has validated. -/
theorem of_structuredFrom_eq_error {left : Nat} {attempts said : List (List Char)}
    (h : structuredFrom validate replies left attempts = .error said) {k : Nat} (hfrom : attempts.length ≤ k)
    (hk : k < attempts.length + left) : validate (extractJson (replies k)) = none := by
  induction left generalizing attempts with
  | zero => omega
  | succ left ih =>
      have hlength : (attempts ++ [replies attempts.length]).length = attempts.length + 1 := by
        rw [List.length_append, List.length_singleton]
      rw [structuredFrom] at h
      cases hobject : validate (extractJson (replies attempts.length)) with
      | some object =>
          simp only [hobject] at h
          cases h
      | none =>
          simp only [hobject] at h
          rcases hfrom.eq_or_lt with rfl | hlt
          · exact hobject
          · exact ih h (by omega) (by omega)

/-- The error carries every reply. -/
theorem attempts_of_structuredFrom_eq_error {left : Nat} {attempts said : List (List Char)}
    (h : structuredFrom validate replies left attempts = .error said) :
    said = attempts ++ (List.range' attempts.length left).map replies := by
  induction left generalizing attempts with
  | zero =>
      cases h
      simp
  | succ left ih =>
      rw [structuredFrom] at h
      cases hobject : validate (extractJson (replies attempts.length)) with
      | some object =>
          simp only [hobject] at h
          cases h
      | none =>
          simp only [hobject] at h
          rw [ih h, List.length_append, List.length_singleton, List.range'_succ, List.map_cons, List.append_assoc,
            List.singleton_append]

end Loop

/-! ### Answers are kept -/

/-- The loop asks for this reply: none before it has validated. -/
def Requested (validate : List Char → Option T) (replies : Nat → List Char) (k : Nat) : Prop :=
  ∀ j < k, validate (extractJson (replies j)) = none

/-- No well-formed answer among the replies is lost. -/
structure Keeps (validate : List Char → Option T) (maxRetries : Nat) (replies : Nat → List Char) : Prop where
  extracted : ∀ k < maxRetries, ∀ w : Wrapping, w.WellFormed validate → replies k = w.text →
    extractJson (replies k) = w.answer
  returned : ∀ k < maxRetries, ∀ w : Wrapping, w.WellFormed validate → replies k = w.text →
    (∀ j < k, validate (extractJson (replies j)) = none) →
      ∃ object, validate w.answer = some object ∧ structured validate maxRetries replies = .ok object
  raised : ∀ attempts, structured validate maxRetries replies = .error attempts →
    ∀ k < maxRetries, ∀ w : Wrapping, w.WellFormed validate → replies k ≠ w.text

/-- No well-formed answer is lost among the replies that the loop asks for. -/
structure KeepsRequested (validate : List Char → Option T) (maxRetries : Nat) (replies : Nat → List Char) : Prop where
  kept : ∀ k < maxRetries, Requested validate replies k → ∀ w : Wrapping, w.WellFormed validate → replies k = w.text →
    extractJson (replies k) = w.answer ∧
      ∃ object, validate w.answer = some object ∧ structured validate maxRetries replies = .ok object
  raised : ∀ attempts, structured validate maxRetries replies = .error attempts →
    ∀ k < maxRetries, ∀ w : Wrapping, w.WellFormed validate → replies k ≠ w.text

section Kept

variable {validate : List Char → Option T} {maxRetries : Nat} {replies : Nat → List Char} {k : Nat} {w : Wrapping}

/-- A requested answer whose braces are counted right is the one returned. -/
theorem structured_of_counted (hk : k < maxRetries) (hrequested : Requested validate replies k)
    (hw : w.WellFormed validate) (htext : replies k = w.text) (hcounted : w.Counted) :
    ∃ object, validate w.answer = some object ∧ structured validate maxRetries replies = .ok object := by
  obtain ⟨object, hobject⟩ := Option.isSome_iff_exists.mp hw.valid
  refine ⟨object, hobject, structuredFrom_eq_ok (k := k) ?_ k.zero_le ?_ fun j _ hj => hrequested j hj⟩
  · rw [htext, (extractJson_text_iff hw).mpr hcounted, hobject]
  · rw [List.length_nil]
    omega

/-- Where the call raises it has asked for every reply. -/
theorem requested_of_raised {attempts : List (List Char)}
    (herror : structured validate maxRetries replies = .error attempts) (hk : k < maxRetries) :
    Requested validate replies k := fun j hj =>
  of_structuredFrom_eq_error herror j.zero_le (by rw [List.length_nil]; omega)

/-- So none of them is a well-formed answer whose braces are counted right. -/
theorem ne_text_of_raised {attempts : List (List Char)}
    (hcounted : ∀ w : Wrapping, w.WellFormed validate → replies k = w.text → w.Counted)
    (herror : structured validate maxRetries replies = .error attempts) (hk : k < maxRetries)
    (hw : w.WellFormed validate) : replies k ≠ w.text := by
  intro htext
  obtain ⟨object, -, hok⟩ :=
    structured_of_counted hk (requested_of_raised herror hk) hw htext (hcounted w hw htext)
  cases herror.symm.trans hok

end Kept

/-- Both for all the replies and for those that the loop asks for. -/
theorem structured_keeps_iff (validate : List Char → Option T) (maxRetries : Nat) (replies : Nat → List Char) :
    (Keeps validate maxRetries replies ↔
      ∀ k < maxRetries, ∀ w : Wrapping, w.WellFormed validate → replies k = w.text → w.Counted) ∧
    (KeepsRequested validate maxRetries replies ↔
      ∀ k < maxRetries, Requested validate replies k →
        ∀ w : Wrapping, w.WellFormed validate → replies k = w.text → w.Counted) := by
  refine ⟨⟨fun h k hk w hw htext => ?_, fun h => ⟨fun k hk w hw htext => ?_, ?_, ?_⟩⟩,
    ⟨fun h k hk hrequested w hw htext => ?_, fun h => ⟨fun k hk hrequested w hw htext => ⟨?_, ?_⟩, ?_⟩⟩⟩
  · have hcut := h.extracted k hk w hw htext
    rw [htext] at hcut
    exact (extractJson_text_iff hw).mp hcut
  · rw [htext]
    exact (extractJson_text_iff hw).mpr (h k hk w hw htext)
  · exact fun k hk w hw htext hrequested => structured_of_counted hk hrequested hw htext (h k hk w hw htext)
  · exact fun attempts herror k hk w hw => ne_text_of_raised (h k hk) herror hk hw
  · have hcut := (h.kept k hk hrequested w hw htext).1
    rw [htext] at hcut
    exact (extractJson_text_iff hw).mp hcut
  · rw [htext]
    exact (extractJson_text_iff hw).mpr (h k hk hrequested w hw htext)
  · exact structured_of_counted hk hrequested hw htext (h k hk hrequested w hw htext)
  · exact fun attempts herror k hk w hw =>
      ne_text_of_raised (h k hk (requested_of_raised herror hk)) herror hk hw

/-- A reason with a brace in it, answered without any wrapping but a remark behind it. -/
def spoilt : Wrapping where
  reasoning := none
  before := []
  answer := "\x7b\"accept\": true, \"reason\": \"too \x7d far\"\x7d".toList
  after := " Done.".toList

/-- What the schema makes of that answer; the cut text is no JSON. -/
def decisions (text : List Char) : Option DecisionOutput :=
  if text = spoilt.answer then some ⟨true, "too \x7d far"⟩ else none

theorem spoilt_wellFormed : spoilt.WellFormed decisions where
  before := List.not_mem_nil
  object := by
    have hspace : JsonText.IsSpace [' '] := by simp [JsonText.IsSpace]
    have hnone : JsonText.IsSpace [] := by simp [JsonText.IsSpace]
    have hplain : ∀ text : List Char, text.all (fun c => c ≠ '\x22' ∧ c ≠ '\x5c' ∧ 0x20 ≤ c.toNat) = true →
        JsonText.Contents text := by
      intro text htext
      induction text with
      | nil => exact .nil
      | cons c rest ih =>
          rw [List.all_cons, Bool.and_eq_true, decide_eq_true_eq] at htext
          exact .plain htext.1.1 htext.1.2.1 htext.1.2.2 (ih htext.2)
    refine ⟨"\"accept\": true, \"reason\": \"too \x7d far\"".toList, by decide, Or.inr ?_⟩
    have htrue : JsonText.Derives (fun _ => True) .value "true".toList := .word (by decide)
    have htext : JsonText.Derives (fun _ => True) .value (JsonText.quoted "too \x7d far".toList) :=
      .string (hplain _ (by decide)) trivial
    exact .moreMembers (.member hnone (hplain "accept".toList (by decide)) trivial hnone (.element hspace htrue hnone))
      (.lastMember (.member hspace (hplain "reason".toList (by decide)) trivial hnone (.element hspace htext hnone)))
  valid := by decide
  answer := by decide
  after := by decide

theorem brace_in_string_loses :
    spoilt.WellFormed decisions ∧ extractJson spoilt.text ≠ spoilt.answer ∧
      structured decisions 3 (fun _ => spoilt.text) = .error (List.replicate 3 spoilt.text) ∧
        ¬ Keeps decisions 3 fun _ => spoilt.text := by
  have hcut : extractJson spoilt.text ≠ spoilt.answer := by decide
  have hnone : decisions (extractJson spoilt.text) = none := if_neg hcut
  have hraised : structured decisions 3 (fun _ => spoilt.text) = .error (List.replicate 3 spoilt.text) := by
    simp only [structured, structuredFrom, hnone]
    rfl
  refine ⟨spoilt_wellFormed, hcut, hraised, fun h => ?_⟩
  exact h.raised _ hraised 0 (by omega) spoilt spoilt_wellFormed rfl

end Agents

end A2AProvisioning
