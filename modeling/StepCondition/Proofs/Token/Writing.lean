import Mathlib.Data.List.TakeWhile
import StepCondition.Token.Scan

/-!
# Writing tokens

A token can be written as text (`Token.written`) when nothing in it stands in the
way (`Token.Admissible`): a text without one of the two quotes, a pattern without
slashes, a name that is no truth value. What is read from a text is of this kind
or illegal.

* `tokens_written`: a written token is read back, if what follows it cannot become
  part of it;
* `admissible_of_mem_tokens`: what is read can be written.
-/

namespace StepCondition

/-! ## Characters -/

/-- The characters that come before names and digits when a token is read:
blanks, the start of a comment, quotes and the slash. -/
def openers : List Char := [' ', '\t', '\n', '\x0c', '\r', '#', '"', '\'', '/']

theorem of_not_mem_openers {c : Char} (h : c ∉ openers) :
    isLayout c = false ∧ c ≠ '#' ∧ c ≠ '"' ∧ c ≠ '\'' ∧ c ≠ '/' := by
  simp only [openers, List.mem_cons, List.not_mem_nil, or_false, not_or] at h
  simp [isLayout, h]

theorem not_mem_openers {p : Char → Bool} (hp : openers.all (fun c => !p c) = true) {c : Char}
    (h : p c = true) : c ∉ openers := fun hc => by
  have hc' := List.all_eq_true.mp hp c hc
  rw [h] at hc'
  cases hc'

theorem startsName_not_mem_openers {c : Char} (h : startsName c = true) : c ∉ openers :=
  not_mem_openers (by decide) h

theorem isDigit_not_mem_openers {c : Char} (h : c.isDigit = true) : c ∉ openers :=
  not_mem_openers (by decide) h

theorem startsName_of_isDigit {c : Char} (h : c.isDigit = true) : startsName c = false := by
  obtain ⟨hl, hu⟩ : 48 ≤ c.toNat ∧ c.toNat ≤ 57 := Char.isDigit_iff_toNat.mp h
  have hall : (List.range' 48 10).all (fun n => !startsName (Char.ofNat n)) = true := by decide
  have hc := List.all_eq_true.mp hall c.toNat (List.mem_range'_1.mpr ⟨hl, by omega⟩)
  rwa [Char.ofNat_toNat, Bool.not_eq_true'] at hc

/-- Digits go on with a name, so a name ends no earlier than a number. -/
theorem continuesName_of_isDigit {c : Char} (h : c.isDigit = true) : continuesName c = true := by
  have hn : c.toNat ≤ 57 := (Char.isDigit_iff_toNat.mp h).2
  simp [continuesName, Unicode.isAlphanumeric, Unicode.isNumeric, h,
    if_pos (show c.toNat < 128 by omega)]

/-! ## Names -/

/-- Whether a row of characters is one a name can be made of. -/
def spellsName : List Char → Bool
  | [] => false
  | c :: cs => startsName c && cs.all continuesName

/-- A name that is no truth value. -/
def IsName (name : String) : Prop :=
  spellsName name.toList = true ∧ name.toList ≠ Text.truth true ∧ name.toList ≠ Text.truth false

instance (name : String) : Decidable (IsName name) := inferInstanceAs (Decidable (_ ∧ _))

theorem IsName.ofName {name : String} (h : IsName name) :
    Token.ofName name.toList = .identifier name := by
  rw [Token.ofName, if_neg h.2.1, if_neg h.2.2, String.ofList_toList]

namespace Token

/-! ## Tokens as text -/

/-- A token that can be written. -/
def Admissible : Token → Prop
  | integer digits => digits.toList ≠ [] ∧ digits.toList.all Char.isDigit = true
  | string text => ¬ ('"' ∈ text.toList ∧ '\'' ∈ text.toList)
  | regexp pattern => '/' ∉ pattern.toList
  | identifier name => IsName name
  | illegal _ => False
  | _ => True

instance : (t : Token) → Decidable t.Admissible
  | integer _ => inferInstanceAs (Decidable (_ ∧ _))
  | string _ => inferInstanceAs (Decidable (¬ _))
  | regexp _ => inferInstanceAs (Decidable (¬ _))
  | identifier name => inferInstanceAs (Decidable (IsName name))
  | illegal _ => .isFalse id
  | boolean _ | bang | minus | equal | notEqual | matching | notMatching | contains | and | or
  | dot | comma | leftParen | rightParen | leftBracket | rightBracket => .isTrue trivial

/-- The quote that a text is written in: the double one unless the text holds it. -/
def quote (text : List Char) : Char := if '"' ∈ text then '\'' else '"'

/-- A token as source text. -/
def written : Token → List Char
  | string text => quote text.toList :: text.toList ++ [quote text.toList]
  | regexp pattern => '/' :: pattern.toList ++ ['/']
  | t => t.spelling

/-- Whether a written token takes a character that follows it. -/
def takes : Token → Char → Bool
  | integer _, c => c.isDigit
  | boolean _, c | identifier _, c => continuesName c
  | bang, c => c = '=' || c = '~'
  | _, _ => false

/-- A written token ends where a text begins. -/
def EndsAt (t : Token) (rest : List Char) : Prop := ∀ c ∈ rest.head?, t.takes c = false

theorem quote_cases (text : List Char) : quote text = '"' ∨ quote text = '\'' := by
  unfold quote
  split
  · exact .inr rfl
  · exact .inl rfl

theorem quote_not_mem {text : String} (h : (Token.string text).Admissible) :
    quote text.toList ∉ text.toList := by
  unfold quote
  split
  · rename_i hd
    exact fun hs => h ⟨hd, hs⟩
  · rename_i hd
    exact hd

end Token

/-! ## Reading a written token -/

theorem takeWhile_of_head? {α : Type} {p : α → Bool} {l : List α}
    (h : ∀ c ∈ l.head?, p c = false) : l.takeWhile p = [] ∧ l.dropWhile p = l := by
  cases l with
  | nil => exact ⟨rfl, rfl⟩
  | cons c l => simp [h c rfl]

theorem scanDelimited_written (token : String → Token) {delimiter : Char} {text : String}
    (h : delimiter ∉ text.toList) (rest : List Char) :
    scanDelimited token delimiter (text.toList ++ [delimiter] ++ rest) = (token text, rest) := by
  have hp : ∀ c ∈ text.toList, decide (c ≠ delimiter) = true := fun c hc =>
    decide_eq_true fun hd => h (hd ▸ hc)
  rw [scanDelimited, List.append_assoc, List.dropWhile_append_of_pos hp,
    List.takeWhile_append_of_pos hp]
  simp

theorem scanToken_string {c : Char} (h : c = '"' ∨ c = '\'') (cs : List Char) :
    scanToken c cs = scanDelimited .string c cs := by
  rw [scanToken, if_pos (by simpa using h)]

theorem scanToken_name {c : Char} (h : startsName c = true) (cs : List Char) :
    scanToken c cs =
      (.ofName (c :: cs.takeWhile continuesName), cs.dropWhile continuesName) := by
  obtain ⟨-, -, hd, hs, hr⟩ := of_not_mem_openers (startsName_not_mem_openers h)
  rw [scanToken, if_neg (by simp [hd, hs]), if_neg hr, if_pos h]

theorem scanToken_integer {c : Char} (h : c.isDigit = true) (cs : List Char) :
    scanToken c cs =
      (.integer (String.ofList (c :: cs.takeWhile Char.isDigit)), cs.dropWhile Char.isDigit) := by
  obtain ⟨-, -, hd, hs, hr⟩ := of_not_mem_openers (isDigit_not_mem_openers h)
  rw [scanToken, if_neg (by simp [hd, hs]), if_neg hr,
    if_neg (by simp [startsName_of_isDigit h]), if_pos h]

/-- A name and a text after it that cannot continue it. -/
theorem scanToken_spellsName {c : Char} {cs rest : List Char}
    (h : spellsName (c :: cs) = true) (hr : ∀ d ∈ rest.head?, continuesName d = false) :
    c ∉ openers ∧ scanToken c (cs ++ rest) = (.ofName (c :: cs), rest) := by
  rw [spellsName, Bool.and_eq_true, List.all_eq_true] at h
  obtain ⟨ht, hd⟩ := takeWhile_of_head? hr
  rw [scanToken_name h.1, List.takeWhile_append_of_pos h.2, List.dropWhile_append_of_pos h.2, ht,
    hd, List.append_nil]
  exact ⟨startsName_not_mem_openers h.1, rfl⟩

theorem symbol?_bang {rest : List Char} (h : Token.EndsAt .bang rest) :
    Token.symbol? '!' rest = some (.bang, rest) := by
  cases rest with
  | nil => rfl
  | cons c rest =>
    have hc := h c rfl
    simp only [Token.takes, Bool.or_eq_false_iff, decide_eq_false_iff_not] at hc
    unfold Token.symbol?
    split <;> simp_all

/-- What is read from a written token, and where its first character is not taken
for something else. -/
theorem Token.scan_written {t : Token} (h : t.Admissible) {rest : List Char}
    (hr : t.EndsAt rest) :
    ∃ c cs, t.written = c :: cs ∧ isLayout c = false ∧ c ≠ '#' ∧
      scanToken c (cs ++ rest) = (t, rest) := by
  cases t with
  | integer digits =>
    obtain ⟨hne, hd⟩ := h
    obtain ⟨c, cs, hw⟩ := List.exists_cons_of_ne_nil hne
    rw [hw, List.all_cons, Bool.and_eq_true, List.all_eq_true] at hd
    obtain ⟨hl, hh, -⟩ := of_not_mem_openers (isDigit_not_mem_openers hd.1)
    obtain ⟨ht, hdr⟩ := takeWhile_of_head? (p := Char.isDigit) hr
    refine ⟨c, cs, hw, hl, hh, ?_⟩
    rw [scanToken_integer hd.1, List.takeWhile_append_of_pos hd.2,
      List.dropWhile_append_of_pos hd.2, ht, hdr, List.append_nil, ← hw, String.ofList_toList]
  | string text =>
    refine ⟨_, _, rfl, ?_, ?_, ?_⟩
    · obtain hq | hq := quote_cases text.toList <;> rw [hq] <;> decide
    · obtain hq | hq := quote_cases text.toList <;> rw [hq] <;> decide
    · rw [scanToken_string (quote_cases _)]
      exact scanDelimited_written _ (quote_not_mem h) rest
  | regexp pattern =>
    exact ⟨_, _, rfl, by decide, by decide, scanDelimited_written _ h rest⟩
  | boolean b =>
    obtain ⟨c, cs, hw⟩ : ∃ c cs, Text.truth b = c :: cs := by cases b <;> exact ⟨_, _, rfl⟩
    have hn : spellsName (c :: cs) = true := by rw [← hw]; cases b <;> decide
    obtain ⟨ho, hs⟩ := scanToken_spellsName hn hr
    obtain ⟨hl, hh, -⟩ := of_not_mem_openers ho
    refine ⟨c, cs, hw, hl, hh, hs.trans ?_⟩
    rw [← hw]
    cases b <;> rfl
  | identifier name =>
    obtain ⟨c, cs, hw⟩ : ∃ c cs, name.toList = c :: cs := by
      cases hn : name.toList with
      | nil => exact absurd h.1 (by simp [hn, spellsName])
      | cons c cs => exact ⟨c, cs, rfl⟩
    obtain ⟨ho, hs⟩ := scanToken_spellsName (hw ▸ h.1) hr
    obtain ⟨hl, hh, -⟩ := of_not_mem_openers ho
    exact ⟨c, cs, hw, hl, hh, by rw [hs, ← hw, h.ofName]⟩
  | bang =>
    refine ⟨'!', [], rfl, by decide, by decide, ?_⟩
    change (Token.symbol? '!' rest).getD _ = _
    rw [symbol?_bang hr]
    rfl
  | illegal c => exact h.elim
  | _ => exact ⟨_, _, rfl, by decide, by decide, rfl⟩

/-- Only two operators start with a character that `!` takes. -/
theorem Token.exists_written_cons {t : Token} (h : t.Admissible) (he : t ≠ .equal)
    (hm : t ≠ .matching) :
    ∃ c cs, t.written = c :: cs ∧ Token.takes .bang c = false := by
  obtain ⟨c, cs, hw, -, -, hs⟩ := t.scan_written h (nofun : t.EndsAt [])
  have ht := congrArg Prod.fst hs
  refine ⟨c, cs, hw, ?_⟩
  simp only [takes, Bool.or_eq_false_iff, decide_eq_false_iff_not]
  constructor
  · rintro rfl
    change ((Token.symbol? '=' (cs ++ [])).getD _).1 = t at ht
    unfold Token.symbol? at ht
    split at ht <;> subst ht <;> contradiction
  · rintro rfl
    cases (ht : Token.illegal '~' = t)
    exact h

/-! ## Reading on -/

theorem tokens_eq_nil {cs : List Char} (h : skipLayout cs = []) : tokens cs = [] := by
  rw [tokens]
  split
  · rfl
  · rename_i h'
    cases h.symm.trans h'

theorem tokens_eq_cons {cs : List Char} {c : Char} {rest : List Char}
    (h : skipLayout cs = c :: rest) :
    tokens cs = (scanToken c rest).1 :: tokens (scanToken c rest).2 := by
  rw [tokens]
  split
  · rename_i h'
    cases h.symm.trans h'
  · rename_i h'
    cases h.symm.trans h'
    rfl

theorem tokens_nil : tokens [] = [] := tokens_eq_nil rfl

/-- A blank before a token leaves no trace. -/
theorem tokens_layout {c : Char} (hc : isLayout c = true) (cs : List Char) :
    tokens (c :: cs) = tokens cs := by
  have hs : skipLayout (c :: cs) = skipLayout cs := by rw [skipLayout, if_pos hc]
  cases h : skipLayout cs with
  | nil => rw [tokens_eq_nil h, tokens_eq_nil (hs.trans h)]
  | cons d rest => rw [tokens_eq_cons h, tokens_eq_cons (hs.trans h)]

/-- Nothing is skipped in front of a character that is neither a blank nor starts a comment. -/
theorem skipLayout_cons {c : Char} (hl : isLayout c = false) (hc : c ≠ '#') (cs : List Char) :
    skipLayout (c :: cs) = c :: cs := by
  rw [skipLayout, if_neg (by simp [hl]), if_neg hc]

/-- A written token is read back. -/
theorem tokens_written {t : Token} (h : t.Admissible) {rest : List Char} (hr : t.EndsAt rest) :
    tokens (t.written ++ rest) = t :: tokens rest := by
  obtain ⟨c, cs, hw, hl, hc, hs⟩ := Token.scan_written h hr
  rw [hw, List.cons_append, tokens_eq_cons (skipLayout_cons hl hc _), hs]

/-! ## What is read can be written -/

theorem admissible_scanDelimited (token : String → Token) {delimiter : Char}
    (h : ∀ s : String, delimiter ∉ s.toList → (token s).Admissible) (cs : List Char) :
    (scanDelimited token delimiter cs).1.Admissible ∨
      (scanDelimited token delimiter cs).1 = .illegal delimiter := by
  unfold scanDelimited
  split
  · exact .inr rfl
  · refine .inl (h _ fun hm => ?_)
    rw [String.toList_ofList] at hm
    have hp := List.mem_takeWhile_imp hm
    exact of_decide_eq_true hp rfl

theorem admissible_ofName {c : Char} (h : startsName c = true) (cs : List Char) :
    (Token.ofName (c :: cs.takeWhile continuesName)).Admissible := by
  unfold Token.ofName
  split
  · trivial
  split
  · trivial
  · rename_i ht hf
    refine ⟨?_, ?_, ?_⟩ <;> rw [String.toList_ofList]
    · rw [spellsName, h, Bool.true_and, List.all_eq_true]
      exact fun d hd => List.mem_takeWhile_imp hd
    · exact ht
    · exact hf

theorem admissible_symbol? {c : Char} {cs : List Char} {r : Token × List Char}
    (h : Token.symbol? c cs = some r) : r.1.Admissible := by
  unfold Token.symbol? at h
  split at h <;> cases h <;> trivial

/-- What is read is a token that can be written, or illegal. -/
theorem admissible_scanToken (c : Char) (cs : List Char) :
    (scanToken c cs).1.Admissible ∨ (scanToken c cs).1 = .illegal c := by
  unfold scanToken
  split
  · rename_i hq
    refine admissible_scanDelimited .string (fun s hs => ?_) cs
    simp only [Bool.or_eq_true, decide_eq_true_eq] at hq
    rintro ⟨hd, hq'⟩
    obtain rfl | rfl := hq
    · exact hs hd
    · exact hs hq'
  split
  · rename_i hc
    subst hc
    exact admissible_scanDelimited .regexp (fun _ hs => hs) cs
  split
  · exact .inl (admissible_ofName ‹_› cs)
  split
  · rename_i hd
    refine .inl ⟨?_, ?_⟩ <;> rw [String.toList_ofList]
    · exact List.cons_ne_nil _ _
    · rw [List.all_cons, hd, Bool.true_and, List.all_eq_true]
      exact fun d hm => List.mem_takeWhile_imp hm
  · cases h : Token.symbol? c cs with
    | none => exact .inr rfl
    | some r => exact .inl (admissible_symbol? h)

/-- Every token of a text can be written, or is illegal. -/
theorem admissible_of_mem_tokens {cs : List Char} {t : Token} (h : t ∈ tokens cs) :
    t.Admissible ∨ ∃ c, t = .illegal c := by
  induction cs using tokens.induct with
  | case1 cs hs =>
    rw [tokens_eq_nil hs] at h
    cases h
  | case2 cs c rest hs _ ih =>
    rw [tokens_eq_cons hs] at h
    obtain rfl | h := List.mem_cons.mp h
    · exact (admissible_scanToken c rest).imp_right fun h => ⟨c, h⟩
    · exact ih h

end StepCondition
