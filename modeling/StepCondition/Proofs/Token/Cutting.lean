import Mathlib.Logic.Function.Iterate
import StepCondition.Proofs.Token.Writing

/-!
# Cutting a text into tokens

How a text falls into tokens, without reading it from the left. Some texts are tokens
by themselves (`Token.Lexeme`). At any place the longest of them is the token
(`Token.Spans`); where there is none, the character is an illegal one, or a delimiter
that nothing closes, which takes all that is left. Between tokens there is nothing but
blanks and comments (`Layout`).

* `Layout.skipLayout_append`, `exists_layout`: layout is what is skipped;
* `Token.Lexeme.scan_append`, `Token.exists_spans_scanToken`: what is read from a text
  that starts with some lexeme, and that nothing longer could be read;
* `tokens_cut`: a text is cut in exactly one way, into the tokens that are read from it.
-/

namespace StepCondition

/-! ## Layout -/

/-- `Layout gap rest`: the text `gap` in front of `rest` is made of blanks, and of
comments that go on to the end of their line. -/
inductive Layout : List Char → List Char → Prop where
  | nil {rest : List Char} : Layout [] rest
  | blank {c : Char} {gap rest : List Char} (hc : isLayout c = true) (hg : Layout gap rest) :
    Layout (c :: gap) rest
  | comment {text gap rest : List Char} (ht : '\n' ∉ text)
    (hend : ∀ c ∈ (gap ++ rest).head?, c = '\n') (hg : Layout gap rest) :
    Layout ('#' :: (text ++ gap)) rest

mutual

/-- What is skipped is layout. -/
theorem exists_layout : ∀ cs : List Char, ∃ gap, cs = gap ++ skipLayout cs ∧
    Layout gap (skipLayout cs)
  | [] => ⟨[], rfl, .nil⟩
  | c :: cs => by
    rw [skipLayout]
    split
    · obtain ⟨gap, hcs, hg⟩ := exists_layout cs
      exact ⟨c :: gap, congrArg (c :: ·) hcs, .blank ‹_› hg⟩
    split
    · rename_i hc
      obtain ⟨text, gap, hcs, ht, hend, hg⟩ := exists_comment cs
      refine ⟨'#' :: (text ++ gap), ?_, .comment ht hend hg⟩
      rw [hc, List.cons_append, List.append_assoc, ← hcs]
    · exact ⟨[], rfl, .nil⟩

theorem exists_comment : ∀ cs : List Char, ∃ text gap, cs = text ++ (gap ++ skipComment cs) ∧
    '\n' ∉ text ∧ (∀ c ∈ (gap ++ skipComment cs).head?, c = '\n') ∧ Layout gap (skipComment cs)
  | [] => ⟨[], [], rfl, List.not_mem_nil, nofun, .nil⟩
  | c :: cs => by
    rw [skipComment]
    split
    · rename_i hc
      obtain ⟨gap, hcs, hg⟩ := exists_layout cs
      refine ⟨[], c :: gap, congrArg (c :: ·) hcs, List.not_mem_nil, ?_,
        .blank (by rw [hc]; decide) hg⟩
      rintro _ ⟨⟩
      exact hc
    · rename_i hc
      obtain ⟨text, gap, hcs, ht, hend, hg⟩ := exists_comment cs
      refine ⟨c :: text, gap, congrArg (c :: ·) hcs, ?_, hend, hg⟩
      exact fun h => (List.mem_cons.mp h).elim (fun h => hc h.symm) ht

end

/-- A comment is skipped up to the end of its line. -/
theorem skipComment_append {text rest : List Char} (ht : '\n' ∉ text)
    (hr : ∀ c ∈ rest.head?, c = '\n') : skipComment (text ++ rest) = skipLayout rest := by
  induction text with
  | nil =>
    cases rest with
    | nil => rfl
    | cons c rest =>
      obtain rfl := hr c rfl
      rfl
  | cons c text ih =>
    obtain ⟨hc, ht⟩ := not_or.mp (mt List.mem_cons.mpr ht)
    rw [List.cons_append, skipComment, if_neg fun h => hc h.symm]
    exact ih ht

/-- Layout is skipped. -/
theorem Layout.skipLayout_append {gap rest : List Char} (h : Layout gap rest) :
    skipLayout (gap ++ rest) = skipLayout rest := by
  induction h with
  | nil => rfl
  | blank hc _ ih => rw [List.cons_append, skipLayout, if_pos hc, ih]
  | comment ht hend _ ih =>
    rw [List.cons_append, skipLayout, if_neg (by decide), if_pos rfl, List.append_assoc,
      skipComment_append ht hend, ih]

mutual

/-- Skipping stops at a character that is no layout. -/
theorem of_mem_head?_skipLayout : ∀ {cs : List Char} {c : Char}, c ∈ (skipLayout cs).head? →
    isLayout c = false ∧ c ≠ '#'
  | [], _, h => nomatch h
  | d :: cs, c, h => by
    rw [skipLayout] at h
    split at h
    · exact of_mem_head?_skipLayout h
    split at h
    · exact of_mem_head?_skipComment h
    · obtain rfl : d = c := Option.some.inj h
      exact ⟨Bool.eq_false_iff.mpr ‹_›, ‹_›⟩

theorem of_mem_head?_skipComment : ∀ {cs : List Char} {c : Char}, c ∈ (skipComment cs).head? →
    isLayout c = false ∧ c ≠ '#'
  | [], _, h => nomatch h
  | d :: cs, c, h => by
    rw [skipComment] at h
    split at h
    · exact of_mem_head?_skipLayout h
    · exact of_mem_head?_skipComment h

end

namespace Token

/-! ## Lexemes -/

/-- The characters that open and close literals. -/
def delimiters : List Char := ['"', '\'', '/']

/-- `t.Lexeme cs`: the text `cs` is the token `t`. A text may stand in either quote that
it does not hold; every other token has one lexeme, and an illegal one has none. -/
inductive Lexeme : Token → List Char → Prop where
  | written {t : Token} (h : t.Admissible) : Lexeme t t.written
  | quoted {q : Char} {text : String} (hq : q = '"' ∨ q = '\'') (h : q ∉ text.toList) :
    Lexeme (.string text) (q :: text.toList ++ [q])

/-- `t.Stray span rest`: the text `span` in front of `rest` is what an illegal token stands
for: one character that could not even open a literal, or a delimiter with everything
that follows it. -/
inductive Stray : Token → List Char → List Char → Prop where
  | single {c : Char} {rest : List Char} (h : c ∉ openers) : Stray (.illegal c) [c] rest
  | unclosed {c : Char} {text : List Char} (hc : c ∈ delimiters) (h : c ∉ text) :
    Stray (.illegal c) (c :: text) []

/-- `t.Spans span rest`: at the front of the text `span ++ rest`, the token is spelled by
`span`. -/
structure Spans (t : Token) (span rest : List Char) : Prop where
  nonempty : span ≠ []
  spells : t.Lexeme span ∨ t.Stray span rest
  /-- No longer text at the same place is a lexeme. -/
  longest : ∀ (u : Token) more, u.Lexeme more → more <+: span ++ rest → more.length ≤ span.length
  /-- An illegal token stands only where there is no lexeme at all. -/
  illegal : t.Stray span rest → ∀ (u : Token) more, u.Lexeme more → ¬ more <+: span ++ rest

theorem mem_openers_of_mem_delimiters {c : Char} (h : c ∈ delimiters) : c ∈ openers := by
  simp only [delimiters, List.mem_cons, List.not_mem_nil, or_false] at h
  obtain rfl | rfl | rfl := h <;> decide

theorem Stray.ne_nil {t : Token} {span rest : List Char} (h : t.Stray span rest) : span ≠ [] := by
  cases h <;> exact List.cons_ne_nil _ _

theorem Stray.not_admissible {t : Token} {span rest : List Char} (h : t.Stray span rest) :
    ¬ t.Admissible := by
  cases h <;> exact id

theorem Stray.unique {t u : Token} {span span' rest rest' : List Char} (ht : t.Stray span rest)
    (hu : u.Stray span' rest') (h : span ++ rest = span' ++ rest') :
    t = u ∧ span = span' ∧ rest = rest' := by
  obtain ⟨hc⟩ | ⟨hd, -⟩ := ht
  · obtain ⟨hc'⟩ | ⟨hd', -⟩ := hu
    · obtain ⟨rfl, rfl⟩ := List.cons.inj h
      exact ⟨rfl, rfl, rfl⟩
    · obtain ⟨rfl, -⟩ := List.cons.inj h
      exact absurd (mem_openers_of_mem_delimiters hd') hc
  · obtain ⟨hc'⟩ | ⟨hd', -⟩ := hu
    · obtain ⟨rfl, -⟩ := List.cons.inj h
      exact absurd (mem_openers_of_mem_delimiters hd) hc'
    · simp only [List.append_nil] at h
      obtain ⟨rfl, rfl⟩ := List.cons.inj h
      exact ⟨rfl, rfl, rfl⟩

theorem not_layout_of_mem_delimiters {c : Char} (h : c ∈ delimiters) :
    isLayout c = false ∧ c ≠ '#' := by
  simp only [delimiters, List.mem_cons, List.not_mem_nil, or_false] at h
  obtain rfl | rfl | rfl := h <;> decide

/-- A lexeme is read as its token. -/
theorem Lexeme.scan {t : Token} {cs : List Char} (h : t.Lexeme cs) :
    ∃ c rest, cs = c :: rest ∧ isLayout c = false ∧ c ≠ '#' ∧ scanToken c rest = (t, []) := by
  cases h with
  | written h =>
    obtain ⟨c, rest, hw, hl, hc, hs⟩ := scan_written h (nofun : t.EndsAt [])
    exact ⟨c, rest, hw, hl, hc, by rwa [List.append_nil] at hs⟩
  | @quoted q text hq h =>
    have hs : scanDelimited .string q (text.toList ++ [q]) = (.string text, []) := by
      simpa only [List.append_nil] using scanDelimited_written .string h []
    have hd : q ∈ delimiters := by obtain rfl | rfl := hq <;> decide
    obtain ⟨hl, hc⟩ := not_layout_of_mem_delimiters hd
    exact ⟨q, _, rfl, hl, hc, (scanToken_string hq _).trans hs⟩

theorem Lexeme.unique {t u : Token} {cs : List Char} (ht : t.Lexeme cs) (hu : u.Lexeme cs) :
    t = u := by
  obtain ⟨c, rest, rfl, -, -, hs⟩ := ht.scan
  obtain ⟨d, rest', he, -, -, hs'⟩ := hu.scan
  cases he
  exact congrArg Prod.fst (hs.symm.trans hs')

theorem length_dropWhile_append_le {α : Type} {p : α → Bool} {l : List α} (h : ∀ a ∈ l, p a = true)
    (rest : List α) : ((l ++ rest).dropWhile p).length ≤ rest.length := by
  rw [List.dropWhile_append_of_pos h]
  exact (List.dropWhile_suffix p).length_le

/-- What is read from a text that starts with a name. -/
theorem scanToken_name_append {c : Char} {cs : List Char} (h : spellsName (c :: cs) = true)
    (rest : List Char) :
    (scanToken c (cs ++ rest)).1.Admissible ∧
      (scanToken c (cs ++ rest)).2.length ≤ rest.length := by
  rw [spellsName, Bool.and_eq_true, List.all_eq_true] at h
  rw [scanToken_name h.1]
  exact ⟨admissible_ofName h.1 _, length_dropWhile_append_le h.2 rest⟩

theorem scanDelimited_append (token : String → Token) {q : Char} {text : String}
    (h : q ∉ text.toList) (ha : (token text).Admissible) (rest : List Char) :
    (scanDelimited token q (text.toList ++ [q] ++ rest)).1.Admissible ∧
      (scanDelimited token q (text.toList ++ [q] ++ rest)).2.length ≤ rest.length := by
  rw [scanDelimited_written token h]
  exact ⟨ha, Nat.le_refl _⟩

theorem admissible_string {q : Char} {text : String} (hq : q = '"' ∨ q = '\'')
    (h : q ∉ text.toList) : (string text).Admissible := fun ⟨hd, hs⟩ => by
  obtain rfl | rfl := hq
  · exact h hd
  · exact h hs

/-- From a text that starts with a lexeme, no less than the lexeme is read, and no illegal
token. -/
theorem Lexeme.scan_append {t : Token} {c : Char} {cs : List Char} (h : t.Lexeme (c :: cs))
    (rest : List Char) :
    (scanToken c (cs ++ rest)).1.Admissible ∧
      (scanToken c (cs ++ rest)).2.length ≤ rest.length := by
  generalize hw : c :: cs = w at h
  cases h with
  | @quoted q text hq h =>
    cases hw
    have hs := scanDelimited_append .string h (admissible_string hq h) rest
    rwa [← scanToken_string hq] at hs
  | written h =>
    cases t with
    | integer digits =>
      obtain ⟨hc, hd⟩ : c.isDigit = true ∧ ∀ d ∈ cs, d.isDigit = true := by
        have hd : (c :: cs).all Char.isDigit = true := hw ▸ h.2
        simpa using hd
      have ha : (scanToken c (cs ++ rest)).1.Admissible :=
        (admissible_scanToken c _).resolve_right (by rw [scanToken_integer hc]; nofun)
      refine ⟨ha, ?_⟩
      rw [scanToken_integer hc]
      exact length_dropWhile_append_le hd rest
    | string text =>
      cases hw
      have hs := scanDelimited_append .string (quote_not_mem h) h rest
      rwa [← scanToken_string (quote_cases _)] at hs
    | regexp pattern =>
      cases hw
      exact scanDelimited_append .regexp h h rest
    | boolean b =>
      refine scanToken_name_append (hw ▸ ?_) rest
      cases b <;> decide
    | identifier name => exact scanToken_name_append (hw ▸ h.1) rest
    | bang =>
      cases hw
      change ((symbol? '!' rest).getD _).1.Admissible ∧ ((symbol? '!' rest).getD _).2.length ≤ _
      cases hs : symbol? '!' rest with
      | some r => exact ⟨admissible_symbol? hs, symbol?_length_le hs⟩
      | none =>
        unfold symbol? at hs
        split at hs <;> simp_all
    | illegal => exact h.elim
    | _ =>
      cases hw
      exact ⟨trivial, Nat.le_refl _⟩

/-! ## What is read -/

theorem exists_span_scanDelimited (token : String → Token) {d : Char} (hd : d ∈ delimiters)
    (hl : ∀ text, d ∉ text → (token (String.ofList text)).Lexeme (d :: text ++ [d]))
    (cs : List Char) :
    ∃ span, d :: cs = span ++ (scanDelimited token d cs).2 ∧
      ((scanDelimited token d cs).1.Lexeme span ∨
        (scanDelimited token d cs).1.Stray span (scanDelimited token d cs).2) := by
  have hcs := List.takeWhile_append_dropWhile (p := (· ≠ d)) (l := cs)
  have hn : d ∉ cs.takeWhile (· ≠ d) := fun hm => by simpa using List.mem_takeWhile_imp hm
  unfold scanDelimited
  split
  · rename_i heq
    rw [heq, List.append_nil] at hcs
    exact ⟨d :: cs, (List.append_nil _).symm, .inr (.unclosed hd (hcs ▸ hn))⟩
  · rename_i e rest heq
    obtain rfl : e = d := by
      have he := List.head?_dropWhile_not (· ≠ d) cs
      rw [heq] at he
      simpa using he
    refine ⟨_, ?_, .inl (hl _ hn)⟩
    rw [heq] at hcs
    simpa using hcs.symm

/-- A name by itself is the token that it spells. -/
theorem lexeme_ofName {name : List Char} (h : spellsName name = true) :
    (ofName name).Lexeme name := by
  unfold ofName
  split
  · rename_i ht
    subst ht
    exact .written (t := .boolean true) trivial
  split
  · rename_i hf
    subst hf
    exact .written (t := .boolean false) trivial
  · rename_i ht hf
    have hw := Lexeme.written (t := .identifier (String.ofList name))
    simp only [Admissible, IsName, written, spelling, String.toList_ofList] at hw
    exact hw ⟨h, ht, hf⟩

theorem exists_span_symbol? {c : Char} {cs : List Char} {r : Token × List Char}
    (h : symbol? c cs = some r) : ∃ span, c :: cs = span ++ r.2 ∧ r.1.Lexeme span := by
  unfold symbol? at h
  split at h <;> cases h <;> exact ⟨_, rfl, .written trivial⟩

/-- What is read is spelled by the text in front of what is left. -/
theorem exists_span_scanToken {c : Char} (hl : isLayout c = false) (hc : c ≠ '#')
    (cs : List Char) :
    ∃ span, c :: cs = span ++ (scanToken c cs).2 ∧
      ((scanToken c cs).1.Lexeme span ∨ (scanToken c cs).1.Stray span (scanToken c cs).2) := by
  unfold scanToken
  split
  · rename_i hq
    simp only [Bool.or_eq_true, decide_eq_true_eq] at hq
    refine exists_span_scanDelimited .string ?_ (fun text ht => ?_) cs
    · obtain rfl | rfl := hq <;> decide
    · simpa only [String.toList_ofList] using @Lexeme.quoted _ (.ofList text) hq (by simpa)
  rename_i hq
  split
  · rename_i hs
    subst hs
    refine exists_span_scanDelimited .regexp (by decide) (fun text ht => ?_) cs
    simpa only [written, String.toList_ofList] using
      Lexeme.written (t := .regexp (.ofList text)) (by simpa [Admissible])
  rename_i hs
  split
  · rename_i hn
    refine ⟨c :: cs.takeWhile continuesName, ?_, .inl (lexeme_ofName ?_)⟩
    · exact congrArg (c :: ·) List.takeWhile_append_dropWhile.symm
    · rw [spellsName, hn, Bool.true_and, List.all_eq_true]
      exact fun d hd => List.mem_takeWhile_imp hd
  split
  · rename_i hd
    refine ⟨c :: cs.takeWhile Char.isDigit, ?_, .inl ?_⟩
    · exact congrArg (c :: ·) List.takeWhile_append_dropWhile.symm
    · have hw := Lexeme.written (t := .integer (.ofList (c :: cs.takeWhile Char.isDigit)))
      simp only [Admissible, written, spelling, String.toList_ofList] at hw
      refine hw ⟨List.cons_ne_nil _ _, ?_⟩
      rw [List.all_cons, hd, Bool.true_and, List.all_eq_true]
      exact fun d hm => List.mem_takeWhile_imp hm
  · cases h : symbol? c cs with
    | some r =>
      obtain ⟨span, hspan, hr⟩ := exists_span_symbol? h
      exact ⟨span, hspan, .inl hr⟩
    | none =>
      refine ⟨[c], rfl, .inr (.single ?_)⟩
      simp only [Bool.or_eq_true, decide_eq_true_eq, not_or] at hq
      simp only [isLayout, Bool.or_eq_false_iff, decide_eq_false_iff_not] at hl
      simp [openers, hl, hc, hq, hs]

/-- What is read is the token that the text starts with. -/
theorem exists_spans_scanToken {c : Char} (hl : isLayout c = false) (hc : c ≠ '#')
    (cs : List Char) :
    ∃ span, c :: cs = span ++ (scanToken c cs).2 ∧
      (scanToken c cs).1.Spans span (scanToken c cs).2 := by
  obtain ⟨span, hspan, hs⟩ := exists_span_scanToken hl hc cs
  -- A lexeme at the front of the text tells how much is read at least.
  have hfront : ∀ (u : Token) more, u.Lexeme more → more <+: c :: cs →
      (scanToken c cs).1.Admissible ∧ more.length ≤ span.length := by
    rintro u more hu ⟨rest, hrest⟩
    obtain ⟨d, more, rfl, -⟩ := hu.scan
    rw [List.cons_append] at hrest
    obtain ⟨rfl, rfl⟩ := List.cons.inj hrest
    obtain ⟨ha, hle⟩ := hu.scan_append rest
    have hlen := congrArg List.length hspan
    simp only [List.length_cons, List.length_append] at hlen ⊢
    exact ⟨ha, by omega⟩
  refine ⟨span, hspan, ?_, hs, ?_, ?_⟩
  · obtain h | h := hs
    · obtain ⟨d, rest, rfl, -⟩ := h.scan
      exact List.cons_ne_nil d rest
    · exact h.ne_nil
  · exact fun u more hu hm => (hfront u more hu (hspan ▸ hm)).2
  · intro h u more hu hm
    exact h.not_admissible (hfront u more hu (hspan ▸ hm)).1

/-- At one place only one token can be read. -/
theorem Spans.unique {t u : Token} {span span' rest rest' : List Char} (ht : t.Spans span rest)
    (hu : u.Spans span' rest') (h : span ++ rest = span' ++ rest') :
    t = u ∧ span = span' ∧ rest = rest' := by
  have hspan : span <+: span' ++ rest' := h ▸ List.prefix_append span rest
  have hspan' : span' <+: span ++ rest := h.symm ▸ List.prefix_append span' rest'
  obtain hl | hs := ht.spells
  · obtain hl' | hs' := hu.spells
    · have hlen := Nat.le_antisymm (hu.longest t span hl hspan) (ht.longest u span' hl' hspan')
      obtain ⟨rfl, rfl⟩ := List.append_inj h hlen
      exact ⟨hl.unique hl', rfl, rfl⟩
    · exact absurd hspan (hu.illegal hs' t span hl)
  · obtain hl' | hs' := hu.spells
    · exact absurd hspan' (ht.illegal hs u span' hl')
    · exact hs.unique hs' h

/-- A token is read where it stands. -/
theorem Spans.scan {t : Token} {span rest : List Char} (h : t.Spans span rest) :
    ∃ c cs, span ++ rest = c :: cs ∧ isLayout c = false ∧ c ≠ '#' ∧ scanToken c cs = (t, rest) := by
  obtain ⟨c, cs, hcs, hl, hc⟩ :
      ∃ c cs, span ++ rest = c :: cs ∧ isLayout c = false ∧ c ≠ '#' := by
    obtain hs | hs := h.spells
    · obtain ⟨c, cs, rfl, hl, hc, -⟩ := hs.scan
      exact ⟨c, cs ++ rest, rfl, hl, hc⟩
    · cases hs with
      | @single c _ ho =>
        obtain ⟨hl, hc, -⟩ := of_not_mem_openers ho
        exact ⟨c, rest, rfl, hl, hc⟩
      | @unclosed c text hd _ =>
        obtain ⟨hl, hc⟩ := not_layout_of_mem_delimiters hd
        exact ⟨c, text ++ [], rfl, hl, hc⟩
  obtain ⟨span', hspan, hs⟩ := exists_spans_scanToken hl hc cs
  obtain ⟨ht, -, hr⟩ := h.unique hs (hcs.trans hspan)
  exact ⟨c, cs, hcs, hl, hc, Prod.ext ht.symm hr.symm⟩

end Token

/-! ## The whole text -/

/-- `Cut cs ts`: the text `cs` is the tokens `ts`, each with layout in front of it, and
layout at the end. -/
inductive Cut : List Char → List Token → Prop where
  | done {gap : List Char} (hg : Layout gap []) : Cut gap []
  | token {gap span rest : List Char} {t : Token} {ts : List Token}
    (hg : Layout gap (span ++ rest)) (ht : t.Spans span rest) (h : Cut rest ts) :
    Cut (gap ++ (span ++ rest)) (t :: ts)

theorem cut_tokens (cs : List Char) : Cut cs (tokens cs) := by
  induction cs using tokens.induct with
  | case1 cs hs =>
    obtain ⟨gap, hgap, hg⟩ := exists_layout cs
    rw [hs] at hgap hg
    rw [tokens_eq_nil hs, hgap, List.append_nil]
    exact .done hg
  | case2 cs c rest hs _ ih =>
    obtain ⟨gap, hgap, hg⟩ := exists_layout cs
    obtain ⟨hl, hc⟩ := of_mem_head?_skipLayout (hs ▸ rfl : c ∈ (skipLayout cs).head?)
    obtain ⟨span, hspan, ht⟩ := Token.exists_spans_scanToken hl hc rest
    rw [hs, hspan] at hgap hg
    rw [tokens_eq_cons hs, hgap]
    exact .token hg ht ih

theorem Cut.eq_tokens {cs : List Char} {ts : List Token} (h : Cut cs ts) : ts = tokens cs := by
  induction h with
  | @done gap hg =>
    have hs := hg.skipLayout_append
    rw [List.append_nil] at hs
    rw [tokens_eq_nil hs]
  | @token gap span rest t ts hg ht _ ih =>
    obtain ⟨c, cs, hcs, hl, hc, hs⟩ := ht.scan
    have hskip : skipLayout (gap ++ (span ++ rest)) = c :: cs := by
      rw [hg.skipLayout_append, hcs, skipLayout_cons hl hc]
    rw [tokens_eq_cons hskip, hs, ih]

/-- There are no more tokens than characters. -/
theorem Cut.length_le {cs : List Char} {ts : List Token} (h : Cut cs ts) :
    ts.length ≤ cs.length := by
  induction h with
  | done => exact Nat.zero_le _
  | token _ ht _ ih =>
    have hs := List.length_pos_iff.mpr ht.nonempty
    simp only [List.length_cons, List.length_append]
    omega

/-! ## One token at a time -/

theorem nextToken_eq (cs : List Char) :
    (nextToken cs).1 = (tokens cs).head? ∧ tokens (nextToken cs).2 = (tokens cs).tail := by
  unfold nextToken
  split
  · rename_i hs
    rw [tokens_eq_nil hs, tokens_nil]
    exact ⟨rfl, rfl⟩
  · rename_i hs
    rw [tokens_eq_cons hs]
    exact ⟨rfl, rfl⟩

/-- What is left after some tokens have been read. -/
theorem tokens_iterate (n : Nat) (cs : List Char) :
    tokens ((fun cs => (nextToken cs).2)^[n] cs) = (tokens cs).drop n := by
  induction n generalizing cs with
  | zero => rfl
  | succ n ih => rw [Function.iterate_succ_apply, ih, (nextToken_eq cs).2, List.drop_tail]

/-- A text is cut into tokens in exactly one way: into those that are read from it. Read
one by one, they are all there is, and afterwards there is never one again. There are no
more of them than characters. -/
theorem tokens_cut (cs : List Char) :
    (∀ ts, Cut cs ts ↔ ts = tokens cs) ∧
      (∀ n, (nextToken ((fun cs => (nextToken cs).2)^[n] cs)).1 = (tokens cs)[n]?) ∧
      (tokens cs).length ≤ cs.length := by
  refine ⟨fun ts => ⟨Cut.eq_tokens, fun h => h ▸ cut_tokens cs⟩, fun n => ?_,
    (cut_tokens cs).length_le⟩
  rw [(nextToken_eq _).1, tokens_iterate, List.head?_drop]

end StepCondition
