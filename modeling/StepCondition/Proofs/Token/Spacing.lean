import StepCondition.Proofs.Token.Trimming

/-!
# Tokens with layout between them

Tokens can be written one after the other if something keeps them apart: a gap of blanks and of
comments, each up to the end of its line (`Gap`). Nothing in a gap can become part of the token
in front of it, and a gap leaves no trace. So the tokens come back, however they were written
and whatever was put between them (`Spaced`).

* `Token.Lexeme.tokens_append`: a token is read back, if what follows cannot become part of it;
* `tokens_spaced`: tokens with gaps between them are read back.
-/

namespace StepCondition

/-! ## Gaps -/

/-- Blanks, and comments with the end of their line. -/
inductive Gap : List Char → Prop where
  | nil : Gap []
  | blank {c : Char} {gap : List Char} (hc : isLayout c = true) (hg : Gap gap) : Gap (c :: gap)
  | comment {text gap : List Char} (ht : '\n' ∉ text) (hg : Gap gap) :
    Gap ('#' :: (text ++ '\n' :: gap))

/-- A gap is layout, whatever follows it. -/
theorem Gap.layout {gap : List Char} (h : Gap gap) (rest : List Char) : Layout gap rest := by
  induction h with
  | nil => exact .nil
  | blank hc _ ih => exact .blank hc ih
  | comment ht _ ih =>
    refine .comment ht ?_ (.blank (by decide) ih)
    rintro _ ⟨⟩
    rfl

/-- A gap leaves no trace. -/
theorem Gap.tokens_append {gap : List Char} (h : Gap gap) (rest : List Char) :
    tokens (gap ++ rest) = tokens rest := tokens_congr (h.layout rest).skipLayout_append

theorem mem_openers_of_isLayout {c : Char} (h : isLayout c = true) : c ∈ openers :=
  by_contra fun ho => by
    rw [(of_not_mem_openers ho).1] at h
    cases h

theorem Gap.mem_openers {gap : List Char} (h : Gap gap) : ∀ c ∈ gap.head?, c ∈ openers := by
  cases h with
  | nil => exact nofun
  | blank hc _ =>
    rintro _ ⟨⟩
    exact mem_openers_of_isLayout hc
  | comment _ _ =>
    rintro _ ⟨⟩
    decide

theorem not_continuesName_openers : openers.all (!continuesName ·) = true := by decide

/-- No token takes a character that starts layout or a literal. -/
theorem Token.takes_of_mem_openers {c : Char} (h : c ∈ openers) (t : Token) :
    t.takes c = false := by
  have hn : continuesName c = false := by
    simpa using List.all_eq_true.mp not_continuesName_openers c h
  have hd : c.isDigit = false := Bool.eq_false_iff.mpr fun hd => by
    rw [continuesName_of_isDigit hd] at hn
    cases hn
  have hb : c ≠ '=' ∧ c ≠ '~' := ⟨by rintro rfl; exact absurd h (by decide),
    by rintro rfl; exact absurd h (by decide)⟩
  cases t with
  | integer => exact hd
  | boolean | identifier => exact hn
  | bang => simpa [takes] using hb
  | _ => rfl

/-- A token ends where a gap begins. -/
theorem Gap.endsAt {gap : List Char} (h : Gap gap) (hne : gap ≠ []) (t : Token)
    (rest : List Char) : t.EndsAt (gap ++ rest) := fun c hc => by
  rw [List.head?_append_of_ne_nil _ hne] at hc
  exact t.takes_of_mem_openers (h.mem_openers c hc)

/-! ## Tokens -/

theorem Token.Lexeme.admissible {t : Token} {cs : List Char} (h : t.Lexeme cs) :
    t.Admissible := by
  cases h with
  | written h => exact h
  | quoted hq h => exact admissible_string hq h

/-- A lexeme is read back, if what follows it cannot become part of it. -/
theorem Token.Lexeme.tokens_append {t : Token} {cs : List Char} (h : t.Lexeme cs)
    {rest : List Char} (hr : t.EndsAt rest) : tokens (cs ++ rest) = t :: tokens rest := by
  cases h with
  | written h => exact tokens_written h hr
  | @quoted q text hq h =>
    have hd : q ∈ delimiters := by obtain rfl | rfl := hq <;> decide
    obtain ⟨hl, hc⟩ := not_layout_of_mem_delimiters hd
    have hs := (scanToken_string hq _).trans (scanDelimited_written .string h rest)
    rw [List.cons_append, List.cons_append, tokens_eq_cons (skipLayout_cons hl hc _), hs]

/-- `Spaced ts cs`: the text `cs` is the tokens `ts`, each in one of its spellings, with a gap
between each and the next. -/
inductive Spaced : List Token → List Char → Prop where
  | nil : Spaced [] []
  | one {t : Token} {span : List Char} (ht : t.Lexeme span) : Spaced [t] span
  | cons {t u : Token} {ts : List Token} {span gap rest : List Char} (ht : t.Lexeme span)
    (hg : Gap gap) (hne : gap ≠ []) (h : Spaced (u :: ts) rest) :
    Spaced (t :: u :: ts) (span ++ (gap ++ rest))

theorem Spaced.tokens_eq {ts : List Token} {cs : List Char} (h : Spaced ts cs) :
    tokens cs = ts := by
  induction h with
  | nil => exact tokens_nil
  | @one t span ht =>
    have hs := ht.tokens_append (nofun : t.EndsAt [])
    rwa [List.append_nil, tokens_nil] at hs
  | @cons t u ts span gap rest ht hg hne _ ih =>
    rw [ht.tokens_append (hg.endsAt hne t rest), hg.tokens_append, ih]

theorem Spaced.admissible {ts : List Token} {cs : List Char} (h : Spaced ts cs) :
    ∀ t ∈ ts, t.Admissible := by
  induction h with
  | nil => exact nofun
  | one ht => exact List.forall_mem_singleton.mpr ht.admissible
  | cons ht _ _ _ ih => exact List.forall_mem_cons.mpr ⟨ht.admissible, ih⟩

/-- Tokens that can be written can be written one after the other. -/
theorem exists_spaced {ts : List Token} (h : ∀ t ∈ ts, t.Admissible) : ∃ cs, Spaced ts cs := by
  induction ts with
  | nil => exact ⟨[], .nil⟩
  | cons t ts ih =>
    obtain ⟨ht, hts⟩ := List.forall_mem_cons.mp h
    obtain ⟨rest, hr⟩ := ih hts
    cases ts with
    | nil => exact ⟨_, .one (.written ht)⟩
    | cons u ts =>
      have hblank : Gap [' '] := .blank (by decide) .nil
      exact ⟨_, .cons (.written ht) hblank (List.cons_ne_nil _ _) hr⟩

/-- Tokens can be written with gaps between them exactly if each of them can be written. In
whatever way that is done, what is read from the text is these tokens. -/
theorem tokens_spaced (ts : List Token) :
    ((∀ t ∈ ts, t.Admissible) ↔ ∃ cs, Spaced ts cs) ∧ ∀ cs, Spaced ts cs → tokens cs = ts :=
  ⟨⟨exists_spaced, fun ⟨_, h⟩ => h.admissible⟩, fun _ => Spaced.tokens_eq⟩

/-- Tokens whose texts look like other tokens, with comments that look like literals. -/
theorem tokens_spaced_comments :
    let ts : List Token := [.string "it's #1", .bang, .matching, .integer "007", .identifier "true_"]
    let text := "\"it's #1\"#'\n!\t=~\x0c007#/\"\n true_"
    Spaced ts text.toList ∧ tokens text.toList = ts := by
  intro ts text
  have hspaced : Spaced ts text.toList := by
    have hquote : Gap ['#', '\'', '\n'] := .comment (by decide : '\n' ∉ ['\'']) .nil
    have hslash : Gap ['#', '/', '"', '\n', ' '] :=
      .comment (by decide : '\n' ∉ ['/', '"']) (.blank (by decide) .nil)
    have hblank : ∀ c, isLayout c = true → Gap [c] := fun c hc => .blank hc .nil
    have h := Spaced.cons (.written (t := .string "it's #1") (by decide)) hquote nofun <|
      .cons (.written (t := .bang) trivial) (hblank '\t' rfl) nofun <|
      .cons (.written (t := .matching) trivial) (hblank '\x0c' rfl) nofun <|
      .cons (.written (t := .integer "007") (by decide)) hslash nofun <|
      .one (.written (t := .identifier "true_") (by decide))
    convert h using 1
    decide
  exact ⟨hspaced, (tokens_spaced ts).2 _ hspaced⟩

end StepCondition
