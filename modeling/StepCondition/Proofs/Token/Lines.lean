import StepCondition.Proofs.Token.Trimming

/-!
# Tokens of lines

The end of a line ends whatever is being read: a token, half an operator or a comment. Only a
literal goes on in the next line. So a text and more text in a new line have the tokens of the
one and then those of the other, unless the first one leaves a literal open (`leavesOpen`).

* `leavesOpen_iff`: a literal left open is seen in the tokens;
* `tokens_lines`: the tokens of a text with more text in a new line.
-/

namespace StepCondition

/-! ## Literals left open -/

/-- Whether reading a text comes to a literal that nothing closes. -/
def leavesOpen (cs : List Char) : Bool :=
  match h : skipLayout cs with
  | [] => false
  | c :: rest =>
    have : (scanToken c rest).2.length < cs.length := scanToken_length_lt h
    (c ∈ Token.delimiters && c ∉ rest) || leavesOpen (scanToken c rest).2
termination_by cs.length

theorem leavesOpen_of_nil {cs : List Char} (h : skipLayout cs = []) : leavesOpen cs = false := by
  rw [leavesOpen]
  split
  · rfl
  · rename_i h'
    cases h.symm.trans h'

theorem leavesOpen_of_cons {cs : List Char} {c : Char} {rest : List Char}
    (h : skipLayout cs = c :: rest) :
    leavesOpen cs =
      ((c ∈ Token.delimiters && c ∉ rest) || leavesOpen (scanToken c rest).2) := by
  rw [leavesOpen]
  split
  · rename_i h'
    cases h.symm.trans h'
  · rename_i h'
    cases h.symm.trans h'
    rfl

/-- A literal is read up to the first delimiter that closes it. -/
theorem exists_scanToken_closed {d : Char} (hd : d ∈ Token.delimiters) {text : List Char}
    (h : d ∉ text) (rest : List Char) :
    ∃ t : Token, t.Admissible ∧ scanToken d (text ++ d :: rest) = (t, rest) := by
  have hs : d ∉ (String.ofList text).toList := by rwa [String.toList_ofList]
  have hstring : d = '"' ∨ d = '\'' →
      ∃ t : Token, t.Admissible ∧ scanToken d (text ++ d :: rest) = (t, rest) := fun hq =>
    ⟨_, Token.admissible_string hq hs, (scanToken_string hq _).trans (scanDelimited_of_mem _ h _)⟩
  simp only [Token.delimiters, List.mem_cons, List.not_mem_nil, or_false] at hd
  obtain hd | hd | rfl := hd
  · exact hstring (.inl hd)
  · exact hstring (.inr hd)
  · exact ⟨.regexp (.ofList text), hs, scanDelimited_of_mem .regexp h rest⟩

/-- An illegal token with the character of a delimiter is a literal that nothing closes. -/
theorem scanToken_fst_eq_illegal_iff {d : Char} (hd : d ∈ Token.delimiters) {c : Char}
    {cs : List Char} : (scanToken c cs).1 = .illegal d ↔ c = d ∧ d ∉ cs := by
  constructor
  · intro h
    obtain ha | hc := admissible_scanToken c cs
    · rw [h] at ha
      exact ha.elim
    obtain rfl : c = d := Token.illegal.inj (hc.symm.trans h)
    refine ⟨rfl, fun hm => ?_⟩
    obtain ⟨text, rest, rfl, ht⟩ := List.eq_append_cons_of_mem hm
    obtain ⟨t, ha, hs⟩ := exists_scanToken_closed hd ht rest
    rw [hs] at h
    subst h
    exact ha
  · rintro ⟨rfl, hcs⟩
    rw [scanToken_unclosed hd hcs]

/-- A text leaves a literal open exactly if the delimiter is among its tokens. -/
theorem leavesOpen_iff (cs : List Char) :
    leavesOpen cs = true ↔ ∃ d ∈ Token.delimiters, .illegal d ∈ tokens cs := by
  induction cs using tokens.induct with
  | case1 cs hs => simp [leavesOpen_of_nil hs, tokens_eq_nil hs]
  | case2 cs c rest hs _ ih =>
    rw [leavesOpen_of_cons hs, tokens_eq_cons hs, Bool.or_eq_true, ih]
    simp only [Bool.and_eq_true, decide_eq_true_eq, List.mem_cons]
    constructor
    · rintro (⟨hd, hc⟩ | ⟨d, hd, ht⟩)
      · exact ⟨c, hd, .inl ((scanToken_fst_eq_illegal_iff hd).mpr ⟨rfl, hc⟩).symm⟩
      · exact ⟨d, hd, .inr ht⟩
    · rintro ⟨d, hd, ht | ht⟩
      · obtain ⟨rfl, hc⟩ := (scanToken_fst_eq_illegal_iff hd).mp ht.symm
        exact .inl ⟨hd, hc⟩
      · exact .inr ⟨d, hd, ht⟩

/-! ## A new line -/

/-- The end of the line ends a comment, and otherwise is a blank. -/
theorem skipLayout_line {cs : List Char} (h : skipLayout cs = []) (rest : List Char) :
    skipLayout (cs ++ '\n' :: rest) = skipLayout rest := by
  rw [skipLayout_append_of_nil _ h]
  split <;> rfl

theorem scanToken_line {c : Char} {cs : List Char} (h : ¬ (c ∈ Token.delimiters ∧ c ∉ cs))
    (rest : List Char) :
    scanToken c (cs ++ '\n' :: rest) =
      ((scanToken c cs).1, (scanToken c cs).2 ++ '\n' :: rest) := by
  refine scanToken_append ?_ fun hd => by_contra fun hcs => h ⟨hd, hcs⟩
  rintro _ ⟨⟩
  decide

theorem tokens_append_line {cs : List Char} (h : leavesOpen cs = false) (rest : List Char) :
    tokens (cs ++ '\n' :: rest) = tokens cs ++ tokens rest := by
  induction cs using tokens.induct with
  | case1 cs hs => rw [tokens_congr (skipLayout_line hs rest), tokens_eq_nil hs, List.nil_append]
  | case2 cs c more hs _ ih =>
    rw [leavesOpen_of_cons hs, Bool.or_eq_false_iff] at h
    have hc : ¬ (c ∈ Token.delimiters ∧ c ∉ more) := by simpa using h.1
    rw [tokens_eq_cons hs, tokens_eq_cons (skipLayout_append_of_cons hs _), scanToken_line hc,
      ih h.2, List.cons_append]

/-- A literal left open takes the delimiter that stands in the next line, which would be a token
of its own otherwise. -/
theorem exists_tokens_append_line_ne {cs : List Char} (h : leavesOpen cs = true) :
    ∃ rest, tokens (cs ++ '\n' :: rest) ≠ tokens cs ++ tokens rest := by
  suffices hlen : ∃ d, (tokens (cs ++ ['\n', d])).length < (tokens cs ++ tokens [d]).length by
    obtain ⟨d, hd⟩ := hlen
    exact ⟨[d], fun he => Nat.lt_irrefl _ (he ▸ hd)⟩
  induction cs using tokens.induct with
  | case1 cs hs =>
    rw [leavesOpen_of_nil hs] at h
    cases h
  | case2 cs c more hs _ ih =>
    rw [leavesOpen_of_cons hs, Bool.or_eq_true] at h
    by_cases hc : c ∈ Token.delimiters ∧ c ∉ more
    · refine ⟨c, ?_⟩
      obtain ⟨hl, hh⟩ := Token.not_layout_of_mem_delimiters hc.1
      have hn : c ∉ more ++ ['\n'] := fun hm => by
        obtain hm | hm := List.mem_append.mp hm
        · exact hc.2 hm
        · rw [List.mem_singleton.mp hm] at hl
          cases hl
      obtain ⟨t, -, ht⟩ := exists_scanToken_closed hc.1 hn []
      rw [List.append_assoc, List.singleton_append] at ht
      rw [tokens_eq_cons hs, tokens_eq_cons (skipLayout_append_of_cons hs _), ht,
        tokens_eq_cons (skipLayout_cons hl hh [])]
      simp only [tokens_nil, List.length_append, List.length_cons, List.length_nil]
      omega
    · obtain ⟨d, hd⟩ := ih (h.resolve_left (by simpa using hc))
      refine ⟨d, ?_⟩
      rw [tokens_eq_cons hs, tokens_eq_cons (skipLayout_append_of_cons hs _), scanToken_line hc]
      exact Nat.succ_lt_succ hd

/-- A text and, in a new line, any other text have the tokens of the one and then those of the
other, exactly if the first one leaves no literal open: if none of its tokens is the delimiter
of a literal. -/
theorem tokens_lines (cs : List Char) :
    ((∀ rest, tokens (cs ++ '\n' :: rest) = tokens cs ++ tokens rest) ↔ leavesOpen cs = false) ∧
      (leavesOpen cs = false ↔ ∀ d ∈ Token.delimiters, .illegal d ∉ tokens cs) := by
  refine ⟨⟨fun h => ?_, tokens_append_line⟩, ?_⟩
  · refine Bool.eq_false_iff.mpr fun ho => ?_
    obtain ⟨rest, hne⟩ := exists_tokens_append_line_ne ho
    exact hne (h rest)
  · rw [← Bool.not_eq_true, leavesOpen_iff]
    exact ⟨fun h d hd ht => h ⟨d, hd, ht⟩, fun h ⟨d, hd, ht⟩ => h d hd ht⟩

end StepCondition
