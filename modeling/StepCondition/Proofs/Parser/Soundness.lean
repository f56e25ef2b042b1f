import StepCondition.Proofs.Parser.Run

/-!
# Runs without errors

A run that ends without an error has read a phrase of the grammar, and its tree is
that of the phrase (`Run.sound`). The operators after an operand are read in one
loop for all precedences; its invariant is that what stands on the left is a
phrase that the next operator may follow.
-/

namespace StepCondition.Parser

/-- No error has been found. -/
def Clean (p : Parser) : Prop := p.found = [] ∧ p.tooDeep = false

theorem not_clean_note (p : Parser) (e : SyntaxError) : ¬ (p.note e).Clean := fun ⟨hf, ht⟩ => by
  rw [note_tooDeep] at ht
  rw [note_found ht] at hf
  cases hf

theorem not_clean_overflow (p : Parser) : ¬ p.overflow.Clean := fun h => by
  cases h.2

/-- A run that ends without an error has started without one. -/
theorem Run.clean {part : Part} {p q : Parser} {es : List Expr} (h : Run part p es q)
    (hq : q.Clean) : p.Clean :=
  Classical.byContradiction fun hp => h.keep (I := fun r => ¬ r.Clean) (fun _ hr => hr)
    (fun _ _ hr => hr) (fun r e _ _ _ => not_clean_note r e) (fun r _ => not_clean_overflow r) hp hq

theorem clean_closed {wanted : Token} {p : Parser} (h : (p.closed wanted).Clean) :
    p.Clean ∧ p.input = wanted :: (p.closed wanted).input := by
  unfold closed at h ⊢
  split at h
  · rename_i hw
    rw [if_pos hw]
    obtain ⟨ts, hts⟩ := List.head?_eq_some_iff.mp hw
    exact ⟨h, by rw [past_input, hts]; rfl⟩
  · exact absurd h (not_clean_note _ _)

theorem input_of_head? {p : Parser} {t : Token} (h : p.input.head? = some t) :
    p.input = t :: p.past.input := by
  obtain ⟨ts, hts⟩ := List.head?_eq_some_iff.mp h
  rw [past_input, hts]
  rfl

theorem input_of_binaryOp? {p : Parser} {op : BinaryOp}
    (h : p.input.head?.bind Token.binaryOp? = some op) : p.input = op.token :: p.past.input := by
  obtain ⟨t, ht, ho⟩ := Option.bind_eq_some_iff.mp h
  rw [input_of_head? ht, eq_token_of_binaryOp? ho]

/-- One tree has been read at a precedence: that of a phrase after which `rest` is
left. -/
def ReadOne (q : Precedence) (es : List Expr) (input rest : List Token) : Prop :=
  ∃ g ts e, Derives g ts e ∧ g.TighterThan q ∧ es = [e] ∧ input = ts ++ rest ∧
    Stops g.level rest ∧ Stops q rest

/-- What a run of a part without errors has read. -/
def Part.Sound : Part → Parser → List Expr → Parser → Prop
  | .expression q, p, es, p' => ReadOne q es p.input p'.input
  | .operand, p, es, p' => ∃ g ts e, Derives g ts e ∧ g.loosest = none ∧ es = [e] ∧
      p.input = ts ++ p'.input ∧ Stops g.level p'.input
  | .operators q left, p, es, p' => ∀ g ts, Derives g ts left → g.TighterThan q →
      Stops g.level p.input → ReadOne q es (ts ++ p.input) p'.input
  | .items closing, p, es, p' => ∃ cs, es = Derivation.trees cs ∧
      p.input = Derivation.tokensAll cs ++ closing :: p'.input
  | .moreItems, p, es, p' => ∃ cs : List (Derivation .or), es = cs.map Derivation.tree ∧
      p.input = (cs.flatMap fun c => .comma :: c.tokens) ++ p'.input

/-- An expression at the lowest precedence is a whole condition. -/
theorem ReadOne.derivation {es : List Expr} {input rest : List Token}
    (h : ReadOne .lowest es input rest) :
    ∃ c : Derivation .or, es = [c.tree] ∧ input = c.tokens ++ rest := by
  obtain ⟨g, ts, e, d, -, rfl, rfl, -, -⟩ := h
  obtain ⟨c, rfl, rfl⟩ := d.or
  exact ⟨c, rfl, rfl⟩

/-- A primary of one token. -/
theorem Part.sound_token {p : Parser} {t : Token} (c : Derivation .primary) (hc : c.tokens = [t])
    (h : p.input.head? = some t) : Part.Sound .operand p [c.tree] p.past :=
  ⟨.primary, _, _, ⟨c, rfl, rfl⟩, rfl, rfl, by rw [hc, input_of_head? h]; rfl, stops_access _⟩

/-- A run that ends without an error has read a phrase of the grammar. -/
theorem Run.sound {part : Part} {p q : Parser} {es : List Expr} (h : Run part p es q)
    (hq : q.Clean) : part.Sound p es q := by
  induction h with
  | tooDeep | foldTooDeep => exact absurd hq (not_clean_overflow _)
  | outOfRange | illegal | unexpectedEnd | startsNothing => exact absurd hq (not_clean_note _ _)
  | noOperand _ _ ih =>
    obtain ⟨_, _, _, _, _, he, _⟩ := ih hq
    cases he
  | chain _ h₁ h₂ ih₁ ih₂ =>
    obtain ⟨g, ts, e, d, hg, he, hi, hs⟩ := ih₁ (h₂.clean hq)
    cases he
    have r := ih₂ hq g ts d (fun _ hr => by rw [hg] at hr; cases hr) hs
    rwa [← hi] at r
  | stop h => exact fun g ts d hg hs => ⟨g, ts, _, d, hg, rfl, rfl, hs, h⟩
  | foldLost _ _ _ _ ih =>
    obtain ⟨_, _, _, _, _, he, _⟩ := ih hq
    cases he
  | @fold q left right p p₁ p₂ op es h hlt _ _ h₂ ih₁ ih₂ =>
    intro g ts d hg hs
    obtain ⟨g', us, e, d', hg', he, hi, hs', hop⟩ := ih₁ (h₂.clean hq)
    cases he
    obtain ⟨k, dk, hk, hks⟩ := d.fold (hs op h) d' hg'
    have r := ih₂ hq k _ dk (hk _ hlt) (hks _ hs' hop)
    rw [input_of_binaryOp? h]
    change p.past.input = us ++ p₁.input at hi
    rwa [hi, ← List.cons_append, ← List.append_assoc]
  | integer h hn => exact Part.sound_token (.integer _ _ hn) rfl h
  | @string _ text h => exact Part.sound_token (.string text) rfl h
  | @regexp _ pattern h => exact Part.sound_token (.regexp pattern) rfl h
  | @boolean _ b h => exact Part.sound_token (.boolean b) rfl h
  | @identifier _ name h => exact Part.sound_token (.identifier name) rfl h
  | @call _ _ name _ h hn _ ih =>
    obtain ⟨cs, rfl, hi⟩ := ih hq
    refine ⟨.primary, _, _, ⟨.call name cs, rfl, rfl⟩, rfl, rfl, ?_, stops_access _⟩
    rw [input_of_head? h, input_of_head? hn, hi]
    simp [Derivation.tokens]
  | @signed _ _ op _ h _ ih =>
    obtain ⟨g, ts, e, d, hg, rfl, hi, -, hs⟩ := ih hq
    obtain ⟨c, rfl, rfl⟩ := d.unary (hg.of_le (by decide))
    refine ⟨.signed, _, _, ⟨.signed op c, rfl, rfl⟩, rfl, rfl, ?_, hs⟩
    rw [input_of_head? h, hi]
    rfl
  | group h _ ih =>
    obtain ⟨hc, hi'⟩ := clean_closed hq
    obtain ⟨c, rfl, hi⟩ := (ih hc).derivation
    refine ⟨.primary, _, _, ⟨.group c, rfl, rfl⟩, rfl, rfl, ?_, stops_access _⟩
    rw [input_of_head? h, hi, hi']
    simp [Derivation.tokens]
  | array h _ ih =>
    obtain ⟨cs, rfl, hi⟩ := ih hq
    refine ⟨.primary, _, _, ⟨.array cs, rfl, rfl⟩, rfl, rfl, ?_, stops_access _⟩
    rw [input_of_head? h, hi]
    simp [Derivation.tokens]
  | noItems h => exact ⟨[], rfl, input_of_head? h⟩
  | items _ _ h₂ ih₁ ih₂ =>
    obtain ⟨hc, hi'⟩ := clean_closed hq
    obtain ⟨c, rfl, hi⟩ := (ih₁ (h₂.clean hc)).derivation
    obtain ⟨cs, rfl, his⟩ := ih₂ hc
    refine ⟨c :: cs, by rw [Derivation.trees_eq_map]; rfl, ?_⟩
    rw [Derivation.tokensAll_cons, hi, his, hi', List.append_assoc]
  | noMore => exact ⟨[], rfl, rfl⟩
  | more h _ h₂ ih₁ ih₂ =>
    obtain ⟨c, rfl, hi⟩ := (ih₁ (h₂.clean hq)).derivation
    obtain ⟨cs, rfl, his⟩ := ih₂ hq
    refine ⟨c :: cs, rfl, ?_⟩
    rw [input_of_head? h, hi, his]
    simp

end StepCondition.Parser
