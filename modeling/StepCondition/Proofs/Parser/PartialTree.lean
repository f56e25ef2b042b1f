import StepCondition.Proofs.Parser.Requests

/-!
# Trees in spite of errors

The parser goes on after an error, and gives a tree of what it could read. Whether there is
one shows early: past the exclamation marks, minus signs and opening parentheses at the
front comes a token at which a tree starts (`Token.startsTree`), or one at which there is
none. After that nothing takes the tree away but the limit on nesting: an operator without
its right operand leaves the left one, an item that cannot be read is left out, and a
closing token that is missing is only noted.

* `Run.yields`: which parts of a text have a tree, by the first tokens of each;
* `parse_fst_isSome_iff`: so for whole texts.
-/

namespace StepCondition

/-- A token in front of an operand. -/
def Token.leads : Token → Bool
  | bang | minus | leftParen => true
  | _ => false

/-- A token at which a tree starts, whatever comes after it: a literal, a name or the start
of an array. A number counts if an integer of 64 bits holds it. -/
def Token.startsTree : Token → Bool
  | integer digits => (Text.decimalValue digits.toList : Int) ≤ Int64.maxValue.toInt
  | string _ | regexp _ | boolean _ | identifier _ | leftBracket => true
  | _ => false

/-- After the tokens in front of the first operand comes one at which a tree starts. -/
def StartsTree (ts : List Token) : Prop :=
  ∃ t, (ts.dropWhile Token.leads).head? = some t ∧ t.startsTree = true

theorem not_startsTree_nil : ¬ StartsTree [] := by
  rintro ⟨t, h, -⟩
  cases h

theorem startsTree_cons_of_leads {t : Token} (h : t.leads = true) (ts : List Token) :
    StartsTree (t :: ts) ↔ StartsTree ts := by
  rw [StartsTree, List.dropWhile_cons_of_pos h, StartsTree]

theorem startsTree_cons_of_not_leads {t : Token} (h : t.leads = false) (ts : List Token) :
    StartsTree (t :: ts) ↔ t.startsTree = true := by
  rw [StartsTree, List.dropWhile_cons_of_neg (by rw [h]; decide)]
  simp

/-- More tokens at the end do not change where the first tree starts. -/
theorem StartsTree.append {ts : List Token} (h : StartsTree ts) (us : List Token) :
    StartsTree (ts ++ us) := by
  obtain ⟨t, ht, hs⟩ := h
  obtain ⟨rest, hr⟩ := List.head?_eq_some_iff.mp ht
  refine ⟨t, ?_, hs⟩
  rw [List.dropWhile_append, hr]
  rfl

namespace Parser

/-- A run that ends within the limit has started there. -/
theorem Run.start_within_limit {part : Part} {p q : Parser} {es : List Expr}
    (h : Run part p es q) (hq : q.tooDeep = false) : p.tooDeep = false :=
  Bool.eq_false_iff.mpr fun hp => Bool.eq_false_iff.mp hq (h.past_limit hp)

/-- When there is a tree of a part: that of an expression or an operand depends on the
tokens in front of it, and that of operators is at least their left operand. -/
def Part.Yields : Part → Parser → List Expr → Prop
  | .expression _, p, es | .operand, p, es => es ≠ [] ↔ StartsTree p.input
  | .operators _ _, _, es => es ≠ []
  | .items _, _, _ | .moreItems, _, _ => True

/-- An operand that starts with a token at which a tree starts has one. -/
theorem yields_of_startsTree {p : Parser} {t : Token} {e : Expr} (h : p.input.head? = some t)
    (hl : t.leads = false) (ht : t.startsTree = true) : Part.operand.Yields p [e] := by
  refine iff_of_true (List.cons_ne_nil _ _) ?_
  rw [input_of_head? h]
  exact (startsTree_cons_of_not_leads hl _).mpr ht

/-- An operand that starts with another token has none. -/
theorem yields_of_not_startsTree {p : Parser} {t : Token} (h : p.input.head? = some t)
    (hl : t.leads = false) (ht : t.startsTree = false) : Part.operand.Yields p [] := by
  refine iff_of_false (fun h => h rfl) ?_
  rw [input_of_head? h, startsTree_cons_of_not_leads hl, ht]
  exact Bool.false_ne_true

/-- Whether a number starts a tree is whether the parser has an integer for it. -/
theorem startsTree_integer (digits : String) :
    (Token.integer digits).startsTree = (integerOfDigits? digits).isSome := by
  rw [Token.startsTree, integerOfDigits?]
  split <;> simp_all

/-- Within the limit, whether a part has a tree depends on the tokens at its front. -/
theorem Run.yields {part : Part} {p q : Parser} {es : List Expr} (h : Run part p es q)
    (hq : q.tooDeep = false) : part.Yields p es := by
  induction h with
  | tooDeep | foldTooDeep => cases hq
  | noOperand _ _ ih => exact ih hq
  | chain _ _ h₂ ih₁ ih₂ =>
    have hleft := ih₁ (h₂.start_within_limit hq)
    exact iff_of_true (ih₂ hq) (hleft.mp (List.cons_ne_nil _ _))
  | stop | foldLost => exact List.cons_ne_nil _ _
  | fold _ _ _ _ _ _ ih₂ => exact ih₂ hq
  | integer h hn => exact yields_of_startsTree h rfl (by rw [startsTree_integer, hn]; rfl)
  | outOfRange h hn => exact yields_of_not_startsTree h rfl (by rw [startsTree_integer, hn]; rfl)
  | string h | regexp h | boolean h | identifier h | call h | array h =>
    exact yields_of_startsTree h rfl rfl
  | @signed p _ op es h _ ih =>
    have hl : op.token.leads = true := by cases op <;> rfl
    change es.map (Expr.unary op) ≠ [] ↔ StartsTree p.input
    rw [input_of_head? h, startsTree_cons_of_leads hl, Ne, List.map_eq_nil_iff]
    exact ih hq
  | @group p _ es h _ ih =>
    rw [closed_tooDeep] at hq
    change es ≠ [] ↔ StartsTree p.input
    rw [input_of_head? h, startsTree_cons_of_leads rfl]
    exact ih hq
  | illegal h => exact yields_of_not_startsTree h rfl rfl
  | @unexpectedEnd p h =>
    refine iff_of_false (fun h => h rfl) ?_
    rw [List.head?_eq_none_iff.mp h]
    exact not_startsTree_nil
  | @startsNothing p t h ht =>
    refine yields_of_not_startsTree h ?_ ?_ <;> cases t <;> first | rfl | exact ht.elim
  | noItems | items | noMore | more => trivial

/-- There is a tree of the whole input exactly if nesting has not gone past its limit and
a tree starts after the tokens in front of the first operand. -/
theorem isSome_parse_iff {p : Parser} :
    p.parse.1.isSome = true ↔ p.parse.2.tooDeep = false ∧ StartsTree p.input := by
  obtain ⟨e, q, hr, r⟩ := exists_run .lowest p
  rw [parse_eq_whole, hr, whole]
  cases hq : q.tooDeep with
  | true => simp [hq]
  | false =>
    have hy : e.toList ≠ [] ↔ StartsTree p.input := r.yields hq
    have he : e.isSome = true ↔ StartsTree p.input := by
      rw [← hy]
      cases e <;> simp
    rw [if_neg Bool.false_ne_true]
    split
    · exact he.trans (and_iff_right hq).symm
    · exact he.trans (and_iff_right ((note_tooDeep ..).trans hq)).symm

end Parser

/-- The parser gives a tree of a text exactly if nesting does not go past the limit and,
after the exclamation marks, minus signs and opening parentheses at the front, there is a
number that fits 64 bits, a text, a pattern, a truth value, a name or an opening bracket.
So more text after one that has a tree never takes the tree away, short of the limit. -/
theorem parse_fst_isSome_iff (text : String) :
    let p := (Parser.ofText text).parse
    (p.1.isSome = true ↔
      SyntaxError.tooDeep.message ∉ p.2.errors.map SyntaxError.message ∧
        StartsTree (tokens text.toList)) ∧
    ∀ longer, tokens text.toList <+: tokens longer.toList → p.1.isSome = true →
      let q := (Parser.ofText longer).parse
      SyntaxError.tooDeep.message ∉ q.2.errors.map SyntaxError.message → q.1.isSome = true := by
  have whole : ∀ text : String, (Parser.ofText text).parse.1.isSome = true ↔
      SyntaxError.tooDeep.message ∉ (Parser.ofText text).parse.2.errors.map SyntaxError.message ∧
        StartsTree (tokens text.toList) := fun text => by
    have hc := Parser.kept_consistent.answer .whole (Parser.consistent_ofText text)
    rw [Parser.isSome_parse_iff, ← Bool.not_eq_true]
    exact and_congr_left' (not_congr hc.message_mem_iff.symm)
  refine ⟨whole text, fun longer hl hs hq => (whole longer).mpr ⟨hq, ?_⟩⟩
  obtain ⟨rest, hr⟩ := hl
  rw [← hr]
  exact ((whole text).mp hs).2.append rest

end StepCondition
