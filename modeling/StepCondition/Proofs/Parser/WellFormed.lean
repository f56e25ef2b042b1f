import StepCondition.Proofs.Expr.Rendering
import StepCondition.Proofs.Parser.Requests

/-!
# Trees that can be written back

A tree takes its literals and names from tokens, as they are, and an operator in front of
an integer is no part of it. The tokens of a text can be written, but for the illegal ones
(`Parser.Readable`), and no tree takes anything from an illegal token. So whatever the
parser returns can be written, also the part of a text that it could read in spite of
errors, and the canonical text leads back to it. The canonical text escapes nothing; this
is why it need not.

* `Run.wellFormed`: what is read from such tokens is well formed;
* `wellFormed_of_answer`: so is every tree that a parser of a text answers with.
-/

namespace StepCondition

theorem Expr.wellFormedAll_iff {es : List Expr} :
    Expr.WellFormedAll es ↔ ∀ e ∈ es, e.WellFormed := by
  induction es with
  | nil => exact iff_of_true trivial (List.forall_mem_nil _)
  | cons e es ih => rw [WellFormedAll, List.forall_mem_cons, ih]

namespace Parser

/-- Every token that is left can be written, or is illegal. -/
def Readable (p : Parser) : Prop := ∀ t ∈ p.input, t.Admissible ∨ ∃ c, t = .illegal c

theorem readable_ofText (text : String) : (ofText text).Readable := fun _ =>
  admissible_of_mem_tokens

theorem Readable.past {p : Parser} (hp : p.Readable) : p.past.Readable := fun t ht =>
  hp t (List.mem_of_mem_tail ht)

theorem Readable.deeper {p : Parser} (hp : p.Readable) : p.deeper.Readable := hp

theorem kept_readable : Kept Readable where
  past _ hp := hp.past
  depth _ _ hp := hp
  note p e _ hp t ht := hp t (note_input p e ▸ ht)
  overflow _ _ := List.forall_mem_nil _

/-- A run takes tokens off the front, and the others stay as they are. -/
theorem Readable.after_run {part : Part} {p q : Parser} {es : List Expr} (hp : p.Readable)
    (h : Run part p es q) : q.Readable := fun t ht => hp t (h.input_suffix.mem ht)

/-- A token that a tree takes something from can be written. -/
theorem Readable.admissible {p : Parser} {t : Token} (hp : p.Readable)
    (h : p.input.head? = some t) (ht : ∀ c, t ≠ .illegal c) : t.Admissible :=
  (hp t (List.mem_of_mem_head? h)).resolve_right fun ⟨c, hc⟩ => ht c hc

/-- What a part starts with is well formed: for the operators after an operand, the
operand. -/
def Part.WellFormed : Part → Prop
  | .operators _ left => left.WellFormed
  | _ => True

/-- What is read from tokens that can be written, or are illegal, is well formed. -/
theorem Run.wellFormed {part : Part} {p q : Parser} {es : List Expr} (h : Run part p es q)
    (hp : p.Readable) (hpart : part.WellFormed) : ∀ e ∈ es, e.WellFormed := by
  induction h with
  | tooDeep | noOperand | foldTooDeep | outOfRange | illegal | unexpectedEnd | startsNothing
  | noItems | noMore => exact List.forall_mem_nil _
  | chain _ h₁ _ ih₁ ih₂ =>
    have hleft := List.forall_mem_singleton.mp (ih₁ hp.deeper trivial)
    exact ih₂ (hp.deeper.after_run h₁) hleft
  | stop | foldLost => exact List.forall_mem_singleton.mpr hpart
  | fold _ _ _ h₁ _ ih₁ ih₂ =>
    have hright := List.forall_mem_singleton.mp (ih₁ hp.deeper.past trivial)
    exact ih₂ (hp.deeper.past.after_run h₁) ⟨hpart, hright⟩
  | integer _ hn => exact List.forall_mem_singleton.mpr (nonneg_of_integerOfDigits? hn)
  | string h | regexp h | identifier h =>
    exact List.forall_mem_singleton.mpr (hp.admissible h nofun)
  | boolean => exact List.forall_mem_singleton.mpr trivial
  | call h _ _ ih =>
    have hargs := ih hp.past.past trivial
    exact List.forall_mem_singleton.mpr
      ⟨hp.admissible h nofun, Expr.wellFormedAll_iff.mpr hargs⟩
  | signed _ _ ih => exact List.forall_mem_map.mpr (ih hp.past trivial)
  | group _ _ ih => exact ih hp.past trivial
  | array _ _ ih =>
    have hitems := ih hp.past trivial
    exact List.forall_mem_singleton.mpr (Expr.wellFormedAll_iff.mpr hitems)
  | items _ h₁ _ ih₁ ih₂ =>
    exact List.forall_mem_append.mpr ⟨ih₁ hp trivial, ih₂ (hp.after_run h₁) trivial⟩
  | more _ h₁ _ ih₁ ih₂ =>
    exact List.forall_mem_append.mpr ⟨ih₁ hp.past trivial, ih₂ (hp.past.after_run h₁) trivial⟩

/-- Every tree that a parser of such tokens answers with is well formed. -/
theorem Readable.wellFormed {p : Parser} (hp : p.Readable) {request : Request} {e : Expr}
    (h : (p.answer request).1 = some e) : e.WellFormed := by
  obtain ⟨q, p', r⟩ := exists_run_of_answer h
  exact r.wellFormed hp trivial e List.mem_cons_self

end Parser

/-- The tree of an accepted text is well formed. -/
theorem wellFormed_of_parse {text : String} {e : Expr} (h : parse text = .ok e) :
    e.WellFormed := by
  obtain ⟨d, hd, ht, -⟩ | ⟨es, hes, -⟩ := parse_ofText text
  · cases h.symm.trans hd
    have ha : ((Parser.ofText text).answer .whole).1 = some e := ht
    exact (Parser.readable_ofText text).wellFormed ha
  · cases h.symm.trans hes

/-- A parser of a text, whatever it was asked for before and whatever errors it has found,
answers only with trees that can be written: every integer in it is at least zero, every
text lacks one of the quotes, every pattern is without slashes and every name is one that a
name token can have. The tokens of the canonical text then derive from the grammar with
the same tree. -/
theorem wellFormed_of_answer (text : String) (requests : List Parser.Request)
    (request : Parser.Request) {e : Expr}
    (h : (((Parser.ofText text).after requests).answer request).1 = some e) :
    e.WellFormed ∧ Derives .or (tokens e.render.toList) e := by
  have hp := Parser.kept_readable.after requests (Parser.readable_ofText text)
  have he := hp.wellFormed h
  obtain ⟨c, hc, ht, -⟩ := exists_derivation_render he
  exact ⟨he, c, hc, ht⟩

/-- The second answer about a text that is no condition, with the error for the first one
and three more. -/
theorem wellFormed_of_answer_partial :
    let p := (Parser.ofText "a -f(1, 'say \"', ] /x+/").after [.whole]
    let e := Expr.unary .negate (.call "f" [.integer 1, .string "say \""])
    (p.answer .whole).1 = some e ∧
      (p.answer .whole).2.errors = [.trailing .minus, .startsNoExpression .rightBracket,
        .expected .rightParen (some .rightBracket), .trailing .rightBracket] ∧
      e.WellFormed ∧ Derives .or (tokens e.render.toList) e := by
  intro p e
  have he : (p.answer .whole).1 = some e := by decide +kernel
  have herr : (p.answer .whole).2.errors = [.trailing .minus, .startsNoExpression .rightBracket,
      .expected .rightParen (some .rightBracket), .trailing .rightBracket] := by decide +kernel
  exact ⟨he, herr, wellFormed_of_answer _ [.whole] .whole he⟩

end StepCondition
