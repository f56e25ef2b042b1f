import StepCondition.Proofs.Parser.WellFormed

/-!
# Rendering and parsing again

What becomes of the canonical text of a tree. A well-formed tree comes back as
long as its canonical text nests no deeper than the parser permits, and every tree
that the parser returns is well formed. The canonical text nests deeper than the
text that the tree came from, though: an operator before its operand takes one
level there and two in the canonical text.

* `parse_render`: the canonical text of a well-formed tree;
* `parse_render_of_parse`: the canonical text of an accepted text.
-/

namespace StepCondition

/-! ## Operators in front of a name -/

/-- An operator several times before an operand. -/
def Expr.prefixes (op : UnaryOp) : Nat → Expr → Expr
  | 0, e => e
  | n + 1, e => .unary op (prefixes op n e)

/-- A name with `!` a number of times before it. -/
def negations (n : Nat) : String := String.ofList (List.replicate n '!' ++ ['a'])

theorem renderedNesting_prefixes (op : UnaryOp) (n : Nat) (e : Expr) :
    (Expr.prefixes op n e).renderedNesting = 2 * n + e.renderedNesting := by
  induction n with
  | zero => rw [Expr.prefixes, Nat.mul_zero, Nat.zero_add]
  | succ n ih =>
    rw [Expr.prefixes, Expr.renderedNesting, ih]
    omega

theorem wellFormed_prefixes (op : UnaryOp) (n : Nat) {e : Expr} (h : e.WellFormed) :
    (Expr.prefixes op n e).WellFormed := by
  induction n with
  | zero => exact h
  | succ n ih => exact ih

theorem tokens_replicate_bang (n : Nat) {rest : List Char}
    (h : Token.EndsAt (.identifier "a") rest) :
    tokens (List.replicate n '!' ++ 'a' :: rest) =
      List.replicate n .bang ++ .identifier "a" :: tokens rest := by
  induction n with
  | zero => exact tokens_written (t := .identifier "a") (by decide) h
  | succ n ih =>
    rw [List.replicate_succ, List.replicate_succ, List.cons_append, List.cons_append, ← ih]
    refine tokens_written (t := .bang) trivial ?_
    cases n <;> rintro _ ⟨⟩ <;> decide

theorem tokens_negations (n : Nat) :
    tokens (negations n).toList = List.replicate n .bang ++ [.identifier "a"] := by
  have h := tokens_replicate_bang n (nofun : Token.EndsAt _ [])
  rwa [tokens_nil, ← String.toList_ofList (l := List.replicate n '!' ++ ['a'])] at h

theorem exists_derivation_prefixes (n : Nat) :
    ∃ c : Derivation .unary, c.tokens = List.replicate n .bang ++ [.identifier "a"] ∧
      c.tree = Expr.prefixes .not n (.identifier "a") ∧ c.folds = 0 ∧ c.nesting = n + 1 := by
  induction n with
  | zero =>
    obtain ⟨c, hc⟩ := (Derivation.identifier "a").exists_unary (by decide)
    exact ⟨c, hc.tokens, hc.tree, hc.folds, hc.nesting⟩
  | succ n ih =>
    obtain ⟨c, hc, ht, -, hn⟩ := ih
    refine ⟨.wrap .signed (.signed .not c), ?_, ?_, rfl, ?_⟩
    · rw [List.replicate_succ, List.cons_append, ← hc]
      rfl
    · rw [Expr.prefixes, ← ht]
      rfl
    · rw [← hn]
      rfl

/-- A name with operators before it takes a level for each. -/
theorem parse_negations (n : Nat) :
    parse (negations n) =
      if n < maxDepth then .ok (Expr.prefixes .not n (.identifier "a")) else .error [.tooDeep] := by
  obtain ⟨c, hc, ht, -, hn⟩ := exists_derivation_prefixes n
  obtain ⟨d, hd⟩ := c.exists_or
  rw [parse_derivation (hd.tokens.trans (hc.trans (tokens_negations n).symm)), hd.nesting, hn,
    hd.tree, ht]
  rfl

/-! ## The canonical text as a text -/

/-- The canonical text of a well-formed tree has the tree, unless it nests too
deep, which then is the only error. -/
theorem parse_render {e : Expr} (h : e.WellFormed) :
    parse e.render = if e.renderedNesting ≤ maxDepth then .ok e else .error [.tooDeep] := by
  obtain ⟨c, hc, rfl, hn⟩ := exists_derivation_render h
  rw [parse_derivation hc, hn]

/-- A tree of calls, arrays, operators and every kind of leaf comes back. -/
theorem parse_render_call :
    let e := Expr.call "f" [.unary .not (.identifier "x"), .array [.integer 7, .boolean true],
      .binary .matching (.string "it's") (.regexp "a+"),
      .binary .access (.identifier "s") (.string "\"")]
    e.WellFormed ∧ parse e.render = .ok e :=
  ⟨by decide, (parse_render (by decide)).trans (if_pos (by decide))⟩

/-- The canonical text of an accepted text is accepted with the same tree exactly
if it nests no deeper than the parser permits. If it does, that is its only
error. -/
theorem parse_render_of_parse {text : String} {e : Expr} (h : parse text = .ok e) :
    (parse e.render = .ok e ↔ e.renderedNesting ≤ maxDepth) ∧
      (maxDepth < e.renderedNesting → parse e.render = .error [.tooDeep]) := by
  obtain ⟨c, hc, rfl, hn⟩ := exists_derivation_render (wellFormed_of_parse h)
  have hp := parse_derivation hc
  rw [hn] at hp
  refine ⟨⟨fun hr => ?_, fun hle => ?_⟩, fun hlt => ?_⟩
  · by_contra hle
    rw [if_neg hle, hr] at hp
    cases hp
  · rw [hp, if_pos hle]
  · rw [hp, if_neg (by omega)]

/-- The longest row of operators that comes back. -/
theorem parse_render_of_parse_negations :
    let e := Expr.prefixes .not 127 (.identifier "a")
    parse (negations 127) = .ok e ∧ parse e.render = .ok e := by
  have h := (parse_negations 127).trans (if_pos (by decide))
  refine ⟨h, (parse_render_of_parse h).1.mpr ?_⟩
  rw [renderedNesting_prefixes]
  decide

/-- One more operator, and a text that is accepted has a canonical text that is
not. -/
theorem not_parse_render_negations :
    let e := Expr.prefixes .not 128 (.identifier "a")
    parse (negations 128) = .ok e ∧ parse e.render = .error [.tooDeep] := by
  refine ⟨(parse_negations 128).trans (if_pos (by decide)), ?_⟩
  obtain ⟨c, hc, -, hn⟩ :=
    exists_derivation_render (wellFormed_prefixes .not 128 (e := .identifier "a") (by decide))
  rw [parse_derivation hc, hn, renderedNesting_prefixes]
  rfl

end StepCondition
