import StepCondition.Proofs.Grammar
import StepCondition.Proofs.Token.Writing

/-!
# Reading a rendered tree

The canonical text of a tree (`Expr.chars`) puts every operator in parentheses. If
each literal and name of the tree can be written (`Expr.WellFormed`), its tokens
derive from the grammar as one primary with the same tree (`Derivation.Renders`),
and the levels of nesting that the text takes can be told from the tree
(`Expr.renderedNesting`): two for an operator before its operand, one for the left
and three for the right side of any other operator, one for a call or an array.

* `exists_derivation_render`: the derivation of a canonical text.
-/

namespace StepCondition

/-! ## Integers -/

theorem decimalValue_toDigits (n : Nat) : Text.decimalValue (Nat.toDigits 10 n) = n := by
  have h := Nat.ofDigitChars_ten_toDigits (n := n)
  rw [Nat.ofDigitChars_eq_foldl] at h
  simpa only [Text.decimalValue, Nat.mul_comm 10] using h

theorem decimal_of_nonneg {n : Int} (h : 0 ≤ n) :
    Text.decimal n = Nat.toDigits 10 n.natAbs := by
  rw [Text.decimal, if_neg (by omega)]

theorem admissible_decimal {n : Int} (h : 0 ≤ n) :
    (Token.integer (String.ofList (Text.decimal n))).Admissible := by
  rw [decimal_of_nonneg h]
  refine ⟨?_, ?_⟩ <;> rw [String.toList_ofList]
  · exact Nat.toDigits_ne_nil
  · exact List.all_eq_true.mpr fun c hc => Nat.isDigit_of_mem_toDigits (by decide) (by decide) hc

/-- The digits of an integer spell it. -/
theorem integerOfDigits?_decimal {n : Int64} (h : 0 ≤ n.toInt) :
    integerOfDigits? (String.ofList (Text.decimal n.toInt)) = some n := by
  have hv : ((n.toInt.natAbs : Nat) : Int) = n.toInt := Int.natAbs_of_nonneg h
  simp only [integerOfDigits?, String.toList_ofList, decimal_of_nonneg h, decimalValue_toDigits, hv,
    if_pos n.toInt_le, Int64.ofInt_toInt]

/-- An integer that digits spell is not negative. -/
theorem nonneg_of_integerOfDigits? {digits : String} {n : Int64}
    (h : integerOfDigits? digits = some n) : 0 ≤ n.toInt := by
  simp only [integerOfDigits?] at h
  split at h
  · rename_i hle
    rw [Int64.toInt_maxValue] at hle
    rw [← Option.some.inj h, Int64.toInt_ofInt_of_le (by omega) (by omega)]
    exact Int.natCast_nonneg _
  · cases h

/-! ## Trees that can be written -/

mutual

/-- Every literal and every name of a tree can be written. -/
def Expr.WellFormed : Expr → Prop
  | .integer n => 0 ≤ n.toInt
  | .string text => (Token.string text).Admissible
  | .regexp pattern => (Token.regexp pattern).Admissible
  | .boolean _ => True
  | .identifier name => IsName name
  | .unary _ x => x.WellFormed
  | .binary _ x y => x.WellFormed ∧ y.WellFormed
  | .call f xs => IsName f ∧ Expr.WellFormedAll xs
  | .array xs => Expr.WellFormedAll xs

/-- Every literal and every name of some trees can be written. -/
def Expr.WellFormedAll : List Expr → Prop
  | [] => True
  | x :: xs => x.WellFormed ∧ Expr.WellFormedAll xs

end

mutual

/-- How many levels of nesting the canonical text of a tree takes. -/
def Expr.renderedNesting : Expr → Nat
  | .unary _ x => 2 + x.renderedNesting
  | .binary _ x y => max (1 + x.renderedNesting) (3 + y.renderedNesting)
  | .call _ xs | .array xs => 1 + Expr.renderedNestingAll xs
  | _ => 1

/-- How many levels of nesting the deepest of some canonical texts takes. -/
def Expr.renderedNestingAll : List Expr → Nat
  | [] => 0
  | x :: xs => max x.renderedNesting (Expr.renderedNestingAll xs)

end

mutual

instance Expr.decidableWellFormed : (e : Expr) → Decidable e.WellFormed
  | .integer n => inferInstanceAs (Decidable (0 ≤ n.toInt))
  | .string text => inferInstanceAs (Decidable (Token.string text).Admissible)
  | .regexp pattern => inferInstanceAs (Decidable (Token.regexp pattern).Admissible)
  | .boolean _ => .isTrue trivial
  | .identifier name => inferInstanceAs (Decidable (IsName name))
  | .unary _ x => decidableWellFormed x
  | .binary _ x y =>
    have := decidableWellFormed x
    have := decidableWellFormed y
    inferInstanceAs (Decidable (_ ∧ _))
  | .call f xs =>
    have := decidableWellFormedAll xs
    inferInstanceAs (Decidable (IsName f ∧ _))
  | .array xs => decidableWellFormedAll xs

instance Expr.decidableWellFormedAll : (es : List Expr) → Decidable (Expr.WellFormedAll es)
  | [] => .isTrue trivial
  | x :: xs =>
    have := decidableWellFormed x
    have := decidableWellFormedAll xs
    inferInstanceAs (Decidable (_ ∧ _))

end

/-! ## Pieces of a canonical text -/

/-- A text does not start with a character that goes on with a name. -/
def EndsName (cs : List Char) : Prop := ∀ c ∈ cs.head?, continuesName c = false

theorem endsName_nil : EndsName [] := nofun

theorem endsName_cons {c : Char} (h : continuesName c = false) (cs : List Char) :
    EndsName (c :: cs) := by
  rintro _ ⟨⟩
  exact h

theorem endsName_rightParen (cs : List Char) : EndsName (')' :: cs) := endsName_cons (by decide) cs

theorem tokens_token {t : Token} (h : t.Admissible) (ht : ∀ c, t.takes c = false)
    (cs : List Char) : tokens (t.written ++ cs) = t :: tokens cs :=
  tokens_written h fun c _ => ht c

section Symbols

variable (cs : List Char)

@[simp] theorem tokens_leftParen : tokens ('(' :: cs) = .leftParen :: tokens cs :=
  tokens_token (t := .leftParen) trivial (fun _ => rfl) cs

@[simp] theorem tokens_rightParen : tokens (')' :: cs) = .rightParen :: tokens cs :=
  tokens_token (t := .rightParen) trivial (fun _ => rfl) cs

@[simp] theorem tokens_leftBracket : tokens ('[' :: cs) = .leftBracket :: tokens cs :=
  tokens_token (t := .leftBracket) trivial (fun _ => rfl) cs

@[simp] theorem tokens_rightBracket : tokens (']' :: cs) = .rightBracket :: tokens cs :=
  tokens_token (t := .rightBracket) trivial (fun _ => rfl) cs

@[simp] theorem tokens_comma : tokens (',' :: cs) = .comma :: tokens cs :=
  tokens_token (t := .comma) trivial (fun _ => rfl) cs

@[simp] theorem tokens_space : tokens (' ' :: cs) = tokens cs := tokens_layout (by decide) cs

end Symbols

/-- The blank around an operator in a canonical text. -/
def BinaryOp.blank : BinaryOp → List Char
  | access => []
  | _ => [' ']

theorem chars_binary (op : BinaryOp) (x y : Expr) :
    (Expr.binary op x y).chars =
      '(' :: (x.chars ++ (op.blank ++ (op.symbol ++ (op.blank ++ (y.chars ++ [')']))))) := by
  cases op <;> simp [Expr.chars, BinaryOp.blank, BinaryOp.symbol]

theorem tokens_blank (op : BinaryOp) (cs : List Char) : tokens (op.blank ++ cs) = tokens cs := by
  cases op <;> first | rfl | exact tokens_layout (by decide) cs

theorem endsName_blank (op : BinaryOp) (cs : List Char) :
    EndsName (op.blank ++ (op.symbol ++ cs)) := by
  cases op <;> exact endsName_cons (by decide) _

theorem tokens_symbol (op : BinaryOp) (cs : List Char) :
    tokens (op.symbol ++ cs) = op.token :: tokens cs := by
  have hw : op.token.written = op.symbol := by cases op <;> rfl
  rw [← hw]
  exact tokens_token (by cases op <;> trivial) (by cases op <;> exact fun _ => rfl) cs

/-! ## Leaves -/

/-- The tokens of the trees that one token stands for. -/
inductive Expr.WrittenAs : Expr → Token → Prop where
  | integer (n : Int64) :
    WrittenAs (.integer n) (.integer (String.ofList (Text.decimal n.toInt)))
  | string (text : String) : WrittenAs (.string text) (.string text)
  | boolean (b : Bool) : WrittenAs (.boolean b) (.boolean b)
  | regexp (pattern : String) : WrittenAs (.regexp pattern) (.regexp pattern)
  | identifier (name : String) : WrittenAs (.identifier name) (.identifier name)

namespace Expr.WrittenAs

variable {e : Expr} {t : Token}

theorem chars_eq (h : e.WrittenAs t) : e.chars = t.written := by
  cases h with
  | integer n => exact (String.toList_ofList ..).symm
  | string text =>
    rw [Expr.chars, Token.written, Token.quote]
    split <;> rfl
  | _ => rfl

theorem admissible (h : e.WrittenAs t) (he : e.WellFormed) : t.Admissible := by
  cases h with
  | integer n => exact admissible_decimal he
  | boolean => trivial
  | _ => exact he

/-- Where a name ends, every leaf does. -/
theorem endsAt (h : e.WrittenAs t) {rest : List Char} (hr : EndsName rest) : t.EndsAt rest := by
  cases h with
  | integer n =>
    intro c hc
    have := hr c hc
    exact Bool.eq_false_iff.mpr fun hd => by rw [continuesName_of_isDigit hd] at this; cases this
  | boolean | identifier => exact hr
  | string | regexp => exact fun _ _ => rfl

theorem exists_derivation (h : e.WrittenAs t) (he : e.WellFormed) :
    ∃ c : Derivation .primary, c.tokens = [t] ∧ c.tree = e ∧ c.nesting = e.renderedNesting := by
  cases h with
  | integer n => exact ⟨.integer _ n (integerOfDigits?_decimal he), rfl, rfl, rfl⟩
  | string text => exact ⟨.string text, rfl, rfl, rfl⟩
  | boolean b => exact ⟨.boolean b, rfl, rfl, rfl⟩
  | regexp pattern => exact ⟨.regexp pattern, rfl, rfl, rfl⟩
  | identifier name => exact ⟨.identifier name, rfl, rfl, rfl⟩

theorem exists_chars_cons (h : e.WrittenAs t) (he : e.WellFormed) :
    ∃ c cs, e.chars = c :: cs ∧ Token.takes .bang c = false := by
  rw [h.chars_eq]
  exact Token.exists_written_cons (h.admissible he) (by cases h <;> exact nofun)
    (by cases h <;> exact nofun)

end Expr.WrittenAs

/-- A canonical text starts with none of the characters that `!` takes. -/
theorem exists_chars_cons {e : Expr} (h : e.WellFormed) :
    ∃ c cs, e.chars = c :: cs ∧ Token.takes .bang c = false := by
  cases e with
  | integer n => exact Expr.WrittenAs.exists_chars_cons (.integer n) h
  | string text => exact Expr.WrittenAs.exists_chars_cons (.string text) h
  | boolean b => exact Expr.WrittenAs.exists_chars_cons (.boolean b) h
  | regexp pattern => exact Expr.WrittenAs.exists_chars_cons (.regexp pattern) h
  | identifier name => exact Expr.WrittenAs.exists_chars_cons (.identifier name) h
  | call f xs =>
    obtain ⟨c, cs, hc, ht⟩ := Token.exists_written_cons (t := .identifier f) h.1 nofun nofun
    refine ⟨c, cs ++ '(' :: Expr.charsAll xs ++ [')'], ?_, ht⟩
    rw [Expr.chars, show f.toList = c :: cs from hc]
    rfl
  | unary op x => exact ⟨_, _, rfl, by decide⟩
  | binary op x y => exact ⟨_, _, chars_binary op x y, by decide⟩
  | array xs => exact ⟨_, _, rfl, by decide⟩

/-! ## The derivation of a canonical text -/

/-- A derivation is the one of the canonical text of a tree, whatever follows the
text without going on with a name. -/
structure Derivation.Renders {g : Phrase} (c : Derivation g) (e : Expr) : Prop where
  tree : c.tree = e
  nesting : c.nesting = e.renderedNesting
  tokens : ∀ rest, EndsName rest →
    StepCondition.tokens (e.chars ++ rest) = c.tokens ++ StepCondition.tokens rest

/-- Derivations are those of the canonical texts of trees. -/
structure Derivation.RendersAll (cs : List (Derivation .or)) (es : List Expr) : Prop where
  trees : Derivation.trees cs = es
  nesting : Derivation.nestingAll cs = Expr.renderedNestingAll es
  tokens : ∀ rest, EndsName rest →
    StepCondition.tokens (Expr.charsAll es ++ rest) =
      Derivation.tokensAll cs ++ StepCondition.tokens rest

namespace Derivation

variable {x y : Expr}

theorem Alike.renders {g h : Phrase} {c : Derivation g} {d : Derivation h} (ha : Alike d c)
    (hc : c.Renders x) : d.Renders x where
  tree := ha.tree.trans hc.tree
  nesting := ha.nesting.trans hc.nesting
  tokens rest hr := by rw [ha.tokens]; exact hc.tokens rest hr

theorem folds_primary : (c : Derivation .primary) → c.folds = 0
  | integer .. | string _ | regexp _ | boolean _ | identifier _ | call .. | group _ | array _ => rfl

theorem exists_renders_leaf {t : Token} (h : x.WrittenAs t) (hx : x.WellFormed) :
    ∃ c : Derivation .primary, c.Renders x := by
  obtain ⟨c, hc, ht, hn⟩ := h.exists_derivation hx
  refine ⟨c, ht, hn, fun rest hr => ?_⟩
  rw [h.chars_eq, tokens_written (h.admissible hx) (h.endsAt hr), hc]
  rfl

/-- An operator before its operand, in parentheses. -/
theorem exists_renders_unary (op : UnaryOp) (hx : x.WellFormed) {c : Derivation .primary}
    (hc : c.Renders x) : ∃ d : Derivation .primary, d.Renders (.unary op x) := by
  obtain ⟨c', ha⟩ := c.exists_unary (by decide)
  obtain ⟨d, hd⟩ := (signed op c').exists_or
  have hx' := ha.renders hc
  refine ⟨group d, ?_, ?_, fun rest hr => ?_⟩
  · rw [tree, hd.tree, tree, hx'.tree]
  · rw [nesting, hd.nesting, nesting, hx'.nesting, Expr.renderedNesting]
    omega
  · obtain ⟨a, as, hw, hb⟩ := exists_chars_cons hx
    have hop : StepCondition.tokens (op.symbol :: (x.chars ++ ')' :: rest)) =
        op.token :: StepCondition.tokens (x.chars ++ ')' :: rest) := by
      cases op with
      | not =>
        refine tokens_written (t := .bang) trivial ?_
        rw [hw]
        rintro _ ⟨⟩
        exact hb
      | negate => exact tokens_token (t := .minus) trivial (fun _ => rfl) _
    simp only [Expr.chars, List.cons_append, List.append_assoc, List.nil_append, tokens_leftParen,
      hop, hx'.tokens _ (endsName_rightParen rest), tokens_rightParen, tokens, hd.tokens]

/-- An operator between its operands, in parentheses. -/
theorem exists_renders_binary (op : BinaryOp) {c d : Derivation .primary} (hc : c.Renders x)
    (hd : d.Renders y) : ∃ f : Derivation .primary, f.Renders (.binary op x y) := by
  obtain ⟨g, f, hf⟩ := exists_joins op c (by cases op <;> decide) d (by cases op <;> decide)
  obtain ⟨f', hf'⟩ := f.exists_or
  refine ⟨group f', ?_, ?_, fun rest hr => ?_⟩
  · rw [tree, hf'.tree, hf.tree, hc.tree, hd.tree]
  · rw [nesting, hf'.nesting, hf.nesting, folds_primary, hc.nesting, hd.nesting,
      Expr.renderedNesting]
    omega
  · simp only [chars_binary, List.cons_append, List.append_assoc, List.nil_append, tokens_leftParen,
      hc.tokens _ (endsName_blank op _), tokens_blank, tokens_symbol,
      hd.tokens _ (endsName_rightParen rest), tokens_rightParen, tokens, hf'.tokens, hf.tokens]

/-- One more item in front of others. -/
theorem RendersAll.cons {c : Derivation .or} {cs : List (Derivation .or)} {es : List Expr}
    (hc : c.Renders x) (hcs : RendersAll cs es) : RendersAll (c :: cs) (x :: es) where
  trees := by rw [Derivation.trees, hc.tree, hcs.trees]
  nesting := by rw [nestingAll, hc.nesting, hcs.nesting, Expr.renderedNestingAll]
  tokens rest hr := by
    obtain ⟨rfl, -, ht⟩ := hcs
    cases cs with
    | nil => exact hc.tokens rest hr
    | cons d ds =>
      have hi := hc.tokens (',' :: ' ' :: (Expr.charsAll (Derivation.trees (d :: ds)) ++ rest))
        (endsName_cons (by decide) _)
      simp only [Derivation.trees, Expr.charsAll, List.append_assoc, List.cons_append, tokens_comma,
        tokens_space] at hi ht ⊢
      rw [hi, ht rest hr, tokensAll_cons_cons, List.append_assoc, List.cons_append]

theorem exists_renders_call {f : String} (hf : IsName f) {cs : List (Derivation .or)}
    {es : List Expr} (hcs : RendersAll cs es) :
    ∃ c : Derivation .primary, c.Renders (.call f es) := by
  refine ⟨call f cs, ?_, ?_, fun rest hr => ?_⟩
  · rw [tree, hcs.trees]
  · rw [nesting, hcs.nesting, Expr.renderedNesting, Nat.add_comm]
  · have hn := tokens_written (t := .identifier f) hf
      (endsName_cons (by decide) (Expr.charsAll es ++ ')' :: rest) : EndsName ('(' :: _))
    simp only [Token.written, Token.spelling] at hn
    simp only [Expr.chars, List.cons_append, List.append_assoc, List.nil_append, hn,
      tokens_leftParen, hcs.tokens _ (endsName_rightParen rest), tokens_rightParen, tokens]

theorem exists_renders_array {cs : List (Derivation .or)} {es : List Expr}
    (hcs : RendersAll cs es) : ∃ c : Derivation .primary, c.Renders (.array es) := by
  refine ⟨array cs, ?_, ?_, fun rest hr => ?_⟩
  · rw [tree, hcs.trees]
  · rw [nesting, hcs.nesting, Expr.renderedNesting, Nat.add_comm]
  · simp only [Expr.chars, List.cons_append, List.append_assoc, List.nil_append,
      tokens_leftBracket, hcs.tokens (']' :: rest) (endsName_cons (by decide) rest),
      tokens_rightBracket, tokens]

mutual

/-- The canonical text of a well-formed tree derives from the grammar as a
primary. -/
theorem exists_renders : (e : Expr) → e.WellFormed → ∃ c : Derivation .primary, c.Renders e
  | .integer n, h => exists_renders_leaf (.integer n) h
  | .string text, h => exists_renders_leaf (.string text) h
  | .boolean b, h => exists_renders_leaf (.boolean b) h
  | .regexp pattern, h => exists_renders_leaf (.regexp pattern) h
  | .identifier name, h => exists_renders_leaf (.identifier name) h
  | .unary op x, h =>
    let ⟨_, hc⟩ := exists_renders x h
    exists_renders_unary op h hc
  | .binary op x y, h =>
    let ⟨_, hc⟩ := exists_renders x h.1
    let ⟨_, hd⟩ := exists_renders y h.2
    exists_renders_binary op hc hd
  | .call _ xs, h =>
    let ⟨_, hcs⟩ := exists_rendersAll xs h.2
    exists_renders_call h.1 hcs
  | .array xs, h =>
    let ⟨_, hcs⟩ := exists_rendersAll xs h
    exists_renders_array hcs

theorem exists_rendersAll : (es : List Expr) → Expr.WellFormedAll es → ∃ cs, RendersAll cs es
  | [], _ => ⟨[], rfl, rfl, fun _ _ => rfl⟩
  | x :: xs, h =>
    let ⟨c, hc⟩ := exists_renders x h.1
    let ⟨d, ha⟩ := c.exists_or
    let ⟨ds, hds⟩ := exists_rendersAll xs h.2
    ⟨d :: ds, .cons (ha.renders hc) hds⟩

end

end Derivation

/-- The canonical text of a well-formed tree is a condition. -/
theorem exists_derivation_render {e : Expr} (h : e.WellFormed) :
    ∃ c : Derivation .or, c.tokens = tokens e.render.toList ∧ c.tree = e ∧
      c.nesting = e.renderedNesting := by
  obtain ⟨c, hc⟩ := Derivation.exists_renders e h
  obtain ⟨d, hd⟩ := c.exists_or
  have hr := hd.renders hc
  have ht := hr.tokens [] endsName_nil
  rw [List.append_nil, tokens_nil, List.append_nil] at ht
  refine ⟨d, ?_, hr.tree, hr.nesting⟩
  rw [← ht, Expr.render, String.toList_ofList]

end StepCondition
