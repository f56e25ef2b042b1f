import StepCondition.Proofs.Expr.Rendering
import StepCondition.Proofs.Parser.Language

/-!
# The height of a tree

How high a tree is (`Expr.height`), and how high the trees of accepted texts get.
The levels of nesting that the parser counts end with the parentheses around a
part, and the operators of a chain after such a part count from one again. So
parentheses around chains make trees that are far higher than their texts are
nested.

* `Derivation.height_le_length`: no tree is higher than its text has tokens;
* `parse_tower`: accepted texts whose trees are as high as all their chains
  together.
-/

namespace StepCondition

mutual

/-- How many nodes there are on the longest way down a tree. -/
def Expr.height : Expr → Nat
  | .unary _ x => x.height + 1
  | .binary _ x y => max x.height y.height + 1
  | .call _ xs | .array xs => Expr.heightAll xs + 1
  | .integer _ | .string _ | .boolean _ | .regexp _ | .identifier _ => 1

/-- The height of the highest of some trees. -/
def Expr.heightAll : List Expr → Nat
  | [] => 0
  | x :: xs => max x.height (Expr.heightAll xs)

end

namespace Derivation

mutual

theorem height_le_length : {g : Phrase} → (c : Derivation g) → c.tree.height ≤ c.tokens.length
  | _, wrap _ c => c.height_le_length
  | _, chain _ _ l r => by
    have := l.height_le_length
    have := r.height_le_length
    simp only [tree, tokens, Expr.height, List.length_append, List.length_cons]
    omega
  | _, signed _ x => Nat.succ_le_succ x.height_le_length
  | _, accessSigned l r => by
    have := l.height_le_length
    have := r.height_le_length
    simp only [tree, tokens, Expr.height, List.length_append, List.length_cons]
    omega
  | _, integer .. | _, string _ | _, regexp _ | _, boolean _ | _, identifier _ => Nat.le_refl 1
  | _, call _ args => by
    have := heightAll_le_length args
    simp only [tree, tokens, Expr.height, List.length_append, List.length_cons]
    omega
  | _, group c => by
    have := c.height_le_length
    simp only [tree, tokens, List.length_append, List.length_cons]
    omega
  | _, array items => by
    have := heightAll_le_length items
    simp only [tree, tokens, Expr.height, List.length_append, List.length_cons]
    omega

theorem heightAll_le_length : (cs : List (Derivation .or)) →
    Expr.heightAll (trees cs) ≤ (tokensAll cs).length
  | [] => Nat.zero_le _
  | [c] => by
    have := c.height_le_length
    simp only [trees, Expr.heightAll, tokensAll]
    omega
  | c :: d :: cs => by
    have := c.height_le_length
    have := heightAll_le_length (d :: cs)
    rw [tokensAll_cons_cons, trees, Expr.heightAll, List.length_append, List.length_cons]
    omega

end

end Derivation

/-! ## Towers of chains -/

/-- A tree followed by `&& 1` a number of times. -/
def Expr.conjoin : Nat → Expr → Expr
  | 0, e => e
  | n + 1, e => .binary .and (conjoin n e) (.integer 1)

/-- Chains of `&& 1`, each around the next one in parentheses, around `1`. -/
def Expr.tower : List Nat → Expr
  | [] => .integer 1
  | n :: ns => conjoin n (tower ns)

/-- The text `&&1` a number of times, and what follows it. -/
def conjuncts : Nat → List Char → List Char
  | 0, rest => rest
  | n + 1, rest => '&' :: '&' :: '1' :: conjuncts n rest

/-- The text of a tower, and what follows it. -/
def towerText : List Nat → List Char → List Char
  | [], rest => '1' :: rest
  | n :: ns, rest => '(' :: towerText ns (')' :: conjuncts n rest)

/-- How deep the text of a tower is nested. -/
def towerNesting : List Nat → Nat
  | [] => 1
  | n :: ns => max (towerNesting ns + 1) (n + 2)

theorem Expr.one_le_height (e : Expr) : 1 ≤ e.height := by
  cases e <;> rw [height] <;> omega

theorem height_conjoin (n : Nat) (e : Expr) :
    (Expr.conjoin n e).height = e.height + n := by
  have h := e.one_le_height
  induction n with
  | zero => rfl
  | succ n ih =>
    simp only [Expr.conjoin, Expr.height, ih]
    omega

/-- A tower is as high as its chains together. -/
theorem height_tower (ns : List Nat) : (Expr.tower ns).height = ns.foldr (· + ·) 1 := by
  induction ns with
  | nil => rfl
  | cons n ns ih =>
    rw [Expr.tower, height_conjoin, ih, List.foldr_cons, Nat.add_comm]

theorem tokens_one {rest : List Char} (h : Token.EndsAt (.integer "1") rest) :
    tokens ('1' :: rest) = .integer "1" :: tokens rest :=
  tokens_written (t := .integer "1") (by decide) h

theorem endsAt_conjuncts (n : Nat) {rest : List Char} (h : Token.EndsAt (.integer "1") rest) :
    Token.EndsAt (.integer "1") (conjuncts n rest) := by
  cases n with
  | zero => exact h
  | succ n =>
    rintro _ ⟨⟩
    decide

theorem tokens_conjuncts (n : Nat) {rest : List Char} (h : Token.EndsAt (.integer "1") rest) :
    tokens (conjuncts n rest) =
      (List.replicate n [.and, .integer "1"]).flatten ++ tokens rest := by
  induction n with
  | zero => rfl
  | succ n ih =>
    have hand := tokens_symbol .and ('1' :: conjuncts n rest)
    rw [tokens_one (endsAt_conjuncts n h), ih] at hand
    rw [List.replicate_succ]
    exact hand

namespace Derivation

/-- A chain grows by `&& 1` a number of times. Only its length makes it nest
deeper. -/
theorem exists_conjoin (n : Nat) (c : Derivation .and) :
    ∃ d : Derivation .and, d.tokens = c.tokens ++ (List.replicate n [.and, .integer "1"]).flatten ∧
      d.tree = Expr.conjoin n c.tree ∧ d.folds = c.folds + n ∧
        d.nesting ≤ max c.nesting (c.folds + n + 2) := by
  induction n with
  | zero => exact ⟨c, (List.append_nil _).symm, rfl, rfl, Nat.le_max_left ..⟩
  | succ n ih =>
    obtain ⟨d, ht, he, hf, hn⟩ := ih
    obtain ⟨one, ho⟩ := (integer "1" 1 (by decide)).exists_comparison (by decide)
    refine ⟨chain .and .and d one, ?_, ?_, ?_, ?_⟩
    · rw [tokens, ht, ho.tokens, List.replicate_succ', List.flatten_concat, List.append_assoc]
      rfl
    · rw [tree, he, ho.tree]
      rfl
    · rw [folds, hf, Nat.add_assoc]
    · rw [nesting, ho.nesting, hf]
      change max d.nesting (c.folds + n + 2 + 1) ≤ _
      omega

/-- An operand with `&& 1` after it a number of times. -/
theorem exists_conjoin_primary (n : Nat) (c : Derivation .primary) :
    ∃ d : Derivation .or, d.tokens = c.tokens ++ (List.replicate n [.and, .integer "1"]).flatten ∧
      d.tree = Expr.conjoin n c.tree ∧ d.nesting ≤ max c.nesting (n + 2) := by
  obtain ⟨f, hf⟩ := c.exists_and (by decide)
  obtain ⟨d, ht, he, -, hn⟩ := exists_conjoin n f
  obtain ⟨g, hg⟩ := d.exists_or
  have hc : f.folds = 0 := hf.folds.trans (folds_primary c)
  refine ⟨g, ?_, ?_, ?_⟩
  · rw [hg.tokens, ht, hf.tokens]
  · rw [hg.tree, he, hf.tree]
  · rw [hg.nesting]
    rwa [hf.nesting, hc, Nat.zero_add] at hn

theorem exists_tower (ns : List Nat) :
    ∃ c : Derivation .or, c.tree = Expr.tower ns ∧ c.nesting ≤ towerNesting ns ∧
      ∀ rest, Token.EndsAt (.integer "1") rest →
        StepCondition.tokens (towerText ns rest) = c.tokens ++ StepCondition.tokens rest := by
  induction ns with
  | nil =>
    obtain ⟨c, hc⟩ := (integer "1" 1 (by decide)).exists_or
    refine ⟨c, hc.tree, hc.nesting.le, fun rest hr => ?_⟩
    rw [hc.tokens]
    exact tokens_one hr
  | cons n ns ih =>
    obtain ⟨c, he, hn, ht⟩ := ih
    obtain ⟨d, ht', he', hn'⟩ := exists_conjoin_primary n (group c)
    refine ⟨d, ?_, ?_, fun rest hr => ?_⟩
    · rw [he', tree, he]
      rfl
    · have hg : (group c).nesting = c.nesting + 1 := rfl
      rw [towerNesting]
      omega
    · have hp : Token.EndsAt (.integer "1") (')' :: conjuncts n rest) := by
        rintro _ ⟨⟩
        decide
      rw [towerText, tokens_leftParen, ht _ hp, tokens_rightParen, tokens_conjuncts n hr, ht',
        tokens]
      simp only [List.cons_append, List.append_assoc, List.nil_append]

end Derivation

/-- The text of a tower is accepted, however high the tower is, if no part of it
nests too deep. -/
theorem parse_tower {ns : List Nat} (h : towerNesting ns ≤ maxDepth) :
    parse (String.ofList (towerText ns [])) = .ok (Expr.tower ns) := by
  obtain ⟨c, he, hn, ht⟩ := Derivation.exists_tower ns
  have hc := ht [] nofun
  rw [tokens_nil, List.append_nil] at hc
  refine parse_eq_ok_iff.mpr ⟨c, ?_, he, hn.trans h⟩
  rw [String.toList_ofList, hc]

end StepCondition
