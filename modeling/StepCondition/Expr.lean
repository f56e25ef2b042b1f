import StepCondition.Text.Plain

/-!
# Condition trees

A condition is a tree of literals, names, operators, calls and arrays. Operators
of two operands have a precedence, which says how tightly they bind.
-/

namespace StepCondition

/-- Operators before their operand. -/
inductive UnaryOp where
  | not
  | negate
  deriving DecidableEq, Repr

/-- Operators between their operands. -/
inductive BinaryOp where
  | equal
  | notEqual
  | matching
  | notMatching
  | contains
  | and
  | or
  | access
  deriving DecidableEq, Repr

/-- How tightly an operator binds, loosest first. -/
inductive Precedence where
  | lowest
  | or
  | and
  | comparison
  | unary
  | access
  deriving DecidableEq, Repr

namespace Precedence

/-- The place of a precedence in the order. -/
def rank : Precedence → Nat
  | lowest => 0
  | or => 1
  | and => 2
  | comparison => 3
  | unary => 4
  | access => 5

instance : LT Precedence := ⟨fun p q => p.rank < q.rank⟩

instance (p q : Precedence) : Decidable (p < q) := inferInstanceAs (Decidable (p.rank < q.rank))

end Precedence

namespace UnaryOp

/-- The character that stands for an operator. -/
def symbol : UnaryOp → Char
  | not => '!'
  | negate => '-'

end UnaryOp

namespace BinaryOp

/-- The characters that stand for an operator. -/
def symbol : BinaryOp → List Char
  | equal => ['=', '=']
  | notEqual => ['!', '=']
  | matching => ['=', '~']
  | notMatching => ['!', '~']
  | contains => ['@', '>']
  | and => ['&', '&']
  | or => ['|', '|']
  | access => ['.']

/-- How tightly an operator binds. All comparisons bind alike. -/
def precedence : BinaryOp → Precedence
  | or => .or
  | and => .and
  | equal | notEqual | matching | notMatching | contains => .comparison
  | access => .access

end BinaryOp

/-- A condition. -/
inductive Expr where
  | integer (value : Int64)
  | string (text : String)
  | boolean (value : Bool)
  /-- A regular expression by its text, which need not be well formed. -/
  | regexp (pattern : String)
  /-- A name of the scope, or of a property on the right of an access. -/
  | identifier (name : String)
  | unary (op : UnaryOp) (operand : Expr)
  | binary (op : BinaryOp) (left right : Expr)
  | call (function : String) (args : List Expr)
  | array (items : List Expr)
  deriving Repr, Inhabited

/-! ## Equality -/

mutual

/-- Whether two trees are the same. -/
def Expr.same : Expr → Expr → Bool
  | .integer m, .integer n => m == n
  | .string s, .string t => s == t
  | .boolean b, .boolean c => b == c
  | .regexp p, .regexp q => p == q
  | .identifier m, .identifier n => m == n
  | .unary op x, .unary op' y => op == op' && x.same y
  | .binary op x y, .binary op' x' y' => op == op' && x.same x' && y.same y'
  | .call f xs, .call g ys => f == g && Expr.sameAll xs ys
  | .array xs, .array ys => Expr.sameAll xs ys
  | _, _ => false

/-- Whether two lists of trees are the same. -/
def Expr.sameAll : List Expr → List Expr → Bool
  | [], [] => true
  | x :: xs, y :: ys => x.same y && Expr.sameAll xs ys
  | _, _ => false

end

mutual

theorem Expr.same_self : ∀ e : Expr, e.same e = true
  | .integer _ | .string _ | .boolean _ | .regexp _ | .identifier _ => by simp [Expr.same]
  | .unary _ x => by simp [Expr.same, Expr.same_self x]
  | .binary _ x y => by simp [Expr.same, Expr.same_self x, Expr.same_self y]
  | .call _ xs => by simp [Expr.same, Expr.sameAll_self xs]
  | .array xs => by simp [Expr.same, Expr.sameAll_self xs]

theorem Expr.sameAll_self : ∀ es : List Expr, Expr.sameAll es es = true
  | [] => rfl
  | e :: es => by simp [Expr.sameAll, Expr.same_self e, Expr.sameAll_self es]

end

mutual

theorem Expr.eq_of_same : ∀ {d e : Expr}, d.same e = true → d = e
  | .integer _, e | .string _, e | .boolean _, e | .regexp _, e | .identifier _, e => by
    cases e <;> simp [Expr.same]
  | .unary _ x, e => by
    cases e <;> simp only [Expr.same, Bool.and_eq_true, beq_iff_eq, Bool.false_eq_true,
      false_implies]
    exact fun ⟨h, hx⟩ => h ▸ congrArg _ (Expr.eq_of_same hx)
  | .binary _ x y, e => by
    cases e <;> simp only [Expr.same, Bool.and_eq_true, beq_iff_eq, Bool.false_eq_true,
      false_implies]
    exact fun ⟨⟨h, hx⟩, hy⟩ => h ▸ congr (congrArg _ (Expr.eq_of_same hx)) (Expr.eq_of_same hy)
  | .call _ xs, e => by
    cases e <;> simp only [Expr.same, Bool.and_eq_true, beq_iff_eq, Bool.false_eq_true,
      false_implies]
    exact fun ⟨h, hx⟩ => h ▸ congrArg _ (Expr.eq_of_sameAll hx)
  | .array xs, e => by
    cases e <;> simp only [Expr.same, Bool.false_eq_true, false_implies]
    exact fun h => congrArg _ (Expr.eq_of_sameAll h)

theorem Expr.eq_of_sameAll : ∀ {ds es : List Expr}, Expr.sameAll ds es = true → ds = es
  | [], es => by cases es <;> simp [Expr.sameAll]
  | d :: ds, es => by
    cases es <;> simp only [Expr.sameAll, Bool.and_eq_true, Bool.false_eq_true, false_implies]
    exact fun ⟨h, hs⟩ => congr (congrArg _ (Expr.eq_of_same h)) (Expr.eq_of_sameAll hs)

end

instance : DecidableEq Expr := fun d e =>
  decidable_of_iff (d.same e = true) ⟨Expr.eq_of_same, fun h => h ▸ Expr.same_self d⟩

/-! ## Rendering -/

mutual

/-- The text of a tree: every operator in parentheses, an access without blanks,
a text in the double quotes unless it holds one, nothing escaped. -/
def Expr.chars : Expr → List Char
  | .integer n => Text.decimal n.toInt
  | .string s => if '"' ∈ s.toList then '\'' :: s.toList ++ ['\''] else '"' :: s.toList ++ ['"']
  | .boolean b => Text.truth b
  | .regexp p => '/' :: p.toList ++ ['/']
  | .identifier name => name.toList
  | .unary op x => '(' :: op.symbol :: x.chars ++ [')']
  | .binary .access x y => '(' :: x.chars ++ '.' :: y.chars ++ [')']
  | .binary op x y => '(' :: x.chars ++ ' ' :: op.symbol ++ ' ' :: y.chars ++ [')']
  | .call f xs => f.toList ++ '(' :: Expr.charsAll xs ++ [')']
  | .array xs => '[' :: Expr.charsAll xs ++ [']']

/-- The texts of trees with a comma and a blank between them. -/
def Expr.charsAll : List Expr → List Char
  | [] => []
  | [x] => x.chars
  | x :: xs => x.chars ++ ',' :: ' ' :: Expr.charsAll xs

end

/-- The canonical text of a tree. -/
def Expr.render (e : Expr) : String := String.ofList e.chars

end StepCondition
