import StepCondition.Expr.Parser

/-!
# The grammar of conditions

Which rows of tokens are conditions, and the tree of each, without a parser. The
phrases of the grammar (`Phrase`) are built by the rules

    or         := and ('||' and)*
    and        := comparison ('&&' comparison)*
    comparison := unary (('==' | '!=' | '=~' | '!~' | '@>') unary)*
    unary      := signed | access
    signed     := ('!' | '-') unary
    access     := path ['.' signed]
    path       := primary ('.' primary)*
    primary    := integer | string | regexp | boolean | identifier
                | identifier '(' [or (',' or)*] ')' | '(' or ')' | '[' [or (',' or)*] ']'

where an integer has to fit 64 bits. A derivation (`Derivation`) is one way to
build a phrase. It has the tokens that it spells and the tree that it stands for,
in which every chain is folded to the left; `Derives` says that some derivation
has given tokens and a given tree. A derivation also has a price in levels of
nesting (`Derivation.nesting`), which is what a limit on nesting counts.

* `Derivation.exists_joins`: two phrases around an operator make a phrase, whenever the
  operator binds no tighter than what may follow the left one and the right one
  holds tighter operators only.
-/

namespace StepCondition

/-! ## Phrases -/

/-- The phrases of the grammar, loosest first. -/
inductive Phrase where
  | or
  | and
  | comparison
  | unary
  | signed
  | access
  | path
  | primary
  deriving DecidableEq, Repr

/-- The operators that compare. -/
def comparisons : List BinaryOp := [.equal, .notEqual, .matching, .notMatching, .contains]

namespace Phrase

/-- `g.Wraps h`: a phrase `h` by itself is a phrase `g`. -/
inductive Wraps : Phrase → Phrase → Prop where
  | or : Wraps .or .and
  | and : Wraps .and .comparison
  | comparison : Wraps .comparison .unary
  | signed : Wraps .unary .signed
  | unary : Wraps .unary .access
  | access : Wraps .access .path
  | path : Wraps .path .primary

/-- `g.Chains op h`: a phrase `g` goes on with the operator `op` and a phrase
`h`. -/
inductive Chains : Phrase → BinaryOp → Phrase → Prop where
  | or : Chains .or .or .and
  | and : Chains .and .and .comparison
  | comparison {op : BinaryOp} (h : op ∈ comparisons) : Chains .comparison op .unary
  | access : Chains .path .access .primary

/-- The loosest operator that a phrase can hold outside its operands. -/
def loosest : Phrase → Option Precedence
  | or => some .or
  | and => some .and
  | comparison => some .comparison
  | unary | access | path => some .access
  | signed | primary => none

/-- All operators of a phrase bind tighter than a precedence. -/
def TighterThan (g : Phrase) (q : Precedence) : Prop := ∀ r ∈ g.loosest, q < r

instance (g : Phrase) (q : Precedence) : Decidable (g.TighterThan q) :=
  inferInstanceAs (Decidable (∀ r ∈ g.loosest, q < r))

/-- The tightest operator that can follow a phrase without becoming part of it or
of its last operand. -/
def level : Phrase → Precedence
  | or => .or
  | and => .and
  | comparison => .comparison
  | unary | signed | access => .unary
  | path | primary => .access

theorem TighterThan.of_loosest {g : Phrase} {q r : Precedence} (h : g.loosest = some r)
    (hq : q < r) : g.TighterThan q := fun _ hr => by
  rw [h] at hr
  cases hr
  exact hq

theorem TighterThan.of_le {g : Phrase} {q r : Precedence} (h : g.TighterThan q) (hr : ¬ q < r) :
    g.TighterThan r := fun s hs => Nat.lt_of_le_of_lt (Nat.le_of_not_lt hr) (h s hs)

theorem Wraps.tighterThan {g h : Phrase} (k : g.Wraps h) {q : Precedence}
    (hg : g.TighterThan q) : h.TighterThan q := by
  cases k <;> cases q <;> revert hg <;> decide

theorem Wraps.level_le {g h : Phrase} (k : g.Wraps h) : ¬ h.level < g.level := by
  cases k <;> decide

theorem precedence_of_mem {op : BinaryOp} (h : op ∈ comparisons) : op.precedence = .comparison := by
  cases op <;> first | rfl | exact absurd h (by decide)

theorem Chains.loosest_eq {g h : Phrase} {op : BinaryOp} (k : g.Chains op h) :
    g.loosest = some op.precedence := by
  cases k with
  | comparison hc => exact congrArg some (precedence_of_mem hc).symm
  | _ => rfl

theorem Chains.lt_precedence {g h : Phrase} {op : BinaryOp} (k : g.Chains op h) {q : Precedence}
    (hg : g.TighterThan q) : q < op.precedence :=
  hg _ k.loosest_eq

theorem Chains.right_tighterThan {g h : Phrase} {op : BinaryOp} (k : g.Chains op h) :
    h.TighterThan op.precedence := by
  cases k with
  | comparison hc => rw [precedence_of_mem hc]; decide
  | _ => decide

theorem Chains.level_eq {g h : Phrase} {op : BinaryOp} (k : g.Chains op h) :
    g.level = op.precedence := by
  cases k with
  | comparison hc => exact (precedence_of_mem hc).symm
  | _ => rfl

theorem Chains.right_level_le {g h : Phrase} {op : BinaryOp} (k : g.Chains op h) :
    ¬ h.level < g.level := by
  cases k <;> decide

end Phrase

/-! ## What may follow -/

/-- The first of some tokens is no operator that binds tighter than a
precedence. -/
def Stops (q : Precedence) (ts : List Token) : Prop :=
  ∀ op, ts.head?.bind Token.binaryOp? = some op → ¬ q < op.precedence

theorem Precedence.lt_of_not_lt {p q r : Precedence} (h : ¬ q < p) (hr : q < r) : p < r :=
  Nat.lt_of_le_of_lt (Nat.le_of_not_lt h) hr

theorem Stops.of_le {q r : Precedence} {ts : List Token} (h : Stops q ts) (hqr : ¬ r < q) :
    Stops r ts := fun op ho hr => h op ho (Precedence.lt_of_not_lt hqr hr)

theorem stops_access (ts : List Token) : Stops .access ts := fun op _ => by
  cases op <;> decide

theorem stops_nil (q : Precedence) : Stops q [] := fun _ h => by cases h

/-- The token for an operator before its operand. -/
def UnaryOp.token : UnaryOp → Token
  | not => .bang
  | negate => .minus

/-- The token for an operator between its operands. -/
def BinaryOp.token : BinaryOp → Token
  | equal => .equal
  | notEqual => .notEqual
  | matching => .matching
  | notMatching => .notMatching
  | contains => .contains
  | and => .and
  | or => .or
  | access => .dot

@[simp] theorem binaryOp?_token (op : BinaryOp) : op.token.binaryOp? = some op := by
  cases op <;> rfl

theorem eq_token_of_binaryOp? {t : Token} {op : BinaryOp} (h : t.binaryOp? = some op) :
    t = op.token := by
  cases t <;> cases h <;> rfl

/-- An operator stops a reading that asks for operators at least as tight. -/
theorem stops_token {q : Precedence} {op : BinaryOp} (h : ¬ q < op.precedence) (ts : List Token) :
    Stops q (op.token :: ts) := fun op' h' => by
  simp only [List.head?_cons, Option.bind_some, binaryOp?_token, Option.some.injEq] at h'
  exact h' ▸ h

/-- A token that is no operator stops every reading. -/
theorem stops_of_binaryOp? {t : Token} (h : t.binaryOp? = none) (q : Precedence) (ts : List Token) :
    Stops q (t :: ts) := fun op h' => by
  simp [h] at h'

/-! ## Derivations -/

/-- The ways to build a phrase. -/
inductive Derivation : Phrase → Type where
  | wrap {g h : Phrase} (k : g.Wraps h) (inner : Derivation h) : Derivation g
  | chain {g h : Phrase} (op : BinaryOp) (k : g.Chains op h) (left : Derivation g)
    (right : Derivation h) : Derivation g
  | signed (op : UnaryOp) (operand : Derivation .unary) : Derivation .signed
  | accessSigned (left : Derivation .path) (right : Derivation .signed) : Derivation .access
  | integer (digits : String) (n : Int64) (h : integerOfDigits? digits = some n) :
    Derivation .primary
  | string (text : String) : Derivation .primary
  | regexp (pattern : String) : Derivation .primary
  | boolean (b : Bool) : Derivation .primary
  | identifier (name : String) : Derivation .primary
  | call (name : String) (args : List (Derivation .or)) : Derivation .primary
  | group (inner : Derivation .or) : Derivation .primary
  | array (items : List (Derivation .or)) : Derivation .primary

namespace Derivation

mutual

/-- The tokens that a derivation spells. -/
def tokens : {g : Phrase} → Derivation g → List Token
  | _, wrap _ c => c.tokens
  | _, chain op _ l r => l.tokens ++ op.token :: r.tokens
  | _, signed op x => op.token :: x.tokens
  | _, accessSigned l r => l.tokens ++ .dot :: r.tokens
  | _, integer digits _ _ => [.integer digits]
  | _, string text => [.string text]
  | _, regexp pattern => [.regexp pattern]
  | _, boolean b => [.boolean b]
  | _, identifier name => [.identifier name]
  | _, call name args => .identifier name :: .leftParen :: tokensAll args ++ [.rightParen]
  | _, group c => .leftParen :: c.tokens ++ [.rightParen]
  | _, array items => .leftBracket :: tokensAll items ++ [.rightBracket]

/-- The tokens of items with a comma between them. -/
def tokensAll : List (Derivation .or) → List Token
  | [] => []
  | [c] => c.tokens
  | c :: cs => c.tokens ++ .comma :: tokensAll cs

end

mutual

/-- The tree that a derivation stands for. Parentheses leave no trace in it. -/
def tree : {g : Phrase} → Derivation g → Expr
  | _, wrap _ c => c.tree
  | _, chain op _ l r => .binary op l.tree r.tree
  | _, signed op x => .unary op x.tree
  | _, accessSigned l r => .binary .access l.tree r.tree
  | _, integer _ n _ => .integer n
  | _, string text => .string text
  | _, regexp pattern => .regexp pattern
  | _, boolean b => .boolean b
  | _, identifier name => .identifier name
  | _, call name args => .call name (trees args)
  | _, group c => c.tree
  | _, array items => .array (trees items)

/-- The trees of items. -/
def trees : List (Derivation .or) → List Expr
  | [] => []
  | c :: cs => c.tree :: trees cs

end

/-- How many operators the chain of a phrase has. -/
def folds : {g : Phrase} → Derivation g → Nat
  | _, wrap _ c => c.folds
  | _, chain _ _ l _ => l.folds + 1
  | _, accessSigned l _ => l.folds + 1
  | _, _ => 0

mutual

/-- How many levels of nesting a phrase takes. An operand is one level deeper than
what it stands in. So is every operator of a chain than the one before it, and
its right operand is one level deeper again. -/
def nesting : {g : Phrase} → Derivation g → Nat
  | _, wrap _ c => c.nesting
  | _, chain _ _ l r => max l.nesting (l.folds + 2 + r.nesting)
  | _, signed _ x => x.nesting + 1
  | _, accessSigned l r => max l.nesting (l.folds + 2 + r.nesting)
  | _, call _ args => nestingAll args + 1
  | _, group c => c.nesting + 1
  | _, array items => nestingAll items + 1
  | _, _ => 1

/-- How many levels of nesting the deepest of some items takes. -/
def nestingAll : List (Derivation .or) → Nat
  | [] => 0
  | c :: cs => max c.nesting (nestingAll cs)

end

theorem tokensAll_cons_cons (c d : Derivation .or) (cs : List (Derivation .or)) :
    tokensAll (c :: d :: cs) = c.tokens ++ .comma :: tokensAll (d :: cs) := by
  rw [tokensAll]
  exact List.cons_ne_nil d cs

theorem tokensAll_cons (c : Derivation .or) (cs : List (Derivation .or)) :
    tokensAll (c :: cs) = c.tokens ++ cs.flatMap fun d => .comma :: d.tokens := by
  induction cs generalizing c with
  | nil => simp [tokensAll]
  | cons d cs ih => rw [tokensAll_cons_cons, ih, List.flatMap_cons, List.cons_append]

theorem trees_eq_map (cs : List (Derivation .or)) : trees cs = cs.map tree := by
  induction cs with
  | nil => rfl
  | cons c cs ih => rw [trees, ih, List.map_cons]

theorem nesting_pos : {g : Phrase} → (c : Derivation g) → 0 < c.nesting
  | _, wrap _ c => nesting_pos c
  | _, chain _ _ l _ | _, accessSigned l _ => by rw [nesting]; have := nesting_pos l; omega
  | _, signed _ _ | _, call _ _ | _, group _ | _, array _ => by rw [nesting]; omega
  | _, integer _ _ _ | _, string _ | _, regexp _ | _, boolean _ | _, identifier _ => Nat.one_pos
termination_by structural _ c => c

/-! ## Phrases as other phrases -/

/-- Two derivations spell the same tokens, stand for the same tree and take the
same room. -/
structure Alike {g h : Phrase} (c : Derivation g) (d : Derivation h) : Prop where
  tokens : c.tokens = d.tokens
  tree : c.tree = d.tree
  folds : c.folds = d.folds
  nesting : c.nesting = d.nesting

variable {f g h : Phrase}

theorem Alike.refl (c : Derivation g) : Alike c c := ⟨rfl, rfl, rfl, rfl⟩

theorem Alike.wrap {c : Derivation g} {d : Derivation h} (hc : Alike c d) (k : f.Wraps g) :
    Alike (.wrap k c) d := ⟨hc.tokens, hc.tree, hc.folds, hc.nesting⟩

theorem exists_unary (c : Derivation g) (hg : g.TighterThan .comparison) :
    ∃ d : Derivation .unary, Alike d c := by
  cases g with
  | or | and | comparison => exact absurd hg (by decide)
  | unary => exact ⟨c, .refl c⟩
  | signed => exact ⟨_, (Alike.refl c).wrap .signed⟩
  | access => exact ⟨_, (Alike.refl c).wrap .unary⟩
  | path => exact ⟨_, ((Alike.refl c).wrap .access).wrap .unary⟩
  | primary => exact ⟨_, (((Alike.refl c).wrap .path).wrap .access).wrap .unary⟩

theorem exists_comparison (c : Derivation g) (hg : g.TighterThan .and) :
    ∃ d : Derivation .comparison, Alike d c := by
  cases g with
  | or | and => exact absurd hg (by decide)
  | comparison => exact ⟨c, .refl c⟩
  | _ =>
    obtain ⟨d, hd⟩ := c.exists_unary (by decide)
    exact ⟨_, hd.wrap .comparison⟩

theorem exists_and (c : Derivation g) (hg : g.TighterThan .or) :
    ∃ d : Derivation .and, Alike d c := by
  cases g with
  | or => exact absurd hg (by decide)
  | and => exact ⟨c, .refl c⟩
  | _ =>
    obtain ⟨d, hd⟩ := c.exists_comparison (by decide)
    exact ⟨_, hd.wrap .and⟩

/-- Every phrase is a whole condition. -/
theorem exists_or (c : Derivation g) : ∃ d : Derivation .or, Alike d c := by
  cases g with
  | or => exact ⟨c, .refl c⟩
  | _ =>
    obtain ⟨d, hd⟩ := c.exists_and (by decide)
    exact ⟨_, hd.wrap .or⟩

/-- A phrase that an access may follow is a path. -/
theorem exists_path (c : Derivation g) (hg : ¬ g.level < .access) :
    ∃ d : Derivation .path, Alike d c := by
  cases g with
  | path => exact ⟨c, .refl c⟩
  | primary => exact ⟨_, (Alike.refl c).wrap .path⟩
  | _ => exact absurd (by decide) hg

/-! ## Phrases around an operator -/

/-- A derivation puts an operator between two others. -/
structure Joins (op : BinaryOp) (l : Derivation g) (r : Derivation h) (c : Derivation f) :
    Prop where
  tokens : c.tokens = l.tokens ++ op.token :: r.tokens
  tree : c.tree = .binary op l.tree r.tree
  nesting : c.nesting = max l.nesting (l.folds + 2 + r.nesting)
  tighterThan : ∀ q, q < op.precedence → f.TighterThan q
  stops : ∀ rest, Stops h.level rest → Stops op.precedence rest → Stops f.level rest

theorem joins_chain {g' h' : Phrase} {op : BinaryOp} (k : f.Chains op g) {l : Derivation g'}
    {r : Derivation h'} {l' : Derivation f} {r' : Derivation g} (hl : Alike l' l)
    (hr : Alike r' r) : Joins op l r (.chain op k l' r') where
  tokens := by rw [← hl.tokens, ← hr.tokens]; rfl
  tree := by rw [← hl.tree, ← hr.tree]; rfl
  nesting := by rw [← hl.nesting, ← hl.folds, ← hr.nesting]; rfl
  tighterThan _ hq := .of_loosest k.loosest_eq hq
  stops _ _ hs := by rw [k.level_eq]; exact hs

/-- Two phrases around an operator make a phrase. The operator may follow the left
one, and those of the right one bind tighter than it. -/
theorem exists_joins (op : BinaryOp) (l : Derivation g) (hl : ¬ g.level < op.precedence)
    (r : Derivation h) (hr : h.TighterThan op.precedence) :
    ∃ (f : Phrase) (c : Derivation f), Joins op l r c := by
  by_cases hc : op ∈ comparisons
  · have hp := Phrase.precedence_of_mem hc
    rw [hp] at hl hr
    obtain ⟨l', hl'⟩ := l.exists_comparison (by revert hl; cases g <;> decide)
    obtain ⟨r', hr'⟩ := r.exists_unary hr
    exact ⟨_, _, joins_chain (.comparison hc) hl' hr'⟩
  · cases op with
    | or =>
      obtain ⟨l', hl'⟩ := l.exists_or
      obtain ⟨r', hr'⟩ := r.exists_and hr
      exact ⟨_, _, joins_chain .or hl' hr'⟩
    | and =>
      obtain ⟨l', hl'⟩ := l.exists_and (by revert hl; cases g <;> decide)
      obtain ⟨r', hr'⟩ := r.exists_comparison hr
      exact ⟨_, _, joins_chain .and hl' hr'⟩
    | access =>
      obtain ⟨l', hl'⟩ := l.exists_path hl
      -- An access takes a primary or a signed operand, and ends with the latter.
      cases h with
      | primary => exact ⟨_, _, joins_chain .access hl' (.refl r)⟩
      | signed =>
        refine ⟨.access, .accessSigned l' r, ?_, ?_, ?_, fun _ => .of_loosest rfl,
          fun _ hs _ => hs⟩
        · rw [← hl'.tokens]; rfl
        · rw [← hl'.tree]; rfl
        · rw [← hl'.nesting, ← hl'.folds]; rfl
      | _ => exact absurd hr (by decide)
    | _ => exact absurd (by decide) hc

end Derivation

/-! ## Tokens and trees -/

/-- The tokens `ts` derive from the phrase `g` with the tree `e`. -/
def Derives (g : Phrase) (ts : List Token) (e : Expr) : Prop :=
  ∃ c : Derivation g, c.tokens = ts ∧ c.tree = e

namespace Derives

variable {g h : Phrase} {ts us : List Token} {e l r : Expr}

theorem unary (d : Derives g ts e) (hg : g.TighterThan .comparison) : Derives .unary ts e := by
  obtain ⟨c, rfl, rfl⟩ := d
  obtain ⟨c', hc⟩ := c.exists_unary hg
  exact ⟨c', hc.tokens, hc.tree⟩

theorem or (d : Derives g ts e) : Derives .or ts e := by
  obtain ⟨c, rfl, rfl⟩ := d
  obtain ⟨c', hc⟩ := c.exists_or
  exact ⟨c', hc.tokens, hc.tree⟩

/-- Two phrases around an operator make a phrase. -/
theorem fold {op : BinaryOp} (dl : Derives g ts l) (hl : ¬ g.level < op.precedence)
    (dr : Derives h us r) (hr : h.TighterThan op.precedence) :
    ∃ k : Phrase, Derives k (ts ++ op.token :: us) (.binary op l r) ∧
      (∀ q, q < op.precedence → k.TighterThan q) ∧
      ∀ rest, Stops h.level rest → Stops op.precedence rest → Stops k.level rest := by
  obtain ⟨c, rfl, rfl⟩ := dl
  obtain ⟨d, rfl, rfl⟩ := dr
  obtain ⟨k, c', hc⟩ := Derivation.exists_joins op c hl d hr
  exact ⟨k, ⟨c', hc.tokens, hc.tree⟩, hc.tighterThan, hc.stops⟩

end Derives

end StepCondition
