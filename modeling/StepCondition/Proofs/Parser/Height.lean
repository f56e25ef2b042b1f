import StepCondition.Proofs.Expr.Height
import StepCondition.Proofs.Expr.RoundTrip

/-!
# How high a tree the parser builds

The limit on nesting bounds what the parser counts, and that falls back when an
operand has been read: the operators after it count on from the level of the
operand, however high its tree is. So a tree can be far higher than the limit. What
bounds it is that each level of nesting has room for fewer operators than the one
around it (`heightWithin`), and that levels cost tokens.

* `Run.bounds`: what a run from any state does, with the errors it notes;
* `height_le_of_parse`: the trees of a text, those with errors among them;
* `exists_parse_height`: an accepted text whose tree is as high as can be.
-/

namespace StepCondition

/-- How high a tree can get that so many levels of nesting are left for: an operand
on the next level, and on top of it an operator for each level but that of its own
right operand. -/
def heightWithin : Nat → Nat
  | 0 => 0
  | n + 1 => heightWithin n + 1 + (n - 1)

theorem heightWithin_maxDepth : heightWithin maxDepth = 32641 := by decide +kernel

theorem heightWithin_mono {m n : Nat} (h : m ≤ n) : heightWithin m ≤ heightWithin n := by
  induction h with
  | refl => exact le_rfl
  | step _ ih =>
    rw [Nat.succ_eq_add_one, heightWithin]
    omega

theorem heightAll_le {es : List Expr} {n : Nat} (h : ∀ e ∈ es, e.height ≤ n) :
    Expr.heightAll es ≤ n := by
  induction es with
  | nil => exact Nat.zero_le n
  | cons e es ih =>
    exact Nat.max_le.mpr
      ⟨h e List.mem_cons_self, ih fun d hd => h d (List.mem_cons_of_mem _ hd)⟩

namespace Parser

/-- How many levels of nesting are left. -/
def levelsLeft (p : Parser) : Nat := maxDepth - p.depth

/-- How many tokens are left. -/
def tokensLeft (p : Parser) : Nat := p.input.length

theorem tokensLeft_past {p : Parser} {t : Token} (h : p.input.head? = some t) :
    p.tokensLeft = p.past.tokensLeft + 1 := by
  rw [tokensLeft, tokensLeft, input_of_head? h, List.length_cons]

theorem tokensLeft_closed_le (p : Parser) (wanted : Token) :
    (p.closed wanted).tokensLeft ≤ p.tokensLeft := by
  unfold closed
  split
  · exact (List.tail_suffix _).length_le
  · rw [tokensLeft, note_input]
    exact Nat.le_refl _

theorem Run.tokensLeft_le {part : Part} {p q : Parser} {es : List Expr} (h : Run part p es q) :
    q.tokensLeft ≤ p.tokensLeft := h.input_suffix.length_le

/-- What bounds a tree that is read from `p` to `q`: its height as such, its height
by the tokens taken, and twice its height by tokens and levels together, since
every level that is left takes a token. -/
structure Fits (bound start levels : Nat) (p q : Parser) (e : Expr) : Prop where
  height_le : e.height ≤ bound
  height_le_taken : e.height + q.tokensLeft ≤ start + p.tokensLeft
  two_height_le : 2 * e.height + q.tokensLeft ≤ levels + p.tokensLeft

theorem Fits.mono {bound start levels bound' levels' : Nat} {p q p' q' : Parser} {e : Expr}
    (h : Fits bound start levels p q e) (hb : bound ≤ bound') (hl : levels ≤ levels')
    (hp : p.tokensLeft ≤ p'.tokensLeft) (hq : q'.tokensLeft ≤ q.tokensLeft) :
    Fits bound' start levels' p' q' e := by
  obtain ⟨h₁, h₂, h₃⟩ := h
  constructor <;> omega

/-- The bounds on a tree that a run of a part yields. Those for the operators after
an operand start from the height of the operand. -/
def Part.Bounds : Part → Parser → Parser → Expr → Prop
  | .operand, p => Fits (heightWithin p.levelsLeft + 1) 0 (p.levelsLeft + 1) p
  | .operators _ left, p =>
    Fits (max left.height (heightWithin p.levelsLeft) + (p.levelsLeft - 1)) left.height
      (max (2 * left.height) p.levelsLeft) p
  | _, p => Fits (heightWithin p.levelsLeft) 0 p.levelsLeft p

/-- An operand of one token. -/
theorem fits_leaf {p : Parser} {t : Token} {e : Expr} (h : p.input.head? = some t)
    (he : e.height = 1) : Part.operand.Bounds p p.past e := by
  have := tokensLeft_past h
  constructor <;> omega

/-- An operand above trees that were read after its first token. -/
theorem fits_node {p q : Parser} {e : Expr} (p₁ : Parser) (es : List Expr)
    (he : e.height = Expr.heightAll es + 1) (hl : p₁.levelsLeft = p.levelsLeft)
    (ht : p₁.tokensLeft < p.tokensLeft) (hq : q.tokensLeft ≤ p₁.tokensLeft)
    (h : ∀ d ∈ es, Fits (heightWithin p₁.levelsLeft) 0 p₁.levelsLeft p₁ q d) :
    Part.operand.Bounds p q e := by
  have h₁ : Expr.heightAll es ≤ heightWithin p₁.levelsLeft :=
    heightAll_le fun d hd => (h d hd).height_le
  have h₂ : Expr.heightAll es ≤ p₁.tokensLeft - q.tokensLeft :=
    heightAll_le fun d hd => by have := (h d hd).height_le_taken; omega
  have h₃ : Expr.heightAll es ≤ (p₁.levelsLeft + p₁.tokensLeft - q.tokensLeft) / 2 :=
    heightAll_le fun d hd => by have := (h d hd).two_height_le; omega
  rw [hl] at h₁ h₃
  constructor <;> omega

/-- An operand and the operators after it, which are one level deeper than the
expression. -/
theorem fits_chain {prec : Precedence} {p p₁ q : Parser} {left e : Expr}
    (hp : p.depth < maxDepth) (hd : p₁.depth = p.depth + 1)
    (hl : Part.operand.Bounds p.deeper p₁ left) (he : (Part.operators prec left).Bounds p₁ q e) :
    (Part.expression prec).Bounds p q e := by
  have hr : p.levelsLeft = p₁.levelsLeft + 1 := by
    unfold levelsLeft
    omega
  have hr' : p.deeper.levelsLeft = p₁.levelsLeft := by
    rw [levelsLeft, deeper_depth, levelsLeft, hd]
  have hw : heightWithin p.levelsLeft = heightWithin p₁.levelsLeft + 1 + (p₁.levelsLeft - 1) := by
    rw [hr, heightWithin]
  have ht : p.deeper.tokensLeft = p.tokensLeft := rfl
  obtain ⟨a, b, c⟩ := hl
  obtain ⟨a', b', c'⟩ := he
  rw [hr'] at a c
  constructor <;> omega

/-- An operator with the operators after it. The right operand took a token, so
there was a level for it. -/
theorem fits_fold {prec prec' : Precedence} {op : BinaryOp} {p p₁ q : Parser} {left right e : Expr}
    (ht : p.tokensLeft = p.deeper.past.tokensLeft + 1) (hp : p.depth < maxDepth)
    (hd : p₁.depth = p.depth + 1) (hr : (Part.expression prec').Bounds p.deeper.past p₁ right)
    (he : (Part.operators prec (.binary op left right)).Bounds p₁ q e) :
    (Part.operators prec left).Bounds p q e := by
  have hl : p₁.levelsLeft = p.levelsLeft - 1 := by
    unfold levelsLeft
    omega
  have hl' : p.deeper.past.levelsLeft = p.levelsLeft - 1 := hl ▸ by
    rw [levelsLeft, past_depth, deeper_depth, levelsLeft, hd]
  have hpos : 0 < p.levelsLeft := Nat.sub_pos_of_lt hp
  have hone := right.one_le_height
  have hw := heightWithin_mono (Nat.sub_le p.levelsLeft 1)
  have hzero : heightWithin 0 = 0 := rfl
  obtain ⟨a, b, c⟩ := hr
  obtain ⟨a', b', c'⟩ := he
  rw [hl'] at a c
  rw [hl] at a' c'
  rw [Expr.height] at a' b' c'
  have htwo : 1 < p.levelsLeft := by
    by_contra hle
    rw [show p.levelsLeft - 1 = 0 by omega] at a
    omega
  constructor <;> omega

/-- A run yields no higher tree than levels and tokens permit. -/
theorem Run.bounds {part : Part} {p q : Parser} {es : List Expr} (h : Run part p es q) :
    ∀ e ∈ es, part.Bounds p q e := by
  induction h with
  | tooDeep | noOperand | foldTooDeep | outOfRange | illegal | unexpectedEnd | startsNothing
  | noItems | noMore => exact fun _ he => absurd he List.not_mem_nil
  | @chain _ _ _ _ left _ hd h₁ _ ih₁ ih₂ =>
    intro e he
    exact fits_chain hd (h₁.depth_eq trivial) (ih₁ left List.mem_cons_self)
      ((ih₂ e he).mono le_rfl le_rfl le_rfl le_rfl)
  | stop =>
    rintro _ (_ | ⟨_, ⟨⟩⟩)
    constructor <;> omega
  | @foldLost _ _ p p₁ _ _ _ _ h₁ =>
    rintro _ (_ | ⟨_, ⟨⟩⟩)
    have : p₁.tokensLeft ≤ p.tokensLeft := h₁.tokensLeft_le.trans (List.tail_suffix _).length_le
    constructor <;> omega
  | @fold _ _ right _ _ _ _ _ h _ hd h₁ _ ih₁ ih₂ =>
    intro e he
    obtain ⟨t, ht, -⟩ := Option.bind_eq_some_iff.mp h
    exact fits_fold (tokensLeft_past ht) hd (h₁.depth_eq trivial) (ih₁ right List.mem_cons_self)
      (ih₂ e he)
  | integer h | string h | regexp h | boolean h | identifier h =>
    rintro _ (_ | ⟨_, ⟨⟩⟩)
    exact fits_leaf h rfl
  | @call p _ _ args h hn h₁ ih =>
    rintro _ (_ | ⟨_, ⟨⟩⟩)
    have := tokensLeft_past h
    have := tokensLeft_past hn
    refine fits_node p.past.past args rfl rfl ?_ h₁.tokensLeft_le ih
    omega
  | @signed p _ op _ h h₁ ih =>
    intro e he
    obtain ⟨x, hx, rfl⟩ := List.mem_map.mp he
    have := tokensLeft_past h
    refine fits_node p.past [x] ?_ rfl (by omega) h₁.tokensLeft_le ?_
    · rw [Expr.height, Expr.heightAll, Expr.heightAll, Nat.max_zero]
    · rintro _ (_ | ⟨_, ⟨⟩⟩)
      exact ih x hx
  | @group _ p₁ _ h _ ih =>
    intro e he
    have := tokensLeft_past h
    exact (ih e he).mono (Nat.le_succ _) (Nat.le_succ _) (by omega) (tokensLeft_closed_le p₁ _)
  | @array p _ es h h₁ ih =>
    rintro _ (_ | ⟨_, ⟨⟩⟩)
    have := tokensLeft_past h
    exact fits_node p.past es rfl rfl (by omega) h₁.tokensLeft_le ih
  | @items p p₁ p₂ closing es fs h h₁ h₂ ih₁ ih₂ =>
    intro e he
    have hc := tokensLeft_closed_le p₂ closing
    have hl : p₁.levelsLeft = p.levelsLeft := by
      rw [levelsLeft, h₁.depth_eq trivial, levelsLeft]
    rcases List.mem_append.mp he with he | he
    · exact (ih₁ e he).mono le_rfl le_rfl le_rfl (hc.trans h₂.tokensLeft_le)
    · have hf := ih₂ e he
      simp only [Part.Bounds, hl] at hf
      exact hf.mono le_rfl le_rfl h₁.tokensLeft_le hc
  | @more p p₁ p₂ es fs h h₁ h₂ ih₁ ih₂ =>
    intro e he
    have hp : p.past.tokensLeft ≤ p.tokensLeft := (List.tail_suffix _).length_le
    have hl : p₁.levelsLeft = p.levelsLeft := by
      rw [levelsLeft, h₁.depth_eq trivial, past_depth, levelsLeft]
    rcases List.mem_append.mp he with he | he
    · exact (ih₁ e he).mono le_rfl le_rfl hp h₂.tokensLeft_le
    · have hf := ih₂ e he
      simp only [Part.Bounds, hl] at hf
      exact hf.mono le_rfl le_rfl (h₁.tokensLeft_le.trans hp) le_rfl

/-- The tree of an accepted text is the one that the parser builds. -/
theorem parse_fst_of_ok {text : String} {e : Expr} (h : StepCondition.parse text = .ok e) :
    (ofText text).parse.1 = some e := by
  unfold StepCondition.parse at h
  rcases hp : (ofText text).parse with ⟨_ | d, p⟩
  · simp only [hp] at h
    split at h <;> simp_all
  · simp only [hp] at h
    split at h <;> simp_all

end Parser

/-! ## Stairs of chains -/

/-- Chains of `&& 1`, each around the next one in brackets and one longer, around
`1`. -/
def Expr.stairs : Nat → Expr
  | 0 => .integer 1
  | n + 1 => conjoin n (.array [stairs n])

/-- The text of stairs, and what follows it. -/
def stairsText : Nat → List Char → List Char
  | 0, rest => '1' :: rest
  | n + 1, rest => '[' :: stairsText n (']' :: conjuncts n rest)

/-- Stairs are as high as their levels permit. -/
theorem height_stairs (n : Nat) : (Expr.stairs n).height = heightWithin (n + 1) := by
  induction n with
  | zero => rfl
  | succ n ih =>
    rw [Expr.stairs, height_conjoin, Expr.height, Expr.heightAll, Expr.heightAll, Nat.max_zero, ih]
    rfl

theorem Derivation.exists_stairs (n : Nat) :
    ∃ c : Derivation .or, c.tree = Expr.stairs n ∧ c.nesting ≤ n + 1 ∧
      ∀ rest, Token.EndsAt (.integer "1") rest →
        StepCondition.tokens (stairsText n rest) = c.tokens ++ StepCondition.tokens rest := by
  induction n with
  | zero =>
    obtain ⟨c, hc⟩ := (integer "1" 1 (by decide)).exists_or
    refine ⟨c, hc.tree, hc.nesting.le, fun rest hr => ?_⟩
    rw [hc.tokens]
    exact tokens_one hr
  | succ n ih =>
    obtain ⟨c, he, hn, ht⟩ := ih
    obtain ⟨d, ht', he', hn'⟩ := exists_conjoin_primary n (array [c])
    refine ⟨d, ?_, ?_, fun rest hr => ?_⟩
    · rw [he', tree, trees, trees, he]
      rfl
    · have ha : (array [c]).nesting = max c.nesting 0 + 1 := rfl
      omega
    · have hp : Token.EndsAt (.integer "1") (']' :: conjuncts n rest) := by
        rintro _ ⟨⟩
        decide
      rw [stairsText, tokens_leftBracket, ht _ hp, tokens_rightBracket, tokens_conjuncts n hr, ht',
        tokens, tokensAll]
      simp only [List.cons_append, List.append_assoc, List.nil_append]

/-- Stairs that nest no deeper than the limit are accepted. -/
theorem parse_stairs {n : Nat} (h : n < maxDepth) :
    parse (String.ofList (stairsText n [])) = .ok (Expr.stairs n) := by
  obtain ⟨c, he, hn, ht⟩ := Derivation.exists_stairs n
  have hc := ht [] nofun
  rw [tokens_nil, List.append_nil] at hc
  refine parse_eq_ok_iff.mpr ⟨c, ?_, he, by omega⟩
  rw [String.toList_ofList, hc]

/-! ## Trees of texts -/

/-- No tree that the parser builds, with or without errors, is higher than 32641, nor
higher than the tokens it had, nor than half of the tokens and the limit together.
So it takes two tokens more than the limit to go past the limit. -/
theorem height_le_of_parse {p : Parser} {e : Expr} (h : p.parse.1 = some e) :
    e.height ≤ 32641 ∧ e.height ≤ p.input.length ∧ 2 * e.height ≤ maxDepth + p.input.length ∧
      (p.input.length ≤ maxDepth + 1 → e.height ≤ maxDepth) := by
  obtain ⟨q, r⟩ := Parser.exists_run_of_parse h
  obtain ⟨h₁, h₂, h₃⟩ := r.bounds e List.mem_cons_self
  have hl : p.levelsLeft ≤ maxDepth := Nat.sub_le ..
  have hw := heightWithin_mono hl
  have ht : p.tokensLeft = p.input.length := rfl
  rw [heightWithin_maxDepth] at hw
  refine ⟨h₁.trans hw, ?_, ?_, fun hle => ?_⟩ <;> omega

/-- A text with as many tokens as the limit can have a tree as high as the limit. -/
theorem height_le_of_parse_negations :
    let p := Parser.ofText (negations 255)
    let e := Expr.prefixes .not 255 (.identifier "a")
    p.parse.1 = some e ∧ p.input.length ≤ maxDepth + 1 ∧ e.height ≤ maxDepth := by
  have hp := Parser.parse_fst_of_ok ((parse_negations 255).trans (if_pos (by decide)))
  have ht : (Parser.ofText (negations 255)).input.length ≤ maxDepth + 1 := by
    change (tokens (negations 255).toList).length ≤ maxDepth + 1
    rw [tokens_negations, List.length_append, List.length_replicate]
    decide
  exact ⟨hp, ht, (height_le_of_parse hp).2.2.2 ht⟩

theorem tokens_negations_conjunct (n : Nat) :
    tokens (negations n ++ "&&1").toList =
      List.replicate n .bang ++ [.identifier "a", .and, .integer "1"] := by
  have ha : Token.EndsAt (.identifier "a") (conjuncts 1 []) := by
    rintro _ ⟨⟩
    decide
  have ht := tokens_replicate_bang n ha
  rw [tokens_conjuncts 1 (nofun : Token.EndsAt _ []), tokens_nil, List.append_nil] at ht
  rw [negations, String.toList_append, String.toList_ofList, List.append_assoc]
  exact ht

theorem parse_negations_conjunct {n : Nat} (h : n < maxDepth) :
    parse (negations n ++ "&&1") =
      .ok (.binary .and (.prefixes .not n (.identifier "a")) (.integer 1)) := by
  obtain ⟨c, hc, ht, hk, hn⟩ := exists_derivation_prefixes n
  obtain ⟨d, hd⟩ := c.exists_and (by decide)
  obtain ⟨f, hf, he, -, hm⟩ := Derivation.exists_conjoin 1 d
  obtain ⟨g, hg⟩ := f.exists_or
  refine parse_eq_ok_iff.mpr ⟨g, ?_, ?_, ?_⟩
  · rw [hg.tokens, hf, hd.tokens, hc, tokens_negations_conjunct, List.append_assoc]
    rfl
  · rw [hg.tree, he, hd.tree, ht]
    rfl
  · rw [hg.nesting]
    rw [hd.nesting, hn, hd.folds, hk] at hm
    have : maxDepth = 256 := rfl
    omega

theorem height_prefixes (op : UnaryOp) (n : Nat) (e : Expr) :
    (Expr.prefixes op n e).height = e.height + n := by
  induction n with
  | zero => rfl
  | succ n ih => rw [Expr.prefixes, Expr.height, ih, Nat.add_assoc]

/-- With one token more than that, it can be higher. -/
theorem not_height_le_of_parse :
    let text := negations 255 ++ "&&1"
    let e := Expr.binary .and (.prefixes .not 255 (.identifier "a")) (.integer 1)
    (Parser.ofText text).parse.1 = some e ∧ parse text = .ok e ∧
      (tokens text.toList).length = maxDepth + 2 ∧ e.height = maxDepth + 1 := by
  intro text e
  have hp : parse text = .ok e := parse_negations_conjunct (by decide)
  refine ⟨Parser.parse_fst_of_ok hp, hp, ?_, ?_⟩
  · rw [tokens_negations_conjunct, List.length_append, List.length_replicate]
    rfl
  · rw [Expr.height, height_prefixes]
    rfl

/-- The bound of 32641 is met by an accepted text. -/
theorem exists_parse_height : ∃ text e, parse text = .ok e ∧ e.height = 32641 := by
  refine ⟨_, _, parse_stairs (by decide : 255 < maxDepth), ?_⟩
  rw [height_stairs]
  exact heightWithin_maxDepth

end StepCondition
