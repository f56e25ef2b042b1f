import StepCondition.Proofs.Grammar

/-!
# Runs of the parser

What the parser does, as a relation without levels or rounds of recursion:
`Run part p es q` says that reading `part` from the parser `p` yields the trees
`es` and ends in `q`. A part is an expression or an operand, which has at most one
tree, the operators after an operand, or items (`Part`). Everything about whole
runs is proved by induction on `Run`.

* `Run.keep`: what every step keeps, every run keeps;
* `reads_expression`: with more levels of recursion than nesting permits, the
  parser has an outcome from every state, and it is that of a run;
* `exists_run`: so `parseExpression` is a run from every state.
-/

namespace StepCondition

/-- A token that neither starts an expression nor is illegal. -/
def Token.startsNothing : Token → Prop
  | .integer _ | .string _ | .regexp _ | .boolean _ | .identifier _ | .bang | .minus | .leftParen
  | .leftBracket | .illegal _ => False
  | _ => True

namespace Parser

/-! ## Steps as functions of the state -/

/-- The parser past the next token. -/
def past (p : Parser) : Parser := { p with input := p.input.tail }

/-- The parser one level deeper. -/
def deeper (p : Parser) : Parser := { p with depth := p.depth + 1 }

/-- The parser after going past the limit on nesting. -/
def overflow (p : Parser) : Parser :=
  { p.deeper.note .tooDeep with tooDeep := true, input := [] }

/-- The parser after asking for a token. -/
def closed (wanted : Token) (p : Parser) : Parser :=
  if p.input.head? = some wanted then p.past else p.note (.expected wanted p.input.head?)

@[simp] theorem past_depth (p : Parser) : p.past.depth = p.depth := rfl
@[simp] theorem past_found (p : Parser) : p.past.found = p.found := rfl
@[simp] theorem past_tooDeep (p : Parser) : p.past.tooDeep = p.tooDeep := rfl
@[simp] theorem deeper_depth (p : Parser) : p.deeper.depth = p.depth + 1 := rfl
@[simp] theorem deeper_input (p : Parser) : p.deeper.input = p.input := rfl
@[simp] theorem deeper_found (p : Parser) : p.deeper.found = p.found := rfl
@[simp] theorem deeper_tooDeep (p : Parser) : p.deeper.tooDeep = p.tooDeep := rfl
@[simp] theorem overflow_input (p : Parser) : p.overflow.input = [] := rfl
@[simp] theorem overflow_tooDeep (p : Parser) : p.overflow.tooDeep = true := rfl

theorem past_input (p : Parser) : p.past.input = p.input.tail := rfl

@[simp] theorem note_input (p : Parser) (e : SyntaxError) : (p.note e).input = p.input := by
  unfold note; split <;> rfl

@[simp] theorem note_depth (p : Parser) (e : SyntaxError) : (p.note e).depth = p.depth := by
  unfold note; split <;> rfl

@[simp] theorem note_tooDeep (p : Parser) (e : SyntaxError) : (p.note e).tooDeep = p.tooDeep := by
  unfold note; split <;> rfl

theorem note_of_tooDeep {p : Parser} (h : p.tooDeep = true) (e : SyntaxError) : p.note e = p := by
  unfold note; exact if_pos h

theorem note_found {p : Parser} (h : p.tooDeep = false) (e : SyntaxError) :
    (p.note e).found = e :: p.found := by
  unfold note; rw [if_neg (by rw [h]; decide)]

theorem closed_of_input_eq_nil {p : Parser} (h : p.input = []) (wanted : Token) :
    p.closed wanted = p.note (.expected wanted none) := by
  simp [closed, h]

@[simp] theorem closed_tooDeep (wanted : Token) (p : Parser) :
    (p.closed wanted).tooDeep = p.tooDeep := by
  unfold closed
  split
  · rfl
  · exact note_tooDeep ..

theorem overflow_found_of_tooDeep {p : Parser} (h : p.tooDeep = true) :
    p.overflow.found = p.found := by
  change (p.deeper.note .tooDeep).found = p.found
  rw [note_of_tooDeep (p := p.deeper) h]
  rfl

theorem overflow_found {p : Parser} (h : p.tooDeep = false) :
    p.overflow.found = .tooDeep :: p.found :=
  note_found (p := p.deeper) h .tooDeep

/-! ## Runs -/

/-- The parts of the reading of an expression. -/
inductive Part where
  | expression (q : Precedence)
  | operand
  | operators (q : Precedence) (left : Expr)
  | items (closing : Token)
  | moreItems

/-- `Run part p es q`: reading `part` from `p` yields the trees `es` and ends in
`q`. -/
inductive Run : Part → Parser → List Expr → Parser → Prop where
  -- An expression gives back the depth that its operators have taken.
  | tooDeep {q : Precedence} {p : Parser} (h : maxDepth ≤ p.depth) :
    Run (.expression q) p [] { p.overflow with depth := p.depth }
  | noOperand {q : Precedence} {p p₁ : Parser} (h : p.depth < maxDepth)
    (h₁ : Run .operand p.deeper [] p₁) : Run (.expression q) p [] { p₁ with depth := p.depth }
  | chain {q : Precedence} {p p₁ p₂ : Parser} {left : Expr} {es : List Expr}
    (h : p.depth < maxDepth) (h₁ : Run .operand p.deeper [left] p₁)
    (h₂ : Run (.operators q left) p₁ es p₂) : Run (.expression q) p es { p₂ with depth := p.depth }
  | stop {q : Precedence} {left : Expr} {p : Parser} (h : Stops q p.input) :
    Run (.operators q left) p [left] p
  | foldTooDeep {q : Precedence} {left : Expr} {p : Parser} {op : BinaryOp}
    (h : p.input.head?.bind Token.binaryOp? = some op) (hq : q < op.precedence)
    (hd : maxDepth ≤ p.depth) : Run (.operators q left) p [] p.overflow
  | foldLost {q : Precedence} {left : Expr} {p p₁ : Parser} {op : BinaryOp}
    (h : p.input.head?.bind Token.binaryOp? = some op) (hq : q < op.precedence)
    (hd : p.depth < maxDepth) (h₁ : Run (.expression op.precedence) p.deeper.past [] p₁) :
    Run (.operators q left) p [left] p₁
  | fold {q : Precedence} {left right : Expr} {p p₁ p₂ : Parser} {op : BinaryOp} {es : List Expr}
    (h : p.input.head?.bind Token.binaryOp? = some op) (hq : q < op.precedence)
    (hd : p.depth < maxDepth) (h₁ : Run (.expression op.precedence) p.deeper.past [right] p₁)
    (h₂ : Run (.operators q (.binary op left right)) p₁ es p₂) : Run (.operators q left) p es p₂
  | integer {p : Parser} {digits : String} {n : Int64} (h : p.input.head? = some (.integer digits))
    (hn : integerOfDigits? digits = some n) : Run .operand p [.integer n] p.past
  | outOfRange {p : Parser} {digits : String} (h : p.input.head? = some (.integer digits))
    (hn : integerOfDigits? digits = none) :
    Run .operand p [] (p.past.note (.integerOutOfRange digits))
  | string {p : Parser} {text : String} (h : p.input.head? = some (.string text)) :
    Run .operand p [.string text] p.past
  | regexp {p : Parser} {pattern : String} (h : p.input.head? = some (.regexp pattern)) :
    Run .operand p [.regexp pattern] p.past
  | boolean {p : Parser} {b : Bool} (h : p.input.head? = some (.boolean b)) :
    Run .operand p [.boolean b] p.past
  | identifier {p : Parser} {name : String} (h : p.input.head? = some (.identifier name))
    (hn : p.past.input.head? ≠ some .leftParen) : Run .operand p [.identifier name] p.past
  | call {p p₁ : Parser} {name : String} {args : List Expr}
    (h : p.input.head? = some (.identifier name)) (hn : p.past.input.head? = some .leftParen)
    (h₁ : Run (.items .rightParen) p.past.past args p₁) : Run .operand p [.call name args] p₁
  | signed {p p₁ : Parser} {op : UnaryOp} {es : List Expr} (h : p.input.head? = some op.token)
    (h₁ : Run (.expression .unary) p.past es p₁) : Run .operand p (es.map (.unary op)) p₁
  | group {p p₁ : Parser} {es : List Expr} (h : p.input.head? = some .leftParen)
    (h₁ : Run (.expression .lowest) p.past es p₁) : Run .operand p es (p₁.closed .rightParen)
  | array {p p₁ : Parser} {es : List Expr} (h : p.input.head? = some .leftBracket)
    (h₁ : Run (.items .rightBracket) p.past es p₁) : Run .operand p [.array es] p₁
  | illegal {p : Parser} {c : Char} (h : p.input.head? = some (.illegal c)) :
    Run .operand p [] (p.past.note (.illegalCharacter c))
  | unexpectedEnd {p : Parser} (h : p.input.head? = none) :
    Run .operand p [] (p.note .unexpectedEnd)
  | startsNothing {p : Parser} {t : Token} (h : p.input.head? = some t) (ht : t.startsNothing) :
    Run .operand p [] (p.note (.startsNoExpression t))
  | noItems {p : Parser} {closing : Token} (h : p.input.head? = some closing) :
    Run (.items closing) p [] p.past
  | items {p p₁ p₂ : Parser} {closing : Token} {es fs : List Expr}
    (h : p.input.head? ≠ some closing) (h₁ : Run (.expression .lowest) p es p₁)
    (h₂ : Run .moreItems p₁ fs p₂) : Run (.items closing) p (es ++ fs) (p₂.closed closing)
  | noMore {p : Parser} (h : p.input.head? ≠ some .comma) : Run .moreItems p [] p
  | more {p p₁ p₂ : Parser} {es fs : List Expr} (h : p.input.head? = some .comma)
    (h₁ : Run (.expression .lowest) p.past es p₁) (h₂ : Run .moreItems p₁ fs p₂) :
    Run .moreItems p (es ++ fs) p₂

/-! ## What runs keep -/

/-- What holds after every step holds after every run: after going past a token, a
change of depth, an error other than those of a whole text, and going past the
limit on nesting. -/
theorem Run.keep {I : Parser → Prop} (past : ∀ p, I p → I p.past)
    (depth : ∀ p d, I p → I { p with depth := d })
    (note : ∀ p e, e ≠ .tooDeep → e ≠ .noExpression → I p → I (p.note e))
    (overflow : ∀ p, I p → I p.overflow) {part : Part} {p q : Parser} {es : List Expr}
    (h : Run part p es q) (hp : I p) : I q := by
  have closed : ∀ wanted p, I p → I (p.closed wanted) := fun wanted p hp => by
    unfold Parser.closed
    split
    · exact past p hp
    · exact note p _ (by nofun) (by nofun) hp
  induction h with
  | tooDeep => exact depth _ _ (overflow _ hp)
  | noOperand _ _ ih => exact depth _ _ (ih (depth _ _ hp))
  | chain _ _ _ ih₁ ih₂ => exact depth _ _ (ih₂ (ih₁ (depth _ _ hp)))
  | stop | noMore => exact hp
  | foldTooDeep => exact overflow _ hp
  | foldLost _ _ _ _ ih => exact ih (past _ (depth _ _ hp))
  | fold _ _ _ _ _ ih₁ ih₂ => exact ih₂ (ih₁ (past _ (depth _ _ hp)))
  | integer | string | regexp | boolean | identifier | noItems => exact past _ hp
  | outOfRange | illegal => exact note _ _ (by nofun) (by nofun) (past _ hp)
  | unexpectedEnd | startsNothing => exact note _ _ (by nofun) (by nofun) hp
  | call _ _ _ ih => exact ih (past _ (past _ hp))
  | signed _ _ ih | array _ _ ih => exact ih (past _ hp)
  | group _ _ ih => exact closed _ _ (ih (past _ hp))
  | items _ _ _ ih₁ ih₂ => exact closed _ _ (ih₂ (ih₁ hp))
  | more _ _ _ ih₁ ih₂ => exact ih₂ (ih₁ (past _ hp))

/-- A run only takes tokens off the front. -/
theorem Run.input_suffix {part : Part} {p q : Parser} {es : List Expr} (h : Run part p es q) :
    q.input <:+ p.input :=
  h.keep (I := fun r => r.input <:+ p.input) (fun _ hr => (List.tail_suffix _).trans hr)
    (fun _ _ hr => hr) (fun r e _ _ hr => by rwa [note_input]) (fun _ _ => List.nil_suffix)
    List.suffix_rfl

/-- A run notes no error once nesting has gone past its limit. -/
theorem Run.frozen {part : Part} {p q : Parser} {es : List Expr} (h : Run part p es q)
    (ht : p.tooDeep = true) (hi : p.input = []) :
    q.tooDeep = true ∧ q.input = [] ∧ q.found = p.found := by
  refine h.keep (I := fun r => r.tooDeep = true ∧ r.input = [] ∧ r.found = p.found)
    (fun r hr => ⟨hr.1, by rw [past_input, hr.2.1]; rfl, hr.2.2⟩) (fun _ _ hr => hr)
    (fun r e _ _ hr => by rwa [note_of_tooDeep hr.1])
    (fun r hr => ⟨rfl, rfl, (overflow_found_of_tooDeep hr.1).trans hr.2.2⟩) ⟨ht, hi, rfl⟩

/-- There is no way back from past the limit. -/
theorem Run.past_limit {part : Part} {p q : Parser} {es : List Expr} (h : Run part p es q)
    (hp : p.tooDeep = true) : q.tooDeep = true :=
  h.keep (I := fun r => r.tooDeep = true) (fun _ hr => hr) (fun _ _ hr => hr)
    (fun r e _ _ hr => by rwa [note_tooDeep]) (fun _ _ => rfl) hp

/-- Whether reading a part gives back the depth that it has taken. The operators of
a chain do not: each one stays deeper than the one before it. -/
def Part.restores : Part → Prop
  | .operators _ _ => False
  | _ => True

theorem Run.depth_eq {part : Part} {p q : Parser} {es : List Expr} (h : Run part p es q)
    (hp : part.restores) : q.depth = p.depth := by
  have closed : ∀ wanted (p : Parser), (p.closed wanted).depth = p.depth := fun wanted p => by
    unfold Parser.closed
    split
    · rfl
    · exact note_depth ..
  induction h with
  | tooDeep | noOperand | chain => rfl
  | stop | foldTooDeep | foldLost | fold => exact hp.elim
  | integer | string | regexp | boolean | identifier | noItems | noMore => rfl
  | outOfRange | illegal | unexpectedEnd | startsNothing => exact note_depth ..
  | call _ _ _ ih | signed _ _ ih | array _ _ ih => exact ih trivial
  | group _ _ ih => exact (closed ..).trans (ih trivial)
  | items _ _ _ ih₁ ih₂ => exact (closed ..).trans ((ih₂ trivial).trans (ih₁ trivial))
  | more _ _ _ ih₁ ih₂ => exact (ih₂ trivial).trans (ih₁ trivial)

/-! ## The parser is a run -/

theorem run_peek (p : Parser) : peek.run p = some (p.input.head?, p) := rfl

theorem run_advance (p : Parser) : advance.run p = some ((), p.past) := rfl

theorem run_report (p : Parser) (e : SyntaxError) : (report e).run p = some ((), p.note e) := rfl

theorem run_expect (p : Parser) (wanted : Token) :
    (expect wanted).run p = some ((), p.closed wanted) := by
  by_cases h : p.input.head? = some wanted
  · simp [expect, closed, run_peek, h, run_advance]
  · simp [expect, closed, run_peek, h, run_report]

theorem run_descend (p : Parser) :
    descend.run p =
      some (if p.depth < maxDepth then (true, p.deeper) else (false, p.overflow)) := by
  have e : descend.run p =
      if p.depth + 1 ≤ maxDepth then some (true, p.deeper) else some (false, p.overflow) := by
    unfold descend
    simp only [StateT.run_bind, StateT.run_modify, StateT.run_get]
    change StateT.run (if p.depth + 1 ≤ maxDepth then _ else _) _ = _
    split <;> rfl
  rw [e]
  split
  · rename_i h
    rw [if_pos (Nat.lt_of_succ_le h)]
  · rename_i h
    rw [if_neg fun hlt => h (Nat.succ_le_of_lt hlt)]

/-- A reader of expressions has an outcome from every state at least `d` deep, and
it is that of a run. -/
def Reads (reader : Precedence → Step (Option Expr)) (d : Nat) : Prop :=
  ∀ q p, d ≤ p.depth → ∃ e p', (reader q).run p = some (e, p') ∧ Run (.expression q) p e.toList p'

section Parts

variable {reader : Precedence → Step (Option Expr)} {d : Nat}

theorem run_moreItems (hr : Reads reader d) :
    ∀ (rounds : Nat) (p : Parser), d ≤ p.depth → p.input.length < rounds →
      ∃ es p', (moreItems reader rounds).run p = some (es, p') ∧ Run .moreItems p es p' := by
  intro rounds
  induction rounds with
  | zero => intro p _ h; omega
  | succ rounds ih =>
    intro p hd hl
    by_cases hc : p.input.head? = some .comma
    · obtain ⟨e, p₁, h₁, r₁⟩ := hr .lowest p.past hd
      have hs := r₁.input_suffix.length_le
      have : p.past.input.length < p.input.length := by
        obtain ⟨ts, hts⟩ := List.head?_eq_some_iff.mp hc
        simp [past_input, hts]
      obtain ⟨es, p₂, h₂, r₂⟩ := ih p₁ (by rwa [r₁.depth_eq trivial]) (by omega)
      refine ⟨e.toList ++ es, p₂, ?_, .more hc r₁ r₂⟩
      simp [moreItems, run_peek, hc, run_advance, h₁, h₂]
    · refine ⟨[], p, ?_, .noMore hc⟩
      simp [moreItems, run_peek, hc]

theorem run_items (hr : Reads reader d) (closing : Token) {p : Parser} (hd : d ≤ p.depth) :
    ∃ es p', (items reader closing).run p = some (es, p') ∧ Run (.items closing) p es p' := by
  by_cases hc : p.input.head? = some closing
  · refine ⟨[], p.past, ?_, .noItems hc⟩
    simp [items, run_peek, hc, run_advance]
  · obtain ⟨e, p₁, h₁, r₁⟩ := hr .lowest p hd
    obtain ⟨es, p₂, h₂, r₂⟩ := run_moreItems hr (p₁.input.length + 1) p₁
      (by rwa [r₁.depth_eq trivial]) (Nat.lt_succ_self _)
    refine ⟨e.toList ++ es, p₂.closed closing, ?_, .items hc r₁ r₂⟩
    simp [items, run_peek, hc, h₁, h₂, run_expect]

theorem run_operand (hr : Reads reader d) {p : Parser} (hd : d ≤ p.depth) :
    ∃ e p', (operand reader).run p = some (e, p') ∧ Run .operand p e.toList p' := by
  have signed : ∀ op : UnaryOp, p.input.head? = some op.token → ∃ e p',
      (operand reader).run p = some (e, p') ∧ Run .operand p e.toList p' := fun op h => by
    obtain ⟨e, p₁, h₁, r₁⟩ := hr .unary p.past hd
    refine ⟨e.map (.unary op), p₁, ?_, ?_⟩
    · cases op <;> simp only [UnaryOp.token] at h <;> simp [operand, run_peek, h, run_advance, h₁]
    · rw [Option.toList_map]; exact .signed h r₁
  cases h : p.input.head? with
  | none => exact ⟨none, _, by simp [operand, run_peek, h, run_report], .unexpectedEnd h⟩
  | some t =>
    cases t with
    | integer digits =>
      cases hn : integerOfDigits? digits with
      | some n =>
        exact ⟨some (.integer n), _, by simp [operand, run_peek, h, run_advance, hn], .integer h hn⟩
      | none =>
        exact ⟨none, _, by simp [operand, run_peek, h, run_advance, hn, run_report],
          .outOfRange h hn⟩
    | string text => exact ⟨some _, _, by simp [operand, run_peek, h, run_advance], .string h⟩
    | regexp pattern => exact ⟨some _, _, by simp [operand, run_peek, h, run_advance], .regexp h⟩
    | boolean b => exact ⟨some _, _, by simp [operand, run_peek, h, run_advance], .boolean h⟩
    | identifier name =>
      by_cases hn : p.past.input.head? = some .leftParen
      · obtain ⟨args, p₁, h₁, r₁⟩ := run_items hr .rightParen (p := p.past.past) hd
        refine ⟨some (.call name args), p₁, ?_, .call h hn r₁⟩
        simp [operand, run_peek, h, run_advance, h₁, hn]
      · exact ⟨some (.identifier name), _, by simp [operand, run_peek, h, run_advance, hn],
          .identifier h hn⟩
    | bang => exact signed .not h
    | minus => exact signed .negate h
    | leftParen =>
      obtain ⟨e, p₁, h₁, r₁⟩ := hr .lowest p.past hd
      refine ⟨e, _, ?_, .group h r₁⟩
      simp [operand, run_peek, h, run_advance, h₁, run_expect]
    | leftBracket =>
      obtain ⟨es, p₁, h₁, r₁⟩ := run_items hr .rightBracket (p := p.past) hd
      refine ⟨some (.array es), p₁, ?_, .array h r₁⟩
      simp [operand, run_peek, h, run_advance, h₁]
    | illegal c =>
      exact ⟨none, _, by simp [operand, run_peek, h, run_advance, run_report], .illegal h⟩
    | _ => exact ⟨none, _, by simp [operand, run_peek, h, run_report], .startsNothing h trivial⟩

theorem run_operators (hr : Reads reader d) (q : Precedence) :
    ∀ (rounds : Nat) (left : Expr) (p : Parser), d ≤ p.depth → p.input.length < rounds →
      ∃ e p', (operators reader q rounds left).run p = some (e, p') ∧
        Run (.operators q left) p e.toList p' := by
  intro rounds
  induction rounds with
  | zero => intro left p _ h; omega
  | succ rounds ih =>
    intro left p hd hl
    cases h : p.input.head?.bind Token.binaryOp? with
    | none =>
      refine ⟨some left, p, ?_, .stop fun op ho => by rw [h] at ho; cases ho⟩
      simp [operators, run_peek, h]
    | some op =>
      by_cases hq : q < op.precedence
      · by_cases hm : p.depth < maxDepth
        · obtain ⟨e, p₁, h₁, r₁⟩ := hr op.precedence p.deeper.past (Nat.le_succ_of_le hd)
          have hs := r₁.input_suffix.length_le
          have : p.deeper.past.input.length < p.input.length := by
            cases ht : p.input with
            | nil => simp [ht] at h
            | cons t ts => simp [past_input, ht]
          cases e with
          | none =>
            refine ⟨some left, p₁, ?_, .foldLost h hq hm r₁⟩
            simp [operators, run_peek, h, hq, run_descend, hm, run_advance, h₁]
          | some right =>
            obtain ⟨e, p₂, h₂, r₂⟩ := ih (.binary op left right) p₁
              (by rw [r₁.depth_eq trivial]; exact Nat.le_succ_of_le hd) (by omega)
            refine ⟨e, p₂, ?_, .fold h hq hm r₁ r₂⟩
            simp [operators, run_peek, h, hq, run_descend, hm, run_advance, h₁, h₂]
        · refine ⟨none, _, ?_, .foldTooDeep h hq (Nat.le_of_not_lt hm)⟩
          simp [operators, run_peek, h, hq, run_descend, hm]
      · refine ⟨some left, p, ?_, .stop fun op' ho => by rw [h] at ho; cases ho; exact hq⟩
        simp [operators, run_peek, h, hq]

theorem run_chain (q : Precedence) {p : Parser}
    (hr : p.depth < maxDepth → Reads reader (p.depth + 1)) :
    ∃ e p', (chain reader q).run p = some (e, p') ∧
      Run (.expression q) p e.toList { p' with depth := p.depth } := by
  by_cases hm : p.depth < maxDepth
  · obtain ⟨e, p₁, h₁, r₁⟩ := run_operand (hr hm) (p := p.deeper) (Nat.le_refl _)
    cases e with
    | none =>
      refine ⟨none, p₁, ?_, .noOperand hm r₁⟩
      simp [chain, run_descend, hm, h₁]
    | some left =>
      obtain ⟨e, p₂, h₂, r₂⟩ := run_operators (hr hm) q (p₁.input.length + 1) left p₁
        (Nat.le_of_eq (r₁.depth_eq trivial).symm) (Nat.lt_succ_self _)
      refine ⟨e, p₂, ?_, .chain hm r₁ r₂⟩
      simp [chain, run_descend, hm, h₁, h₂]
  · refine ⟨none, p.overflow, ?_, .tooDeep (Nat.le_of_not_lt hm)⟩
    simp [chain, run_descend, hm]

end Parts

theorem run_expression {levels : Nat} {q : Precedence} {p p' : Parser} {e : Option Expr}
    (h : (chain (expression levels) q).run p = some (e, p')) :
    (expression (levels + 1) q).run p = some (e, { p' with depth := p.depth }) := by
  rw [expression]
  simp [h]

/-- With more levels of recursion than nesting permits, the parser has an outcome,
and it is that of a run. The depth of the state takes the place of the levels that
are used up. -/
theorem reads_expression : ∀ (levels d : Nat), maxDepth ≤ d + levels →
    Reads (expression (levels + 1)) d := by
  intro levels
  induction levels with
  | zero =>
    intro d hd q p hp
    obtain ⟨e, p', h, r⟩ := run_chain q (p := p)
      (fun hm => absurd hm (by omega))
    exact ⟨e, _, run_expression h, r⟩
  | succ levels ih =>
    intro d hd q p hp
    obtain ⟨e, p', h, r⟩ := run_chain q (p := p)
      (fun _ => ih _ (by omega))
    exact ⟨e, _, run_expression h, r⟩

/-- Reading an expression is a run, from every state. -/
theorem exists_run (q : Precedence) (p : Parser) :
    ∃ e p', p.parseExpression q = (e, p') ∧ Run (.expression q) p e.toList p' := by
  obtain ⟨e, p', h, r⟩ := reads_expression maxDepth 0 (by omega) q p (Nat.zero_le _)
  exact ⟨e, p', by rw [parseExpression, h]; rfl, r⟩

/-- The outcome for a whole input, given that for the expression at its start: there is
no tree past the limit on nesting, and a token that is left is an error. -/
def whole : Option Expr × Parser → Option Expr × Parser
  | (e, p) =>
    if p.tooDeep then (none, p)
    else
      match p.input.head? with
      | none => (e, p)
      | some token => (e, p.note (.trailing token))

theorem parse_eq_whole (p : Parser) : p.parse = whole (p.parseExpression .lowest) := rfl

end Parser

end StepCondition
