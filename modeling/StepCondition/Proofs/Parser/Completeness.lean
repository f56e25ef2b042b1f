import StepCondition.Proofs.Parser.Run

/-!
# Reading a phrase

From a state in front of a phrase of the grammar, every run reads the phrase if
its nesting fits the limit, and else goes past the limit (`Derivation.whole`). In
both cases nothing else is noted.

A chain is built up from the left, while the loop over operators has the rest of
it still to come, so the statement for a phrase inside a chain (`Derivation.Spine`)
says where the loop goes on.
-/

namespace StepCondition

namespace Parser

/-- A parser with other tokens to read and at another depth. -/
def moved (p : Parser) (ts : List Token) (d : Nat) : Parser := { p with input := ts, depth := d }

/-- `q` has gone past the limit on nesting, and that is the only error since
`p`. -/
structure Overflown (p q : Parser) : Prop where
  tooDeep : q.tooDeep = true
  input : q.input = []
  found : q.found = .tooDeep :: p.found

theorem overflown_overflow {p : Parser} (hp : p.tooDeep = false) (ts : List Token) (d : Nat) :
    Overflown p (p.moved ts d).overflow :=
  ⟨rfl, rfl, overflow_found (p := p.moved ts d) hp⟩

theorem Overflown.run {p q q' : Parser} (h : Overflown p q) {part : Part} {es : List Expr}
    (r : Run part q es q') : Overflown p q' := by
  obtain ⟨ht, hi, hf⟩ := r.frozen h.tooDeep h.input
  exact ⟨ht, hi, hf.trans h.found⟩

theorem Overflown.closed {p q : Parser} (h : Overflown p q) (wanted : Token) :
    Overflown p (q.closed wanted) := by
  rw [closed_of_input_eq_nil h.input, note_of_tooDeep h.tooDeep]
  exact h

theorem closed_moved (p : Parser) (wanted : Token) (ts : List Token) (d : Nat) :
    (p.moved (wanted :: ts) d).closed wanted = p.moved ts d :=
  if_pos rfl

/-- What an operand is, by the token at its start. -/
theorem Run.operand_inv {p p' : Parser} {es : List Expr} (h : Run .operand p es p') :
    match p.input.head? with
    | some (.integer digits) =>
      (∃ n, integerOfDigits? digits = some n ∧ es = [.integer n] ∧ p' = p.past) ∨
        integerOfDigits? digits = none ∧ es = [] ∧ p' = p.past.note (.integerOutOfRange digits)
    | some (.string text) => es = [.string text] ∧ p' = p.past
    | some (.regexp pattern) => es = [.regexp pattern] ∧ p' = p.past
    | some (.boolean b) => es = [.boolean b] ∧ p' = p.past
    | some (.identifier name) =>
      p.past.input.head? ≠ some .leftParen ∧ es = [.identifier name] ∧ p' = p.past ∨
        p.past.input.head? = some .leftParen ∧
          ∃ args, Run (.items .rightParen) p.past.past args p' ∧ es = [.call name args]
    | some .bang => ∃ fs, Run (.expression .unary) p.past fs p' ∧ es = fs.map (.unary .not)
    | some .minus => ∃ fs, Run (.expression .unary) p.past fs p' ∧ es = fs.map (.unary .negate)
    | some .leftParen => ∃ p₁, Run (.expression .lowest) p.past es p₁ ∧ p' = p₁.closed .rightParen
    | some .leftBracket => ∃ fs, Run (.items .rightBracket) p.past fs p' ∧ es = [.array fs]
    | some (.illegal c) => es = [] ∧ p' = p.past.note (.illegalCharacter c)
    | some t => es = [] ∧ p' = p.note (.startsNoExpression t)
    | none => es = [] ∧ p' = p.note .unexpectedEnd := by
  cases h with
  | integer h hn => rw [h]; exact .inl ⟨_, hn, rfl, rfl⟩
  | outOfRange h hn => rw [h]; exact .inr ⟨hn, rfl, rfl⟩
  | identifier h hn => rw [h]; exact .inl ⟨hn, rfl, rfl⟩
  | call h hn h₁ => rw [h]; exact .inr ⟨hn, _, h₁, rfl⟩
  | @signed _ _ op _ h h₁ => rw [h]; cases op <;> exact ⟨_, h₁, rfl⟩
  | group h h₁ => rw [h]; exact ⟨_, h₁, rfl⟩
  | array h h₁ => rw [h]; exact ⟨_, h₁, rfl⟩
  | @startsNothing _ t h ht => rw [h]; cases t <;> first | exact ⟨rfl, rfl⟩ | exact ht.elim
  | string h | regexp h | boolean h | illegal h | unexpectedEnd h => rw [h]; exact ⟨rfl, rfl⟩

/-- A run is determined by where it starts. -/
theorem Run.unique {part : Part} {p q q' : Parser} {es es' : List Expr} (h : Run part p es q)
    (h' : Run part p es' q') : es' = es ∧ q' = q := by
  induction h generalizing es' q' with
  | tooDeep h =>
    cases h' with
    | tooDeep => exact ⟨rfl, rfl⟩
    | noOperand hd | chain hd => exact absurd h (Nat.not_le.mpr hd)
  | noOperand hd _ ih =>
    cases h' with
    | tooDeep h => exact absurd h (Nat.not_le.mpr hd)
    | noOperand _ h₁ =>
      obtain ⟨-, rfl⟩ := ih h₁
      exact ⟨rfl, rfl⟩
    | chain _ h₁ => cases (ih h₁).1
  | chain hd _ _ ih₁ ih₂ =>
    cases h' with
    | tooDeep h => exact absurd h (Nat.not_le.mpr hd)
    | noOperand _ h₁ => cases (ih₁ h₁).1
    | chain _ h₁ h₂ =>
      obtain ⟨⟨⟩, rfl⟩ := ih₁ h₁
      obtain ⟨rfl, rfl⟩ := ih₂ h₂
      exact ⟨rfl, rfl⟩
  | stop h =>
    cases h' with
    | stop => exact ⟨rfl, rfl⟩
    | foldTooDeep ho hq | foldLost ho hq | fold ho hq => exact absurd hq (h _ ho)
  | foldTooDeep h hq hd =>
    cases h' with
    | stop hs => exact absurd hq (hs _ h)
    | foldTooDeep => exact ⟨rfl, rfl⟩
    | foldLost _ _ hd' | fold _ _ hd' => exact absurd hd (Nat.not_le.mpr hd')
  | foldLost h hq hd _ ih =>
    cases h' with
    | stop hs => exact absurd hq (hs _ h)
    | foldTooDeep _ _ hd' => exact absurd hd' (Nat.not_le.mpr hd)
    | foldLost ho _ _ h₁ =>
      cases h.symm.trans ho
      exact ⟨rfl, (ih h₁).2⟩
    | fold ho _ _ h₁ =>
      cases h.symm.trans ho
      cases (ih h₁).1
  | fold h hq hd _ _ ih₁ ih₂ =>
    cases h' with
    | stop hs => exact absurd hq (hs _ h)
    | foldTooDeep _ _ hd' => exact absurd hd' (Nat.not_le.mpr hd)
    | foldLost ho _ _ h₁ =>
      cases h.symm.trans ho
      cases (ih₁ h₁).1
    | fold ho _ _ h₁ h₂ =>
      cases h.symm.trans ho
      obtain ⟨⟨⟩, rfl⟩ := ih₁ h₁
      exact ih₂ h₂
  | integer h hn =>
    have inv := h'.operand_inv
    rw [h] at inv
    obtain ⟨m, hm, he, hp⟩ | ⟨hm, -⟩ := inv
    · cases hn.symm.trans hm
      exact ⟨he, hp⟩
    · cases hn.symm.trans hm
  | outOfRange h hn =>
    have inv := h'.operand_inv
    rw [h] at inv
    obtain ⟨m, hm, -⟩ | ⟨-, inv⟩ := inv
    · cases hn.symm.trans hm
    · exact inv
  | string h | regexp h | boolean h | illegal h | unexpectedEnd h =>
    have inv := h'.operand_inv
    rwa [h] at inv
  | identifier h hn =>
    have inv := h'.operand_inv
    rw [h] at inv
    obtain ⟨-, inv⟩ | ⟨hc, -⟩ := inv
    · exact inv
    · exact absurd hc hn
  | call h hn _ ih =>
    have inv := h'.operand_inv
    rw [h] at inv
    obtain ⟨hc, -⟩ | ⟨-, args, h₁, rfl⟩ := inv
    · exact absurd hn hc
    · obtain ⟨rfl, rfl⟩ := ih h₁
      exact ⟨rfl, rfl⟩
  | @signed _ _ op _ h _ ih =>
    have inv := h'.operand_inv
    rw [h] at inv
    cases op <;>
    · obtain ⟨fs, h₁, rfl⟩ := inv
      obtain ⟨rfl, rfl⟩ := ih h₁
      exact ⟨rfl, rfl⟩
  | group h _ ih =>
    have inv := h'.operand_inv
    rw [h] at inv
    obtain ⟨p₁, h₁, rfl⟩ := inv
    obtain ⟨rfl, rfl⟩ := ih h₁
    exact ⟨rfl, rfl⟩
  | array h _ ih =>
    have inv := h'.operand_inv
    rw [h] at inv
    obtain ⟨fs, h₁, rfl⟩ := inv
    obtain ⟨rfl, rfl⟩ := ih h₁
    exact ⟨rfl, rfl⟩
  | @startsNothing _ t h ht =>
    have inv := h'.operand_inv
    rw [h] at inv
    cases t <;> first | exact inv | exact ht.elim
  | noItems h =>
    cases h' with
    | noItems => exact ⟨rfl, rfl⟩
    | items hn => exact absurd h hn
  | items hn _ _ ih₁ ih₂ =>
    cases h' with
    | noItems h => exact absurd h hn
    | items _ h₁ h₂ =>
      obtain ⟨rfl, rfl⟩ := ih₁ h₁
      obtain ⟨rfl, rfl⟩ := ih₂ h₂
      exact ⟨rfl, rfl⟩
  | noMore hn =>
    cases h' with
    | noMore => exact ⟨rfl, rfl⟩
    | more h => exact absurd h hn
  | more h _ _ ih₁ ih₂ =>
    cases h' with
    | noMore hn => exact absurd h hn
    | more _ h₁ h₂ =>
      obtain ⟨rfl, rfl⟩ := ih₁ h₁
      obtain ⟨rfl, rfl⟩ := ih₂ h₂
      exact ⟨rfl, rfl⟩

/-- What may follow a phrase: no operator that would become part of it, and no
parenthesis that would turn a name into a call. -/
structure Follows (g : Phrase) (ts : List Token) : Prop where
  stops : Stops g.level ts
  noCall : ts.head? ≠ some .leftParen

theorem Follows.of_le {g h : Phrase} {ts : List Token} (hs : Follows g ts)
    (hl : ¬ h.level < g.level) :
    Follows h ts := ⟨hs.stops.of_le hl, hs.noCall⟩

theorem follows_token {g : Phrase} {op : BinaryOp} (h : ¬ g.level < op.precedence)
    (ts : List Token) : Follows g (op.token :: ts) :=
  ⟨stops_token h ts, by cases op <;> nofun⟩

theorem follows_of_binaryOp? {t : Token} (h : t.binaryOp? = none) (ht : t ≠ .leftParen)
    (g : Phrase) (ts : List Token) : Follows g (t :: ts) :=
  ⟨stops_of_binaryOp? h _ _, fun e => ht (Option.some.inj e)⟩

/-- An operand and the operators after it. -/
def Chain (q : Precedence) (p : Parser) (es : List Expr) (p' : Parser) : Prop :=
  (es = [] ∧ Run .operand p [] p') ∨
    ∃ left p₁, Run .operand p [left] p₁ ∧ Run (.operators q left) p₁ es p'

end Parser

open StepCondition.Parser

theorem Token.not_startsNothing_token (op : UnaryOp) : ¬ op.token.startsNothing := by
  cases op <;> exact id

namespace Derivation

/-- A phrase starts with a token that can start an expression. -/
theorem tokens_head : {g : Phrase} → (c : Derivation g) →
    ∃ t ts, c.tokens = t :: ts ∧ ¬ t.startsNothing
  | _, wrap _ c => tokens_head c
  | _, chain op _ l r => by
    obtain ⟨t, ts, h, ht⟩ := tokens_head l
    exact ⟨t, _, by rw [tokens, h, List.cons_append], ht⟩
  | _, signed op x => ⟨_, _, by rw [tokens], Token.not_startsNothing_token op⟩
  | _, accessSigned l r => by
    obtain ⟨t, ts, h, ht⟩ := tokens_head l
    exact ⟨t, _, by rw [tokens, h, List.cons_append], ht⟩
  | _, integer _ _ _ | _, string _ | _, regexp _ | _, boolean _ | _, identifier _ =>
    ⟨_, _, by rw [tokens], id⟩
  | _, call _ _ | _, group _ | _, array _ => ⟨_, _, by rw [tokens]; rfl, id⟩
termination_by structural _ c => c

/-! ## What a run makes of a phrase -/

/-- Where the loop over operators goes on after a phrase at the front of a
chain. -/
def Spine {g : Phrase} (c : Derivation g) : Prop :=
  ∀ ⦃q : Precedence⦄ ⦃p p' : Parser⦄ ⦃d : Nat⦄ ⦃es : List Expr⦄ ⦃rest : List Token⦄,
    p.tooDeep = false → g.TighterThan q → Follows g rest → d < maxDepth →
    Chain q (p.moved (c.tokens ++ rest) (d + 1)) es p' →
    (d + c.nesting ≤ maxDepth →
      Run (.operators q c.tree) (p.moved rest (d + 1 + c.folds)) es p') ∧
    (maxDepth < d + c.nesting → Overflown p p')

/-- What an expression reads of a phrase. -/
def Whole {g : Phrase} (c : Derivation g) : Prop :=
  ∀ ⦃q : Precedence⦄ ⦃p p' : Parser⦄ ⦃d : Nat⦄ ⦃es : List Expr⦄ ⦃rest : List Token⦄,
    p.tooDeep = false → g.TighterThan q → Follows g rest → Stops q rest →
    Run (.expression q) (p.moved (c.tokens ++ rest) d) es p' →
    (d + c.nesting ≤ maxDepth → es = [c.tree] ∧ p' = p.moved rest d) ∧
    (maxDepth < d + c.nesting → Overflown p p')

/-- What an operand reads of a phrase without operators. -/
def Atom {g : Phrase} (c : Derivation g) : Prop :=
  ∀ ⦃p p' : Parser⦄ ⦃d : Nat⦄ ⦃es : List Expr⦄ ⦃rest : List Token⦄,
    p.tooDeep = false → Follows g rest → d < maxDepth →
    Run .operand (p.moved (c.tokens ++ rest) (d + 1)) es p' →
    (d + c.nesting ≤ maxDepth → es = [c.tree] ∧ p' = p.moved rest (d + 1)) ∧
    (maxDepth < d + c.nesting → Overflown p p')

theorem Spine.whole {g : Phrase} {c : Derivation g} (hc : c.Spine) : c.Whole := by
  intro q p p' d es rest hp hg hs hq h
  have hn := c.nesting_pos
  -- An expression is its operand and operators, at the depth from which it started.
  have chain : ∀ {p₁}, d < maxDepth → Chain q (p.moved (c.tokens ++ rest) (d + 1)) es p₁ →
      (d + c.nesting ≤ maxDepth → es = [c.tree] ∧ { p₁ with depth := d } = p.moved rest d) ∧
      (maxDepth < d + c.nesting → Overflown p { p₁ with depth := d }) := fun hd h => by
    obtain ⟨hf, ho⟩ := hc hp hg hs hd h
    refine ⟨fun hl => ?_, fun hl => ⟨(ho hl).tooDeep, (ho hl).input, (ho hl).found⟩⟩
    cases hf hl with
    | stop => exact ⟨rfl, rfl⟩
    | foldTooDeep hop hlt | foldLost hop hlt | fold hop hlt => exact absurd hlt (hq _ hop)
  cases h with
  | tooDeep h =>
    change maxDepth ≤ d at h
    refine ⟨fun hl => by omega, fun _ => ?_⟩
    have ho := overflown_overflow hp (c.tokens ++ rest) d
    exact ⟨ho.tooDeep, ho.input, ho.found⟩
  | noOperand hd h₁ => exact chain hd (.inl ⟨rfl, h₁⟩)
  | chain hd h₁ h₂ => exact chain hd (.inr ⟨_, _, h₁, h₂⟩)

theorem Atom.spine {g : Phrase} {c : Derivation g} (hc : c.Atom) (h0 : c.folds = 0) : c.Spine := by
  intro q p p' d es rest hp _ hs hd h
  rw [h0]
  obtain ⟨rfl, h⟩ | ⟨left, p₁, h₁, h₂⟩ := h
  · obtain ⟨hf, ho⟩ := hc hp hs hd h
    exact ⟨fun hl => (by cases (hf hl).1), ho⟩
  · obtain ⟨hf, ho⟩ := hc hp hs hd h₁
    refine ⟨fun hl => ?_, fun hl => (ho hl).run h₂⟩
    obtain ⟨he, rfl⟩ := hf hl
    cases he
    exact h₂

/-- An operator and its right operand, in the loop over operators. -/
theorem Whole.fold {h : Phrase} {r : Derivation h} (hr : r.Whole) {q : Precedence} {op : BinaryOp}
    (hq : q < op.precedence) (hh : h.TighterThan op.precedence) {p p' : Parser} {d : Nat}
    {es : List Expr} {left : Expr} {rest : List Token} (hp : p.tooDeep = false)
    (hs : Follows h rest) (ho : Stops op.precedence rest)
    (run : Run (.operators q left) (p.moved (op.token :: (r.tokens ++ rest)) d) es p') :
    (d + 1 + r.nesting ≤ maxDepth →
      Run (.operators q (.binary op left r.tree)) (p.moved rest (d + 1)) es p') ∧
    (maxDepth < d + 1 + r.nesting → Overflown p p') := by
  have next : ∀ {op'}, (p.moved (op.token :: (r.tokens ++ rest)) d).input.head?.bind
      Token.binaryOp? = some op' → op' = op := fun h => by simpa [moved, eq_comm] using h
  cases run with
  | stop h => exact absurd hq (h op (by simp [moved]))
  | foldTooDeep h _ hd =>
    change maxDepth ≤ d at hd
    exact ⟨fun hl => by omega, fun _ => overflown_overflow hp _ _⟩
  | foldLost h _ _ h₁ =>
    cases next h
    obtain ⟨hf, ho⟩ := hr (d := d + 1) hp hh hs ho h₁
    exact ⟨fun hl => (by cases (hf hl).1), ho⟩
  | fold h _ _ h₁ h₂ =>
    cases next h
    obtain ⟨hf, ho⟩ := hr (d := d + 1) hp hh hs ho h₁
    refine ⟨fun hl => ?_, fun hl => (ho hl).run h₂⟩
    obtain ⟨he, rfl⟩ := hf hl
    cases he
    exact h₂

/-! ## The kinds of phrases -/

theorem Spine.wrap {g h : Phrase} {c : Derivation h} (hc : c.Spine) (k : g.Wraps h) :
    (Derivation.wrap k c).Spine := fun _ _ _ _ _ _ hp hg hs hd run =>
  hc hp (k.tighterThan hg) (hs.of_le k.level_le) hd run

/-- A phrase at the front of a chain, an operator and its right operand. -/
theorem Spine.fold {g h : Phrase} {l : Derivation g} {r : Derivation h} (hl : l.Spine)
    (hr : r.Whole) {q : Precedence} (op : BinaryOp) {p p' : Parser} {d : Nat} {es : List Expr}
    {rest : List Token} (hp : p.tooDeep = false) (hg : g.TighterThan q)
    (hop : ¬ g.level < op.precedence) (hq : q < op.precedence) (hh : h.TighterThan op.precedence)
    (hs : Follows h rest) (ho : Stops op.precedence rest) (hd : d < maxDepth)
    (run : Chain q (p.moved (l.tokens ++ op.token :: r.tokens ++ rest) (d + 1)) es p') :
    (d + max l.nesting (l.folds + 2 + r.nesting) ≤ maxDepth →
      Run (.operators q (.binary op l.tree r.tree)) (p.moved rest (d + 1 + (l.folds + 1))) es p') ∧
    (maxDepth < d + max l.nesting (l.folds + 2 + r.nesting) → Overflown p p') := by
  rw [List.append_assoc, List.cons_append] at run
  obtain ⟨hlf, hlo⟩ := hl hp hg (follows_token hop _) hd run
  have right := fun hm => hr.fold hq hh hp hs ho (hlf hm)
  refine ⟨fun hm => (right (by omega)).1 (by omega), fun hm => ?_⟩
  by_cases hm' : maxDepth < d + l.nesting
  · exact hlo hm'
  · exact (right (by omega)).2 (by omega)

theorem Spine.chain {g h : Phrase} {op : BinaryOp} {l : Derivation g} {r : Derivation h}
    (hl : l.Spine) (hr : r.Whole) (k : g.Chains op h) : (Derivation.chain op k l r).Spine :=
  fun _ _ _ _ _ _ hp hg hs hd run =>
    hl.fold hr op hp hg (by rw [k.level_eq]; exact Nat.lt_irrefl _) (k.lt_precedence hg)
      k.right_tighterThan (hs.of_le k.right_level_le) (k.level_eq ▸ hs.stops) hd run

theorem Spine.accessSigned {l : Derivation .path} {r : Derivation .signed} (hl : l.Spine)
    (hr : r.Whole) : (Derivation.accessSigned l r).Spine :=
  fun _ _ _ _ _ _ hp hg hs hd run =>
    hl.fold hr .access hp hg (by decide) (hg _ rfl) (by decide) (hs.of_le (by decide))
      (stops_access _) hd run

/-- An operand of one token, which no run fails to read. -/
theorem atom_of_token {g : Phrase} {c : Derivation g} {t : Token} (ht : c.tokens = [t])
    (hn : c.nesting = 1)
    (run : ∀ {p p' : Parser} {es : List Expr}, p.input.head? = some t →
      p.past.input.head? ≠ some .leftParen → Run .operand p es p' → es = [c.tree] ∧ p' = p.past) :
    c.Atom := by
  intro p p' d es rest hp hs hd h
  rw [ht] at h
  rw [hn]
  exact ⟨fun _ => run (p := p.moved (t :: rest) (d + 1)) rfl hs.noCall h,
    fun hl => absurd hl (Nat.not_lt.mpr hd)⟩

theorem atom_integer (digits : String) (n : Int64) (hn : integerOfDigits? digits = some n) :
    (integer digits n hn).Atom := by
  refine atom_of_token rfl rfl fun ht _ h => ?_
  have h := h.operand_inv
  rw [ht] at h
  obtain ⟨m, hm, he, hp⟩ | ⟨hm, _⟩ := h
  · cases hn.symm.trans hm
    exact ⟨he, hp⟩
  · cases hn.symm.trans hm

theorem atom_identifier (name : String) : (identifier name).Atom := by
  refine atom_of_token rfl rfl fun ht hn h => ?_
  have h := h.operand_inv
  rw [ht] at h
  obtain ⟨_, he, hp⟩ | ⟨hm, _⟩ := h
  · exact ⟨he, hp⟩
  · exact absurd hm hn

theorem atom_string (text : String) : (string text).Atom :=
  atom_of_token rfl rfl fun ht _ h => by have h := h.operand_inv; rwa [ht] at h

theorem atom_regexp (pattern : String) : (regexp pattern).Atom :=
  atom_of_token rfl rfl fun ht _ h => by have h := h.operand_inv; rwa [ht] at h

theorem atom_boolean (b : Bool) : (boolean b).Atom :=
  atom_of_token rfl rfl fun ht _ h => by have h := h.operand_inv; rwa [ht] at h

theorem atom_signed (op : UnaryOp) {x : Derivation .unary} (hx : x.Whole) : (signed op x).Atom := by
  intro p p' d es rest hp hs hd run
  rw [tree, nesting]
  have inner : ∀ {fs}, Run (.expression .unary) (p.moved (x.tokens ++ rest) (d + 1)) fs p' →
      es = fs.map (.unary op) →
      (d + (x.nesting + 1) ≤ maxDepth → es = [.unary op x.tree] ∧ p' = p.moved rest (d + 1)) ∧
      (maxDepth < d + (x.nesting + 1) → Overflown p p') := fun h he => by
    obtain ⟨hf, ho⟩ := hx hp (by decide) (hs.of_le (by decide)) hs.stops h
    refine ⟨fun hl => ?_, fun hl => ho (by omega)⟩
    obtain ⟨rfl, rfl⟩ := hf (by omega)
    exact ⟨he, rfl⟩
  cases op <;> obtain ⟨fs, h, he⟩ := run.operand_inv <;> exact inner h he

theorem atom_group {c : Derivation .or} (hc : c.Whole) : (group c).Atom := by
  intro p p' d es rest hp _ hd run
  rw [tree, nesting]
  obtain ⟨p₁, h, rfl⟩ := run.operand_inv
  change Run _ (p.moved (c.tokens ++ [.rightParen] ++ rest) (d + 1)) _ _ at h
  rw [List.append_assoc] at h
  obtain ⟨hf, ho⟩ := hc (q := .lowest) hp (by decide) (follows_of_binaryOp? rfl (by decide) _ _)
    (stops_of_binaryOp? rfl _ _) h
  refine ⟨fun hl => ?_, fun hl => (ho (by omega)).closed _⟩
  obtain ⟨rfl, rfl⟩ := hf (by omega)
  exact ⟨rfl, closed_moved ..⟩

/-! ## Items -/

/-- What stands after an item: a comma or the closing token. -/
theorem follows_item {closing : Token} (hc : closing = .rightParen ∨ closing = .rightBracket)
    (cs : List (Derivation .or)) (rest : List Token) (g : Phrase) (q : Precedence) :
    Follows g ((cs.flatMap fun c => .comma :: c.tokens) ++ closing :: rest) ∧
      Stops q ((cs.flatMap fun c => .comma :: c.tokens) ++ closing :: rest) := by
  cases cs with
  | nil =>
    obtain rfl | rfl := hc <;>
      exact ⟨follows_of_binaryOp? rfl (by nofun) _ _, stops_of_binaryOp? rfl _ _⟩
  | cons c cs => exact ⟨follows_of_binaryOp? rfl (by nofun) _ _, stops_of_binaryOp? rfl _ _⟩

section Items

variable {closing : Token} (hc : closing = .rightParen ∨ closing = .rightBracket)
  {p p' : Parser} {d : Nat} {es : List Expr} {rest : List Token} (hp : p.tooDeep = false)
  (hd : d ≤ maxDepth)

include hc hp hd

/-- What is read of the items after the first one. -/
theorem run_moreItems {cs : List (Derivation .or)} (hcs : ∀ c ∈ cs, c.Whole)
    (run : Run .moreItems (p.moved ((cs.flatMap fun c => .comma :: c.tokens) ++ closing :: rest) d)
      es p') :
    (d + nestingAll cs ≤ maxDepth → es = trees cs ∧ p' = p.moved (closing :: rest) d) ∧
    (maxDepth < d + nestingAll cs → Overflown p p') := by
  induction cs generalizing es with
  | nil =>
    cases run with
    | noMore => exact ⟨fun _ => ⟨rfl, rfl⟩, fun hl => absurd hl (Nat.not_lt.mpr hd)⟩
    | more h => obtain rfl | rfl := hc <;> cases h
  | cons c cs ih =>
    rw [nestingAll]
    cases run with
    | noMore h => exact absurd rfl h
    | more _ h₁ h₂ =>
      rw [List.flatMap_cons, List.append_assoc] at h₁
      obtain ⟨hf, hs⟩ := follows_item hc cs rest .or .lowest
      obtain ⟨hw, ho⟩ := hcs c List.mem_cons_self (d := d) hp (by decide) hf hs h₁
      by_cases hl : d + c.nesting ≤ maxDepth
      · obtain ⟨rfl, rfl⟩ := hw hl
        obtain ⟨hi, ho'⟩ := ih (fun c hc => hcs c (List.mem_cons_of_mem _ hc)) h₂
        refine ⟨fun hm => ?_, fun hm => ho' (by omega)⟩
        obtain ⟨rfl, rfl⟩ := hi (by omega)
        exact ⟨rfl, rfl⟩
      · exact ⟨fun hm => by omega, fun _ => (ho (by omega)).run h₂⟩

/-- What is read of the items up to a closing token. -/
theorem run_items {cs : List (Derivation .or)} (hcs : ∀ c ∈ cs, c.Whole)
    (run : Run (.items closing) (p.moved (tokensAll cs ++ closing :: rest) d) es p') :
    (d + nestingAll cs ≤ maxDepth → es = trees cs ∧ p' = p.moved rest d) ∧
    (maxDepth < d + nestingAll cs → Overflown p p') := by
  cases cs with
  | nil =>
    cases run with
    | noItems => exact ⟨fun _ => ⟨rfl, rfl⟩, fun hl => absurd hl (Nat.not_lt.mpr hd)⟩
    | items h => exact absurd rfl h
  | cons c cs =>
    rw [tokensAll_cons, List.append_assoc] at run
    rw [nestingAll]
    cases run with
    | noItems h =>
      obtain ⟨t, ts, ht, hs⟩ := c.tokens_head
      rw [ht] at h
      cases h
      obtain rfl | rfl := hc <;> exact absurd trivial hs
    | items _ h₁ h₂ =>
      obtain ⟨hf, hs⟩ := follows_item hc cs rest .or .lowest
      obtain ⟨hw, ho⟩ := hcs c List.mem_cons_self (d := d) hp (by decide) hf hs h₁
      by_cases hl : d + c.nesting ≤ maxDepth
      · obtain ⟨rfl, rfl⟩ := hw hl
        obtain ⟨hi, ho'⟩ :=
          run_moreItems hc hp hd (fun c hc => hcs c (List.mem_cons_of_mem _ hc)) h₂
        refine ⟨fun hm => ?_, fun hm => (ho' (by omega)).closed _⟩
        obtain ⟨rfl, rfl⟩ := hi (by omega)
        exact ⟨rfl, closed_moved ..⟩
      · exact ⟨fun hm => by omega, fun _ => ((ho (by omega)).run h₂).closed _⟩

end Items

theorem atom_call (name : String) {args : List (Derivation .or)} (ha : ∀ c ∈ args, c.Whole) :
    (call name args).Atom := by
  intro p p' d es rest hp hs hd run
  rw [tree, nesting]
  obtain ⟨hn, _⟩ | ⟨_, fs, h, he⟩ := run.operand_inv
  · exact absurd rfl hn
  · change Run _ (p.moved (tokensAll args ++ [.rightParen] ++ rest) (d + 1)) _ _ at h
    rw [List.append_assoc] at h
    obtain ⟨hf, ho⟩ := run_items (.inl rfl) hp hd ha h
    refine ⟨fun hl => ?_, fun hl => ho (by omega)⟩
    obtain ⟨rfl, rfl⟩ := hf (by omega)
    exact ⟨he, rfl⟩

theorem atom_array {items : List (Derivation .or)} (hi : ∀ c ∈ items, c.Whole) :
    (array items).Atom := by
  intro p p' d es rest hp hs hd run
  rw [tree, nesting]
  obtain ⟨fs, h, he⟩ := run.operand_inv
  change Run _ (p.moved (tokensAll items ++ [.rightBracket] ++ rest) (d + 1)) _ _ at h
  rw [List.append_assoc] at h
  obtain ⟨hf, ho⟩ := run_items (.inr rfl) hp hd hi h
  refine ⟨fun hl => ?_, fun hl => ho (by omega)⟩
  obtain ⟨rfl, rfl⟩ := hf (by omega)
  exact ⟨he, rfl⟩

/-! ## All phrases -/

mutual

theorem spine : {g : Phrase} → (c : Derivation g) → c.Spine
  | _, wrap k c => (spine c).wrap k
  | _, chain _ k l r => (spine l).chain (spine r).whole k
  | _, signed op x => (atom_signed op (spine x).whole).spine rfl
  | _, accessSigned l r => (spine l).accessSigned (spine r).whole
  | _, integer digits n h => (atom_integer digits n h).spine rfl
  | _, string text => (atom_string text).spine rfl
  | _, regexp pattern => (atom_regexp pattern).spine rfl
  | _, boolean b => (atom_boolean b).spine rfl
  | _, identifier name => (atom_identifier name).spine rfl
  | _, call name args => (atom_call name (whole_of_mem args)).spine rfl
  | _, group c => (atom_group (spine c).whole).spine rfl
  | _, array items => (atom_array (whole_of_mem items)).spine rfl

theorem whole_of_mem : (cs : List (Derivation .or)) → ∀ c ∈ cs, c.Whole
  | [], _, h => nomatch h
  | c :: cs, d, h => (List.mem_cons.mp h).elim (fun e => e ▸ (spine c).whole)
      (whole_of_mem cs d)

end

/-- Every run in front of a phrase reads it if its nesting fits the limit, and else
goes past the limit. -/
theorem whole {g : Phrase} (c : Derivation g) : c.Whole := c.spine.whole

end Derivation

end StepCondition
