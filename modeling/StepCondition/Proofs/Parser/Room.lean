import StepCondition.Proofs.Parser.Height
import StepCondition.Proofs.Parser.Levels
import StepCondition.Proofs.Parser.Requests

/-!
# Room for small texts

Every level of nesting costs a token. That of an operand is paid by the token in front of
it. An operator takes two levels, one for itself and one for its right operand, but it is
one token only: the other level is paid by its left operand, which has been read by then.
So a text with fewer tokens than there are levels never goes past the limit, whatever
errors it has.

* `Run.within_limit`: no run goes past the limit from a state with room;
* `within_limit_of_few_tokens`: for every text, however often its parser is asked;
* `past_limit_of_groups`: with as many tokens as levels some text goes past it.
-/

namespace StepCondition

namespace Parser

/-- There are more levels left than tokens. -/
def HasRoom (p : Parser) : Prop := p.depth + p.tokensLeft < maxDepth

namespace HasRoom

variable {p q : Parser}

theorem of_le (h : p.HasRoom) (hd : q.depth = p.depth) (ht : q.tokensLeft ≤ p.tokensLeft) :
    q.HasRoom := by
  unfold HasRoom at h ⊢
  omega

/-- A level deeper there is room once a token has been taken. -/
theorem of_lt (h : p.HasRoom) (hd : q.depth = p.depth + 1) (ht : q.tokensLeft < p.tokensLeft) :
    q.HasRoom := by
  unfold HasRoom at h ⊢
  omega

theorem not_le (h : p.HasRoom) : ¬ maxDepth ≤ p.depth := by
  unfold HasRoom at h
  omega

theorem past (h : p.HasRoom) : p.past.HasRoom := h.of_le rfl (List.tail_suffix _).length_le

end HasRoom

/-- The room that a part needs. An operand is a level deeper than the expression it belongs
to, and has not taken its first token yet. -/
def Part.Room : Part → Parser → Prop
  | .operand, p => p.depth + p.tokensLeft ≤ maxDepth
  | _, p => p.HasRoom

theorem HasRoom.operand {p : Parser} (h : p.HasRoom) : Part.operand.Room p.deeper := by
  change p.depth + 1 + p.tokensLeft ≤ maxDepth
  unfold HasRoom at h
  omega

/-- There is room for what comes after the first token of an operand. -/
theorem HasRoom.of_operand {p : Parser} {t : Token} (h : Part.operand.Room p)
    (ht : p.input.head? = some t) : p.past.HasRoom := by
  change p.depth + p.tokensLeft ≤ maxDepth at h
  change p.depth + p.past.tokensLeft < maxDepth
  have := tokensLeft_past ht
  omega

theorem tokensLeft_past_lt {p : Parser} {op : BinaryOp}
    (h : p.input.head?.bind Token.binaryOp? = some op) : p.past.tokensLeft < p.tokensLeft := by
  obtain ⟨t, ht, -⟩ := Option.bind_eq_some_iff.mp h
  have := tokensLeft_past ht
  omega

/-- There is room for the right operand of an operator. -/
theorem HasRoom.fold {p : Parser} {op : BinaryOp} (h : p.HasRoom)
    (hop : p.input.head?.bind Token.binaryOp? = some op) : p.deeper.past.HasRoom :=
  h.of_lt rfl (tokensLeft_past_lt hop)

/-- The tree of an operand has taken a token. -/
theorem Run.tokensLeft_lt_of_operand {p q : Parser} {e : Expr} (h : Run .operand p [e] q) :
    q.tokensLeft < p.tokensLeft := by
  have := (h.bounds e List.mem_cons_self).height_le_taken
  have := e.one_le_height
  omega

/-- No run goes past the limit from a state with room for it. -/
theorem Run.within_limit {part : Part} {p q : Parser} {es : List Expr} (h : Run part p es q)
    (hr : part.Room p) (hp : p.tooDeep = false) : q.tooDeep = false := by
  induction h with
  | tooDeep h => exact absurd h hr.not_le
  | foldTooDeep _ _ hd => exact absurd hd hr.not_le
  | noOperand _ _ ih => exact ih hr.operand hp
  | chain _ h₁ _ ih₁ ih₂ =>
    exact ih₂ (hr.of_lt (h₁.depth_eq trivial) h₁.tokensLeft_lt_of_operand) (ih₁ hr.operand hp)
  | stop | noMore => exact hp
  | foldLost h _ _ _ ih => exact ih (hr.fold h) hp
  | fold h _ _ h₁ _ ih₁ ih₂ =>
    have ht := h₁.tokensLeft_le.trans_lt (tokensLeft_past_lt h)
    exact ih₂ (hr.of_lt (h₁.depth_eq trivial) ht) (ih₁ (hr.fold h) hp)
  | integer | string | regexp | boolean | identifier | noItems => exact hp
  | outOfRange | illegal | unexpectedEnd | startsNothing => rwa [note_tooDeep]
  | call h _ _ ih => exact ih (HasRoom.of_operand hr h).past hp
  | signed h _ ih | array h _ ih => exact ih (HasRoom.of_operand hr h) hp
  | group h _ ih => exact (closed_tooDeep ..).trans (ih (HasRoom.of_operand hr h) hp)
  | items _ h₁ _ ih₁ ih₂ =>
    have hmore := hr.of_le (h₁.depth_eq trivial) h₁.tokensLeft_le
    exact (closed_tooDeep ..).trans (ih₂ hmore (ih₁ hr hp))
  | more _ h₁ _ ih₁ ih₂ =>
    have hitem := HasRoom.past hr
    exact ih₂ (hitem.of_le (h₁.depth_eq trivial) h₁.tokensLeft_le) (ih₁ hitem hp)

/-! ## Whole texts -/

theorem HasRoom.answer {p : Parser} (h : p.HasRoom) (request : Request) :
    (p.answer request).2.HasRoom :=
  h.of_le (p.depth_answer request) ((kept_input p).answer request List.suffix_rfl).length_le

theorem tooDeep_answer {p : Parser} (h : p.HasRoom) (hp : p.tooDeep = false) (request : Request) :
    (p.answer request).2.tooDeep = false := by
  have within : ∀ q, (p.parseExpression q).2.tooDeep = false := fun q => by
    obtain ⟨e, p', hr, r⟩ := exists_run q p
    rw [hr]
    exact r.within_limit h hp
  cases request with
  | whole =>
    rw [Parser.answer, parse_eq_whole]
    obtain hw | ⟨token, hw⟩ := whole_snd (p.parseExpression .lowest)
    · rw [hw, within]
    · rw [hw, note_tooDeep, within]
  | expression q => exact within q

theorem tooDeep_after {p : Parser} (h : p.HasRoom) (hp : p.tooDeep = false)
    (requests : List Request) : (p.after requests).tooDeep = false := by
  induction requests generalizing p with
  | nil => exact hp
  | cons request requests ih => exact ih (h.answer request) (tooDeep_answer h hp request)

/-- A row of opening parentheses with as many of them as there are levels left. -/
theorem Run.groups_past_limit {prec : Precedence} {p q : Parser} {es : List Expr} {n : Nat}
    {ts : List Token} (h : Run (.expression prec) p es q)
    (hi : p.input = List.replicate n .leftParen ++ ts) (hd : maxDepth ≤ p.depth + n) :
    q.tooDeep = true := by
  induction n generalizing prec p q es with
  | zero =>
    cases h with
    | tooDeep => rfl
    | noOperand h | chain h => omega
  | succ n ih =>
    have group : ∀ {es p₁}, Run .operand p.deeper es p₁ → p₁.tooDeep = true := fun h => by
      have hh : p.deeper.input.head? = some .leftParen := by
        rw [deeper_input, hi]
        rfl
      have hinv := h.operand_inv
      rw [hh] at hinv
      obtain ⟨p₂, h₂, rfl⟩ := hinv
      have hpast : p.deeper.past.input = List.replicate n .leftParen ++ ts := by
        rw [past_input, deeper_input, hi]
        rfl
      rw [closed_tooDeep]
      exact ih h₂ hpast (by rw [past_depth, deeper_depth]; omega)
    cases h with
    | tooDeep => rfl
    | noOperand _ h₁ =>
      have hp := group h₁
      exact hp
    | chain _ h₁ h₂ => exact h₂.past_limit (group h₁)

end Parser

/-- A text with fewer tokens than there are levels never goes past the limit on nesting,
however often and for whatever its parser is asked. -/
theorem within_limit_of_few_tokens {text : String} (h : (tokens text.toList).length < maxDepth) :
    (∀ requests, SyntaxError.tooDeep.message ∉
      ((Parser.ofText text).after requests).errors.map SyntaxError.message) ∧
    ∀ es, parse text = .error es → SyntaxError.tooDeep.message ∉ es.map SyntaxError.message := by
  have hroom : (Parser.ofText text).HasRoom := by
    change 0 + (tokens text.toList).length < maxDepth
    omega
  have never : ∀ requests, SyntaxError.tooDeep.message ∉
      ((Parser.ofText text).after requests).errors.map SyntaxError.message := fun requests hm => by
    have hc := Parser.kept_consistent.after requests (Parser.consistent_ofText text)
    rw [hc.message_mem_iff, Parser.tooDeep_after hroom rfl requests] at hm
    exact Bool.false_ne_true hm
  refine ⟨never, fun es hes => ?_⟩
  obtain ⟨e, he, -⟩ | ⟨es', hes', -, herr⟩ := parse_ofText text
  · cases hes.symm.trans he
  · cases hes.symm.trans hes'
    exact herr ▸ never [.whole]

/-- One parenthesis less than there are levels leaves the error for nesting out. -/
theorem within_limit_of_few_groups :
    let text := String.ofList (List.replicate 255 '(')
    (tokens text.toList).length < maxDepth ∧
      (SyntaxError.tooDeep.message ∉
        ((Parser.ofText text).after [.whole, .expression .lowest]).errors.map
          SyntaxError.message) ∧
      ∀ es, parse text = .error es → SyntaxError.tooDeep.message ∉ es.map SyntaxError.message := by
  intro text
  have h : (tokens text.toList).length < maxDepth := by
    rw [String.toList_ofList, tokens_replicate_leftParen, List.length_replicate]
    decide
  exact ⟨h, (within_limit_of_few_tokens h).1 _, (within_limit_of_few_tokens h).2⟩

/-- With as many of them, nesting goes past the limit. -/
theorem past_limit_of_groups :
    let text := String.ofList (List.replicate maxDepth '(')
    (tokens text.toList).length = maxDepth ∧
      SyntaxError.tooDeep.message ∈ (Parser.ofText text).parse.2.errors.map SyntaxError.message := by
  intro text
  have ht : tokens text.toList = List.replicate maxDepth .leftParen := by
    rw [String.toList_ofList, tokens_replicate_leftParen]
  obtain ⟨e, p, hp, r⟩ := Parser.exists_run .lowest (.ofText text)
  have hi : (Parser.ofText text).input = List.replicate maxDepth .leftParen ++ [] := by
    rw [List.append_nil]
    exact ht
  have hp' : p.tooDeep = true := r.groups_past_limit hi (Nat.zero_add _).ge
  have hc := Parser.kept_consistent.answer .whole (Parser.consistent_ofText text)
  refine ⟨by rw [ht, List.length_replicate], hc.message_mem_iff.mpr ?_⟩
  rw [Parser.answer, Parser.parse_eq_whole, hp, Parser.whole, if_pos hp']
  exact hp'

end StepCondition
