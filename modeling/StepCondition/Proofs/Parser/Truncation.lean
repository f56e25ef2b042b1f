import Mathlib.Data.List.Infix
import StepCondition.Proofs.Parser.Soundness
import StepCondition.Proofs.Parser.Completeness

/-!
# Truncated conditions

A condition that breaks off before its last closing tokens is read like the whole one.
Where a closing token is missing, the parser notes that and goes on as if it had been
there, so no part of the tree is lost and nothing else is noted.

The run of the whole condition is followed step by step (`Run.truncated`). As long as there
are tokens in front of the closing ones, the truncated condition has the same next token.
After that every step of the whole goes past a closing token, and the truncated one notes
that it is missing. The one thing that must not happen is that a closing token follows its
opening one at once: an expression would be read in the place of an empty list.

* `Run.truncated`: the run of a truncated condition, from that of the whole;
* `parse_truncated`: its tree and its errors.
-/

namespace StepCondition

/-- A token that opens a group, a list of arguments or an array. -/
def Token.opens : Token → Bool
  | leftParen | leftBracket => true
  | _ => false

/-- A token that closes one. -/
def Token.closes : Token → Bool
  | rightParen | rightBracket => true
  | _ => false

theorem Token.closes_of_binaryOp? {t : Token} {op : BinaryOp} (h : t.binaryOp? = some op) :
    t.closes = false := by
  cases t <;> first | rfl | cases h

namespace Parser

/-- A parser before the first of some tokens. -/
def ofTokens (ts : List Token) : Parser := { input := ts }

/-! ## Noting several errors -/

/-- A parser that has noted some errors, one after the other. -/
def noteAll (p : Parser) (es : List SyntaxError) : Parser := es.foldl note p

theorem noteAll_concat (p : Parser) (es : List SyntaxError) (e : SyntaxError) :
    p.noteAll (es ++ [e]) = (p.noteAll es).note e := List.foldl_append

/-- What one error leaves alone, several errors do. -/
theorem noteAll_eq_of_note {α : Type} {f : Parser → α} (hf : ∀ p e, f (note p e) = f p)
    (p : Parser) (es : List SyntaxError) : f (p.noteAll es) = f p := by
  induction es generalizing p with
  | nil => rfl
  | cons e es ih => exact (ih (p.note e)).trans (hf p e)

theorem noteAll_input (p : Parser) (es : List SyntaxError) : (p.noteAll es).input = p.input :=
  noteAll_eq_of_note note_input p es

theorem noteAll_depth (p : Parser) (es : List SyntaxError) : (p.noteAll es).depth = p.depth :=
  noteAll_eq_of_note note_depth p es

theorem noteAll_tooDeep (p : Parser) (es : List SyntaxError) :
    (p.noteAll es).tooDeep = p.tooDeep :=
  noteAll_eq_of_note note_tooDeep p es

theorem noteAll_found {p : Parser} (h : p.tooDeep = false) (es : List SyntaxError) :
    (p.noteAll es).found = es.reverse ++ p.found := by
  induction es generalizing p with
  | nil => rfl
  | cons e es ih =>
    rw [List.reverse_cons, List.append_assoc, List.singleton_append, ← note_found h]
    exact ih ((note_tooDeep ..).trans h)

theorem noteAll_withDepth (p : Parser) (es : List SyntaxError) (d : Nat) :
    { p.noteAll es with depth := d } = ({ p with depth := d } : Parser).noteAll es := by
  induction es generalizing p with
  | nil => rfl
  | cons e es ih =>
    have hn : { p.note e with depth := d } = ({ p with depth := d } : Parser).note e := by
      unfold note
      split <;> rfl
    refine (ih (p.note e)).trans ?_
    rw [hn]
    rfl

/-! ## The state of a truncated parser -/

variable {closers : List Token} {p : Parser}

/-- The parser of a condition without its last `closers`, where that of the whole is `p`:
there are no closing tokens left, and those that the other one has gone past are noted as
missing. -/
def truncated (closers : List Token) (p : Parser) : Parser :=
  ({ p with input := p.input.take (p.input.length - closers.length) } : Parser).noteAll
    ((closers.take (closers.length - p.input.length)).map (.expected · none))

@[simp] theorem truncated_depth : (p.truncated closers).depth = p.depth := noteAll_depth ..

theorem truncated_input :
    (p.truncated closers).input = p.input.take (p.input.length - closers.length) := noteAll_input ..

theorem truncated_withDepth (p : Parser) (d : Nat) :
    { p.truncated closers with depth := d } = ({ p with depth := d } : Parser).truncated closers :=
  noteAll_withDepth ..

theorem truncated_deeper (p : Parser) :
    p.deeper.truncated closers = (p.truncated closers).deeper := by
  unfold deeper
  rw [truncated_depth, truncated_withDepth]

/-- A truncated parser has the next token of the whole one, or none. -/
theorem head?_of_truncated {t : Token} (h : (p.truncated closers).input.head? = some t) :
    p.input.head? = some t := by
  rw [truncated_input, List.head?_take] at h
  split at h
  · cases h
  · exact h

theorem truncated_of_le (h : closers.length ≤ p.input.length) :
    p.truncated closers =
      { p with input := p.input.take (p.input.length - closers.length) } := by
  rw [truncated, Nat.sub_eq_zero_of_le h]
  rfl

theorem head?_truncated (h : closers.length < p.input.length) :
    (p.truncated closers).input.head? = p.input.head? := by
  rw [truncated_input, List.head?_take, if_neg (by omega)]

theorem truncated_past (h : closers.length < p.input.length) :
    p.past.truncated closers = (p.truncated closers).past := by
  obtain ⟨t, ts, hi⟩ := List.exists_cons_of_length_pos (Nat.zero_lt_of_lt h)
  have hpast : p.past.input = ts := by rw [past_input, hi]; rfl
  rw [truncated_of_le (Nat.le_of_lt h), hi]
  rw [hi, List.length_cons] at h
  have hl : ts.length + 1 - closers.length = ts.length - closers.length + 1 := by omega
  rw [truncated_of_le (by rw [hpast]; exact Nat.le_of_lt_succ h), hpast, List.length_cons, hl]
  rfl

/-! ## Conditions that end in closing tokens -/

/-- Some tokens end in some closing ones, and none of these follows an opening token at
once. -/
structure EndsIn (closers ts : List Token) : Prop where
  closes : ∀ t ∈ closers, t.closes = true
  suffix : closers <:+ ts
  filled : ∀ t rest, t :: rest <:+ ts → t.opens = true → closers.length < rest.length

/-- One token further, one more closing token is missing. -/
theorem take_of_suffix {t : Token} {ts : List Token} (h : t :: ts <:+ closers) :
    closers.take (closers.length - ts.length) =
      closers.take (closers.length - (t :: ts).length) ++ [t] := by
  obtain ⟨front, rfl⟩ := h
  have hbefore : (front ++ t :: ts).length - (t :: ts).length = front.length := by
    rw [List.length_append, Nat.add_sub_cancel]
  have hafter : (front ++ t :: ts).length - ts.length = front.length + 1 := by
    rw [List.length_append, List.length_cons]
    omega
  rw [hbefore, hafter, List.take_length_add_append, List.take_left]
  rfl

theorem endsIn_append {kept closers : List Token} (hc : ∀ t ∈ closers, t.closes = true)
    (hk : ∀ t, kept.getLast? = some t → t.opens = false) : EndsIn closers (kept ++ closers) where
  closes := hc
  suffix := List.suffix_append ..
  filled := by
    rintro t rest ⟨front, hf⟩ ht
    have hmem : t ∉ closers := fun hm => by
      have := hc t hm
      cases t <;> cases ht <;> cases this
    obtain ⟨ts, hts, hr⟩ | ⟨ts, -, hr⟩ := List.append_eq_append_iff.mp hf
    · cases ts with
      | nil =>
        rw [List.nil_append] at hr
        exact absurd (hr ▸ List.mem_cons_self) hmem
      | cons u us =>
        obtain ⟨rfl, rfl⟩ := List.cons.inj hr
        cases us with
        | nil =>
          have := hk t (by rw [hts, List.getLast?_concat])
          rw [ht] at this
          cases this
        | cons u us =>
          change closers.length < (u :: (us ++ closers)).length
          rw [List.length_cons, List.length_append]
          omega
    · exact absurd (hr ▸ List.mem_append_right _ List.mem_cons_self) hmem

namespace EndsIn

variable {ts : List Token} (h : EndsIn closers ts) (hp : p.input <:+ ts)

include h hp

theorem suffix_of_le (hl : p.input.length ≤ closers.length) : p.input <:+ closers :=
  List.suffix_of_suffix_length_le hp h.suffix hl

/-- In front of a token that closes nothing, a parser is in front of the closing tokens. -/
theorem length_lt {t : Token} (ht : p.input.head? = some t) (hc : t.closes = false) :
    closers.length < p.input.length := by
  refine Nat.lt_of_not_le fun hl => ?_
  have := h.closes t ((h.suffix_of_le hp hl).subset (List.mem_of_head? ht))
  rw [hc] at this
  cases this

theorem length_past_lt {t : Token} (ht : p.input.head? = some t) (ho : t.opens = true) :
    closers.length < p.past.input.length :=
  h.filled t _ (input_of_head? ht ▸ hp) ho

/-- Where the whole goes past a closing token, it is noted as missing once there are no
other tokens left. -/
theorem truncated_closed {wanted : Token} (hq : (p.closed wanted).Clean) :
    (p.closed wanted).truncated closers = (p.truncated closers).closed wanted := by
  have hi := (clean_closed hq).2
  have hh : p.input.head? = some wanted := by rw [hi]; rfl
  have hc : p.closed wanted = p.past := if_pos hh
  rw [hc] at hi ⊢
  by_cases hl : closers.length < p.input.length
  · have ht : (p.truncated closers).input.head? = some wanted := (head?_truncated hl).trans hh
    rw [truncated_past hl, closed, if_pos ht]
  · have hle := Nat.le_of_not_lt hl
    have hs : wanted :: p.past.input <:+ closers := hi ▸ h.suffix_of_le hp hle
    have hnone : p.past.input.length - closers.length = 0 :=
      Nat.sub_eq_zero_of_le ((Nat.le_succ _).trans hs.length_le)
    have ht : (p.truncated closers).input = [] := by
      rw [truncated_input, Nat.sub_eq_zero_of_le hle, List.take_zero]
    rw [closed_of_input_eq_nil ht, truncated, take_of_suffix hs, ← hi, List.map_append,
      List.map_singleton, noteAll_concat, truncated, hnone, Nat.sub_eq_zero_of_le hle]
    rfl

end EndsIn

/-! ## The run of a truncated condition -/

/-- What a part asks of the state in which it starts: a list is not closed at once. -/
def Part.Filled (closers : List Token) : Part → Parser → Prop
  | .items _, p => closers.length < p.input.length
  | _, _ => True

/-- A run without errors, for the tokens without their closing ones: it has the same trees,
and notes each token that is missing when the whole goes past it. -/
theorem Run.truncated {ts : List Token} (he : EndsIn closers ts) {part : Part} {p q : Parser}
    {es : List Expr} (h : Run part p es q) (hq : q.Clean) (hp : p.input <:+ ts)
    (hf : part.Filled closers p) : Run part (p.truncated closers) es (q.truncated closers) := by
  -- In front of a token that closes nothing, both parsers have it before them.
  have before : ∀ {p : Parser} {t}, p.input <:+ ts → p.input.head? = some t → t.closes = false →
      closers.length < p.input.length ∧ (p.truncated closers).input.head? = some t :=
    fun hp ht hc => ⟨he.length_lt hp ht hc, (head?_truncated (he.length_lt hp ht hc)).trans ht⟩
  induction h with
  | tooDeep | foldTooDeep => exact absurd hq (not_clean_overflow _)
  | outOfRange | illegal | unexpectedEnd | startsNothing => exact absurd hq (not_clean_note _ _)
  | noOperand _ h₁ | foldLost _ _ _ h₁ =>
    obtain ⟨_, _, _, _, _, hes, _⟩ := h₁.sound hq
    cases hes
  | @chain _ p _ _ _ _ hd h₁ h₂ ih₁ ih₂ =>
    have r₁ := ih₁ (h₂.clean hq) hp trivial
    have r₂ := ih₂ hq (h₁.input_suffix.trans hp) trivial
    rw [truncated_deeper] at r₁
    have r := Run.chain (p := p.truncated closers) (truncated_depth.trans_lt hd) r₁ r₂
    rwa [truncated_depth, truncated_withDepth] at r
  | stop h =>
    refine .stop fun op ho => h op ?_
    obtain ⟨t, ht, hop⟩ := Option.bind_eq_some_iff.mp ho
    rw [head?_of_truncated ht]
    exact hop
  | @fold _ _ _ p _ _ _ _ h hlt hd h₁ h₂ ih₁ ih₂ =>
    obtain ⟨t, ht, hop⟩ := Option.bind_eq_some_iff.mp h
    obtain ⟨hl, ht'⟩ := before hp ht (Token.closes_of_binaryOp? hop)
    have hs : p.past.input <:+ ts := (List.tail_suffix _).trans hp
    have r₁ := ih₁ (h₂.clean hq) hs trivial
    have r₂ := ih₂ hq (h₁.input_suffix.trans hs) trivial
    have hpast : p.deeper.past.truncated closers = (p.truncated closers).deeper.past := by
      change p.past.deeper.truncated closers = (p.truncated closers).past.deeper
      rw [truncated_deeper, truncated_past hl]
    rw [hpast] at r₁
    exact .fold (by rw [ht']; exact hop) hlt (truncated_depth.trans_lt hd) r₁ r₂
  | integer h hn =>
    obtain ⟨hl, ht⟩ := before hp h rfl
    exact truncated_past hl ▸ .integer ht hn
  | string h | regexp h | boolean h =>
    obtain ⟨hl, ht⟩ := before hp h rfl
    rw [truncated_past hl]
    constructor
    exact ht
  | @identifier p _ h hn =>
    obtain ⟨hl, ht⟩ := before hp h rfl
    have hn' : (p.past.truncated closers).input.head? ≠ some .leftParen := fun hc =>
      hn (head?_of_truncated hc)
    rw [truncated_past hl] at hn' ⊢
    exact .identifier ht hn'
  | @call p _ _ _ h hn _ ih =>
    obtain ⟨hl, ht⟩ := before hp h rfl
    have hs : p.past.input <:+ ts := (List.tail_suffix _).trans hp
    obtain ⟨hl', ht'⟩ := before hs hn rfl
    have r := ih hq ((List.tail_suffix _).trans hs) (he.length_past_lt hs hn rfl)
    rw [truncated_past hl', truncated_past hl] at r
    rw [truncated_past hl] at ht'
    exact .call ht ht' r
  | @signed p _ op _ h _ ih =>
    obtain ⟨hl, ht⟩ := before hp h (by cases op <;> rfl)
    have r := ih hq ((List.tail_suffix _).trans hp) trivial
    rw [truncated_past hl] at r
    exact .signed ht r
  | group h h₁ ih =>
    obtain ⟨hl, ht⟩ := before hp h rfl
    have hs := (List.tail_suffix _).trans hp
    have r := ih (clean_closed hq).1 hs trivial
    rw [truncated_past hl] at r
    rw [he.truncated_closed (h₁.input_suffix.trans hs) hq]
    exact .group ht r
  | array h _ ih =>
    obtain ⟨hl, ht⟩ := before hp h rfl
    have r := ih hq ((List.tail_suffix _).trans hp) (he.length_past_lt hp h rfl)
    rw [truncated_past hl] at r
    exact .array ht r
  | noItems h => exact truncated_past hf ▸ .noItems ((head?_truncated hf).trans h)
  | items hn h₁ h₂ ih₁ ih₂ =>
    have hc := (clean_closed hq).1
    have hs := h₁.input_suffix.trans hp
    rw [he.truncated_closed (h₂.input_suffix.trans hs) hq]
    exact .items (fun hc => hn (head?_of_truncated hc)) (ih₁ (h₂.clean hc) hp trivial)
      (ih₂ hc hs trivial)
  | noMore hn => exact .noMore fun hc => hn (head?_of_truncated hc)
  | more h h₁ h₂ ih₁ ih₂ =>
    obtain ⟨hl, ht⟩ := before hp h rfl
    have hs := (List.tail_suffix _).trans hp
    have r₁ := ih₁ (h₂.clean hq) hs trivial
    rw [truncated_past hl] at r₁
    exact .more ht r₁ (ih₂ hq (h₁.input_suffix.trans hs) trivial)

/-- Reading a whole input to a tree without errors is a run that takes all of it. -/
theorem run_of_parse {p q : Parser} {e : Expr} (h : p.parse = (some e, q)) (hq : q.errors = []) :
    Run (.expression .lowest) p [e] q ∧ q.Clean ∧ q.input = [] := by
  have hf : q.found = [] := List.reverse_eq_nil_iff.mp hq
  obtain ⟨d, p', hp, r⟩ := exists_run .lowest p
  rw [parse_eq_whole, hp, whole] at h
  split at h
  · cases h
  · rename_i ht
    have ht' : p'.tooDeep = false := Bool.eq_false_iff.mpr ht
    split at h
    · rename_i hi
      cases h
      exact ⟨r, ⟨hf, ht'⟩, List.head?_eq_none_iff.mp hi⟩
    · cases h
      rw [note_found ht'] at hf
      cases hf

/-- A run that takes the whole input within the limit is what reading it comes to. -/
theorem parse_of_run {p q : Parser} {e : Expr} (h : Run (.expression .lowest) p [e] q)
    (hq : q.tooDeep = false) (hi : q.input = []) : p.parse = (some e, q) := by
  obtain ⟨d, p', hp, r⟩ := exists_run .lowest p
  obtain ⟨hd, rfl⟩ := h.unique r
  rw [parse_eq_whole, hp, Option.toList_eq_singleton_iff.mp hd]
  simp [whole, hq, hi]

theorem truncated_ofTokens (kept closers : List Token) :
    (ofTokens (kept ++ closers)).truncated closers = ofTokens kept := by
  have hl : (ofTokens (kept ++ closers)).input.length - closers.length = kept.length := by
    change (kept ++ closers).length - closers.length = kept.length
    rw [List.length_append, Nat.add_sub_cancel]
  rw [truncated_of_le (List.suffix_append kept closers).length_le, hl]
  exact congrArg ofTokens List.take_left

/-- At its end, a truncated parser has noted every closing token as missing. -/
theorem errors_truncated (hp : p.Clean) (hi : p.input = []) :
    (p.truncated closers).errors = closers.map (.expected · none) := by
  have hf := noteAll_found (p := { p with input := p.input.take (p.input.length - closers.length) })
    hp.2 ((closers.take (closers.length - p.input.length)).map (.expected · none))
  rw [errors, truncated, hf, hp.1, List.append_nil, List.reverse_reverse, hi, List.length_nil,
    Nat.sub_zero, List.take_length]

end Parser

/-- A missing token at the end of a condition, as messages show it. -/
theorem SyntaxError.message_expected_none (wanted : Token) :
    (SyntaxError.expected wanted none).message =
      "expected next token to be " ++ wanted.display ++ ", got EOF instead" := by
  have assoc : ∀ s : String, s ++ ", got " ++ "EOF" ++ " instead" = s ++ ", got EOF instead" :=
    fun s => by rw [String.append_assoc, String.append_assoc]; rfl
  exact assoc _

/-- Some tokens parse to a tree without errors, and the last of them are closing ones that
do not follow an opening one at once. Then without these the tree is the same, and there is
exactly one error for each of them, in their order. -/
theorem parse_truncated {kept closers : List Token} {e : Expr} {p : Parser}
    (hc : ∀ t ∈ closers, t.closes = true) (hk : ∀ t, kept.getLast? = some t → t.opens = false)
    (hp : (Parser.ofTokens (kept ++ closers)).parse = (some e, p)) (herr : p.errors = []) :
    let q := (Parser.ofTokens kept).parse
    q.1 = some e ∧ q.2.errors = closers.map (.expected · none) ∧
      q.2.errors.map SyntaxError.message = closers.map fun t =>
        "expected next token to be " ++ t.display ++ ", got EOF instead" := by
  intro q
  obtain ⟨r, hclean, hi⟩ := Parser.run_of_parse hp herr
  have r' := r.truncated (Parser.endsIn_append hc hk) hclean List.suffix_rfl trivial
  rw [Parser.truncated_ofTokens] at r'
  have htoo : (p.truncated closers).tooDeep = false := (Parser.noteAll_tooDeep ..).trans hclean.2
  have hin : (p.truncated closers).input = [] := by
    rw [Parser.truncated_input, hi, List.take_nil]
  have hq : q = (some e, p.truncated closers) := Parser.parse_of_run r' htoo hin
  have hes : q.2.errors = closers.map (.expected · none) := by
    rw [hq]
    exact Parser.errors_truncated hclean hi
  refine ⟨by rw [hq], hes, ?_⟩
  rw [hes, List.map_map]
  exact List.map_congr_left fun t _ => SyntaxError.message_expected_none t

/-- An array in the arguments of a call, without the closing tokens of a group, the array
and the call. -/
theorem parse_truncated_call :
    let kept : List Token := [.bang, .identifier "f", .leftParen, .identifier "a", .comma,
      .leftBracket, .string "x", .comma, .leftParen, .identifier "b", .and, .boolean true]
    let closers : List Token := [.rightParen, .rightBracket, .rightParen]
    let e := Expr.unary .not (.call "f" [.identifier "a",
      .array [.string "x", .binary .and (.identifier "b") (.boolean true)]])
    (Parser.ofTokens (kept ++ closers)).parse = (some e, .ofTokens []) ∧
      (Parser.ofTokens kept).parse.1 = some e ∧
      (Parser.ofTokens kept).parse.2.errors.map SyntaxError.message =
        ["expected next token to be ), got EOF instead",
          "expected next token to be ], got EOF instead",
          "expected next token to be ), got EOF instead"] := by
  intro kept closers e
  have hp : (Parser.ofTokens (kept ++ closers)).parse = (some e, .ofTokens []) := rfl
  obtain ⟨h₁, -, h₂⟩ := parse_truncated (by decide) (by rintro _ ⟨⟩; rfl) hp rfl
  exact ⟨hp, h₁, h₂⟩

end StepCondition
