import StepCondition.Proofs.Parser.Language

/-!
# One parser, asked again and again

A parser can be asked for expressions and for its whole input, in any order and as often
as one likes (`Request`). Each time it goes on where it has stopped: it gives back the
depth it has taken, keeps the errors it has found, and never returns to a token. Once
nesting has gone past the limit, which is noted as the last error, it has nothing left to
read and says nothing more.

* `Kept.after`: what every step of a parser keeps, every row of requests keeps;
* `parser_after`: the state of a parser between two requests, and all later ones.
-/

namespace StepCondition

namespace Parser

/-- What a parser can be asked for. -/
inductive Request where
  | whole
  | expression (q : Precedence)

/-- The answer to a request, and the parser after it. -/
def answer (p : Parser) : Request → Option Expr × Parser
  | .whole => p.parse
  | .expression q => p.parseExpression q

/-- A parser after some requests. -/
def after (p : Parser) (requests : List Request) : Parser :=
  requests.foldl (fun p request => (p.answer request).2) p

/-- Reading the whole input notes at most that there is a token left. -/
theorem whole_snd (outcome : Option Expr × Parser) :
    (whole outcome).2 = outcome.2 ∨
      ∃ token, (whole outcome).2 = outcome.2.note (.trailing token) := by
  obtain ⟨e, p⟩ := outcome
  simp only [whole]
  split
  · exact .inl rfl
  · split
    · exact .inl rfl
    · exact .inr ⟨_, rfl⟩

/-- A tree of the whole input comes from a run. -/
theorem exists_run_of_parse {p : Parser} {e : Expr} (h : p.parse.1 = some e) :
    ∃ q, Run (.expression .lowest) p [e] q := by
  obtain ⟨d, q, hq, r⟩ := exists_run .lowest p
  have hd : d = some e := by
    rw [parse_eq_whole, hq, whole] at h
    split at h
    · cases h
    · split at h <;> exact h
  subst hd
  exact ⟨q, r⟩

/-- Every tree that a parser answers with comes from a run. -/
theorem exists_run_of_answer {p : Parser} {request : Request} {e : Expr}
    (h : (p.answer request).1 = some e) : ∃ q p', Run (.expression q) p [e] p' := by
  cases request with
  | whole => exact ⟨.lowest, exists_run_of_parse h⟩
  | expression q =>
    obtain ⟨d, p', hr, r⟩ := exists_run q p
    rw [answer, hr] at h
    subst h
    exact ⟨q, p', r⟩

/-! ## What requests keep -/

/-- A property that the steps of a parser keep: going past a token, a change of depth, an
error that says nothing of the limit, and going past the limit. -/
structure Kept (I : Parser → Prop) : Prop where
  past : ∀ p, I p → I p.past
  depth : ∀ (p : Parser) d, I p → I { p with depth := d }
  note : ∀ p e, e ≠ .tooDeep → I p → I (p.note e)
  overflow : ∀ p, I p → I p.overflow

namespace Kept

variable {I : Parser → Prop} (h : Kept I) {p : Parser}

include h

theorem parseExpression (q : Precedence) (hp : I p) : I (p.parseExpression q).2 := by
  obtain ⟨e, p', hr, r⟩ := exists_run q p
  rw [hr]
  exact r.keep h.past h.depth (fun p e he _ => h.note p e he) h.overflow hp

theorem whole {outcome : Option Expr × Parser} (hp : I outcome.2) : I (Parser.whole outcome).2 := by
  obtain hw | ⟨token, hw⟩ := whole_snd outcome
  · rwa [hw]
  · rw [hw]
    exact h.note _ _ (by nofun) hp

theorem answer (request : Request) (hp : I p) : I (p.answer request).2 := by
  cases request with
  | whole => exact h.whole (h.parseExpression .lowest hp)
  | expression q => exact h.parseExpression q hp

/-- What every step keeps, every row of requests keeps. -/
theorem after (requests : List Request) (hp : I p) : I (p.after requests) := by
  induction requests generalizing p with
  | nil => exact hp
  | cons request requests ih => exact ih (h.answer request hp)

end Kept

/-! ## Errors, tokens and depth -/

theorem kept_found (p : Parser) : Kept fun r => p.found <:+ r.found where
  past _ hr := hr
  depth _ _ hr := hr
  note r e _ hr := by
    cases ht : r.tooDeep with
    | true => rwa [note_of_tooDeep ht]
    | false => exact note_found ht e ▸ hr.trans (List.suffix_cons e r.found)
  overflow r hr := by
    cases ht : r.tooDeep with
    | true => rwa [overflow_found_of_tooDeep ht]
    | false => exact overflow_found ht ▸ hr.trans (List.suffix_cons _ r.found)

theorem kept_input (p : Parser) : Kept fun r => r.input <:+ p.input where
  past _ hr := (List.tail_suffix _).trans hr
  depth _ _ hr := hr
  note r e _ hr := by rwa [note_input]
  overflow _ _ := List.nil_suffix

/-- The error for nesting is the last one, and there is nothing left to read after it. -/
def Closed (p : Parser) : Prop :=
  p.input = [] ∧ ∃ found, p.found = .tooDeep :: found ∧ .tooDeep ∉ found

/-- A parser is past the limit exactly if it has noted the error for nesting. -/
structure Consistent (p : Parser) : Prop where
  closed : p.tooDeep = true → p.Closed
  not_mem : p.tooDeep = false → .tooDeep ∉ p.found

theorem consistent_ofText (text : String) : (ofText text).Consistent := ⟨nofun, fun _ => nofun⟩

theorem kept_consistent : Kept Consistent where
  past p hp := by
    refine ⟨fun ht => ?_, hp.not_mem⟩
    obtain ⟨hi, hf⟩ := hp.closed ht
    exact ⟨by rw [past_input, hi]; rfl, hf⟩
  depth _ _ hp := ⟨hp.closed, hp.not_mem⟩
  note p e he hp := by
    cases ht : p.tooDeep with
    | true => rwa [note_of_tooDeep ht]
    | false =>
      refine ⟨fun h => ?_, fun _ => ?_⟩
      · rw [note_tooDeep, ht] at h
        cases h
      · rw [note_found ht]
        exact fun hm => (List.mem_cons.mp hm).elim he.symm (hp.not_mem ht)
  overflow p hp := by
    refine ⟨fun _ => ⟨rfl, ?_⟩, nofun⟩
    cases ht : p.tooDeep with
    | true =>
      rw [overflow_found_of_tooDeep ht]
      exact (hp.closed ht).2
    | false => exact ⟨p.found, overflow_found ht, hp.not_mem ht⟩

/-- The error for nesting tells whether a parser is past the limit. -/
theorem Consistent.message_mem_iff {p : Parser} (h : p.Consistent) :
    SyntaxError.tooDeep.message ∈ p.errors.map SyntaxError.message ↔ p.tooDeep = true := by
  constructor
  · intro hm
    obtain ⟨e, he, hem⟩ := List.mem_map.mp hm
    rw [SyntaxError.eq_tooDeep hem] at he
    exact Bool.of_not_eq_false fun ht => h.not_mem ht (List.mem_reverse.mp he)
  · intro ht
    obtain ⟨-, found, hf, -⟩ := h.closed ht
    refine List.mem_map_of_mem (List.mem_reverse.mpr ?_)
    rw [hf]
    exact List.mem_cons_self

/-- Past the limit nothing changes but the depth. -/
theorem kept_past_limit (found : List SyntaxError) :
    Kept fun r => r.tooDeep = true ∧ r.input = [] ∧ r.found = found where
  past r hr := ⟨hr.1, by rw [past_input, hr.2.1]; rfl, hr.2.2⟩
  depth _ _ hr := hr
  note r e _ hr := by rwa [note_of_tooDeep hr.1]
  overflow r hr := ⟨rfl, rfl, (overflow_found_of_tooDeep hr.1).trans hr.2.2⟩

theorem depth_answer (p : Parser) (request : Request) : (p.answer request).2.depth = p.depth := by
  have hd : ∀ q, (p.parseExpression q).2.depth = p.depth := fun q => by
    obtain ⟨e, p', hr, r⟩ := exists_run q p
    rw [hr]
    exact r.depth_eq trivial
  cases request with
  | whole =>
    rw [answer, parse_eq_whole, ← hd .lowest]
    obtain hw | ⟨token, hw⟩ := whole_snd (p.parseExpression .lowest)
    · rw [hw]
    · rw [hw, note_depth]
  | expression q => exact hd q

theorem depth_after (p : Parser) (requests : List Request) :
    (p.after requests).depth = p.depth := by
  induction requests generalizing p with
  | nil => rfl
  | cons request requests ih => exact (ih _).trans (p.depth_answer request)

/-- Past the limit there is no tree of the whole input. -/
theorem parse_fst_of_tooDeep {p : Parser} (ht : p.tooDeep = true) (hi : p.input = []) :
    p.parse.1 = none := by
  have hr := (kept_past_limit p.found).parseExpression .lowest ⟨ht, hi, rfl⟩
  rw [parse_eq_whole, whole, hr.1]
  rfl

end Parser

/-- A parser of a text after some requests, and after some more. In between it is at no
depth, the errors it had found stand in front of the later ones, and it only goes forward
in its input. The error for nesting can only be its last error. From then on the input is
at its end, there are no more errors, and asking for the whole input gives no tree. -/
theorem parser_after (text : String) (requests more : List Parser.Request) :
    let p := (Parser.ofText text).after requests
    let q := p.after more
    p.depth = 0 ∧ p.errors <+: q.errors ∧ q.input <:+ p.input ∧
      SyntaxError.tooDeep.message ∉ p.errors.dropLast.map SyntaxError.message ∧
      (SyntaxError.tooDeep.message ∈ p.errors.map SyntaxError.message →
        q.input = [] ∧ q.errors = p.errors ∧ q.parse.1 = none) := by
  intro p q
  have hp : p.Consistent :=
    Parser.kept_consistent.after requests (Parser.consistent_ofText text)
  have hfound : p.found <:+ q.found := (Parser.kept_found p).after more List.suffix_rfl
  have hinput : q.input <:+ p.input := (Parser.kept_input p).after more List.suffix_rfl
  have hmem : ∀ es : List SyntaxError,
      SyntaxError.tooDeep.message ∈ es.map SyntaxError.message → .tooDeep ∈ es := fun es h => by
    obtain ⟨e, he, hm⟩ := List.mem_map.mp h
    exact SyntaxError.eq_tooDeep hm ▸ he
  refine ⟨Parser.depth_after _ requests, List.reverse_prefix.mpr hfound, hinput, ?_, fun h => ?_⟩
  · intro h
    have h := hmem _ h
    cases ht : p.tooDeep with
    | true =>
      obtain ⟨-, found, hf, hn⟩ := hp.closed ht
      rw [Parser.errors, hf, List.reverse_cons, List.dropLast_concat] at h
      exact hn (List.mem_reverse.mp h)
    | false => exact hp.not_mem ht (List.mem_reverse.mp (List.dropLast_subset _ h))
  · cases ht : p.tooDeep with
    | true =>
      obtain ⟨htq, hi, hf⟩ :=
        (Parser.kept_past_limit p.found).after more ⟨ht, (hp.closed ht).1, rfl⟩
      exact ⟨hi, congrArg List.reverse hf, Parser.parse_fst_of_tooDeep htq hi⟩
    | false => exact absurd (List.mem_reverse.mp (hmem _ h)) (hp.not_mem ht)

end StepCondition
