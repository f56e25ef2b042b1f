import StepCondition.Proofs.Parser.Completeness
import StepCondition.Proofs.Parser.Soundness

/-!
# The language of the parser

The parser accepts the texts whose tokens derive from the grammar, and returns the
tree of the derivation, unless nesting goes past its limit.

* `parse_derivation`: what becomes of a text with a derivation;
* `parse_eq_ok_iff`: the accepted texts;
* `parse_of_illegal_mem`: no accepted text has an illegal token;
* `parse_language`: the whole of it, with the errors of the texts that are not
  accepted.
-/

namespace StepCondition

open StepCondition.Parser

/-- Nesting past the limit is an error, and no run notes the error for a missing
expression. -/
theorem Parser.Run.errors {part : Part} {text : String} {q : Parser} {es : List Expr}
    (h : Run part (.ofText text) es q) :
    (q.tooDeep = true → q.found ≠ []) ∧ SyntaxError.noExpression ∉ q.found := by
  refine h.keep
    (I := fun r => (r.tooDeep = true → r.found ≠ []) ∧ SyntaxError.noExpression ∉ r.found)
    (fun _ hr => hr) (fun _ _ hr => hr) (fun r e _ he hr => ?_) (fun r hr => ?_)
    ⟨nofun, List.not_mem_nil⟩
  · cases ht : r.tooDeep with
    | true => rwa [note_of_tooDeep ht]
    | false =>
      rw [note_found ht]
      exact ⟨fun _ => List.cons_ne_nil _ _, fun hm => (List.mem_cons.mp hm).elim he.symm hr.2⟩
  · cases ht : r.tooDeep with
    | true => rw [overflow_found_of_tooDeep ht]; exact ⟨fun _ => hr.1 ht, hr.2⟩
    | false =>
      rw [overflow_found ht]
      exact ⟨fun _ => List.cons_ne_nil _ _, fun hm => (List.mem_cons.mp hm).elim nofun hr.2⟩

/-- A text has a derivation and its tree, or errors, of which none is the one for a
missing expression. -/
theorem parse_cases (text : String) :
    (∃ c : Derivation .or, c.tokens = tokens text.toList ∧ parse text = .ok c.tree) ∨
      ∃ es, es ≠ [] ∧ SyntaxError.noExpression ∉ es ∧ parse text = .error es := by
  obtain ⟨e, p, hp, r⟩ := exists_run .lowest (.ofText text)
  obtain ⟨hd, hn⟩ := r.errors
  have failed : ∀ (e : Option Expr) (p' : Parser), (ofText text).parse = (e, p') → p'.found ≠ [] →
      SyntaxError.noExpression ∉ p'.found →
      ∃ es, es ≠ [] ∧ SyntaxError.noExpression ∉ es ∧ parse text = .error es := by
    intro e p' h hf hn
    have he : p'.errors ≠ [] := fun h => hf (List.reverse_eq_nil_iff.mp h)
    refine ⟨p'.errors, he, fun h => hn (List.mem_reverse.mp h), ?_⟩
    simp only [StepCondition.parse, h]
    split
    · exact absurd ‹_› he
    · exact absurd ‹_› he
    · rfl
  cases ht : p.tooDeep with
  | true => exact .inr (failed none p (by simp [Parser.parse, hp, ht]) (hd ht) hn)
  | false =>
    cases hi : p.input with
    | cons t ts =>
      refine .inr (failed e (p.note (.trailing t)) (by simp [Parser.parse, hp, ht, hi]) ?_ ?_)
      · rw [note_found ht]
        exact List.cons_ne_nil _ _
      · rw [note_found ht]
        exact fun hm => (List.mem_cons.mp hm).elim nofun hn
    | nil =>
      have hpp : (ofText text).parse = (e, p) := by simp [Parser.parse, hp, ht, hi]
      by_cases hf : p.found = []
      · obtain ⟨c, he, hc⟩ := (r.sound ⟨hf, ht⟩).derivation
        rw [hi, List.append_nil] at hc
        refine .inl ⟨c, hc.symm, ?_⟩
        cases e with
        | none => cases he
        | some e =>
          cases he
          simp only [StepCondition.parse, hpp, errors, hf]
          rfl
      · exact .inr (failed e p hpp hf hn)

/-- The parser ends with the tree that a text parses to and no errors, or with its
errors. -/
theorem parse_ofText (text : String) :
    (∃ e, parse text = .ok e ∧ (ofText text).parse.1 = some e ∧
        (ofText text).parse.2.errors = []) ∨
      ∃ es, parse text = .error es ∧ es ≠ [] ∧ (ofText text).parse.2.errors = es := by
  -- A parser with neither a tree nor an error would be answered with silence.
  have hsome : parse text ≠ .error [.noExpression] := by
    obtain ⟨c, -, hc⟩ | ⟨es, -, hno, he⟩ := parse_cases text
    · simp [hc]
    · rw [he]
      rintro ⟨⟩
      exact hno (List.mem_singleton_self _)
  unfold parse at hsome ⊢
  generalize (ofText text).parse = result at hsome ⊢
  obtain ⟨e, p⟩ := result
  simp only at hsome ⊢
  cases herr : p.errors with
  | cons error more => exact .inr ⟨error :: more, by simp only, nofun, rfl⟩
  | nil =>
    cases e with
    | some e => exact .inl ⟨e, rfl, rfl, rfl⟩
    | none =>
      rw [herr] at hsome
      exact absurd rfl hsome

/-- What becomes of a text whose tokens derive from the grammar. -/
theorem parse_derivation {text : String} {c : Derivation .or}
    (h : c.tokens = tokens text.toList) :
    parse text = if c.nesting ≤ maxDepth then .ok c.tree else .error [.tooDeep] := by
  obtain ⟨e, p, hp, r⟩ := exists_run .lowest (.ofText text)
  have hm : ofText text = (ofText text).moved (c.tokens ++ []) 0 := by
    rw [h, List.append_nil]
    rfl
  rw [hm] at r
  obtain ⟨hf, ho⟩ := c.whole rfl (by decide) ⟨stops_nil _, nofun⟩ (stops_nil _) r
  split
  · rename_i hn
    obtain ⟨he, rfl⟩ := hf (by omega)
    cases e with
    | none => cases he
    | some e =>
      cases he
      simp only [StepCondition.parse, Parser.parse, hp]
      rfl
  · rename_i hn
    have hover := ho (by omega)
    simp only [StepCondition.parse, Parser.parse, hp, hover.tooDeep]
    simp [errors, hover.found]
    rfl

/-- The accepted texts. -/
theorem parse_eq_ok_iff {text : String} {e : Expr} :
    parse text = .ok e ↔
      ∃ c : Derivation .or, c.tokens = tokens text.toList ∧ c.tree = e ∧ c.nesting ≤ maxDepth := by
  constructor
  · intro h
    obtain ⟨c, hc, hp⟩ | ⟨es, -, -, hp⟩ := parse_cases text
    · have hn := parse_derivation hc
      cases h.symm.trans hp
      split at hn
      · exact ⟨c, hc, rfl, ‹_›⟩
      · cases h.symm.trans hn
    · cases h.symm.trans hp
  · rintro ⟨c, hc, rfl, hn⟩
    rw [parse_derivation hc, if_pos hn]

/-- A text is parsed by its tokens. -/
theorem parse_congr {a b : String} (h : tokens a.toList = tokens b.toList) :
    parse a = parse b := by
  have ho : ofText a = ofText b := by rw [ofText, ofText, h]
  simp only [StepCondition.parse, ho]

mutual

/-- No derivation spells an illegal token. -/
theorem Derivation.illegal_not_mem (d : Char) : {g : Phrase} → (c : Derivation g) →
    .illegal d ∉ c.tokens
  | _, .wrap _ c => c.illegal_not_mem d
  | _, .chain op _ l r => by
    have ho : Token.illegal d ≠ op.token := by cases op <;> nofun
    simp [tokens, l.illegal_not_mem d, r.illegal_not_mem d, ho]
  | _, .signed op x => by
    have ho : Token.illegal d ≠ op.token := by cases op <;> nofun
    simp [tokens, x.illegal_not_mem d, ho]
  | _, .accessSigned l r => by
    simp [tokens, l.illegal_not_mem d, r.illegal_not_mem d]
  | _, .integer .. | _, .string _ | _, .regexp _ | _, .boolean _ | _, .identifier _ => by
    simp [tokens]
  | _, .call _ args => by simp [tokens, illegal_not_mem_all d args]
  | _, .group c => by simp [tokens, c.illegal_not_mem d]
  | _, .array items => by simp [tokens, illegal_not_mem_all d items]

theorem Derivation.illegal_not_mem_all (d : Char) : (cs : List (Derivation .or)) →
    .illegal d ∉ tokensAll cs
  | [] => List.not_mem_nil
  | [c] => c.illegal_not_mem d
  | c :: c' :: cs => by
    rw [tokensAll_cons_cons]
    simp [c.illegal_not_mem d, illegal_not_mem_all d (c' :: cs)]

end

/-- A text with an illegal token has errors. -/
theorem parse_of_illegal_mem {text : String} {d : Char} (h : .illegal d ∈ tokens text.toList) :
    ∃ es, es ≠ [] ∧ parse text = .error es := by
  obtain ⟨c, hc, -⟩ | ⟨es, hes, -, hp⟩ := parse_cases text
  · exact absurd (hc ▸ h) (c.illegal_not_mem d)
  · exact ⟨es, hes, hp⟩

/-- The first four characters of the message for an error. -/
def SyntaxError.opening : SyntaxError → List Char
  | tooDeep => ['e', 'x', 'p', 'r']
  | integerOutOfRange _ => ['c', 'o', 'u', 'l']
  | illegalCharacter _ => ['i', 'l', 'l', 'e']
  | unexpectedEnd => ['u', 'n', 'e', 'x']
  | startsNoExpression _ => ['n', 'o', ' ', 'p']
  | expected _ _ | trailing _ => ['e', 'x', 'p', 'e']
  | noExpression => ['n', 'o', ' ', 'e']

theorem SyntaxError.take_message (e : SyntaxError) : e.message.toList.take 4 = e.opening := by
  have start : ∀ {m t : String} (s : String) (cs : List Char), m = s ++ t →
      s.toList.take 4 = cs → 4 ≤ s.toList.length → m.toList.take 4 = cs := by
    rintro _ t s _ rfl rfl hs
    rw [String.toList_append, List.take_append_of_le_length hs]
  have assoc : ∀ s t u v w : String, s ++ t ++ u ++ v ++ w = s ++ (t ++ u ++ v ++ w) :=
    fun s t u v w => by simp only [String.append_assoc]
  cases e with
  | tooDeep | unexpectedEnd | noExpression => decide
  | illegalCharacter c =>
    exact start "illegal character '" ['i', 'l', 'l', 'e'] (String.append_assoc ..) (by decide)
      (by decide)
  | startsNoExpression t =>
    exact start "no prefix parse function for " ['n', 'o', ' ', 'p'] (String.append_assoc ..)
      (by decide) (by decide)
  | integerOutOfRange d =>
    exact start "could not parse " ['c', 'o', 'u', 'l'] (String.append_assoc ..) (by decide)
      (by decide)
  | trailing t =>
    exact start "expected end of input, got " ['e', 'x', 'p', 'e'] rfl (by decide) (by decide)
  | expected t found =>
    exact start "expected next token to be " ['e', 'x', 'p', 'e'] (assoc ..) (by decide)
      (by decide)

/-- Only the error for a missing expression has its message. -/
theorem SyntaxError.eq_noExpression {e : SyntaxError} (h : e.message = "no expression found") :
    e = .noExpression := by
  have ht : e.opening = opening noExpression := by rw [← take_message, ← take_message, h]; rfl
  cases e with
  | noExpression => rfl
  | _ => cases ht

/-- Only the error for nesting has its message. -/
theorem SyntaxError.eq_tooDeep {e : SyntaxError} (h : e.message = tooDeep.message) :
    e = .tooDeep := by
  have ht : e.opening = opening tooDeep := by rw [← take_message, ← take_message, h]
  cases e with
  | tooDeep => rfl
  | _ => cases ht

/-- The parser accepts exactly the texts that derive from the grammar and nest no
deeper than its limit, with the tree of the derivation. A text that derives but
nests deeper has one error, which says so, and every other text has some error.
The message for a missing expression is never among them. -/
theorem parse_language (text : String) :
    (∀ c : Derivation .or, c.tokens = tokens text.toList →
      parse text = if c.nesting ≤ maxDepth then .ok c.tree else .error [.tooDeep]) ∧
    ((¬ ∃ e, Derives .or (tokens text.toList) e) → ∃ es, parse text = .error es ∧ es ≠ []) ∧
    (∀ es, parse text = .error es → "no expression found" ∉ es.map SyntaxError.message) ∧
    SyntaxError.tooDeep.message = "expression nesting exceeds maximum depth of 256" := by
  refine ⟨fun c hc => parse_derivation hc, fun hn => ?_, fun es he hm => ?_, ?_⟩
  · obtain ⟨c, hc, -⟩ | ⟨es, hes, -, hp⟩ := parse_cases text
    · exact absurd ⟨_, c, hc, rfl⟩ hn
    · exact ⟨es, hp, hes⟩
  · obtain ⟨e, hmem, he'⟩ := List.mem_map.mp hm
    obtain ⟨c, -, hp⟩ | ⟨es', -, hno, hp⟩ := parse_cases text
    · cases he.symm.trans hp
    · cases he.symm.trans hp
      exact hno (SyntaxError.eq_noExpression he' ▸ hmem)
  · decide

end StepCondition
