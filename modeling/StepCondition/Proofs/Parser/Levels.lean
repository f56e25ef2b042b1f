import StepCondition.Proofs.Parser.Run
import StepCondition.Proofs.Token.Writing

/-!
# Levels of recursion

An expression that is read inside another one takes a level of recursion, and the
parser is given a number of them (`expression`). How many it is given shows only in
whether there is an outcome (`extends_expression`). Nesting keeps count of itself on
the way, and gives up before the levels do: `maxDepth + 1` levels are enough from
every state, and fewer if the state is nested already.

* `levels_suffice`: for every text, with or without errors;
* `run_expression_groups`: one level less is not enough.
-/

namespace StepCondition

namespace Parser

variable {α β : Type}

/-- Where one step has an outcome, another one has the same. -/
def Extends (m m' : Step α) : Prop := ∀ p r, m.run p = some r → m'.run p = some r

theorem extends_self (m : Step α) : Extends m m := fun _ _ h => h

theorem Extends.bind {m m' : Step α} {f f' : α → Step β} (hm : Extends m m')
    (hf : ∀ a, Extends (f a) (f' a)) : Extends (m >>= f) (m' >>= f') := by
  intro p r h
  rw [StateT.run_bind] at h ⊢
  obtain ⟨⟨a, q⟩, ha, hr⟩ := Option.bind_eq_some_iff.mp h
  exact Option.bind_eq_some_iff.mpr ⟨(a, q), hm p _ ha, hf a q r hr⟩

/-- The same part before two others. -/
theorem Extends.after (m : Step α) {f f' : α → Step β} (hf : ∀ a, Extends (f a) (f' a)) :
    Extends (m >>= f) (m >>= f') := (extends_self m).bind hf

section Parts

variable {reader reader' : Precedence → Step (Option Expr)}
  (h : ∀ q, Extends (reader q) (reader' q))

include h

theorem extends_moreItems (rounds : Nat) :
    Extends (moreItems reader rounds) (moreItems reader' rounds) := by
  induction rounds with
  | zero => exact extends_self _
  | succ rounds ih =>
    unfold moreItems
    refine .after _ fun t => ?_
    split
    · exact .after _ fun _ => (h _).bind fun _ => ih.bind fun _ => extends_self _
    · exact extends_self _

theorem extends_items (closing : Token) : Extends (items reader closing) (items reader' closing) := by
  unfold items
  refine .after _ fun t => ?_
  split
  · exact extends_self _
  · refine (h _).bind fun _ => .after _ fun p => ?_
    exact (extends_moreItems h _).bind fun _ => extends_self _

theorem extends_operand : Extends (operand reader) (operand reader') := by
  unfold operand
  refine .after _ fun t => ?_
  cases t with
  | none => exact extends_self _
  | some t =>
    cases t with
    | identifier name =>
      refine .after _ fun _ => .after _ fun t => ?_
      split
      · exact .after _ fun _ => (extends_items h _).bind fun _ => extends_self _
      · exact extends_self _
    | bang | minus | leftParen => exact .after _ fun _ => (h _).bind fun _ => extends_self _
    | leftBracket => exact .after _ fun _ => (extends_items h _).bind fun _ => extends_self _
    | _ => exact extends_self _

theorem extends_operators (q : Precedence) (rounds : Nat) (left : Expr) :
    Extends (operators reader q rounds left) (operators reader' q rounds left) := by
  induction rounds generalizing left with
  | zero => exact extends_self _
  | succ rounds ih =>
    unfold operators
    refine .after _ fun t => ?_
    split
    · exact extends_self _
    · split
      · refine .after _ fun deeper => ?_
        split
        · refine .after _ fun _ => (h _).bind fun right => ?_
          cases right with
          | none => exact extends_self _
          | some right => exact ih _
        · exact extends_self _
      · exact extends_self _

theorem extends_chain (q : Precedence) : Extends (chain reader q) (chain reader' q) := by
  unfold chain
  refine .after _ fun deeper => ?_
  split
  · refine (extends_operand h).bind fun left => ?_
    cases left with
    | none => exact extends_self _
    | some left => exact .after _ fun p => extends_operators h q _ left
  · exact extends_self _

end Parts

/-- More levels do not change an outcome. -/
theorem extends_expression {m n : Nat} (h : m ≤ n) (q : Precedence) :
    Extends (expression m q) (expression n q) := by
  induction m generalizing n q with
  | zero =>
    intro p r hr
    cases hr
  | succ m ih =>
    obtain ⟨n, rfl⟩ := Nat.exists_eq_add_one_of_ne_zero (Nat.ne_zero_of_lt h)
    rw [expression, expression]
    refine .after _ fun depth => ?_
    exact (extends_chain (fun q => ih (Nat.le_of_succ_le_succ h) q) q).bind fun _ => extends_self _

/-- Whatever the number of levels, there is no other outcome. -/
theorem eq_parseExpression {levels : Nat} {q : Precedence} {p : Parser} {r : Option Expr × Parser}
    (h : (expression levels q).run p = some r) : r = p.parseExpression q := by
  have hr := extends_expression (Nat.le_max_left levels (maxDepth + 1)) q p r h
  obtain ⟨e, p', he, -⟩ := reads_expression maxDepth 0 (by omega) q p (Nat.zero_le _)
  have hp := extends_expression (Nat.le_max_right levels (maxDepth + 1)) q p _ he
  rw [parseExpression, he]
  exact Option.some.inj (hr.symm.trans hp)

/-- Enough levels for the nesting that is left, and one for the expression itself. -/
theorem run_expression_of_le {levels : Nat} {p : Parser} (h : maxDepth ≤ p.depth + levels)
    (q : Precedence) : (expression (levels + 1) q).run p = some (p.parseExpression q) := by
  obtain ⟨e, p', he, -⟩ := reads_expression levels p.depth h q p le_rfl
  rw [he, ← eq_parseExpression he]

/-- A group in a group takes a level, as long as nesting permits. -/
theorem run_expression_groups {levels : Nat} {p : Parser} {ts : List Token}
    (hi : p.input = List.replicate levels .leftParen ++ ts) (hd : p.depth + levels ≤ maxDepth)
    (q : Precedence) : (expression levels q).run p = none := by
  induction levels generalizing p q with
  | zero => rfl
  | succ levels ih =>
    have hlt : p.depth < maxDepth := by omega
    have hp : p.deeper.past.input = List.replicate levels .leftParen ++ ts := by
      rw [past_input, deeper_input, hi]
      rfl
    have inner := ih hp (by simp only [past_depth, deeper_depth]; omega) .lowest
    have hh : p.input.head? = some .leftParen := by
      rw [hi]
      rfl
    simp [expression, chain, run_descend, hlt, operand, run_peek, hh, run_advance, inner]

end Parser

theorem tokens_replicate_leftParen (n : Nat) :
    tokens (List.replicate n '(') = List.replicate n .leftParen := by
  induction n with
  | zero => exact tokens_nil
  | succ n ih =>
    rw [List.replicate_succ, List.replicate_succ, ← ih]
    exact tokens_written (t := .leftParen) trivial fun _ _ => rfl

/-- From every state of a parser, whatever there is left to read: with levels for the
nesting that is left, an expression has an outcome, and so has a whole input. It is the
same with more levels, and it is that of a run, which knows of no levels. A parser that
has read nothing needs no more than one level above the limit, and some text needs them
all. -/
theorem levels_suffice (p : Parser) (q : Precedence) :
    (∀ levels, maxDepth ≤ p.depth + levels →
      (Parser.expression (levels + 1) q).run p = some (p.parseExpression q) ∧
      ((Parser.expression (levels + 1) .lowest).run p).map Parser.whole = some p.parse) ∧
    (∀ levels r, (Parser.expression levels q).run p = some r → r = p.parseExpression q) ∧
    (∃ e p', p.parseExpression q = (e, p') ∧ Parser.Run (.expression q) p e.toList p') ∧
    ∃ text, (Parser.expression maxDepth q).run (.ofText text) = none := by
  refine ⟨fun levels h => ⟨Parser.run_expression_of_le h q, ?_⟩,
    fun _ _ => Parser.eq_parseExpression, Parser.exists_run q p,
    String.ofList (List.replicate maxDepth '('), ?_⟩
  · rw [Parser.run_expression_of_le h, Parser.parse_eq_whole]
    rfl
  · have hi : (Parser.ofText (String.ofList (List.replicate maxDepth '('))).input =
        List.replicate maxDepth .leftParen ++ [] := by
      change tokens (String.ofList _).toList = _
      rw [String.toList_ofList, tokens_replicate_leftParen, List.append_nil]
    exact Parser.run_expression_groups hi (Nat.zero_add _).le q

end StepCondition
