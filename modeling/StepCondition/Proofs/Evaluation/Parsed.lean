import StepCondition.Proofs.Evaluation.Limit

/-!
# Evaluating what the parser accepts

The limit on nesting in an evaluation is twice the parser's, but it counts
something else: the height of the tree, as far as the evaluation gets, and not the
nesting of the text. So it does show for accepted texts.

* `run_parsed`: when it shows, and what comes of the evaluation then;
* `levels_tower`: how many levels the evaluation of a tower gets to.
-/

namespace StepCondition

/-- The limit does not show exactly if the evaluation without it gets to no more
levels than the limit. If it shows, it is the error, and the calls before it are
the first ones of the evaluation without it. For a text that has no more tokens
than the limit, it never shows. -/
theorem run_parsed {text : String} {e : Expr} (h : parse text = .ok e) (scope : Scope)
    (host : Host) (before : List Call) :
    let setting : Setting := { scope, host }
    let start : Evaluator := { calls := before }
    let bounded := setting.run e start
    let free := (setting.withLimit none).run e start
    (bounded = free ↔ setting.levels e start ≤ maxEvalDepth) ∧
      (Plain bounded.1 ↔ setting.levels e start ≤ maxEvalDepth) ∧
      (maxEvalDepth < setting.levels e start →
        bounded.1 = .error (.tooDeep maxEvalDepth) ∧ bounded.2.calls <+: free.2.calls) ∧
      ((tokens text.toList).length ≤ maxEvalDepth → bounded = free) := by
  intro setting start bounded free
  have hp : Plain free.1 := setting.run_plain e start
  have ha : Agrees maxEvalDepth (start.depth + setting.levels e start) bounded free :=
    setting.run_agrees e (s := start) (Nat.zero_le maxEvalDepth)
  rw [Nat.zero_add] at ha
  refine ⟨ha.eq_iff hp, ha.plain_iff hp, ha.cut, fun hle => ha.same ?_⟩
  obtain ⟨c, hc, rfl, -⟩ := parse_eq_ok_iff.mp h
  calc setting.levels c.tree start
    _ ≤ c.tree.height := setting.levels_le_height _ _
    _ ≤ c.tokens.length := c.height_le_length
    _ ≤ maxEvalDepth := by rw [hc]; exact hle

/-! ## Evaluating towers -/

/-- A tree that is evaluated on all its levels to a true value, without a trace. -/
def Steady (setting : Setting) (e : Expr) : Prop :=
  ∀ s, setting.levels e s = e.height ∧
    ∃ v, v.isTruthy = true ∧ (setting.withLimit none).eval e s = (.ok v, s)

variable {setting : Setting} {e : Expr}

theorem eval_one (s : Evaluator) :
    (setting.withLimit none).eval (.integer 1) s = (.ok (.integer 1), s) := by
  rw [Setting.eval_integer, Setting.nested_withLimit_none]
  rfl

theorem Steady.eval_and (h : Steady setting e) (s : Evaluator) :
    (setting.withLimit none).eval (.binary .and e (.integer 1)) s = (.ok (.boolean true), s) := by
  obtain ⟨-, v, hv, he⟩ := h s.deeper
  have hr : BinaryOp.and.apply v (.integer 1) ((setting.withLimit none).eval (.integer 1))
      s.deeper = (.ok (.boolean true), s.deeper) := by
    simp only [BinaryOp.apply, hv, if_true]
    exact bind_apply_ok (eval_one s.deeper) _
  rw [Setting.eval_binary, Setting.nested_withLimit_none, bind_apply_ok he, hr]
  rfl

theorem Steady.and (h : Steady setting e) : Steady setting (.binary .and e (.integer 1)) := by
  refine fun s => ⟨?_, _, rfl, h.eval_and s⟩
  obtain ⟨hl, v, hv, he⟩ := h s.deeper
  simp only [Setting.levels, he, afterwards_ok, BinaryOp.looksRight, hv, if_true, hl, Expr.height]

theorem Steady.conjoin (h : Steady setting e) (n : Nat) : Steady setting (e.conjoin n) := by
  induction n with
  | zero => exact h
  | succ n ih => exact ih.and

theorem steady_tower (ns : List Nat) : Steady setting (.tower ns) := by
  induction ns with
  | nil => exact fun s => ⟨by rw [Expr.tower, Setting.levels, Expr.height], _, rfl, eval_one s⟩
  | cons n ns ih => exact ih.conjoin n

/-- The evaluation of a tower gets to all its levels. -/
theorem levels_tower (setting : Setting) (ns : List Nat) (s : Evaluator) :
    setting.levels (.tower ns) s = ns.foldr (· + ·) 1 := by
  rw [(steady_tower ns s).1, height_tower]

theorem run_tower (setting : Setting) (n : Nat) (ns : List Nat) (s : Evaluator) :
    (setting.withLimit none).run (.tower ((n + 1) :: ns)) s = (.ok (.boolean true), s) :=
  ((steady_tower ns).conjoin n).eval_and s

/-- A tower as high as the limit is evaluated. -/
theorem run_parsed_tower :
    let e := Expr.tower [171, 170, 170]
    let setting : Setting := { scope := fun _ => none }
    parse (String.ofList (towerText [171, 170, 170] [])) = .ok e ∧
      setting.run e {} = (setting.withLimit none).run e {} := by
  have hp := parse_tower (by decide : towerNesting [171, 170, 170] ≤ maxDepth)
  refine ⟨hp, (run_parsed hp (fun _ => none) noHost []).1.mpr ?_⟩
  rw [levels_tower]
  decide

/-- One more level, and an accepted text has a value only without the limit. -/
theorem run_tower_tooDeep :
    let e := Expr.tower [171, 171, 170]
    let setting : Setting := { scope := fun _ => none }
    parse (String.ofList (towerText [171, 171, 170] [])) = .ok e ∧
      (setting.run e {}).1 = .error (.tooDeep 512) ∧
        ((setting.withLimit none).run e {}).1 = .ok (.boolean true) := by
  intro e setting
  have hb := setting.run_agrees e (s := {}) (Nat.zero_le maxEvalDepth)
  rw [levels_tower] at hb
  refine ⟨parse_tower (by decide), (hb.cut (by decide)).1, ?_⟩
  exact congrArg Prod.fst (run_tower setting 170 [171, 170] {})

end StepCondition
