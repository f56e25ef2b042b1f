import StepCondition.Proofs.Evaluation.Limit
import StepCondition.Proofs.Evaluation.References
import StepCondition.Proofs.Expr.RoundTrip

/-!
# Using an evaluator again

An evaluator keeps its depth from one evaluation to the next, and an evaluation that
ended deeper than it began would leave less room for all that follow. None does, however
it ends. So trees that are evaluated one after the other with the same evaluator
(`Setting.outcomes`) come to what each comes to with an evaluator of its own
(`Setting.freshOutcomes`). Only the host may remember what was called before.

* `Setting.outcome_congr`: an outcome depends on the depth and on what the host remembers;
* `evaluator_reuse`: the outcomes of a row of trees.
-/

namespace StepCondition

namespace Setting

/-- What an evaluation comes to: its result, and the calls it makes. -/
structure Outcome where
  result : Except EvalError Value
  calls : List Call

variable (setting : Setting)

/-- What the evaluation of a tree comes to with an evaluator. -/
def outcome (e : Expr) (s : Evaluator) : Outcome where
  result := (setting.run e s).1
  calls := (setting.run e s).2.calls.drop s.calls.length

/-- What trees come to that are evaluated one after the other with one evaluator. -/
def outcomes : List Expr → Evaluator → List Outcome
  | [], _ => []
  | e :: es, s => setting.outcome e s :: outcomes es (setting.run e s).2

/-- What trees come to that are evaluated one after the other, each with a new evaluator,
when some calls were made before. -/
def freshOutcomes : List Expr → List Call → List Outcome
  | [], _ => []
  | e :: es, before =>
    let first := setting.outcome e { calls := before }
    first :: freshOutcomes es (before ++ first.calls)

/-! ## One evaluation -/

/-- An evaluation ends at the depth where it began, whatever it comes to. -/
theorem depth_run (e : Expr) (s : Evaluator) : (setting.run e s).2.depth = s.depth :=
  (setting.kept_frames.eval e s).1

/-- The calls of an evaluation come after those made before. -/
theorem calls_run (e : Expr) (s : Evaluator) :
    (setting.run e s).2.calls = s.calls ++ (setting.outcome e s).calls :=
  (List.prefix_iff_eq_append.mp (setting.kept_frames.eval e s).2).symm

variable {setting}

/-- An outcome depends on the depth of its evaluator, and on what the host remembers of
the calls before. -/
theorem outcome_congr {s t : Evaluator} (hdepth : s.depth = t.depth)
    (hhost : ∀ new f args,
      setting.host (s.calls ++ new) f args = setting.host (t.calls ++ new) f args) (e : Expr) :
    setting.outcome e s = setting.outcome e t := by
  obtain ⟨hr, new, hs, ht⟩ := run_congr hdepth hhost e
  rw [outcome, outcome, hr, hs, ht, List.drop_left, List.drop_left]

/-! ## A row of evaluations -/

/-- The depth is the same before every tree of a row, so each finds what it would find
with a new evaluator. -/
theorem outcomes_eq_fresh (es : List Expr) {s : Evaluator} (h : s.depth = 0) :
    setting.outcomes es s = setting.freshOutcomes es s.calls := by
  induction es generalizing s with
  | nil => rfl
  | cons e es ih =>
    have he : setting.outcome e s = setting.outcome e { calls := s.calls } :=
      outcome_congr (t := { calls := s.calls }) h (fun _ _ _ => rfl) e
    have hd : (setting.run e s).2.depth = 0 := (setting.depth_run e s).trans h
    rw [outcomes, freshOutcomes, ih hd, setting.calls_run e s, he]

/-- With a host that remembers nothing, what was called before makes no difference
either. -/
theorem freshOutcomes_eq_map (h : ∀ calls calls', setting.host calls = setting.host calls')
    (es : List Expr) (before : List Call) :
    setting.freshOutcomes es before = es.map fun e => setting.outcome e {} := by
  induction es generalizing before with
  | nil => rfl
  | cons e es ih =>
    have he : setting.outcome e { calls := before } = setting.outcome e {} :=
      outcome_congr (s := { calls := before }) (t := {}) rfl (fun _ _ _ => by rw [h]) e
    rw [freshOutcomes, ih, List.map_cons, he]

end Setting

/-- An evaluator can be used again. Every evaluation, at any depth and whatever it comes
to, leaves the depth as it was. So trees that are evaluated one after the other come to
the same, and make the same calls, with one evaluator as with a new one for each. If
moreover the host remembers nothing, each comes to what it comes to all by itself. -/
theorem evaluator_reuse (setting : Setting) :
    (∀ e s, (setting.run e s).2.depth = s.depth) ∧
    (∀ es s, s.depth = 0 → setting.outcomes es s = setting.freshOutcomes es s.calls) ∧
    ((∀ calls calls', setting.host calls = setting.host calls') → ∀ es s, s.depth = 0 →
      setting.outcomes es s = es.map fun e => setting.outcome e {}) := by
  refine ⟨setting.depth_run, fun es s => Setting.outcomes_eq_fresh es, fun hh es s hs => ?_⟩
  rw [Setting.outcomes_eq_fresh es hs, Setting.freshOutcomes_eq_map hh]

theorem eq_ok_boolean {r : Except EvalError Value} {b : Bool}
    (h : r.toOption.bind Value.asBoolean? = some b) : r = .ok (.boolean b) := by
  cases r with
  | error => cases h
  | ok v =>
    cases v with
    | boolean => cases h; rfl
    | _ => cases h

/-- A tree past the limit and a call whose second argument fails leave room for a tree
that needs all of it, which comes to what it comes to by itself. -/
theorem evaluator_reuse_failures :
    let scope : Scope := Struct.scope (.ofList [("f", .function ⟨"f", ""⟩)])
    let setting : Setting := { scope, host := fun _ _ args => .array args }
    let call := Expr.call "f" [.integer 1]
    let failing := Expr.call "f" [call, .unary .negate (.string "x")]
    let trees := [.prefixes .not 512 (.boolean true), failing, .prefixes .not 510 call]
    setting.outcomes trees {} = trees.map (fun e => setting.outcome e {}) ∧
      (setting.outcomes trees {}).map (·.result) =
        [.error (.tooDeep 512), .error (.unknownOperator .negate .string),
          .ok (.boolean true)] ∧
      (setting.outcomes trees {}).map (·.calls.length) = [0, 1, 1] := by
  intro scope setting call failing trees
  have hall := (evaluator_reuse setting).2.2 (fun _ _ => rfl) trees {} rfl
  refine ⟨hall, ?_, by decide +kernel⟩
  have hdeep : (setting.run (.prefixes .not 512 (.boolean true)) {}).1 = .error (.tooDeep 512) :=
    ((setting.run_agrees _ (s := {}) (Nat.zero_le maxEvalDepth)).cut (by decide +kernel)).1
  have hfails : (setting.run failing {}).1 = .error (.unknownOperator .negate .string) := rfl
  have hroom : (setting.run (.prefixes .not 510 call) {}).1 = .ok (.boolean true) :=
    eq_ok_boolean (by decide +kernel)
  rw [hall]
  simp only [trees, List.map_cons, List.map_nil, Setting.outcome, hdeep, hfails, hroom]

end StepCondition
