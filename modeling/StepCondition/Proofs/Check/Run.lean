import StepCondition.Check

/-!
# Runs of a check

A check fails with the errors in its condition, or else has what the evaluation of the
condition in the scope of the check has. That scope is the struct of an object, in which
variables take the place of what the object binds `env` to.

* `Check.run_of_error`, `Check.run_of_ok`: what a check finds;
* `Check.exists_members`: what its scope is.
-/

namespace StepCondition.Check

variable {check : Check} {s : Struct}

theorem run_of_error {es : List SyntaxError} (h : parse check.condition = .error es) :
    check.run = .error (.parse es) := by simp only [run, h]

theorem run_of_ok {e : Expr} (hform : check.syntaxOnly = false)
    (he : parse check.condition = .ok e) (hs : check.scope = .ok s) :
    check.run = match (Setting.evaluate { scope := s.get? } e []).1 with
      | .error message => .error (.evaluation message)
      | v => .ok (.value e v) := by
  simp only [run, he, hform, hs]
  rfl

/-- The scope of a check is the struct of an object, with the variables in place of
what the object binds `env` to. -/
theorem exists_members (hs : check.scope = .ok s) :
    ∃ members : Bindings Json none, s = match check.env with
      | some env => (Struct.ofMembers members).insert "env" (.struct env)
      | none => Struct.ofMembers members := by
  unfold scope at hs
  cases hj : check.inputJson with
  | error error =>
    rw [hj] at hs
    cases hs
  | ok json =>
    rw [hj] at hs
    cases json with
    | none => exact ⟨.nil, (Except.ok.inj hs).symm⟩
    | some json =>
      cases json with
      | object members => exact ⟨members, (Except.ok.inj hs).symm⟩
      | _ => cases hs

end StepCondition.Check
