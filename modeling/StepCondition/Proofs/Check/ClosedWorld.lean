import Mathlib.Data.List.Basic
import StepCondition.Proofs.Check.Converted
import StepCondition.Proofs.Check.Run
import StepCondition.Proofs.Evaluation.Failures

/-!
# The closed world of a check

A check evaluates its condition in a scope made of a JSON text and of variables alone.
Every value there is tame, and no part of an evaluation in such a scope
(`Setting.Closed`) lets anything else in: none calls a function, none raises a failure,
and the values are tame again (`Quiet`, a postcondition that every part keeps).

* `Setting.Closed.quiet_eval`: every evaluation, at any depth;
* `Setting.Closed.run_call`: every call fails;
* `check_closed_world`: a check.
-/

namespace StepCondition

variable {α β : Type}

/-! ## Quiet parts -/

/-- Whatever a part starts from, its value has a property, it raises no failure, and it
makes no call. -/
structure Quiet (Q : α → Prop) (m : Eval α) : Prop where
  value : ∀ s a, (m s).1 = .ok a → Q a
  error : ∀ s message, (m s).1 ≠ .error (.raised message)
  calls : ∀ s : Evaluator, (m s).2.calls = s.calls

variable {Q : α → Prop} {R : β → Prop}

theorem quiet_ok {a : α} (h : Q a) : Quiet Q (settled (.ok a)) where
  value := by
    rintro _ _ ⟨⟩
    exact h
  error := nofun
  calls _ := rfl

theorem quiet_error {e : EvalError} (h : ∀ message, e ≠ .raised message) :
    Quiet Q (settled (.error e)) where
  value := nofun
  error _ message he := h message (Except.error.inj he)
  calls _ := rfl

/-- The second part may rely on what the first one has for its value. -/
theorem Quiet.bind {m : Eval α} {f : α → Eval β} (hm : Quiet Q m)
    (hf : ∀ a, Q a → Quiet R (f a)) : Quiet R (m >>= f) where
  value s b hb := by
    obtain ⟨e, -, hr⟩ | ⟨a, ha, hr⟩ := bind_cases m f s
    · rw [hr] at hb
      cases hb
    · rw [hr] at hb
      exact (hf a (hm.value s a ha)).value _ b hb
  error s message he := by
    obtain ⟨e, h, hr⟩ | ⟨a, ha, hr⟩ := bind_cases m f s
    · rw [hr] at he
      exact hm.error s message (h.trans (congrArg _ (Except.error.inj he)))
    · rw [hr] at he
      exact (hf a (hm.value s a ha)).error _ message he
  calls s := by
    obtain ⟨e, -, hr⟩ | ⟨a, ha, hr⟩ := bind_cases m f s
    · rw [hr]
      exact hm.calls s
    · rw [hr, (hf a (hm.value s a ha)).calls, hm.calls]

theorem Setting.quiet_nested (setting : Setting) {m : Eval α} (hm : Quiet Q m) :
    Quiet Q (setting.nested m) where
  value s a ha := by
    obtain hn | ⟨limit, hn⟩ := setting.nested_cases m s
    · rw [hn] at ha
      exact hm.value s.deeper a ha
    · rw [hn] at ha
      cases ha
  error s message he := by
    obtain hn | ⟨limit, hn⟩ := setting.nested_cases m s
    · rw [hn] at he
      exact hm.error s.deeper message he
    · rw [hn] at he
      cases he
  calls s := by
    obtain hn | ⟨limit, hn⟩ := setting.nested_cases m s
    · rw [hn]
      exact hm.calls s.deeper
    · rw [hn]

/-! ## Operators on tame values -/

theorem quiet_yields (b : Bool) : Quiet Value.Tame (yields b) :=
  quiet_ok (tame_atom (by simp [Value.kind]))

theorem quiet_raise {v : Value} (h : v.Tame) : Quiet Value.Tame (raise v) := by
  have he := h.isError_eq_false
  cases v with
  | error message => cases he
  | _ => exact quiet_ok h

theorem quiet_unary (op : UnaryOp) (v : Value) : Quiet Value.Tame (op.apply v) := by
  cases op with
  | not => exact quiet_yields _
  | negate =>
    cases v with
    | integer n =>
      simp only [UnaryOp.apply]
      split
      · exact quiet_error (by simp)
      · exact quiet_ok (tame_atom (by simp [Value.kind]))
    | _ => exact quiet_error (by simp)

theorem quiet_matchAgainst (op : BinaryOp) (text : String) (v : Value) :
    Quiet (fun _ => True) (matchAgainst op text v) := by
  cases v with
  | regexp pattern => exact quiet_ok trivial
  | _ => exact quiet_error (by simp)

/-- An access takes its value from a tame struct, and every other operator has a truth
value. -/
theorem quiet_binary (op : BinaryOp) {v : Value} (hv : v.Tame) (tree : Expr) {right : Eval Value}
    (h : Quiet Value.Tame right) : Quiet Value.Tame (op.apply v tree right) := by
  cases op with
  | and | or =>
    simp only [BinaryOp.apply]
    split
    · first | exact quiet_yields _ | exact h.bind fun w _ => quiet_yields _
    · first | exact quiet_yields _ | exact h.bind fun w _ => quiet_yields _
  | equal | notEqual => exact h.bind fun w _ => quiet_yields _
  | matching | notMatching =>
    cases v with
    | string text =>
      exact h.bind fun w _ => (quiet_matchAgainst _ text w).bind fun b _ => quiet_yields _
    | _ => exact quiet_error (by simp)
  | contains =>
    cases v with
    | array items => exact h.bind fun w _ => quiet_yields _
    | _ => exact quiet_error (by simp)
  | access =>
    cases v with
    | struct fields =>
      cases tree with
      | identifier name =>
        simp only [BinaryOp.apply]
        cases hf : fields.get? name with
        | none => exact quiet_error (by simp)
        | some w => exact quiet_raise (hv.of_has (.field hf (.self w)))
      | _ => exact quiet_error (by simp)
    | _ => exact quiet_error (by simp)

/-! ## Evaluating in a closed world -/

namespace Setting

/-- Every value in scope is tame. -/
def Closed (setting : Setting) : Prop := ∀ name v, setting.scope name = some v → v.Tame

/-- Why a call fails where no name is bound to a function. -/
def callError (setting : Setting) (name : String) : EvalError :=
  if (setting.scope name).isSome then .notAFunction name else .undefinedIdentifier name

variable {setting : Setting}

/-- No tame value is a function. -/
theorem applied_of_tame {v : Value} (hv : v.Tame) (name : String) (xs : List Expr) :
    setting.applied name xs v = settled (.error (.notAFunction name)) := by
  cases v with
  | function f => exact absurd (by simp [Value.kind]) (hv.kind _ (.self _))
  | _ => rfl

theorem quiet_literal {e : Expr} (h : e.isLiteral = true) :
    Quiet Value.Tame (setting.eval e) := by
  cases e with
  | integer | string | boolean =>
    rw [eval]
    exact setting.quiet_nested (quiet_ok (tame_atom (by simp [Value.kind])))
  | regexp pattern =>
    rw [eval]
    refine setting.quiet_nested ?_
    split
    · exact quiet_ok (tame_atom (by simp [Value.kind]))
    · exact quiet_error (by simp)
  | _ => cases h

theorem Closed.quiet_lookup (h : setting.Closed) (name : String) :
    Quiet Value.Tame (setting.lookup name) := by
  unfold lookup
  cases hs : setting.scope name with
  | none => exact quiet_error (by simp)
  | some v => exact quiet_raise (h name v hs)

mutual

/-- Every evaluation in a closed world is quiet, and its value is tame. -/
theorem Closed.quiet_eval (h : setting.Closed) : (e : Expr) → Quiet Value.Tame (setting.eval e)
  | .integer _ | .string _ | .boolean _ | .regexp _ => quiet_literal rfl
  | .identifier name => by
    rw [eval_identifier]
    exact setting.quiet_nested (h.quiet_lookup name)
  | .unary op x => by
    rw [eval_unary]
    exact setting.quiet_nested ((h.quiet_eval x).bind fun v _ => quiet_unary op v)
  | .binary op x y => by
    rw [eval_binary]
    exact setting.quiet_nested
      ((h.quiet_eval x).bind fun v hv => quiet_binary op hv y (h.quiet_eval y))
  | .call name xs => by
    rw [eval_call]
    refine setting.quiet_nested ((h.quiet_lookup name).bind fun v hv => ?_)
    rw [applied_of_tame hv]
    exact quiet_error (by simp)
  | .array xs => by
    rw [eval_array]
    exact setting.quiet_nested ((h.quiet_evalAll xs).bind fun vs hvs => quiet_ok (tame_array hvs))

theorem Closed.quiet_evalAll (h : setting.Closed) :
    (es : List Expr) → Quiet (fun vs => ∀ v ∈ vs, v.Tame) (setting.evalAll es)
  | [] => by
    rw [evalAll_nil]
    exact quiet_ok (List.forall_mem_nil _)
  | x :: xs => by
    rw [evalAll_cons]
    exact (h.quiet_eval x).bind fun v hv => (h.quiet_evalAll xs).bind fun vs hvs =>
      quiet_ok (List.forall_mem_cons.mpr ⟨hv, hvs⟩)

end

/-- A call fails before any of its arguments is evaluated. -/
theorem Closed.lookup_applied (h : setting.Closed) (name : String) (xs : List Expr) :
    (setting.lookup name >>= setting.applied name xs) =
      settled (.error (setting.callError name)) := by
  rw [callError]
  cases hs : setting.scope name with
  | none =>
    simp only [lookup, hs]
    rfl
  | some v =>
    have he := (h name v hs).isError_eq_false
    have hr : setting.lookup name = settled (.ok v) := by
      simp only [lookup, hs]
      cases v with
      | error message => cases he
      | _ => rfl
    rw [hr]
    exact applied_of_tame (h name v hs) name xs

/-- Every call fails, and changes nothing. -/
theorem Closed.run_call (h : setting.Closed) (name : String) (xs : List Expr) (s : Evaluator) :
    setting.run (.call name xs) s =
      (.error (if setting.Admits s then setting.callError name
        else .tooDeep (setting.limit.getD 0)), s) := by
  change setting.eval (.call name xs) s = _
  rw [eval_call, h.lookup_applied]
  by_cases ha : setting.Admits s
  · rw [setting.nested_apply _ ha, if_pos ha]
    rfl
  · obtain ⟨limit, hl, hle⟩ := setting.exists_limit_of_not_admits ha
    rw [setting.nested_apply_limit _ hl hle, if_neg ha, hl]
    rfl

end Setting

/-! ## The scope of a check -/

namespace Check

variable {check : Check} {s : Struct}

/-- A scope made of a JSON text and of variables is closed. -/
theorem closed {vars : Option (List (String × String))}
    (henv : check.env = vars.map Struct.ofVariables) (hs : check.scope = .ok s) :
    Setting.Closed { scope := s.get? } := by
  intro name v hv
  obtain ⟨members, rfl⟩ := exists_members hs
  have outer : (Struct.ofMembers members).get? name = some v → v.Tame := fun hm => by
    rw [Struct.get?_ofMembers, Option.bind_eq_some_iff] at hm
    obtain ⟨json, -, hj⟩ := hm
    exact tame_of_ofJson? hj
  rw [henv] at hv
  cases vars with
  | none => exact outer hv
  | some vars =>
    simp only [Option.map_some, Bindings.get?_insert] at hv
    split at hv
    · cases hv
      exact tame_ofVariables vars
    · exact outer hv

theorem get?_env {env : Struct} (henv : check.env = some env) (hs : check.scope = .ok s) :
    s.get? "env" = some (.struct env) := by
  obtain ⟨members, rfl⟩ := exists_members hs
  simp [henv]

/-- The scope of a check whose JSON text binds `env` as well, and another name to null. -/
theorem scope_env (condition : String) :
    scope
      { condition
        input := some "\x7b\"env\": true, \"none\": null\x7d"
        env := some (Struct.ofVariables [("CI", "true")]) } =
      .ok (.ofList [("env", .struct (Struct.ofVariables [("CI", "true")]))]) := by
  have hj : inputJson
      { condition
        input := some "\x7b\"env\": true, \"none\": null\x7d"
        env := some (Struct.ofVariables [("CI", "true")]) } =
      .ok (some (.object (.ofList [("env", .boolean true), ("none", .null)]))) := by rfl
  rw [scope, hj]
  rfl

/-- A check that gets as far as evaluating has what the evaluation has, an error as its
message. -/
theorem run_of_scope {e : Expr} (hform : check.syntaxOnly = false)
    (he : parse check.condition = .ok e) (hs : check.scope = .ok s) :
    check.run = match (Setting.run { scope := s.get? } e {}).1 with
      | .ok v => .ok (.value e v)
      | .error error => .error (.evaluation error.message) := by
  have hv := (Setting.ensures_eval { scope := s.get? } e).value {}
  change ∀ v, (Setting.run { scope := s.get? } e {}).1 = .ok v → _ at hv
  rw [run_of_ok hform he hs, Setting.evaluate_fst]
  cases hr : (Setting.run { scope := s.get? } e {}).1 with
  | error error => rfl
  | ok v =>
    have hv := hv v hr
    cases v with
    | error message => cases hv
    | _ => rfl

end Check

/-- A check whose scope is made of a JSON text and of variables, once it gets as far as
evaluating: it makes no call, every call that it comes to fails, it raises no failure,
and its value is tame. The name `env` is bound to the variables, if there are any,
whatever the JSON text binds it to. -/
theorem check_closed_world {condition : String} {input : Option String}
    {vars : Option (List (String × String))} {e : Expr} {s : Struct}
    (he : parse condition = .ok e)
    (hs : Check.scope { condition, input, env := vars.map Struct.ofVariables } = .ok s) :
    let check : Check := { condition, input, env := vars.map Struct.ofVariables }
    let setting : Setting := { scope := s.get? }
    (check.run = match (setting.run e {}).1 with
      | .ok v => .ok (.value e v)
      | .error error => .error (.evaluation error.message)) ∧
    (∀ t, (setting.run e t).2.calls = t.calls) ∧
    (∀ name xs t, setting.run (.call name xs) t =
      (.error (if maxEvalDepth ≤ t.depth then .tooDeep maxEvalDepth
        else if (s.get? name).isSome then .notAFunction name else .undefinedIdentifier name), t)) ∧
    (∀ t message, (setting.run e t).1 ≠ .error (.raised message)) ∧
    (∀ t v, (setting.run e t).1 = .ok v → v.Tame) ∧
    ∀ given, vars = some given → s.get? "env" = some (.struct (Struct.ofVariables given)) ∧
      ∀ name, (Struct.ofVariables given).get? name =
        (given.reverse.find? (·.1 = name)).map fun var => .string var.2 := by
  intro check setting
  have hclosed : setting.Closed := Check.closed rfl hs
  have hquiet := hclosed.quiet_eval e
  refine ⟨Check.run_of_scope rfl he hs, hquiet.calls, fun name xs t => ?_, hquiet.error,
    hquiet.value, ?_⟩
  · rw [hclosed.run_call name xs t]
    by_cases hd : maxEvalDepth ≤ t.depth
    · have ha : ¬ setting.Admits t := fun ha => Nat.not_lt.mpr hd (ha _ rfl)
      rw [if_neg ha, if_pos hd]
      rfl
    · have ha : setting.Admits t := by
        rintro _ ⟨⟩
        exact Nat.lt_of_not_le hd
      rw [if_pos ha, if_neg hd]
      rfl
  · rintro given rfl
    exact ⟨Check.get?_env rfl hs, Struct.get?_ofVariables given⟩

/-- A variable, where the JSON text binds `env` as well. -/
theorem check_closed_world_env :
    let e := Expr.binary .access (.identifier "env") (.identifier "CI")
    let s : Struct := .ofList [("env", .struct (Struct.ofVariables [("CI", "true")]))]
    let setting : Setting := { scope := s.get? }
    parse "env.CI" = .ok e ∧
    Check.scope
      { condition := "env.CI"
        input := some "\x7b\"env\": true, \"none\": null\x7d"
        env := some (Struct.ofVariables [("CI", "true")]) } = .ok s ∧
    (setting.run e {}).1 = .ok (.string "true") ∧ (Value.string "true").Tame ∧
    s.get? "env" = some (.struct (Struct.ofVariables [("CI", "true")])) := by
  intro e s setting
  have he : parse "env.CI" = .ok e := by decide +kernel
  have hs := Check.scope_env "env.CI"
  have hv : (setting.run e {}).1 = .ok (.string "true") := rfl
  obtain ⟨-, -, -, -, htame, henv⟩ :=
    @check_closed_world "env.CI" _ (some [("CI", "true")]) e s he hs
  exact ⟨he, hs, hv, htame {} _ hv, (henv _ rfl).1⟩

end StepCondition
