import StepCondition.Proofs.Evaluation.Run

/-!
# Failures as values

A failure can come in as a value: a name can be bound to one, a struct can hold one,
and a function of the host can answer with one. Each of these is an error at once.
So no part of an evaluation has a failure for its value, no call is made with one,
and no array is built around one (`Ensures`, a postcondition that every part
keeps). What a failure is a part of, an array or a struct that the scope or the host
made, is a value like any other.

* `Setting.ensures_eval`: every evaluation, at any depth;
* `failures_are_errors`: so the value of a condition is a failure exactly if its
  evaluation has an error.
-/

namespace StepCondition

variable {α β : Type}

/-- No argument of a call is a failure. -/
def Call.Proper (call : Call) : Prop := ∀ v ∈ call.args, v.isError = false

/-- Whatever a part starts from, its value has a property, and the calls it makes
are proper. -/
structure Ensures (Q : α → Prop) (m : Eval α) : Prop where
  value : ∀ s a, (m s).1 = .ok a → Q a
  calls : ∀ s : Evaluator, ∃ new, (m s).2.calls = s.calls ++ new ∧ ∀ call ∈ new, call.Proper

variable {Q : α → Prop} {R : β → Prop}

theorem ensures_settled {r : Except EvalError α} (h : ∀ a, r = .ok a → Q a) :
    Ensures Q (settled r) where
  value _ := h
  calls _ := ⟨[], (List.append_nil _).symm, fun _ hc => absurd hc List.not_mem_nil⟩

theorem ensures_proper {r : Except EvalError Value} (h : Proper r) :
    Ensures (·.isError = false) (settled r) := ensures_settled h.isError_eq_false

/-- The second part may rely on what the first one ensures. -/
theorem Ensures.bind {m : Eval α} {f : α → Eval β} (hm : Ensures Q m)
    (hf : ∀ a, Q a → Ensures R (f a)) : Ensures R (m >>= f) where
  value s b hb := by
    obtain ⟨e, -, hr⟩ | ⟨a, ha, hr⟩ := bind_cases m f s
    · rw [hr] at hb
      cases hb
    · rw [hr] at hb
      exact (hf a (hm.value s a ha)).value (m s).2 b hb
  calls s := by
    obtain ⟨new, hn, hp⟩ := hm.calls s
    obtain ⟨e, -, hr⟩ | ⟨a, ha, hr⟩ := bind_cases m f s
    · rw [hr]
      exact ⟨new, hn, hp⟩
    · obtain ⟨new', hn', hp'⟩ := (hf a (hm.value s a ha)).calls (m s).2
      rw [hr]
      refine ⟨new ++ new', by rw [hn', hn, List.append_assoc], fun call hc => ?_⟩
      exact (List.mem_append.mp hc).elim (hp call) (hp' call)

namespace Setting

variable (setting : Setting)

theorem ensures_nested {m : Eval α} (hm : Ensures Q m) : Ensures Q (setting.nested m) where
  value s a ha := by
    obtain hn | ⟨limit, hn⟩ := setting.nested_cases m s
    · rw [hn] at ha
      exact hm.value s.deeper a ha
    · rw [hn] at ha
      cases ha
  calls s := by
    obtain hn | ⟨limit, hn⟩ := setting.nested_cases m s
    · rw [hn]
      exact hm.calls s.deeper
    · rw [hn]
      exact ⟨[], (List.append_nil _).symm, fun _ hc => absurd hc List.not_mem_nil⟩

theorem ensures_lookup (name : String) : Ensures (·.isError = false) (setting.lookup name) := by
  obtain ⟨r, hr, hp⟩ := setting.exists_lookup name
  rw [hr]
  exact ensures_proper hp

theorem ensures_invoke {call : Call} (h : call.Proper) :
    Ensures (·.isError = false) (setting.invoke call) where
  value s v hv := by
    obtain ⟨r, hr, hp⟩ := setting.exists_invoke call s
    rw [hr] at hv
    exact hp.isError_eq_false v hv
  calls s := by
    obtain ⟨r, hr, -⟩ := setting.exists_invoke call s
    rw [hr]
    refine ⟨[call], rfl, ?_⟩
    rintro _ (_ | ⟨_, ⟨⟩⟩)
    exact h

theorem ensures_unary (op : UnaryOp) (v : Value) : Ensures (·.isError = false) (op.apply v) := by
  obtain ⟨r, hr, hp⟩ := op.exists_apply v
  rw [hr]
  exact ensures_proper hp

theorem ensures_binary (op : BinaryOp) (v : Value) (tree : Expr) {right : Eval Value}
    (h : Ensures (·.isError = false) right) :
    Ensures (·.isError = false) (op.apply v tree right) := by
  obtain ⟨-, r, ha, hp⟩ | ⟨-, f, ha, hp⟩ := op.apply_cases v tree
  · rw [ha]
    exact ensures_proper hp
  · rw [ha]
    exact h.bind fun w _ => ensures_proper (hp w)

/-- Only values that are no failures get to be arguments. -/
theorem ensures_applied (name : String) {xs : List Expr}
    (h : Ensures (fun vs => ∀ v ∈ vs, v.isError = false) (setting.evalAll xs)) (v : Value) :
    Ensures (·.isError = false) (setting.applied name xs v) := by
  cases v with
  | function f => exact h.bind fun args ha => setting.ensures_invoke ha
  | _ => exact ensures_proper (proper_error nofun)

theorem ensures_literal {e : Expr} (h : e.isLiteral = true) :
    Ensures (·.isError = false) (setting.eval e) := by
  obtain ⟨r, hr, hp⟩ := exists_eval_literal h
  rw [hr]
  exact setting.ensures_nested (ensures_proper hp)

mutual

/-- No evaluation has a failure for its value or makes a call with one. -/
theorem ensures_eval : (e : Expr) → Ensures (·.isError = false) (setting.eval e)
  | .integer _ | .string _ | .boolean _ | .regexp _ => setting.ensures_literal rfl
  | .identifier name => by
    rw [eval_identifier]
    exact setting.ensures_nested (setting.ensures_lookup name)
  | .unary op x => by
    rw [eval_unary]
    exact setting.ensures_nested ((ensures_eval x).bind fun v _ => ensures_unary op v)
  | .binary op x y => by
    rw [eval_binary]
    exact setting.ensures_nested
      ((ensures_eval x).bind fun v _ => ensures_binary op v y (ensures_eval y))
  | .call name xs => by
    rw [eval_call]
    exact setting.ensures_nested ((setting.ensures_lookup name).bind fun v _ =>
      setting.ensures_applied name (ensures_evalAll xs) v)
  | .array xs => by
    rw [eval_array]
    exact setting.ensures_nested ((ensures_evalAll xs).bind fun _ _ =>
      ensures_proper (proper_ok rfl))

theorem ensures_evalAll :
    (es : List Expr) → Ensures (fun vs => ∀ v ∈ vs, v.isError = false) (setting.evalAll es)
  | [] => by
    rw [evalAll_nil]
    exact ensures_settled fun _ h => by cases h; exact fun _ hv => absurd hv List.not_mem_nil
  | x :: xs => by
    rw [evalAll_cons]
    refine (ensures_eval x).bind fun v hv => (ensures_evalAll xs).bind fun vs hvs => ?_
    refine ensures_settled fun ws h => ?_
    cases h
    exact List.forall_mem_cons.mpr ⟨hv, hvs⟩

end

/-- An array literal has an array of proper values for its value. -/
theorem ensures_array (xs : List Expr) :
    Ensures (fun v => ∃ vs, v = .array vs ∧ ∀ w ∈ vs, w.isError = false)
      (setting.eval (.array xs)) := by
  rw [eval_array]
  refine setting.ensures_nested ((setting.ensures_evalAll xs).bind fun vs hvs => ?_)
  refine ensures_settled fun v h => ?_
  cases h
  exact ⟨vs, rfl, hvs⟩

/-- An error comes out of an evaluation as a failure with its message, and a value as
it is. -/
theorem evaluate_fst (e : Expr) (before : List Call) :
    (setting.evaluate e before).1 = match (setting.run e { calls := before }).1 with
      | .ok v => v
      | .error error => .error error.message := by
  unfold evaluate
  rcases setting.run e { calls := before } with ⟨_ | _, _⟩ <;> rfl

end Setting

/-- At any depth and whatever failures there are in the scope and in the answers of
the host: no evaluation has a failure for its value, no call has one for an
argument, and no array literal has one for an item. So a condition has a failure
for its value exactly if its evaluation has an error, and that failure tells the
error. -/
theorem failures_are_errors (setting : Setting) (e : Expr) (s : Evaluator) (before : List Call) :
    (∀ v, (setting.run e s).1 = .ok v → v.isError = false) ∧
    (∃ new, (setting.run e s).2.calls = s.calls ++ new ∧
      ∀ call ∈ new, ∀ v ∈ call.args, v.isError = false) ∧
    (∀ xs v, (setting.run (.array xs) s).1 = .ok v →
      ∃ vs, v = .array vs ∧ ∀ w ∈ vs, w.isError = false) ∧
    ((setting.evaluate e before).1.isError = true ↔
      ∃ error, (setting.run e { calls := before }).1 = .error error) ∧
    ∀ error, (setting.run e { calls := before }).1 = .error error →
      (setting.evaluate e before).1 = .error error.message := by
  have he := setting.ensures_eval e
  refine ⟨he.value s, he.calls s, fun xs => (setting.ensures_array xs).value s, ?_, ?_⟩
  · rw [setting.evaluate_fst]
    have hv := he.value { calls := before }
    change ∀ v, (setting.run e { calls := before }).1 = .ok v → _ at hv
    cases hr : (setting.run e { calls := before }).1 with
    | ok v => simp [hv v hr]
    | error error => simp [Value.isError]
  · intro error hr
    rw [setting.evaluate_fst, hr]

end StepCondition
