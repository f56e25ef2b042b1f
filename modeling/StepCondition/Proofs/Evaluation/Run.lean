import Mathlib.Tactic.Choose
import StepCondition.Evaluation

/-!
# Runs of an evaluation

An evaluation is put together from parts (`Eval`): results that are settled
without a run (`settled`), one part after another (`bind_apply`), parts one level
deeper and calls. Operators are no exception: given the value on its left, an
operator either has its result or looks at its right side and settles the result
from the value there (`BinaryOp.apply_cases`).

* `Setting.Kept.eval`: what every such part keeps, every evaluation keeps;
* `Setting.kept_frames`: the depth is the same after an evaluation, and calls are
  only added;
* `Setting.kept_plain`: without a limit, nesting is never the error.
-/

namespace StepCondition

variable {α β : Type}

/-! ## Parts -/

/-- A part that has its result without a run. -/
def settled (r : Except EvalError α) : Eval α := fun s => (r, s)

/-- A result other than the error for nesting. -/
def Plain (r : Except EvalError α) : Prop := ∀ limit, r ≠ .error (.tooDeep limit)

theorem plain_ok (a : α) : Plain (.ok a) := nofun

theorem plain_error {e : EvalError} (h : ∀ limit, e ≠ .tooDeep limit) :
    Plain (.error e : Except EvalError α) := fun limit he => h limit (Except.error.inj he)

/-- A result that an operator can have: not the error for nesting, and no value that
is a failure. -/
structure Proper (r : Except EvalError Value) : Prop where
  plain : Plain r
  isError_eq_false : ∀ v, r = .ok v → v.isError = false

theorem proper_ok {v : Value} (h : v.isError = false) : Proper (.ok v) where
  plain := plain_ok v
  isError_eq_false := by
    rintro _ ⟨⟩
    exact h

theorem proper_error {e : EvalError} (h : ∀ limit, e ≠ .tooDeep limit) : Proper (.error e) where
  plain := plain_error h
  isError_eq_false := nofun

theorem Plain.boolean {r : Except EvalError Bool} (h : Plain r) (g : Bool → Bool) :
    Proper (r.map fun b => .boolean (g b)) := by
  cases r with
  | ok b => exact proper_ok rfl
  | error e => exact proper_error fun limit he => h limit (congrArg _ he)

/-- One part after another, which runs only if the first one has a value. -/
theorem bind_apply (m : Eval α) (f : α → Eval β) (s : Evaluator) :
    (m >>= f) s = match m s with
      | (.ok a, after) => f a after
      | (.error e, after) => (.error e, after) := by
  change ExceptT.bindCont (m := StateM Evaluator) f (m s).1 (m s).2 = _
  rcases (m s : Except EvalError α × Evaluator) with ⟨_ | _, _⟩ <;> rfl

theorem bind_apply_ok {m : Eval α} {s after : Evaluator} {a : α} (h : m s = (.ok a, after))
    (f : α → Eval β) : (m >>= f) s = f a after := by rw [bind_apply, h]

theorem bind_apply_error {m : Eval α} {s after : Evaluator} {e : EvalError}
    (h : m s = (.error e, after)) (f : α → Eval β) : (m >>= f) s = (.error e, after) := by
  rw [bind_apply, h]

/-- Of two parts in a row, the first one fails or the second one runs. -/
theorem bind_cases (m : Eval α) (f : α → Eval β) (s : Evaluator) :
    (∃ e, (m s).1 = .error e ∧ (m >>= f) s = (.error e, (m s).2)) ∨
      ∃ a, (m s).1 = .ok a ∧ (m >>= f) s = f a (m s).2 := by
  rcases hr : m s with ⟨e | a, after⟩
  · exact .inl ⟨e, rfl, bind_apply_error hr f⟩
  · exact .inr ⟨a, rfl, bind_apply_ok hr f⟩

theorem bind_apply_congr {m m' : Eval α} {f g : α → Eval β} {s : Evaluator} (hm : m s = m' s)
    (h : ∀ a after, m' s = (.ok a, after) → f a after = g a after) :
    (m >>= f) s = (m' >>= g) s := by
  rcases hr : m' s with ⟨error | a, after⟩
  · rw [bind_apply_error (hm.trans hr), bind_apply_error hr]
  · rw [bind_apply_ok (hm.trans hr), bind_apply_ok hr, h a after hr]

theorem bind_apply_fails {m : Eval α} {s : Evaluator} {error : EvalError}
    (h : (m s).1 = .error error) (f : α → Eval β) : ((m >>= f) s).1 = .error error := by
  rcases hr : m s with ⟨error' | a, after⟩
  · rw [hr] at h
    rw [bind_apply_error hr]
    exact congrArg Except.error (Except.error.inj h)
  · rw [hr] at h
    cases h

/-- An evaluator one level deeper. -/
def Evaluator.deeper (s : Evaluator) : Evaluator := { s with depth := s.depth + 1 }

namespace Setting

variable (setting : Setting) (m : Eval α) {s : Evaluator}

/-- The limit permits a part one level deeper. -/
def Admits (s : Evaluator) : Prop := ∀ limit ∈ setting.limit, s.depth < limit

instance (s : Evaluator) : Decidable (setting.Admits s) :=
  inferInstanceAs (Decidable (∀ limit ∈ setting.limit, s.depth < limit))

theorem nested_apply (h : setting.Admits s) :
    setting.nested m s = ((m s.deeper).1, { (m s.deeper).2 with depth := s.depth }) := by
  have hf : setting.limit.filter (· ≤ s.depth) = none :=
    Option.filter_eq_none_iff.mpr fun limit hl => by simpa using h limit hl
  simp only [nested, hf]
  rfl

theorem nested_apply_limit {limit : Nat} (hl : setting.limit = some limit)
    (h : limit ≤ s.depth) : setting.nested m s = (.error (.tooDeep limit), s) := by
  have hf : setting.limit.filter (· ≤ s.depth) = some limit := by simp [hl, h]
  simp only [nested, hf]

theorem exists_limit_of_not_admits (h : ¬ setting.Admits s) :
    ∃ limit, setting.limit = some limit ∧ limit ≤ s.depth := by
  obtain ⟨limit, hl⟩ := Classical.not_forall.mp h
  obtain ⟨hl, hle⟩ := Classical.not_imp.mp hl
  exact ⟨limit, hl, Nat.le_of_not_lt hle⟩

/-- A part one level deeper runs from there, or the limit is in its way. -/
theorem nested_cases (s : Evaluator) :
    setting.nested m s = ((m s.deeper).1, { (m s.deeper).2 with depth := s.depth }) ∨
      ∃ limit, setting.nested m s = (.error (.tooDeep limit), s) := by
  by_cases ha : setting.Admits s
  · exact .inl (setting.nested_apply m ha)
  · obtain ⟨limit, hl, hle⟩ := setting.exists_limit_of_not_admits ha
    exact .inr ⟨limit, setting.nested_apply_limit m hl hle⟩

end Setting

/-! ## Values and operators -/

theorem exists_raise (v : Value) : ∃ r, raise v = settled r ∧ Proper r := by
  cases v with
  | error message => exact ⟨_, rfl, proper_error nofun⟩
  | _ => exact ⟨_, rfl, proper_ok rfl⟩

theorem UnaryOp.exists_apply (op : UnaryOp) (v : Value) :
    ∃ r, op.apply v = settled r ∧ Proper r := by
  cases op with
  | not => exact ⟨_, rfl, proper_ok rfl⟩
  | negate =>
    cases v with
    | integer n =>
      simp only [UnaryOp.apply]
      split
      · exact ⟨_, rfl, proper_error nofun⟩
      · exact ⟨_, rfl, proper_ok rfl⟩
    | _ => exact ⟨_, rfl, proper_error nofun⟩

theorem exists_matchAgainst (op : BinaryOp) (text : String) (v : Value) :
    ∃ r, matchAgainst op text v = settled r ∧ Plain r := by
  cases v with
  | regexp pattern => exact ⟨_, rfl, plain_ok _⟩
  | _ => exact ⟨_, rfl, plain_error nofun⟩

/-- Whether an operator looks at its right side, given the value on its left. -/
def BinaryOp.looksRight : BinaryOp → Value → Bool
  | and, v => v.isTruthy
  | or, v => !v.isTruthy
  | equal, _ | notEqual, _ => true
  | matching, .string _ | notMatching, .string _ => true
  | contains, .array _ => true
  | _, _ => false

/-- A match of a text settles its result from the value on the right. -/
theorem exists_matching (op : BinaryOp) (text : String) (g : Bool → Bool) :
    ∃ f : Value → Except EvalError Value,
      (∀ right : Eval Value, (do yields (g (← matchAgainst op text (← right)))) =
        right >>= fun w => settled (f w)) ∧ ∀ w, Proper (f w) := by
  choose r hr hp using exists_matchAgainst op text
  refine ⟨fun w => (r w).map fun b => .boolean (g b), fun right => bind_congr fun w => ?_,
    fun w => (hp w).boolean g⟩
  rw [hr]
  change _ = settled ((r w).map _)
  cases r w <;> rfl

/-- An operator has its result from the left side, or settles it from the value on
the right. -/
theorem BinaryOp.apply_cases (op : BinaryOp) (v : Value) (tree : Expr) :
    (op.looksRight v = false ∧ ∃ r, (∀ right, op.apply v tree right = settled r) ∧ Proper r) ∨
      (op.looksRight v = true ∧ ∃ f : Value → Except EvalError Value,
        (∀ right, op.apply v tree right = right >>= fun w => settled (f w)) ∧
          ∀ w, Proper (f w)) := by
  cases op with
  | and =>
    cases h : v.isTruthy with
    | false => exact .inl ⟨h, _, fun _ => by simp only [apply, h]; rfl, proper_ok rfl⟩
    | true => exact .inr ⟨h, _, fun _ => by simp only [apply, h]; rfl, fun _ => proper_ok rfl⟩
  | or =>
    cases h : v.isTruthy with
    | false =>
      exact .inr ⟨by simp [looksRight, h], _, fun _ => by simp only [apply, h]; rfl,
        fun _ => proper_ok rfl⟩
    | true =>
      exact .inl ⟨by simp [looksRight, h], _, fun _ => by simp only [apply, h]; rfl, proper_ok rfl⟩
  | equal | notEqual => exact .inr ⟨rfl, _, fun _ => rfl, fun _ => proper_ok rfl⟩
  | matching =>
    cases v with
    | string text => exact .inr ⟨rfl, exists_matching .matching text id⟩
    | _ => exact .inl ⟨rfl, _, fun _ => rfl, proper_error nofun⟩
  | notMatching =>
    cases v with
    | string text => exact .inr ⟨rfl, exists_matching .notMatching text not⟩
    | _ => exact .inl ⟨rfl, _, fun _ => rfl, proper_error nofun⟩
  | contains =>
    cases v with
    | array items => exact .inr ⟨rfl, _, fun _ => rfl, fun _ => proper_ok rfl⟩
    | _ => exact .inl ⟨rfl, _, fun _ => rfl, proper_error nofun⟩
  | access =>
    cases v with
    | struct fields =>
      cases tree with
      | identifier name =>
        refine .inl ⟨rfl, ?_⟩
        simp only [apply]
        cases fields.get? name with
        | none => exact ⟨_, fun _ => rfl, proper_error nofun⟩
        | some v =>
          obtain ⟨r, hr, hp⟩ := exists_raise v
          exact ⟨r, fun _ => hr, hp⟩
      | _ => exact .inl ⟨rfl, _, fun _ => rfl, proper_error nofun⟩
    | _ => exact .inl ⟨rfl, _, fun _ => rfl, proper_error nofun⟩

/-- Only an access looks at the tree on its right. -/
theorem BinaryOp.apply_tree {op : BinaryOp} (h : op ≠ .access) (v : Value) (tree tree' : Expr)
    (right : Eval Value) : op.apply v tree right = op.apply v tree' right := by
  cases op with
  | access => exact absurd rfl h
  | matching | notMatching | contains => cases v <;> rfl
  | _ => rfl

/-- Whether a tree is a literal. -/
def Expr.isLiteral : Expr → Bool
  | integer _ | string _ | boolean _ | regexp _ => true
  | _ => false

namespace Setting

variable (setting : Setting)

theorem exists_lookup (name : String) :
    ∃ r, setting.lookup name = settled r ∧ Proper r := by
  unfold lookup
  cases setting.scope name with
  | none => exact ⟨_, rfl, proper_error nofun⟩
  | some v => exact exists_raise v

/-- A call is written down, and then settled by the host. -/
theorem exists_invoke (call : Call) (s : Evaluator) :
    ∃ r, setting.invoke call s = (r, s.record call) ∧ Proper r := by
  obtain ⟨r, hr, hp⟩ := exists_raise (setting.host s.calls call.function call.args)
  exact ⟨r, congrFun hr (s.record call), hp⟩

/-! ## Evaluating each kind of tree -/

/-- Whatever the tree, it is not evaluated past the limit. -/
theorem eval_apply_limit {s : Evaluator} {limit : Nat} (hl : setting.limit = some limit)
    (h : limit ≤ s.depth) (e : Expr) : setting.eval e s = (.error (.tooDeep limit), s) := by
  rw [eval.eq_def]
  exact setting.nested_apply_limit _ hl h

theorem eval_integer (n : Int64) :
    setting.eval (.integer n) = setting.nested (settled (.ok (.integer n))) := by
  rw [eval]
  rfl

theorem eval_identifier (name : String) :
    setting.eval (.identifier name) = setting.nested (setting.lookup name) := by
  rw [eval]

theorem eval_unary (op : UnaryOp) (x : Expr) :
    setting.eval (.unary op x) = setting.nested (setting.eval x >>= op.apply) := by
  rw [eval]

theorem eval_binary (op : BinaryOp) (x y : Expr) :
    setting.eval (.binary op x y) =
      setting.nested (setting.eval x >>= fun v => op.apply v y (setting.eval y)) := by
  rw [eval]

theorem eval_array (xs : List Expr) :
    setting.eval (.array xs) =
      setting.nested (setting.evalAll xs >>= fun vs => settled (.ok (.array vs))) := by
  rw [eval]
  rfl

/-- What a call does with the value of its name: only a function has its arguments
evaluated. -/
def applied (name : String) (xs : List Expr) : Value → Eval Value
  | .function f => setting.evalAll xs >>= fun args => setting.invoke ⟨name, f, args⟩
  | _ => settled (.error (.notAFunction name))

theorem eval_call (name : String) (xs : List Expr) :
    setting.eval (.call name xs) =
      setting.nested (setting.lookup name >>= setting.applied name xs) := by
  rw [eval]
  refine congrArg _ (bind_congr fun v => ?_)
  cases v <;> rfl

theorem evalAll_nil : setting.evalAll [] = settled (.ok []) := by
  rw [evalAll]
  rfl

theorem evalAll_cons (x : Expr) (xs : List Expr) :
    setting.evalAll (x :: xs) = setting.eval x >>= fun v =>
      setting.evalAll xs >>= fun vs => settled (.ok (v :: vs)) := by
  rw [evalAll]
  rfl

/-- A literal has the same value in every setting. -/
theorem exists_eval_literal {e : Expr} (h : e.isLiteral = true) :
    ∃ r, (∀ setting : Setting, setting.eval e = setting.nested (settled r)) ∧ Proper r := by
  cases e with
  | integer | string | boolean => exact ⟨_, fun setting => by rw [eval]; rfl, proper_ok rfl⟩
  | regexp pattern =>
    cases hc : Pattern.compile pattern with
    | ok p =>
      refine ⟨.ok (.regexp p), fun setting => ?_, proper_ok rfl⟩
      rw [eval]
      simp only [hc]
      rfl
    | error fault =>
      refine ⟨.error (.invalidRegexp pattern fault), fun setting => ?_, proper_error nofun⟩
      rw [eval]
      simp only [hc]
      rfl
  | _ => cases h

end Setting

/-! ## What every part keeps -/

/-- A property of parts that carries over from parts to what is put together from
them in a setting. -/
structure Setting.Kept (setting : Setting) (P : {α : Type} → Eval α → Prop) : Prop where
  settled {α : Type} {r : Except EvalError α} : Plain r → P (settled r)
  bind {α β : Type} {m : Eval α} {f : α → Eval β} : P m → (∀ a, P (f a)) → P (m >>= f)
  nested {α : Type} {m : Eval α} : P m → P (setting.nested m)
  invoke (call : Call) : P (setting.invoke call)

namespace Setting.Kept

variable {setting : Setting} {P : {α : Type} → Eval α → Prop} (h : setting.Kept P)

include h

theorem lookup (name : String) : P (setting.lookup name) := by
  obtain ⟨r, hr, hp⟩ := setting.exists_lookup name
  rw [hr]
  exact h.settled hp.plain

theorem unary (op : UnaryOp) (v : Value) : P (op.apply v) := by
  obtain ⟨r, hr, hp⟩ := op.exists_apply v
  rw [hr]
  exact h.settled hp.plain

theorem binary (op : BinaryOp) (v : Value) (tree : Expr) {right : Eval Value} (hr : P right) :
    P (op.apply v tree right) := by
  obtain ⟨-, r, ha, hp⟩ | ⟨-, f, ha, hp⟩ := op.apply_cases v tree
  · rw [ha]
    exact h.settled hp.plain
  · rw [ha]
    exact h.bind hr fun w => h.settled (hp w).plain

theorem applied (name : String) {xs : List Expr} (hxs : P (setting.evalAll xs)) (v : Value) :
    P (setting.applied name xs v) := by
  cases v with
  | function f => exact h.bind hxs fun args => h.invoke _
  | _ => exact h.settled (plain_error nofun)

theorem literal {e : Expr} (he : e.isLiteral = true) : P (setting.eval e) := by
  obtain ⟨r, hr, hp⟩ := Setting.exists_eval_literal he
  rw [hr]
  exact h.nested (h.settled hp.plain)

mutual

/-- What every part keeps, every evaluation keeps. -/
theorem eval : (e : Expr) → P (setting.eval e)
  | .integer _ | .string _ | .boolean _ | .regexp _ => h.literal rfl
  | .identifier name => by
    rw [eval_identifier]
    exact h.nested (h.lookup name)
  | .unary op x => by
    rw [eval_unary]
    exact h.nested (h.bind (eval x) (h.unary op))
  | .binary op x y => by
    rw [eval_binary]
    exact h.nested (h.bind (eval x) fun v => h.binary op v y (eval y))
  | .call name xs => by
    rw [eval_call]
    exact h.nested (h.bind (h.lookup name) (h.applied name (evalAll xs)))
  | .array xs => by
    rw [eval_array]
    exact h.nested (h.bind (evalAll xs) fun _ => h.settled (plain_ok _))

theorem evalAll : (es : List Expr) → P (setting.evalAll es)
  | [] => by
    rw [evalAll_nil]
    exact h.settled (plain_ok _)
  | x :: xs => by
    rw [evalAll_cons]
    exact h.bind (eval x) fun _ => h.bind (evalAll xs) fun _ => h.settled (plain_ok _)

end

end Setting.Kept

/-! ## Depth, calls and errors -/

/-- A part leaves the depth as it is and only adds calls. -/
def Frames (m : Eval α) : Prop :=
  ∀ s : Evaluator, (m s).2.depth = s.depth ∧ s.calls <+: (m s).2.calls

theorem frames_settled (r : Except EvalError α) : Frames (settled r) := fun _ =>
  ⟨rfl, List.prefix_rfl⟩

theorem Frames.bind {m : Eval α} {f : α → Eval β} (hm : Frames m) (hf : ∀ a, Frames (f a)) :
    Frames (m >>= f) := fun s => by
  obtain ⟨hd, hc⟩ := hm s
  obtain ⟨e, -, hb⟩ | ⟨a, -, hb⟩ := bind_cases m f s
  · rw [hb]
    exact ⟨hd, hc⟩
  · obtain ⟨hd', hc'⟩ := hf a (m s).2
    rw [hb]
    exact ⟨hd'.trans hd, hc.trans hc'⟩

theorem Setting.kept_frames (setting : Setting) : setting.Kept Frames where
  settled _ := frames_settled _
  bind := Frames.bind
  nested {_ m} hm s := by
    obtain hn | ⟨limit, hn⟩ := setting.nested_cases m s
    · rw [hn]
      exact ⟨rfl, (hm s.deeper).2⟩
    · rw [hn]
      exact ⟨rfl, List.prefix_rfl⟩
  invoke call s := by
    obtain ⟨r, hr, -⟩ := setting.exists_invoke call s
    rw [hr]
    exact ⟨rfl, List.prefix_append _ _⟩

/-- Without a limit, nesting is never the error. -/
theorem Setting.kept_plain (setting : Setting) (h : setting.limit = none) :
    setting.Kept fun m => ∀ s, Plain (m s).1 where
  settled hp _ := hp
  bind {_ _ m f} hm hf s := by
    obtain ⟨e, he, hb⟩ | ⟨a, -, hb⟩ := bind_cases m f s
    · rw [hb]
      exact plain_error fun limit ht => hm s limit (he.trans (congrArg _ ht))
    · rw [hb]
      exact hf a (m s).2
  nested {_ m} hm s := by
    have hs := hm { s with depth := s.depth + 1 }
    simp only [Setting.nested, h]
    exact hs
  invoke call s := by
    obtain ⟨r, hr, hp⟩ := setting.exists_invoke call s
    rw [hr]
    exact hp.plain

end StepCondition
