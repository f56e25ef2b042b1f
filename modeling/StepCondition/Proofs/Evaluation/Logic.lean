import StepCondition.Proofs.Evaluation.Limit

/-!
# Laws of logic

The operators `&&`, `||` and `!` obey the laws of logic with all that comes of an
evaluation: its result, whether a value or an error, and its calls. Some laws put every
operand at the depth that it had, so they hold at every depth, up to the limit and past
it (`Setting.eval_not_junction`). Others move an operand up or down. These hold without
a limit (`Unlimited`), where a part does the same at every depth, and so they hold
wherever the limit does not show.

* `Setting.eval_eq_free`: without a limit, going one level deeper makes no difference;
* `logical_laws`: the laws, each with its proviso.
-/

namespace StepCondition

variable {α β : Type}

/-! ## Values and operators -/

theorem settled_bind (a : α) (f : α → Eval β) : settled (.ok a) >>= f = f a := rfl

@[simp] theorem isTruthy_boolean (b : Bool) : (Value.boolean b).isTruthy = b := by
  cases b <;> rfl

/-- The truth of what a part yields. -/
def truth (m : Eval Value) : Eval Value := m >>= fun v => settled (.ok (.boolean v.isTruthy))

/-- The operator that looks right if the value on its left counts as `b`. -/
def junction : Bool → BinaryOp
  | true => .and
  | false => .or

/-- Both operators yield a truth value, whatever they are applied to. -/
theorem apply_junction (b : Bool) (v : Value) (tree : Expr) (right : Eval Value) :
    (junction b).apply v tree right =
      if v.isTruthy = b then truth right else settled (.ok (.boolean !b)) := by
  cases b with
  | true => rfl
  | false =>
    rw [junction, BinaryOp.apply]
    cases v.isTruthy <;> rfl

theorem apply_not (v : Value) :
    UnaryOp.not.apply v = settled (.ok (.boolean !v.isTruthy)) := rfl

theorem truth_bind (m : Eval Value) (f : Value → Eval β) :
    truth m >>= f = m >>= fun v => f (.boolean v.isTruthy) := bind_assoc ..

theorem not_not (m : Eval Value) : m >>= UnaryOp.not.apply >>= UnaryOp.not.apply = truth m := by
  rw [bind_assoc, truth]
  refine bind_congr fun v => ?_
  rw [apply_not, settled_bind, apply_not, isTruthy_boolean, Bool.not_not]

/-- Both operators have a truth value for their result. -/
theorem truth_junction (b : Bool) (v : Value) (tree : Expr) (right : Eval Value) :
    truth ((junction b).apply v tree right) = (junction b).apply v tree right := by
  rw [apply_junction]
  split
  · rw [truth, truth_bind, truth]
    simp only [isTruthy_boolean]
  · rw [truth, settled_bind, isTruthy_boolean]

namespace Setting

variable (setting : Setting)

/-! ## The same operands at the same depths -/

/-- What follows a part one level deeper may take place there as well, if its result is
settled or it goes one level deeper itself. -/
theorem nested_bind {m : Eval α} (hm : Frames m) {f g : α → Eval β}
    (h : ∀ a, (∃ r, f a = settled r ∧ g a = settled r) ∨ f a = setting.nested (g a)) :
    setting.nested m >>= f = setting.nested (m >>= g) := by
  funext s
  by_cases ha : setting.Admits s
  · have hd : (m s.deeper).2.depth = s.depth + 1 := (hm s.deeper).1
    have hn := setting.nested_apply m ha
    rw [setting.nested_apply (m >>= g) ha]
    rcases hr : m s.deeper with ⟨error | a, after⟩
    · rw [hr] at hn
      rw [bind_apply_error hn, bind_apply_error hr]
    · rw [hr] at hn hd
      rw [bind_apply_ok hn, bind_apply_ok hr]
      obtain ⟨r, hf, hg⟩ | hf := h a
      · rw [hf, hg]
        rfl
      · -- The depth is the same again, so the limit permits this level too.
        have hs : Evaluator.deeper { after with depth := s.depth } = after := by
          rw [Evaluator.deeper, ← hd]
        rw [hf, setting.nested_apply (s := { after with depth := s.depth }) (g a) ha, hs]
  · obtain ⟨limit, hl, hle⟩ := setting.exists_limit_of_not_admits ha
    rw [bind_apply_error (setting.nested_apply_limit m hl hle),
      setting.nested_apply_limit (m >>= g) hl hle]

theorem truth_nested {m : Eval Value} (hm : Frames m) :
    truth (setting.nested m) = setting.nested (truth m) :=
  setting.nested_bind hm fun _ => .inl ⟨_, rfl, rfl⟩

/-- An operator may look right one level deeper, if all of it takes place there. -/
theorem apply_junction_nested (b : Bool) (v : Value) (tree : Expr) {m : Eval Value}
    (hm : Frames m) :
    (∃ r, (junction b).apply v tree (setting.nested m) = settled r ∧
      (junction b).apply v tree m = settled r) ∨
        (junction b).apply v tree (setting.nested m) =
          setting.nested ((junction b).apply v tree m) := by
  rw [apply_junction, apply_junction]
  split
  · exact .inr (setting.truth_nested hm)
  · exact .inl ⟨_, rfl, rfl⟩

/-- The negation of a junction is the other junction of the negations. -/
theorem eval_not_junction (b : Bool) (x y : Expr) :
    setting.eval (.unary .not (.binary (junction b) x y)) =
      setting.eval (.binary (junction !b) (.unary .not x) (.unary .not y)) := by
  have hx : Frames (setting.eval x) := setting.kept_frames.eval x
  have hy : Frames (setting.eval y) := setting.kept_frames.eval y
  have hl : setting.eval (.unary .not (.binary (junction b) x y)) =
      setting.nested (setting.nested
        ((setting.eval x >>= fun v => (junction b).apply v y (setting.eval y)) >>=
          UnaryOp.not.apply)) := by
    rw [eval_unary, eval_binary]
    have hxy := hx.bind fun v => setting.kept_frames.binary (junction b) v y hy
    exact congrArg _ (setting.nested_bind hxy fun v => .inl ⟨_, rfl, rfl⟩)
  have hr : setting.eval (.binary (junction !b) (.unary .not x) (.unary .not y)) =
      setting.nested (setting.nested
        ((setting.eval x >>= UnaryOp.not.apply) >>= fun v =>
          (junction !b).apply v (.unary .not y) (setting.eval y >>= UnaryOp.not.apply))) := by
    rw [eval_binary, eval_unary, eval_unary]
    have hnot := hx.bind fun v => setting.kept_frames.unary .not v
    exact congrArg _ (setting.nested_bind hnot fun v => setting.apply_junction_nested _ v _
      (hy.bind fun w => setting.kept_frames.unary .not w))
  rw [hl, hr, bind_assoc, bind_assoc]
  refine congrArg _ (congrArg _ (bind_congr fun v => ?_))
  rw [apply_not, settled_bind, apply_junction, apply_junction, isTruthy_boolean]
  by_cases h : v.isTruthy = b
  · rw [if_pos h, if_pos (congrArg _ h), truth_bind, truth, bind_assoc]
    refine bind_congr fun w => ?_
    rw [apply_not, apply_not, settled_bind, isTruthy_boolean, isTruthy_boolean]
  · rw [if_neg h, if_neg fun hn => h (Bool.not_inj hn), settled_bind, apply_not, isTruthy_boolean]

/-! ## Without a limit -/

/-- A part does the same at every depth. -/
def AtAnyDepth (m : Eval α) : Prop :=
  ∀ (s : Evaluator) (depth : Nat),
    m { s with depth } = ((m s).1, { (m s).2 with depth })

/-- Without a limit, it makes no difference to go one level deeper. -/
theorem nested_eq_self (h : setting.limit = none) {m : Eval α} (hm : AtAnyDepth m) :
    setting.nested m = m := by
  funext s
  have ha : setting.Admits s := by
    intro limit hl
    rw [h] at hl
    cases hl
  have hd : m s.deeper = ((m s).1, { (m s).2 with depth := s.depth + 1 }) := hm s (s.depth + 1)
  rw [setting.nested_apply m ha, hd]
  exact (hm s s.depth).symm

theorem kept_atAnyDepth (h : setting.limit = none) : setting.Kept AtAnyDepth where
  settled _ _ _ := rfl
  bind {_ _ m f} hm hf s depth := by
    have hd := hm s depth
    rcases hr : m s with ⟨error | a, after⟩
    · rw [hr] at hd
      rw [bind_apply_error hd, bind_apply_error hr]
    · rw [hr] at hd
      rw [bind_apply_ok hd, bind_apply_ok hr]
      exact hf a after depth
  nested hm := by
    rw [setting.nested_eq_self h hm]
    exact hm
  invoke call s depth := by
    obtain ⟨r, hr, -⟩ := exists_raise (setting.host s.calls call.function call.args)
    have hi : setting.invoke call s = (r, s.record call) := congrFun hr (s.record call)
    rw [hi]
    exact congrFun hr (Evaluator.record { s with depth } call)

section Unlimited

variable {setting : Setting} (h : setting.limit = none)

include h

theorem free_unary (op : UnaryOp) (x : Expr) :
    setting.eval (.unary op x) = setting.eval x >>= op.apply := by
  have hk := setting.kept_atAnyDepth h
  rw [eval_unary, setting.nested_eq_self h (hk.bind (hk.eval x) (hk.unary op))]

theorem free_binary (op : BinaryOp) (x y : Expr) :
    setting.eval (.binary op x y) =
      setting.eval x >>= fun v => op.apply v y (setting.eval y) := by
  have hk := setting.kept_atAnyDepth h
  rw [eval_binary, setting.nested_eq_self h
    (hk.bind (hk.eval x) fun v => hk.binary op v y (hk.eval y))]

/-- Junctions may be put together in any order. -/
theorem free_junction_assoc (b : Bool) (x y z : Expr) :
    setting.eval (.binary (junction b) (.binary (junction b) x y) z) =
      setting.eval (.binary (junction b) x (.binary (junction b) y z)) := by
  rw [free_binary h, free_binary h, free_binary h, free_binary h, bind_assoc]
  refine bind_congr fun v => ?_
  rw [apply_junction, apply_junction]
  by_cases hv : v.isTruthy = b
  · rw [if_pos hv, if_pos hv, truth_bind, truth, bind_assoc]
    refine bind_congr fun w => ?_
    rw [apply_junction, isTruthy_boolean, ← apply_junction]
    exact (truth_junction b w z (setting.eval z)).symm
  · rw [if_neg hv, if_neg hv, settled_bind, apply_junction, isTruthy_boolean, if_neg (by simp)]

/-- Two values differ exactly if they are not equal. -/
theorem free_notEqual (x y : Expr) :
    setting.eval (.binary .notEqual x y) = setting.eval (.unary .not (.binary .equal x y)) := by
  rw [free_unary h, free_binary h, free_binary h, bind_assoc]
  refine bind_congr fun v => ?_
  change (setting.eval y >>= fun w => settled (.ok (.boolean (!v.same w)))) =
    (setting.eval y >>= fun w => settled (.ok (.boolean (v.same w)))) >>= UnaryOp.not.apply
  rw [bind_assoc]
  refine bind_congr fun w => ?_
  rw [settled_bind, apply_not, isTruthy_boolean]

/-- Two negations leave a junction as it is. -/
theorem free_not_not_junction (b : Bool) (x y : Expr) :
    setting.eval (.binary (junction b) x y) =
      setting.eval (.unary .not (.unary .not (.binary (junction b) x y))) := by
  rw [free_unary h, free_unary h, not_not, free_binary h, truth, bind_assoc]
  exact bind_congr fun v => (truth_junction b v y (setting.eval y)).symm

end Unlimited

/-! ## Where the limit does not show -/

/-- What has not run into the limit is what comes of it without one. -/
theorem run_eq_free {e : Expr} {s : Evaluator} (h : Plain (setting.run e s).1) :
    setting.run e s = (setting.withLimit none).run e s := by
  cases hl : setting.limit with
  | none => rw [show setting.withLimit none = setting by rw [withLimit, ← hl]]
  | some limit =>
    by_cases hs : s.depth ≤ limit
    · have ha := setting.run_agrees e hs
      rw [show setting.withLimit (some limit) = setting by rw [withLimit, ← hl]] at ha
      exact ha.same ((ha.plain_iff (setting.run_plain e s)).mp h)
    · have he := setting.eval_apply_limit hl (Nat.le_of_not_le hs) e
      exact absurd (congrArg Prod.fst he) (h limit)

/-- Two trees have the same evaluation, unless the limit is the error of one of them. -/
def SameWithin (s : Evaluator) (e e' : Expr) : Prop :=
  Plain (setting.run e s).1 → Plain (setting.run e' s).1 → setting.run e s = setting.run e' s

theorem sameWithin_of_free {e e' : Expr} (s : Evaluator)
    (h : (setting.withLimit none).eval e = (setting.withLimit none).eval e') :
    setting.SameWithin s e e' := by
  intro hp hp'
  rw [setting.run_eq_free hp, setting.run_eq_free hp']
  exact congrFun h s

end Setting

namespace Expr

/-- The negation of a condition. -/
protected abbrev not (x : Expr) : Expr := .unary .not x

/-- Both of two conditions. -/
protected abbrev and (x y : Expr) : Expr := .binary .and x y

/-- One of two conditions, or both. -/
protected abbrev or (x y : Expr) : Expr := .binary .or x y

end Expr

/-- From every state of an evaluator and with every host: negating both sides turns a
conjunction into the negation of a disjunction and the other way round, whatever comes
of it, the error for nesting included. Where that error does not come of either side,
conjunctions and disjunctions may be put together in any order, two values differ
exactly if they are not equal, and two negations leave a conjunction as it is. The
same stands for the same result, whether a value or an error, and the same calls. -/
theorem logical_laws (setting : Setting) (a b c : Expr) (s : Evaluator) :
    setting.run (a.and b).not s = setting.run (a.not.or b.not) s ∧
    setting.run (a.or b).not s = setting.run (a.not.and b.not) s ∧
    setting.SameWithin s ((a.and b).and c) (a.and (b.and c)) ∧
    setting.SameWithin s ((a.or b).or c) (a.or (b.or c)) ∧
    setting.SameWithin s (.binary .notEqual a b) (Expr.not (.binary .equal a b)) ∧
    setting.SameWithin s (a.and b) (a.and b).not.not := by
  have free : (setting.withLimit none).limit = none := rfl
  refine ⟨congrFun (setting.eval_not_junction true a b) s,
    congrFun (setting.eval_not_junction false a b) s, ?_, ?_, ?_, ?_⟩
  · exact setting.sameWithin_of_free s (Setting.free_junction_assoc free true a b c)
  · exact setting.sameWithin_of_free s (Setting.free_junction_assoc free false a b c)
  · exact setting.sameWithin_of_free s (Setting.free_notEqual free a b)
  · exact setting.sameWithin_of_free s (Setting.free_not_not_junction free true a b)

/-- Laws near the limit, for a host that answers its first call with a value that counts
as true and every later one with a value that does not. -/
theorem logical_laws_calls :
    let host : Host := fun before _ _ => if before.isEmpty then .integer 0 else .null
    let scope : Scope := Struct.scope (.ofList [("f", .function ⟨"f", ""⟩)])
    let setting : Setting := { scope, host }
    let s : Evaluator := { depth := 507 }
    let a := Expr.call "f" [.integer 1]
    let b := Expr.string ""
    let c := Expr.call "f" [.integer 2]
    (setting.run (a.and (b.and c)) s).1 = .ok (.boolean false) ∧
      setting.run ((a.and b).and c) s = setting.run (a.and (b.and c)) s ∧
      setting.run ((a.or b).or c) s = setting.run (a.or (b.or c)) s ∧
      setting.run (.binary .notEqual a b) s = setting.run (Expr.not (.binary .equal a b)) s ∧
      setting.run (a.and b) s = setting.run (a.and b).not.not s := by
  intro host scope setting s a b c
  have plain {e : Expr} (v : Value) (h : (setting.run e s).1 = .ok v) : Plain (setting.run e s).1 :=
    h ▸ plain_ok v
  obtain ⟨-, -, hand, hor, hequal, hnot⟩ := logical_laws setting a b c s
  refine ⟨by rfl, hand (plain _ (by rfl)) (plain _ (by rfl)),
    hor (plain _ (by rfl)) (plain _ (by rfl)), hequal (plain _ (by rfl)) (plain _ (by rfl)),
    hnot (plain _ (by rfl)) (plain _ (by rfl))⟩

/-- Where only one side shows the limit, the two differ. -/
example :
    let setting : Setting := { scope := fun _ => none }
    let e := (Expr.boolean true).and (.boolean true)
    (setting.run e { depth := 510 }).1 = .ok (.boolean true) ∧
      (setting.run e.not.not { depth := 510 }).1 = .error (.tooDeep 512) :=
  ⟨rfl, rfl⟩

end StepCondition
