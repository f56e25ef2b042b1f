import StepCondition.Proofs.Evaluation.Trace
import StepCondition.Proofs.Expr.Grafting

/-!
# The first failure

The first part that fails decides the result, and what the evaluation does not get to
is of no matter.

* `Setting.eval_graft`: trees put where no part is started change nothing;
* `Setting.eval_graft_failing`: a tree that fails, put where a part is started, makes the
  evaluation fail;
* `first_failure_wins`: both, with what the events of an evaluation tell of it.
-/

namespace StepCondition

variable {α : Type}

/-! ## What is started -/

theorem mem_followed {v : Event} {m : Eval α} {s : Evaluator}
    {next : α → Evaluator → List Event} :
    v ∈ followed m s next ↔ ∃ a after, m s = (.ok a, after) ∧ v ∈ next a after := by
  rcases hr : m s with ⟨error | a, after⟩
  · rw [followed_error hr]
    exact iff_of_false List.not_mem_nil nofun
  · rw [followed_ok hr]
    constructor
    · exact fun hv => ⟨a, after, rfl, hv⟩
    · rintro ⟨_, _, ⟨⟩, hv⟩
      exact hv

namespace Setting

variable {setting : Setting} {s : Evaluator} {p : Place}

theorem started_mem_framed {e : Expr} {inside : Evaluator → List Event} :
    .started p ∈ setting.framed e s inside ↔
      setting.Admits s ∧ (p = [] ∨ .started p ∈ inside s.deeper) := by
  rw [framed, List.mem_append]
  split <;> simp [*]

theorem started_unary {op : UnaryOp} {x : Expr} :
    .started p ∈ setting.trace (.unary op x) s ↔ setting.Admits s ∧
      (p = [] ∨ ∃ q, p = 0 :: q ∧ .started q ∈ setting.trace x s.deeper) := by
  rw [trace, started_mem_framed, started_mem_under]

theorem started_binary {op : BinaryOp} {x y : Expr} :
    .started p ∈ setting.trace (.binary op x y) s ↔ setting.Admits s ∧
      (p = [] ∨ (∃ q, p = 0 :: q ∧ .started q ∈ setting.trace x s.deeper) ∨
        ∃ v after, setting.eval x s.deeper = (.ok v, after) ∧ op.looksRight v = true ∧
          ∃ q, p = 1 :: q ∧ .started q ∈ setting.trace y after) := by
  rw [trace, started_mem_framed, List.mem_append, started_mem_under, mem_followed]
  simp only [List.mem_ite_nil_right, started_mem_under]

theorem started_mem_calling {name : String} {xs : List Expr}
    {arguments : Evaluator → List Event} {v : Value} :
    .started p ∈ setting.calling name xs arguments v s ↔
      ∃ f, v = .function f ∧ .started p ∈ arguments s := by
  cases v with
  | function f => simp [calling, mem_followed]
  | _ => simp [calling]

theorem started_call {name : String} {xs : List Expr} :
    .started p ∈ setting.trace (.call name xs) s ↔ setting.Admits s ∧
      (p = [] ∨ ∃ f after, setting.lookup name s.deeper = (.ok (.function f), after) ∧
        .started p ∈ setting.traceAll 0 xs after) := by
  rw [trace, started_mem_framed, mem_followed]
  refine and_congr_right' (or_congr_right ?_)
  constructor
  · rintro ⟨_, after, hl, hp⟩
    obtain ⟨f, rfl, hargs⟩ := started_mem_calling.mp hp
    exact ⟨f, after, hl, hargs⟩
  · rintro ⟨f, after, hl, hp⟩
    exact ⟨_, after, hl, started_mem_calling.mpr ⟨f, rfl, hp⟩⟩

theorem started_array {xs : List Expr} :
    .started p ∈ setting.trace (.array xs) s ↔
      setting.Admits s ∧ (p = [] ∨ .started p ∈ setting.traceAll 0 xs s.deeper) := by
  rw [trace, started_mem_framed]

theorem started_cons {i : Nat} {x : Expr} {xs : List Expr} :
    .started p ∈ setting.traceAll i (x :: xs) s ↔
      (∃ q, p = i :: q ∧ .started q ∈ setting.trace x s) ∨
        ∃ v after, setting.eval x s = (.ok v, after) ∧
          .started p ∈ setting.traceAll (i + 1) xs after := by
  rw [traceAll, List.mem_append, started_mem_under, mem_followed]

theorem not_started_traceAll_nil {i : Nat} : .started p ∉ setting.traceAll i [] s := by
  rw [traceAll]
  exact List.not_mem_nil

theorem started_nil (ha : setting.Admits s) (e : Expr) : .started [] ∈ setting.trace e s := by
  cases e <;> rw [trace] <;> exact started_mem_framed.mpr ⟨ha, .inl rfl⟩

/-! ## What is not started -/

/-- Whatever the tree, the limit does not permit it. -/
theorem eval_eq_of_not_admits (ha : ¬ setting.Admits s) (e e' : Expr) :
    setting.eval e s = setting.eval e' s := by
  obtain ⟨limit, hl, hle⟩ := setting.exists_limit_of_not_admits ha
  rw [setting.eval_apply_limit hl hle, setting.eval_apply_limit hl hle]

theorem nested_congr {m m' : Eval α} (h : m s.deeper = m' s.deeper) :
    setting.nested m s = setting.nested m' s := by
  by_cases ha : setting.Admits s
  · rw [setting.nested_apply m ha, setting.nested_apply m' ha, h]
  · obtain ⟨limit, hl, hle⟩ := setting.exists_limit_of_not_admits ha
    rw [setting.nested_apply_limit m hl hle, setting.nested_apply_limit m' hl hle]

/-- A tree is replaced as a whole only if it is not started. -/
theorem eval_getD {σ : Grafts} {e e' : Expr}
    (hσ : ∀ p, .started p ∈ setting.trace e s → σ p = none)
    (h : setting.Admits s → setting.eval e' s = setting.eval e s) :
    setting.eval ((σ []).getD e') s = setting.eval e s := by
  by_cases ha : setting.Admits s
  · rw [hσ [] (started_nil ha e), Option.getD_none, h ha]
  · exact eval_eq_of_not_admits ha _ _

/-- The right side of an operator, with other trees put into it. An access has none
there. -/
theorem apply_graft {σ : Grafts} {op : BinaryOp} {v : Value} {x y : Expr}
    (hr : ∀ p, (Expr.binary op x y).RightOfAccess p → σ p = none)
    (hy : op.looksRight v = true →
      setting.eval (y.graft (σ.under 1)) s = setting.eval y s) :
    op.apply v (y.graft (σ.under 1)) (setting.eval (y.graft (σ.under 1))) s =
      op.apply v y (setting.eval y) s := by
  by_cases hop : op = .access
  · subst hop
    have hself : y.graft (σ.under 1) = y := y.graft_eq_self fun p => hr (1 :: p) (.right x y p)
    rw [hself]
  · rw [BinaryOp.apply_tree hop v _ y]
    obtain ⟨-, r, ha, -⟩ | ⟨hl, f, ha, -⟩ := op.apply_cases v y
    · rw [ha, ha]
    · rw [ha, ha]
      exact bind_apply_congr (hy hl) fun _ _ _ => rfl

mutual

/-- Trees put where no part is started change nothing. -/
theorem eval_graft {σ : Grafts} (s : Evaluator) : (e : Expr) →
    (∀ p, .started p ∈ setting.trace e s → σ p = none) →
    (∀ p, e.RightOfAccess p → σ p = none) → setting.eval (e.graft σ) s = setting.eval e s
  | .integer _, hσ, _ | .string _, hσ, _ | .boolean _, hσ, _ | .regexp _, hσ, _
  | .identifier _, hσ, _ => by
    rw [Expr.graft]
    exact eval_getD hσ fun _ => rfl
  | .unary op x, hσ, hr => by
    rw [Expr.graft]
    refine eval_getD hσ fun ha => ?_
    have hx : setting.eval (x.graft (σ.under 0)) s.deeper = setting.eval x s.deeper :=
      eval_graft s.deeper x (fun q hq => hσ _ (started_unary.mpr ⟨ha, .inr ⟨q, rfl, hq⟩⟩))
        fun q hq => hr _ (.of_child rfl hq)
    rw [eval_unary, eval_unary]
    exact nested_congr (bind_apply_congr hx fun _ _ _ => rfl)
  | .binary op x y, hσ, hr => by
    rw [Expr.graft]
    refine eval_getD hσ fun ha => ?_
    have hx : setting.eval (x.graft (σ.under 0)) s.deeper = setting.eval x s.deeper :=
      eval_graft s.deeper x
        (fun q hq => hσ _ (started_binary.mpr ⟨ha, .inr (.inl ⟨q, rfl, hq⟩)⟩))
        fun q hq => hr _ (.of_child rfl hq)
    rw [eval_binary, eval_binary]
    refine nested_congr (bind_apply_congr hx fun v t hv => apply_graft hr fun hl => ?_)
    exact eval_graft t y
      (fun q hq => hσ _ (started_binary.mpr ⟨ha, .inr (.inr ⟨v, t, hv, hl, q, rfl, hq⟩)⟩))
      fun q hq => hr _ (.of_child rfl hq)
  | .call name xs, hσ, hr => by
    rw [Expr.graft]
    refine eval_getD hσ fun ha => ?_
    rw [eval_call, eval_call]
    refine nested_congr (bind_apply_congr rfl fun v t hv => ?_)
    cases v with
    | function f =>
      have hxs := evalAll_graft t 0 xs rfl
        (fun p hp => hσ p (started_call.mpr ⟨ha, .inr ⟨f, t, hv, hp⟩⟩)) hr
      exact bind_apply_congr hxs fun _ _ _ => rfl
    | _ => rfl
  | .array xs, hσ, hr => by
    rw [Expr.graft]
    refine eval_getD hσ fun ha => ?_
    have hxs := evalAll_graft s.deeper 0 xs rfl
      (fun p hp => hσ p (started_array.mpr ⟨ha, .inr hp⟩)) hr
    rw [eval_array, eval_array]
    exact nested_congr (bind_apply_congr hxs fun _ _ _ => rfl)

theorem evalAll_graft {σ : Grafts} {e : Expr} (s : Evaluator) (i : Nat) : (xs : List Expr) →
    e.children.drop i = xs → (∀ p, .started p ∈ setting.traceAll i xs s → σ p = none) →
    (∀ p, e.RightOfAccess p → σ p = none) →
    setting.evalAll (Expr.graftAll σ i xs) s = setting.evalAll xs s
  | [], _, _, _ => by rw [Expr.graftAll]
  | x :: xs, h, hσ, hr => by
    obtain ⟨hi, hd⟩ := Expr.children_of_drop h
    have hx : setting.eval (x.graft (σ.under i)) s = setting.eval x s :=
      eval_graft s x (fun q hq => hσ _ (started_cons.mpr (.inl ⟨q, rfl, hq⟩)))
        fun q hq => hr _ (.of_child hi hq)
    rw [Expr.graftAll, evalAll_cons, evalAll_cons]
    refine bind_apply_congr hx fun v t hv => bind_apply_congr ?_ fun _ _ _ => rfl
    exact evalAll_graft t (i + 1) xs hd
      (fun p hp => hσ p (started_cons.mpr (.inr ⟨v, t, hv, hp⟩))) hr

end

/-! ## A failure where a part is started -/

/-- A tree fails with an error wherever the limit permits it. -/
def FailsWith (setting : Setting) (x : Expr) (error : EvalError) : Prop :=
  ∀ s, setting.Admits s → (setting.eval x s).1 = .error error

example {name : String} (h : setting.scope name = none) :
    setting.FailsWith (.identifier name) (.undefinedIdentifier name) := by
  intro s ha
  rw [eval_identifier, setting.nested_apply _ ha, lookup, h]
  rfl

theorem nested_fails {m : Eval α} {error : EvalError} (ha : setting.Admits s)
    (h : (m s.deeper).1 = .error error) : (setting.nested m s).1 = .error error := by
  rw [setting.nested_apply m ha]
  exact h

theorem exists_cons_of_started {i : Nat} {xs : List Expr}
    (h : .started p ∈ setting.traceAll i xs s) : ∃ j q, p = j :: q ∧ i ≤ j := by
  induction xs generalizing i s with
  | nil => exact absurd h not_started_traceAll_nil
  | cons x xs ih =>
    obtain ⟨q, rfl, -⟩ | ⟨v, t, -, h⟩ := started_cons.mp h
    · exact ⟨i, q, rfl, Nat.le_refl i⟩
    · obtain ⟨j, q, hp, hj⟩ := ih h
      exact ⟨j, q, hp, Nat.le_of_succ_le hj⟩

theorem apply_fails {op : BinaryOp} {v : Value} {tree : Expr} {right : Eval Value}
    {error : EvalError} (hl : op.looksRight v = true) (h : (right s).1 = .error error) :
    (op.apply v tree right s).1 = .error error := by
  obtain ⟨hl', -⟩ | ⟨-, f, ha, -⟩ := op.apply_cases v tree
  · rw [hl] at hl'
    cases hl'
  · rw [ha]
    exact bind_apply_fails h _

theorem eval_graft_nil_fails {x : Expr} {error : EvalError} (hx : setting.FailsWith x error)
    (ha : setting.Admits s) (e : Expr) :
    (setting.eval (e.graft (.only [] x)) s).1 = .error error := by
  rw [Expr.graft_of_some rfl]
  exact hx s ha

mutual

/-- A tree that fails, put where a part is started, makes the evaluation fail. -/
theorem eval_graft_failing {x : Expr} {error : EvalError} (hx : setting.FailsWith x error)
    (s : Evaluator) (p : Place) : (e : Expr) → .started p ∈ setting.trace e s →
    (setting.eval (e.graft (.only p x)) s).1 = .error error
  | .integer _, hp | .string _, hp | .boolean _, hp | .regexp _, hp | .identifier _, hp => by
    rw [trace] at hp
    obtain ⟨ha, rfl | h⟩ := started_mem_framed.mp hp
    · exact eval_graft_nil_fails hx ha _
    · cases h
  | .unary op y, hp => by
    obtain ⟨ha, rfl | ⟨q, rfl, hq⟩⟩ := started_unary.mp hp
    · exact eval_graft_nil_fails hx ha _
    · rw [Expr.graft, Grafts.only_cons_nil, Option.getD_none, Grafts.only_under_self, eval_unary]
      exact nested_fails ha (bind_apply_fails (eval_graft_failing hx _ q y hq) _)
  | .binary op y z, hp => by
    obtain ⟨ha, rfl | ⟨q, rfl, hq⟩ | ⟨v, t, hv, hl, q, rfl, hq⟩⟩ := started_binary.mp hp
    · exact eval_graft_nil_fails hx ha _
    · rw [Expr.graft, Grafts.only_cons_nil, Option.getD_none, Grafts.only_under_self, eval_binary]
      exact nested_fails ha (bind_apply_fails (eval_graft_failing hx _ q y hq) _)
    · have hy : y.graft ((Grafts.only (1 :: q) x).under 0) = y :=
        y.graft_eq_self fun r => Grafts.only_under_of_ne (by decide) q r x
      rw [Expr.graft, Grafts.only_cons_nil, Option.getD_none, hy, Grafts.only_under_self,
        eval_binary]
      refine nested_fails ha ?_
      rw [bind_apply_ok hv]
      exact apply_fails hl (eval_graft_failing hx t q z hq)
  | .call name xs, hp => by
    obtain ⟨ha, rfl | ⟨f, t, hv, hp⟩⟩ := started_call.mp hp
    · exact eval_graft_nil_fails hx ha _
    · obtain ⟨i, q, rfl, -⟩ := exists_cons_of_started hp
      rw [Expr.graft, Grafts.only_cons_nil, Option.getD_none, eval_call]
      refine nested_fails ha ?_
      rw [bind_apply_ok hv]
      exact bind_apply_fails (evalAll_graft_failing hx t 0 _ xs hp) _
  | .array xs, hp => by
    obtain ⟨ha, rfl | hp⟩ := started_array.mp hp
    · exact eval_graft_nil_fails hx ha _
    · obtain ⟨i, q, rfl, -⟩ := exists_cons_of_started hp
      rw [Expr.graft, Grafts.only_cons_nil, Option.getD_none, eval_array]
      exact nested_fails ha (bind_apply_fails (evalAll_graft_failing hx _ 0 _ xs hp) _)

theorem evalAll_graft_failing {x : Expr} {error : EvalError} (hx : setting.FailsWith x error)
    (s : Evaluator) (i : Nat) (p : Place) : (xs : List Expr) →
    .started p ∈ setting.traceAll i xs s →
    (setting.evalAll (Expr.graftAll (.only p x) i xs) s).1 = .error error
  | [], hp => absurd hp not_started_traceAll_nil
  | y :: ys, hp => by
    rw [Expr.graftAll, evalAll_cons]
    obtain ⟨q, rfl, hq⟩ | ⟨v, t, hv, hp⟩ := started_cons.mp hp
    · rw [Grafts.only_under_self]
      exact bind_apply_fails (eval_graft_failing hx s q y hq) _
    · obtain ⟨j, q, rfl, hj⟩ := exists_cons_of_started hp
      have hy : y.graft ((Grafts.only (j :: q) x).under i) = y :=
        y.graft_eq_self fun r => Grafts.only_under_of_ne (by omega) q r x
      rw [hy, bind_apply_ok hv]
      exact bind_apply_fails (evalAll_graft_failing hx t (i + 1) _ ys hp) _

end

end Setting

/-- The events of an evaluation say which calls are made, and which part ends where with
which result, in order. An error is the error of the first part that fails, and
afterwards only the parts around that one end, with the same error: no call is made
any more. Nothing matters of the tree but what is started: other trees may stand
everywhere else, except on the right of an access, without any change of the result, of
the calls or of anything else. What is started does matter, since a tree that fails there
makes the evaluation fail. -/
theorem first_failure_wins (setting : Setting) (e : Expr) (s : Evaluator) :
    ((setting.run e s).2.calls = s.calls ++ (setting.trace e s).filterMap Event.call? ∧
      (∀ v ∈ setting.trace e s, setting.Genuine e v) ∧
      (∀ p, .started p ∈ setting.trace e s → p ∈ endings (setting.trace e s)) ∧
      (endings (setting.trace e s)).Pairwise fun p q => Place.before p q = true) ∧
    ((∀ w, (setting.run e s).1 = .ok w → ∀ v ∈ setting.trace e s, v.failed = false) ∧
      ∀ error, (setting.run e s).1 = .error error →
        ∃ (before : List Event) (p : Place), (∀ v ∈ before, v.failed = false) ∧
          setting.trace e s = before ++ p.upward.map (.ended · (.error error))) ∧
    (∀ σ : Grafts, (∀ p, .started p ∈ setting.trace e s → σ p = none) →
      (∀ p, e.RightOfAccess p → σ p = none) → setting.run (e.graft σ) s = setting.run e s) ∧
    ∀ p x error, .started p ∈ setting.trace e s → setting.FailsWith x error →
      (setting.run (e.graft (.only p x)) s).1 = .error error := by
  have h := setting.tells_eval s e
  exact ⟨⟨h.calls, h.genuine, h.ends, setting.pairwise_trace s e⟩, ⟨h.value, h.error⟩,
    fun σ hσ hr => Setting.eval_graft s e hσ hr,
    fun p x error hp hx => Setting.eval_graft_failing hx s p e hp⟩

/-- The right side of a comparison whose left side fails may be anything. -/
theorem first_failure_wins_equal :
    let setting : Setting := { scope := fun _ => none }
    let e : Expr := .binary .equal (.identifier "x") (.call "f" [])
    (setting.run e {}).1 = .error (.undefinedIdentifier "x") ∧
      setting.run (e.graft (.only [1] (.string "s"))) {} = setting.run e {} := by
  intro setting e
  have htrace : setting.trace e {} =
      [.started [], .started [0], .ended [0] (.error (.undefinedIdentifier "x")),
        .ended [] (.error (.undefinedIdentifier "x"))] := rfl
  have h := (first_failure_wins setting e {}).2.2.1 (.only [1] (.string "s"))
  refine ⟨rfl, h (fun p hp => ?_) fun p hr => if_neg ?_⟩
  · rw [htrace] at hp
    obtain rfl | rfl : p = [] ∨ p = [0] := by simpa using hp
    · rfl
    · rfl
  · -- The only operator above the place is the comparison.
    rintro rfl
    obtain ⟨_ | ⟨i, q⟩, r, x, y, hp, hq⟩ := hr
    · simp [e, Expr.at?] at hq
    · simp at hp

end StepCondition
