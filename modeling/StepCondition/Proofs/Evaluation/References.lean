import StepCondition.Proofs.Evaluation.Run
import StepCondition.Proofs.Value.Relation

/-!
# What a condition knows of its scope

A condition refers to the names of its identifiers and calls (`Expr.refs`). What
stands on the right of an access is no such name: it is looked for in the struct on
the left. Whatever else a scope binds, and however the values of these names came
about, cannot be told from an evaluation: two evaluations in step, one in each of
two settings, stay in step and have related results (`Tied`). The values may differ
from one setting to the other in their regular expressions, as long as these are
found in the same texts (`Pattern.Indistinct`). To have the same text is not enough.

* `Setting.tied_eval`: two evaluations in settings that bind the names to related values;
* `Setting.run_congr`: the same evaluation after different calls;
* `run_alike_of_refs`: an evaluation knows no more of a value than what it is alike;
* `not_run_same_of_refs`: it knows more than what the value is equal to.
-/

namespace StepCondition

open Value (Related)

variable {α β : Type}

/-! ## References -/

mutual

/-- The names of the scope that a tree refers to. -/
def Expr.refs : Expr → List String
  | .identifier name => [name]
  | .unary _ x => x.refs
  | .binary .access x _ => x.refs
  | .binary _ x y => x.refs ++ y.refs
  | .call name xs => name :: Expr.refsAll xs
  | .array xs => Expr.refsAll xs
  | .integer _ | .string _ | .boolean _ | .regexp _ => []

/-- The names of the scope that some trees refer to. -/
def Expr.refsAll : List Expr → List String
  | [] => []
  | x :: xs => x.refs ++ Expr.refsAll xs

end

theorem mem_refs_left {op : BinaryOp} {x y : Expr} {name : String} (h : name ∈ x.refs) :
    name ∈ (Expr.binary op x y).refs := by
  cases op with
  | access => exact h
  | _ => exact List.mem_append_left _ h

theorem mem_refs_right {op : BinaryOp} {x y : Expr} {name : String} (hop : op ≠ .access)
    (h : name ∈ y.refs) : name ∈ (Expr.binary op x y).refs := by
  cases op with
  | access => exact absurd rfl hop
  | _ => exact List.mem_append_right _ h

/-! ## Evaluations in step -/

/-- The same error, or related results. -/
inductive SameResult (R : α → β → Prop) : Except EvalError α → Except EvalError β → Prop where
  | ok {a : α} {b : β} (h : R a b) : SameResult R (.ok a) (.ok b)
  | error (e : EvalError) : SameResult R (.error e) (.error e)

theorem SameResult.eq {R : α → α → Prop} {r r' : Except EvalError α} (h : SameResult R r r')
    (heq : ∀ a b, R a b → a = b) : r = r' := by
  cases h with
  | ok h => rw [heq _ _ h]
  | error => rfl

/-- One function called by one name with related arguments. -/
structure Call.Rel (V : Value → Value → Prop) (c d : Call) : Prop where
  name : c.name = d.name
  function : c.function = d.function
  args : List.Forall₂ V c.args d.args

theorem Call.Rel.eq {c d : Call} (h : c.Rel (Related Eq) d) : c = d := by
  obtain ⟨name, function, args⟩ := c
  obtain ⟨rfl, rfl, hargs⟩ := h
  exact congrArg (Call.mk _ _) (eq_of_forall₂ hargs fun _ _ => Value.Related.eq)

variable {P : Pattern → Pattern → Prop} {before before' : List Call}

/-- Two evaluators at the same depth, which have made related calls since they had made
`before` and `before'`. -/
structure InStep (P : Pattern → Pattern → Prop) (before before' : List Call) (s t : Evaluator) :
    Prop where
  depth : s.depth = t.depth
  calls : ∃ new new', s.calls = before ++ new ∧ t.calls = before' ++ new' ∧
    List.Forall₂ (Call.Rel (Related P)) new new'

theorem inStep_self {s t : Evaluator} (h : s.depth = t.depth) : InStep P s.calls t.calls s t :=
  ⟨h, [], [], (List.append_nil _).symm, (List.append_nil _).symm, .nil⟩

/-- From evaluators in step, two parts have related results and stay in step. -/
def Tied (P : Pattern → Pattern → Prop) (before before' : List Call) (R : α → β → Prop)
    (m : Eval α) (m' : Eval β) : Prop :=
  ∀ s t, InStep P before before' s t →
    SameResult R (m s).1 (m' t).1 ∧ InStep P before before' (m s).2 (m' t).2

theorem tied_settled {R : α → β → Prop} {r : Except EvalError α} {r' : Except EvalError β}
    (h : SameResult R r r') : Tied P before before' R (settled r) (settled r') :=
  fun _ _ hs => ⟨h, hs⟩

theorem Tied.bind {α' β' : Type} {R : α → β → Prop} {S : α' → β' → Prop} {m : Eval α}
    {m' : Eval β} {f : α → Eval α'} {f' : β → Eval β'} (hm : Tied P before before' R m m')
    (hf : ∀ a b, R a b → Tied P before before' S (f a) (f' b)) :
    Tied P before before' S (m >>= f) (m' >>= f') := by
  intro s t h
  obtain ⟨hr, hs⟩ := hm s t h
  rcases hm : m s with ⟨r, after⟩
  rcases hm' : m' t with ⟨r', after'⟩
  rw [hm, hm'] at hr hs
  cases hr with
  | ok ha =>
    rw [bind_apply_ok hm, bind_apply_ok hm']
    exact hf _ _ ha _ _ hs
  | error e =>
    rw [bind_apply_error hm, bind_apply_error hm']
    exact ⟨.error e, hs⟩

/-- A relation of regular expressions that no match sees through. -/
structure Pattern.Indistinct (P : Pattern → Pattern → Prop) : Prop where
  self (p : Pattern) : P p p
  alike {p q : Pattern} : P p q → p.Alike q

theorem Pattern.indistinct_eq : Indistinct Eq where
  self _ := rfl
  alike h := h ▸ ⟨rfl, fun _ => rfl⟩

theorem Pattern.indistinct_alike : Indistinct Alike where
  self _ := ⟨rfl, fun _ => rfl⟩
  alike h := h

/-- Two settings with one limit, whose hosts give related answers after related calls
since `before` and `before'`. -/
structure Setting.Alike (P : Pattern → Pattern → Prop) (before before' : List Call)
    (a b : Setting) : Prop where
  limit : a.limit = b.limit
  host (f : Function) {new new' : List Call} {args args' : List Value} :
    List.Forall₂ (Call.Rel (Related P)) new new' → List.Forall₂ (Related P) args args' →
      Related P (a.host (before ++ new) f args) (b.host (before' ++ new') f args')

namespace Setting

variable {a b : Setting}

theorem Alike.nested {R : α → β → Prop} (h : Alike P before before' a b) {m : Eval α} {m' : Eval β}
    (hm : Tied P before before' R m m') : Tied P before before' R (a.nested m) (b.nested m') := by
  intro s t hs
  by_cases ha : a.Admits s
  · have hb : b.Admits t := fun limit hl => hs.depth ▸ ha limit (h.limit ▸ hl)
    obtain ⟨hr, -, hc⟩ := hm s.deeper t.deeper ⟨congrArg (· + 1) hs.depth, hs.calls⟩
    rw [a.nested_apply m ha, b.nested_apply m' hb]
    exact ⟨hr, hs.depth, hc⟩
  · obtain ⟨limit, hl, hle⟩ := a.exists_limit_of_not_admits ha
    rw [a.nested_apply_limit m hl hle,
      b.nested_apply_limit m' (h.limit ▸ hl) (hs.depth ▸ hle)]
    exact ⟨.error _, hs⟩

theorem tied_raise {v w : Value} (h : v.Related P w) :
    Tied P before before' (Related P) (raise v) (raise w) := by
  have hvw := h
  cases h with
  | error message => exact tied_settled (.error _)
  | _ => exact tied_settled (.ok hvw)

theorem tied_lookup {name : String} (hn : Option.Rel (Related P) (a.scope name) (b.scope name)) :
    Tied P before before' (Related P) (a.lookup name) (b.lookup name) := by
  unfold Setting.lookup
  generalize a.scope name = x, b.scope name = y at hn
  cases hn with
  | none => exact tied_settled (.error _)
  | some h => exact tied_raise h

theorem Alike.invoke (h : Alike P before before' a b) {c d : Call}
    (hc : c.Rel (Related P) d) :
    Tied P before before' (Related P) (a.invoke c) (b.invoke d) := by
  rintro s t ⟨hd, new, new', hs, ht, hnew⟩
  have ha : a.invoke c s = raise (a.host s.calls c.function c.args) (s.record c) := rfl
  have hb : b.invoke d t = raise (b.host t.calls d.function d.args) (t.record d) := rfl
  rw [ha, hb, hs, ht, hc.function]
  refine tied_raise (h.host d.function hnew hc.args) _ _ ⟨hd, new ++ [c], new' ++ [d], ?_, ?_,
    List.rel_append hnew (.cons hc .nil)⟩
  · rw [← List.append_assoc, ← hs]
    rfl
  · rw [← List.append_assoc, ← ht]
    rfl

theorem tied_yields {x y : Bool} (h : x = y) :
    Tied P before before' (Related P) (yields x) (yields y) :=
  h ▸ tied_settled (.ok (.boolean x))

theorem tied_unary (op : UnaryOp) {v w : Value} (h : v.Related P w) :
    Tied P before before' (Related P) (op.apply v) (op.apply w) := by
  cases op with
  | not => exact tied_yields (congrArg _ h.isTruthy_eq)
  | negate =>
    cases h with
    | integer n =>
      simp only [UnaryOp.apply]
      split
      · exact tied_settled (.error _)
      · exact tied_settled (.ok (.integer _))
    | _ => exact tied_settled (.error _)

theorem tied_matchAgainst (hP : Pattern.Indistinct P) (op : BinaryOp) (text : String) {v w : Value}
    (h : v.Related P w) :
    Tied P before before' Eq (matchAgainst op text v) (matchAgainst op text w) := by
  cases h with
  | regexp h => exact tied_settled (.ok ((hP.alike h).isMatch text))
  | _ => exact tied_settled (.error _)

theorem tied_access {v w : Value} (h : v.Related P w) (tree : Expr) (right right' : Eval Value) :
    Tied P before before' (Related P) (BinaryOp.access.apply v tree right)
      (BinaryOp.access.apply w tree right') := by
  cases h with
  | @struct fields fields' hfields =>
    cases tree with
    | identifier name =>
      simp only [BinaryOp.apply]
      have hname := hfields name
      generalize fields.get? name = x, fields'.get? name = y at hname
      cases hname with
      | none => exact tied_settled (.error _)
      | some h => exact tied_raise h
    | _ => exact tied_settled (.error _)
  | _ => exact tied_settled (.error _)

/-- An access never looks right, so what is on its right need not be tied. -/
theorem tied_binary (hP : Pattern.Indistinct P) (op : BinaryOp) {v w : Value} (h : v.Related P w)
    (tree : Expr) {right right' : Eval Value}
    (hr : op ≠ .access → Tied P before before' (Related P) right right') :
    Tied P before before' (Related P) (op.apply v tree right) (op.apply w tree right') := by
  by_cases hop : op = .access
  · subst hop
    exact tied_access h tree right right'
  replace hr := hr hop
  have hequal {v w : Value} (h : v.Related P w) : v.Equal w :=
    Value.Alike.equal (h.imp fun _ _ => hP.alike)
  cases op with
  | access => exact absurd rfl hop
  | and =>
    simp only [BinaryOp.apply, h.isTruthy_eq]
    split
    · exact hr.bind fun v w h => tied_yields h.isTruthy_eq
    · exact tied_yields rfl
  | or =>
    simp only [BinaryOp.apply, h.isTruthy_eq]
    split
    · exact tied_yields rfl
    · exact hr.bind fun v w h => tied_yields h.isTruthy_eq
  | equal => exact hr.bind fun v' w' h' => tied_yields ((hequal h).same_eq_same (hequal h'))
  | notEqual =>
    refine hr.bind fun v' w' h' => tied_yields ?_
    rw [(hequal h).same_eq_same (hequal h')]
  | matching =>
    cases h with
    | string text =>
      refine hr.bind fun v w h => ?_
      exact (tied_matchAgainst hP .matching text h).bind fun _ _ => tied_yields
    | _ => exact tied_settled (.error _)
  | notMatching =>
    cases h with
    | string text =>
      refine hr.bind fun v w h => ?_
      exact (tied_matchAgainst hP .notMatching text h).bind fun _ _ h => tied_yields (congrArg _ h)
    | _ => exact tied_settled (.error _)
  | contains =>
    cases h with
    | array hitems =>
      refine hr.bind fun v w h => tied_yields ?_
      induction hitems with
      | nil => rfl
      | cons hitem _ ih =>
        rw [List.any_cons, List.any_cons, (hequal hitem).same_eq_same (hequal h), ih]
    | _ => exact tied_settled (.error _)

theorem Alike.applied (h : Alike P before before' a b) (name : String) {xs : List Expr}
    (hxs : Tied P before before' (List.Forall₂ (Related P)) (a.evalAll xs) (b.evalAll xs))
    {v w : Value} (hvw : v.Related P w) :
    Tied P before before' (Related P) (a.applied name xs v) (b.applied name xs w) := by
  cases hvw with
  | function f => exact hxs.bind fun args args' hargs => h.invoke ⟨rfl, rfl, hargs⟩
  | _ => exact tied_settled (.error _)

theorem tied_literal (hP : Pattern.Indistinct P) (h : Alike P before before' a b) {e : Expr}
    (he : e.isLiteral = true) : Tied P before before' (Related P) (a.eval e) (b.eval e) := by
  obtain ⟨r, hr, -⟩ := exists_eval_literal he
  rw [hr, hr]
  cases r with
  | ok v => exact h.nested (tied_settled (.ok (Value.related_self hP.self v)))
  | error error => exact h.nested (tied_settled (.error error))

mutual

/-- In settings that bind the names of a tree to related values, its evaluations are
tied. -/
theorem tied_eval (hP : Pattern.Indistinct P) (h : Alike P before before' a b) :
    (e : Expr) → (∀ name ∈ e.refs, Option.Rel (Related P) (a.scope name) (b.scope name)) →
      Tied P before before' (Related P) (a.eval e) (b.eval e)
  | .integer _, _ | .string _, _ | .boolean _, _ | .regexp _, _ => tied_literal hP h rfl
  | .identifier name, hn => by
    rw [eval_identifier, eval_identifier]
    exact h.nested (tied_lookup (hn name (List.mem_singleton_self name)))
  | .unary op x, hn => by
    rw [eval_unary, eval_unary]
    exact h.nested ((tied_eval hP h x hn).bind fun _ _ => tied_unary op)
  | .binary op x y, hn => by
    have hx := tied_eval hP h x fun name hx => hn name (mem_refs_left hx)
    rw [eval_binary, eval_binary]
    refine h.nested (hx.bind fun v w hvw => tied_binary hP op hvw y fun hop => ?_)
    exact tied_eval hP h y fun name hy => hn name (mem_refs_right hop hy)
  | .call name xs, hn => by
    obtain ⟨hname, hxs⟩ := List.forall_mem_cons.mp hn
    rw [eval_call, eval_call]
    exact h.nested ((tied_lookup hname).bind fun _ _ =>
      h.applied name (tied_evalAll hP h xs hxs))
  | .array xs, hn => by
    rw [eval_array, eval_array]
    exact h.nested ((tied_evalAll hP h xs hn).bind fun vs ws hvs => tied_settled (.ok (.array hvs)))

theorem tied_evalAll (hP : Pattern.Indistinct P) (h : Alike P before before' a b) :
    (es : List Expr) →
      (∀ name ∈ Expr.refsAll es, Option.Rel (Related P) (a.scope name) (b.scope name)) →
        Tied P before before' (List.Forall₂ (Related P)) (a.evalAll es) (b.evalAll es)
  | [], _ => by
    rw [evalAll_nil, evalAll_nil]
    exact tied_settled (.ok .nil)
  | x :: xs, hn => by
    obtain ⟨hx, hxs⟩ := List.forall_mem_append.mp hn
    rw [evalAll_cons, evalAll_cons]
    refine (tied_eval hP h x hx).bind fun v w hvw => ?_
    refine (tied_evalAll hP h xs hxs).bind fun vs ws hvs => ?_
    exact tied_settled (.ok (.cons hvw hvs))

end

/-! ## Runs -/

/-- Evaluations in two settings that bind the names of a tree to related values. -/
theorem run_related {e : Expr} {s t : Evaluator} (hP : Pattern.Indistinct P)
    (h : Alike P s.calls t.calls a b) (hdepth : s.depth = t.depth)
    (hscope : ∀ name ∈ e.refs, Option.Rel (Related P) (a.scope name) (b.scope name)) :
    SameResult (Related P) (a.run e s).1 (b.run e t).1 ∧
      ∃ new new', (a.run e s).2.calls = s.calls ++ new ∧ (b.run e t).2.calls = t.calls ++ new' ∧
        List.Forall₂ (Call.Rel (Related P)) new new' := by
  obtain ⟨hr, hs⟩ := tied_eval hP h e hscope s t (inStep_self hdepth)
  exact ⟨hr, hs.calls⟩

/-- After different calls, of which the host takes no notice, an evaluation has the same
result and makes the same calls. -/
theorem run_congr {setting : Setting} {s t : Evaluator} (hdepth : s.depth = t.depth)
    (hhost : ∀ new f args,
      setting.host (s.calls ++ new) f args = setting.host (t.calls ++ new) f args) (e : Expr) :
    (setting.run e s).1 = (setting.run e t).1 ∧
      ∃ new, (setting.run e s).2.calls = s.calls ++ new ∧
        (setting.run e t).2.calls = t.calls ++ new := by
  have hself : ∀ v : Value, v.Related Eq v := Value.related_self Pattern.indistinct_eq.self
  have halike : Alike Eq s.calls t.calls setting setting := by
    refine ⟨rfl, fun f new new' args args' hnew hargs => ?_⟩
    rw [eq_of_forall₂ hnew fun _ _ => Call.Rel.eq, eq_of_forall₂ hargs fun _ _ => Value.Related.eq,
      hhost]
    exact hself _
  obtain ⟨hr, new, new', hs, ht, hnew⟩ := run_related (e := e) Pattern.indistinct_eq halike hdepth
    fun name _ => Bindings.rel_self fun v _ => hself v
  exact ⟨hr.eq fun _ _ => Value.Related.eq, new, hs,
    eq_of_forall₂ hnew (fun _ _ => Call.Rel.eq) ▸ ht⟩

end Setting

/-! ## Values that are alike -/

/-- Two hosts give related answers to a function with related arguments, whatever was
called before. -/
def Host.Rel (R : Value → Value → Prop) (a b : Host) : Prop :=
  ∀ calls calls' f args args', List.Forall₂ R args args' →
    R (a calls f args) (b calls' f args')

/-- An evaluation knows no more of its scope than the names of its tree, and no more of a
value than what it is alike: in two scopes that bind these names to alike values, with
hosts that give alike answers, it has the same error or alike values, and makes the same
calls. -/
theorem run_alike_of_refs {a b : Setting} {e : Expr} {s t : Evaluator}
    (hlimit : a.limit = b.limit) (hdepth : s.depth = t.depth)
    (hscope : ∀ name ∈ e.refs, Option.Rel Value.Alike (a.scope name) (b.scope name))
    (hhost : Host.Rel Value.Alike a.host b.host) :
    SameResult Value.Alike (a.run e s).1 (b.run e t).1 ∧
      ∃ new new', (a.run e s).2.calls = s.calls ++ new ∧ (b.run e t).2.calls = t.calls ++ new' ∧
        List.Forall₂ (Call.Rel Value.Alike) new new' :=
  Setting.run_related Pattern.indistinct_alike ⟨hlimit, fun f _ _ _ _ _ => hhost _ _ f _ _⟩ hdepth
    hscope

/-- `f(x.p, 'A' =~ r)` in two scopes of which only one binds `p`, with the struct of `x` made
in another order, and with a regular expression that ignores the case of ASCII. -/
theorem run_alike_of_refs_access :
    let e := Expr.call "f" [.binary .access (.identifier "x") (.identifier "p"),
      .binary .matching (.string "A") (.identifier "r")]
    let f := Value.function ⟨"f", ""⟩
    let r := Value.regexp ⟨"a", .step (.caselessAscii (.single 'a'))⟩
    let x := Value.struct (.ofList [("p", .integer 1), ("q", .null)])
    let x' := Value.struct (.ofList [("q", .null), ("p", .integer 1)])
    let host : Host := fun _ _ args => .array args
    let a : Setting :=
      { scope := Struct.scope (.ofList [("f", f), ("p", .boolean true), ("r", r), ("x", x)]), host }
    let b : Setting := { scope := Struct.scope (.ofList [("x", x'), ("r", r), ("f", f)]), host }
    e.refs = ["f", "x", "r"] ∧ SameResult Value.Alike (a.run e {}).1 (b.run e {}).1 ∧
      ∃ new new', (a.run e {}).2.calls = [] ++ new ∧ (b.run e {}).2.calls = [] ++ new' ∧
        List.Forall₂ (Call.Rel Value.Alike) new new' := by
  intro e f r x x' host a b
  have hplain {v : Value} (hv : v.patterns.isEmpty = true) :
      ∀ p ∈ v.patterns, Pattern.compile p.source = .ok p := by
    rw [List.isEmpty_iff.mp hv]
    exact List.forall_mem_nil _
  have hx : x.Alike x' := Value.alike_of_same (by decide +kernel) (hplain (by decide +kernel))
    (hplain (by decide +kernel))
  have hr : r.Alike r := .regexp (Pattern.indistinct_alike.self _)
  have hscope : ∀ name ∈ e.refs, Option.Rel Value.Alike (a.scope name) (b.scope name) := by
    change ∀ name ∈ ["f", "x", "r"], Option.Rel Value.Alike (a.scope name) (b.scope name)
    simpa [a, b, Struct.scope, Bindings.ofList, Bindings.merge] using
      And.intro (.function _ : f.Alike f) ⟨hx, hr⟩
  have hhost : Host.Rel Value.Alike a.host b.host := fun _ _ _ _ _ => .array
  exact ⟨rfl, run_alike_of_refs rfl rfl hscope hhost⟩

/-- To be equal is not enough: a regular expression made to ignore the case of ASCII has the
text of one that does not, and is found in more texts. -/
theorem not_run_same_of_refs :
    let Same : Value → Value → Prop := fun v w => v.same w = true
    let e := Expr.binary .matching (.string "A") (.identifier "r")
    let p : Pattern := ⟨"a", .step (.single 'a')⟩
    let q : Pattern := ⟨"a", .step (.caselessAscii (.single 'a'))⟩
    let a : Setting := { scope := Struct.scope (.ofList [("r", .regexp p)]) }
    let b : Setting := { scope := Struct.scope (.ofList [("r", .regexp q)]) }
    Pattern.compile "a" = .ok p ∧
      Pattern.build { caseless := true, unicode := false } "a" = .ok q ∧
      (∀ name ∈ e.refs, Option.Rel Same (a.scope name) (b.scope name)) ∧
      Host.Rel Same a.host b.host ∧
      (a.run e {}).1 = .ok (.boolean false) ∧ (b.run e {}).1 = .ok (.boolean true) ∧
      ¬ SameResult Same (a.run e {}).1 (b.run e {}).1 := by
  intro Same e p q a b
  have hp : p.isMatch "A" = false := by decide +kernel
  have hq : q.isMatch "A" = true := by decide +kernel
  have ha : (a.run e {}).1 = .ok (.boolean (p.isMatch "A")) := rfl
  have hb : (b.run e {}).1 = .ok (.boolean (q.isMatch "A")) := rfl
  rw [hp] at ha
  rw [hq] at hb
  refine ⟨rfl, rfl, ?_, fun _ _ _ _ _ _ => rfl, ha, hb, ?_⟩
  · rintro name h
    obtain rfl := List.mem_singleton.mp h
    exact .some rfl
  · rw [ha, hb]
    rintro ⟨⟨⟩⟩

end StepCondition
