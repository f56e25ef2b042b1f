import StepCondition.Proofs.Evaluation.Run
import StepCondition.Proofs.Expr.Places

/-!
# The calls of an evaluation

Every call that an evaluation makes is made for a call of the tree
(`Setting.Invoked`). A part of an evaluation goes through some places of the tree in
order, perhaps leaving some out (`Setting.Makes`). What is left out is the right side
of `&&` and `||`, or what comes after an error: any other operator that has a value from
its left side alone is an access, and there is no call in the name on its right.

* `Setting.invokes_eval`: every evaluation goes through the calls of its tree;
* `calls_in_order`: no call of a tree is made twice or out of order, and all of them
  are made if nothing is optional.
-/

namespace StepCondition

variable {α β : Type}

/-- No right side in a tree is optional. -/
def Expr.Eager (e : Expr) : Prop :=
  ∀ p op x y, e.at? p = some (.binary op x y) → op ≠ .and ∧ op ≠ .or

theorem Expr.Eager.child {e x : Expr} {i : Nat} (he : e.Eager) (h : e.children[i]? = some x) :
    x.Eager := fun p op y z hp => he (i :: p) op y z (by rw [at?_cons h, hp])

theorem Expr.Eager.op_ne {op : BinaryOp} {x y : Expr} (he : (binary op x y).Eager) :
    op ≠ .and ∧ op ≠ .or := he [] op x y rfl

/-- An operator that is not optional on its right has a value from the left side alone
only if it is an access. -/
theorem BinaryOp.exists_identifier {op : BinaryOp} {v w : Value} {tree : Expr}
    {right : Eval Value} {s : Evaluator} (hop : op ≠ .and ∧ op ≠ .or)
    (hl : op.looksRight v = false) (h : (op.apply v tree right s).1 = .ok w) :
    ∃ name, tree = .identifier name := by
  cases op with
  | and => exact absurd rfl hop.1
  | or => exact absurd rfl hop.2
  | equal | notEqual => cases hl
  | matching | notMatching =>
    cases v with
    | string text => cases hl
    | _ => cases h
  | contains =>
    cases v with
    | array items => cases hl
    | _ => cases h
  | access =>
    cases v with
    | struct fields =>
      cases tree with
      | identifier name => exact ⟨name, rfl⟩
      | _ => cases h
    | _ => cases h

theorem eq_of_raise {v w : Value} {s : Evaluator} (h : (raise v s).1 = .ok w) : v = w := by
  cases v with
  | error message => cases h
  | _ =>
    cases h
    rfl

/-- A call made for a part of a tree. -/
structure Invocation where
  place : Place
  call : Call

namespace Setting

variable (setting : Setting)

theorem scope_of_lookup {name : String} {v : Value} {s : Evaluator}
    (h : (setting.lookup name s).1 = .ok v) : setting.scope name = some v := by
  unfold lookup at h
  cases hs : setting.scope name with
  | none =>
    rw [hs] at h
    cases h
  | some w =>
    rw [hs] at h
    rw [eq_of_raise h]

/-- There is a call at the place, and it is the one that was made: by its name, of the
function that the name is bound to, with values of its arguments. -/
def Invoked (e : Expr) (i : Invocation) : Prop :=
  ∃ xs s, e.at? i.place = some (.call i.call.name xs) ∧
    setting.scope i.call.name = some (.function i.call.function) ∧
    (setting.evalAll xs s).1 = .ok i.call.args

/-- What is made in a run that starts with some calls and is to go through places of a
tree. -/
structure Makes (e : Expr) (places : List Place) (before : List Call) (made : List Invocation)
    (result : Except EvalError α × Evaluator) : Prop where
  calls : result.2.calls = before ++ made.map (·.call)
  sublist : (made.map (·.place)).Sublist places
  invoked : ∀ i ∈ made, setting.Invoked e i
  whole : e.Eager → ∀ a, result.1 = .ok a → made.map (·.place) = places

/-- A part goes through places of a tree, whatever it starts from. -/
def Invokes (e : Expr) (places : List Place) (m : Eval α) : Prop :=
  ∀ s : Evaluator, ∃ made, setting.Makes e places s.calls made (m s)

variable {setting} {e : Expr} {places places' : List Place}

/-- What has its result without a run leaves all its places out. -/
theorem invokes_settled {r : Except EvalError α} (h : e.Eager → ∀ a, r = .ok a → places = []) :
    setting.Invokes e places (settled r) := fun _ =>
  ⟨[], (List.append_nil _).symm, List.nil_sublist places,
    fun _ hi => absurd hi List.not_mem_nil, fun he a ha => (h he a ha).symm⟩

theorem Invokes.bind {m : Eval α} {f : α → Eval β} (hm : setting.Invokes e places m)
    (hf : ∀ s a, (m s).1 = .ok a → setting.Invokes e places' (f a)) :
    setting.Invokes e (places ++ places') (m >>= f) := by
  intro s
  obtain ⟨made, h⟩ := hm s
  obtain ⟨error, -, hr⟩ | ⟨a, ha, hr⟩ := bind_cases m f s
  · -- The places of the second part are left out, which is no matter after an error.
    rw [hr]
    exact ⟨made, h.calls, h.sublist.trans (List.sublist_append_left places places'), h.invoked,
      fun _ _ hb => nomatch hb⟩
  · obtain ⟨made', h'⟩ := hf s a ha (m s).2
    rw [hr]
    refine ⟨made ++ made', ?calls, ?sublist, ?invoked, ?whole⟩
    case calls => rw [h'.calls, h.calls, List.map_append, List.append_assoc]
    case sublist =>
      rw [List.map_append]
      exact h.sublist.append h'.sublist
    case invoked => exact fun i hi => (List.mem_append.mp hi).elim (h.invoked i) (h'.invoked i)
    case whole =>
      intro he b hb
      rw [List.map_append, h.whole he a ha, h'.whole he b hb]

theorem Invokes.nested {m : Eval α} (hm : setting.Invokes e places m) :
    setting.Invokes e places (setting.nested m) := by
  intro s
  obtain hn | ⟨limit, hn⟩ := setting.nested_cases m s
  · obtain ⟨made, h⟩ := hm s.deeper
    rw [hn]
    exact ⟨made, h.calls, h.sublist, h.invoked, h.whole⟩
  · rw [hn]
    exact invokes_settled (r := .error (.tooDeep limit)) (fun _ _ => nofun) s

/-- What goes through places of a child goes through places of the tree. -/
theorem Invokes.under {x : Expr} {i : Nat} {m : Eval α} (h : e.children[i]? = some x)
    (hm : setting.Invokes x places m) : setting.Invokes e (places.map (i :: ·)) m := by
  intro s
  obtain ⟨made, hcalls, hsub, hinv, hwhole⟩ := hm s
  have hplaces : (made.map fun v => (⟨i :: v.place, v.call⟩ : Invocation)).map (·.place) =
      (made.map (·.place)).map (i :: ·) := by
    rw [List.map_map, List.map_map]
    rfl
  refine ⟨made.map fun v => ⟨i :: v.place, v.call⟩, ?calls, ?sublist, ?invoked, ?whole⟩
  case calls =>
    rw [hcalls, List.map_map]
    rfl
  case sublist =>
    rw [hplaces]
    exact hsub.map _
  case invoked =>
    intro w hw
    obtain ⟨v, hv, rfl⟩ := List.mem_map.mp hw
    obtain ⟨xs, t, hat, hrest⟩ := hinv v hv
    exact ⟨xs, t, (Expr.at?_cons h v.place).trans hat, hrest⟩
  case whole =>
    intro he a ha
    rw [hplaces, hwhole (he.child h) a ha]

theorem invokes_lookup (name : String) : setting.Invokes e [] (setting.lookup name) := by
  obtain ⟨r, hr, -⟩ := setting.exists_lookup name
  rw [hr]
  exact invokes_settled fun _ _ _ => rfl

theorem invokes_unary (op : UnaryOp) (v : Value) : setting.Invokes e [] (op.apply v) := by
  obtain ⟨r, hr, -⟩ := op.exists_apply v
  rw [hr]
  exact invokes_settled fun _ _ _ => rfl

theorem invokes_literal (he : e.isLiteral = true) : setting.Invokes e [] (setting.eval e) := by
  obtain ⟨r, hr, -⟩ := exists_eval_literal he
  rw [hr]
  exact (invokes_settled fun _ _ _ => rfl).nested

/-- A call that is made for the whole tree. -/
theorem invokes_invoke {call : Call} (h : setting.Invoked e ⟨[], call⟩) :
    setting.Invokes e [[]] (setting.invoke call) := by
  intro s
  obtain ⟨r, hr, -⟩ := setting.exists_invoke call s
  rw [hr]
  exact ⟨[⟨[], call⟩], rfl, List.Sublist.refl _, List.forall_mem_singleton.mpr h,
    fun _ _ _ => rfl⟩

theorem invokes_binary (op : BinaryOp) (v : Value) (x y : Expr) {right : Eval Value}
    (hy : setting.Invokes y y.callPlaces right) :
    setting.Invokes (.binary op x y) (y.callPlaces.map (1 :: ·)) (op.apply v y right) := by
  have hright : setting.Invokes (.binary op x y) (y.callPlaces.map (1 :: ·)) right := hy.under rfl
  obtain ⟨hl, r, ha, -⟩ | ⟨-, f, ha, -⟩ := op.apply_cases v y
  · -- The right side is left out: of a tree without `&&` and `||`, a name.
    rw [ha]
    refine invokes_settled fun he w hw => ?_
    have hok : (op.apply v y right {}).1 = .ok w := by
      rw [ha]
      exact hw
    obtain ⟨name, rfl⟩ := BinaryOp.exists_identifier he.op_ne hl hok
    rfl
  · rw [ha, ← List.append_nil (y.callPlaces.map _)]
    exact hright.bind fun _ _ _ => invokes_settled fun _ _ _ => rfl

theorem invokes_applied {name : String} {xs : List Expr} {v : Value}
    (hxs : setting.Invokes (.call name xs) (Expr.callPlacesAll 0 xs) (setting.evalAll xs))
    (hv : setting.scope name = some v) :
    setting.Invokes (.call name xs) (Expr.callPlaces (.call name xs))
      (setting.applied name xs v) := by
  rw [Expr.callPlaces]
  cases v with
  | function f => exact hxs.bind fun s args ha => invokes_invoke ⟨xs, s, rfl, hv, ha⟩
  | _ =>
    refine invokes_settled fun _ w hw => ?_
    cases hw

mutual

/-- An evaluation goes through the calls of its tree. -/
theorem invokes_eval : (e : Expr) → setting.Invokes e e.callPlaces (setting.eval e)
  | .integer _ | .string _ | .boolean _ | .regexp _ => by
    rw [Expr.callPlaces]
    exact invokes_literal rfl
  | .identifier name => by
    rw [Expr.callPlaces, eval_identifier]
    exact (invokes_lookup name).nested
  | .unary op x => by
    have hx := (invokes_eval x).under (rfl : (Expr.unary op x).children[0]? = some x)
    rw [Expr.callPlaces, eval_unary, ← List.append_nil (x.callPlaces.map _)]
    exact (hx.bind fun _ v _ => invokes_unary op v).nested
  | .binary op x y => by
    have hx := (invokes_eval x).under (rfl : (Expr.binary op x y).children[0]? = some x)
    rw [Expr.callPlaces, eval_binary]
    exact (hx.bind fun _ v _ => invokes_binary op v x y (invokes_eval y)).nested
  | .call name xs => by
    have hxs := invokes_evalAll (.call name xs) 0 xs rfl
    rw [eval_call, ← List.nil_append (Expr.callPlaces _)]
    exact ((invokes_lookup name).bind fun _ _ hv =>
      invokes_applied hxs (setting.scope_of_lookup hv)).nested
  | .array xs => by
    have hxs := invokes_evalAll (.array xs) 0 xs rfl
    rw [Expr.callPlaces, eval_array, ← List.append_nil (Expr.callPlacesAll 0 xs)]
    exact (hxs.bind fun _ _ _ => invokes_settled fun _ _ _ => rfl).nested

/-- The evaluation of the children from some index on goes through their calls. -/
theorem invokes_evalAll (e : Expr) (i : Nat) : (xs : List Expr) → e.children.drop i = xs →
    setting.Invokes e (Expr.callPlacesAll i xs) (setting.evalAll xs)
  | [], _ => by
    rw [evalAll_nil]
    exact invokes_settled fun _ _ _ => rfl
  | x :: xs, h => by
    obtain ⟨hi, hd⟩ := Expr.children_of_drop h
    rw [evalAll_cons, Expr.callPlacesAll]
    refine ((invokes_eval x).under hi).bind fun _ _ _ => ?_
    rw [← List.append_nil (Expr.callPlacesAll (i + 1) xs)]
    exact (invokes_evalAll e (i + 1) xs hd).bind fun _ _ _ => invokes_settled fun _ _ _ => rfl

end

end Setting

/-- Every call that an evaluation makes is made for a call of its tree, with values of the
arguments that stand there. The places of these calls are among the places of all calls
of the tree, in the same order, arguments before their call and left before right, and
none comes twice. None is left out if the evaluation has a value and the tree has
neither `&&` nor `||`. -/
theorem calls_in_order (setting : Setting) (e : Expr) (s : Evaluator) :
    (∀ p, p ∈ e.callPlaces ↔ ∃ name xs, e.at? p = some (.call name xs)) ∧
    (e.callPlaces.Pairwise fun p q => p.before q = true) ∧
    ∃ made : List Invocation,
      (setting.run e s).2.calls = s.calls ++ made.map (·.call) ∧
      (made.map (·.place)).Sublist e.callPlaces ∧
      (made.map (·.place)).Nodup ∧
      (∀ i ∈ made, setting.Invoked e i) ∧
      (e.Eager → ∀ v, (setting.run e s).1 = .ok v → made.map (·.place) = e.callPlaces) := by
  have he : setting.Invokes e e.callPlaces (setting.eval e) := Setting.invokes_eval e
  obtain ⟨made, h⟩ := he s
  exact ⟨fun _ => Expr.mem_callPlaces, e.pairwise_callPlaces, made, h.calls, h.sublist,
    e.nodup_callPlaces.sublist h.sublist, h.invoked, h.whole⟩

end StepCondition
