import StepCondition.Proofs.Evaluation.Calls

/-!
# What happens in an evaluation

The events of an evaluation (`Setting.trace`), in order: a part is started, a call is
made, a part has ended with some result. A part that the limit does not permit ends
without having been started.

* `Setting.tells_eval`: the calls among the events are the calls that are made, every
  event is genuine, and an error is that of the first part that ends with one, after
  which only the parts around it end;
* `Setting.pairwise_trace`: parts end in order, children before what they are in and
  left before right.
-/

namespace StepCondition

variable {α β : Type}

/-- A place and the places of what is around it, up to the whole tree. -/
def Place.upward : Place → List Place
  | [] => [[]]
  | i :: p => (upward p).map (i :: ·) ++ [[]]

example : Place.upward [1, 0, 2] = [[1, 0, 2], [1, 0], [1], []] := by decide

/-! ## Events -/

/-- Something that happens in an evaluation, and at which place. -/
inductive Event where
  | started (place : Place)
  | called (place : Place) (call : Call)
  | ended (place : Place) (result : Except EvalError Value)

namespace Event

/-- An event in a child is one in the tree. -/
def under (i : Nat) : Event → Event
  | started p => started (i :: p)
  | called p call => called (i :: p) call
  | ended p result => ended (i :: p) result

/-- The call that is made. -/
def call? : Event → Option Call
  | called _ call => some call
  | _ => none

/-- The place of the part that ends. -/
def endedAt? : Event → Option Place
  | ended p _ => some p
  | _ => none

/-- Whether a part ends with an error. -/
def failed : Event → Bool
  | ended _ (.error _) => true
  | _ => false

@[simp] theorem call?_under (i : Nat) (v : Event) : (v.under i).call? = v.call? := by
  cases v <;> rfl

@[simp] theorem endedAt?_under (i : Nat) (v : Event) :
    (v.under i).endedAt? = v.endedAt?.map (i :: ·) := by
  cases v <;> rfl

@[simp] theorem failed_under (i : Nat) (v : Event) : (v.under i).failed = v.failed := by
  cases v with
  | ended p result => cases result <;> rfl
  | _ => rfl

end Event

theorem filterMap_call?_under (i : Nat) (events : List Event) :
    (events.map (.under i)).filterMap Event.call? = events.filterMap Event.call? := by
  rw [List.filterMap_map]
  exact congrArg (List.filterMap · events) (funext fun v => v.call?_under i)

/-- The places at which parts end. -/
def endings (events : List Event) : List Place := events.filterMap Event.endedAt?

theorem endings_append (events events' : List Event) :
    endings (events ++ events') = endings events ++ endings events' := List.filterMap_append

theorem endings_under (i : Nat) (events : List Event) :
    endings (events.map (.under i)) = (endings events).map (i :: ·) := by
  rw [endings, endings, List.filterMap_map, List.map_filterMap]
  exact congrArg (List.filterMap · events) (funext fun v => v.endedAt?_under i)

theorem started_mem_under {p : Place} {i : Nat} {events : List Event} :
    Event.started p ∈ events.map (Event.under i) ↔ ∃ q, p = i :: q ∧ .started q ∈ events := by
  rw [List.mem_map]
  constructor
  · rintro ⟨v, hv, hp⟩
    cases v with
    | started q => exact ⟨q, (Event.started.inj hp).symm, hv⟩
    | _ => cases hp
  · rintro ⟨q, rfl, hq⟩
    exact ⟨.started q, hq, rfl⟩

/-! ## The events of an evaluation -/

/-- The events after a part, which come only if it has a value. -/
def followed (m : Eval α) (s : Evaluator) (next : α → Evaluator → List Event) : List Event :=
  match m s with
  | (.ok a, after) => next a after
  | (.error _, _) => []

theorem followed_ok {m : Eval α} {s after : Evaluator} {a : α} (h : m s = (.ok a, after))
    (next : α → Evaluator → List Event) : followed m s next = next a after := by
  rw [followed, h]

theorem followed_error {m : Eval α} {s after : Evaluator} {e : EvalError}
    (h : m s = (.error e, after)) (next : α → Evaluator → List Event) :
    followed m s next = [] := by rw [followed, h]

/-- There are no events after a part, or some of those that may come. -/
theorem followed_cases {P : List Event → Prop} {m : Eval α} {s : Evaluator}
    {next : α → Evaluator → List Event} (hnil : P []) (h : ∀ a after, P (next a after)) :
    P (followed m s next) := by
  rcases hr : m s with ⟨error | a, after⟩
  · rw [followed_error hr]
    exact hnil
  · rw [followed_ok hr]
    exact h a after

theorem followed_nil (m : Eval α) (s : Evaluator) : (followed m s fun _ _ => []) = [] :=
  followed_cases (P := (· = [])) rfl fun _ _ => rfl

namespace Setting

variable (setting : Setting)

/-- The events of a tree, given those inside it. -/
def framed (e : Expr) (s : Evaluator) (inside : Evaluator → List Event) : List Event :=
  (if setting.Admits s then .started [] :: inside s.deeper else []) ++
    [.ended [] (setting.eval e s).1]

/-- The events of a call after the value of its name, given those of its arguments. -/
def calling (name : String) (xs : List Expr) (arguments : Evaluator → List Event) :
    Value → Evaluator → List Event
  | .function f, s => arguments s ++ followed (setting.evalAll xs) s fun args _ =>
    [.called [] ⟨name, f, args⟩]
  | _, _ => []

mutual

/-- The events of the evaluation of a tree. -/
def trace : Expr → Evaluator → List Event
  | .unary op x, s => setting.framed (.unary op x) s fun s => (trace x s).map (.under 0)
  | .binary op x y, s => setting.framed (.binary op x y) s fun s =>
    (trace x s).map (.under 0) ++ followed (setting.eval x) s fun v s =>
      if op.looksRight v then (trace y s).map (.under 1) else []
  | .call name xs, s => setting.framed (.call name xs) s fun s =>
    followed (setting.lookup name) s (setting.calling name xs (traceAll 0 xs))
  | .array xs, s => setting.framed (.array xs) s (traceAll 0 xs)
  | e@(.integer _), s | e@(.string _), s | e@(.boolean _), s | e@(.regexp _), s
  | e@(.identifier _), s => setting.framed e s fun _ => []

/-- The events of the evaluation of trees, which are children in a row from some index
on. -/
def traceAll : Nat → List Expr → Evaluator → List Event
  | _, [], _ => []
  | i, x :: xs, s => (trace x s).map (.under i) ++ followed (setting.eval x) s fun _ s =>
    traceAll (i + 1) xs s

end

-- The second item is not started: the first one fails.
example : Setting.trace ⟨fun _ => none, noHost, none⟩ (.array [.identifier "x", .string "s"]) {} =
    [.started [], .started [0], .ended [0] (.error (.undefinedIdentifier "x")),
      .ended [] (.error (.undefinedIdentifier "x"))] := by
  rfl

/-- The tree has the part that an event is about, and of the part it is true. -/
def Genuine (e : Expr) : Event → Prop
  | .started p => ∃ x, e.at? p = some x
  | .called p call => setting.Invoked e ⟨p, call⟩
  | .ended p result => ∃ x s, e.at? p = some x ∧ (setting.run x s).1 = result

end Setting

/-! ## Where an evaluation breaks off -/

/-- No part fails before one that fails with the error; after it only the parts around it
end, with the same error. -/
def Breaks (error : EvalError) (events : List Event) : Prop :=
  ∃ (before : List Event) (p : Place), (∀ v ∈ before, v.failed = false) ∧
    events = before ++ p.upward.map (.ended · (.error error))

/-- The same for the events inside a tree that ends with the error, be it its own or that of
a part. -/
def BreaksInside (error : EvalError) (events : List Event) : Prop :=
  Breaks error (events ++ [.ended [] (.error error)])

theorem Breaks.cons {error : EvalError} {v : Event} {events : List Event} (h : Breaks error events)
    (hv : v.failed = false) : Breaks error (v :: events) := by
  obtain ⟨before, p, hb, rfl⟩ := h
  exact ⟨v :: before, p, List.forall_mem_cons.mpr ⟨hv, hb⟩, rfl⟩

theorem breaksInside_of_forall {error : EvalError} {events : List Event}
    (h : ∀ v ∈ events, v.failed = false) : BreaksInside error events := ⟨events, [], h, rfl⟩

theorem BreaksInside.append {error : EvalError} {events events' : List Event}
    (h' : BreaksInside error events') (h : ∀ v ∈ events, v.failed = false) :
    BreaksInside error (events ++ events') := by
  obtain ⟨before, p, hb, he⟩ := h'
  refine ⟨events ++ before, p, fun v hv => (List.mem_append.mp hv).elim (h v) (hb v), ?_⟩
  rw [List.append_assoc, he, List.append_assoc]

theorem Breaks.under {error : EvalError} {events : List Event} (h : Breaks error events) (i : Nat) :
    BreaksInside error (events.map (.under i)) := by
  obtain ⟨before, p, hb, rfl⟩ := h
  refine ⟨before.map (.under i), i :: p, ?_, ?_⟩
  · simpa using hb
  · simp [Place.upward, Event.under, Function.comp_def]

/-! ## What the events tell of a part -/

/-- What the events of a part of the evaluation of a tree tell: which calls are made in it
after those before, that what is started ends, and how it breaks off if it fails. -/
structure Setting.Tells (setting : Setting) (e : Expr) (breaks : EvalError → List Event → Prop)
    (before : List Call) (events : List Event) (result : Except EvalError α × Evaluator) :
    Prop where
  calls : result.2.calls = before ++ events.filterMap Event.call?
  genuine : ∀ v ∈ events, setting.Genuine e v
  ends : ∀ p, .started p ∈ events → p ∈ endings events
  value : ∀ a, result.1 = .ok a → ∀ v ∈ events, v.failed = false
  error : ∀ error, result.1 = .error error → breaks error events

namespace Setting

variable {setting : Setting} {e : Expr} {m : Eval α} {f : α → Eval β} {s : Evaluator}
  {events : List Event}

theorem tells_settled (r : Except EvalError α) :
    setting.Tells e BreaksInside s.calls [] (settled r s) where
  calls := (List.append_nil _).symm
  genuine := List.forall_mem_nil _
  ends _ hp := absurd hp List.not_mem_nil
  value _ _ := List.forall_mem_nil _
  error _ _ := breaksInside_of_forall (List.forall_mem_nil _)

theorem Tells.bind {next : α → Evaluator → List Event}
    (hm : setting.Tells e BreaksInside s.calls events (m s))
    (hf : ∀ a after, m s = (.ok a, after) →
      setting.Tells e BreaksInside after.calls (next a after) (f a after)) :
    setting.Tells e BreaksInside s.calls (events ++ followed m s next) ((m >>= f) s) := by
  rcases hr : m s with ⟨error | a, after⟩
  · -- Nothing comes after an error.
    rw [hr] at hm
    rw [bind_apply_error hr, followed_error hr, List.append_nil]
    refine ⟨hm.calls, hm.genuine, hm.ends, nofun, ?_⟩
    rintro _ ⟨⟩
    exact hm.error error rfl
  · have h := hf a after hr
    rw [hr] at hm
    have hclean := hm.value a rfl
    rw [bind_apply_ok hr, followed_ok hr]
    refine ⟨?calls, ?genuine, ?ends, ?value, ?breaks⟩
    case calls => rw [h.calls, hm.calls, List.filterMap_append, List.append_assoc]
    case genuine => exact fun v hv => (List.mem_append.mp hv).elim (hm.genuine v) (h.genuine v)
    case ends =>
      intro p hp
      rw [endings_append]
      exact List.mem_append.mpr ((List.mem_append.mp hp).imp (hm.ends p) (h.ends p))
    case value => exact fun b hb v hv => (List.mem_append.mp hv).elim (hclean v) (h.value b hb v)
    case breaks => exact fun error he => (h.error error he).append hclean

/-- What is settled from the value of a part has no events of its own. -/
theorem Tells.bind_settled (hm : setting.Tells e BreaksInside s.calls events (m s))
    (hf : ∀ a, ∃ r, f a = settled r) :
    setting.Tells e BreaksInside s.calls events ((m >>= f) s) := by
  rw [← List.append_nil events, ← followed_nil m s]
  refine hm.bind fun a after _ => ?_
  obtain ⟨r, hr⟩ := hf a
  rw [hr]
  exact tells_settled r

theorem Genuine.under {x : Expr} {i : Nat} (h : e.children[i]? = some x) {v : Event}
    (hv : setting.Genuine x v) : setting.Genuine e (v.under i) := by
  cases v with
  | started p =>
    obtain ⟨y, hy⟩ := hv
    exact ⟨y, (Expr.at?_cons h p).trans hy⟩
  | called p call =>
    obtain ⟨xs, t, hy, hrest⟩ := hv
    exact ⟨xs, t, (Expr.at?_cons h p).trans hy, hrest⟩
  | ended p result =>
    obtain ⟨y, t, hy, hrest⟩ := hv
    exact ⟨y, t, (Expr.at?_cons h p).trans hy, hrest⟩

theorem Tells.under {x : Expr} {i : Nat} (h : e.children[i]? = some x)
    (hm : setting.Tells x Breaks s.calls events (m s)) :
    setting.Tells e BreaksInside s.calls (events.map (.under i)) (m s) where
  calls := by rw [hm.calls, filterMap_call?_under]
  genuine := List.forall_mem_map.mpr fun v hv => (hm.genuine v hv).under h
  ends p hp := by
    obtain ⟨q, rfl, hq⟩ := started_mem_under.mp hp
    rw [endings_under]
    exact List.mem_map.mpr ⟨q, hm.ends q hq, rfl⟩
  value a ha := List.forall_mem_map.mpr fun v hv => (v.failed_under i).trans (hm.value a ha v hv)
  error error he := (hm.error error he).under i

/-- An error inside a tree, or of its own, ends the tree as well. -/
theorem Tells.finish (h : setting.Tells e BreaksInside s.calls events (setting.eval e s)) :
    setting.Tells e Breaks s.calls (events ++ [.ended [] (setting.eval e s).1])
      (setting.eval e s) where
  calls := by
    rw [h.calls, List.filterMap_append]
    exact congrArg (s.calls ++ ·) (List.append_nil _).symm
  genuine := by
    refine List.forall_mem_append.mpr ⟨h.genuine, List.forall_mem_singleton.mpr ?_⟩
    exact ⟨e, s, rfl, rfl⟩
  ends p hp := by
    rw [endings_append]
    obtain hp | hp := List.mem_append.mp hp
    · exact List.mem_append_left _ (h.ends p hp)
    · cases List.mem_singleton.mp hp
  value v hv := by
    refine List.forall_mem_append.mpr ⟨h.value v hv, List.forall_mem_singleton.mpr ?_⟩
    rw [hv]
    rfl
  error error he := by
    rw [he]
    exact h.error error he

theorem Tells.start (h : setting.Tells e Breaks s.calls events (setting.eval e s))
    (hend : [] ∈ endings events) :
    setting.Tells e Breaks s.calls (.started [] :: events) (setting.eval e s) where
  calls := h.calls
  genuine := List.forall_mem_cons.mpr ⟨⟨e, rfl⟩, h.genuine⟩
  ends p hp := by
    obtain hp | hp := List.mem_cons.mp hp
    · obtain rfl := Event.started.inj hp
      exact hend
    · exact h.ends p hp
  value v hv := List.forall_mem_cons.mpr ⟨rfl, h.value v hv⟩
  error error he := (h.error error he).cons rfl

/-- The events of a tree tell what its evaluation does if those inside it do. -/
theorem Tells.framed {m : Eval Value} {inside : Evaluator → List Event}
    (he : setting.eval e = setting.nested m)
    (h : ∀ s, setting.Tells e BreaksInside s.calls (inside s) (m s)) (s : Evaluator) :
    setting.Tells e Breaks s.calls (setting.framed e s inside) (setting.eval e s) := by
  by_cases ha : setting.Admits s
  · have hm := h s.deeper
    have hs : setting.Tells e BreaksInside s.calls (inside s.deeper) (setting.eval e s) := by
      rw [he, setting.nested_apply m ha]
      exact ⟨hm.calls, hm.genuine, hm.ends, hm.value, hm.error⟩
    rw [Setting.framed, if_pos ha]
    refine hs.finish.start ?_
    rw [endings_append]
    exact List.mem_append_right _ List.mem_cons_self
  · obtain ⟨limit, hl, hle⟩ := setting.exists_limit_of_not_admits ha
    have hs : setting.Tells e BreaksInside s.calls [] (setting.eval e s) := by
      rw [he, setting.nested_apply_limit m hl hle]
      exact tells_settled (.error (.tooDeep limit))
    rw [Setting.framed, if_neg ha]
    exact hs.finish

theorem tells_lookup (name : String) :
    setting.Tells e BreaksInside s.calls [] (setting.lookup name s) := by
  obtain ⟨r, hr, -⟩ := setting.exists_lookup name
  rw [hr]
  exact tells_settled r

theorem tells_literal (he : e.isLiteral = true) :
    setting.Tells e Breaks s.calls (setting.framed e s fun _ => []) (setting.eval e s) := by
  obtain ⟨r, hr, -⟩ := exists_eval_literal he
  exact .framed (hr setting) (fun _ => tells_settled r) s

/-- A call that is made for the whole tree. -/
theorem tells_invoke {call : Call} (h : setting.Invoked e ⟨[], call⟩) :
    setting.Tells e BreaksInside s.calls [.called [] call] (setting.invoke call s) := by
  obtain ⟨r, hr, -⟩ := setting.exists_invoke call s
  rw [hr]
  exact {
    calls := rfl
    genuine := List.forall_mem_singleton.mpr h
    ends := fun p hp => nomatch List.mem_singleton.mp hp
    value := fun _ _ => List.forall_mem_singleton.mpr rfl
    error := fun _ _ => breaksInside_of_forall (List.forall_mem_singleton.mpr rfl) }

theorem tells_binary (op : BinaryOp) (v : Value) (x y : Expr) {right : Eval Value}
    (hy : setting.Tells y Breaks s.calls events (right s)) :
    setting.Tells (.binary op x y) BreaksInside s.calls
      (if op.looksRight v then events.map (.under 1) else []) (op.apply v y right s) := by
  obtain ⟨hl, r, ha, -⟩ | ⟨hl, f, ha, -⟩ := op.apply_cases v y
  · rw [if_neg (by rw [hl]; decide), ha]
    exact tells_settled r
  · rw [if_pos hl, ha]
    exact (hy.under rfl).bind_settled fun w => ⟨f w, rfl⟩

theorem tells_applied {name : String} {xs : List Expr} {v : Value}
    {arguments : Evaluator → List Event}
    (hxs : setting.Tells (.call name xs) BreaksInside s.calls (arguments s) (setting.evalAll xs s))
    (hv : setting.scope name = some v) :
    setting.Tells (.call name xs) BreaksInside s.calls (setting.calling name xs arguments v s)
      (setting.applied name xs v s) := by
  cases v with
  | function f =>
    exact hxs.bind fun args _ ha => tells_invoke ⟨xs, s, rfl, hv, congrArg Prod.fst ha⟩
  | _ => exact tells_settled (.error (.notAFunction name))

mutual

/-- The events of a tree tell what its evaluation does. -/
theorem tells_eval (s : Evaluator) : (e : Expr) →
    setting.Tells e Breaks s.calls (setting.trace e s) (setting.eval e s)
  | .integer _ | .string _ | .boolean _ | .regexp _ => by
    rw [trace]
    exact tells_literal rfl
  | .identifier name => by
    rw [trace]
    exact .framed (eval_identifier setting name) (fun _ => tells_lookup name) s
  | .unary op x => by
    rw [trace]
    refine .framed (eval_unary setting op x) (fun s => ?_) s
    refine ((tells_eval s x).under rfl).bind_settled fun v => ?_
    obtain ⟨r, hr, -⟩ := op.exists_apply v
    exact ⟨r, hr⟩
  | .binary op x y => by
    rw [trace]
    refine .framed (eval_binary setting op x y) (fun s => ?_) s
    exact ((tells_eval s x).under rfl).bind fun v t _ => tells_binary op v x y (tells_eval t y)
  | .call name xs => by
    rw [trace]
    refine .framed (eval_call setting name xs) (fun s => ?_) s
    refine (tells_lookup name).bind fun v t hv => ?_
    exact tells_applied (tells_evalAll t 0 xs rfl) (setting.scope_of_lookup (congrArg Prod.fst hv))
  | .array xs => by
    rw [trace]
    refine .framed (eval_array setting xs) (fun s => ?_) s
    exact (tells_evalAll s 0 xs rfl).bind_settled fun vs => ⟨.ok (.array vs), rfl⟩

/-- The events of the children from some index on tell what their evaluation does. -/
theorem tells_evalAll {e : Expr} (s : Evaluator) (i : Nat) : (xs : List Expr) →
    e.children.drop i = xs →
    setting.Tells e BreaksInside s.calls (setting.traceAll i xs s) (setting.evalAll xs s)
  | [], _ => by
    rw [evalAll_nil, traceAll]
    exact tells_settled (.ok [])
  | x :: xs, h => by
    obtain ⟨hi, hd⟩ := Expr.children_of_drop h
    rw [evalAll_cons, traceAll]
    refine ((tells_eval s x).under hi).bind fun v t _ => ?_
    exact (tells_evalAll t (i + 1) xs hd).bind_settled fun vs => ⟨.ok (v :: vs), rfl⟩

end

end Setting

/-! ## The order of the endings -/

/-- Places in children from some index on, in order. -/
structure Row (i : Nat) (places : List Place) : Prop where
  pairwise : places.Pairwise fun p q => Place.before p q = true
  right : ∀ p ∈ places, ∃ j q, p = j :: q ∧ i ≤ j

theorem row_nil (i : Nat) : Row i [] := ⟨.nil, List.forall_mem_nil _⟩

theorem Row.cons {i : Nat} {places places' : List Place}
    (h : places.Pairwise fun p q => Place.before p q = true) (h' : Row (i + 1) places') :
    Row i (places.map (i :: ·) ++ places') where
  pairwise := by
    rw [List.pairwise_append, List.pairwise_map]
    refine ⟨by simpa only [Place.before_cons] using h, h'.pairwise, fun p hp q hq => ?_⟩
    obtain ⟨p, -, rfl⟩ := List.mem_map.mp hp
    obtain ⟨j, q, rfl, hj⟩ := h'.right q hq
    exact Place.before_of_lt hj p q
  right p hp := by
    obtain hp | hp := List.mem_append.mp hp
    · obtain ⟨q, -, rfl⟩ := List.mem_map.mp hp
      exact ⟨i, q, rfl, Nat.le_refl i⟩
    · obtain ⟨j, q, rfl, hj⟩ := h'.right p hp
      exact ⟨j, q, rfl, Nat.le_of_succ_le hj⟩

theorem row_map {places : List Place}
    (h : places.Pairwise fun p q => Place.before p q = true) (i : Nat) :
    Row i (places.map (i :: ·)) := by
  rw [← List.append_nil (places.map _)]
  exact .cons h (row_nil (i + 1))

/-- A tree comes after what is in it. -/
theorem Row.close {i : Nat} {places : List Place} (h : Row i places) :
    (places ++ [[]]).Pairwise fun p q => Place.before p q = true := by
  refine List.pairwise_append.mpr ⟨h.pairwise, List.pairwise_singleton .., fun p hp q hq => ?_⟩
  obtain rfl := List.mem_singleton.mp hq
  obtain ⟨j, p, rfl, -⟩ := h.right p hp
  rfl

theorem row_followed {i : Nat} {m : Eval α} {s : Evaluator}
    {next : α → Evaluator → List Event} (h : ∀ a t, Row i (endings (next a t))) :
    Row i (endings (followed m s next)) :=
  followed_cases (P := fun events => Row i (endings events)) (row_nil i) h

theorem endings_followed_eq_nil {m : Eval α} {s : Evaluator}
    {next : α → Evaluator → List Event} (h : ∀ a t, endings (next a t) = []) :
    endings (followed m s next) = [] :=
  followed_cases (P := fun events => endings events = []) rfl h

namespace Setting

variable (setting : Setting)

theorem pairwise_framed {e : Expr} {s : Evaluator} {inside : Evaluator → List Event}
    (h : Row 0 (endings (inside s.deeper))) :
    (endings (setting.framed e s inside)).Pairwise fun p q => Place.before p q = true := by
  rw [framed, endings_append]
  split
  · exact h.close
  · exact (row_nil 0).close

mutual

/-- The parts of a tree end in order. -/
theorem pairwise_trace (s : Evaluator) : (e : Expr) →
    (endings (setting.trace e s)).Pairwise fun p q => Place.before p q = true
  | .integer _ | .string _ | .boolean _ | .regexp _ | .identifier _ => by
    rw [trace]
    exact setting.pairwise_framed (row_nil 0)
  | .unary _ x => by
    rw [trace]
    refine setting.pairwise_framed ?_
    rw [endings_under]
    exact row_map (pairwise_trace _ x) 0
  | .binary op x y => by
    rw [trace]
    refine setting.pairwise_framed ?_
    rw [endings_append, endings_under]
    refine .cons (pairwise_trace _ x) (row_followed fun v t => ?_)
    split
    · rw [endings_under]
      exact row_map (pairwise_trace t y) 1
    · exact row_nil 1
  | .call name xs => by
    rw [trace]
    refine setting.pairwise_framed (row_followed fun v t => ?_)
    cases v with
    | function f =>
      -- The call itself is no ending.
      rw [calling, endings_append, endings_followed_eq_nil fun _ _ => rfl, List.append_nil]
      exact row_traceAll t 0 xs
    | _ => exact row_nil 0
  | .array xs => by
    rw [trace]
    exact setting.pairwise_framed (row_traceAll _ 0 xs)

theorem row_traceAll (s : Evaluator) (i : Nat) : (xs : List Expr) →
    Row i (endings (setting.traceAll i xs s))
  | [] => by
    rw [traceAll]
    exact row_nil i
  | x :: xs => by
    rw [traceAll, endings_append, endings_under]
    exact .cons (pairwise_trace s x) (row_followed fun _ t => row_traceAll t (i + 1) xs)

end

end Setting

end StepCondition
