import StepCondition.Proofs.Evaluation.Run
import StepCondition.Proofs.Expr.Height

/-!
# The limit on nesting

Every tree whose evaluation is started lies some levels below the root.
`Setting.levels` is the largest number of them that the evaluation without a limit
gets to; parts of the tree that it never looks at do not count. A limit changes
nothing if the levels stay within it. Otherwise it is the error, and the calls made
before it are the first ones of the evaluation without a limit (`Agrees`).

* `Setting.run_agrees`: evaluating with a limit, at any depth;
* `Setting.levels_le_height`: no more levels than the tree has;
* `run_same_or_cut`: an evaluation is the one without a limit, or it is cut off.
-/

namespace StepCondition

variable {α β : Type}

/-- How many levels what follows a part takes: none if the part fails. -/
def afterwards (result : Except EvalError α × Evaluator) (levels : α → Evaluator → Nat) : Nat :=
  match result with
  | (.ok a, after) => levels a after
  | (.error _, _) => 0

theorem afterwards_ok (a : α) (after : Evaluator) (levels : α → Evaluator → Nat) :
    afterwards (.ok a, after) levels = levels a after := rfl

theorem afterwards_error (e : EvalError) (after : Evaluator) (levels : α → Evaluator → Nat) :
    afterwards (.error e, after) levels = 0 := rfl

@[simp] theorem afterwards_zero (result : Except EvalError α × Evaluator) :
    afterwards result (fun _ _ => 0) = 0 := by
  rcases result with ⟨_ | _, _⟩ <;> rfl

namespace Setting

/-- A setting with another limit. -/
def withLimit (setting : Setting) (limit : Option Nat) : Setting := { setting with limit }

theorem nested_withLimit_none (setting : Setting) (m : Eval α) (s : Evaluator) :
    (setting.withLimit none).nested m s =
      ((m s.deeper).1, { (m s.deeper).2 with depth := s.depth }) :=
  nested_apply (setting.withLimit none) m nofun

mutual

/-- How many levels of a tree its evaluation without a limit gets to. -/
def levels (setting : Setting) : Expr → Evaluator → Nat
  | .unary _ x, s => setting.levels x s.deeper + 1
  | .binary op x y, s =>
    max (setting.levels x s.deeper)
      (afterwards ((setting.withLimit none).eval x s.deeper) fun v after =>
        if op.looksRight v then setting.levels y after else 0) + 1
  | .call name xs, s =>
    (afterwards (setting.lookup name s.deeper) fun v after =>
      match v with
      | .function _ => setting.levelsAll xs after
      | _ => 0) + 1
  | .array xs, s => setting.levelsAll xs s.deeper + 1
  | .integer _, _ | .string _, _ | .boolean _, _ | .regexp _, _ | .identifier _, _ => 1

/-- How many levels of some trees their evaluation without a limit gets to. -/
def levelsAll (setting : Setting) : List Expr → Evaluator → Nat
  | [], _ => 0
  | x :: xs, s =>
    max (setting.levels x s)
      (afterwards ((setting.withLimit none).eval x s) fun _ after => setting.levelsAll xs after)

end

end Setting

theorem afterwards_le {result : Except EvalError α × Evaluator} {levels : α → Evaluator → Nat}
    {n : Nat} (h : ∀ a after, levels a after ≤ n) : afterwards result levels ≤ n := by
  rcases result with ⟨_ | a, after⟩
  · exact Nat.zero_le n
  · exact h a after

mutual

/-- An evaluation gets to no more levels than there are. -/
theorem Setting.levels_le_height (setting : Setting) :
    (e : Expr) → (s : Evaluator) → setting.levels e s ≤ e.height
  | .integer _, _ | .string _, _ | .boolean _, _ | .regexp _, _ | .identifier _, _ => by
    rw [levels, Expr.height]
  | .unary _ x, s => by
    have := levels_le_height setting x s.deeper
    rw [levels, Expr.height]
    omega
  | .binary op x y, s => by
    have := levels_le_height setting x s.deeper
    have : (afterwards ((setting.withLimit none).eval x s.deeper) fun v after =>
        if op.looksRight v then setting.levels y after else 0) ≤ y.height :=
      afterwards_le fun v after => by
        split
        · exact levels_le_height setting y after
        · exact Nat.zero_le _
    rw [levels, Expr.height]
    omega
  | .call name xs, s => by
    rw [levels, Expr.height]
    refine Nat.succ_le_succ (afterwards_le fun v after => ?_)
    cases v with
    | function _ => exact levelsAll_le_heightAll setting xs after
    | _ => exact Nat.zero_le _
  | .array xs, s => by
    have := levelsAll_le_heightAll setting xs s.deeper
    rw [levels, Expr.height]
    omega

theorem Setting.levelsAll_le_heightAll (setting : Setting) :
    (es : List Expr) → (s : Evaluator) → setting.levelsAll es s ≤ Expr.heightAll es
  | [], _ => Nat.le_refl 0
  | x :: xs, s => by
    have := levels_le_height setting x s
    have : (afterwards ((setting.withLimit none).eval x s) fun _ after =>
        setting.levelsAll xs after) ≤ Expr.heightAll xs :=
      afterwards_le fun _ after => levelsAll_le_heightAll setting xs after
    rw [levelsAll, Expr.heightAll]
    omega

end

/-! ## With and without a limit -/

/-- What comes of a part that goes to a depth, with a limit and without one. -/
structure Agrees (limit depth : Nat) (bounded free : Except EvalError α × Evaluator) :
    Prop where
  same : depth ≤ limit → bounded = free
  cut : limit < depth → bounded.1 = .error (.tooDeep limit) ∧ bounded.2.calls <+: free.2.calls

namespace Agrees

variable {limit depth : Nat} {bounded free : Except EvalError α × Evaluator}

/-- A limit shows exactly if the part goes deeper. -/
theorem eq_iff (h : Agrees limit depth bounded free) (hp : Plain free.1) :
    bounded = free ↔ depth ≤ limit := by
  refine ⟨fun he => ?_, h.same⟩
  by_contra hlt
  exact hp limit (he ▸ (h.cut (by omega)).1)

theorem plain_iff (h : Agrees limit depth bounded free) (hp : Plain free.1) :
    Plain bounded.1 ↔ depth ≤ limit := by
  refine ⟨fun hb => ?_, fun hle => h.same hle ▸ hp⟩
  by_contra hlt
  exact hb limit (h.cut (by omega)).1

end Agrees

/-- A part with a limit agrees with a part without one that goes some levels
deep. -/
structure Bounds (limit : Nat) (levels : Evaluator → Nat) (m m' : Eval α) : Prop where
  frames : Frames m'
  agrees : ∀ s : Evaluator, s.depth ≤ limit → Agrees limit (s.depth + levels s) (m s) (m' s)

variable {limit : Nat} {n : Evaluator → Nat} {m m' : Eval α}

/-- A part that is the same with a limit goes nowhere. -/
theorem Frames.bounds (h : Frames m) : Bounds limit (fun _ => 0) m m where
  frames := h
  agrees _ hs := ⟨fun _ => rfl, fun hlt => absurd hlt (Nat.not_lt.mpr hs)⟩

theorem bounds_settled (r : Except EvalError α) :
    Bounds limit (fun _ => 0) (settled r) (settled r) := (frames_settled r).bounds

theorem Bounds.congr {n' : Evaluator → Nat} (h : Bounds limit n m m') (hn : ∀ s, n' s = n s) :
    Bounds limit n' m m' := by
  rw [show n' = n from funext hn]
  exact h

theorem Bounds.bind {k : α → Evaluator → Nat} {f f' : α → Eval β} (h : Bounds limit n m m')
    (hf : ∀ a, Bounds limit (k a) (f a) (f' a)) :
    Bounds limit (fun s => max (n s) (afterwards (m' s) k)) (m >>= f) (m' >>= f') := by
  refine ⟨h.frames.bind fun a => (hf a).frames, fun s hs => ?_⟩
  obtain ⟨hsame, hcut⟩ := h.agrees s hs
  have hd := (h.frames s).1
  -- Where the first part overflows, the second one does not run with the limit.
  have first : limit < s.depth + n s →
      ((m >>= f) s).1 = .error (.tooDeep limit) ∧ ((m >>= f) s).2.calls <+: (m' s).2.calls := by
    intro hlt
    obtain ⟨he, hc⟩ := hcut hlt
    have hr : m s = (.error (.tooDeep limit), (m s).2) := Prod.ext he rfl
    rw [bind_apply_error hr]
    exact ⟨rfl, hc⟩
  rcases hr : m' s with ⟨e | a, after⟩
  · rw [hr] at first
    rw [afterwards_error, bind_apply_error hr, Nat.max_zero]
    exact ⟨fun hle => bind_apply_error ((hsame hle).trans hr) f, first⟩
  · rw [hr] at first hd
    change after.depth = s.depth at hd
    obtain ⟨hsame', hcut'⟩ := (hf a).agrees after (hd ▸ hs)
    rw [hd] at hsame' hcut'
    rw [afterwards_ok, bind_apply_ok hr]
    refine ⟨fun hle => ?_, fun hlt => ?_⟩
    · rw [bind_apply_ok ((hsame (by omega)).trans hr), hsame' (by omega)]
    · by_cases hn : s.depth + n s ≤ limit
      · rw [bind_apply_ok ((hsame hn).trans hr)]
        exact hcut' (by omega)
      · obtain ⟨he, hc⟩ := first (by omega)
        exact ⟨he, hc.trans ((hf a).frames after).2⟩

/-- A part one level deeper. -/
theorem Bounds.nested (setting : Setting) (h : Bounds limit n m m') :
    Bounds limit (fun s => n s.deeper + 1) ((setting.withLimit (some limit)).nested m)
      ((setting.withLimit none).nested m') := by
  refine ⟨(setting.withLimit none).kept_frames.nested h.frames, fun s hs => ?_⟩
  rw [Setting.nested_withLimit_none]
  by_cases hlt : s.depth < limit
  · obtain ⟨hsame, hcut⟩ := h.agrees s.deeper hlt
    change s.depth + 1 + n s.deeper ≤ limit → _ at hsame
    change limit < s.depth + 1 + n s.deeper → _ at hcut
    rw [Setting.nested_apply (setting.withLimit (some limit)) m (by rintro _ ⟨⟩; exact hlt)]
    exact ⟨fun hle => by rw [hsame (by omega)], fun hlt => hcut (by omega)⟩
  · rw [Setting.nested_apply_limit (setting.withLimit (some limit)) m rfl (by omega)]
    exact ⟨fun hle => absurd hle (by omega), fun _ => ⟨rfl, (h.frames s.deeper).2⟩⟩

/-- An operator goes as deep as its right side, if it looks there. -/
theorem Bounds.binary (op : BinaryOp) (v : Value) (tree : Expr) {right right' : Eval Value}
    (h : Bounds limit n right right') :
    Bounds limit (fun s => if op.looksRight v then n s else 0) (op.apply v tree right)
      (op.apply v tree right') := by
  obtain ⟨hl, r, ha, -⟩ | ⟨hl, f, ha, -⟩ := op.apply_cases v tree
  · rw [ha, ha]
    exact (bounds_settled r).congr fun s => by rw [hl]; rfl
  · rw [ha, ha]
    refine (h.bind fun w => bounds_settled (f w)).congr fun s => ?_
    rw [hl, if_pos rfl, afterwards_zero, Nat.max_zero]

namespace Setting

variable (setting : Setting)

theorem bounds_literal {e : Expr} (h : e.isLiteral = true) :
    Bounds limit (fun _ => 1) ((setting.withLimit (some limit)).eval e)
      ((setting.withLimit none).eval e) := by
  obtain ⟨r, hr, -⟩ := exists_eval_literal h
  rw [hr, hr]
  exact (bounds_settled r).nested setting

/-- A call goes as deep as its arguments, if it names a function. -/
theorem bounds_applied {xs : List Expr}
    (h : Bounds limit n ((setting.withLimit (some limit)).evalAll xs)
      ((setting.withLimit none).evalAll xs)) (name : String) (v : Value) :
    Bounds limit (fun s => match v with | .function _ => n s | _ => 0)
      ((setting.withLimit (some limit)).applied name xs v)
      ((setting.withLimit none).applied name xs v) := by
  cases v with
  | function f =>
    have hb := h.bind fun args => (setting.kept_frames.invoke ⟨name, f, args⟩).bounds
    exact hb.congr fun s => by rw [afterwards_zero, Nat.max_zero]
  | _ => exact bounds_settled _

mutual

/-- An evaluation with a limit agrees with the one without. -/
theorem bounds_eval : (e : Expr) → Bounds limit (setting.levels e)
    ((setting.withLimit (some limit)).eval e) ((setting.withLimit none).eval e)
  | .integer _ | .string _ | .boolean _ | .regexp _ =>
    (bounds_literal setting rfl).congr fun _ => by rw [levels]
  | .identifier name => by
    rw [eval_identifier, eval_identifier]
    exact ((setting.kept_frames.lookup name).bounds.nested setting).congr fun _ => by rw [levels]
  | .unary op x => by
    rw [eval_unary, eval_unary]
    have h := (bounds_eval x).bind fun v => (setting.kept_frames.unary op v).bounds
    exact (h.nested setting).congr fun s => by rw [levels, afterwards_zero, Nat.max_zero]
  | .binary op x y => by
    rw [eval_binary, eval_binary]
    have h := (bounds_eval x).bind fun v => (bounds_eval y).binary op v y
    exact (h.nested setting).congr fun s => by rw [levels]
  | .call name xs => by
    rw [eval_call, eval_call]
    have h := (setting.kept_frames.lookup name).bounds.bind
      (bounds_applied setting (bounds_evalAll xs) name)
    exact (h.nested setting).congr fun s => by rw [levels, Nat.zero_max]
  | .array xs => by
    rw [eval_array, eval_array]
    have h := (bounds_evalAll xs).bind fun vs => bounds_settled (.ok (Value.array vs))
    exact (h.nested setting).congr fun s => by rw [levels, afterwards_zero, Nat.max_zero]

theorem bounds_evalAll : (es : List Expr) → Bounds limit (setting.levelsAll es)
    ((setting.withLimit (some limit)).evalAll es) ((setting.withLimit none).evalAll es)
  | [] => by
    rw [evalAll_nil, evalAll_nil]
    exact (bounds_settled _).congr fun _ => by rw [levelsAll]
  | x :: xs => by
    rw [evalAll_cons, evalAll_cons]
    have h := (bounds_eval x).bind fun v =>
      (bounds_evalAll xs).bind fun vs => bounds_settled (.ok (v :: vs))
    exact h.congr fun s => by simp only [levelsAll, afterwards_zero, Nat.max_zero]

end

/-- A limit is the error exactly if the evaluation without one goes deeper. -/
theorem run_agrees (e : Expr) {s : Evaluator} (hs : s.depth ≤ limit) :
    Agrees limit (s.depth + setting.levels e s) ((setting.withLimit (some limit)).run e s)
      ((setting.withLimit none).run e s) := (setting.bounds_eval e).agrees s hs

theorem run_plain (e : Expr) (s : Evaluator) : Plain ((setting.withLimit none).run e s).1 :=
  ((setting.withLimit none).kept_plain rfl).eval e s

end Setting

/-- An evaluation is the one without a limit, or it ends in the error for nesting after
the first calls of the one without. The latter is so exactly if more levels of the tree
than the limit are gotten to, and only a tree that is higher than the limit has them. -/
theorem run_same_or_cut (scope : Scope) (host : Host) (e : Expr) (before : List Call) :
    let setting : Setting := { scope, host }
    let start : Evaluator := { calls := before }
    let bounded := setting.run e start
    let free := (setting.withLimit none).run e start
    (bounded = free ∨ bounded.1 = .error (.tooDeep 512) ∧ bounded.2.calls <+: free.2.calls) ∧
      (∀ limit, free.1 ≠ .error (.tooDeep limit)) ∧
      ((∃ limit, bounded.1 = .error (.tooDeep limit)) ↔ 512 < setting.levels e start) ∧
      ∀ limit, bounded.1 = .error (.tooDeep limit) → 512 < e.height := by
  intro setting start bounded free
  have hp : Plain free.1 := setting.run_plain e start
  have ha : Agrees 512 (start.depth + setting.levels e start) bounded free :=
    setting.run_agrees e (s := start) (Nat.zero_le 512)
  rw [Nat.zero_add] at ha
  have hcut : (∃ limit, bounded.1 = .error (.tooDeep limit)) ↔ 512 < setting.levels e start := by
    constructor
    · rintro ⟨limit, he⟩
      exact Nat.lt_of_not_le fun hle => (ha.plain_iff hp).mpr hle limit he
    · exact fun hlt => ⟨512, (ha.cut hlt).1⟩
  refine ⟨?_, hp, hcut, fun limit he => ?_⟩
  · by_cases hle : setting.levels e start ≤ 512
    · exact .inl (ha.same hle)
    · exact .inr (ha.cut (Nat.lt_of_not_le hle))
  · exact (hcut.mp ⟨limit, he⟩).trans_le (setting.levels_le_height e start)

end StepCondition
