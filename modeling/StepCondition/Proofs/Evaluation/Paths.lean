import Mathlib.Data.List.Basic
import StepCondition.Proofs.Evaluation.Run
import StepCondition.Proofs.Expr.Rendering
import StepCondition.Proofs.Parser.Language

/-!
# Dotted paths

Names with a dot between them are a path: the first name is looked for in the scope, and
every other one in the struct that the names before it led to (`Scope.follow`). The first
step that fails decides what the path comes to. A path is as deep as its names are many,
and its text takes a level more than that, so the parser is what limits its length.

* `parse_path`: the tree of a path, which leans to the left;
* `finds_path`: evaluating the tree follows the path;
* `evaluate_path`: from the text to the value.
-/

namespace StepCondition

/-- A path of names: for every name after the first an access, from left to right. -/
def Expr.path (name : String) (more : List String) : Expr :=
  more.foldl (fun e n => .binary .access e (.identifier n)) (.identifier name)

/-- What a value has under a name. A failure stays what it is. -/
def Value.under (v : Value) (name : String) : Value :=
  match v with
  | .struct fields => (fields.get? name).getD (.error ("struct has no property \"" ++ name ++ "\""))
  | .error message => .error message
  | v => .error ("expected STRUCT on left side of ., got " ++ v.kind.name)

/-- Where a path leads to. Only its first name is looked for in the scope. -/
def Scope.follow (scope : Scope) (name : String) (more : List String) : Value :=
  more.foldl Value.under ((scope name).getD (.error ("identifier not found: " ++ name)))

/-! ## The text of a path -/

theorem toList_intercalate_dot (name : String) (more : List String) :
    (".".intercalate (name :: more)).toList =
      name.toList ++ more.flatMap fun n => '.' :: n.toList := by
  induction more generalizing name with
  | nil => simp
  | cons m more ih => simp [ih]

/-- What follows a name in a path does not go on with it. -/
theorem endsName_accesses (more : List String) :
    EndsName (more.flatMap fun n => '.' :: n.toList) := by
  cases more with
  | nil => exact endsName_nil
  | cons m more => exact endsName_cons (by decide) _

theorem tokens_accesses {more : List String} (h : ∀ n ∈ more, IsName n) :
    tokens (more.flatMap fun n => '.' :: n.toList) =
      more.flatMap fun n => [.dot, .identifier n] := by
  induction more with
  | nil => exact tokens_nil
  | cons m more ih =>
    obtain ⟨hm, hmore⟩ := List.forall_mem_cons.mp h
    have hdot := tokens_symbol .access (m.toList ++ more.flatMap fun n => '.' :: n.toList)
    have hname := tokens_written (t := .identifier m) hm (endsName_accesses more)
    rw [ih hmore] at hname
    rw [List.flatMap_cons, List.flatMap_cons]
    exact hdot.trans (congrArg _ hname)

theorem tokens_path {name : String} {more : List String} (h : ∀ n ∈ name :: more, IsName n) :
    tokens (".".intercalate (name :: more)).toList =
      .identifier name :: more.flatMap fun n => [.dot, .identifier n] := by
  obtain ⟨hname, hmore⟩ := List.forall_mem_cons.mp h
  rw [toList_intercalate_dot, ← tokens_accesses hmore]
  exact tokens_written (t := .identifier name) hname (endsName_accesses more)

/-- A path goes on with names. Every access makes its chain longer, and so takes a level
more than the one before. -/
theorem Derivation.exists_accesses (c : Derivation .path) (more : List String) :
    ∃ d : Derivation .path, d.tokens = c.tokens ++ more.flatMap (fun n => [.dot, .identifier n]) ∧
      d.tree = more.foldl (fun e n => .binary .access e (.identifier n)) c.tree ∧
      d.nesting = if more = [] then c.nesting else max c.nesting (c.folds + more.length + 2) := by
  induction more generalizing c with
  | nil => exact ⟨c, (List.append_nil _).symm, rfl, rfl⟩
  | cons m more ih =>
    obtain ⟨d, ht, he, hn⟩ := ih (.chain .access .access c (.identifier m))
    refine ⟨d, ?_, he, ?_⟩
    · rw [ht, tokens, List.append_assoc]
      rfl
    · rw [hn, if_neg (List.cons_ne_nil m more), List.length_cons, folds, nesting,
        show (identifier m).nesting = 1 from rfl]
      split
      · next h =>
        subst h
        rfl
      · omega

/-- A path of up to 255 names is accepted. A longer one has one error, which says so. -/
theorem parse_path {name : String} {more : List String} (h : ∀ n ∈ name :: more, IsName n) :
    parse (".".intercalate (name :: more)) =
      if (name :: more).length < maxDepth then .ok (.path name more) else .error [.tooDeep] := by
  obtain ⟨c, hc⟩ : ∃ c : Derivation .path, c.Alike (.identifier name) :=
    (Derivation.identifier name).exists_path (by decide)
  obtain ⟨d, ht, he, hn⟩ := c.exists_accesses more
  obtain ⟨f, hf⟩ := d.exists_or
  have htokens : f.tokens = tokens (".".intercalate (name :: more)).toList := by
    rw [hf.tokens, ht, hc.tokens, tokens_path h]
    rfl
  have htree : f.tree = .path name more := by
    rw [hf.tree, he, hc.tree]
    rfl
  have hnesting : f.nesting ≤ maxDepth ↔ (name :: more).length < maxDepth := by
    rw [hf.nesting, hn, hc.nesting, hc.folds, List.length_cons,
      show (Derivation.identifier name).nesting = 1 from rfl,
      show (Derivation.identifier name).folds = 0 from rfl, maxDepth]
    split
    · next h =>
      subst h
      decide
    · omega
  rw [parse_derivation htokens, htree]
  simp only [hnesting]

/-! ## The value of a path -/

/-- A result as a value: a value that is no failure, or the failure for an error. -/
inductive Yields : Except EvalError Value → Value → Prop where
  | value {v : Value} (h : v.isError = false) : Yields (.ok v) v
  | failure (error : EvalError) : Yields (.error error) (.error error.message)

theorem exists_raise_yields (v : Value) : ∃ r, raise v = settled r ∧ Yields r v := by
  cases v with
  | error message => exact ⟨_, rfl, .failure (.raised message)⟩
  | _ => exact ⟨_, rfl, .value rfl⟩

/-- An access of a name looks under the name in the value on the left. -/
theorem exists_access_yields {r : Except EvalError Value} {v : Value} (h : Yields r v)
    (name : String) (right : Eval Value) :
    ∃ r', (settled r >>= fun u => BinaryOp.access.apply u (.identifier name) right) = settled r' ∧
      Yields r' (v.under name) := by
  cases h with
  | failure error => exact ⟨_, rfl, .failure error⟩
  | value hv =>
    cases v with
    | error message => cases hv
    | struct fields =>
      change ∃ r', BinaryOp.access.apply (.struct fields) (.identifier name) right = settled r' ∧ _
      rw [BinaryOp.apply, Value.under]
      cases fields.get? name with
      | none => exact ⟨_, rfl, .failure (.missingProperty name)⟩
      | some w => exact exists_raise_yields w
    | _ => exact ⟨_, rfl, .failure (.unexpectedKind .struct .left .access _)⟩

namespace Setting

variable {setting : Setting} {e : Expr} {v : Value} {levels : Nat}

/-- A tree comes to a value and leaves no trace, as long as the limit permits a number of
levels. -/
def Finds (setting : Setting) (levels : Nat) (e : Expr) (v : Value) : Prop :=
  ∀ s : Evaluator, (∀ limit ∈ setting.limit, s.depth + levels ≤ limit) →
    ∃ r, setting.eval e s = (r, s) ∧ Yields r v

/-- Where the limit permits some levels, it permits all but one of them one level deeper. -/
theorem permits_deeper {s : Evaluator} (h : ∀ limit ∈ setting.limit, s.depth + (levels + 1) ≤ limit) :
    setting.Admits s ∧ ∀ limit ∈ setting.limit, s.deeper.depth + levels ≤ limit := by
  refine ⟨fun limit hl => Nat.lt_of_lt_of_le (by omega) (h limit hl), fun limit hl => ?_⟩
  have := h limit hl
  change s.depth + 1 + levels ≤ limit
  omega

theorem finds_identifier (name : String) :
    setting.Finds 1 (.identifier name)
      ((setting.scope name).getD (.error ("identifier not found: " ++ name))) := by
  intro s hs
  have hl : ∃ r, setting.lookup name = settled r ∧
      Yields r ((setting.scope name).getD (.error ("identifier not found: " ++ name))) := by
    unfold lookup
    cases setting.scope name with
    | none => exact ⟨_, rfl, .failure (.undefinedIdentifier name)⟩
    | some v => exact exists_raise_yields v
  obtain ⟨r, hr, hv⟩ := hl
  refine ⟨r, ?_, hv⟩
  rw [eval_identifier, hr, setting.nested_apply _ hs]
  rfl

theorem Finds.access (h : setting.Finds levels e v) (name : String) :
    setting.Finds (levels + 1) (.binary .access e (.identifier name)) (v.under name) := by
  intro s hs
  obtain ⟨hadmits, hdeep⟩ := permits_deeper hs
  obtain ⟨r, hr, hv⟩ := h s.deeper hdeep
  obtain ⟨r', ha, hv'⟩ := exists_access_yields hv name (setting.eval (.identifier name))
  refine ⟨r', ?_, hv'⟩
  have hm : (setting.eval e >>= fun u => BinaryOp.access.apply u (.identifier name)
      (setting.eval (.identifier name))) s.deeper = (r', s.deeper) := by
    rw [← show settled r' s.deeper = (r', s.deeper) from rfl, ← ha]
    exact bind_apply_congr hr fun _ _ _ => rfl
  rw [eval_binary, setting.nested_apply _ hadmits, hm]
  rfl

/-- Evaluating a path follows it. -/
theorem finds_path (setting : Setting) (name : String) (more : List String) :
    setting.Finds (more.length + 1) (.path name more) (setting.scope.follow name more) := by
  suffices h : ∀ {levels : Nat} {e : Expr} {v : Value}, setting.Finds levels e v →
      setting.Finds (more.length + levels)
        (more.foldl (fun e n => .binary .access e (.identifier n)) e)
        (more.foldl Value.under v) from h (finds_identifier name)
  induction more with
  | nil =>
    intro levels e v h
    rwa [List.length_nil, Nat.zero_add]
  | cons m more ih =>
    intro levels e v h
    have := ih (h.access m)
    rwa [← Nat.add_assoc, Nat.add_right_comm] at this

/-- What is found is the value of the tree. -/
theorem Finds.evaluate (h : setting.Finds levels e v)
    (hlevels : ∀ limit ∈ setting.limit, levels ≤ limit) (before : List Call) :
    setting.evaluate e before = (v, { calls := before }) := by
  obtain ⟨r, hr, hv⟩ := h { calls := before } (by simpa using hlevels)
  have hr : setting.run e { calls := before } = (r, { calls := before }) := hr
  unfold Setting.evaluate
  rw [hr]
  cases hv <;> rfl

end Setting

/-- A row of names with dots between them. Up to 255 names are accepted, and in every scope
they come to where the path leads: to a value, or to the failure of the first step that
fails. No function is called. More names are too deep, which is their only error. -/
theorem evaluate_path {name : String} {more : List String} (h : ∀ n ∈ name :: more, IsName n) :
    ((name :: more).length ≤ 255 →
      parse (".".intercalate (name :: more)) = .ok (.path name more) ∧
      ∀ (scope : Scope) (host : Host) (before : List Call),
        let setting : Setting := { scope, host }
        setting.evaluate (.path name more) before =
          (scope.follow name more, { calls := before })) ∧
    (256 ≤ (name :: more).length →
      parse (".".intercalate (name :: more)) = .error [.tooDeep]) := by
  have hp := parse_path h
  refine ⟨fun hle => ⟨hp.trans (if_pos (Nat.lt_succ_of_le hle)), fun scope host before => ?_⟩,
    fun hlt => hp.trans (if_neg (Nat.not_lt.mpr hlt))⟩
  refine (Setting.finds_path { scope, host } name more).evaluate ?_ before
  rintro _ ⟨⟩
  exact Nat.le_trans hle (by decide)

/-- The longest path, of which the third step fails, and one name more. -/
theorem evaluate_path_longest :
    let scope : Scope := Struct.scope (.ofList [("a", .struct (.ofList [("b", .integer 7)]))])
    let more := List.replicate 254 "b"
    parse (".".intercalate ("a" :: more)) = .ok (.path "a" more) ∧
      ({ scope } : Setting).evaluate (.path "a" more) [] =
        (.error "expected STRUCT on left side of ., got INTEGER", {}) ∧
      parse (".".intercalate ("a" :: "b" :: more)) = .error [.tooDeep] := by
  intro scope more
  have hmore : ∀ n ∈ more, IsName n := fun n hn => List.eq_of_mem_replicate hn ▸ by decide
  have h : ∀ n ∈ "a" :: more, IsName n := List.forall_mem_cons.mpr ⟨by decide, hmore⟩
  have h' : ∀ n ∈ "a" :: "b" :: more, IsName n :=
    List.forall_mem_cons.mpr ⟨by decide, List.forall_mem_cons.mpr ⟨by decide, hmore⟩⟩
  have hlength : ("a" :: more).length = 255 := by rw [List.length_cons, List.length_replicate]
  obtain ⟨hp, he⟩ := (evaluate_path h).1 hlength.le
  refine ⟨hp, (he scope noHost []).trans ?_, (evaluate_path h').2 (Nat.succ_le_succ hlength.ge)⟩
  have hf : scope.follow "a" more = .error "expected STRUCT on left side of ., got INTEGER" := by
    have hsplit : more = List.replicate 2 "b" ++ List.replicate 252 "b" := by
      rw [List.replicate_append_replicate]
    rw [hsplit, Scope.follow, List.foldl_append]
    exact List.foldl_fixed' (fun _ => rfl) _
  rw [hf]

/-- Steps that fail: at a name that is not bound, at one that a struct does not have, and at
a failure that the scope holds. -/
example :
    let scope : Scope := Struct.scope (.ofList [("a", .struct (.ofList [("b", .error "lost")]))])
    scope.follow "b" ["a"] = .error "identifier not found: b" ∧
      scope.follow "a" ["a", "b"] = .error "struct has no property \"a\"" ∧
      scope.follow "a" ["b", "a"] = .error "lost" :=
  ⟨rfl, rfl, rfl⟩

end StepCondition
