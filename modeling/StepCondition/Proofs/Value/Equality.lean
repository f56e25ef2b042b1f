import Mathlib.Data.Option.Basic
import StepCondition.Proofs.Evaluation.Paths
import StepCondition.Proofs.Struct.History
import StepCondition.Proofs.Value.Relation

/-!
# Equality of values

What it means for two values to be equal is told kind by kind (`Value.Equal`): arrays item
by item, structs name by name, regular expressions by their text and functions by their
identity. Values of different kinds are never equal. There is one comparison of values
(`Value.same`), it decides this relation (`Value.same_iff_equal`), and conditions compare by
it.

* `Struct.same_eq`: two structs may as well be compared by size and look-up;
* `Setting.finds_between`: a condition that compares what two names are bound to;
* `value_equality`: equality and what follows from it, for values and in conditions.
-/

namespace StepCondition

/-! ## Structs -/

theorem Struct.same_iff_get? {r s : Struct} :
    (Value.struct r).same (.struct s) = true ↔
      ∀ n, Option.Rel Value.Equal (r.get? n) (s.get? n) := by
  rw [Value.same_iff_equal]
  constructor
  · rintro ⟨⟩
    assumption
  · exact .struct

/-- A struct that has a value for every name of another one, and no more names, has no
other names. -/
theorem Bindings.get?_isSome_of_size_eq {α : Type} {r s : Record α} (hsize : r.size = s.size)
    (h : ∀ n, (r.get? n).isSome = true → (s.get? n).isSome = true) {n : String}
    (hn : (s.get? n).isSome = true) : (r.get? n).isSome = true := by
  have hsub : r.names ⊆ s.names := fun n hn => mem_names_iff.mpr (h n (mem_names_iff.mp hn))
  have hlength : s.names.length ≤ r.names.length := by
    rw [names, names, List.length_map, List.length_map]
    exact hsize.ge
  have hperm := (List.subperm_of_subset r.nodup_names hsub).perm_of_length_le hlength
  exact mem_names_iff.mp (hperm.mem_iff.mpr (mem_names_iff.mpr hn))

/-- Two structs are the same if there are as many bindings in one as in the other, and each
of the one is found in the other. -/
theorem Struct.same_eq (r s : Struct) :
    (Value.struct r).same (.struct s) =
      (Bindings.size r == Bindings.size s &&
        r.toList.all fun p => (s.get? p.1).any p.2.same) := by
  rw [Bool.eq_iff_iff, Struct.same_iff_get?, Bool.and_eq_true, beq_iff_eq, List.all_eq_true]
  constructor
  · intro h
    refine ⟨(Bindings.rel_of_get? h).length_toList, fun p hp => ?_⟩
    have hfound := h p.1
    rw [Bindings.mem_toList_iff.mp hp] at hfound
    generalize s.get? p.1 = found at hfound
    cases hfound with
    | some h => exact Value.same_of_equal h
  · rintro ⟨hsize, hall⟩
    have hfound : ∀ n v, r.get? n = some v → ∃ w, s.get? n = some w ∧ v.same w = true := by
      intro n v hv
      exact (Option.any_eq_true _ _).mp (hall (n, v) (Bindings.mem_toList_iff.mpr hv))
    have hnames : ∀ n, (r.get? n).isSome = true → (s.get? n).isSome = true := by
      intro n hn
      obtain ⟨v, hv⟩ := Option.isSome_iff_exists.mp hn
      obtain ⟨w, hw, -⟩ := hfound n v hv
      rw [hw]
      rfl
    intro n
    cases hr : r.get? n with
    | some v =>
      obtain ⟨w, hw, hvw⟩ := hfound n v hr
      rw [hw]
      exact .some (Value.equal_of_same hvw)
    | none =>
      have hs : s.get? n = none := Option.not_isSome_iff_eq_none.mp fun hs => by
        have := Bindings.get?_isSome_of_size_eq hsize hnames hs
        rw [hr] at this
        cases this
      rw [hs]
      exact .none

/-! ## In conditions -/

/-- Two names with an operator between them. -/
def BinaryOp.between (op : BinaryOp) (x y : String) : String :=
  x ++ " " ++ String.ofList op.symbol ++ " " ++ y

theorem tokens_between (op : BinaryOp) {x y : String} (hx : IsName x) (hy : IsName y) :
    tokens (op.between x y).toList = [.identifier x, op.token, .identifier y] := by
  have hleft := tokens_written (t := .identifier x) hx
    (endsName_cons (by decide) (op.symbol ++ ' ' :: y.toList) : EndsName (' ' :: _))
  have hright := tokens_written (t := .identifier y) hy (nofun : Token.EndsAt _ [])
  rw [List.append_nil, tokens_nil] at hright
  have htext : (op.between x y).toList = x.toList ++ ' ' :: (op.symbol ++ ' ' :: y.toList) := by
    simp [BinaryOp.between]
  rw [htext]
  refine hleft.trans (congrArg _ ?_)
  rw [tokens_space, tokens_symbol, tokens_space]
  exact congrArg _ hright

/-- An operator between two names is a condition. -/
theorem parse_between (op : BinaryOp) {x y : String} (hx : IsName x) (hy : IsName y) :
    parse (op.between x y) = .ok (.binary op (.identifier x) (.identifier y)) := by
  obtain ⟨g, c, hc⟩ := Derivation.exists_joins op (.identifier x) (by cases op <;> decide)
    (.identifier y) (by cases op <;> decide)
  obtain ⟨d, hd⟩ := c.exists_or
  have ht : d.tokens = tokens (op.between x y).toList := by
    rw [hd.tokens, hc.tokens, tokens_between op hx hy]
    rfl
  have hn : d.nesting ≤ maxDepth := by
    rw [hd.nesting, hc.nesting]
    change max 1 (0 + 2 + 1) ≤ maxDepth
    decide
  rw [parse_derivation ht, if_pos hn, hd.tree, hc.tree]
  rfl

namespace Setting

variable {setting : Setting}

/-- A name that is bound to no failure has its value, where the limit permits it. -/
theorem eval_identifier_of_scope {name : String} {v : Value} (h : setting.scope name = some v)
    (hv : v.isError = false) {s : Evaluator} (hs : setting.Admits s) :
    setting.eval (.identifier name) s = (.ok v, s) := by
  obtain ⟨r, hr, hy⟩ := setting.finds_identifier name s hs
  rw [h, Option.getD_some] at hy
  cases hy with
  | value => exact hr
  | failure error => cases hv

/-- An operator compares the values of two names. -/
theorem finds_between (op : BinaryOp) {x y : String} {v w : Value}
    (hx : setting.scope x = some v) (hv : v.isError = false)
    (hy : setting.scope y = some w) (hw : w.isError = false) {compare : Value → Bool}
    (hop : ∀ tree right, op.apply v tree right =
      right >>= fun w => settled (.ok (.boolean (compare w)))) :
    setting.Finds 2 (.binary op (.identifier x) (.identifier y)) (.boolean (compare w)) := by
  intro s hs
  have hdeep : setting.Admits s.deeper := hs
  refine ⟨.ok (.boolean (compare w)), ?_, .value rfl⟩
  rw [eval_binary, setting.nested_apply _ fun limit hl => Nat.lt_of_succ_lt (hs limit hl),
    bind_apply_ok (eval_identifier_of_scope hx hv hdeep), hop,
    bind_apply_ok (eval_identifier_of_scope hy hw hdeep)]
  rfl

/-- The text of a condition has a truth value, and no function is called for it. -/
def Answers (setting : Setting) (before : List Call) (text : String) (b : Bool) : Prop :=
  ∃ e, parse text = .ok e ∧ setting.evaluate e before = (.boolean b, { calls := before })

end Setting

/-- There is one equality of values. It is an equivalence, which tells values apart kind by
kind: structs by what they bind each name to, whatever changes they came about by, or, as
well, by their number of bindings and look-up. Equal values have the same kind, the same
truth and the same text, in which the names of a struct stand in increasing order. In a
condition, two names with `==` between them ask whether their values are equal, with `!=`
whether they are not, and with `@>` whether some item on the left equals the value on the
right. -/
theorem value_equality :
    (Equivalence fun v w : Value => v.same w = true) ∧
    (∀ v w : Value, v.same w = true ↔ v.Equal w) ∧
    (∀ changes changes' : List Change,
      (Value.struct (Struct.ofChanges changes)).same (.struct (Struct.ofChanges changes')) = true ↔
        ∀ n, Option.Rel Value.Equal (Struct.latest changes n) (Struct.latest changes' n)) ∧
    (∀ r s : Struct, (Value.struct r).same (.struct s) =
      (Bindings.size r == Bindings.size s &&
        r.toList.all fun p => (s.get? p.1).any p.2.same)) ∧
    (∀ v w : Value, v.same w = true →
      v.kind = w.kind ∧ v.isTruthy = w.isTruthy ∧ v.display = w.display) ∧
    (∀ (s : Struct) (ns : List String), ns.Pairwise (fun m n => Text.precedes m n = true) →
      (∀ n, n ∈ ns ↔ (s.get? n).isSome = true) →
      (Value.struct s).display = "\x7b" ++ ", ".intercalate (ns.map s.displayAt) ++ "\x7d") ∧
    (∀ (x y a : String) (scope : Scope) (host : Host) (before : List Call) (v w : Value)
      (vs : List Value), IsName x → IsName y → IsName a →
      scope x = some v → v.isError = false → scope y = some w → w.isError = false →
      scope a = some (.array vs) →
      let setting : Setting := { scope, host }
      setting.Answers before (BinaryOp.equal.between x y) (v.same w) ∧
        setting.Answers before (BinaryOp.notEqual.between x y) (!v.same w) ∧
        setting.Answers before (BinaryOp.contains.between a y) (vs.any (·.same w))) := by
  refine ⟨Value.equivalence_same, fun v w => Value.same_iff_equal, fun changes changes' => ?_,
    Struct.same_eq, fun v w h => ?_, fun s ns => Struct.display_eq, ?_⟩
  · rw [Struct.same_iff_get?]
    simp only [Struct.get?_ofChanges]
  · have h := Value.equal_of_same h
    exact ⟨h.kind_eq, h.isTruthy_eq, h.display_eq⟩
  · intro x y a scope host before v w vs hnx hny hna hx hv hy hw ha setting
    have hlimit : ∀ limit ∈ setting.limit, 2 ≤ limit := by
      rintro _ ⟨⟩
      decide
    refine ⟨⟨_, parse_between .equal hnx hny, ?_⟩, ⟨_, parse_between .notEqual hnx hny, ?_⟩,
      ⟨_, parse_between .contains hna hny, ?_⟩⟩
    · exact (Setting.finds_between .equal hx hv hy hw fun _ _ => rfl).evaluate hlimit before
    · exact (Setting.finds_between .notEqual hx hv hy hw fun _ _ => rfl).evaluate hlimit before
    · exact (Setting.finds_between .contains ha rfl hy hw fun _ _ => rfl).evaluate hlimit before

/-- Two structs that came about by different changes, and an array that holds one of them. -/
theorem value_equality_changes :
    let r := Struct.ofChanges [.insert "m" (.integer 1), .insert "n" (.array [.null])]
    let s := Struct.ofChanges [.merge [("n", .array [.null]), ("k", .null)],
      .insert "m" (.string "1"), .erase "k", .insert "m" (.integer 1)]
    let scope : Scope := Struct.scope (.ofList
      [("x", .struct r), ("y", .struct s), ("a", .array [.null, .struct r])])
    let setting : Setting := { scope }
    (Value.struct r).display = (Value.struct s).display ∧
      (Value.struct s).display = "\x7bm: 1, n: [null]\x7d" ∧
      setting.Answers [] "x == y" true ∧
      setting.Answers [] "x != y" false ∧
      setting.Answers [] "a @> y" true := by
  intro r s scope setting
  obtain ⟨-, -, -, -, hequal, hdisplay, hoperators⟩ := value_equality
  have hsame : (Value.struct r).same (.struct s) = true := by decide +kernel
  have hnames : Bindings.names s = ["m", "n"] := by decide +kernel
  have hbound : ∀ n, n ∈ ["m", "n"] ↔ (s.get? n).isSome = true := fun n =>
    hnames ▸ Bindings.mem_names_iff
  have htext := hdisplay s ["m", "n"] (by decide) hbound
  refine ⟨(hequal _ _ hsame).2.2, htext.trans (by decide +kernel), ?_⟩
  exact hoperators "x" "y" "a" scope noHost [] (.struct r) (.struct s) [.null, .struct r]
    (by decide) (by decide) (by decide) (Bindings.get?_merge ..) rfl (Bindings.get?_merge ..) rfl
    (Bindings.get?_merge ..)

end StepCondition
