import Mathlib.Data.List.Forall2
import StepCondition.Value

/-!
# Related values

A relation on regular expressions carries over to values that are built alike but for their
regular expressions (`Value.Related`): arrays item by item, structs name by name. Two such
relations matter. Values are equal if their regular expressions have the same text
(`Value.Equal`), which is what the comparison of values decides. They are alike if these are,
moreover, found in the same texts (`Value.Alike`), which no comparison tells.

* `Value.induction`, `Value.Related.induction`: induction over the items of arrays and the
  values of structs;
* `Value.same_iff_equal`: the comparison decides equality;
* `Value.alike_of_same`: where every regular expression is what its text spells by itself, it
  decides whether values are alike as well.
-/

namespace StepCondition

/-! ## Lists and answers -/

theorem forall₂_imp_of_mem {α β : Type} {R S : α → β → Prop} {vs : List α} {ws : List β}
    (h : List.Forall₂ R vs ws) (himp : ∀ v ∈ vs, ∀ w ∈ ws, R v w → S v w) :
    List.Forall₂ S vs ws := by
  induction h with
  | nil => exact .nil
  | cons h _ ih =>
    refine .cons (himp _ List.mem_cons_self _ List.mem_cons_self h) (ih fun v hv w hw => ?_)
    exact himp v (List.mem_cons_of_mem _ hv) w (List.mem_cons_of_mem _ hw)

theorem eq_of_forall₂ {α : Type} {R : α → α → Prop} {vs ws : List α} (h : List.Forall₂ R vs ws)
    (heq : ∀ v w, R v w → v = w) : vs = ws := by
  have h := h.imp heq
  rwa [List.forall₂_eq_eq_eq] at h

theorem rel_imp_of_eq_some {α β : Type} {R S : α → β → Prop} {a : Option α} {b : Option β}
    (h : Option.Rel R a b) (himp : ∀ v, a = some v → ∀ w, b = some w → R v w → S v w) :
    Option.Rel S a b := by
  cases h with
  | none => exact .none
  | some h => exact .some (himp _ rfl _ rfl h)

namespace Value

/-- Induction over values: what holds of the items of an array holds of the array, and what
holds of the values in a struct holds of the struct. -/
@[elab_as_elim, induction_eliminator]
theorem induction {motive : Value → Prop} (null : motive .null)
    (boolean : ∀ b, motive (.boolean b)) (integer : ∀ n, motive (.integer n))
    (string : ∀ text, motive (.string text)) (regexp : ∀ p, motive (.regexp p))
    (array : ∀ items, (∀ v ∈ items, motive v) → motive (.array items))
    (struct : ∀ fields : Struct, (∀ n v, fields.get? n = some v → motive v) →
      motive (.struct fields))
    (function : ∀ f, motive (.function f)) (error : ∀ message, motive (.error message)) :
    ∀ v, motive v :=
  @Value.rec motive (fun items => ∀ v ∈ items, motive v)
    (fun _ fields => ∀ n v, fields.get? n = some v → motive v)
    null boolean integer string regexp array struct function error
    (fun _ h => absurd h List.not_mem_nil)
    (fun _ _ hv hvs => List.forall_mem_cons.mpr ⟨hv, hvs⟩)
    (fun _ _ h => nomatch h)
    (fun name _ v rest hv hrest n w h => by
      rw [Bindings.get?] at h
      split at h
      · exact Option.some.inj h ▸ hv
      · exact hrest n w h)

/-! ## The regular expressions in a value -/

mutual

/-- The regular expressions in a value, at any depth. -/
def patterns : Value → List Pattern
  | regexp p => [p]
  | array items => patternsAll items
  | struct fields => patternsIn fields
  | null | boolean _ | integer _ | string _ | function _ | error _ => []

/-- The regular expressions in some values. -/
def patternsAll : List Value → List Pattern
  | [] => []
  | v :: vs => v.patterns ++ patternsAll vs

/-- The regular expressions in the values of some bindings. -/
def patternsIn {bound : Option String} : Bindings Value bound → List Pattern
  | .nil => []
  | .cons _ _ v rest => v.patterns ++ patternsIn rest

end

theorem mem_patternsAll {p : Pattern} {v : Value} (hp : p ∈ v.patterns) :
    {vs : List Value} → v ∈ vs → p ∈ patternsAll vs
  | w :: ws, h => by
    obtain rfl | h := List.mem_cons.mp h
    · exact List.mem_append_left _ hp
    · exact List.mem_append_right _ (mem_patternsAll hp h)

theorem mem_patternsIn {p : Pattern} {v : Value} (hp : p ∈ v.patterns) {n : String}
    {bound : Option String} : {r : Bindings Value bound} → r.get? n = some v → p ∈ patternsIn r
  | .cons name _ w rest, h => by
    rw [Bindings.get?] at h
    split at h
    · cases h
      exact List.mem_append_left _ hp
    · exact List.mem_append_right _ (mem_patternsIn hp h)

/-! ## Relations -/

/-- Values built alike from regular expressions that are related. -/
inductive Related (P : Pattern → Pattern → Prop) : Value → Value → Prop where
  | null : Related P .null .null
  | boolean (b : Bool) : Related P (.boolean b) (.boolean b)
  | integer (n : Int64) : Related P (.integer n) (.integer n)
  | string (text : String) : Related P (.string text) (.string text)
  | regexp {p q : Pattern} (h : P p q) : Related P (.regexp p) (.regexp q)
  | array {vs ws : List Value} (h : List.Forall₂ (Related P) vs ws) :
    Related P (.array vs) (.array ws)
  | struct {r s : Struct} (h : ∀ n, Option.Rel (Related P) (r.get? n) (s.get? n)) :
    Related P (.struct r) (.struct s)
  | function (f : Function) : Related P (.function f) (.function f)
  | error (message : String) : Related P (.error message) (.error message)

variable {P Q : Pattern → Pattern → Prop} {u v w : Value}

theorem related_self (hP : ∀ p, P p p) (v : Value) : v.Related P v := by
  induction v with
  | regexp p => exact .regexp (hP p)
  | array vs ih => exact .array (List.forall₂_same.mpr ih)
  | struct r ih => exact .struct fun n => Bindings.rel_self (ih n)
  | _ => constructor

/-- It is enough to compare the regular expressions that occur. -/
theorem Related.imp_of_mem (h : v.Related P w)
    (himp : ∀ p ∈ v.patterns, ∀ q ∈ w.patterns, P p q → Q p q) : v.Related Q w := by
  induction v generalizing w with
  | regexp p =>
    cases h with
    | regexp h => exact .regexp (himp _ (List.mem_singleton_self _) _ (List.mem_singleton_self _) h)
  | array vs ih =>
    cases h with
    | array h =>
      refine .array (forall₂_imp_of_mem h fun v hv w hw hvw => ih v hv hvw fun p hp q hq => ?_)
      exact himp p (mem_patternsAll hp hv) q (mem_patternsAll hq hw)
  | struct r ih =>
    cases h with
    | struct h =>
      refine .struct fun n => rel_imp_of_eq_some (h n) fun v hv w hw hvw => ?_
      refine ih n v hv hvw fun p hp q hq => ?_
      exact himp p (mem_patternsIn hp hv) q (mem_patternsIn hq hw)
  | _ =>
    cases h
    constructor

theorem Related.imp (h : v.Related P w) (himp : ∀ p q, P p q → Q p q) : v.Related Q w :=
  h.imp_of_mem fun p _ q _ => himp p q

/-- Induction over related values, for what every value is to itself. -/
theorem Related.induction {motive : Value → Value → Prop} (self : ∀ v, motive v v)
    (regexp : ∀ {p q}, P p q → motive (.regexp p) (.regexp q))
    (array : ∀ {vs ws}, List.Forall₂ motive vs ws → motive (.array vs) (.array ws))
    (struct : ∀ {r s : Struct}, Bindings.Rel motive r s → motive (.struct r) (.struct s))
    (h : v.Related P w) : motive v w := by
  induction v generalizing w with
  | regexp p =>
    cases h with
    | regexp h => exact regexp h
  | array vs ih =>
    cases h with
    | array h => exact array (forall₂_imp_of_mem h fun v hv w _ => ih v hv)
  | struct r ih =>
    cases h with
    | struct h =>
      refine struct (Bindings.rel_of_get? fun n => ?_)
      exact rel_imp_of_eq_some (h n) fun v hv w _ => ih n v hv
  | _ =>
    cases h
    exact self _

/-- Values built alike from the same regular expressions are the same. -/
theorem Related.eq (h : v.Related Eq w) : v = w := by
  refine Related.induction (fun _ => rfl) (fun hp => ?_) (fun hvs => ?_) (fun hr => ?_) h
  · rw [hp]
  · rw [eq_of_forall₂ hvs fun _ _ => id]
  · rw [hr.eq]

theorem Related.kind_eq (h : v.Related P w) : v.kind = w.kind := by cases h <;> rfl

theorem Related.isTruthy_eq (h : v.Related P w) : v.isTruthy = w.isTruthy := by cases h <;> rfl

/-! ## Equality -/

/-- Equal values: regular expressions are equal if they have the same text. -/
abbrev Equal : Value → Value → Prop := Related fun p q => p.source = q.source

theorem sameItems_iff {vs ws : List Value} :
    sameItems vs ws = true ↔ List.Forall₂ (fun v w => v.same w = true) vs ws := by
  induction vs generalizing ws with
  | nil => cases ws <;> simp [sameItems]
  | cons v vs ih => cases ws <;> simp [sameItems, ih]

theorem sameFields_iff {bound : Option String} {r s : Bindings Value bound} :
    sameFields r s = true ↔ Bindings.Rel (fun v w => v.same w = true) r s := by
  constructor
  · intro h
    induction r with
    | nil =>
      cases s with
      | nil => exact .nil
      | cons => cases h
    | cons name above v r ih =>
      cases s with
      | nil => cases h
      | cons name' above' w s =>
        simp only [sameFields, Bool.and_eq_true, beq_iff_eq] at h
        obtain ⟨⟨rfl, hv⟩, hr⟩ := h
        exact .cons hv (ih hr)
  · intro h
    induction h with
    | nil => rfl
    | cons hv _ ih => simp [sameFields, hv, ih]

theorem equal_of_same (h : v.same w = true) : v.Equal w := by
  induction v generalizing w with
  | regexp p =>
    cases w with
    | regexp q => exact .regexp (beq_iff_eq.mp h)
    | _ => cases h
  | array vs ih =>
    cases w with
    | array ws => exact .array (forall₂_imp_of_mem (sameItems_iff.mp h) fun v hv w _ => ih v hv)
    | _ => cases h
  | struct r ih =>
    cases w with
    | struct s =>
      refine .struct fun n => ?_
      exact rel_imp_of_eq_some ((sameFields_iff.mp h).get? n) fun v hv w _ => ih n v hv
    | _ => cases h
  | null =>
    cases w with
    | null => exact .null
    | _ => cases h
  | _ =>
    cases w <;> simp only [same, beq_iff_eq, Bool.false_eq_true] at h
    subst h
    constructor

theorem same_of_equal (h : v.Equal w) : v.same w = true :=
  Related.induction same_self beq_iff_eq.mpr sameItems_iff.mpr sameFields_iff.mpr h

/-- The comparison of values decides equality. -/
theorem same_iff_equal : v.same w = true ↔ v.Equal w := ⟨equal_of_same, same_of_equal⟩

/-! ## What equal values have in common -/

theorem sameItems_congr {vs ws : List Value}
    (h : List.Forall₂ (fun v w => ∀ u : Value, v.same u = w.same u) vs ws) (us : List Value) :
    sameItems vs us = sameItems ws us := by
  induction h generalizing us with
  | nil => rfl
  | cons h _ ih => cases us <;> simp [sameItems, h, ih]

theorem sameFields_congr {bound bound' : Option String} {r s : Bindings Value bound}
    (h : Bindings.Rel (fun v w => ∀ u : Value, v.same u = w.same u) r s)
    (t : Bindings Value bound') : sameFields r t = sameFields s t := by
  induction h generalizing bound' t with
  | nil => rfl
  | cons h _ ih => cases t <;> simp [sameFields, h, ih]

/-- Equal values compare alike with any other. -/
theorem Equal.same_eq (h : v.Equal w) : ∀ u : Value, v.same u = w.same u := by
  refine Related.induction (motive := fun v w => ∀ u : Value, v.same u = w.same u)
    (fun _ _ => rfl) (fun hp u => ?_) (fun hvs u => ?_) (fun hr u => ?_) h
  · cases u <;> simp [same, hp]
  · cases u with
    | array us => exact sameItems_congr hvs us
    | _ => rfl
  · cases u with
    | struct t => exact sameFields_congr hr t
    | _ => rfl

theorem same_symm (h : v.same w = true) : w.same v = true :=
  ((equal_of_same h).same_eq v).symm.trans (same_self v)

theorem same_comm (v w : Value) : v.same w = w.same v :=
  Bool.eq_iff_iff.mpr ⟨same_symm, same_symm⟩

theorem Equal.same_eq_same {v' w' : Value} (h : v.Equal w) (h' : v'.Equal w') :
    v.same v' = w.same w' := by rw [h.same_eq, same_comm, h'.same_eq, same_comm]

theorem equivalence_same : Equivalence fun v w : Value => v.same w = true where
  refl := same_self
  symm := same_symm
  trans h h' := ((equal_of_same h).same_eq _).trans h'

theorem displayItems_congr {vs ws : List Value}
    (h : List.Forall₂ (fun v w => v.display = w.display) vs ws) :
    displayItems vs = displayItems ws := by
  induction h with
  | nil => rfl
  | cons h _ ih => rw [displayItems, displayItems, h, ih]

theorem displayFields_congr {bound : Option String} {r s : Bindings Value bound}
    (h : Bindings.Rel (fun v w => v.display = w.display) r s) :
    displayFields r = displayFields s := by
  induction h with
  | nil => rfl
  | cons h _ ih => rw [displayFields, displayFields, h, ih]

/-- Equal values are shown alike. -/
theorem Equal.display_eq (h : v.Equal w) : v.display = w.display := by
  refine Related.induction (motive := fun v w => v.display = w.display)
    (fun _ => rfl) (fun hp => ?_) (fun hvs => ?_) (fun hr => ?_) h
  · rw [display, display, hp]
  · rw [display, display, displayItems_congr hvs]
  · rw [display, display, displayFields_congr hr]

end Value

/-! ## Alike values -/

/-- Regular expressions with one text that are found in the same texts. -/
structure Pattern.Alike (p q : Pattern) : Prop where
  source : p.source = q.source
  isMatch : ∀ text, p.isMatch text = q.isMatch text

/-- Alike values: equal, where the regular expressions in one are found in the same texts as
those in the other. -/
abbrev Value.Alike : Value → Value → Prop := Value.Related Pattern.Alike

theorem Value.Alike.equal {v w : Value} (h : v.Alike w) : v.Equal w := h.imp fun _ _ h => h.source

/-- Equal values are alike if each of their regular expressions is the one that its text
spells by itself. -/
theorem Value.alike_of_same {v w : Value} (h : v.same w = true)
    (hv : ∀ p ∈ v.patterns, Pattern.compile p.source = .ok p)
    (hw : ∀ q ∈ w.patterns, Pattern.compile q.source = .ok q) : v.Alike w := by
  refine (equal_of_same h).imp_of_mem fun p hp q hq hpq => ?_
  have hcompile := hv p hp
  rw [hpq, hw q hq] at hcompile
  cases hcompile
  exact ⟨rfl, fun _ => rfl⟩

end StepCondition
