import Mathlib.Data.List.Induction
import Mathlib.Data.List.Sort
import StepCondition.Proofs.Check.Converted

/-!
# The history of a struct

A struct comes about by changes, one after the other (`Struct.ofChanges`): a name is bound,
erased, or bound along with others. Whatever the changes were, the struct answers for a
name what the last change that concerns the name left (`Struct.latest`). Beyond its answers
a struct has nothing to tell: its bindings are the answers in increasing order of the
names, and so is its text.

* `Struct.get?_ofChanges`: the answers of a struct, from its history;
* `Bindings.mem_toList_iff`, `Bindings.pairwise_toList`: its bindings, from its answers;
* `Struct.display_eq`: its text, from its answers.
-/

namespace StepCondition

open Text

/-! ## Bindings as pairs -/

namespace Bindings

variable {α : Type} {bound : Option String}

theorem above_of_mem {r : Bindings α bound} {p : String × α} (h : p ∈ r.toList) :
    Above bound p.1 := by
  induction r with
  | nil => cases h
  | cons name above value rest ih =>
    obtain rfl | h := List.mem_cons.mp h
    · exact above
    · exact above.trans (ih h)

/-- Bindings stand in increasing order of their names. -/
theorem pairwise_toList (r : Bindings α bound) :
    r.toList.Pairwise fun p q => precedes p.1 q.1 = true := by
  induction r with
  | nil => exact .nil
  | cons name above value rest ih => exact .cons (fun _ h => above_of_mem h) ih

/-- The pairs of a record are its answers. -/
theorem mem_toList_iff {r : Bindings α bound} {n : String} {v : α} :
    (n, v) ∈ r.toList ↔ r.get? n = some v := by
  induction r with
  | nil => exact iff_of_false List.not_mem_nil nofun
  | cons name above value rest ih =>
    rw [toList, List.mem_cons, ih, get?, Prod.mk.injEq]
    by_cases hn : n = name
    · subst hn
      have hrest : rest.get? n = none := get?_eq_none rest (not_precedes_self n)
      rw [hrest, if_pos rfl, Option.some.injEq]
      exact ⟨fun h => h.elim (·.2.symm) nofun, fun h => .inl ⟨rfl, h.symm⟩⟩
    · rw [if_neg hn]
      exact or_iff_right fun h => hn h.1

theorem pairwise_names (r : Record α) : r.names.Pairwise fun m n => precedes m n = true :=
  List.pairwise_map.mpr r.pairwise_toList

theorem nodup_names (r : Record α) : r.names.Nodup :=
  r.pairwise_names.imp fun {m n} h hmn => by
    rw [hmn, not_precedes_self] at h
    cases h

theorem mem_names_iff {r : Record α} {n : String} : n ∈ r.names ↔ (r.get? n).isSome = true := by
  rw [names, List.mem_map, Option.isSome_iff_exists]
  constructor
  · rintro ⟨⟨_, v⟩, hp, rfl⟩
    exact ⟨v, mem_toList_iff.mp hp⟩
  · rintro ⟨v, hv⟩
    exact ⟨(n, v), mem_toList_iff.mpr hv, rfl⟩

/-- There is one way to put the names that are bound in increasing order. -/
theorem eq_names {r : Record α} {ns : List String}
    (h : ns.Pairwise fun m n => precedes m n = true)
    (hr : ∀ n, n ∈ ns ↔ (r.get? n).isSome = true) : ns = r.names := by
  have : Std.Irrefl fun m n : String => precedes m n = true :=
    ⟨fun n => by rw [not_precedes_self]; nofun⟩
  have : Std.Antisymm fun m n : String => precedes m n = true := by
    refine ⟨fun m n hmn hnm => ?_⟩
    rw [not_precedes_of_precedes hmn] at hnm
    cases hnm
  exact h.eq_of_mem_iff r.pairwise_names fun n => (hr n).trans mem_names_iff.symm

end Bindings

/-! ## Changes -/

/-- A change of a struct. -/
inductive Change where
  | insert (name : String) (value : Value)
  | erase (name : String)
  /-- Binds further names, one pair after the other. -/
  | merge (pairs : List (String × Value))

namespace Change

/-- The struct after a change. -/
def apply (s : Struct) : Change → Struct
  | insert name value => Bindings.insert s name value
  | erase name => Bindings.erase name s
  | merge pairs => Bindings.merge s pairs

/-- What a change leaves a name bound to, if it concerns the name. -/
def leaves (n : String) : Change → Option (Option Value)
  | insert name value => if n = name then some (some value) else none
  | erase name => if n = name then some none else none
  | merge pairs => (pairs.reverse.find? (·.1 = n)).map fun p => some p.2

/-- A name that a change does not concern keeps its value. -/
theorem get?_apply (s : Struct) (c : Change) (n : String) :
    (c.apply s).get? n = (c.leaves n).getD (s.get? n) := by
  cases c with
  | insert name value =>
    rw [apply, leaves, Bindings.get?_insert]
    split <;> rfl
  | erase name =>
    rw [apply, leaves, Bindings.get?_erase]
    split <;> rfl
  | merge pairs =>
    rw [apply, leaves, Bindings.get?_merge]
    cases pairs.reverse.find? (·.1 = n) <;> rfl

end Change

/-- The struct that some changes make, the first one first. -/
def Struct.ofChanges (changes : List Change) : Struct := changes.foldl Change.apply {}

/-- What the last change that concerns a name left it bound to. -/
def Struct.latest (changes : List Change) (n : String) : Option Value :=
  (changes.reverse.findSome? (·.leaves n)).getD none

/-- A struct answers by the last change that concerns the name. -/
theorem Struct.get?_ofChanges (changes : List Change) (n : String) :
    (ofChanges changes).get? n = latest changes n := by
  induction changes using List.reverseRecOn with
  | nil => rfl
  | append_singleton changes c ih =>
    rw [ofChanges, List.foldl_concat, ← ofChanges, Change.get?_apply, ih, latest, latest,
      List.reverse_concat, List.findSome?_cons]
    cases c.leaves n <;> rfl

/-! ## Text -/

theorem displayFields_eq {bound : Option String} (r : Bindings Value bound) :
    Value.displayFields r = r.toList.map fun p => p.1 ++ ": " ++ p.2.display := by
  induction r with
  | nil => rfl
  | cons name above value rest ih => rw [Value.displayFields, ih, Bindings.toList, List.map_cons]

/-- A binding as it is shown. -/
def Struct.displayAt (s : Struct) (n : String) : String :=
  n ++ ": " ++ ((s.get? n).map Value.display).getD ""

/-- The text of a struct shows what it answers for the names that are bound, in increasing
order of the names. -/
theorem Struct.display_eq {s : Struct} {ns : List String}
    (h : ns.Pairwise fun m n => precedes m n = true)
    (hs : ∀ n, n ∈ ns ↔ (s.get? n).isSome = true) :
    Struct.display s = "\x7b" ++ ", ".intercalate (ns.map s.displayAt) ++ "\x7d" := by
  have hfields : Value.displayFields s = ns.map s.displayAt := by
    rw [displayFields_eq, Bindings.eq_names h hs, Bindings.names, List.map_map]
    refine List.map_congr_left fun p hp => ?_
    rw [Function.comp_apply, displayAt, Bindings.mem_toList_iff.mp hp]
    rfl
  rw [Struct.display, Value.display, hfields]

end StepCondition
