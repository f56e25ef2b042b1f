import StepCondition.Text.Order

/-!
# Records

A record binds names to values, each name once. Its bindings stand in increasing
order of their names, by code points, and that order is part of the type: every
binding carries a proof that its name comes after the one before
(`Bindings.cons`). So two records with the same bindings are equal however they
were built.

* `get?_insert`, `get?_erase`: what a record answers after a change.
* `rel_of_get?`, `eq_of_get?`: a record is determined by its answers.
-/

namespace StepCondition

open Text

/-- The name comes after the bound, which is absent at the start of a record. -/
def Above : Option String → String → Prop
  | none, _ => True
  | some bound, name => precedes bound name = true

theorem Above.trans {bound : Option String} {m n : String} (h : Above bound m)
    (hmn : precedes m n = true) : Above bound n := by
  cases bound with
  | none => trivial
  | some b => exact precedes_trans h hmn

/-- Bindings in increasing order of names, all of which come after a bound. -/
inductive Bindings (α : Type) : Option String → Type where
  | nil {bound : Option String} : Bindings α bound
  | cons {bound : Option String} (name : String) (above : Above bound name) (value : α)
      (rest : Bindings α (some name)) : Bindings α bound

/-- A finite map from names to values. -/
abbrev Record (α : Type) := Bindings α none

namespace Bindings

variable {α : Type}

instance {bound : Option String} : EmptyCollection (Bindings α bound) := ⟨nil⟩

instance {bound : Option String} : Inhabited (Bindings α bound) := ⟨nil⟩

/-- The bindings as pairs, in increasing order of names. -/
def toList {bound : Option String} : Bindings α bound → List (String × α)
  | nil => []
  | cons name _ value rest => (name, value) :: rest.toList

/-- The value that a name is bound to. -/
def get? {bound : Option String} : Bindings α bound → String → Option α
  | nil, _ => none
  | cons name _ value rest, n => if n = name then some value else rest.get? n

/-- The same bindings under a lower bound. -/
def lower {bound : Option String} {name : String} (h : Above bound name) :
    Bindings α (some name) → Bindings α bound
  | nil => nil
  | cons n above value rest => cons n (h.trans above) value rest

/-- Binds a name above the bound, in place of what it was bound to. -/
def insertAbove {bound : Option String} (n : String) (v : α) :
    Above bound n → Bindings α bound → Bindings α bound
  | h, nil => cons n h v nil
  | h, cons name above value rest =>
    match hlt : precedes n name with
    | true => cons n h v (cons name hlt value rest)
    | false =>
      if heq : n = name then cons name above v rest
      else cons name above value (rest.insertAbove n v (precedes_of_not_precedes hlt heq))

/-- The bindings but for that of a name. -/
def erase {bound : Option String} (n : String) : Bindings α bound → Bindings α bound
  | nil => nil
  | cons name above value rest =>
    if n = name then rest.lower above else cons name above value (rest.erase n)

/-- What a name is bound to, and the record without it. -/
def remove (r : Record α) (n : String) : Option α × Record α := (r.get? n, r.erase n)

/-- The record with a name bound to a value, in place of what it was bound to. -/
def insert (r : Record α) (n : String) (v : α) : Record α := r.insertAbove n v trivial

/-- The record with further names bound, the last binding of a name in effect. -/
def merge (r : Record α) (pairs : List (String × α)) : Record α :=
  pairs.foldl (fun r p => r.insert p.1 p.2) r

/-- The record of a list of bindings, the last binding of a name in effect. -/
def ofList (pairs : List (String × α)) : Record α := merge nil pairs

/-- The names that are bound, in increasing order. -/
def names (r : Record α) : List String := r.toList.map Prod.fst

/-- The number of names that are bound. -/
def size (r : Record α) : Nat := r.toList.length

/-- Whether no name is bound. -/
def isEmpty (r : Record α) : Bool := r.toList.isEmpty

/-- Whether a name is bound. -/
def contains (r : Record α) (n : String) : Bool := (r.get? n).isSome

/-! ## Answers after a change -/

theorem get?_eq_none_of_above {bound : Option String} (r : Bindings α bound) {n : String}
    (h : ∀ b, bound = some b → precedes b n = false) (hb : bound ≠ none) : r.get? n = none := by
  induction r with
  | nil => rfl
  | @cons bound name above value rest ih =>
    obtain ⟨b, rfl⟩ := Option.ne_none_iff_exists'.mp hb
    have hn : precedes name n = false := Bool.eq_false_iff.mpr fun hlt =>
      Bool.eq_false_iff.mp (h b rfl) (precedes_trans above hlt)
    have hne : n ≠ name := fun e => Bool.eq_false_iff.mp (h b rfl) (e ▸ above)
    rw [get?, if_neg hne]
    exact ih (fun b' e => Option.some.inj e ▸ hn) (by simp)

/-- A name that the bound does not come before has no binding. -/
theorem get?_eq_none {b n : String} (r : Bindings α (some b)) (h : precedes b n = false) :
    r.get? n = none :=
  get?_eq_none_of_above r (fun _ e => Option.some.inj e ▸ h) (Option.some_ne_none b)

@[simp]
theorem get?_lower {bound : Option String} {name : String} (h : Above bound name)
    (r : Bindings α (some name)) (n : String) : (r.lower h).get? n = r.get? n := by
  cases r <;> rfl

theorem get?_insertAbove {bound : Option String} (n : String) (v : α) (h : Above bound n)
    (r : Bindings α bound) (m : String) :
    (r.insertAbove n v h).get? m = if m = n then some v else r.get? m := by
  induction r with
  | nil => rfl
  | cons name above value rest ih =>
    rw [insertAbove]
    split
    · rfl
    split
    · next heq =>
      subst heq
      simp only [get?]
      split <;> rfl
    · next heq =>
      simp only [get?]
      by_cases hm : m = name
      · subst hm
        simp [Ne.symm heq]
      · simp only [if_neg hm]
        exact ih _

/-- After a binding, its name has the new value and every other name its old
one. -/
@[simp]
theorem get?_insert (r : Record α) (n : String) (v : α) (m : String) :
    (r.insert n v).get? m = if m = n then some v else r.get? m :=
  get?_insertAbove n v (show Above none n from trivial) r m

/-- After a name is erased, it is unbound and every other name has its old
value. -/
@[simp]
theorem get?_erase {bound : Option String} (r : Bindings α bound) (n m : String) :
    (r.erase n).get? m = if m = n then none else r.get? m := by
  induction r with
  | nil => simp [erase, get?]
  | cons name above value rest ih =>
    rw [erase]
    split
    · next heq =>
      subst heq
      by_cases hm : m = n
      · subst hm
        simpa using get?_eq_none rest (not_precedes_self m)
      · simp [get?, hm]
    · next hne =>
      simp only [get?, ih]
      by_cases hm : m = name
      · subst hm
        simp [Ne.symm hne]
      · simp [hm]

/-! ## A record is determined by its answers -/

theorem rel_self {R : α → α → Prop} {a : Option α} (h : ∀ v, a = some v → R v v) :
    Option.Rel R a a := by
  cases a with
  | none => exact .none
  | some v => exact .some (h v rfl)

/-- Bindings of the same names to related values. -/
inductive Rel {β : Type} (R : α → β → Prop) :
    {bound : Option String} → Bindings α bound → Bindings β bound → Prop where
  | nil {bound : Option String} : Rel R (nil : Bindings α bound) nil
  | cons {bound : Option String} {name : String} {above : Above bound name} {v : α} {w : β}
    {r : Bindings α (some name)} {s : Bindings β (some name)} (h : R v w) (hrest : Rel R r s) :
    Rel R (cons name above v r) (cons name above w s)

theorem Rel.get? {β : Type} {R : α → β → Prop} {bound : Option String} {r : Bindings α bound}
    {s : Bindings β bound} (h : Rel R r s) (n : String) :
    Option.Rel R (r.get? n) (s.get? n) := by
  induction h with
  | nil => exact .none
  | cons h _ ih =>
    simp only [Bindings.get?]
    split
    · exact .some h
    · exact ih

theorem Rel.length_toList {β : Type} {R : α → β → Prop} {bound : Option String}
    {r : Bindings α bound} {s : Bindings β bound} (h : Rel R r s) :
    r.toList.length = s.toList.length := by
  induction h with
  | nil => rfl
  | cons _ _ ih => exact congrArg (· + 1) ih

/-- A record that answers for the same names as another one has the same first name. -/
theorem exists_cons_of_isSome {β : Type} {bound : Option String} {name : String}
    {above : Above bound name} {v : α} {r : Bindings α (some name)} {s : Bindings β bound}
    (h : ∀ n, ((cons name above v r).get? n).isSome = (s.get? n).isSome) :
    ∃ w rest, s = cons name above w rest := by
  cases s with
  | nil => simpa [get?] using h name
  | cons name' above' w rest =>
    have hname : name = name' := by
      refine Decidable.byContradiction fun hne => ?_
      cases hlt : precedes name name' with
      | true =>
        have h1 := h name
        have h2 : rest.get? name = none := get?_eq_none rest <| Bool.eq_false_iff.mpr fun hb =>
          Bool.eq_false_iff.mp (not_precedes_self name) (precedes_trans hlt hb)
        simp [get?, hne, h2] at h1
      | false =>
        have h1 := h name'
        have h2 : r.get? name' = none := get?_eq_none r hlt
        simp [get?, Ne.symm hne, h2] at h1
    subst hname
    exact ⟨w, rest, rfl⟩

/-- Records whose answers are related are related binding by binding. -/
theorem rel_of_get? {β : Type} {R : α → β → Prop} {bound : Option String} {r : Bindings α bound}
    {s : Bindings β bound} (h : ∀ n, Option.Rel R (r.get? n) (s.get? n)) : Rel R r s := by
  have isSome_eq {a : Option α} {b : Option β} (hab : Option.Rel R a b) : a.isSome = b.isSome := by
    cases hab <;> rfl
  induction r with
  | nil =>
    cases s with
    | nil => exact .nil
    | cons name above w rest => simpa [get?] using isSome_eq (h name)
  | cons name above v rest ih =>
    obtain ⟨w, rest', rfl⟩ := exists_cons_of_isSome fun n => isSome_eq (h n)
    have hv : R v w := by simpa [get?] using h name
    refine .cons hv (ih fun n => ?_)
    by_cases hn : n = name
    · subst hn
      rw [get?_eq_none rest (not_precedes_self n), get?_eq_none rest' (not_precedes_self n)]
      exact .none
    · simpa [get?, hn] using h n

theorem Rel.eq {bound : Option String} {r s : Bindings α bound} (h : Rel Eq r s) : r = s := by
  induction h with
  | nil => rfl
  | cons h _ ih => rw [h, ih]

theorem eq_of_get? {bound : Option String} {r s : Bindings α bound}
    (h : ∀ n, r.get? n = s.get? n) : r = s := by
  refine (rel_of_get? fun n => ?_).eq
  rw [h n]
  exact rel_self fun _ _ => rfl

end Bindings

end StepCondition
