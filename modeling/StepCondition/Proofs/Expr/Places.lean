import StepCondition.Expr

/-!
# Places in a tree

A part of a tree is told from its equals elsewhere by its place: the way down to it,
child by child (`Expr.at?`). Places are in the order in which the parts are done with
when every part comes after its children, and these go from left to right
(`Place.before`).

* `Expr.mem_callPlaces`, `Expr.pairwise_callPlaces`: the places of the calls of a
  tree, in that order.
-/

namespace StepCondition

/-- The way down to a part of a tree: which child to take, step by step. -/
abbrev Place := List Nat

/-- Whether a place comes before another one: a part comes before what it is in, and
what is further to the left comes first. -/
def Place.before : Place → Place → Bool
  | [], _ => false
  | _ :: _, [] => true
  | i :: p, j :: q => decide (i < j) || (i == j && Place.before p q)

namespace Place

@[simp] theorem not_before_self : (p : Place) → before p p = false
  | [] => rfl
  | i :: p => by simp [before, not_before_self p]

@[simp] theorem before_cons (i : Nat) (p q : Place) : before (i :: p) (i :: q) = before p q := by
  simp [before]

theorem before_of_lt {i j : Nat} (h : i < j) (p q : Place) : before (i :: p) (j :: q) = true := by
  simp [before, h]

end Place

namespace Expr

/-- The parts that a tree is put together from. -/
def children : Expr → List Expr
  | unary _ x => [x]
  | binary _ x y => [x, y]
  | call _ xs | array xs => xs
  | integer _ | string _ | boolean _ | regexp _ | identifier _ => []

/-- The part of a tree at a place. -/
def at? : Expr → Place → Option Expr
  | e, [] => some e
  | e, i :: p => e.children[i]?.bind (·.at? p)

theorem at?_cons {e x : Expr} {i : Nat} (h : e.children[i]? = some x) (p : Place) :
    e.at? (i :: p) = x.at? p := by rw [at?, h, Option.bind_some]

/-- The first of the children from some index on, and the others. -/
theorem children_of_drop {e x : Expr} {i : Nat} {xs : List Expr} (h : e.children.drop i = x :: xs) :
    e.children[i]? = some x ∧ e.children.drop (i + 1) = xs := by
  constructor
  · rw [← Nat.add_zero i, ← List.getElem?_drop, h]
    rfl
  · rw [← List.drop_drop, h]
    rfl

theorem sizeOf_lt_of_mem_children {e x : Expr} (h : x ∈ e.children) : sizeOf x < sizeOf e := by
  cases e with
  | unary op y =>
    obtain rfl := List.mem_singleton.mp h
    simp only [unary.sizeOf_spec]
    omega
  | binary op y z =>
    obtain rfl | h := List.mem_cons.mp h
    · simp only [binary.sizeOf_spec]
      omega
    · obtain rfl := List.mem_singleton.mp h
      simp only [binary.sizeOf_spec]
      omega
  | call name xs =>
    have := List.sizeOf_lt_of_mem (show x ∈ xs from h)
    simp only [call.sizeOf_spec]
    omega
  | array xs =>
    have := List.sizeOf_lt_of_mem (show x ∈ xs from h)
    simp only [array.sizeOf_spec]
    omega
  | _ => cases h

/-! ## The calls of a tree -/

mutual

/-- The places of the calls of a tree: those of the arguments before that of the call
itself, and those on the left before those on the right. -/
def callPlaces : Expr → List Place
  | unary _ x => x.callPlaces.map (0 :: ·)
  | binary _ x y => x.callPlaces.map (0 :: ·) ++ y.callPlaces.map (1 :: ·)
  | call _ xs => callPlacesAll 0 xs ++ [[]]
  | array xs => callPlacesAll 0 xs
  | integer _ | string _ | boolean _ | regexp _ | identifier _ => []

/-- The places of the calls of some trees, which are children in a row. -/
def callPlacesAll : Nat → List Expr → List Place
  | _, [] => []
  | i, x :: xs => x.callPlaces.map (i :: ·) ++ callPlacesAll (i + 1) xs

end

/-- The calls of a tree are those of its children, and the tree itself if it is one. -/
theorem callPlaces_eq (e : Expr) :
    ∃ own, e.callPlaces = callPlacesAll 0 e.children ++ own ∧
      ((own = [[]] ∧ ∃ name xs, e = call name xs) ∨ (own = [] ∧ ∀ name xs, e ≠ call name xs)) := by
  cases e with
  | call name xs => exact ⟨[[]], by rw [callPlaces]; rfl, .inl ⟨rfl, name, xs, rfl⟩⟩
  | _ => exact ⟨[], by simp [callPlaces, callPlacesAll, children], .inr ⟨rfl, nofun⟩⟩

theorem mem_callPlacesAll {i : Nat} {xs : List Expr} {p : Place} :
    p ∈ callPlacesAll i xs ↔ ∃ j q x, p = (i + j) :: q ∧ xs[j]? = some x ∧ q ∈ x.callPlaces := by
  induction xs generalizing i with
  | nil => simp [callPlacesAll]
  | cons x xs ih =>
    rw [callPlacesAll, List.mem_append, List.mem_map, ih]
    constructor
    · rintro (⟨q, hq, rfl⟩ | ⟨j, q, y, rfl, hy, hq⟩)
      · exact ⟨0, q, x, rfl, rfl, hq⟩
      · exact ⟨j + 1, q, y, by rw [Nat.add_right_comm, Nat.add_assoc], hy, hq⟩
    · rintro ⟨_ | j, q, y, rfl, hy, hq⟩
      · exact .inl ⟨q, Option.some.inj hy ▸ hq, rfl⟩
      · exact .inr ⟨j, q, y, by rw [Nat.add_right_comm, Nat.add_assoc], hy, hq⟩

/-- The places of the calls are exactly those where there is a call. -/
theorem mem_callPlaces {e : Expr} {p : Place} :
    p ∈ e.callPlaces ↔ ∃ name xs, e.at? p = some (call name xs) := by
  induction p generalizing e with
  | nil =>
    obtain ⟨own, he, ⟨rfl, name, xs, rfl⟩ | ⟨rfl, hne⟩⟩ := e.callPlaces_eq
    · simp [he, at?]
    · simp [he, at?, mem_callPlacesAll, hne]
  | cons i p ih =>
    have hmem : i :: p ∈ e.callPlaces ↔ i :: p ∈ callPlacesAll 0 e.children := by
      obtain ⟨own, he, ⟨rfl, -⟩ | ⟨rfl, -⟩⟩ := e.callPlaces_eq <;> simp [he]
    rw [hmem, mem_callPlacesAll]
    constructor
    · rintro ⟨j, q, x, hp, hx, hq⟩
      obtain ⟨rfl, rfl⟩ := List.cons.inj hp
      rw [Nat.zero_add, at?_cons hx]
      exact ih.mp hq
    · rintro ⟨name, xs, h⟩
      obtain ⟨x, hx, h⟩ := Option.bind_eq_some_iff.mp h
      exact ⟨i, p, x, by rw [Nat.zero_add], hx, ih.mpr ⟨name, xs, h⟩⟩

theorem pairwise_callPlacesAll {xs : List Expr}
    (h : ∀ x ∈ xs, x.callPlaces.Pairwise fun p q => Place.before p q = true) (i : Nat) :
    (callPlacesAll i xs).Pairwise fun p q => Place.before p q = true := by
  induction xs generalizing i with
  | nil => exact .nil
  | cons x xs ih =>
    obtain ⟨hx, hxs⟩ := List.forall_mem_cons.mp h
    rw [callPlacesAll, List.pairwise_append, List.pairwise_map]
    refine ⟨?_, ih hxs (i + 1), ?_⟩
    · simpa only [Place.before_cons] using hx
    · rintro p hp q hq
      obtain ⟨p, -, rfl⟩ := List.mem_map.mp hp
      obtain ⟨j, q, -, rfl, -⟩ := mem_callPlacesAll.mp hq
      exact Place.before_of_lt (by omega) p q

/-- The places of the calls stand in order. -/
theorem pairwise_callPlaces (e : Expr) :
    e.callPlaces.Pairwise fun p q => Place.before p q = true := by
  have hall := pairwise_callPlacesAll (fun x (_ : x ∈ e.children) => x.pairwise_callPlaces) 0
  obtain ⟨own, he, ⟨rfl, -⟩ | ⟨rfl, -⟩⟩ := e.callPlaces_eq
  · rw [he]
    refine List.pairwise_append.mpr ⟨hall, List.pairwise_singleton .., fun p hp q hq => ?_⟩
    obtain rfl := List.mem_singleton.mp hq
    obtain ⟨j, p, -, rfl, -⟩ := mem_callPlacesAll.mp hp
    rfl
  · rw [he, List.append_nil]
    exact hall
termination_by e
decreasing_by exact sizeOf_lt_of_mem_children ‹_›

example : (call "f" [call "g" [], unary .not (call "h" [])]).callPlaces = [[0], [1, 0], []] := by
  decide

/-- No call has two places. -/
theorem nodup_callPlaces (e : Expr) : e.callPlaces.Nodup := by
  refine e.pairwise_callPlaces.imp ?_
  rintro p _ h rfl
  rw [Place.not_before_self] at h
  cases h

end Expr

end StepCondition
