import StepCondition.Proofs.Expr.Places

/-!
# Trees put into a tree

Other trees can be put into some places of a tree (`Expr.graft`). Of the places, those on
the right of an access are special (`Expr.RightOfAccess`): what stands there is read as a
name and is no part that is evaluated.
-/

namespace StepCondition

/-- The tree to put at a place, if there is one. -/
abbrev Grafts := Place → Option Expr

/-- What is put into a child. -/
def Grafts.under (σ : Grafts) (i : Nat) : Grafts := fun p => σ (i :: p)

/-- One tree at one place. -/
def Grafts.only (p : Place) (x : Expr) : Grafts := fun q => if q = p then some x else none

namespace Grafts

theorem only_cons_nil (i : Nat) (p : Place) (x : Expr) : only (i :: p) x [] = none := rfl

theorem only_under_self (i : Nat) (p : Place) (x : Expr) :
    (only (i :: p) x).under i = only p x := by
  funext q
  simp [only, under]

theorem only_under_of_ne {i j : Nat} (h : j ≠ i) (p q : Place) (x : Expr) :
    (only (i :: p) x).under j q = none := by simp [only, under, h]

end Grafts

namespace Expr

mutual

/-- A tree with other trees put into some of its places. Inside a tree that is put in,
nothing else is. -/
def graft : Expr → Grafts → Expr
  | unary op x, σ => (σ []).getD (unary op (x.graft (σ.under 0)))
  | binary op x y, σ => (σ []).getD (binary op (x.graft (σ.under 0)) (y.graft (σ.under 1)))
  | call name xs, σ => (σ []).getD (call name (graftAll σ 0 xs))
  | array xs, σ => (σ []).getD (array (graftAll σ 0 xs))
  | e@(integer _), σ | e@(string _), σ | e@(boolean _), σ | e@(regexp _), σ
  | e@(identifier _), σ => (σ []).getD e

/-- Children in a row from some index on, with other trees put into some of their
places. -/
def graftAll (σ : Grafts) : Nat → List Expr → List Expr
  | _, [] => []
  | i, x :: xs => x.graft (σ.under i) :: graftAll σ (i + 1) xs

end

example : (binary .and (call "f" [integer 1]) (boolean true)).graft
    (fun p => if p = [0, 0] ∨ p = [1] then some (string "s") else none) =
      binary .and (call "f" [string "s"]) (string "s") := by
  decide

theorem graft_of_some {e x : Expr} {σ : Grafts} (h : σ [] = some x) : e.graft σ = x := by
  cases e <;> rw [graft, h, Option.getD_some]

mutual

/-- Where nothing is put in, a tree stays as it is. -/
theorem graft_eq_self : (e : Expr) → {σ : Grafts} → (∀ p, σ p = none) → e.graft σ = e
  | unary _ x, σ, h => by
    have hx : x.graft (σ.under 0) = x := x.graft_eq_self fun p => h (0 :: p)
    rw [graft, h, Option.getD_none, hx]
  | binary _ x y, σ, h => by
    have hx : x.graft (σ.under 0) = x := x.graft_eq_self fun p => h (0 :: p)
    have hy : y.graft (σ.under 1) = y := y.graft_eq_self fun p => h (1 :: p)
    rw [graft, h, Option.getD_none, hx, hy]
  | call _ xs, σ, h | array xs, σ, h => by
    rw [graft, h, Option.getD_none, graftAll_eq_self 0 xs h]
  | integer _, _, h | string _, _, h | boolean _, _, h | regexp _, _, h | identifier _, _, h => by
    rw [graft, h, Option.getD_none]

theorem graftAll_eq_self (i : Nat) : (xs : List Expr) → {σ : Grafts} → (∀ p, σ p = none) →
    graftAll σ i xs = xs
  | [], _, _ => rfl
  | x :: xs, σ, h => by
    have hx : x.graft (σ.under i) = x := x.graft_eq_self fun p => h (i :: p)
    rw [graftAll, hx, graftAll_eq_self (i + 1) xs h]

end

/-- A place on the right of an access, or further down there. -/
def RightOfAccess (e : Expr) (p : Place) : Prop :=
  ∃ q r x y, p = q ++ 1 :: r ∧ e.at? q = some (binary .access x y)

theorem RightOfAccess.of_child {e x : Expr} {i : Nat} {p : Place} (h : e.children[i]? = some x)
    (hp : x.RightOfAccess p) : e.RightOfAccess (i :: p) := by
  obtain ⟨q, r, y, z, rfl, hq⟩ := hp
  exact ⟨i :: q, r, y, z, rfl, by rw [at?_cons h, hq]⟩

theorem RightOfAccess.right (x y : Expr) (p : Place) :
    (binary .access x y).RightOfAccess (1 :: p) := ⟨[], p, x, y, rfl, rfl⟩

end Expr

end StepCondition
