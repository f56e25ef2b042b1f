/-!
# The order of texts

Texts are ordered by code points: at the first place where two differ, the lesser
code point comes first, and a text comes before its continuations (`precedes`).

* `precedes_trans`, `not_precedes_self`, `precedes_of_not_precedes`: this is a strict
  order in which of any two texts one comes first.
-/

namespace StepCondition.Text

/-- Whether some characters come before others. -/
def charsPrecede : List Char → List Char → Bool
  | [], [] => false
  | [], _ :: _ => true
  | _ :: _, [] => false
  | c :: cs, d :: ds => c.toNat.blt d.toNat || (c == d && charsPrecede cs ds)

/-- Whether a text comes before another. -/
def precedes (s t : String) : Bool := charsPrecede s.toList t.toList

theorem not_charsPrecede_self : ∀ cs : List Char, charsPrecede cs cs = false
  | [] => rfl
  | c :: cs => by
    have h : c.toNat.blt c.toNat = false :=
      Bool.eq_false_iff.mpr fun h => Nat.lt_irrefl _ (Nat.blt_eq.mp h)
    simp [charsPrecede, h, not_charsPrecede_self cs]

theorem charsPrecede_trans : ∀ {cs ds es : List Char},
    charsPrecede cs ds = true → charsPrecede ds es = true → charsPrecede cs es = true
  | [], [], _, h, _ => by simp [charsPrecede] at h
  | _ :: _, [], _, h, _ => by simp [charsPrecede] at h
  | _, _ :: _, [], _, h => by simp [charsPrecede] at h
  | [], _ :: _, _ :: _, _, _ => rfl
  | c :: cs, d :: ds, e :: es, h, h' => by
    simp only [charsPrecede, Bool.or_eq_true, Bool.and_eq_true, Nat.blt_eq, beq_iff_eq] at h h' ⊢
    rcases h with h | ⟨rfl, h⟩
    · rcases h' with h' | ⟨rfl, _⟩
      · exact .inl (Nat.lt_trans h h')
      · exact .inl h
    · rcases h' with h' | ⟨rfl, h'⟩
      · exact .inl h'
      · exact .inr ⟨rfl, charsPrecede_trans h h'⟩

theorem charsPrecede_of_not : ∀ {cs ds : List Char},
    charsPrecede cs ds = false → cs ≠ ds → charsPrecede ds cs = true
  | [], [], _, hne => absurd rfl hne
  | [], _ :: _, h, _ => by simp [charsPrecede] at h
  | _ :: _, [], _, _ => rfl
  | c :: cs, d :: ds, h, hne => by
    simp only [charsPrecede, Bool.or_eq_false_iff, Bool.and_eq_false_iff, Bool.or_eq_true,
      Bool.and_eq_true, Nat.blt_eq, beq_iff_eq, beq_eq_false_iff_ne] at h ⊢
    by_cases heq : c = d
    · subst heq
      refine .inr ⟨rfl, charsPrecede_of_not (h.2.resolve_left fun hc => hc rfl) ?_⟩
      exact fun hcs => hne (congrArg _ hcs)
    · have hle : d.toNat ≤ c.toNat := Nat.not_lt.mp fun hlt => by
        simp [Nat.blt_eq.mpr hlt] at h
      exact .inl (Nat.lt_of_le_of_ne hle fun hn => heq (Char.toNat_inj.mp hn.symm))

@[simp]
theorem not_precedes_self (s : String) : precedes s s = false := not_charsPrecede_self s.toList

theorem precedes_trans {s t u : String} (h : precedes s t = true) (h' : precedes t u = true) :
    precedes s u = true :=
  charsPrecede_trans h h'

theorem not_precedes_of_precedes {s t : String} (h : precedes s t = true) :
    precedes t s = false :=
  Bool.eq_false_iff.mpr fun h' =>
    Bool.eq_false_iff.mp (not_precedes_self s) (precedes_trans h h')

/-- Of two texts one comes first. -/
theorem precedes_of_not_precedes {s t : String} (h : precedes s t = false) (hne : s ≠ t) :
    precedes t s = true :=
  charsPrecede_of_not h fun hs => hne (String.toList_inj.mp hs)

end StepCondition.Text
