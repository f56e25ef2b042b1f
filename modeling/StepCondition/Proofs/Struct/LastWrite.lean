import Mathlib.Logic.Function.Basic
import StepCondition.Proofs.Value.Equality

/-!
# Structs as maps

Beside the struct that a history makes (`History.struct`) stands the map that it makes: a
function from names to values, in which a later write to a name replaces an earlier one
(`History.map`). A map has no size, no order and no text. Still, all that can be seen of the
struct is what its map says (`Struct.Shows`): the size counts the names that are bound, and the
text shows them in increasing order, in whatever order they are come upon.

* `Bindings.ofList_of_perm`: bindings taken out in any order and collected again;
* `History.get?_struct`: the struct answers as the map does;
* `Struct.shows_get?`: what is seen of a struct is what its answers say;
* `last_write_wins`: what is seen of the struct that a history makes.
-/

namespace StepCondition

open Text

/-! ## Order -/

/-- Whether a text comes no later than another. -/
def Text.upTo (s t : String) : Bool := !precedes t s

theorem Text.upTo_trans {s t u : String} (h : upTo s t = true) (h' : upTo t u = true) :
    upTo s u = true := by
  simp only [upTo, Bool.not_eq_true'] at h h' ⊢
  by_cases hts : t = s
  · exact hts ▸ h'
  · refine Bool.eq_false_iff.mpr fun hus => ?_
    rw [precedes_trans hus (precedes_of_not_precedes h hts)] at h'
    cases h'

theorem Text.upTo_total (s t : String) : (upTo s t || upTo t s) = true := by
  simp only [upTo, Bool.or_eq_true, Bool.not_eq_true']
  cases h : precedes t s with
  | false => exact .inl rfl
  | true => exact .inr (not_precedes_of_precedes h)

/-- Names, each of which occurs once, stand in increasing order after sorting. -/
theorem Text.pairwise_sorted {names : List String} (h : names.Nodup) :
    (names.mergeSort upTo).Pairwise fun m n => precedes m n = true := by
  have hsorted := @List.pairwise_mergeSort _ upTo (fun _ _ _ => upTo_trans) upTo_total names
  have hnodup : (names.mergeSort upTo).Nodup := (List.mergeSort_perm names upTo).nodup_iff.mpr h
  refine (hsorted.and hnodup).imp fun ⟨hle, hne⟩ => ?_
  simp only [upTo, Bool.not_eq_true'] at hle
  exact precedes_of_not_precedes hle hne.symm

/-! ## Collecting bindings -/

/-- A record is collected from its bindings in whatever order they come. -/
theorem Bindings.ofList_of_perm {α : Type} {r : Record α} {pairs : List (String × α)}
    (h : pairs.Perm r.toList) : ofList pairs = r := by
  refine eq_of_get? fun n => ?_
  rw [ofList, get?_merge]
  cases hf : pairs.reverse.find? (·.1 = n) with
  | some p =>
    have hp : p ∈ r.toList := h.mem_iff.mp (List.mem_reverse.mp (List.mem_of_find?_eq_some hf))
    have hn : p.1 = n := by simpa using List.find?_some hf
    exact (hn ▸ mem_toList_iff.mp hp).symm
  | none =>
    refine (Option.eq_none_iff_forall_not_mem.mpr fun v hv => ?_).symm
    have hp : (n, v) ∈ pairs.reverse :=
      List.mem_reverse.mpr (h.mem_iff.mpr (mem_toList_iff.mpr hv))
    simpa using List.find?_eq_none.mp hf _ hp

/-! ## Histories -/

/-- How a struct came about, the last step outermost. -/
inductive History where
  /-- Collects pairs. -/
  | start (pairs : List (String × Value))
  | change (before : History) (c : Change)
  /-- Collects other pairs, and drops what there was. -/
  | collect (before : History) (pairs : List (String × Value))
  /-- Takes all bindings out, in some order, and collects them again. -/
  | convert (before : History) (order : List (String × Value) → List (String × Value))
    (perm : ∀ pairs, (order pairs).Perm pairs)
  /-- Makes the struct the only property of a new one. -/
  | nest (before : History) (name : String)

/-- A map with pairs written into it, the first one first. -/
def Scope.write (map : Scope) (pairs : List (String × Value)) : Scope :=
  pairs.foldl (fun m p => Function.update m p.1 (some p.2)) map

/-- A map that binds nothing. -/
def Scope.empty : Scope := fun _ => none

namespace History

/-- The struct that a history makes. -/
def struct : History → Struct
  | start pairs => .ofList pairs
  | change before c => c.apply before.struct
  | collect _ pairs => .ofList pairs
  | convert before order _ => .ofList (order before.struct.toList)
  | nest before name => .ofList [(name, .struct before.struct)]

/-- The map that a history makes: to every name, what was written last. -/
def map : History → Scope
  | start pairs => Scope.empty.write pairs
  | change before (.insert name value) => Function.update before.map name (some value)
  | change before (.erase name) => Function.update before.map name none
  | change before (.merge pairs) => before.map.write pairs
  | collect _ pairs => Scope.empty.write pairs
  | convert before _ _ => before.map
  | nest before name => Function.update Scope.empty name (some (.struct before.struct))

end History

theorem get?_merge_eq_write (r : Struct) (pairs : List (String × Value)) :
    (Bindings.merge r pairs).get? = Scope.write r.get? pairs := by
  induction pairs generalizing r with
  | nil => rfl
  | cons p pairs ih =>
    have hinsert : (Bindings.insert r p.1 p.2).get? = Function.update r.get? p.1 (some p.2) := by
      funext n
      rw [Bindings.get?_insert, Function.update_apply]
    change (Bindings.merge (Bindings.insert r p.1 p.2) pairs).get? = _
    rw [ih, hinsert]
    rfl

theorem get?_ofList_eq_write (pairs : List (String × Value)) :
    (Bindings.ofList pairs).get? = Scope.empty.write pairs := get?_merge_eq_write .nil pairs

/-- The struct that a history makes answers as the map does. -/
theorem History.get?_struct (h : History) : h.struct.get? = h.map := by
  induction h with
  | start pairs => exact get?_ofList_eq_write pairs
  | change before c ih =>
    cases c with
    | insert name value =>
      funext n
      rw [map, Function.update_apply, ← ih]
      exact Bindings.get?_insert ..
    | erase name =>
      funext n
      rw [map, Function.update_apply, ← ih]
      exact Bindings.get?_erase ..
    | merge pairs =>
      rw [map, ← ih]
      exact get?_merge_eq_write ..
  | collect _ pairs => exact get?_ofList_eq_write pairs
  | convert before order perm ih =>
    rw [struct, map, Bindings.ofList_of_perm (perm _), ih]
  | nest before name => exact get?_ofList_eq_write [(name, .struct before.struct)]

/-! ## What is seen of a struct -/

/-- The names that a map binds, in some order. -/
structure Scope.Lists (map : Scope) (names : List String) : Prop where
  nodup : names.Nodup
  mem_iff : ∀ n, n ∈ names ↔ (map n).isSome = true

/-- A name of a map as it is shown with its value. -/
def Scope.entry (map : Scope) (name : String) : String :=
  name ++ ": " ++ ((map name).map Value.display).getD ""

/-- All that can be seen of a struct is what a map says. -/
structure Struct.Shows (s : Struct) (map : Scope) : Prop where
  get? : s.get? = map
  scope : s.scope = map
  contains : ∀ n, Bindings.contains s n = (map n).isSome
  /-- A name that is removed is told with its value, and no other name is lost. -/
  remove : ∀ n, (s.remove n).1 = map n ∧ (s.remove n).2.get? = Function.update map n none
  isEmpty : Bindings.isEmpty s = true ↔ map = .empty
  listed : ∃ names, map.Lists names
  /-- The size is the number of names. -/
  size : ∀ names, map.Lists names → Bindings.size s = names.length
  /-- The names come in increasing order, whatever order they are found in. -/
  display : ∀ names, map.Lists names →
    (names.mergeSort upTo).Pairwise (fun m n => precedes m n = true) ∧
      Struct.display s =
        "\x7b" ++ ", ".intercalate ((names.mergeSort upTo).map map.entry) ++ "\x7d"

theorem Bindings.isEmpty_iff (s : Struct) : isEmpty s = true ↔ s.get? = Scope.empty := by
  cases s with
  | nil => exact iff_of_true rfl rfl
  | cons name above value rest =>
    refine iff_of_false Bool.false_ne_true fun h => ?_
    have hn := congrFun h name
    rw [get?, if_pos rfl] at hn
    cases hn

/-- What is seen of a struct is what its answers say. -/
theorem Struct.shows_get? (s : Struct) : s.Shows s.get? where
  get? := rfl
  scope := rfl
  contains _ := rfl
  remove n := by
    refine ⟨rfl, funext fun m => ?_⟩
    rw [Function.update_apply]
    exact Bindings.get?_erase ..
  isEmpty := Bindings.isEmpty_iff s
  listed := ⟨Bindings.names s, Bindings.nodup_names s, fun _ => Bindings.mem_names_iff⟩
  size names h := by
    have hperm : names.Perm (Bindings.names s) :=
      (List.perm_ext_iff_of_nodup h.nodup (Bindings.nodup_names s)).mpr fun n =>
        (h.mem_iff n).trans Bindings.mem_names_iff.symm
    rw [hperm.length_eq, Bindings.names, List.length_map, Bindings.size]
  display names h := by
    have hsorted := pairwise_sorted h.nodup
    have hmem : ∀ n, n ∈ names.mergeSort upTo ↔ (s.get? n).isSome = true := fun n =>
      (List.mergeSort_perm names upTo).mem_iff.trans (h.mem_iff n)
    exact ⟨hsorted, Struct.display_eq hsorted hmem⟩

/-- Whatever a struct went through, all that can be seen of it is what its map says, in which
the last write to a name wins. Two structs are the same exactly if their maps bind the same
names to equal values, and then they have the same text. -/
theorem last_write_wins (h : History) :
    h.struct.Shows h.map ∧ ∀ h' : History,
      ((Value.struct h.struct).same (.struct h'.struct) = true ↔
        ∀ n, Option.Rel Value.Equal (h.map n) (h'.map n)) ∧
      ((Value.struct h.struct).same (.struct h'.struct) = true →
        Struct.display h.struct = Struct.display h'.struct) := by
  refine ⟨h.get?_struct ▸ h.struct.shows_get?, fun h' => ⟨?_, fun hs => ?_⟩⟩
  · rw [Struct.same_iff_get?, h.get?_struct, h'.get?_struct]
  · exact (Value.equal_of_same hs).display_eq

/-- Two structs that came about in different ways: by names that are bound again, after they
were erased or not, by bindings collected in reverse order, and by a struct put into another. -/
theorem last_write_wins_nested :
    let inner := History.start [("b", .integer 1), ("a", .null), ("b", .integer 3)]
    let h := ((((inner.convert List.reverse List.reverse_perm).change (.erase "a")).nest "s").change
      (.insert "é" .null)).change (.merge [("é", .boolean true), ("a", .null), ("é", .null)])
    let h' := (inner.collect [("a", .integer 0), ("s", .struct (.ofList [("b", .integer 3)]))]).change
      (.merge [("é", .null), ("a", .null)])
    (Value.struct h.struct).same (.struct h'.struct) = true ∧
      Struct.display h.struct = Struct.display h'.struct ∧
      Struct.display h.struct = "\x7ba: null, s: \x7bb: 3\x7d, é: null\x7d" := by
  intro inner h h'
  have hsame : (Value.struct h.struct).same (.struct h'.struct) = true := by decide +kernel
  obtain ⟨hshows, hequal⟩ := last_write_wins h
  have hnames : Bindings.names h.struct = ["a", "s", "é"] := by decide +kernel
  have hlists : h.map.Lists ["a", "s", "é"] := by
    refine ⟨by decide, fun n => ?_⟩
    rw [← h.get?_struct, ← Bindings.mem_names_iff, hnames]
  have hsorted : ["a", "s", "é"].mergeSort upTo = ["a", "s", "é"] :=
    List.mergeSort_of_pairwise (by decide)
  refine ⟨hsame, (hequal h').2 hsame, (hshows.display _ hlists).2.trans ?_⟩
  rw [hsorted]
  decide +kernel

end StepCondition
