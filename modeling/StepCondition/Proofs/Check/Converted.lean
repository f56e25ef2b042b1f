import StepCondition.Struct

/-!
# Values from outside

What a JSON text or the process environment puts into a scope is made of few kinds of
values. What is in a value, at whatever depth, is given by `Value.Has`; a value is tame
(`Value.Tame`) if neither it nor anything in it is null, a function or a failure, and if
its structs hold nothing but truth values, integers, texts and structs.

* `Struct.get?_ofMembers`: the struct of an object answers as the object does;
* `tame_of_ofJson?`: a JSON value has a tame value, if it has one;
* `tame_ofVariables`: so have variables.
-/

namespace StepCondition

/-! ## What is in a value -/

/-- The value `w` is `v` or in it, at whatever depth. -/
inductive Value.Has : Value → Value → Prop where
  | self (v : Value) : v.Has v
  | item {items : List Value} {v w : Value} (hv : v ∈ items) (h : v.Has w) :
    (Value.array items).Has w
  | field {fields : Struct} {name : String} {v w : Value} (hv : fields.get? name = some v)
    (h : v.Has w) : (Value.struct fields).Has w

/-- The kinds of values that a struct from outside holds. -/
def Kind.outer : List Kind := [.boolean, .integer, .string, .struct]

/-- Nothing in a value is null, a function or a failure, and the structs in it hold only
what comes from outside. -/
structure Value.Tame (v : Value) : Prop where
  kind : ∀ w, v.Has w → w.kind ∉ [Kind.null, .function, .error]
  field : ∀ fields name w, v.Has (.struct fields) → fields.get? name = some w → w.kind ∈ Kind.outer

variable {v w : Value}

theorem Value.Has.trans {u : Value} (h : v.Has w) (hu : w.Has u) : v.Has u := by
  induction h with
  | self => exact hu
  | item hv _ ih => exact .item hv (ih hu)
  | field hv _ ih => exact .field hv (ih hu)

theorem Value.Tame.of_has (h : v.Tame) (hw : v.Has w) : w.Tame where
  kind u hu := h.kind u (hw.trans hu)
  field fields name u hu := h.field fields name u (hw.trans hu)

theorem Value.Tame.isError_eq_false (h : v.Tame) : v.isError = false := by
  have hk := h.kind v (.self v)
  cases v with
  | error message => exact absurd (by simp [Value.kind]) hk
  | _ => rfl

/-- A value without parts is tame if it is not null, a function or a failure. -/
theorem tame_atom (h : v.kind ∈ [Kind.boolean, .integer, .string, .regexp]) : v.Tame := by
  have hself : ∀ w, v.Has w → w = v := by
    rintro w (_ | _ | _)
    · rfl
    · exact absurd h (by simp [Value.kind])
    · exact absurd h (by simp [Value.kind])
  refine ⟨fun w hw => ?_, fun fields _ _ hw => ?_⟩
  · rw [hself w hw]
    revert h
    cases v.kind <;> decide
  · rw [← hself _ hw] at h
    exact absurd h (by simp [Value.kind])

theorem tame_array {items : List Value} (h : ∀ v ∈ items, v.Tame) : (Value.array items).Tame where
  kind := by
    rintro w (_ | ⟨hv, hw⟩)
    · simp [Value.kind]
    · exact (h _ hv).kind w hw
  field := by
    rintro fields name w (_ | ⟨hv, hw⟩)
    exact (h _ hv).field fields name w hw

theorem tame_struct {fields : Struct}
    (h : ∀ name v, fields.get? name = some v → v.Tame ∧ v.kind ∈ Kind.outer) :
    (Value.struct fields).Tame where
  kind := by
    rintro w (_ | _ | ⟨hv, hw⟩)
    · simp [Value.kind]
    · exact (h _ _ hv).1.kind w hw
  field := by
    rintro fields' name w (_ | _ | ⟨hv, hw⟩) hf
    · exact (h name w hf).2
    · exact (h _ _ hv).1.field fields' name w hw hf

/-! ## JSON -/

/-- A member of an object is bound to its value, if it has one. -/
theorem Struct.get?_ofMembers {bound : Option String} (members : Bindings Json bound)
    (name : String) :
    (Struct.ofMembers members).get? name = (members.get? name).bind Value.ofJson? := by
  induction members with
  | nil => rfl
  | cons n above json rest ih =>
    rw [Struct.ofMembers, Bindings.get?]
    cases hv : Value.ofJson? json with
    | some v =>
      simp only [Bindings.get?, ih]
      split <;> simp [hv]
    | none =>
      simp only [Bindings.get?_lower, ih]
      split
      · rename_i heq
        rw [heq, Bindings.get?_eq_none rest (Text.not_precedes_self n), Option.bind_some, hv]
        rfl
      · rfl

theorem kind_of_ofJson? {json : Json} (h : Value.ofJson? json = some v) : v.kind ∈ Kind.outer := by
  cases json with
  | boolean | string | object =>
    rw [Value.ofJson?, Option.some.injEq] at h
    subst h
    simp [Value.kind, Kind.outer]
  | integer n =>
    rw [Value.ofJson?, Option.map_eq_some_iff] at h
    obtain ⟨m, -, rfl⟩ := h
    simp [Value.kind, Kind.outer]
  | _ => simp [Value.ofJson?] at h

/-- Everything in the value of a JSON value is the value of some JSON value. -/
theorem exists_ofJson?_of_has (h : v.Has w) :
    ∀ json, Value.ofJson? json = some v → ∃ json', Value.ofJson? json' = some w := by
  induction h with
  | self => exact fun json hj => ⟨json, hj⟩
  | item => exact fun json hj => absurd (kind_of_ofJson? hj) (by simp [Value.kind, Kind.outer])
  | @field fields name v w hv _ ih =>
    intro json hj
    cases json with
    | object members =>
      rw [Value.ofJson?, Option.some.injEq, Value.struct.injEq] at hj
      rw [← hj, Struct.get?_ofMembers, Option.bind_eq_some_iff] at hv
      obtain ⟨json', -, hj'⟩ := hv
      exact ih json' hj'
    | integer n => simp [Value.ofJson?] at hj
    | _ => simp [Value.ofJson?] at hj

theorem tame_of_ofJson? {json : Json} (h : Value.ofJson? json = some v) : v.Tame where
  kind w hw := by
    obtain ⟨json', hj⟩ := exists_ofJson?_of_has hw json h
    have hk := kind_of_ofJson? hj
    revert hk
    cases w.kind <;> decide
  field fields name w hf hw := by
    have hs := hf.trans (.field hw (.self w))
    obtain ⟨json', hj⟩ := exists_ofJson?_of_has hs json h
    exact kind_of_ofJson? hj

/-! ## Variables -/

/-- Of several bindings of a name the last one counts. -/
theorem Bindings.get?_merge {α : Type} (pairs : List (String × α)) (r : Record α) (n : String) :
    (merge r pairs).get? n = ((pairs.reverse.find? (·.1 = n)).map Prod.snd).or (r.get? n) := by
  induction pairs generalizing r with
  | nil => rfl
  | cons p pairs ih =>
    change (merge (r.insert p.1 p.2) pairs).get? n = _
    rw [ih, List.reverse_cons, List.find?_append, get?_insert]
    cases pairs.reverse.find? (·.1 = n) with
    | some q => rfl
    | none =>
      by_cases hn : p.1 = n
      · simp [hn]
      · simp [hn, Ne.symm hn]

/-- Each variable is bound to the last of its texts. -/
theorem Struct.get?_ofVariables (vars : List (String × String)) (name : String) :
    (Struct.ofVariables vars).get? name =
      (vars.reverse.find? (·.1 = name)).map fun var => .string var.2 := by
  rw [Struct.ofVariables, Bindings.ofList, Bindings.get?_merge, ← List.map_reverse, List.find?_map]
  simp only [Function.comp_def, Option.map_map]
  exact Option.or_none

theorem tame_ofVariables (vars : List (String × String)) :
    (Value.struct (Struct.ofVariables vars)).Tame := by
  refine tame_struct fun name v hv => ?_
  rw [Struct.get?_ofVariables, Option.map_eq_some_iff] at hv
  obtain ⟨var, -, rfl⟩ := hv
  exact ⟨tame_atom (by simp [Value.kind]), by simp [Value.kind, Kind.outer]⟩

end StepCondition
