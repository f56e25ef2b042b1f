import StepCondition.Proofs.Check.Converted

/-!
# What a struct keeps of a JSON object

A JSON value has a value of a condition if it stands in the table of conversion
(`Json.Converts`): truth values, integers of 64 bits, texts and objects. A member of an
object that does not is left out, and nothing else is. So a path of names leads to the
same place in an object and in its struct, as long as it ends at something in the table.

* `at?_ofJson?`: a path in a JSON value and in its value;
* `Value.ofJson?_kept`: what is left out might as well not have been there;
* `conversion_table`: the struct of a JSON value, from its answers along all paths.
-/

namespace StepCondition

/-! ## The table -/

/-- The table of conversion. An object has the struct that is made of it. -/
inductive Json.Converts : Json → Value → Prop where
  | boolean (b : Bool) : Converts (.boolean b) (.boolean b)
  | integer (n : Int64) : Converts (.integer n.toInt) (.integer n)
  | string (text : String) : Converts (.string text) (.string text)
  | object {json : Json} {s : Struct} (h : Struct.ofJson json = .ok s) : Converts json (.struct s)

/-- Whether a member with this value is left out of an object. -/
def Json.leftOut : Json → Bool
  | .null | .array _ | .decimal .. => true
  | .integer n => n < Int64.minValue.toInt || Int64.maxValue.toInt < n
  | .boolean _ | .string _ | .object _ => false

theorem integerOfInt?_eq_some_iff {n : Int} {m : Int64} :
    integerOfInt? n = some m ↔ n = m.toInt := by
  rw [integerOfInt?]
  constructor
  · intro h
    split at h
    · rename_i hn
      cases h
      exact (Int64.toInt_ofInt_of_le hn.1 (Int.lt_add_one_of_le hn.2)).symm
    · cases h
  · rintro rfl
    rw [if_pos ⟨Int64.minValue_le_toInt m, Int64.toInt_le m⟩, Int64.ofInt_toInt]

theorem ofJson_eq_ok_iff {json : Json} {s : Struct} :
    Struct.ofJson json = .ok s ↔ Value.ofJson? json = some (.struct s) := by
  cases json <;> simp [Struct.ofJson, Value.ofJson?]

/-- The values of JSON values are those of the table. -/
theorem converts_iff {json : Json} {v : Value} : json.Converts v ↔ Value.ofJson? json = some v := by
  constructor
  · rintro (b | n | text | h)
    · rfl
    · rw [Value.ofJson?, integerOfInt?_eq_some_iff.mpr rfl]
      rfl
    · rfl
    · exact ofJson_eq_ok_iff.mp h
  · intro h
    cases json with
    | boolean b =>
      cases h
      exact .boolean b
    | string text =>
      cases h
      exact .string text
    | integer n =>
      obtain ⟨m, hm, rfl⟩ := Option.map_eq_some_iff.mp h
      rw [integerOfInt?_eq_some_iff.mp hm]
      exact .integer m
    | object members =>
      cases h
      exact .object rfl
    | _ => cases h

/-- What is left out has no value. -/
theorem leftOut_iff {json : Json} : json.leftOut = true ↔ Value.ofJson? json = none := by
  cases json with
  | integer n =>
    simp only [Json.leftOut, Value.ofJson?, integerOfInt?, Bool.or_eq_true, decide_eq_true_eq,
      Option.map_eq_none_iff, ite_eq_right_iff, reduceCtorEq, imp_false]
    omega
  | _ => simp [Json.leftOut, Value.ofJson?]

/-! ## Paths -/

/-- What a struct binds a name to. -/
def Value.member? : Value → String → Option Value
  | .struct fields, name => fields.get? name
  | _, _ => none

/-- What an object binds a name to. -/
def Json.member? : Json → String → Option Json
  | .object members, name => members.get? name
  | _, _ => none

/-- Where a path of names leads to, from struct to struct. -/
def Value.at? (v : Value) (path : List String) : Option Value := path.foldlM Value.member? v

/-- Where a path of names leads to, from object to object. -/
def Json.at? (json : Json) (path : List String) : Option Json := path.foldlM Json.member? json

theorem Value.at?_cons (v : Value) (name : String) (path : List String) :
    v.at? (name :: path) = (v.member? name).bind (·.at? path) := List.foldlM_cons

theorem Json.at?_cons (json : Json) (name : String) (path : List String) :
    json.at? (name :: path) = (json.member? name).bind (·.at? path) := List.foldlM_cons

/-- A member of a value is the value of a member. -/
theorem member?_ofJson? (json : Json) (name : String) :
    (Value.ofJson? json).bind (·.member? name) = (json.member? name).bind Value.ofJson? := by
  cases json with
  | object members => exact Struct.get?_ofMembers members name
  | integer n =>
    rw [Value.ofJson?]
    cases integerOfInt? n <;> rfl
  | _ => rfl

/-- A path leads from the value of a JSON value to the value of what it leads to there. -/
theorem at?_ofJson? (json : Json) (path : List String) :
    (Value.ofJson? json).bind (·.at? path) = (json.at? path).bind Value.ofJson? := by
  induction path generalizing json with
  | nil => cases h : Value.ofJson? json <;> simp [Value.at?, Json.at?, h]
  | cons name path ih =>
    calc (Value.ofJson? json).bind (·.at? (name :: path))
        = ((Value.ofJson? json).bind (·.member? name)).bind (·.at? path) := by
          simp only [Value.at?_cons, Option.bind_assoc]
      _ = (json.member? name).bind fun member => (Value.ofJson? member).bind (·.at? path) := by
          rw [member?_ofJson?, Option.bind_assoc]
      _ = (json.at? (name :: path)).bind Value.ofJson? := by
          simp only [ih, Json.at?_cons, Option.bind_assoc]

/-! ## What is left out -/

mutual

/-- A JSON value without the members that are left out of the objects in it. -/
def Json.kept : Json → Json
  | .object members => .object (Json.keptMembers members)
  | .array items => .array (Json.keptItems items)
  | json => json

/-- The members of an object that are not left out. -/
def Json.keptMembers {bound : Option String} : Bindings Json bound → Bindings Json bound
  | .nil => .nil
  | .cons name above json rest =>
    if json.leftOut then (Json.keptMembers rest).lower above
    else .cons name above json.kept (Json.keptMembers rest)

/-- The items of an array, all of which stay. -/
def Json.keptItems : List Json → List Json
  | [] => []
  | json :: items => json.kept :: Json.keptItems items

end

theorem Json.get?_keptMembers {bound : Option String} (members : Bindings Json bound)
    (name : String) :
    (Json.keptMembers members).get? name =
      ((members.get? name).filter (!·.leftOut)).map Json.kept := by
  induction members with
  | nil => rw [Json.keptMembers]; rfl
  | cons n above json rest ih =>
    rw [Json.keptMembers]
    cases hl : json.leftOut with
    | true =>
      rw [if_pos rfl, Bindings.get?_lower, ih, Bindings.get?]
      split
      · rename_i hn
        rw [hn, Bindings.get?_eq_none rest (Text.not_precedes_self n),
          Option.filter_some_neg (by simp [hl])]
        rfl
      · rfl
    | false =>
      rw [if_neg Bool.false_ne_true, Bindings.get?, Bindings.get?, ih]
      split
      · rw [Option.filter_some_pos (by simp [hl])]
        rfl
      · rfl

mutual

theorem Value.ofJson?_kept : ∀ json : Json, Value.ofJson? json.kept = Value.ofJson? json
  | .object members => by
    have hm : Struct.ofMembers (Json.keptMembers members) = Struct.ofMembers members := by
      refine Bindings.eq_of_get? fun name => ?_
      rw [Struct.get?_ofMembers, Struct.get?_ofMembers, Json.get?_keptMembers]
      cases hj : members.get? name with
      | none => rfl
      | some json =>
        cases hl : json.leftOut with
        | true =>
          rw [Option.filter_some_neg (by simp [hl]), Option.bind_some, leftOut_iff.mp hl]
          rfl
        | false =>
          rw [Option.filter_some_pos (by simp [hl]), Option.bind_some, Option.map_some,
            Option.bind_some, Value.ofJson?_kept_member members hj]
    rw [Json.kept, Value.ofJson?, Value.ofJson?, hm]
  | .array _ => by rw [Json.kept]; rfl
  | .null | .boolean _ | .integer _ | .decimal .. | .string _ => by rw [Json.kept] <;> nofun

theorem Value.ofJson?_kept_member : ∀ {bound : Option String} (members : Bindings Json bound)
    {name : String} {json : Json}, members.get? name = some json →
    Value.ofJson? json.kept = Value.ofJson? json
  | _, .cons n _ json rest, name, _, h => by
    rw [Bindings.get?] at h
    split at h
    · cases h
      exact Value.ofJson?_kept json
    · exact Value.ofJson?_kept_member rest h

end

theorem ofJson_kept (json : Json) : Struct.ofJson json.kept = Struct.ofJson json := by
  cases json with
  | object members =>
    have h := Value.ofJson?_kept (.object members)
    rw [Json.kept, Value.ofJson?, Value.ofJson?, Option.some.injEq, Value.struct.injEq] at h
    rw [Json.kept, Struct.ofJson, Struct.ofJson, h]
  | _ => rw [Json.kept] <;> first | rfl | nofun

/-- A JSON value has a struct exactly if it is an object, and that struct is its value. A
path of names leads to a value in the struct exactly if it leads, from object to object, to
something in the table of conversion, and the value is the one that the table gives. The
members that are not in the table have no part in the outcome, at whatever level. -/
theorem conversion_table (json : Json) :
    (∀ s, Struct.ofJson json = .ok s ↔ Value.ofJson? json = some (.struct s)) ∧
    ((∃ s, Struct.ofJson json = .ok s) ↔ ∃ members, json = .object members) ∧
    (∀ s, Struct.ofJson json = .ok s → ∀ path v,
      (Value.struct s).at? path = some v ↔ ∃ found, json.at? path = some found ∧ found.Converts v) ∧
    Struct.ofJson json.kept = Struct.ofJson json ∧
    Value.ofJson? json.kept = Value.ofJson? json := by
  refine ⟨fun s => ofJson_eq_ok_iff, ⟨?_, ?_⟩, fun s hs path v => ?_, ofJson_kept json,
    Value.ofJson?_kept json⟩
  · rintro ⟨s, hs⟩
    cases json with
    | object members => exact ⟨members, rfl⟩
    | _ => cases hs
  · rintro ⟨members, rfl⟩
    exact ⟨_, rfl⟩
  · have hp := at?_ofJson? json path
    rw [ofJson_eq_ok_iff.mp hs, Option.bind_some] at hp
    simp only [hp, Option.bind_eq_some_iff, converts_iff]

end StepCondition
