import StepCondition.Proofs.Evaluation.Calls
import StepCondition.Proofs.Parser.Requests
import StepCondition.Proofs.Struct.Conversion
import StepCondition.Proofs.Struct.History

/-!
# The log and what happened

What a run notes for its operator is what it does, no more and no less. A parser notes its
errors, and past the limit on nesting it is silent in its log as it is in its list of
errors. An evaluation notes the calls that it makes: a call whose arguments fail is not
made and not noted, and one inside the arguments of another comes before it. The making of
a struct notes what it leaves out (`Json.Omitted`), at whatever level of objects.

* `Parser.log_after`: the log of a parser, from its errors;
* `Setting.exists_log_eq`: the log of an evaluation, from its calls;
* `Json.omissions_eq`, `Json.mem_omitted`, `Json.nodup_omitted`: the log of a conversion,
  from the places in the object;
* `log_mirrors`: all of it.
-/

namespace StepCondition

/-! ## Errors of a parser -/

/-- The note on an error. -/
def SyntaxError.entry (e : SyntaxError) : LogEntry := ⟨.debug, "parse error: " ++ e.message⟩

namespace Parser

/-- The notes of a parser are those on its errors. -/
def Noted (p : Parser) : Prop := p.notes = p.found.map SyntaxError.entry

theorem Noted.note {p : Parser} (hp : p.Noted) (e : SyntaxError) : (p.note e).Noted := by
  cases ht : p.tooDeep with
  | true => rwa [note_of_tooDeep ht]
  | false =>
    have hn : (p.note e).notes = e.entry :: p.notes := by
      simp only [Parser.note, ht, Bool.false_eq_true, if_false, SyntaxError.entry]
    rw [Noted, hn, note_found ht, List.map_cons, hp]

theorem kept_noted : Kept Noted where
  past _ hp := hp
  depth _ _ hp := hp
  note _ e _ hp := hp.note e
  overflow p hp := Noted.note (p := p.deeper) hp .tooDeep

/-- After any requests the log of a parser shows its errors, in order. -/
theorem log_after (text : String) (requests : List Request) :
    ((ofText text).after requests).log =
      ((ofText text).after requests).errors.map SyntaxError.entry := by
  have hn : ((ofText text).after requests).Noted := kept_noted.after requests rfl
  rw [log, hn, errors, List.map_reverse]

end Parser

/-! ## Calls of an evaluation -/

/-- The note on a call. -/
def Call.entry (call : Call) : LogEntry :=
  ⟨.trace, "calling " ++ call.name ++ " with " ++ toString call.args.length ++ " argument(s)"⟩

/-- A part notes the calls that it makes. -/
def LogsCalls {α : Type} (m : Eval α) : Prop :=
  ∀ s : Evaluator, ∃ made : List Call, (m s).2.calls = s.calls ++ made ∧
    (m s).2.log = s.log ++ made.map Call.entry

theorem logsCalls_settled {α : Type} (r : Except EvalError α) : LogsCalls (settled r) := fun _ =>
  ⟨[], (List.append_nil _).symm, (List.append_nil _).symm⟩

theorem LogsCalls.bind {α β : Type} {m : Eval α} {f : α → Eval β} (hm : LogsCalls m)
    (hf : ∀ a, LogsCalls (f a)) : LogsCalls (m >>= f) := by
  intro s
  obtain ⟨made, hc, hl⟩ := hm s
  obtain ⟨e, -, hb⟩ | ⟨a, -, hb⟩ := bind_cases m f s
  · rw [hb]
    exact ⟨made, hc, hl⟩
  · obtain ⟨more, hc', hl'⟩ := hf a (m s).2
    rw [hb]
    refine ⟨made ++ more, ?_, ?_⟩
    · rw [hc', hc, List.append_assoc]
    · rw [hl', hl, List.map_append, List.append_assoc]

namespace Setting

variable (setting : Setting)

theorem kept_logsCalls : setting.Kept LogsCalls where
  settled _ := logsCalls_settled _
  bind := LogsCalls.bind
  nested {_ m} hm s := by
    obtain hn | ⟨limit, hn⟩ := setting.nested_cases m s
    · rw [hn]
      exact hm s.deeper
    · rw [hn]
      exact logsCalls_settled (.error (.tooDeep limit) : Except EvalError _) s
  invoke call s := by
    obtain ⟨r, hr, -⟩ := setting.exists_invoke call s
    rw [hr]
    exact ⟨[call], rfl, rfl⟩

/-- The log of an evaluation shows the calls that it makes, each of them for a call of the
tree. -/
theorem exists_log_eq (e : Expr) (s : Evaluator) :
    ∃ made : List Invocation, (setting.run e s).2.calls = s.calls ++ made.map (·.call) ∧
      (setting.run e s).2.log = s.log ++ made.map (·.call.entry) ∧
      ∀ i ∈ made, setting.Invoked e i := by
  have hi : setting.Invokes e e.callPlaces (setting.eval e) := invokes_eval e
  obtain ⟨made, hm⟩ := hi s
  obtain ⟨calls, hc, hl⟩ := setting.kept_logsCalls.eval e s
  have hcalls : calls = made.map (·.call) := List.append_cancel_left (hc.symm.trans hm.calls)
  rw [hcalls, List.map_map] at hl
  exact ⟨made, hm.calls, hl, hm.invoked⟩

end Setting

/-! ## What is left out of an object -/

namespace Json

/-- A member that is left out of an object: the names that lead to the object, and the name
and the value of the member. -/
structure Omitted where
  path : List String
  name : String
  value : Json

namespace Omitted

/-- The names that lead to a member. -/
def place (o : Omitted) : List String := o.path ++ [o.name]

/-- What is left out of a member is left out of the object. -/
def under (name : String) (o : Omitted) : Omitted := { o with path := name :: o.path }

/-- The note on a member. -/
def entry (o : Omitted) : LogEntry := omission o.name o.value.kind

theorem under_injective (name : String) : (under name).Injective := by
  rintro ⟨path, n, v⟩ ⟨path', n', v'⟩ h
  cases h
  rfl

end Omitted

mutual

/-- What is left out of the objects in a JSON value, in the order of names. -/
def omitted : Json → List Omitted
  | .object members => omittedMembers members
  | .null | .boolean _ | .integer _ | .decimal .. | .string _ | .array _ => []

/-- What is left out of the members of an object: a member itself, or a part of its value. -/
def omittedMembers {bound : Option String} : Bindings Json bound → List Omitted
  | .nil => []
  | .cons name _ json rest =>
    ((if json.leftOut then [⟨[], name, json⟩] else []) ++ json.omitted.map (.under name)) ++
      omittedMembers rest

end

/-- What is left out of an object on account of one member. -/
def omittedAt (name : String) (json : Json) : List Omitted :=
  (if json.leftOut then [⟨[], name, json⟩] else []) ++ json.omitted.map (.under name)

theorem omittedMembers_eq {bound : Option String} (members : Bindings Json bound) :
    omittedMembers members = members.toList.flatMap fun m => omittedAt m.1 m.2 := by
  induction members with
  | nil => rfl
  | cons name above json rest ih =>
    rw [omittedMembers, ih]
    rfl

/-- A member is left out if it has no value. -/
theorem isNone_ofJson? (json : Json) : (Value.ofJson? json).isNone = json.leftOut :=
  Bool.eq_iff_iff.mpr (Option.isNone_iff_eq_none.trans leftOut_iff.symm)

/-- What is left out itself is no object. -/
theorem omitted_of_leftOut {json : Json} (h : json.leftOut = true) : json.omitted = [] := by
  cases json with
  | object members => cases h
  | _ => rfl

mutual

/-- The notes of a conversion are those on what is left out. -/
theorem omissions_eq : (json : Json) → json.omissions = json.omitted.map Omitted.entry
  | .object members => memberOmissions_eq members
  | .null | .boolean _ | .integer _ | .decimal .. | .string _ | .array _ => rfl

theorem memberOmissions_eq {bound : Option String} : (members : Bindings Json bound) →
    memberOmissions members = (omittedMembers members).map Omitted.entry
  | .nil => rfl
  | .cons name _ json rest => by
    have hunder : (json.omitted.map (.under name)).map Omitted.entry = json.omissions := by
      rw [omissions_eq json, List.map_map]
      rfl
    rw [memberOmissions, omittedMembers, List.map_append, List.map_append, hunder,
      memberOmissions_eq rest, isNone_ofJson?]
    cases hl : json.leftOut with
    | true =>
      have hnone : json.omissions = [] := by rw [omissions_eq json, omitted_of_leftOut hl]; rfl
      rw [hnone]
      rfl
    | false => rfl

end

/-- What is left out of a JSON value is a member of it, or is left out of a member. -/
theorem mem_omitted_iff {json : Json} {o : Omitted} :
    o ∈ json.omitted ↔ ∃ name member, json.member? name = some member ∧
      (member.leftOut = true ∧ o = ⟨[], name, member⟩ ∨ ∃ o' ∈ member.omitted, o = o'.under name) := by
  cases json with
  | object members =>
    simp only [omitted, omittedMembers_eq, List.mem_flatMap, Prod.exists,
      Bindings.mem_toList_iff, omittedAt, List.mem_append, List.mem_ite_nil_right,
      List.mem_singleton, List.mem_map, eq_comm (b := o)]
    rfl
  | _ => simp [omitted, member?]

/-- What is left out is what places in the objects lead to that is not in the table of
conversion. -/
theorem mem_omitted {json : Json} {o : Omitted} :
    o ∈ json.omitted ↔ json.at? o.place = some o.value ∧ o.value.leftOut = true := by
  obtain ⟨path, name, value⟩ := o
  induction path generalizing json with
  | nil =>
    have hat : json.at? (Omitted.place ⟨[], name, value⟩) = json.member? name :=
      (at?_cons json name []).trans (Option.bind_fun_some _)
    rw [mem_omitted_iff, hat]
    constructor
    · rintro ⟨n, member, hm, ⟨hl, ho⟩ | ⟨o', -, ho⟩⟩
      · cases ho
        exact ⟨hm, hl⟩
      · cases ho
    · rintro ⟨hm, hl⟩
      exact ⟨name, value, hm, .inl ⟨hl, rfl⟩⟩
  | cons n path ih =>
    have hat : json.at? (Omitted.place ⟨n :: path, name, value⟩) =
        (json.member? n).bind (·.at? (Omitted.place ⟨path, name, value⟩)) :=
      at?_cons json n (path ++ [name])
    rw [mem_omitted_iff, hat, Option.bind_eq_some_iff]
    constructor
    · rintro ⟨n', member, hm, ⟨-, ho⟩ | ⟨o', ho', ho⟩⟩
      · cases ho
      · cases ho
        obtain ⟨ha, hl⟩ := ih.mp ho'
        exact ⟨⟨member, hm, ha⟩, hl⟩
    · rintro ⟨⟨member, hm, ha⟩, hl⟩
      exact ⟨n, member, hm, .inr ⟨_, ih.mpr ⟨ha, hl⟩, rfl⟩⟩

/-- On account of one member there are only places that start with its name. -/
theorem head?_place_of_mem_omittedAt {name : String} {json : Json} {o : Omitted}
    (h : o ∈ omittedAt name json) : o.place.head? = some name := by
  obtain h | h := List.mem_append.mp h
  · obtain rfl := List.mem_singleton.mp (List.mem_ite_nil_right.mp h).2
    rfl
  · obtain ⟨o', -, rfl⟩ := List.mem_map.mp h
    rfl

theorem nodup_omittedAt (name : String) {json : Json} (h : json.omitted.Nodup) :
    (omittedAt name json).Nodup := by
  rw [omittedAt]
  cases hl : json.leftOut with
  | true =>
    rw [omitted_of_leftOut hl]
    exact List.nodup_singleton _
  | false => exact h.map (Omitted.under_injective name)

mutual

/-- Nothing is left out twice. -/
theorem nodup_omitted : (json : Json) → json.omitted.Nodup
  | .object members => nodup_omittedMembers members
  | .null | .boolean _ | .integer _ | .decimal .. | .string _ | .array _ => List.nodup_nil

theorem nodup_omittedMembers {bound : Option String} : (members : Bindings Json bound) →
    (omittedMembers members).Nodup
  | .nil => List.nodup_nil
  | .cons name above json rest => by
    have hname : (omittedAt name json).Nodup := nodup_omittedAt name (nodup_omitted json)
    refine List.nodup_append'.mpr ⟨hname, nodup_omittedMembers rest, fun o ho hr => ?_⟩
    -- A place on account of a later member starts with a later name.
    rw [omittedMembers_eq] at hr
    obtain ⟨m, hm, hom⟩ := List.mem_flatMap.mp hr
    have hlt := Bindings.above_of_mem hm
    have hn : name = m.1 := Option.some.inj <|
      (head?_place_of_mem_omittedAt ho).symm.trans (head?_place_of_mem_omittedAt hom)
    rw [← hn] at hlt
    exact Bool.eq_false_iff.mp (Text.not_precedes_self name) hlt

end

/-- What a struct lacks of the object that it is made of is what is left out. -/
theorem at?_eq_none_iff {json : Json} {s : Struct} (hs : Struct.ofJson json = .ok s)
    {path : List String} {v : Json} (h : json.at? path = some v) :
    (Value.struct s).at? path = none ↔ ∃ o ∈ json.omitted, o.place = path := by
  have hp := at?_ofJson? json path
  rw [ofJson_eq_ok_iff.mp hs, Option.bind_some, h, Option.bind_some] at hp
  rw [hp, ← leftOut_iff]
  constructor
  · intro hl
    obtain rfl | ⟨before, name, rfl⟩ := path.eq_nil_or_concat
    · -- The object itself is not left out.
      cases h
      rw [leftOut_iff, ofJson_eq_ok_iff.mp hs] at hl
      cases hl
    · rw [List.concat_eq_append] at h ⊢
      exact ⟨⟨before, name, v⟩, mem_omitted.mpr ⟨h, hl⟩, rfl⟩
  · rintro ⟨o, ho, rfl⟩
    obtain ⟨ha, hl⟩ := mem_omitted.mp ho
    rwa [Option.some.inj (h.symm.trans ha)]

end Json

/-! ## All logs -/

/-- The log of a parser of a text shows its errors, in order, whatever it was asked for.
The log of an evaluation shows the calls that it makes, in order, each by the name it has
in the tree and the number of its arguments. The log of a conversion has one note for each
place, reached through objects only, at which there is null, an array, a decimal or an
integer that does not fit 64 bits; these are the places of the object that the struct
lacks. -/
theorem log_mirrors :
    (∀ text requests, let p := (Parser.ofText text).after requests
      p.log = p.errors.map SyntaxError.entry) ∧
    (∀ (setting : Setting) e s, ∃ made : List Invocation,
      (setting.run e s).2.calls = s.calls ++ made.map (·.call) ∧
      (setting.run e s).2.log = s.log ++ made.map (·.call.entry) ∧
      ∀ i ∈ made, setting.Invoked e i) ∧
    (∀ json : Json, ∃ left : List Json.Omitted,
      json.omissions = left.map Json.Omitted.entry ∧ left.Nodup ∧
      (∀ o, o ∈ left ↔ json.at? o.place = some o.value ∧ o.value.leftOut = true) ∧
      ∀ s path v, Struct.ofJson json = .ok s → json.at? path = some v →
        ((Value.struct s).at? path = none ↔ ∃ o ∈ left, o.place = path)) := by
  refine ⟨Parser.log_after, fun setting => setting.exists_log_eq, fun json => ?_⟩
  exact ⟨json.omitted, json.omissions_eq, json.nodup_omitted, fun o => Json.mem_omitted,
    fun s path v hs h => Json.at?_eq_none_iff hs h⟩

end StepCondition
