import StepCondition.Proofs.Evaluation.Failures
import StepCondition.Proofs.Evaluation.References
import StepCondition.Proofs.Parser.Language
import StepCondition.Session

/-!
# The transcript of a session

A session reads a line at a time (`Session.lines`). A line that is no text, or that
says `quit` or `exit`, ends it (`Session.closes`). What is written in answer to each
line before that is a function of its text, without the blanks at its ends, and of
what the host remembers of earlier calls (`Session.response`).

* `Session.lines_flatMap`: the lines are the input, cut at its line feeds;
* `Session.reply_response`: the answer to a line that does not end the session;
* `Session.answer_eq`: what a session makes of its lines, by induction on them;
* `session_transcript`: the whole of it.
-/

namespace StepCondition

namespace Session

/-! ## Lines -/

theorem lines_cons_of_ne {b : UInt8} (h : b ≠ '\n'.toUInt8) (bs : List UInt8) :
    (lines bs = [] ∧ lines (b :: bs) = [[b]]) ∨
      ∃ line more, lines bs = line :: more ∧ lines (b :: bs) = (b :: line) :: more := by
  rw [lines, if_neg h]
  cases lines bs with
  | nil => exact .inl ⟨rfl, rfl⟩
  | cons line more => exact .inr ⟨line, more, rfl, rfl⟩

/-- No line has a line feed in it. -/
theorem not_mem_of_mem_lines {line : List UInt8} :
    {bs : List UInt8} → line ∈ lines bs → '\n'.toUInt8 ∉ line
  | [], h => absurd h List.not_mem_nil
  | b :: bs, h => by
    by_cases hb : b = '\n'.toUInt8
    · rw [lines, if_pos hb] at h
      obtain rfl | h := List.mem_cons.mp h
      · exact List.not_mem_nil
      · exact not_mem_of_mem_lines h
    · obtain ⟨-, he⟩ | ⟨first, more, hbs, he⟩ := lines_cons_of_ne hb bs
      · rw [he, List.mem_singleton] at h
        simpa [h] using Ne.symm hb
      · rw [he] at h
        obtain rfl | h := List.mem_cons.mp h
        · have hfirst := not_mem_of_mem_lines (hbs ▸ List.mem_cons_self : first ∈ lines bs)
          simpa [Ne.symm hb] using hfirst
        · exact not_mem_of_mem_lines (hbs ▸ List.mem_cons_of_mem _ h)

/-- The lines with a line feed after each are the input, but for a line feed that it
may lack at its end, after a line that is not empty. -/
theorem lines_flatMap : (bs : List UInt8) →
    (lines bs).flatMap (· ++ ['\n'.toUInt8]) = bs ∨
      (lines bs).flatMap (· ++ ['\n'.toUInt8]) = bs ++ ['\n'.toUInt8] ∧
        (lines bs).getLast? ≠ some []
  | [] => .inl rfl
  | b :: bs => by
    by_cases hb : b = '\n'.toUInt8
    · rw [lines, if_pos hb, List.flatMap_cons, hb]
      obtain h | ⟨h, hl⟩ := lines_flatMap bs
      · exact .inl (congrArg _ h)
      · refine .inr ⟨congrArg _ h, ?_⟩
        cases hbs : lines bs with
        | nil => simp [hbs] at h
        | cons line more => rwa [List.getLast?_cons_cons, ← hbs]
    · obtain ⟨hbs, he⟩ | ⟨line, more, hbs, he⟩ := lines_cons_of_ne hb bs
      · obtain h | ⟨h, -⟩ := lines_flatMap bs
        · rw [hbs] at h
          rw [he, ← h]
          exact .inr ⟨rfl, by simp⟩
        · simp [hbs] at h
      · have hf := lines_flatMap bs
        rw [hbs, List.flatMap_cons] at hf
        rw [he, List.flatMap_cons]
        refine hf.imp (congrArg (b :: ·)) fun ⟨h, hl⟩ => ⟨congrArg (b :: ·) h, ?_⟩
        cases more with
        | nil => simp
        | cons => simpa using hl

/-! ## Answers -/

/-- What a line is read as: its text without the blanks at its ends, if it is one. -/
def content? (line : List UInt8) : Option String :=
  (String.fromUTF8? ⟨line.toArray⟩).map fun text => String.ofList (Unicode.trim text.toList)

/-- Whether a session ends at a line. -/
def closes (line : List UInt8) : Bool :=
  match content? line with
  | none => true
  | some text => text = "quit" || text = "exit"

/-- The texts that a session answers: those of the lines before the one that ends
it. -/
def answered (lines : List (List UInt8)) : List String :=
  (lines.takeWhile (!closes ·)).filterMap content?

theorem answered_of_closes {line : List UInt8} (h : closes line = true)
    (more : List (List UInt8)) : answered (line :: more) = [] := by simp [answered, h]

theorem answered_of_content {line : List UInt8} {text : String} (h : closes line = false)
    (htext : content? line = some text) (more : List (List UInt8)) :
    answered (line :: more) = text :: answered more := by simp [answered, h, htext]

variable (setting : Setting)

/-- What is written in answer to a text, after some calls. -/
def response (before : List Call) (text : String) : String :=
  if text = "" then ""
  else
    match parse text with
    | .error errors =>
      "Parser errors:\n" ++ String.join (errors.map fun error => "\t" ++ error.message ++ "\n")
    | .ok e =>
      "Expression: " ++ e.render ++ "\n" ++ (setting.evaluate e before).1.display ++ "\n"

/-- The calls that have been made once a text is answered. -/
def callsAfter (before : List Call) (text : String) : List Call :=
  if text = "" then before
  else
    match parse text with
    | .error _ => before
    | .ok e => (setting.evaluate e before).2.calls

/-- Only an empty text is answered with silence. -/
theorem response_ne_empty (before : List Call) {text : String} (h : text ≠ "") :
    response setting before text ≠ "" := by
  have starts {s t : String} (hs : s ≠ "") : s ++ t ≠ "" := fun he =>
    hs (String.append_eq_empty_iff.mp he).1
  rw [response, if_neg h]
  split
  · exact starts (by decide)
  · simp only [String.append_assoc]
    exact starts (by decide)

/-- A text that says so is answered by leaving. -/
theorem reply_leave (before : List Call) {line : String} {text : String}
    (htext : String.ofList (Unicode.trim line.toList) = text) (h : text = "quit" ∨ text = "exit") :
    (reply setting before line).reply = .leave := by
  obtain rfl | rfl := h <;> simp [reply, htext]

/-- Any other text is answered by its response. -/
theorem reply_response (before : List Call) {line : String} {text : String}
    (htext : String.ofList (Unicode.trim line.toList) = text)
    (h : ¬ (text = "quit" ∨ text = "exit")) :
    ∃ r log, reply setting before line = ⟨r, callsAfter setting before text, log⟩ ∧
      r ≠ .leave ∧ r.text = response setting before text := by
  have hq : (decide (text = "quit") || decide (text = "exit")) = false := by simpa using h
  simp only [reply, response, callsAfter, htext, hq, Bool.false_eq_true, if_false]
  by_cases hempty : text = ""
  · simp only [hempty, if_true]
    exact ⟨.silence, [], rfl, nofun, rfl⟩
  simp only [hempty, if_false]
  obtain ⟨e, hp, he, herr⟩ | ⟨es, hp, hne, herr⟩ := parse_ofText text
  · simp only [hp, he, herr]
    exact ⟨.value e _, _, rfl, nofun, rfl⟩
  · obtain ⟨error, more, rfl⟩ := List.exists_cons_of_ne_nil hne
    simp only [hp, herr]
    cases (Parser.ofText text).parse.1 <;> exact ⟨.errors _, _, rfl, nofun, rfl⟩

/-! ## Runs -/

/-- What a session writes on some texts, after some calls: before each line that it
reads the prompt, if there is one, and after it the answer. It reads once more
than it answers. -/
def written (ask : String) (before : List Call) (texts : List String) : String :=
  String.join (List.zipWith (fun before text => ask ++ response setting before text)
    (texts.scanl (callsAfter setting) before) texts) ++ ask

theorem written_cons (ask : String) (before : List Call) (text : String) (texts : List String) :
    written setting ask before (text :: texts) = ask ++ response setting before text ++
      written setting ask (callsAfter setting before text) texts := by
  simp only [written, List.scanl_cons, List.zipWith_cons_cons, String.join_cons,
    String.append_assoc]

/-- A line that ends the session is the last one read, and nothing is written in
answer to it. -/
theorem answer_of_closes (interactive : Bool) (t : Transcript) {line : List UInt8}
    (h : closes line = true) (more : List (List UInt8)) :
    answer setting interactive t (line :: more) =
      { t with
        output := t.output ++ answer.ask interactive
        invalidText := t.invalidText || (content? line).isNone } := by
  rw [answer]
  cases hu : String.fromUTF8? ⟨line.toArray⟩ with
  | none => simp [content?, hu]
  | some text =>
    have hleave := @reply_leave setting t.calls text _ rfl
      (by simpa [closes, content?, hu] using h)
    rcases hr : reply setting t.calls text with ⟨r, calls, log⟩
    rw [hr] at hleave
    cases hleave
    simp [content?, hu, hr]

/-- Any other line is answered, and the session goes on. -/
theorem answer_of_content (interactive : Bool) (t : Transcript) {line : List UInt8}
    {text : String} (h : closes line = false) (htext : content? line = some text)
    (more : List (List UInt8)) :
    ∃ t' : Transcript, answer setting interactive t (line :: more) =
        answer setting interactive t' more ∧
      t'.output = t.output ++ (answer.ask interactive ++ response setting t.calls text) ∧
      t'.calls = callsAfter setting t.calls text ∧ t'.invalidText = t.invalidText := by
  obtain ⟨own, hu, hown⟩ := Option.map_eq_some_iff.mp htext
  obtain ⟨r, log, hr, hne, ht⟩ := reply_response setting t.calls hown
    (by simpa [closes, htext] using h)
  rw [answer]
  simp only [hu, hr]
  cases r with
  | leave => exact absurd rfl hne
  | _ => exact ⟨_, rfl, by rw [← ht, String.append_assoc], rfl, rfl⟩

/-- What a session makes of its lines. -/
theorem answer_eq (interactive : Bool) : (ls : List (List UInt8)) → (t : Transcript) →
    (answer setting interactive t ls).output =
      t.output ++ written setting (answer.ask interactive) t.calls (answered ls) ∧
    (answer setting interactive t ls).calls =
      (answered ls).foldl (callsAfter setting) t.calls ∧
    (answer setting interactive t ls).invalidText =
      (t.invalidText || (ls.find? closes).any (content? · |>.isNone))
  | [], t => by simp [answer, answered, written]
  | line :: more, t => by
    cases h : closes line with
    | true =>
      rw [answer_of_closes setting interactive t h, answered_of_closes h]
      simp [written, h]
    | false =>
      obtain ⟨text, htext⟩ : ∃ text, content? line = some text := by
        cases hc : content? line with
        | none => simp [closes, hc] at h
        | some text => exact ⟨text, rfl⟩
      obtain ⟨t', ht, houtput, hcalls, hinvalid⟩ :=
        answer_of_content setting interactive t h htext more
      obtain ⟨ho, hc, hi⟩ := answer_eq interactive more t'
      rw [ht, ho, hc, hi, houtput, hcalls, hinvalid, answered_of_content h htext, written_cons]
      simp [h, String.append_assoc]

/-! ## Hosts without a memory -/

variable {setting}

/-- What a host without a memory answers does not depend on the calls before, and so
nor does the value of a condition. -/
theorem evaluate_fst_of_same (h : ∀ calls calls', setting.host calls = setting.host calls')
    (e : Expr) (before before' : List Call) :
    (setting.evaluate e before).1 = (setting.evaluate e before').1 := by
  have hr := (Setting.run_congr (s := { calls := before }) (t := { calls := before' }) rfl
    (fun _ _ _ => by rw [h]) e).1
  rw [setting.evaluate_fst, setting.evaluate_fst, hr]

theorem response_of_same (h : ∀ calls calls', setting.host calls = setting.host calls')
    (before before' : List Call) (text : String) :
    response setting before text = response setting before' text := by
  simp only [response, evaluate_fst_of_same h _ before before']

theorem written_of_same (h : ∀ calls calls', setting.host calls = setting.host calls')
    (ask : String) : (before : List Call) → (texts : List String) →
      written setting ask before texts =
        String.join (texts.map fun text => ask ++ response setting [] text) ++ ask
  | _, [] => by simp [written]
  | before, text :: texts => by
    rw [written_cons, written_of_same h ask _ texts, response_of_same h before []]
    simp [String.append_assoc]

end Session

/-- A session reads the lines of its input until one is no text or says `quit` or
`exit`, or until there are no more. What it writes is the prompt before each line
that it reads, if someone is there to see it, and after each line that it answers
the answer to its text: the errors that it parses to, or its tree and value. Only
an empty text is answered with silence. An answer depends on the other lines in no
way but by what the host remembers of earlier calls. -/
theorem session_transcript (setting : Setting) (interactive : Bool) (input : List UInt8) :
    let t := Session.run setting interactive input
    let ask := if interactive then ">> " else ""
    let texts := Session.answered (Session.lines input)
    t.output = Session.written setting ask [] texts ∧
    t.calls = texts.foldl (Session.callsAfter setting) [] ∧
    (t.invalidText = true ↔
      ∃ line, (Session.lines input).find? Session.closes = some line ∧
        Session.content? line = none) ∧
    ((∀ calls calls', setting.host calls = setting.host calls') →
      t.output =
        String.join (texts.map fun text => ask ++ Session.response setting [] text) ++ ask) ∧
    (∀ before text, Session.response setting before text = "" ↔ text = "") ∧
    (∀ line ∈ Session.lines input, '\n'.toUInt8 ∉ line) ∧
    ((Session.lines input).flatMap (· ++ ['\n'.toUInt8]) = input ∨
      (Session.lines input).flatMap (· ++ ['\n'.toUInt8]) = input ++ ['\n'.toUInt8] ∧
        (Session.lines input).getLast? ≠ some []) := by
  intro t ask texts
  obtain ⟨ho, hc, hi⟩ := Session.answer_eq setting interactive (Session.lines input) {}
  have houtput : t.output = Session.written setting ask [] texts := by
    rw [← String.empty_append (s := Session.written _ _ _ _)]
    exact ho
  refine ⟨houtput, hc, ?_, fun h => houtput.trans (Session.written_of_same h ask [] texts),
    fun before text => ⟨fun h => ?_, fun h => if_pos h⟩, fun line => Session.not_mem_of_mem_lines,
    Session.lines_flatMap input⟩
  · change (Session.answer setting interactive {} (Session.lines input)).invalidText = true ↔ _
    simp [hi, Option.any_eq_true]
  · exact Decidable.byContradiction fun hne => Session.response_ne_empty setting before hne h

end StepCondition
