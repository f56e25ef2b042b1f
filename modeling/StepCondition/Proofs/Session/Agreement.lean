import StepCondition.Proofs.Check.Run
import StepCondition.Proofs.Session.Transcript
import StepCondition.Proofs.Token.Trimming

/-!
# Sessions and checks

A session that reads a condition as its only line and a check of the condition in the
same scope find the same (`Check.Agrees`), but for one thing: a session trims its
lines. A check does not, and only blanks of ASCII may stand around a condition, so it
has errors where trimming takes away another blank.

* `Session.output_line`: the transcript of a session on one line;
* `check_agrees`: what trimming takes away decides whether both find the same.
-/

namespace StepCondition

open Unicode

namespace Session

/-! ## One line -/

/-- The bytes of a text. -/
def bytes (text : String) : List UInt8 := text.toUTF8.data.toList

theorem fromUTF8?_bytes (text : String) :
    String.fromUTF8? ⟨(bytes text).toArray⟩ = some text := by
  rw [bytes, Array.toArray_toList]
  exact dif_pos text.isValidUTF8

theorem bytes_eq_flatMap (text : String) :
    bytes text = text.toList.flatMap String.utf8EncodeChar := by
  rw [bytes, String.toUTF8_eq_toByteArray, ← String.utf8Encode_toList]
  exact List.toList_data_toByteArray

/-- Only the characters of ASCII have bytes of ASCII. -/
theorem le_of_mem_utf8EncodeChar {c : Char} (h : 128 ≤ c.val.toNat) :
    ∀ b ∈ String.utf8EncodeChar c, 128 ≤ b.toNat := by
  have hc : ¬ c.val.toNat ≤ 127 := by omega
  simp only [String.utf8EncodeChar, if_neg hc]
  split
  on_goal 2 => split
  all_goals
    simp only [List.forall_mem_cons, UInt8.toNat_ofNat', List.not_mem_nil, false_imp_iff,
      implies_true, and_true]
    omega

/-- Only a line feed has the byte of one. -/
theorem eq_of_mem_utf8EncodeChar {c : Char} (h : '\n'.toUInt8 ∈ String.utf8EncodeChar c) :
    c = '\n' := by
  have hc : c.val.toNat ≤ 127 := Nat.le_of_not_lt fun hlt =>
    absurd (le_of_mem_utf8EncodeChar hlt _ h) (by decide)
  simp only [String.utf8EncodeChar, if_pos hc, List.mem_singleton] at h
  have hn := congrArg UInt8.toNat h
  rw [UInt8.toNat_ofNat', Nat.mod_eq_of_lt (by omega)] at hn
  exact Char.ext (UInt32.toNat_inj.mp hn.symm)

theorem not_mem_bytes {text : String} (h : '\n' ∉ text.toList) : '\n'.toUInt8 ∉ bytes text := by
  rw [bytes_eq_flatMap, List.mem_flatMap]
  rintro ⟨c, hc, hb⟩
  exact h (eq_of_mem_utf8EncodeChar hb ▸ hc)

theorem bytes_ne_nil {text : String} (h : text ≠ "") : bytes text ≠ [] := by
  rw [bytes_eq_flatMap, Ne, List.flatMap_eq_nil_iff]
  intro hb
  refine h (String.toList_eq_nil_iff.mp (List.eq_nil_iff_forall_not_mem.mpr fun c hc => ?_))
  exact String.utf8EncodeChar_ne_nil (hb c hc)

/-- Bytes without a line feed are one line, whether a line feed follows or not. -/
theorem lines_of_not_mem {ending : List UInt8} (hend : ending = [] ∨ ending = ['\n'.toUInt8]) :
    {bs : List UInt8} → '\n'.toUInt8 ∉ bs → bs ≠ [] → lines (bs ++ ending) = [bs]
  | [b], h, _ => by
    have hb : b ≠ '\n'.toUInt8 := fun he => h (he ▸ List.mem_singleton_self _)
    obtain rfl | rfl := hend <;> simp [lines, hb]
  | b :: b' :: bs, h, _ => by
    obtain ⟨hb, hbs⟩ := not_or.mp (List.mem_cons.not.mp h)
    rw [List.cons_append, lines, if_neg (Ne.symm hb),
      lines_of_not_mem hend hbs (List.cons_ne_nil _ _)]

/-- A session on one line that does not end it. -/
theorem output_line (setting : Setting) (interactive : Bool) {line text : String}
    {ending : List UInt8} (htext : String.ofList (trim line.toList) = text)
    (h : text ∉ ["", "quit", "exit"]) (hn : '\n' ∉ line.toList)
    (hend : ending = [] ∨ ending = ['\n'.toUInt8]) :
    (run setting interactive (bytes line ++ ending)).output =
      answer.ask interactive ++ response setting [] text ++ answer.ask interactive := by
  have hline : line ≠ "" := by
    rintro rfl
    exact h (htext ▸ by decide)
  have hcontent : content? (bytes line) = some text := by
    rw [content?, fromUTF8?_bytes, Option.map_some, htext]
  have hcloses : closes (bytes line) = false := by
    simp only [List.mem_cons, not_or] at h
    simp [closes, hcontent, h]
  rw [run, lines_of_not_mem hend (not_mem_bytes hn) (bytes_ne_nil hline),
    (answer_eq setting interactive _ _).1, answered_of_content hcloses hcontent, written_cons]
  simp [answered, written, String.append_assoc]

end Session

/-! ## Agreement -/

/-- What a session writes in answer to a condition tells what a check of it finds. -/
inductive Check.Agrees (check : Check) : String → Prop where
  | errors (found : List SyntaxError) (h : check.run = .error (.parse found)) :
    check.Agrees
      ("Parser errors:\n" ++ String.join (found.map fun error => "\t" ++ error.message ++ "\n"))
  | value (e : Expr) (v : Value) (h : check.run = .ok (.value e v)) :
    check.Agrees ("Expression: " ++ e.render ++ "\n" ++ v.display ++ "\n")
  | failure (e : Expr) (message : String) (he : parse check.condition = .ok e)
    (h : check.run = .error (.evaluation message)) :
    check.Agrees ("Expression: " ++ e.render ++ "\n" ++ ("ERROR: " ++ message) ++ "\n")

variable {check : Check} {s : Struct}

/-- The response to a text that parses as the condition does tells what the check of it
finds. -/
theorem Check.agrees_response (hs : check.scope = .ok s) (hform : check.syntaxOnly = false)
    {text : String} (htext : text ≠ "") (hp : parse text = parse check.condition) :
    check.Agrees (Session.response { scope := s.get? } [] text) := by
  rw [Session.response, if_neg htext, hp]
  cases he : parse check.condition with
  | error found => exact .errors found (run_of_error he)
  | ok e =>
    have hrun := run_of_ok hform he hs
    simp only
    cases hv : (Setting.evaluate { scope := s.get? } e []).1 with
    | error message => exact .failure e message he (by rw [hrun, hv])
    | _ => exact .value e _ (by rw [hrun, hv])

/-- A session that reads a condition on one line, in the scope of a check, finds what a
check of the trimmed line finds. A check of the line as it is finds the same if
trimming takes away no blank that is read as a token, and so keeps the tokens. If it
does take one away, the check has errors. -/
theorem check_agrees {interactive : Bool} {ending : List UInt8} (hform : check.syntaxOnly = false)
    (hs : check.scope = .ok s) (hn : '\n' ∉ check.condition.toList)
    (htext : String.ofList (trim check.condition.toList) ∉ ["", "quit", "exit"])
    (hend : ending = [] ∨ ending = ['\n'.toUInt8]) :
    let trimmed : Check := { check with condition := .ofList (trim check.condition.toList) }
    let stray := strayEnds check.condition.toList
    let ask := if interactive then ">> " else ""
    ∃ answer,
      (Session.run { scope := s.get? } interactive
        (Session.bytes check.condition ++ ending)).output = ask ++ answer ++ ask ∧
      trimmed.Agrees answer ∧
      (tokens trimmed.condition.toList = tokens check.condition.toList ↔ stray = []) ∧
      (stray = [] → check.Agrees answer) ∧
      (stray ≠ [] → ∃ es, es ≠ [] ∧ check.run = .error (.parse es)) := by
  intro trimmed stray ask
  have htrim : trimmed.condition ≠ "" := fun he => htext (he ▸ List.mem_cons_self)
  have htokens : tokens trimmed.condition.toList = tokens check.condition.toList ↔ stray = [] := by
    rw [String.toList_ofList]
    exact tokens_trim_iff hn
  refine ⟨_, Session.output_line _ interactive rfl htext hn hend, ?_, htokens,
    fun hstray => ?_, fun hstray => ?_⟩
  · exact @Check.agrees_response trimmed s hs hform _ htrim rfl
  · exact Check.agrees_response hs hform htrim (parse_congr (htokens.mpr hstray))
  · obtain ⟨b, hb⟩ := List.exists_mem_of_ne_nil _ hstray
    obtain ⟨es, hes, hp⟩ := parse_of_illegal_mem (mem_tokens_of_mem_strayEnds hn hb)
    exact ⟨es, hes, Check.run_of_error hp⟩

/-- A condition between tabs, read from a terminal. -/
theorem check_agrees_tabs :
    let check : Check := { condition := "\ttrue\t" }
    check.scope = .ok ∅ ∧ strayEnds check.condition.toList = [] ∧
    ∃ answer,
      (Session.run { scope := (∅ : Struct).get? } true
        (Session.bytes check.condition ++ ['\n'.toUInt8])).output = ">> " ++ answer ++ ">> " ∧
      check.Agrees answer := by
  intro check
  have hstray : strayEnds check.condition.toList = [] := by
    have hl : strays (leading check.condition.toList) = [] := by decide
    have ht : strays (trailing check.condition.toList) = [] := by decide
    simp [strayEnds, hl, ht]
  obtain ⟨answer, ho, -, -, ha, -⟩ := @check_agrees check ∅ true ['\n'.toUInt8] rfl rfl (by decide)
    (by decide) (.inr rfl)
  exact ⟨rfl, hstray, answer, ho, ha hstray⟩

/-- A condition after a no-break space: a session answers it with its value, and a check
has errors. -/
theorem not_agrees_noBreakSpace :
    let check : Check := { condition := "\u00a0true" }
    let output := (Session.run { scope := (∅ : Struct).get? } false
      (Session.bytes check.condition ++ ['\n'.toUInt8])).output
    check.scope = .ok ∅ ∧ '\n' ∉ check.condition.toList ∧
    String.ofList (trim check.condition.toList) = "true" ∧
    output = "Expression: true\ntrue\n" ∧ (∃ es, check.run = .error (.parse es)) ∧
    ¬ check.Agrees output := by
  intro check output
  have hn : '\n' ∉ check.condition.toList := by decide
  have htext : String.ofList (trim check.condition.toList) = "true" := by decide
  have hp : parse "true" = .ok (.boolean true) := by decide +kernel
  have ho : output = "Expression: true\ntrue\n" := by
    refine (Session.output_line _ false htext (by decide) hn (.inr rfl)).trans ?_
    rw [Session.response, if_neg (by decide), hp]
    decide +kernel
  have hb : '\u00a0' ∈ strayEnds check.condition.toList := List.mem_append_left _ (by decide)
  obtain ⟨es, -, hes⟩ := parse_of_illegal_mem (mem_tokens_of_mem_strayEnds hn hb)
  have hr := Check.run_of_error hes
  refine ⟨rfl, hn, htext, ho, ⟨es, hr⟩, fun h => ?_⟩
  rw [ho] at h
  generalize hw : "Expression: true\ntrue\n" = written at h
  cases h with
  | errors found h =>
    have hhead := congrArg (·.toList.head?) hw
    simp [String.toList_append] at hhead
  | value e v h => cases hr.symm.trans h
  | failure e message he h => cases hr.symm.trans h

end StepCondition
