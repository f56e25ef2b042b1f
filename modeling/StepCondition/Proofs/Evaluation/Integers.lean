import StepCondition.Proofs.Evaluation.Paths
import StepCondition.Proofs.Expr.RoundTrip

/-!
# Integers as conditions

The text of an integer is its digits, after a minus sign if it is negative. As a condition it is
a number or the negation of one (`Expr.ofInteger`), and it comes to the integer that it shows.
The least integer is the exception: its digits alone spell a number that no integer holds, and
numbers are read without regard to a sign in front of them.

* `parse_decimal`: the tree of an integer's text;
* `Setting.finds_ofInteger`: the value of the tree;
* `integer_reads_back`: from an integer to its text and back.
-/

namespace StepCondition

/-- The condition that an integer's text is: a number, or the negation of one. -/
def Expr.ofInteger (n : Int64) : Expr :=
  if 0 ≤ n.toInt then .integer n else .unary .negate (.integer (-n))

/-! ## Negation -/

/-- Every integer but the least one has a negation. -/
theorem toInt_neg_of_ne_minValue {n : Int64} (h : n ≠ Int64.minValue) :
    (-n).toInt = -n.toInt := by
  have hle := n.le_toInt
  have hlt := n.toInt_lt
  have hne : n.toInt ≠ -2 ^ 63 := fun he =>
    h (Int64.toInt_inj.mp (he.trans Int64.toInt_minValue.symm))
  rw [Int64.toInt_neg]
  exact Int.bmod_eq_of_le (by omega) (by omega)

theorem neg_ne_minValue {n : Int64} (h : n ≠ Int64.minValue) : -n ≠ Int64.minValue := by
  intro he
  have hn : n = -Int64.minValue := by rw [← he, Int64.neg_neg]
  exact h (hn.trans (by decide))

/-! ## The tree of the text -/

theorem decimal_of_neg {n : Int} (h : n < 0) : Text.decimal n = '-' :: Text.decimal (-n) := by
  rw [Text.decimal, if_pos h, decimal_of_nonneg (by omega), Int.natAbs_neg]

/-- A negative number is read as a sign and the digits of its negation. -/
theorem tokens_decimal_of_neg {n : Int} (h : n < 0) :
    tokens (Text.decimal n) = [.minus, .integer (String.ofList (Text.decimal (-n)))] := by
  have hwritten : (Token.integer (String.ofList (Text.decimal (-n)))).written = Text.decimal (-n) :=
    String.toList_ofList ..
  have hsign := tokens_token (t := .minus) trivial (fun _ => rfl) (Text.decimal (-n))
  have hdigits := tokens_written (admissible_decimal (n := -n) (by omega))
    (nofun : Token.EndsAt _ [])
  rw [hwritten, List.append_nil, tokens_nil] at hdigits
  rw [decimal_of_neg h, ← hdigits]
  exact hsign

/-- A sign in front of a number is the negation of the number. -/
theorem parse_negated {text digits : String} {n : Int64}
    (ht : tokens text.toList = [.minus, .integer digits])
    (h : integerOfDigits? digits = some n) : parse text = .ok (.unary .negate (.integer n)) := by
  obtain ⟨c, hc⟩ := (Derivation.integer digits n h).exists_unary (by decide)
  obtain ⟨d, hd⟩ := (Derivation.signed .negate c).exists_or
  have htokens : d.tokens = tokens text.toList := by
    rw [hd.tokens, Derivation.tokens, hc.tokens, ht]
    rfl
  have htree : d.tree = .unary .negate (.integer n) := by
    rw [hd.tree, Derivation.tree, hc.tree]
    rfl
  have hnesting : d.nesting = 2 := by
    rw [hd.nesting, Derivation.nesting, hc.nesting]
    rfl
  rw [parse_derivation htokens, hnesting, htree]
  rfl

theorem render_integer (n : Int64) : (Expr.integer n).render = (Value.integer n).display := by
  rw [Expr.render, Expr.chars, Value.display]

/-- The text of an integer other than the least one is accepted. -/
theorem parse_decimal {n : Int64} (h : n ≠ Int64.minValue) :
    parse (Value.integer n).display = .ok (.ofInteger n) := by
  unfold Expr.ofInteger
  split
  · rename_i hn
    have hw : (Expr.integer n).WellFormed := hn
    rw [← render_integer]
    exact (parse_render hw).trans (if_pos (show 1 ≤ maxDepth by decide))
  · rename_i hn
    have hneg := toInt_neg_of_ne_minValue h
    have ht : tokens (Value.integer n).display.toList =
        [.minus, .integer (String.ofList (Text.decimal (-n).toInt))] := by
      rw [Value.display, String.toList_ofList, hneg]
      exact tokens_decimal_of_neg (by omega)
    exact parse_negated ht (integerOfDigits?_decimal (by omega))

/-- The least integer has the digits of a number that is out of range. -/
theorem parse_decimal_minValue :
    parse (Value.integer Int64.minValue).display =
      .error [.integerOutOfRange "9223372036854775808"] := by
  have ht := tokens_decimal_of_neg (n := Int64.minValue.toInt) (by decide)
  have hdigits : String.ofList (Text.decimal (-Int64.minValue.toInt)) = "9223372036854775808" := by
    decide
  have hp : Parser.ofText (Value.integer Int64.minValue).display =
      { input := [.minus, .integer "9223372036854775808"] } := by
    rw [Parser.ofText, Value.display, String.toList_ofList, ht, hdigits]
  rw [parse, hp]
  rfl

/-! ## The value of the tree -/

namespace Setting

variable {setting : Setting} {e : Expr} {v : Value} {levels more : Nat}

theorem Finds.mono (h : setting.Finds levels e v) (hle : levels ≤ more) :
    setting.Finds more e v := fun s hs =>
  h s fun limit hl => Nat.le_trans (Nat.add_le_add_left hle s.depth) (hs limit hl)

theorem finds_integer (n : Int64) : setting.Finds 1 (.integer n) (.integer n) := by
  intro s hs
  refine ⟨.ok (.integer n), ?_, .value rfl⟩
  rw [eval_integer, setting.nested_apply _ hs]
  rfl

theorem Finds.negate {n : Int64} (h : setting.Finds levels e (.integer n))
    (hn : n ≠ Int64.minValue) : setting.Finds (levels + 1) (.unary .negate e) (.integer (-n)) := by
  intro s hs
  obtain ⟨hadmits, hdeep⟩ := permits_deeper hs
  obtain ⟨r, hr, hy⟩ := h s.deeper hdeep
  cases hy with
  | value =>
    refine ⟨.ok (.integer (-n)), ?_, .value rfl⟩
    have happly : UnaryOp.negate.apply (.integer n) = settled (.ok (.integer (-n))) := by
      rw [UnaryOp.apply, if_neg hn]
      rfl
    rw [eval_unary, setting.nested_apply _ hadmits, bind_apply_ok hr, happly]
    rfl

/-- The condition of an integer comes to the integer. -/
theorem finds_ofInteger {n : Int64} (h : n ≠ Int64.minValue) :
    setting.Finds 2 (.ofInteger n) (.integer n) := by
  unfold Expr.ofInteger
  split
  · exact (finds_integer n).mono (by decide)
  · have hf : setting.Finds 2 (.unary .negate (.integer (-n))) (.integer (- -n)) :=
      (finds_integer (-n)).negate (neg_ne_minValue h)
    rwa [Int64.neg_neg] at hf

end Setting

/-- The text of an integer is that of its literal. If it is not the least integer, the text is
accepted as a condition, which in every scope comes to the integer, without a call. The text of
the least one has an error: its digits are out of range. -/
theorem integer_reads_back (n : Int64) :
    (Expr.integer n).render = (Value.integer n).display ∧
    (n ≠ Int64.minValue →
      parse (Value.integer n).display = .ok (.ofInteger n) ∧
      ∀ (scope : Scope) (host : Host) (before : List Call),
        let setting : Setting := { scope, host }
        setting.evaluate (.ofInteger n) before = (.integer n, { calls := before })) ∧
    (n = Int64.minValue → parse (Value.integer n).display =
      .error [.integerOutOfRange "9223372036854775808"]) := by
  refine ⟨render_integer n, fun h => ⟨parse_decimal h, fun scope host before => ?_⟩, ?_⟩
  · refine (Setting.finds_ofInteger h).evaluate ?_ before
    rintro _ ⟨⟩
    decide
  · rintro rfl
    exact parse_decimal_minValue

/-- The least integer that reads back. -/
theorem integer_reads_back_boundary :
    let n : Int64 := -9223372036854775807
    let text := "-9223372036854775807"
    n ≠ Int64.minValue ∧ (Value.integer n).display = text ∧ (Expr.integer n).render = text ∧
      parse text = .ok (.unary .negate (.integer 9223372036854775807)) ∧
      ({ scope := fun _ => none } : Setting).evaluate
        (.unary .negate (.integer 9223372036854775807)) [] = (.integer n, {}) := by
  intro n text
  have hn : n ≠ Int64.minValue := by decide
  have htext : (Value.integer n).display = text := by decide
  have htree : Expr.ofInteger n = .unary .negate (.integer 9223372036854775807) := by decide
  obtain ⟨hr, hread, -⟩ := integer_reads_back n
  obtain ⟨hp, hv⟩ := hread hn
  rw [htext] at hr hp
  rw [htree] at hp hv
  exact ⟨hn, htext, hr, hp, hv (fun _ => none) noHost []⟩

/-- Not every integer reads back: the least one does not. -/
theorem not_integer_reads_back :
    ¬ ∀ n : Int64, ∃ e, parse (Value.integer n).display = .ok e ∧
      ∀ (scope : Scope) (host : Host) (before : List Call),
        let setting : Setting := { scope, host }
        setting.evaluate e before = (.integer n, { calls := before }) := by
  intro h
  obtain ⟨e, he, -⟩ := h Int64.minValue
  cases he.symm.trans parse_decimal_minValue

end StepCondition
