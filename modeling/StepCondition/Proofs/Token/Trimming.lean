import Mathlib.Data.List.DropRight
import StepCondition.Proofs.Token.Cutting
import StepCondition.Unicode.Blank

/-!
# Tokens of a trimmed text

Blanks are many (`Unicode.isBlank`), and only those of ASCII may stand between tokens
(`isLayout`); every other blank is an illegal token of its own. So a text without the
blanks at its ends may have fewer tokens. What is left of the text has the same ones,
because no blank is part of another token, unless it is in a literal: the blanks at the
end come to nothing only if the text ends within a comment or within a literal that
nothing closes (`endsInside`).

* `tokens_append_blanks`: what the blanks after a text on the same line are read as;
* `tokens_trim_iff`: trimming a line keeps its tokens exactly if it takes away none.
-/

namespace StepCondition

open Unicode

/-! ## Blanks are part of no token -/

/-- Of some characters none is in a table if a reading of it finds none. -/
theorem not_contains_ofTable {table : String} {cs : List Char} (h : table = String.ofList cs)
    {ns : List Nat}
    (hn : ns.all (fun n => !(Ranges.read none none cs).contains (Char.ofNat n)) = true) :
    ∀ n ∈ ns, (Ranges.ofTable table).contains (Char.ofNat n) = false := fun n hm => by
  rw [Ranges.ofTable, h, String.toList_ofList]
  simpa using List.all_eq_true.mp hn n hm

/-- The blanks beyond ASCII. -/
def farBlanks : List Nat :=
  [0x85, 0xA0, 0x1680] ++ List.range' 0x2000 11 ++ [0x2028, 0x2029, 0x202F, 0x205F, 0x3000]

set_option maxRecDepth 100000 in
theorem not_alphabetic_farBlanks :
    ∀ n ∈ farBlanks, alphabetic.contains (Char.ofNat n) = false := by
  refine not_contains_ofTable rfl ?_
  decide +kernel

set_option maxRecDepth 100000 in
theorem not_numeric_farBlanks : ∀ n ∈ farBlanks, numeric.contains (Char.ofNat n) = false := by
  refine not_contains_ofTable rfl ?_
  decide +kernel

/-- The blanks of ASCII. -/
def nearBlanks : List Nat := [0x9, 0xA, 0xB, 0xC, 0xD, 0x20]

theorem toNat_of_isBlank {c : Char} (h : isBlank c = true) : c.toNat ∈ nearBlanks ++ farBlanks := by
  simp only [isBlank, blank, Ranges.contains] at h
  simp only [nearBlanks, farBlanks, List.mem_append, List.mem_cons, List.not_mem_nil, or_false,
    List.mem_range'_1]
  grind

theorem not_continuesName_nearBlanks :
    nearBlanks.all (fun n => !continuesName (Char.ofNat n)) = true := by decide

/-- No name goes on with a blank. -/
theorem continuesName_of_isBlank {c : Char} (h : isBlank c = true) : continuesName c = false := by
  obtain hn | hn := List.mem_append.mp (toNat_of_isBlank h)
  · have hc := List.all_eq_true.mp not_continuesName_nearBlanks _ hn
    rwa [Char.ofNat_toNat, Bool.not_eq_true'] at hc
  · have ha := not_alphabetic_farBlanks _ hn
    have hm := not_numeric_farBlanks _ hn
    rw [Char.ofNat_toNat] at ha hm
    have hle : farBlanks.all (0x80 ≤ ·) = true := by decide
    have hlt : ¬ c.toNat < 0x80 := Nat.not_lt.mpr (by simpa using List.all_eq_true.mp hle _ hn)
    have hu : c ≠ '_' := by
      rintro rfl
      exact hlt (by decide)
    simp [continuesName, isAlphanumeric, isAlphabetic, isNumeric, hlt, ha, hm, hu]

theorem continuesName_of_startsName {c : Char} (h : startsName c = true) :
    continuesName c = true := by
  simp only [startsName, continuesName, isAlphanumeric, Bool.or_eq_true] at h ⊢
  exact h.imp_left .inl

theorem isDigit_of_isBlank {c : Char} (h : isBlank c = true) : c.isDigit = false :=
  Bool.eq_false_iff.mpr fun hd => by
    have hc := continuesName_of_isDigit hd
    rw [continuesName_of_isBlank h] at hc
    cases hc

theorem ne_of_isBlank {c d : Char} (h : isBlank c = true) (hd : isBlank d = false) : c ≠ d := by
  rintro rfl
  cases h.symm.trans hd

theorem symbol?_of_isBlank {c : Char} (h : isBlank c = true) (cs : List Char) :
    Token.symbol? c cs = none := by
  unfold Token.symbol?
  split <;> first | rfl | exact absurd h (by decide)

/-- A blank that may not stand between tokens is an illegal token. -/
theorem scanToken_of_isBlank {c : Char} (h : isBlank c = true) (cs : List Char) :
    c ≠ '#' ∧ c ∉ Token.delimiters ∧ scanToken c cs = (.illegal c, cs) := by
  have hs : startsName c = false := Bool.eq_false_iff.mpr fun hs => by
    have hc := continuesName_of_startsName hs
    rw [continuesName_of_isBlank h] at hc
    cases hc
  have hd := isDigit_of_isBlank h
  have h1 : c ≠ '"' := ne_of_isBlank h (by decide)
  have h2 : c ≠ '\'' := ne_of_isBlank h (by decide)
  have h3 : c ≠ '/' := ne_of_isBlank h (by decide)
  refine ⟨ne_of_isBlank h (by decide), by simp [Token.delimiters, h1, h2, h3], ?_⟩
  simp [scanToken, h1, h2, h3, hs, hd, symbol?_of_isBlank h]

/-! ## What a blank ends -/

theorem takeWhile_append_of_head? {α : Type} {p : α → Bool} {rest : List α}
    (h : ∀ a ∈ rest.head?, p a = false) (l : List α) :
    (l ++ rest).takeWhile p = l.takeWhile p ∧ (l ++ rest).dropWhile p = l.dropWhile p ++ rest := by
  induction l with
  | nil => exact takeWhile_of_head? h
  | cons a l ih =>
    cases ha : p a with
    | false => simp [ha]
    | true => simp [ha, ih]

theorem symbol?_cons_append (c d : Char) (cs rest : List Char) :
    Token.symbol? c (d :: (cs ++ rest)) =
      (Token.symbol? c (d :: cs)).map fun r => (r.1, r.2 ++ rest) := by
  unfold Token.symbol?
  split <;> simp_all

theorem symbol?_blank {d : Char} (h : isBlank d = true) (c : Char) (rest : List Char) :
    Token.symbol? c (d :: rest) =
      (Token.symbol? c []).map fun r => (r.1, r.2 ++ d :: rest) := by
  have hb : ['=', '~', '&', '|', '>'].all (!isBlank ·) = true := by decide
  have hne : ∀ e ∈ ['=', '~', '&', '|', '>'], d ≠ e := fun e he =>
    ne_of_isBlank h (by simpa using List.all_eq_true.mp hb e he)
  simp only [List.forall_mem_cons] at hne
  unfold Token.symbol?
  split <;> simp_all

theorem symbol?_append {rest : List Char} (h : ∀ d ∈ rest.head?, isBlank d = true) (c : Char)
    (cs : List Char) :
    Token.symbol? c (cs ++ rest) = (Token.symbol? c cs).map fun r => (r.1, r.2 ++ rest) := by
  cases cs with
  | nil =>
    cases rest with
    | nil => simp
    | cons d rest => exact symbol?_blank (h d rfl) c rest
  | cons d cs => exact symbol?_cons_append c d cs rest

theorem scanDelimited_of_mem (token : String → Token) {d : Char} {text : List Char}
    (h : d ∉ text) (rest : List Char) :
    scanDelimited token d (text ++ d :: rest) = (token (.ofList text), rest) := by
  have hd : d ∉ (String.ofList text).toList := by simpa using h
  have hs := scanDelimited_written token hd rest
  rwa [String.toList_ofList, List.append_assoc] at hs

theorem scanDelimited_append {d : Char} {cs : List Char} (h : d ∈ cs) (token : String → Token)
    (rest : List Char) :
    scanDelimited token d (cs ++ rest) =
      ((scanDelimited token d cs).1, (scanDelimited token d cs).2 ++ rest) := by
  obtain ⟨text, more, rfl, hn⟩ := List.eq_append_cons_of_mem h
  rw [List.append_assoc, List.cons_append, scanDelimited_of_mem token hn,
    scanDelimited_of_mem token hn]

theorem scanDelimited_of_not_mem (token : String → Token) {d : Char} {cs : List Char}
    (h : d ∉ cs) : scanDelimited token d cs = (.illegal d, []) := by
  have hd : cs.dropWhile (· ≠ d) = [] :=
    List.dropWhile_eq_nil_iff.mpr fun c hc => decide_eq_true fun he => h (he ▸ hc)
  rw [scanDelimited, hd]

/-- A literal that nothing closes takes all the text. -/
theorem scanToken_unclosed {c : Char} {cs : List Char} (hc : c ∈ Token.delimiters) (h : c ∉ cs) :
    scanToken c cs = (.illegal c, []) := by
  simp only [Token.delimiters, List.mem_cons, List.not_mem_nil, or_false] at hc
  obtain rfl | rfl | rfl := hc <;> exact scanDelimited_of_not_mem _ h

/-- A blank ends every token but a literal that nothing closes. -/
theorem scanToken_append {rest : List Char} (h : ∀ d ∈ rest.head?, isBlank d = true) {c : Char}
    {cs : List Char} (hc : c ∈ Token.delimiters → c ∈ cs) :
    scanToken c (cs ++ rest) = ((scanToken c cs).1, (scanToken c cs).2 ++ rest) := by
  unfold scanToken
  split
  · rename_i hq
    refine scanDelimited_append (hc ?_) _ rest
    simp only [Bool.or_eq_true, decide_eq_true_eq] at hq
    obtain rfl | rfl := hq <;> decide
  split
  · rename_i hs
    exact scanDelimited_append (hc (hs ▸ by decide)) _ rest
  split
  · obtain ⟨ht, hd⟩ := takeWhile_append_of_head?
      (fun d hd => continuesName_of_isBlank (h d hd)) cs
    rw [ht, hd]
  split
  · obtain ⟨ht, hd⟩ := takeWhile_append_of_head? (fun d hd => isDigit_of_isBlank (h d hd)) cs
    rw [ht, hd]
  · rw [symbol?_append h]
    cases Token.symbol? c cs <;> rfl

/-! ## Text after a text -/

mutual

/-- Whether a text of blanks and comments ends within a comment. -/
def layoutEndsInside : List Char → Bool
  | [] => false
  | c :: cs => if isLayout c then layoutEndsInside cs else c = '#' && commentEndsInside cs

/-- `layoutEndsInside` from within a comment. -/
def commentEndsInside : List Char → Bool
  | [] => true
  | c :: cs => if c = '\n' then layoutEndsInside cs else commentEndsInside cs

end

/-- Whether a text ends within a comment or within a literal that nothing closes. -/
def endsInside (cs : List Char) : Bool :=
  match h : skipLayout cs with
  | [] => layoutEndsInside cs
  | c :: rest =>
    have : (scanToken c rest).2.length < cs.length := scanToken_length_lt h
    (c ∈ Token.delimiters && c ∉ rest) || endsInside (scanToken c rest).2
termination_by cs.length

mutual

theorem skipLayout_append_of_nil (rest : List Char) : ∀ {cs : List Char}, skipLayout cs = [] →
    skipLayout (cs ++ rest) = if layoutEndsInside cs then skipComment rest else skipLayout rest
  | [], _ => rfl
  | c :: cs, h => by
    rw [skipLayout] at h
    rw [List.cons_append, skipLayout, layoutEndsInside]
    split at h
    · rename_i hl
      simp only [hl, if_true]
      exact skipLayout_append_of_nil rest h
    split at h
    · rename_i hl hc
      simp only [hc, if_true, decide_true, Bool.true_and]
      exact skipComment_append_of_nil rest h
    · cases h

theorem skipComment_append_of_nil (rest : List Char) : ∀ {cs : List Char}, skipComment cs = [] →
    skipComment (cs ++ rest) = if commentEndsInside cs then skipComment rest else skipLayout rest
  | [], _ => rfl
  | c :: cs, h => by
    rw [skipComment] at h
    rw [List.cons_append, skipComment, commentEndsInside]
    split at h
    · rename_i hc
      simp only [hc, if_true]
      exact skipLayout_append_of_nil rest h
    · rename_i hc
      simp only [hc, if_false]
      exact skipComment_append_of_nil rest h

end

theorem Layout.append_right {gap rest : List Char} (h : Layout gap rest) (hr : rest ≠ [])
    (more : List Char) : Layout gap (rest ++ more) := by
  induction h with
  | nil => exact .nil
  | blank hc _ ih => exact .blank hc (ih hr)
  | @comment text gap rest ht hend _ ih =>
    refine .comment ht ?_ (ih hr)
    rwa [← List.append_assoc, List.head?_append_of_ne_nil _ (by simp [hr])]

theorem skipLayout_append_of_cons {cs : List Char} {c : Char} {more : List Char}
    (h : skipLayout cs = c :: more) (rest : List Char) :
    skipLayout (cs ++ rest) = c :: (more ++ rest) := by
  obtain ⟨gap, hcs, hg⟩ := exists_layout cs
  obtain ⟨hl, hc⟩ := of_mem_head?_skipLayout (h ▸ rfl : c ∈ (skipLayout cs).head?)
  rw [h] at hcs hg
  have hs := (hg.append_right (List.cons_ne_nil c more) rest).skipLayout_append
  rw [hcs, List.append_assoc, hs, List.cons_append, skipLayout_cons hl hc]

theorem tokens_congr {cs ds : List Char} (h : skipLayout cs = skipLayout ds) :
    tokens cs = tokens ds := by
  cases hd : skipLayout ds with
  | nil => rw [tokens_eq_nil hd, tokens_eq_nil (h.trans hd)]
  | cons d rest => rw [tokens_eq_cons hd, tokens_eq_cons (h.trans hd)]

/-- The characters that may not stand between tokens. -/
def strays (cs : List Char) : List Char := cs.filter (!isLayout ·)

/-- Each blank that may not stand between tokens is an illegal token. -/
theorem tokens_blanks_append {bs : List Char} (h : ∀ b ∈ bs, isBlank b = true) (rest : List Char) :
    tokens (bs ++ rest) = (strays bs).map .illegal ++ tokens rest := by
  induction bs with
  | nil => rfl
  | cons b bs ih =>
    obtain ⟨hb, hbs⟩ := List.forall_mem_cons.mp h
    rw [List.cons_append]
    cases hl : isLayout b with
    | true =>
      rw [tokens_layout hl, ih hbs]
      simp [strays, hl]
    | false =>
      obtain ⟨hc, -, hs⟩ := scanToken_of_isBlank hb (bs ++ rest)
      rw [tokens_eq_cons (skipLayout_cons hl hc _), hs, ih hbs]
      simp [strays, hl]

theorem tokens_blanks {bs : List Char} (h : ∀ b ∈ bs, isBlank b = true) :
    tokens bs = (strays bs).map .illegal := by
  simpa [tokens_nil] using tokens_blanks_append h []

theorem skipComment_eq_nil {cs : List Char} (h : '\n' ∉ cs) : skipComment cs = [] := by
  have hs := @skipComment_append cs [] h nofun
  rwa [List.append_nil] at hs

/-- The blanks after a text on the same line are read for themselves, if the text does not
end within something. -/
theorem tokens_append_blanks {bs : List Char} (h : ∀ b ∈ bs, isBlank b = true) (hn : '\n' ∉ bs)
    (cs : List Char) :
    tokens (cs ++ bs) = tokens cs ++ if endsInside cs then [] else (strays bs).map .illegal := by
  have hhead : ∀ b ∈ bs.head?, isBlank b = true := fun b hb => h b (List.mem_of_mem_head? hb)
  induction cs using tokens.induct with
  | case1 cs hs =>
    have he : endsInside cs = layoutEndsInside cs := by
      rw [endsInside]
      split
      · rfl
      · rename_i hs'
        cases hs.symm.trans hs'
    have hskip := skipLayout_append_of_nil bs hs
    rw [tokens_eq_nil hs, he, List.nil_append]
    cases hl : layoutEndsInside cs with
    | true =>
      rw [hl, if_pos rfl, skipComment_eq_nil hn] at hskip
      exact tokens_eq_nil hskip
    | false =>
      rw [hl, if_neg (by decide)] at hskip
      rw [tokens_congr hskip, tokens_blanks h]
      rfl
  | case2 cs c rest hs _ ih =>
    have he : endsInside cs =
        ((c ∈ Token.delimiters && c ∉ rest) || endsInside (scanToken c rest).2) := by
      rw [endsInside]
      split
      · rename_i hs'
        cases hs.symm.trans hs'
      · rename_i hs'
        cases hs.symm.trans hs'
        rfl
    rw [tokens_eq_cons hs, tokens_eq_cons (skipLayout_append_of_cons hs bs), he]
    by_cases hu : c ∈ Token.delimiters ∧ c ∉ rest
    · -- The literal takes the blanks as well.
      have hb : c ∉ rest ++ bs := by
        rw [List.mem_append, not_or]
        exact ⟨hu.2, fun hc => (scanToken_of_isBlank (h c hc) []).2.1 hu.1⟩
      rw [scanToken_unclosed hu.1 hu.2, scanToken_unclosed hu.1 hb]
      simp [hu, tokens_nil]
    · have hc : c ∈ Token.delimiters → c ∈ rest := fun hd => by_contra fun hr => hu ⟨hd, hr⟩
      have hd : (decide (c ∈ Token.delimiters) && decide (c ∉ rest)) = false := by
        simpa using hc
      rw [scanToken_append hhead hc, hd, Bool.false_or, ih, List.cons_append]

/-! ## Trimming -/

/-- The blanks at the start of a text. -/
def leading (cs : List Char) : List Char := cs.takeWhile isBlank

/-- The blanks at the end of a text, unless it is all blank. -/
def trailing (cs : List Char) : List Char := (cs.dropWhile isBlank).rtakeWhile isBlank

theorem eq_append_trim (cs : List Char) : cs = leading cs ++ (trim cs ++ trailing cs) := by
  have h := (cs.dropWhile isBlank).reverse.takeWhile_append_dropWhile (p := isBlank)
  have hr := congrArg List.reverse h
  rw [List.reverse_append, List.reverse_reverse] at hr
  rw [leading, trim, trailing, List.rtakeWhile, hr, List.takeWhile_append_dropWhile]

theorem isBlank_of_mem_leading {cs : List Char} {b : Char} (h : b ∈ leading cs) :
    isBlank b = true := List.mem_takeWhile_imp h

theorem isBlank_of_mem_trailing {cs : List Char} {b : Char} (h : b ∈ trailing cs) :
    isBlank b = true := List.mem_rtakeWhile_imp h

/-- The blanks that trimming takes away from a line although they are read as tokens. -/
def strayEnds (cs : List Char) : List Char :=
  strays (leading cs) ++ if endsInside (trim cs) then [] else strays (trailing cs)

/-- The blanks at the ends of a line, as they are read. -/
theorem tokens_eq_trim {cs : List Char} (h : '\n' ∉ cs) :
    tokens cs = (strays (leading cs)).map .illegal ++ (tokens (trim cs) ++
      if endsInside (trim cs) then [] else (strays (trailing cs)).map .illegal) := by
  have hn : '\n' ∉ trailing cs := fun hm => h <| by
    rw [eq_append_trim cs]
    simp [hm]
  conv_lhs => rw [eq_append_trim cs]
  rw [tokens_blanks_append fun b => isBlank_of_mem_leading,
    tokens_append_blanks (fun b => isBlank_of_mem_trailing) hn]

theorem length_tokens_eq_trim {cs : List Char} (h : '\n' ∉ cs) :
    (tokens cs).length = (tokens (trim cs)).length + (strayEnds cs).length := by
  rw [tokens_eq_trim h, strayEnds]
  split <;> simp only [List.length_append, List.length_map, List.length_nil] <;> omega

/-- A stray blank is read as an illegal token. -/
theorem mem_tokens_of_mem_strayEnds {cs : List Char} (h : '\n' ∉ cs) {b : Char}
    (hb : b ∈ strayEnds cs) : .illegal b ∈ tokens cs := by
  rw [tokens_eq_trim h]
  obtain hl | ht := List.mem_append.mp hb
  · exact List.mem_append_left _ (List.mem_map_of_mem hl)
  · split at ht
    · cases ht
    · rw [if_neg ‹_›]
      exact List.mem_append_right _ (List.mem_append_right _ (List.mem_map_of_mem ht))

/-- Trimming keeps the tokens of a line exactly if it takes away none. -/
theorem tokens_trim_iff {cs : List Char} (h : '\n' ∉ cs) :
    tokens (trim cs) = tokens cs ↔ strayEnds cs = [] := by
  constructor
  · intro ht
    have hlen := length_tokens_eq_trim h
    rw [ht] at hlen
    exact List.length_eq_zero_iff.mp (by omega)
  · intro hs
    obtain ⟨hl, ht⟩ := List.append_eq_nil_iff.mp hs
    rw [tokens_eq_trim h, hl]
    split at ht <;> simp [*]

end StepCondition
