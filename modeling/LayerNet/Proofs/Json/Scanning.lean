import LayerNet.Proofs.Decimal.Numerals
import LayerNet.Proofs.Json.Grammar
import LayerNet.Proofs.Json.Pieces

/-!
# Lexemes of what the grammar allows

White space is dropped, and words, numbers, texts and marks become lexemes.  Where a part of a
document ends is told by the part itself, but for numbers, which end where no word goes on.  So the
lexemes of a document are those of its parts with marks between them, and what stands behind a part
makes no difference to it.

Main definitions:

- `Scans`: the lexemes of a part, whatever stands behind it.
- `arrayLexemes`, `objectLexemes`: lexemes of parts, with marks between them.

Main results:

- `scan_spelledText_append`: a text that is spelled, with its surrogate pairs and its escapes.
- `exists_scan_of_isText`, `exists_scan_of_isNumber`: what may stand for a text and for a number.
- `scans_arrayOf`, `scans_objectOf`: arrays and objects, however they are laid out.
-/

namespace LayerNet.Json

open Lexeme

/-! ## White space and punctuation -/

theorem isSpace_eq_true_iff {c : Char} : isSpace c = true ↔ c ∈ blanks := by
  simp [isSpace, blanks, or_assoc, or_comm, or_left_comm]

/-- White space in front is skipped. -/
theorem scan_append_of_isBlank {cs : List Char} (h : IsBlank cs) (rest : List Char) :
    scan (cs ++ rest) = scan rest := by
  induction cs with
  | nil => rfl
  | cons c cs ih =>
      rcases isBlank_cons.mp h with ⟨hc, hcs⟩
      rw [List.cons_append, scan, if_pos (isSpace_eq_true_iff.mpr hc), ih hcs]

/-- How `scan` goes on behind a lexeme that `one` cuts off: every lexeme below is an instance of
it. -/
theorem scan_cons_of_one {c : Char} (hspace : c ∉ blanks) {cs : List Char} {l : Lexeme}
    {rest : List Char} {hrest : rest.length ≤ cs.length} (h : one c cs = (l, some ⟨rest, hrest⟩)) :
    scan (c :: cs) = l :: scan rest := by
  rw [scan, if_neg (fun hc => hspace (isSpace_eq_true_iff.mp hc)), h]

theorem one_of_punctuation {c : Char} {l : Lexeme} (h : punctuation? c = some l)
    (cs : List Char) : one c cs = (l, some ⟨cs, Nat.le_refl _⟩) := by
  unfold one
  rw [h]

/-- The marks of documents are lexemes. -/
theorem scan_cons_of_punctuation {c : Char} {l : Lexeme} (h : punctuation? c = some l)
    (cs : List Char) : scan (c :: cs) = l :: scan cs := by
  have hspace : c ∉ blanks := by
    intro hc
    have hnone : ∀ c ∈ blanks, punctuation? c = none := forall_mem_blanks rfl rfl rfl rfl
    simpa [h] using hnone c hc
  exact scan_cons_of_one hspace (one_of_punctuation h cs)

/-! ## Words -/

/-- The rest of a word is found where it stands, and what follows it is left. -/
theorem word_append (letters rest : List Char) : word letters (letters ++ rest) = .ok rest := by
  induction letters with
  | nil => rfl
  | cons c letters ih => rw [List.cons_append, word, if_pos rfl, ih]

/-- A word of the grammar is one lexeme.  Its first letter says which word it has to be. -/
theorem one_of_word {c : Char} {letters : List Char} {l : Lexeme}
    (hmark : punctuation? c = none) (h : wordOf? c = some (letters, l)) (rest : List Char) :
    one c (letters ++ rest) = (l, some ⟨rest, length_of_word (word_append letters rest)⟩) := by
  unfold one
  rw [hmark, h]
  simp only
  split
  · rename_i rest' hword
    rw [word_append, Except.ok.injEq] at hword
    subst hword
    rfl
  · rename_i fault hword
    rw [word_append] at hword
    cases hword

theorem scan_nullChars_append (rest : List Char) :
    scan (nullChars ++ rest) = .null :: scan rest :=
  scan_cons_of_one (by decide) (one_of_word rfl rfl rest)

theorem scan_boolChars_append (b : Bool) (rest : List Char) :
    scan (boolChars b ++ rest) = .bool b :: scan rest := by
  cases b with
  | true => exact scan_cons_of_one (by decide) (one_of_word rfl rfl rest)
  | false => exact scan_cons_of_one (by decide) (one_of_word rfl rfl rest)

/-! ## Texts -/

/-- The reader's digits are those of the grammar, small or large. -/
theorem hexValue?_of_isHexDigit {n : Nat} {c : Char} (h : IsHexDigit n c) :
    hexValue? c = some n := by
  have hall : ∀ n < 16, hexValue? (Nat.digitChar n) = some n ∧
      hexValue? (Nat.digitChar n).toUpper = some n := by decide
  rcases h with ⟨hn, rfl | rfl⟩
  · exact (hall n hn).1
  · exact (hall n hn).2

/-- An escape of four hexadecimal digits names its unit. -/
theorem exists_of_unitEscape {n : Nat} {cs : List Char} (h : UnitEscape n cs) :
    ∃ a b c d, cs = ['\\', 'u', a, b, c, d] ∧ hexUnit? a b c d = some n := by
  cases h with
  | digits ha hb hc hd =>
      refine ⟨_, _, _, _, rfl, ?_⟩
      simp only [hexUnit?, hexValue?_of_isHexDigit ha, hexValue?_of_isHexDigit hb,
        hexValue?_of_isHexDigit hc, hexValue?_of_isHexDigit hd]

theorem escape?_of_mem_letterEscapes {l c : Char} (h : (l, c) ∈ letterEscapes) :
    l ≠ 'u' ∧ escape? l = some c := by
  have hall : ∀ p ∈ letterEscapes, p.1 ≠ 'u' ∧ escape? p.1 = some p.2 := by decide
  exact hall _ h

theorem skipText_cons {c : Char} (h : IsPlain c) (cs : List Char) :
    skipText (c :: cs) = skipText cs := by
  rcases h with ⟨hquote, hslash, hcontrol⟩
  rw [skipText]
  · simp [hquote, Nat.not_lt.mpr hcontrol]
  · exact fun _ h _ => hslash h
  · exact fun _ _ h _ => hslash h
  · exact fun h _ => hslash h

theorem skipText_letter {l c : Char} (h : (l, c) ∈ letterEscapes) (cs : List Char) :
    skipText ('\\' :: l :: cs) = skipText cs := by
  rcases escape?_of_mem_letterEscapes h with ⟨hu, hescape⟩
  rw [skipText]
  · simp [hescape]
  · exact hu

/-- To find the closing quote the digits of an escape are passed over one by one: none of them is a
quote or a backslash. -/
theorem skipText_unit {n : Nat} {ds : List Char} (h : UnitEscape n ds) (cs : List Char) :
    skipText (ds ++ cs) = skipText cs := by
  rcases exists_of_unitEscape h with ⟨a, b, c, d, rfl, hunit⟩
  simp [skipText, hunit]

/-- The closing quote is found behind any text that may stand in a document, also one whose halves
of surrogate pairs do not fit together. -/
theorem skipText_append {body : List Char} (h : IsTextBody body) (rest : List Char) :
    skipText (body ++ '"' :: rest) = .ok rest := by
  induction h with
  | nil => rfl
  | plain hc _ ih => rw [List.cons_append, skipText_cons hc, ih]
  | letter hl _ ih => rw [List.cons_append, List.cons_append, skipText_letter hl, ih]
  | unit hd _ ih => rw [List.append_assoc, skipText_unit hd, ih]

/-- No character is half of a surrogate pair. -/
theorem not_half_toNat (c : Char) : isHighHalf c.toNat = false ∧ isLowHalf c.toNat = false := by
  have hvalid : c.toNat < 0xD800 ∨ 0xDFFF < c.toNat ∧ c.toNat < 0x110000 := c.valid
  simp only [isHighHalf, isLowHalf, Bool.and_eq_false_iff, decide_eq_false_iff_not]
  omega

/-- A character that needs no escape is taken as it is, but not behind the first half of a pair. -/
theorem readText_plain {c : Char} (h : IsPlain c) (acc : List Char) (high : Option Nat)
    (rest : List Char) :
    readText acc high (c :: rest) =
      if high.isSome then .error .malformed else readText (c :: acc) none rest := by
  rcases h with ⟨hquote, hslash, hcontrol⟩
  rw [readText]
  · simp [hquote, Nat.not_lt.mpr hcontrol]
  · exact fun _ h _ => hslash h
  · exact fun _ _ h _ => hslash h
  · exact fun h _ => hslash h

theorem readText_letter {l c : Char} (h : (l, c) ∈ letterEscapes) (acc : List Char)
    (high : Option Nat) (rest : List Char) :
    readText acc high ('\\' :: l :: rest) =
      if high.isSome then .error .malformed else readText (c :: acc) none rest := by
  rcases escape?_of_mem_letterEscapes h with ⟨hu, hescape⟩
  rw [readText]
  · simp [hescape]
  · exact hu

/-- A unit that is not half of a pair is a character; a first half waits for its second one. -/
theorem readText_unit {n : Nat} {ds : List Char} (h : UnitEscape n ds) (acc rest : List Char) :
    readText acc none (ds ++ rest) =
      if isLowHalf n then .error .malformed
      else if isHighHalf n then readText acc (some n) rest
      else readText (Char.ofNat n :: acc) none rest := by
  rcases exists_of_unitEscape h with ⟨a, b, c, d, rfl, hunit⟩
  simp only [List.cons_append, List.nil_append, readText, hunit]

/-- Behind a first half only a second one may stand, and the two make one character. -/
theorem readText_secondUnit {n : Nat} {ds : List Char} (h : UnitEscape n ds) (acc : List Char)
    (first : Nat) (rest : List Char) :
    readText acc (some first) (ds ++ rest) =
      if isLowHalf n then
        readText (Char.ofNat ((first - 0xD800) * 0x400 + (n - 0xDC00) + 0x10000) :: acc) none rest
      else .error .malformed := by
  rcases exists_of_unitEscape h with ⟨a, b, c, d, rfl, hunit⟩
  simp only [List.cons_append, List.nil_append, readText, hunit]

/-- A character is read from each of its spellings. -/
theorem readText_spelled {c : Char} {cs : List Char} (h : Spelled c cs) (acc rest : List Char) :
    readText acc none (cs ++ rest) = readText (c :: acc) none rest := by
  cases h with
  | plain hplain => exact readText_plain hplain acc none rest
  | letter hl => exact readText_letter hl acc none rest
  | unit hunit hc =>
      subst hc
      rcases not_half_toNat c with ⟨hhigh, hlow⟩
      rw [readText_unit hunit, hlow, hhigh, Char.ofNat_toNat]
      rfl
  | @pair high low cs ds hhigh hlow hfirst hsecond hc =>
      have hhigh' : isHighHalf high = true := by simpa [isHighHalf] using hfirst
      have hnot : isLowHalf high = false := by
        simp only [isLowHalf, Bool.and_eq_false_iff, decide_eq_false_iff_not]
        omega
      have hlow' : isLowHalf low = true := by simpa [isLowHalf] using hsecond
      rw [List.append_assoc, readText_unit hhigh, hnot, hhigh', if_neg (by decide), if_pos rfl,
        readText_secondUnit hlow, if_pos hlow', ← hc, Char.ofNat_toNat]

/-- A text is read back from any spelling of its characters, up to the closing quote. -/
theorem readText_spelledChars {s body : List Char} (h : SpelledChars s body)
    (acc rest : List Char) :
    readText acc none (body ++ '"' :: rest) = .ok (String.ofList (acc.reverse ++ s)) := by
  induction h generalizing acc with
  | nil => simp [readText]
  | cons hc _ ih =>
      rw [List.append_assoc, readText_spelled hc, ih, List.reverse_cons, List.append_assoc]
      rfl

/-- What is read of a text does not depend on what stands behind its closing quote. -/
theorem readText_append_eq {body : List Char} (h : IsTextBody body) (acc : List Char)
    (high : Option Nat) (rest rest' : List Char) :
    readText acc high (body ++ '"' :: rest) = readText acc high (body ++ '"' :: rest') := by
  induction h generalizing acc high with
  | nil => simp [readText]
  | plain hc _ ih =>
      rw [List.cons_append, List.cons_append, readText_plain hc, readText_plain hc, ih]
  | letter hl _ ih =>
      rw [List.cons_append, List.cons_append, List.cons_append, List.cons_append,
        readText_letter hl, readText_letter hl, ih]
  | unit hd _ ih =>
      rw [List.append_assoc, List.append_assoc]
      cases high with
      | none => simp only [readText_unit hd, ih]
      | some first => simp only [readText_secondUnit hd, ih]

/-- The lexeme of a text holds what `readText` makes of it and ends where `skipText` ends, so that a
text that cannot be read is still cut off. -/
theorem one_quote {cs rest : List Char} (h : skipText cs = .ok rest) :
    one '"' cs = (.text (readText [] none cs).toOption,
      some ⟨rest, Nat.le_of_lt (length_of_skipText h)⟩) := by
  have hmark : punctuation? '"' = none := rfl
  have hword : wordOf? '"' = none := rfl
  unfold one
  rw [hmark, hword]
  simp only [if_true]
  split
  · rename_i rest' hskip
    rw [h, Except.ok.injEq] at hskip
    subst hskip
    rfl
  · rename_i fault hskip
    rw [h] at hskip
    cases hskip

theorem scan_quote_append {body : List Char} (h : IsTextBody body) (rest : List Char) :
    scan ('"' :: (body ++ '"' :: rest)) =
      .text (readText [] none (body ++ '"' :: rest)).toOption :: scan rest :=
  scan_cons_of_one (by decide) (one_quote (skipText_append h rest))

/-- A text that may stand in a document is a lexeme. -/
theorem exists_scan_of_isText {cs : List Char} (h : IsText cs) :
    ∃ content, ∀ rest, scan (cs ++ rest) = .text content :: scan rest := by
  rcases h with ⟨body, hbody, rfl⟩
  refine ⟨(readText [] none (body ++ ['"'])).toOption, fun rest => ?_⟩
  have hsame := readText_append_eq hbody [] none rest []
  rw [List.cons_append, List.append_assoc, List.singleton_append, scan_quote_append hbody, hsame]

/-- A text that is spelled is a lexeme that has the text. -/
theorem scan_spelledText_append {s : String} {cs : List Char} (h : SpelledText s cs)
    (rest : List Char) : scan (cs ++ rest) = .text (some s) :: scan rest := by
  rcases h with ⟨body, hbody, rfl⟩
  have hread := readText_spelledChars hbody [] rest
  rw [List.cons_append, List.append_assoc, List.singleton_append,
    scan_quote_append hbody.isTextBody, hread, List.reverse_nil, List.nil_append,
    String.ofList_toList]
  rfl

/-! ## Numbers -/

/-- The lexemes of numbers. -/
def IsNumeral : Lexeme → Prop
  | .int _ | .float _ | .huge => True
  | _ => False

theorem isNumeral_ofFloat (x : Float) : IsNumeral (Lexeme.ofFloat x) := by
  unfold Lexeme.ofFloat
  split <;> trivial

theorem isNumeral_ofInteger (negative : Bool) (n : Nat) : IsNumeral (ofInteger negative n) := by
  unfold ofInteger
  split_ifs
  · exact isNumeral_ofFloat _
  · trivial
  · trivial
  · exact isNumeral_ofFloat _

/-- Whether digits do not go on with the characters. -/
def BehindDigits (cs : List Char) : Prop :=
  ∀ c ∈ cs.head?, c.isDigit = false

theorem Apart.behindDigits {cs : List Char} (h : Apart cs) : BehindDigits cs := by
  intro c hc
  rw [Bool.eq_false_iff]
  intro hdigit
  have hword := h c hc
  simp [isWordChar, Char.isAlphanum, hdigit] at hword

/-- Where no word goes on, no character of a word stands in front. -/
theorem Apart.head_ne {cs : List Char} (h : Apart cs) {c d : Char} (hc : c ∈ cs.head?)
    (hd : isWordChar d = true) : c ≠ d := by
  rintro rfl
  simp [h c hc] at hd

/-- Digits are taken as far as they go. -/
theorem someDigits_append {ds rest : List Char} (h : IsDigits ds) (hrest : BehindDigits rest) :
    someDigits (ds ++ rest) = .ok (ds, rest) := by
  rw [someDigits, Decimal.spanDigits_append h.2 hrest]
  cases ds with
  | nil => exact absurd rfl h.1
  | cons d ds => rfl

/-- A zero in front is alone, so that what may stand behind digits is what may stand behind a whole
part. -/
theorem wholeDigits_append {ds rest : List Char} (h : IsWhole ds) (hrest : BehindDigits rest) :
    wholeDigits (ds ++ rest) = .ok (ds, rest) := by
  rw [wholeDigits, someDigits_append h.1 hrest]
  split
  · rename_i d ds' rest' hzero
    rw [Except.ok.injEq, Prod.mk.injEq] at hzero
    rcases hzero with ⟨rfl, -⟩
    have hsingle := h.2 rfl
    simp at hsingle
  · rfl

/-- A fraction, or none, is taken as it stands.  Behind none there must be no point, since that
would have to begin one. -/
theorem exists_fractionDigits {cs : List Char} (h : IsFraction cs) :
    ∃ fraction, ∀ rest, BehindDigits rest → (∀ c ∈ rest.head?, c ≠ '.') →
      fractionDigits (cs ++ rest) = .ok (fraction, rest) := by
  rcases h with rfl | ⟨ds, hds, rfl⟩
  · refine ⟨none, fun rest _ hpoint => ?_⟩
    rw [List.nil_append, fractionDigits]
    exact fun cs hcs => hpoint '.' (by rw [hcs]; rfl) rfl
  · refine ⟨some ds, fun rest hrest _ => ?_⟩
    rw [List.cons_append, fractionDigits, someDigits_append hds hrest]
    rfl

/-- What the sign of an exponent decides; its digits are read in the same way for all three. -/
theorem exists_exponentValue_sign {e : Char} (he : e = 'e' ∨ e = 'E') {sign : List Char}
    (hsign : sign ∈ [[], ['+'], ['-']]) :
    ∃ negative : Bool, ∀ cs, (∀ c ∈ cs.head?, c.isDigit = true) →
      exponentValue (e :: (sign ++ cs)) = (someDigits cs).map fun (ds, rest) =>
        (some (if negative then -(Decimal.natOfDigits ds : Int) else Decimal.natOfDigits ds),
          rest) := by
  simp only [List.mem_cons, List.not_mem_nil, or_false] at hsign
  rcases hsign with rfl | rfl | rfl
  · refine ⟨false, fun cs hdigit => ?_⟩
    rw [List.nil_append]
    unfold exponentValue
    simp only
    rw [if_pos he]
    split
    · exact absurd (hdigit '-' rfl) (by decide)
    · exact absurd (hdigit '+' rfl) (by decide)
    · rfl
  · refine ⟨false, fun cs _ => ?_⟩
    unfold exponentValue
    exact if_pos he
  · refine ⟨true, fun cs _ => ?_⟩
    unfold exponentValue
    exact if_pos he

/-- An exponent, or none, is read as it stands, if no word goes on behind it. -/
theorem exists_exponentValue {cs : List Char} (h : IsExponent cs) :
    ∃ exponent, ∀ rest, Apart rest → exponentValue (cs ++ rest) = .ok (exponent, rest) := by
  rcases h with rfl | ⟨e, sign, ds, he, hsign, hds, rfl⟩
  · refine ⟨none, fun rest hrest => ?_⟩
    cases rest with
    | nil => rfl
    | cons c rest =>
        have hnone : ¬(c = 'e' ∨ c = 'E') :=
          not_or.mpr ⟨hrest.head_ne rfl rfl, hrest.head_ne rfl rfl⟩
        rw [List.nil_append]
        unfold exponentValue
        exact if_neg hnone
  · rcases exists_exponentValue_sign (by simpa using he) hsign with ⟨negative, hvalue⟩
    refine ⟨some (if negative then -(Decimal.natOfDigits ds : Int) else Decimal.natOfDigits ds),
      fun rest hrest => ?_⟩
    have hhead : ∀ c ∈ (ds ++ rest).head?, c.isDigit = true := by
      rw [List.head?_append_of_ne_nil _ hds.1]
      exact fun c hc => hds.2 c (List.mem_of_mem_head? hc)
    rw [List.cons_append, List.append_assoc, hvalue _ hhead,
      someDigits_append hds hrest.behindDigits]
    rfl

/-- A fraction does not go on with the digits of the whole part. -/
theorem IsFraction.behindDigits_append {cs rest : List Char} (h : IsFraction cs)
    (hrest : BehindDigits rest) : BehindDigits (cs ++ rest) := by
  rcases h with rfl | ⟨ds, -, rfl⟩
  · exact hrest
  · rintro c hc
    obtain rfl : '.' = c := by simpa using hc
    rfl

/-- An exponent goes on neither with the digits before it nor with a point. -/
theorem IsExponent.head_append {cs rest : List Char} (h : IsExponent cs) (hrest : Apart rest) :
    ∀ c ∈ (cs ++ rest).head?, c.isDigit = false ∧ c ≠ '.' := by
  intro c hc
  by_cases hnil : cs = []
  · rw [hnil, List.nil_append] at hc
    exact ⟨hrest.behindDigits c hc, hrest.head_ne hc rfl⟩
  · rw [List.head?_append_of_ne_nil _ hnil] at hc
    exact h.head_ne c hc

/-- The lexeme of a number, given its digits, its fraction and its exponent. -/
def numeral (negative : Bool) (whole : List Char) (fraction : Option (List Char))
    (exponent : Option Int) : Lexeme :=
  match fraction, exponent with
  | none, none => ofInteger negative (Decimal.natOfDigits whole)
  | _, _ =>
    let ds := fraction.getD []
    Lexeme.ofFloat (Decimal.nearest negative (Decimal.natOfDigits (whole ++ ds))
      (exponent.getD 0 - ds.length))

/-- Whether a number is an integer or a float, its lexeme is that of a number. -/
theorem isNumeral_numeral (negative : Bool) (whole : List Char) (fraction : Option (List Char))
    (exponent : Option Int) : IsNumeral (numeral negative whole fraction exponent) := by
  unfold numeral
  split
  · exact isNumeral_ofInteger _ _
  · exact isNumeral_ofFloat _

/-- A number is read as its three parts are, one behind the other. -/
theorem number_eq {negative : Bool} {cs cs' cs'' rest whole : List Char}
    {fraction : Option (List Char)} {exponent : Option Int}
    (hwhole : wholeDigits cs = .ok (whole, cs'))
    (hfraction : fractionDigits cs' = .ok (fraction, cs''))
    (hexponent : exponentValue cs'' = .ok (exponent, rest)) :
    number negative cs = .ok (numeral negative whole fraction exponent, rest) := by
  simp only [number, hwhole, hfraction, hexponent, bind, Except.bind]
  cases fraction <;> cases exponent <;> rfl

/-- A number is cut off where no word goes on. -/
theorem exists_number {cs : List Char} (h : IsUnsigned cs) (negative : Bool) :
    ∃ l, IsNumeral l ∧ ∀ rest, Apart rest → number negative (cs ++ rest) = .ok (l, rest) := by
  rcases h with ⟨whole, fraction, exponent, hwhole, hfraction, hexponent, rfl⟩
  rcases exists_fractionDigits hfraction with ⟨fraction?, hfraction?⟩
  rcases exists_exponentValue hexponent with ⟨exponent?, hexponent?⟩
  refine ⟨_, isNumeral_numeral negative whole fraction? exponent?, fun rest hrest => ?_⟩
  have hhead := hexponent.head_append hrest
  have hbehind : BehindDigits (exponent ++ rest) := fun c hc => (hhead c hc).1
  rw [List.append_assoc, List.append_assoc]
  exact number_eq (wholeDigits_append hwhole (hfraction.behindDigits_append hbehind))
    (hfraction? _ hbehind fun c hc => (hhead c hc).2) (hexponent? rest hrest)

theorem one_minus {cs rest : List Char} {l : Lexeme} (h : number true cs = .ok (l, rest)) :
    one '-' cs = (l, some ⟨rest, Nat.le_of_lt (length_of_number h)⟩) := by
  have hmark : punctuation? '-' = none := rfl
  have hword : wordOf? '-' = none := rfl
  unfold one
  rw [hmark, hword]
  simp only
  rw [if_neg (by decide), if_pos trivial]
  split
  · rename_i l' rest' hnumber
    rw [h, Except.ok.injEq, Prod.mk.injEq] at hnumber
    rcases hnumber with ⟨rfl, rfl⟩
    rfl
  · rename_i fault hnumber
    rw [h] at hnumber
    cases hnumber

theorem one_digit {c : Char} (hc : c.isDigit = true) {cs rest : List Char} {l : Lexeme}
    (h : number false (c :: cs) = .ok (l, rest)) :
    one c cs = (l, some ⟨rest, Nat.le_of_lt_succ (length_of_number h)⟩) := by
  have hne {d : Char} (hd : d.isDigit = false) : c ≠ d := by
    rintro rfl
    simp [hc] at hd
  have hmark : punctuation? c = none := by
    simp [punctuation?, hne]
  have hword : wordOf? c = none := by
    simp [wordOf?, hne]
  unfold one
  rw [hmark, hword]
  simp only
  rw [if_neg (hne rfl), if_neg (hne rfl), if_pos hc]
  split
  · rename_i l' rest' hnumber
    rw [h, Except.ok.injEq, Prod.mk.injEq] at hnumber
    rcases hnumber with ⟨rfl, rfl⟩
    rfl
  · rename_i fault hnumber
    rw [h] at hnumber
    cases hnumber

/-- What may stand for a number is the lexeme of a number. -/
theorem exists_scan_of_isNumber {cs : List Char} (h : IsNumber cs) :
    ∃ l, IsNumeral l ∧ ∀ rest, Apart rest → scan (cs ++ rest) = l :: scan rest := by
  rcases h with hunsigned | ⟨ds, hunsigned, rfl⟩
  · rcases exists_number hunsigned false with ⟨l, hl, hnumber⟩
    rcases hunsigned with ⟨whole, fraction, exponent, hwhole, -, -, rfl⟩
    rcases List.exists_cons_of_ne_nil hwhole.1.1 with ⟨d, ds, rfl⟩
    have hdigit : d.isDigit = true := hwhole.1.2 d List.mem_cons_self
    have hspace : d ∉ blanks := by
      intro hmem
      have hnone : ∀ c ∈ blanks, c.isDigit = false := forall_mem_blanks rfl rfl rfl rfl
      simp [hnone d hmem] at hdigit
    exact ⟨l, hl, fun rest hrest => scan_cons_of_one hspace (one_digit hdigit (hnumber rest hrest))⟩
  · rcases exists_number hunsigned true with ⟨l, hl, hnumber⟩
    exact ⟨l, hl, fun rest hrest => scan_cons_of_one (by decide) (one_minus (hnumber rest hrest))⟩

/-! ## Layout -/

/-- The characters are cut into the lexemes, whatever stands behind them that is no part of a
word. -/
def Scans (cs : List Char) (ls : List Lexeme) : Prop :=
  ∀ rest, Apart rest → scan (cs ++ rest) = ls ++ scan rest

/-- What is cut so stands alone, too. -/
theorem Scans.scan_eq {cs : List Char} {ls : List Lexeme} (h : Scans cs ls) : scan cs = ls := by
  have hend := h [] apart_nil
  have hnil : scan [] = [] := by rw [scan]
  rwa [List.append_nil, hnil, List.append_nil] at hend

/-- White space sets apart. -/
theorem apart_append_of_isBlank {cs rest : List Char} (h : IsBlank cs) (hrest : Apart rest) :
    Apart (cs ++ rest) := by
  have hnone : ∀ c ∈ blanks, isWordChar c = false := forall_mem_blanks rfl rfl rfl rfl
  cases cs with
  | nil => exact hrest
  | cons c cs => exact apart_cons.mpr (hnone c (isBlank_cons.mp h).1)

/-- Further items, with a comma before each. -/
def further (lss : List (List Lexeme)) : List Lexeme :=
  lss.flatMap (.comma :: ·)

/-- Items with commas between them. -/
def joined : List (List Lexeme) → List Lexeme
  | [] => []
  | ls :: lss => ls ++ further lss

theorem joined_cons_cons (ls ls' : List Lexeme) (lss : List (List Lexeme)) :
    joined (ls :: ls' :: lss) = ls ++ .comma :: joined (ls' :: lss) := by
  simp [joined, further]

theorem Listed.exists_cons {parts : List (List Char)} {cs : List Char} (h : Listed parts cs) :
    ∃ part parts', parts = part :: parts' := by
  cases h with
  | last => exact ⟨_, _, rfl⟩
  | more => exact ⟨_, _, rfl⟩

/-- Items that are cut one by one are cut together.  The induction is on how the list is written:
the comma or the end behind an item sets it apart. -/
theorem Listed.scans {parts : List (List Char)} {cs : List Char} (h : Listed parts cs)
    (hparts : ∀ part ∈ parts, Scans part (scan part)) : Scans cs (joined (parts.map scan)) := by
  induction h with
  | @last front part behind hfront hbehind =>
      intro rest hrest
      have hpart := hparts part List.mem_cons_self
      rw [List.append_assoc, List.append_assoc, scan_append_of_isBlank hfront,
        hpart _ (apart_append_of_isBlank hbehind hrest), scan_append_of_isBlank hbehind]
      simp [joined, further]
  | @more front part behind cs parts hfront hbehind hlisted ih =>
      intro rest hrest
      rw [List.forall_mem_cons] at hparts
      have hcomma : Apart (',' :: (cs ++ rest)) := apart_cons.mpr rfl
      rcases hlisted.exists_cons with ⟨part', parts', rfl⟩
      calc
        scan (front ++ (part ++ (behind ++ ',' :: cs)) ++ rest) =
            scan (front ++ (part ++ (behind ++ ',' :: (cs ++ rest)))) := by
          simp only [List.append_assoc, List.cons_append]
        _ = scan part ++ scan (',' :: (cs ++ rest)) := by
          rw [scan_append_of_isBlank hfront, hparts.1 _ (apart_append_of_isBlank hbehind hcomma),
            scan_append_of_isBlank hbehind]
        _ = scan part ++ .comma :: (joined ((part' :: parts').map scan) ++ scan rest) := by
          rw [scan_cons_of_punctuation rfl, ih hparts.2 rest hrest]
        _ = joined ((part :: part' :: parts').map scan) ++ scan rest := by
          simp only [List.map_cons, joined_cons_cons, List.append_assoc, List.cons_append]

/-- Between brackets the items are cut, whatever stands behind the closing one. -/
theorem Enclosed.scan_append {opening closing : Char} {l l' : Lexeme} {parts : List (List Char)}
    {cs : List Char} (h : Enclosed opening closing parts cs)
    (hopening : punctuation? opening = some l) (hclosing : punctuation? closing = some l')
    (hapart : isWordChar closing = false) (hparts : ∀ part ∈ parts, Scans part (scan part))
    (rest : List Char) :
    scan (cs ++ rest) = l :: (joined (parts.map scan) ++ l' :: scan rest) := by
  have hclose : Apart (closing :: rest) := apart_cons.mpr hapart
  cases h with
  | @empty cs hblank =>
      rw [List.cons_append, List.append_assoc, List.singleton_append,
        scan_cons_of_punctuation hopening, scan_append_of_isBlank hblank,
        scan_cons_of_punctuation hclosing]
      rfl
  | @listed parts cs hlisted =>
      rw [List.cons_append, List.append_assoc, List.singleton_append,
        scan_cons_of_punctuation hopening, hlisted.scans hparts _ hclose,
        scan_cons_of_punctuation hclosing]

/-- The lexemes of the items of an array, between its brackets. -/
def arrayLexemes (items : List (List Lexeme)) : List Lexeme :=
  .openBracket :: (joined items ++ [.closeBracket])

/-- An array is cut into its brackets and its items, with blanks anywhere between them. -/
theorem scans_arrayOf {items : List (List Char)} {cs : List Char} (h : ArrayOf items cs)
    (hitems : ∀ item ∈ items, Scans item (scan item)) :
    Scans cs (arrayLexemes (items.map scan)) := by
  intro rest _
  rw [h.scan_append rfl rfl rfl hitems, arrayLexemes]
  simp

/-! ## Members -/

/-- A member of an object in lexemes: the text of its key, if it means one, and its value. -/
abbrev Field := Option String × List Lexeme

/-- The lexemes of a member. -/
def Field.lexemes (field : Field) : List Lexeme :=
  .text field.1 :: .colon :: field.2

/-- The lexemes of the members of an object, between its braces. -/
def objectLexemes (fields : List Field) : List Lexeme :=
  .openBrace :: (joined (fields.map Field.lexemes) ++ [.closeBrace])

/-- The text that the lexemes are. -/
def textOf? : List Lexeme → Option String
  | [.text content] => content
  | _ => none

/-- What the lexemes of a member are. -/
def Member.field (m : Member) : Field :=
  (textOf? (scan m.key), scan m.value)

/-- A key is one lexeme, whether or not it can be read. -/
theorem scan_append_of_isText {cs : List Char} (h : IsText cs) (rest : List Char) :
    scan (cs ++ rest) = .text (textOf? (scan cs)) :: scan rest := by
  rcases exists_scan_of_isText h with ⟨content, hcontent⟩
  have hscan : Scans cs [.text content] := fun rest _ => hcontent rest
  rw [hcontent, hscan.scan_eq]
  rfl

theorem Member.scans {m : Member} (hkey : IsText m.key) (hvalue : Scans m.value (scan m.value)) :
    Scans m.chars m.field.lexemes := by
  intro rest hrest
  calc
    scan (m.chars ++ rest) =
        scan (m.key ++ (m.front ++ ':' :: (m.behind ++ (m.value ++ rest)))) := by
      simp only [Member.chars, List.append_assoc, List.cons_append]
    _ = .text m.field.1 :: .colon :: scan (m.value ++ rest) := by
      rw [scan_append_of_isText hkey, scan_append_of_isBlank m.blank_front,
        scan_cons_of_punctuation rfl, scan_append_of_isBlank m.blank_behind]
      rfl
    _ = m.field.lexemes ++ scan rest := by
      rw [hvalue rest hrest]
      rfl

/-- An object is cut into its braces and its members, with blanks anywhere between them. -/
theorem scans_objectOf {members : List Member} {cs : List Char} (h : ObjectOf members cs)
    (hkeys : ∀ m ∈ members, IsText m.key)
    (hvalues : ∀ m ∈ members, Scans m.value (scan m.value)) :
    Scans cs (objectLexemes (members.map Member.field)) := by
  intro rest _
  have hmember (m : Member) (hmem : m ∈ members) : Scans m.chars m.field.lexemes :=
    Member.scans (hkeys m hmem) (hvalues m hmem)
  have hscan : (members.map Member.chars).map scan =
      (members.map Member.field).map Field.lexemes := by
    rw [List.map_map, List.map_map]
    exact List.map_congr_left fun m hmem => (hmember m hmem).scan_eq
  have hparts : ∀ part ∈ members.map Member.chars, Scans part (scan part) := by
    simp only [List.mem_map, forall_exists_index, and_imp, forall_apply_eq_imp_iff₂]
    intro m hmem
    rw [(hmember m hmem).scan_eq]
    exact hmember m hmem
  rw [h.scan_append rfl rfl rfl hparts, hscan, objectLexemes]
  simp

end LayerNet.Json
