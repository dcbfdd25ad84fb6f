import LayerNet.Decimal.Reader
import LayerNet.Proofs.Json.Grammar

/-!
# Numerals

What is typed for a number: which texts are read as words of 64 bits, and as which, and which are
read as floats.  The exponents of floats are those of documents; apart from them more may be typed
than may stand in a document: a plus sign, zeros in front, a point without digits on one of its
sides, and infinities.

Main definitions:

- `IsWord`: the texts of a word.
- `IsUnsignedFloat`, `IsFloat`: the texts of floats, behind their signs and with them.
- `Writes`: the decimals that characters write.

Main results:

- `word64?_eq_some_iff`: the reader takes the texts of a word for it, and no others.
- `isSome_float?_iff`: the reader takes the texts of floats for floats, and no others.
-/

namespace LayerNet.Decimal

open Json (IsDigits IsExponent)

variable {cs ds rest sign : List Char} {s : String}

/-! ## Runs of digits -/

/-- The check for digits that the readers make. -/
theorem isDigits_iff : IsDigits ds ↔ (ds.isEmpty || !ds.all Char.isDigit) = false := by
  simp [IsDigits]

/-- Digits are taken up to the first character that is none. -/
theorem spanDigits_append (h : ∀ d ∈ ds, d.isDigit = true)
    (hrest : ∀ c ∈ rest.head?, c.isDigit = false) :
    spanDigits (ds ++ rest) = (ds, rest) := by
  have hstop : rest.takeWhile Char.isDigit = [] ∧ rest.dropWhile Char.isDigit = rest := by
    cases rest with
    | nil => exact ⟨rfl, rfl⟩
    | cons c rest => simp [hrest c rfl]
  rw [spanDigits, List.takeWhile_append_of_pos h, List.dropWhile_append_of_pos h, hstop.1, hstop.2,
    List.append_nil]

theorem append_spanDigits (cs : List Char) : (spanDigits cs).1 ++ (spanDigits cs).2 = cs :=
  List.takeWhile_append_dropWhile

theorem isDigit_of_mem_spanDigits {d : Char} (h : d ∈ (spanDigits cs).1) : d.isDigit = true :=
  List.all_eq_true.mp List.all_takeWhile d h

/-! ## Signs -/

/-- Whether there is a minus sign in front of characters, and what follows the sign if there is
one. -/
def cutSign : List Char → Bool × List Char
  | '-' :: rest => (true, rest)
  | '+' :: rest => (false, rest)
  | cs => (false, cs)

/-- A sign in front, or none, is cut off, and nothing else. -/
theorem exists_cutSign (cs : List Char) :
    ∃ sign ∈ [[], ['+'], ['-']], cs = sign ++ (cutSign cs).2 := by
  unfold cutSign
  split
  · exact ⟨['-'], by decide, rfl⟩
  · exact ⟨['+'], by decide, rfl⟩
  · exact ⟨[], by decide, rfl⟩

/-- A sign is cut off if no second one stands behind it. -/
theorem cutSign_append (hsign : sign ∈ [[], ['+'], ['-']]) (h : ∀ c ∈ cs.head?, c ≠ '+' ∧ c ≠ '-') :
    (cutSign (sign ++ cs)).2 = cs := by
  simp only [List.mem_cons, List.not_mem_nil, or_false] at hsign
  rcases hsign with rfl | rfl | rfl
  · rw [List.nil_append]
    unfold cutSign
    split
    · exact absurd rfl (h '-' rfl).2
    · exact absurd rfl (h '+' rfl).1
    · rfl
  · rfl
  · rfl

/-! ## Words -/

/-- The texts of a word: digits, with a plus sign in front or not, that write a number below
`2 ^ 64`. -/
def IsWord (s : String) (n : Nat) : Prop :=
  ∃ sign ds, sign ∈ [[], ['+']] ∧ IsDigits ds ∧ s.toList = sign ++ ds ∧
    Nat.ofDigitChars 10 ds 0 = n ∧ n < UInt64.size

/-- The digits of a word, which may have a plus sign in front. -/
def wordDigits : List Char → List Char
  | '+' :: rest => rest
  | cs => cs

/-- Words may have a plus in front, but no minus. -/
theorem exists_wordDigits (cs : List Char) : ∃ sign ∈ [[], ['+']], cs = sign ++ wordDigits cs := by
  unfold wordDigits
  split
  · exact ⟨['+'], by decide, rfl⟩
  · exact ⟨[], by decide, rfl⟩

theorem wordDigits_append (hsign : sign ∈ [[], ['+']]) (h : ∀ c ∈ cs.head?, c ≠ '+') :
    wordDigits (sign ++ cs) = cs := by
  simp only [List.mem_cons, List.not_mem_nil, or_false] at hsign
  rcases hsign with rfl | rfl
  · rw [List.nil_append]
    unfold wordDigits
    split
    · exact absurd rfl (h '+' rfl)
    · rfl
  · rfl

/-- The reader takes the texts of a word for it, and no others. -/
theorem word64?_eq_some_iff {n : Nat} : word64? s = some n ↔ IsWord s n := by
  have heq : word64? s =
      if (wordDigits s.toList).isEmpty || !(wordDigits s.toList).all Char.isDigit then none
      else if Nat.ofDigitChars 10 (wordDigits s.toList) 0 < UInt64.size then
        some (Nat.ofDigitChars 10 (wordDigits s.toList) 0)
      else none := rfl
  constructor
  · intro h
    rcases exists_wordDigits s.toList with ⟨sign, hsign, hs⟩
    rw [heq] at h
    split at h <;> rename_i hdigits
    · cases h
    · split at h <;> rename_i hsize
      · rw [← Option.some.inj h]
        exact ⟨sign, _, hsign, isDigits_iff.mpr (Bool.eq_false_iff.mpr hdigits), hs, rfl, hsize⟩
      · cases h
  · rintro ⟨sign, ds, hsign, hds, hs, rfl, hsize⟩
    have hcut : wordDigits s.toList = ds := by
      rw [hs]
      exact wordDigits_append hsign fun c hc => (hds.head_ne c hc).1
    rw [heq, hcut, isDigits_iff.mp hds, if_neg Bool.false_ne_true, if_pos hsize]

/-! ## Exponents -/

/-- An exponent needs digits behind its sign. -/
theorem isSome_exponentPart?_cons {e : Char} :
    (exponentPart? (e :: cs)).isSome ↔ (e = 'e' ∨ e = 'E') ∧ IsDigits (cutSign cs).2 := by
  have heq : exponentPart? (e :: cs) = if e = 'e' ∨ e = 'E' then
      if (cutSign cs).2.isEmpty || !(cutSign cs).2.all Char.isDigit then none
      else if (cutSign cs).1 then some (-(natOfDigits (cutSign cs).2 : Int))
      else some (natOfDigits (cutSign cs).2)
    else none := rfl
  rw [heq, isDigits_iff]
  by_cases he : e = 'e' ∨ e = 'E'
  · rw [if_pos he]
    cases (cutSign cs).2.isEmpty || !(cutSign cs).2.all Char.isDigit
    · rw [if_neg Bool.false_ne_true]
      split <;> exact iff_of_true rfl ⟨he, rfl⟩
    · exact iff_of_false nofun nofun
  · rw [if_neg he]
    exact iff_of_false nofun fun h => he h.1

/-- An exponent is what is read as one. -/
theorem isSome_exponentPart?_iff : (exponentPart? cs).isSome ↔ IsExponent cs := by
  constructor
  · intro h
    cases cs with
    | nil => exact Or.inl rfl
    | cons e rest =>
        rcases isSome_exponentPart?_cons.mp h with ⟨he, hds⟩
        rcases exists_cutSign rest with ⟨sign, hsign, hrest⟩
        exact Or.inr ⟨e, sign, _, by simpa using he, hsign, hds, congrArg (e :: ·) hrest⟩
  · rintro (rfl | ⟨e, sign, ds, he, hsign, hds, rfl⟩)
    · rfl
    · rw [isSome_exponentPart?_cons, cutSign_append hsign hds.head_ne]
      exact ⟨by simpa using he, hds⟩

theorem isExponent_of_exponentPart? {e : Int} (h : exponentPart? cs = some e) : IsExponent cs :=
  isSome_exponentPart?_iff.mp (Option.isSome_of_eq_some h)

/-! ## Floats -/

/-- The texts of floats behind their signs: digits, with a point or without, and an exponent or
none; or one of three words in any case.  There may be no digits on one side of the point. -/
inductive IsUnsignedFloat : List Char → Prop where
  | whole {ds exponent : List Char} (hds : IsDigits ds) (hexponent : IsExponent exponent) :
      IsUnsignedFloat (ds ++ exponent)
  | pointed {whole fraction exponent : List Char} (hds : IsDigits (whole ++ fraction))
      (hexponent : IsExponent exponent) : IsUnsignedFloat (whole ++ '.' :: (fraction ++ exponent))
  | word {cs : List Char} (h : String.ofList (cs.map Char.toLower) ∈ ["inf", "infinity", "nan"]) :
      IsUnsignedFloat cs

/-- The texts of floats. -/
def IsFloat (s : String) : Prop :=
  ∃ sign cs, sign ∈ [[], ['+'], ['-']] ∧ IsUnsignedFloat cs ∧ s.toList = sign ++ cs

/-- Whether characters behind a sign write the decimal `coefficient * 10 ^ exponent`. -/
inductive Writes : List Char → Nat → Int → Prop
  | whole {ds part : List Char} {e : Int} (hds : IsDigits ds)
      (hpart : exponentPart? part = some e) :
      Writes (ds ++ part) (natOfDigits ds) e
  | pointed {whole fraction part : List Char} {e : Int} (hds : IsDigits (whole ++ fraction))
      (hpart : exponentPart? part = some e) :
      Writes (whole ++ '.' :: (fraction ++ part)) (natOfDigits (whole ++ fraction))
        (e - fraction.length)

/-- The digits behind a point, if there is one, and the rest. -/
def cutFraction : List Char → List Char × List Char
  | '.' :: rest => spanDigits rest
  | rest => ([], rest)

/-- Without a point there is no fraction. -/
theorem cutFraction_of_head (h : ∀ c ∈ cs.head?, c ≠ '.') : cutFraction cs = ([], cs) := by
  unfold cutFraction
  split
  · exact absurd rfl (h '.' rfl)
  · rfl

/-- A numeral is read as a coefficient of all its digits and an exponent that the fraction lowers.
It needs a digit before or behind the point. -/
theorem unsignedFloat?_eq (negative : Bool) (cs : List Char) : unsignedFloat? negative cs =
    if (spanDigits cs).1.isEmpty && (cutFraction (spanDigits cs).2).1.isEmpty then none
    else (exponentPart? (cutFraction (spanDigits cs).2).2).map fun e =>
      nearest negative (natOfDigits ((spanDigits cs).1 ++ (cutFraction (spanDigits cs).2).1))
        (e - (cutFraction (spanDigits cs).2).1.length) :=
  rfl

theorem isEmpty_and_isEmpty_iff {whole fraction : List Char} :
    (whole.isEmpty && fraction.isEmpty) = true ↔ whole ++ fraction = [] := by
  rw [Bool.and_eq_true, List.isEmpty_iff, List.isEmpty_iff, List.append_eq_nil_iff]

/-- What is written as a coefficient and an exponent is read as the float nearest to them. -/
theorem Writes.unsignedFloat?_eq {coefficient : Nat} {exponent : Int}
    (h : Writes cs coefficient exponent) (negative : Bool) :
    unsignedFloat? negative cs = some (nearest negative coefficient exponent) := by
  rw [Decimal.unsignedFloat?_eq]
  cases h with
  | @whole ds part _ hds hpart =>
      have hexponent := isExponent_of_exponentPart? hpart
      have hspan := spanDigits_append hds.2 fun c hc => (hexponent.head_ne c hc).1
      have hcut := cutFraction_of_head fun c hc => (hexponent.head_ne c hc).2
      rw [hspan, hcut,
        if_neg (isEmpty_and_isEmpty_iff.not.mpr (by rw [List.append_nil]; exact hds.1)),
        hpart, List.append_nil, List.length_nil, Int.natCast_zero]
      exact congrArg (fun e => some (nearest negative (natOfDigits ds) e)) (Int.sub_zero _)
  | @pointed whole fraction part e hds hpart =>
      have hexponent := isExponent_of_exponentPart? hpart
      rcases List.forall_mem_append.mp hds.2 with ⟨hwhole, hfraction⟩
      have hpoint : ∀ c ∈ ('.' :: (fraction ++ part)).head?, c.isDigit = false := by
        rintro c ⟨⟩
        rfl
      have hspan := spanDigits_append hwhole hpoint
      have hcut : cutFraction ('.' :: (fraction ++ part)) = (fraction, part) :=
        spanDigits_append hfraction fun c hc => (hexponent.head_ne c hc).1
      rw [hspan, hcut, if_neg (isEmpty_and_isEmpty_iff.not.mpr hds.1), hpart]
      rfl

/-- Nothing else is read, apart from words. -/
theorem exists_writes_of_unsignedFloat? {negative : Bool} {x : Float}
    (h : unsignedFloat? negative cs = some x) :
    ∃ coefficient exponent, Writes cs coefficient exponent ∧
      nearest negative coefficient exponent = x := by
  rw [unsignedFloat?_eq] at h
  split at h <;> rename_i hnil
  · cases h
  · obtain ⟨e, hpart, hx⟩ := Option.map_eq_some_iff.mp h
    refine ⟨_, _, ?_, hx⟩
    have hcs := append_spanDigits cs
    have hwhole (d : Char) : d ∈ (spanDigits cs).1 → d.isDigit = true := isDigit_of_mem_spanDigits
    rw [isEmpty_and_isEmpty_iff] at hnil
    -- The reader cuts the characters at most twice; put together again the pieces are of one shape
    -- or the other, as the second cut was at a point or was none.
    generalize (spanDigits cs).1 = whole at hnil hcs hwhole
    generalize (spanDigits cs).2 = rest at hnil hpart hcs
    rw [← hcs]
    by_cases hpoint : rest.head? = some '.'
    · rcases List.head?_eq_some_iff.mp hpoint with ⟨behind, rfl⟩
      have hcut : cutFraction ('.' :: behind) = spanDigits behind := rfl
      have hbehind := append_spanDigits behind
      rw [hcut] at hnil hpart ⊢
      nth_rewrite 1 [← hbehind]
      exact .pointed ⟨hnil, List.forall_mem_append.mpr
        ⟨hwhole, fun d hd => isDigit_of_mem_spanDigits hd⟩⟩ hpart
    · have hcut : cutFraction rest = ([], rest) :=
        cutFraction_of_head fun c hc hdot => hpoint (hdot ▸ hc)
      rw [hcut] at hnil hpart ⊢
      rw [List.append_nil] at hnil ⊢
      rw [List.length_nil, Int.natCast_zero, Int.sub_zero]
      exact .whole ⟨hnil, hwhole⟩ hpart

/-- What follows the sign of a float is one of the words, or writes a decimal. -/
theorem isUnsignedFloat_iff_writes : IsUnsignedFloat cs ↔
    String.ofList (cs.map Char.toLower) ∈ ["inf", "infinity", "nan"] ∨
      ∃ coefficient exponent, Writes cs coefficient exponent := by
  constructor
  · intro h
    cases h with
    | word h => exact Or.inl h
    | whole hds hexponent =>
        obtain ⟨e, he⟩ := Option.isSome_iff_exists.mp (isSome_exponentPart?_iff.mpr hexponent)
        exact Or.inr ⟨_, _, .whole hds he⟩
    | pointed hds hexponent =>
        obtain ⟨e, he⟩ := Option.isSome_iff_exists.mp (isSome_exponentPart?_iff.mpr hexponent)
        exact Or.inr ⟨_, _, .pointed hds he⟩
  · rintro (hword | ⟨coefficient, exponent, h⟩)
    · exact .word hword
    · cases h with
      | whole hds hpart => exact .whole hds (isExponent_of_exponentPart? hpart)
      | pointed hds hpart => exact .pointed hds (isExponent_of_exponentPart? hpart)

/-- What follows the sign of a float is one of the words, or is read digit by digit. -/
theorem isUnsignedFloat_iff (negative : Bool) : IsUnsignedFloat cs ↔
    String.ofList (cs.map Char.toLower) ∈ ["inf", "infinity", "nan"] ∨
      (unsignedFloat? negative cs).isSome := by
  rw [isUnsignedFloat_iff_writes, Option.isSome_iff_exists]
  refine or_congr_right ⟨?_, ?_⟩
  · rintro ⟨coefficient, exponent, h⟩
    exact ⟨_, h.unsignedFloat?_eq negative⟩
  · rintro ⟨x, h⟩
    obtain ⟨coefficient, exponent, h, -⟩ := exists_writes_of_unsignedFloat? h
    exact ⟨coefficient, exponent, h⟩

/-- What follows the sign of a float does not begin with another. -/
theorem IsUnsignedFloat.head_ne (h : IsUnsignedFloat cs) : ∀ c ∈ cs.head?, c ≠ '+' ∧ c ≠ '-' := by
  intro c hc
  cases h with
  | @whole ds exponent hds =>
      rw [List.head?_append_of_ne_nil _ hds.1] at hc
      exact hds.head_ne c hc
  | @pointed whole fraction exponent hds =>
      cases whole with
      | nil =>
          cases hc
          decide
      | cons d whole => exact hds.head_ne c hc
  | word h =>
      rcases List.head?_eq_some_iff.mp hc with ⟨rest, rfl⟩
      have hhead {first : Char} {word : List Char}
          (heq : String.ofList ((c :: rest).map Char.toLower) = String.ofList (first :: word)) :
          c.toLower = first := (List.cons.inj (String.ofList_injective heq)).1
      have hfirst : c.toLower = 'i' ∨ c.toLower = 'n' := by
        simp only [List.mem_cons, List.not_mem_nil, or_false] at h
        rcases h with h | h | h
        · exact Or.inl (hhead h)
        · exact Or.inl (hhead h)
        · exact Or.inr (hhead h)
      constructor <;> rintro rfl <;> exact absurd hfirst (by decide)

/-- What is read behind the sign of a float. -/
def floatBehind? (negative : Bool) (cs : List Char) : Option Float :=
  let word := String.ofList (cs.map Char.toLower)
  let signed (x : Float) : Float := if negative then -x else x
  if word = "inf" || word = "infinity" then some (signed (Float.ofBits 0x7FF0000000000000))
  else if word = "nan" then some (signed (Float.ofBits 0x7FF8000000000000))
  else unsignedFloat? negative cs

theorem float?_eq (s : String) :
    float? s = floatBehind? (cutSign s.toList).1 (cutSign s.toList).2 :=
  rfl

/-- Words mean an infinity or no number, in any case of their letters. -/
theorem floatBehind?_word (h : String.ofList (cs.map Char.toLower) ∈ ["inf", "infinity", "nan"])
    (negative : Bool) : ∃ bits ∈ [0x7FF0000000000000, 0x7FF8000000000000],
      floatBehind? negative cs =
        some (if negative then -Float.ofBits bits else Float.ofBits bits) := by
  rw [floatBehind?]
  simp only [List.mem_cons, List.not_mem_nil, or_false] at h
  rcases h with h | h | h
  · exact ⟨0x7FF0000000000000, by decide, by rw [h]; rfl⟩
  · exact ⟨0x7FF0000000000000, by decide, by rw [h]; rfl⟩
  · exact ⟨0x7FF8000000000000, by decide, by rw [h]; rfl⟩

/-- Every other text is a numeral or nothing. -/
theorem floatBehind?_of_not_word
    (h : String.ofList (cs.map Char.toLower) ∉ ["inf", "infinity", "nan"])
    (negative : Bool) : floatBehind? negative cs = unsignedFloat? negative cs := by
  simp only [List.mem_cons, List.not_mem_nil, or_false, not_or] at h
  rcases h with ⟨hinf, hinfinity, hnan⟩
  rw [floatBehind?]
  dsimp only
  rw [decide_eq_false hinf, decide_eq_false hinfinity, Bool.or_self, if_neg Bool.false_ne_true,
    if_neg hnan]

theorem isSome_floatBehind?_iff {negative : Bool} :
    (floatBehind? negative cs).isSome ↔ IsUnsignedFloat cs := by
  rw [isUnsignedFloat_iff negative]
  by_cases hword : String.ofList (cs.map Char.toLower) ∈ ["inf", "infinity", "nan"]
  · obtain ⟨bits, -, hx⟩ := floatBehind?_word hword negative
    exact iff_of_true (Option.isSome_of_eq_some hx) (Or.inl hword)
  · rw [floatBehind?_of_not_word hword]
    exact (or_iff_right hword).symm

/-- The reader takes the texts of floats for floats, and no others. -/
theorem isSome_float?_iff : (float? s).isSome ↔ IsFloat s := by
  rw [float?_eq, isSome_floatBehind?_iff]
  constructor
  · intro h
    rcases exists_cutSign s.toList with ⟨sign, hsign, hs⟩
    exact ⟨sign, _, hsign, h, hs⟩
  · rintro ⟨sign, cs, hsign, hcs, hs⟩
    rw [hs, cutSign_append hsign hcs.head_ne]
    exact hcs

end LayerNet.Decimal
