import LayerNet.Proofs.Json.Compact

/-!
# The grammar of documents

What a document may look like: white space stands around every part, a character of a text has
several spellings, a number may have a fraction and an exponent.  Nothing here says how a document
is read; the grammar is what a reader has to cope with.

There are two views of a text.  As what a reader takes it for, it is the spelling of characters, and
the two halves of a surrogate pair stand together.  As what may stand in a document without being
looked at, it has to be cut right only, and half of a pair may stand alone.

Main definitions:

- `SpelledText`: the ways to write a text.
- `IsText`, `IsNumber`: what may stand for a text and for a number.
- `Enclosed`: parts between brackets, with commas and white space.
- `IsValue`: the values of documents.

Main results:

- `spelledText_textChars`: the printer spells texts.
- `enclosed_compactItems`, `enclosed_compactFields`: it encloses items and fields.
-/

namespace LayerNet.Json

/-! ## White space -/

/-- The characters that mean nothing between the parts of a document. -/
def blanks : List Char :=
  [' ', '\t', '\n', '\r']

theorem forall_mem_blanks {p : Char → Prop} (hspace : p ' ') (htab : p '\t') (hline : p '\n')
    (hreturn : p '\r') : ∀ c ∈ blanks, p c := by
  simp [blanks, hspace, htab, hline, hreturn]

/-- Whether there is only white space. -/
def IsBlank (cs : List Char) : Prop :=
  ∀ c ∈ cs, c ∈ blanks

instance (cs : List Char) : Decidable (IsBlank cs) :=
  decidable_of_iff (cs.all (· ∈ blanks) = true) (by simp [IsBlank])

theorem isBlank_nil : IsBlank [] :=
  List.forall_mem_nil _

theorem isBlank_cons {c : Char} {cs : List Char} : IsBlank (c :: cs) ↔ c ∈ blanks ∧ IsBlank cs :=
  List.forall_mem_cons

/-! ## Texts -/

/-- A digit of value `n`, the letters among the digits in either case. -/
def IsHexDigit (n : Nat) (c : Char) : Prop :=
  n < 16 ∧ (c = Nat.digitChar n ∨ c = (Nat.digitChar n).toUpper)

instance (n : Nat) (c : Char) : Decidable (IsHexDigit n c) :=
  inferInstanceAs (Decidable (_ ∧ _))

/-- An escape by number: four hexadecimal digits write a unit of 16 bits. -/
inductive UnitEscape : Nat → List Char → Prop where
  | digits {a b c d : Nat} {ca cb cc cd : Char} (ha : IsHexDigit a ca) (hb : IsHexDigit b cb)
      (hc : IsHexDigit c cc) (hd : IsHexDigit d cd) :
      UnitEscape (((a * 16 + b) * 16 + c) * 16 + d) ['\\', 'u', ca, cb, cc, cd]

/-- The escapes by letter; the slash has one too, though it needs none. -/
def letterEscapes : List (Char × Char) :=
  ('/', '/') :: shortEscapes

/-- Whether a character may stand for itself in a text. -/
def IsPlain (c : Char) : Prop :=
  c ≠ '"' ∧ c ≠ '\\' ∧ 0x20 ≤ c.toNat

/-- The ways to write a character of a text. -/
inductive Spelled (c : Char) : List Char → Prop where
  | plain (h : IsPlain c) : Spelled c [c]
  | letter {l : Char} (h : (l, c) ∈ letterEscapes) : Spelled c ['\\', l]
  | unit {n : Nat} {cs : List Char} (h : UnitEscape n cs) (hc : c.toNat = n) : Spelled c cs
  | pair {high low : Nat} {cs ds : List Char} (hhigh : UnitEscape high cs)
      (hlow : UnitEscape low ds)
      (hfirst : 0xD800 ≤ high ∧ high ≤ 0xDBFF) (hsecond : 0xDC00 ≤ low ∧ low ≤ 0xDFFF)
      (hc : c.toNat = (high - 0xD800) * 0x400 + (low - 0xDC00) + 0x10000) : Spelled c (cs ++ ds)

/-- The ways to write characters of a text one after the other. -/
inductive SpelledChars : List Char → List Char → Prop where
  | nil : SpelledChars [] []
  | cons {c : Char} {s cs ds : List Char} (hc : Spelled c cs) (h : SpelledChars s ds) :
      SpelledChars (c :: s) (cs ++ ds)

/-- The ways to write a text. -/
def SpelledText (s : String) (cs : List Char) : Prop :=
  ∃ body, SpelledChars s.toList body ∧ cs = '"' :: (body ++ ['"'])

/-- What may stand between quotes, whether it means a text or not. -/
inductive IsTextBody : List Char → Prop where
  | nil : IsTextBody []
  | plain {c : Char} {cs : List Char} (hc : IsPlain c) (h : IsTextBody cs) : IsTextBody (c :: cs)
  | letter {l c : Char} {cs : List Char} (hl : (l, c) ∈ letterEscapes) (h : IsTextBody cs) :
      IsTextBody ('\\' :: l :: cs)
  | unit {n : Nat} {ds cs : List Char} (hd : UnitEscape n ds) (h : IsTextBody cs) :
      IsTextBody (ds ++ cs)

/-- What may stand for a text. -/
def IsText (cs : List Char) : Prop :=
  ∃ body, IsTextBody body ∧ cs = '"' :: (body ++ ['"'])

/-- Spelling is one way to stand between quotes; there are others, which mean no text. -/
theorem SpelledChars.isTextBody {s body : List Char} (h : SpelledChars s body) :
    IsTextBody body := by
  induction h with
  | nil => exact .nil
  | cons hc _ ih =>
      cases hc with
      | plain hplain => exact .plain hplain ih
      | letter hletter => exact .letter hletter ih
      | unit hunit _ => exact .unit hunit ih
      | pair hhigh hlow _ _ _ =>
          rw [List.append_assoc]
          exact .unit hhigh (.unit hlow ih)

/-- A text that is spelled may stand for a text. -/
theorem SpelledText.isText {s : String} {cs : List Char} (h : SpelledText s cs) : IsText cs := by
  rcases h with ⟨body, hbody, rfl⟩
  exact ⟨body, hbody.isTextBody, rfl⟩

/-! ## Numbers -/

/-- Decimal digits, at least one. -/
def IsDigits (ds : List Char) : Prop :=
  ds ≠ [] ∧ ∀ d ∈ ds, d.isDigit = true

instance (ds : List Char) : Decidable (IsDigits ds) :=
  decidable_of_iff (ds ≠ [] ∧ ds.all Char.isDigit = true) (by simp [IsDigits])

/-- Digits do not begin with a sign. -/
theorem IsDigits.head_ne {ds : List Char} (h : IsDigits ds) :
    ∀ c ∈ ds.head?, c ≠ '+' ∧ c ≠ '-' := by
  intro c hc
  have hdigit := h.2 c (List.mem_of_mem_head? hc)
  constructor <;> rintro rfl <;> exact absurd hdigit (by decide)

theorem isDigits_digits (n : Nat) : IsDigits (Decimal.digits n) :=
  ⟨Nat.toDigits_ne_nil, fun _ hd => Decimal.isDigit_of_mem_digits hd⟩

/-- The digits before the point: no zero stands in front of others. -/
def IsWhole (ds : List Char) : Prop :=
  IsDigits ds ∧ (ds.head? = some '0' → ds = ['0'])

/-- A fraction, or nothing. -/
def IsFraction (cs : List Char) : Prop :=
  cs = [] ∨ ∃ ds, IsDigits ds ∧ cs = '.' :: ds

/-- An exponent, or nothing. -/
def IsExponent (cs : List Char) : Prop :=
  cs = [] ∨ ∃ e sign ds, e ∈ ['e', 'E'] ∧ sign ∈ [[], ['+'], ['-']] ∧ IsDigits ds ∧
    cs = e :: (sign ++ ds)

/-- An exponent does not go on with digits or a point. -/
theorem IsExponent.head_ne {cs : List Char} (h : IsExponent cs) :
    ∀ c ∈ cs.head?, c.isDigit = false ∧ c ≠ '.' := by
  rcases h with rfl | ⟨e, sign, ds, he, -, -, rfl⟩
  · exact nofun
  · rintro c ⟨⟩
    obtain rfl | rfl : e = 'e' ∨ e = 'E' := by simpa using he
    · decide
    · decide

/-- A number behind its sign. -/
def IsUnsigned (cs : List Char) : Prop :=
  ∃ whole fraction exponent, IsWhole whole ∧ IsFraction fraction ∧ IsExponent exponent ∧
    cs = whole ++ (fraction ++ exponent)

/-- What may stand for a number. -/
def IsNumber (cs : List Char) : Prop :=
  IsUnsigned cs ∨ ∃ ds, IsUnsigned ds ∧ cs = '-' :: ds

/-! ## Layout -/

/-- Parts with commas between them, and white space around each. -/
inductive Listed : List (List Char) → List Char → Prop where
  | last {front part behind : List Char} (hfront : IsBlank front) (hbehind : IsBlank behind) :
      Listed [part] (front ++ (part ++ behind))
  | more {front part behind cs : List Char} {parts : List (List Char)} (hfront : IsBlank front)
      (hbehind : IsBlank behind) (h : Listed parts cs) :
      Listed (part :: parts) (front ++ (part ++ (behind ++ ',' :: cs)))

/-- Parts between two brackets, with commas; without parts there may still be white space. -/
inductive Enclosed (opening closing : Char) : List (List Char) → List Char → Prop where
  | empty {cs : List Char} (h : IsBlank cs) :
      Enclosed opening closing [] (opening :: (cs ++ [closing]))
  | listed {parts : List (List Char)} {cs : List Char} (h : Listed parts cs) :
      Enclosed opening closing parts (opening :: (cs ++ [closing]))

/-- A member of an object: a key and a value, and white space around the colon between them. -/
structure Member where
  key : List Char
  front : List Char
  behind : List Char
  value : List Char
  blank_front : IsBlank front
  blank_behind : IsBlank behind

/-- The characters of a member. -/
def Member.chars (m : Member) : List Char :=
  m.key ++ (m.front ++ ':' :: (m.behind ++ m.value))

/-- The items of an array. -/
abbrev ArrayOf : List (List Char) → List Char → Prop :=
  Enclosed '[' ']'

/-- The members of an object. -/
def ObjectOf (members : List Member) : List Char → Prop :=
  Enclosed '\x7b' '\x7d' (members.map Member.chars)

/-! ## Values -/

/-- The values of documents, however deep. -/
inductive IsValue : List Char → Prop where
  | null : IsValue nullChars
  | bool (b : Bool) : IsValue (boolChars b)
  | number {cs : List Char} (h : IsNumber cs) : IsValue cs
  | text {cs : List Char} (h : IsText cs) : IsValue cs
  | array {items : List (List Char)} {cs : List Char} (h : ArrayOf items cs)
      (hitems : ∀ item ∈ items, IsValue item) : IsValue cs
  | object {members : List Member} {cs : List Char} (h : ObjectOf members cs)
      (hkeys : ∀ m ∈ members, IsText m.key) (hvalues : ∀ m ∈ members, IsValue m.value) : IsValue cs

/-! ## Documents on one line -/

theorem unitEscape_of_lt {n : Nat} (h : n < 0x100) :
    UnitEscape n (['\\', 'u', '0', '0'] ++ hexPair n) := by
  have hzero : IsHexDigit 0 '0' := ⟨by decide, Or.inl rfl⟩
  have hvalue : n = ((0 * 16 + 0) * 16 + n / 16 % 16) * 16 + n % 16 := by omega
  have hescape := UnitEscape.digits hzero hzero
    ⟨Nat.mod_lt (n / 16) (by decide), Or.inl rfl⟩ ⟨Nat.mod_lt n (by decide), Or.inl rfl⟩
  rw [← hvalue] at hescape
  exact hescape

/-- The printer's choice is one of the spellings of a character. -/
theorem spelled_escapedChar (c : Char) : Spelled c (escapedChar c) := by
  rcases escapedChar_cases c with ⟨hc, hslash, hquote, hle⟩ | ⟨l, hc, hshort⟩ | ⟨hc, hcontrol⟩ <;>
    rw [hc]
  · exact .plain ⟨hquote, hslash, hle⟩
  · exact .letter (List.mem_cons_of_mem _ hshort)
  · exact .unit (unitEscape_of_lt (by omega)) rfl

theorem spelledChars_flatMap (s : List Char) : SpelledChars s (s.flatMap escapedChar) := by
  induction s with
  | nil => exact .nil
  | cons c s ih => exact .cons (spelled_escapedChar c) ih

/-- A text is spelled by what the printer writes. -/
theorem spelledText_textChars (s : String) : SpelledText s (textChars s) :=
  ⟨s.toList.flatMap escapedChar, spelledChars_flatMap s.toList, rfl⟩

/-- Items are listed as the printer writes them, with no blanks around the commas. -/
theorem listed_compactItems (j : Json) (js : List Json) :
    Listed ((j :: js).map compactChars) (compactItems (j :: js)) := by
  induction js generalizing j with
  | nil => exact .last isBlank_nil isBlank_nil
  | cons j' js ih => exact .more isBlank_nil isBlank_nil (ih j')

/-- An array on one line encloses its items. -/
theorem enclosed_compactItems (js : List Json) :
    ArrayOf (js.map compactChars) (compactChars (.arr js)) := by
  cases js with
  | nil => exact .empty isBlank_nil
  | cons j js => exact .listed (listed_compactItems j js)

/-- A member without white space, its name as the printer spells it. -/
def Member.tight (name : String) (value : List Char) : Member where
  key := textChars name
  front := []
  behind := []
  value := value
  blank_front := isBlank_nil
  blank_behind := isBlank_nil

/-- The member that a field is written as on one line. -/
def Member.ofField (field : String × Json) : Member :=
  .tight field.1 (compactChars field.2)

/-- A member on one line: a key, a colon and a value. -/
theorem Member.chars_ofField (field : String × Json) :
    (Member.ofField field).chars = textChars field.1 ++ ':' :: compactChars field.2 :=
  rfl

/-- Members are listed as the printer writes them, with no blanks around colons and commas. -/
theorem listed_compactFields (field : String × Json) (fields : List (String × Json)) :
    Listed (((field :: fields).map Member.ofField).map Member.chars)
      (compactFields (field :: fields)) := by
  induction fields generalizing field with
  | nil =>
      have hlast : Listed [(Member.ofField field).chars]
          ([] ++ ((Member.ofField field).chars ++ [])) :=
        .last isBlank_nil isBlank_nil
      simpa [compactFields, compactMoreFields, Member.chars_ofField] using hlast
  | cons field' fields ih =>
      have hmore : Listed _ ([] ++ ((Member.ofField field).chars ++ ([] ++ ',' ::
          compactFields (field' :: fields)))) := .more isBlank_nil isBlank_nil (ih field')
      simpa [compactFields, compactMoreFields, Member.chars_ofField] using hmore

/-- An object on one line encloses its fields. -/
theorem enclosed_compactFields (fields : List (String × Json)) :
    ObjectOf (fields.map Member.ofField) (compactChars (.obj fields)) := by
  cases fields with
  | nil => exact .empty isBlank_nil
  | cons field fields => exact .listed (listed_compactFields field fields)

end LayerNet.Json
