import LayerNet.Decimal.Reader
import LayerNet.Json.Basic

/-!
# Lexemes of a document

A text is cut into punctuation, words, numbers and texts; white space between them is dropped.  What
cannot be cut on ends the list with a broken lexeme, so that a reader meets it only when it gets
there.

A value may be read or merely skipped, and the two differ for some lexemes: a skipped text is
checked only for its escapes, a skipped number may be of any size, and a number cut short by the
end of the text is unfinished when read but malformed when skipped.  The lexeme records what is
needed for both.

Main definitions:

- `Lexeme`: the pieces.
- `Lexeme.scan`: the pieces of a text.
-/

namespace LayerNet.Json

/-- Why a text is not a document: something stands where it must not, or the text ends too early. -/
inductive Fault where
  | malformed
  | unfinished
deriving DecidableEq, Repr

/-- A piece of a document. -/
inductive Lexeme where
  | openBrace
  | closeBrace
  | openBracket
  | closeBracket
  | colon
  | comma
  | null
  | bool (value : Bool)
  | int (value : Int)
  /-- a number with a point or an exponent, or an integer beyond 64 bits -/
  | float (value : Float)
  /-- a number beyond the range of floats -/
  | huge
  /-- a text; none if it has half of a surrogate pair -/
  | text (content : Option String)
  /-- a text that breaks off, with what it is when read and when skipped -/
  | brokenText (read skipped : Fault)
  /-- a number that breaks off, with what it is when read -/
  | brokenNumber (read : Fault)
  /-- a word that breaks off -/
  | brokenWord (fault : Fault)
  /-- a character that begins no lexeme -/
  | stray

namespace Lexeme

/-! ## Texts -/

/-- The value of a hexadecimal digit. -/
def hexValue? (c : Char) : Option Nat :=
  if '0' ≤ c && c ≤ '9' then some (c.toNat - 48)
  else if 'a' ≤ c && c ≤ 'f' then some (c.toNat - 87)
  else if 'A' ≤ c && c ≤ 'F' then some (c.toNat - 55)
  else none

/-- The value of four hexadecimal digits. -/
def hexUnit? (a b c d : Char) : Option Nat :=
  match hexValue? a, hexValue? b, hexValue? c, hexValue? d with
  | some a, some b, some c, some d => some (((a * 16 + b) * 16 + c) * 16 + d)
  | _, _, _, _ => none

/-- What is wrong where four hexadecimal digits are wanted: with fewer than four bytes left the text
is unfinished. -/
def hexFault (cs : List Char) : Fault :=
  if (cs.take 4).foldl (fun n c => n + c.utf8Size) 0 < 4 then .unfinished else .malformed

/-- The character of a one-letter escape. -/
def escape? (c : Char) : Option Char :=
  if c = '"' then some '"'
  else if c = '\\' then some '\\'
  else if c = '/' then some '/'
  else if c = 'b' then some '\x08'
  else if c = 'f' then some '\x0c'
  else if c = 'n' then some '\n'
  else if c = 'r' then some '\r'
  else if c = 't' then some '\t'
  else none

/-- Whether a unit is the first half of a surrogate pair. -/
def isHighHalf (n : Nat) : Bool :=
  0xD800 ≤ n && n ≤ 0xDBFF

/-- Whether a unit is the second half of a surrogate pair. -/
def isLowHalf (n : Nat) : Bool :=
  0xDC00 ≤ n && n ≤ 0xDFFF

/-- Reads a text from behind its opening quote up to the closing one; `acc` holds the characters
read, in reverse, and `high` the first half of a surrogate pair whose second half must follow. -/
def readText (acc : List Char) (high : Option Nat) : List Char → Except Fault String
  | [] => .error .unfinished
  | '\\' :: 'u' :: rest =>
    match rest with
    | a :: b :: c :: d :: rest =>
      match hexUnit? a b c d with
      | none => .error (hexFault [a, b, c, d])
      | some n =>
        match high with
        | some first =>
          if isLowHalf n then
            let c := Char.ofNat ((first - 0xD800) * 0x400 + (n - 0xDC00) + 0x10000)
            readText (c :: acc) none rest
          else .error .malformed
        | none =>
          if isLowHalf n then .error .malformed
          else if isHighHalf n then readText acc (some n) rest
          else readText (Char.ofNat n :: acc) none rest
    | short => .error (hexFault short)
  | '\\' :: c :: rest =>
    if high.isSome then .error .malformed
    else match escape? c with
      | some e => readText (e :: acc) none rest
      | none => .error .malformed
  | ['\\'] => .error .unfinished
  | c :: rest =>
    if high.isSome then .error .malformed
    else if c = '"' then .ok (String.ofList acc.reverse)
    else if c.toNat < 0x20 then .error .malformed
    else readText (c :: acc) none rest

/-- Skips a text from behind its opening quote to behind the closing one. -/
def skipText : List Char → Except Fault (List Char)
  | [] => .error .unfinished
  | '\\' :: 'u' :: rest =>
    match rest with
    | a :: b :: c :: d :: rest =>
      match hexUnit? a b c d with
      | none => .error (hexFault [a, b, c, d])
      | some _ => skipText rest
    | short => .error (hexFault short)
  | '\\' :: c :: rest => if (escape? c).isSome then skipText rest else .error .malformed
  | ['\\'] => .error .unfinished
  | c :: rest =>
    if c = '"' then .ok rest
    else if c.toNat < 0x20 then .error .malformed
    else skipText rest

/-- What is left behind a skipped text is shorter. -/
theorem length_of_skipText {cs rest : List Char} (h : skipText cs = .ok rest) :
    rest.length < cs.length := by
  fun_induction skipText cs <;> simp_all <;> try omega

/-! ## Numbers -/

/-- Digits that must be there: their run and the rest, or what is wrong. -/
def someDigits (cs : List Char) : Except Fault (List Char × List Char) :=
  match Decimal.spanDigits cs with
  | ([], []) => .error .unfinished
  | ([], _) => .error .malformed
  | (ds, rest) => .ok (ds, rest)

/-- The digits before the point: one zero, or digits that do not begin with zero. -/
def wholeDigits (cs : List Char) : Except Fault (List Char × List Char) :=
  match someDigits cs with
  | .ok ('0' :: _ :: _, _) => .error .malformed
  | found => found

/-- The digits behind a point, if there is one. -/
def fractionDigits : List Char → Except Fault (Option (List Char) × List Char)
  | '.' :: cs => (someDigits cs).map fun (ds, rest) => (some ds, rest)
  | cs => .ok (none, cs)

/-- The exponent, if there is one. -/
def exponentValue : List Char → Except Fault (Option Int × List Char)
  | [] => .ok (none, [])
  | c :: cs =>
    if c = 'e' ∨ c = 'E' then
      let (negative, cs) := match cs with
        | '-' :: cs => (true, cs)
        | '+' :: cs => (false, cs)
        | cs => (false, cs)
      (someDigits cs).map fun (ds, rest) =>
        let n : Int := Decimal.natOfDigits ds
        (some (if negative then -n else n), rest)
    else .ok (none, c :: cs)

/-- A float, if it is finite. -/
def ofFloat (x : Float) : Lexeme :=
  if x.isFinite then .float x else .huge

/-- The lexeme of an integer: negative zero and what does not fit into 64 bits are floats. -/
def ofInteger (negative : Bool) (n : Nat) : Lexeme :=
  if negative then
    if n = 0 ∨ Nat.pow 2 63 < n then ofFloat (Decimal.nearest true n 0) else .int (-(n : Int))
  else if n < UInt64.size then .int n
  else ofFloat (Decimal.nearest false n 0)

/-- A number behind its sign, and the rest. -/
def number (negative : Bool) (cs : List Char) : Except Fault (Lexeme × List Char) := do
  let (whole, rest) ← wholeDigits cs
  let (fraction, rest) ← fractionDigits rest
  let (exponent, rest) ← exponentValue rest
  match fraction, exponent with
  | none, none => .ok (ofInteger negative (Decimal.natOfDigits whole), rest)
  | _, _ =>
    let ds := fraction.getD []
    let x := Decimal.nearest negative (Decimal.natOfDigits (whole ++ ds))
      (exponent.getD 0 - ds.length)
    .ok (ofFloat x, rest)

/-- Every reader leaves less than it was given, or at most as much: this is why cutting into lexemes
ends. -/
theorem length_of_someDigits {cs : List Char} {ds rest : List Char}
    (h : someDigits cs = .ok (ds, rest)) : rest.length < cs.length := by
  have whole : cs.length =
      (cs.takeWhile Char.isDigit).length + (cs.dropWhile Char.isDigit).length := by
    rw [← List.length_append, List.takeWhile_append_dropWhile]
  unfold someDigits Decimal.spanDigits at h
  split at h
  · simp at h
  · simp at h
  · rename_i ds' rest' hne heq
    simp only [Except.ok.injEq, Prod.mk.injEq] at h heq
    obtain ⟨rfl, rfl⟩ := h
    obtain ⟨rfl, rfl⟩ := heq
    have : (cs.takeWhile Char.isDigit).length ≠ 0 := by
      intro h0
      have := List.length_eq_zero_iff.1 h0
      simp_all
    omega

theorem length_of_wholeDigits {cs : List Char} {ds rest : List Char}
    (h : wholeDigits cs = .ok (ds, rest)) : rest.length < cs.length := by
  unfold wholeDigits at h
  split at h
  · simp at h
  · exact length_of_someDigits h

theorem length_of_fractionDigits {cs : List Char} {ds : Option (List Char)} {rest : List Char}
    (h : fractionDigits cs = .ok (ds, rest)) : rest.length ≤ cs.length := by
  unfold fractionDigits at h
  split at h
  · rename_i cs'
    cases hs : someDigits cs' with
    | error f => simp [hs, Except.map] at h
    | ok r =>
      obtain ⟨ds', rest'⟩ := r
      simp only [hs, Except.map, Except.ok.injEq, Prod.mk.injEq] at h
      obtain ⟨_, rfl⟩ := h
      have := length_of_someDigits hs
      simp only [List.length_cons]
      omega
  · simp_all

theorem length_of_exponentValue {cs : List Char} {e : Option Int} {rest : List Char}
    (h : exponentValue cs = .ok (e, rest)) : rest.length ≤ cs.length := by
  unfold exponentValue at h
  split at h
  · simp_all
  · rename_i c cs'
    split at h
    · simp only [List.length_cons]
      generalize hq : (match cs' with
        | '-' :: cs => (true, cs)
        | '+' :: cs => (false, cs)
        | cs => (false, cs)) = q at h
      have hle : q.2.length ≤ cs'.length := by
        rw [← hq]
        split <;> simp
      obtain ⟨negative, cs''⟩ := q
      cases hs : someDigits cs'' with
      | error f => simp [hs, Except.map] at h
      | ok r =>
        obtain ⟨ds', rest'⟩ := r
        simp only [hs, Except.map, Except.ok.injEq, Prod.mk.injEq] at h
        obtain ⟨_, rfl⟩ := h
        have := length_of_someDigits hs
        simp only at hle
        omega
    · simp only [Except.ok.injEq, Prod.mk.injEq] at h
      simp [← h.2]

/-- What is left behind a number is shorter. -/
theorem length_of_number {negative : Bool} {cs : List Char} {l : Lexeme} {rest : List Char}
    (h : number negative cs = .ok (l, rest)) : rest.length < cs.length := by
  unfold number at h
  simp only [bind, Except.bind] at h
  cases hw : wholeDigits cs with
  | error f => simp [hw] at h
  | ok w =>
    obtain ⟨ds, rest₁⟩ := w
    simp only [hw] at h
    cases hf : fractionDigits rest₁ with
    | error f => simp [hf] at h
    | ok w =>
      obtain ⟨fs, rest₂⟩ := w
      simp only [hf] at h
      cases he : exponentValue rest₂ with
      | error f => simp [he] at h
      | ok w =>
        obtain ⟨e, rest₃⟩ := w
        simp only [he] at h
        have h₁ := length_of_wholeDigits hw
        have h₂ := length_of_fractionDigits hf
        have h₃ := length_of_exponentValue he
        have : rest = rest₃ := by
          split at h <;> simp_all
        subst this
        omega

/-! ## Words -/

/-- The rest behind a word, or what is wrong with it. -/
def word : List Char → List Char → Except Fault (List Char)
  | [], cs => .ok cs
  | _ :: _, [] => .error .unfinished
  | w :: ws, c :: cs => if w = c then word ws cs else .error .malformed

theorem length_of_word {ws cs rest : List Char} (h : word ws cs = .ok rest) :
    rest.length ≤ cs.length := by
  induction ws generalizing cs with
  | nil => simp_all [word]
  | cons w ws ih =>
    cases cs with
    | nil => simp [word] at h
    | cons c cs =>
      unfold word at h
      split at h
      · have := ih h
        simp only [List.length_cons]
        omega
      · simp at h

/-! ## The whole text -/

/-- Whether a character is white space between lexemes. -/
def isSpace (c : Char) : Bool :=
  c = ' ' || c = '\n' || c = '\t' || c = '\r'

/-- A character that is a lexeme by itself. -/
def punctuation? (c : Char) : Option Lexeme :=
  if c = '\x7b' then some .openBrace
  else if c = '\x7d' then some .closeBrace
  else if c = '[' then some .openBracket
  else if c = ']' then some .closeBracket
  else if c = ':' then some .colon
  else if c = ',' then some .comma
  else none

/-- The word that a letter begins: its further letters and its lexeme. -/
def wordOf? (c : Char) : Option (List Char × Lexeme) :=
  if c = 'n' then some (['u', 'l', 'l'], .null)
  else if c = 't' then some (['r', 'u', 'e'], .bool true)
  else if c = 'f' then some (['a', 'l', 's', 'e'], .bool false)
  else none

/-- One lexeme at the front of `c :: cs`, and the rest if the text can be cut on. -/
def one (c : Char) (cs : List Char) :
    Lexeme × Option { rest : List Char // rest.length ≤ cs.length } :=
  match punctuation? c with
  | some l => (l, some ⟨cs, Nat.le_refl _⟩)
  | none =>
    match wordOf? c with
    | some (letters, l) =>
      match h : word letters cs with
      | .ok rest => (l, some ⟨rest, length_of_word h⟩)
      | .error fault => (.brokenWord fault, none)
    | none =>
      if c = '"' then
        match h : skipText cs with
        | .ok rest =>
          (.text (readText [] none cs).toOption, some ⟨rest, Nat.le_of_lt (length_of_skipText h)⟩)
        | .error skipped =>
          match readText [] none cs with
          | .error read => (.brokenText read skipped, none)
          | .ok _ => (.brokenText skipped skipped, none)
      else if c = '-' then
        match h : number true cs with
        | .ok (l, rest) => (l, some ⟨rest, Nat.le_of_lt (length_of_number h)⟩)
        | .error read => (.brokenNumber read, none)
      else if c.isDigit then
        match h : number false (c :: cs) with
        | .ok (l, rest) => (l, some ⟨rest, Nat.le_of_lt_succ (length_of_number h)⟩)
        | .error read => (.brokenNumber read, none)
      else (.stray, none)

/-- The lexemes of the characters. -/
def scan : List Char → List Lexeme
  | [] => []
  | c :: cs =>
    if isSpace c then scan cs
    else match one c cs with
      | (l, none) => [l]
      | (l, some rest) => l :: scan rest.1
termination_by cs => cs.length
decreasing_by
  · simp
  · have := rest.2
    simp only [List.length_cons]
    omega

end Lexeme

end LayerNet.Json
