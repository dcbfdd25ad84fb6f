import LayerNet.Json.Lexeme
import LayerNet.Proofs.Json.Compact

/-!
# The pieces of a document

A document consists of words, of texts between quotes, and of single marks; white space may stand
between them and means nothing.  Words and texts are taken as they are written.  Whether a document
is on one line or spread over lines, its pieces are the same.

Main definitions:

- `Piece`: what a document consists of.
- `pieces`: the pieces of any characters.
- `outline`: the pieces of a document.

Main results:

- `pieces_compactChars_append`, `pieces_spreadChars_append`: the pieces of a document as it is
  written, in front of anything that is not part of its last word.
-/

namespace LayerNet.Json

/-! ## Cutting -/

/-- A word, a text as it is written between its quotes, or any other character that is not white
space. -/
inductive Piece where
  | word (written : String)
  | text (written : String)
  | mark (c : Char)
deriving DecidableEq, Repr

/-- Puts the word in front, if there is one, before the pieces behind it. -/
def wordThen : List Char × List Piece → List Piece
  | ([], pieces) => pieces
  | (word, pieces) => .word (String.ofList word) :: pieces

mutual

/-- The characters of the word in front, and the pieces behind it. -/
def cutOutside : List Char → List Char × List Piece
  | [] => ([], [])
  | c :: cs =>
    if isWordChar c then
      let (word, pieces) := cutOutside cs
      (c :: word, pieces)
    else if c = '"' then
      let (text, pieces) := cutInside cs
      ([], .text (String.ofList text) :: pieces)
    else if Lexeme.isSpace c then ([], wordThen (cutOutside cs))
    else ([], .mark c :: wordThen (cutOutside cs))
termination_by structural cs => cs

/-- The characters of the text up to its closing quote, and the pieces behind it. -/
def cutInside : List Char → List Char × List Piece
  | '\\' :: c :: cs =>
    let (text, pieces) := cutInside cs
    ('\\' :: c :: text, pieces)
  | '"' :: cs => ([], wordThen (cutOutside cs))
  | c :: cs =>
    let (text, pieces) := cutInside cs
    (c :: text, pieces)
  | [] => ([], [.mark '"'])
termination_by structural cs => cs

end

/-- The pieces of characters. -/
def pieces (cs : List Char) : List Piece :=
  wordThen (cutOutside cs)

/-! ## Words -/

/-- Whether no word goes on with the characters. -/
def Apart (cs : List Char) : Prop :=
  ∀ c ∈ cs.head?, isWordChar c = false

theorem apart_nil : Apart [] := by
  simp [Apart]

theorem apart_cons {c : Char} {cs : List Char} : Apart (c :: cs) ↔ isWordChar c = false := by
  simp [Apart]

/-- Where no word goes on, the word in front is empty. -/
theorem cutOutside_of_apart {cs : List Char} (h : Apart cs) : cutOutside cs = ([], pieces cs) := by
  cases cs with
  | nil => rfl
  | cons c cs =>
      have hc : ¬isWordChar c = true := by simp [apart_cons.mp h]
      unfold pieces cutOutside
      split_ifs <;> rfl

/-- A word that does not go on is a piece. -/
theorem pieces_append_of_isWord {word rest : List Char} (hword : IsWord word) (hne : word ≠ [])
    (hrest : Apart rest) :
    pieces (word ++ rest) = .word (String.ofList word) :: pieces rest := by
  have hcut : cutOutside (word ++ rest) = (word, pieces rest) := by
    clear hne
    induction word with
    | nil => exact cutOutside_of_apart hrest
    | cons c word ih =>
        rcases isWord_cons.mp hword with ⟨hc, hword⟩
        rw [List.cons_append, cutOutside, if_pos hc, ih hword]
  rw [pieces, hcut]
  cases word with
  | nil => exact absurd rfl hne
  | cons c word => rfl

/-! ## Marks and white space -/

/-- The marks of documents. -/
def punctuation : List Char :=
  ['[', ']', '\x7b', '\x7d', ',', ':']

/-- A mark is a piece of its own. -/
theorem pieces_cons_of_mem_punctuation {c : Char} (h : c ∈ punctuation) (cs : List Char) :
    pieces (c :: cs) = .mark c :: pieces cs := by
  have hc : c = '[' ∨ c = ']' ∨ c = '\x7b' ∨ c = '\x7d' ∨ c = ',' ∨ c = ':' := by
    simpa [punctuation] using h
  rcases hc with rfl | rfl | rfl | rfl | rfl | rfl <;> rfl

theorem pieces_cons_of_isSpace {c : Char} (h : Lexeme.isSpace c = true) (cs : List Char) :
    pieces (c :: cs) = pieces cs := by
  have hc : ((c = ' ' ∨ c = '\n') ∨ c = '\t') ∨ c = '\r' := by simpa [Lexeme.isSpace] using h
  rcases hc with ((rfl | rfl) | rfl) | rfl <;> rfl

/-- White space leaves no piece, however much of it there is. -/
theorem pieces_append_of_isSpace {cs : List Char} (h : ∀ c ∈ cs, Lexeme.isSpace c = true)
    (rest : List Char) : pieces (cs ++ rest) = pieces rest := by
  induction cs with
  | nil => rfl
  | cons c cs ih =>
      rcases List.forall_mem_cons.mp h with ⟨hc, hcs⟩
      rw [List.cons_append, pieces_cons_of_isSpace hc, ih hcs]

/-- The indentation of a line leaves no piece. -/
theorem pieces_newLine_append (level : Nat) (rest : List Char) :
    pieces (newLine level ++ rest) = pieces rest := by
  refine pieces_append_of_isSpace (List.forall_mem_cons.mpr ⟨rfl, fun c hc => ?_⟩) rest
  rw [List.eq_of_mem_replicate hc]
  rfl

/-! ## Texts -/

/-- The characters of a text as they are written between its quotes. -/
def written (s : String) : String :=
  String.ofList (s.toList.flatMap escapedChar)

/-- Texts that are written alike are the same: escapes can be read back. -/
theorem written_injective : Function.Injective written := by
  intro s t h
  exact textChars_injective (by rw [textChars, textChars, String.ofList_injective h])

theorem cutInside_cons {c : Char} (hslash : c ≠ '\\') (hquote : c ≠ '"') (cs : List Char) :
    cutInside (c :: cs) = (c :: (cutInside cs).1, (cutInside cs).2) := by
  rw [cutInside]
  · exact fun _ _ h _ => hslash h
  · exact hquote

/-- A character of a text is taken as it is written. -/
theorem cutInside_escapedChar_append (c : Char) (rest : List Char) :
    cutInside (escapedChar c ++ rest) =
      (escapedChar c ++ (cutInside rest).1, (cutInside rest).2) := by
  rcases escapedChar_cases c with ⟨hc, hslash, hquote, -⟩ | ⟨letter, hc, -⟩ | ⟨hc, -⟩ <;> rw [hc]
  · exact cutInside_cons hslash hquote rest
  · rfl
  · have hzero (cs : List Char) :
        cutInside ('0' :: cs) = ('0' :: (cutInside cs).1, (cutInside cs).2) :=
      cutInside_cons (by decide) (by decide) cs
    simp only [hexPair, List.cons_append, List.nil_append, cutInside, hzero,
      cutInside_cons (digitChar_mod_ne _).1 (digitChar_mod_ne _).2]

/-- A text is one piece, however its characters have to be escaped. -/
theorem pieces_textChars_append (s : String) (rest : List Char) :
    pieces (textChars s ++ rest) = .text (written s) :: pieces rest := by
  have hinner (cs : List Char) :
      cutInside (cs.flatMap escapedChar ++ '"' :: rest) =
        (cs.flatMap escapedChar, pieces rest) := by
    induction cs with
    | nil => rfl
    | cons c cs ih =>
        rw [List.flatMap_cons, List.append_assoc, cutInside_escapedChar_append, ih]
  have hquote (cs : List Char) :
      pieces ('"' :: cs) = .text (String.ofList (cutInside cs).1) :: (cutInside cs).2 := rfl
  rw [textChars_eq, List.cons_append, List.append_assoc, hquote]
  exact congrArg (fun cut => Piece.text (String.ofList cut.1) :: cut.2) (hinner s.toList)

/-! ## Documents -/

mutual

/-- The pieces of a document. -/
def outline : Json → List Piece
  | .null => [.word (String.ofList nullChars)]
  | .bool b => [.word (String.ofList (boolChars b))]
  | .int n => [.word (String.ofList (intChars n))]
  | .float x => [.word (String.ofList (floatChars x))]
  | .str s => [.text (written s)]
  | .arr items => .mark '[' :: outlineItems items ++ [.mark ']']
  | .obj fields => .mark '\x7b' :: outlineFields fields ++ [.mark '\x7d']
termination_by structural j => j

/-- The pieces of the items of an array. -/
def outlineItems : List Json → List Piece
  | [] => []
  | j :: js => outline j ++ outlineMoreItems js
termination_by structural js => js

/-- The pieces of further items. -/
def outlineMoreItems : List Json → List Piece
  | [] => []
  | j :: js => .mark ',' :: outline j ++ outlineMoreItems js
termination_by structural js => js

/-- The pieces of the fields of an object. -/
def outlineFields : List (String × Json) → List Piece
  | [] => []
  | (key, j) :: fields =>
    .text (written key) :: .mark ':' :: outline j ++ outlineMoreFields fields
termination_by structural fields => fields

/-- The pieces of further fields. -/
def outlineMoreFields : List (String × Json) → List Piece
  | [] => []
  | (key, j) :: fields =>
    .mark ',' :: .text (written key) :: .mark ':' :: outline j ++ outlineMoreFields fields
termination_by structural fields => fields

end

theorem boolChars_ne_nil (b : Bool) : boolChars b ≠ [] := by
  cases b <;> exact List.cons_ne_nil _ _

theorem intChars_ne_nil (n : Int) : intChars n ≠ [] := by
  unfold intChars
  split
  · exact List.cons_ne_nil _ _
  · exact Nat.toDigits_ne_nil

theorem scientific_ne_nil (ds : List Char) (e : Int) : Decimal.Layout.scientific ds e ≠ [] := by
  unfold Decimal.Layout.scientific
  split <;> exact List.cons_ne_nil _ _

theorem fixed_ne_nil (layout : Decimal.Layout) {ds : List Char} (hds : ds ≠ []) (e : Int) :
    layout.fixed ds e ≠ [] := by
  unfold Decimal.Layout.fixed
  split
  · exact List.cons_ne_nil _ _
  · simp only
    split <;> simp [hds]

/-- Every number is written with some character, also those that are written as `null`. -/
theorem floatChars_ne_nil (x : Float) : floatChars x ≠ [] := by
  simp only [floatChars, Decimal.documentText, Decimal.Layout.render, Decimal.Layout.ofDecimal,
    String.toList_ofList]
  split
  · exact List.cons_ne_nil _ _
  · split
    · exact fixed_ne_nil _ Nat.toDigits_ne_nil _
    · exact scientific_ne_nil _ _

/-- Behind an item there is a comma or what stands behind the array, so that a number there ends. -/
theorem apart_compactMoreItems_append {rest : List Char} (hrest : Apart rest) (js : List Json) :
    Apart (compactMoreItems js ++ rest) := by
  cases js with
  | nil => exact hrest
  | cons j js => exact apart_cons.mpr rfl

theorem apart_compactMoreFields_append {rest : List Char} (hrest : Apart rest)
    (fields : List (String × Json)) : Apart (compactMoreFields fields ++ rest) := by
  cases fields with
  | nil => exact hrest
  | cons field fields => exact apart_cons.mpr rfl

mutual

/-- The pieces of a document on one line. -/
theorem pieces_compactChars_append {rest : List Char} (hrest : Apart rest) :
    (j : Json) → pieces (compactChars j ++ rest) = outline j ++ pieces rest
  | .null => pieces_append_of_isWord isWord_nullChars (List.cons_ne_nil _ _) hrest
  | .bool b => pieces_append_of_isWord (isWord_boolChars b) (boolChars_ne_nil b) hrest
  | .int n => pieces_append_of_isWord (isWord_intChars n) (intChars_ne_nil n) hrest
  | .float x => pieces_append_of_isWord (isWord_floatChars x) (floatChars_ne_nil x) hrest
  | .str s => pieces_textChars_append s rest
  | .arr items => by
    have hclose : Apart (']' :: rest) := apart_cons.mpr rfl
    simp only [compactChars, outline, List.cons_append, List.append_assoc, List.nil_append]
    rw [pieces_cons_of_mem_punctuation (by decide), pieces_compactItems_append hclose items,
      pieces_cons_of_mem_punctuation (by decide)]
  | .obj fields => by
    have hclose : Apart ('\x7d' :: rest) := apart_cons.mpr rfl
    simp only [compactChars, outline, List.cons_append, List.append_assoc, List.nil_append]
    rw [pieces_cons_of_mem_punctuation (by decide), pieces_compactFields_append hclose fields,
      pieces_cons_of_mem_punctuation (by decide)]
termination_by structural j => j

/-- This and the following go through the items and fields together with
`pieces_compactChars_append`. -/
theorem pieces_compactItems_append {rest : List Char} (hrest : Apart rest) :
    (js : List Json) → pieces (compactItems js ++ rest) = outlineItems js ++ pieces rest
  | [] => rfl
  | j :: js => by
    simp only [compactItems, outlineItems, List.append_assoc]
    rw [pieces_compactChars_append (apart_compactMoreItems_append hrest js) j,
      pieces_compactMoreItems_append hrest js]
termination_by structural js => js

theorem pieces_compactMoreItems_append {rest : List Char} (hrest : Apart rest) :
    (js : List Json) → pieces (compactMoreItems js ++ rest) = outlineMoreItems js ++ pieces rest
  | [] => rfl
  | j :: js => by
    simp only [compactMoreItems, outlineMoreItems, List.cons_append, List.append_assoc]
    rw [pieces_cons_of_mem_punctuation (by decide),
      pieces_compactChars_append (apart_compactMoreItems_append hrest js) j,
      pieces_compactMoreItems_append hrest js]
termination_by structural js => js

theorem pieces_compactFields_append {rest : List Char} (hrest : Apart rest) :
    (fields : List (String × Json)) →
      pieces (compactFields fields ++ rest) = outlineFields fields ++ pieces rest
  | [] => rfl
  | (key, j) :: fields => by
    simp only [compactFields, outlineFields, List.cons_append, List.append_assoc]
    rw [pieces_textChars_append, pieces_cons_of_mem_punctuation (by decide),
      pieces_compactChars_append (apart_compactMoreFields_append hrest fields) j,
      pieces_compactMoreFields_append hrest fields]
termination_by structural fields => fields

theorem pieces_compactMoreFields_append {rest : List Char} (hrest : Apart rest) :
    (fields : List (String × Json)) →
      pieces (compactMoreFields fields ++ rest) = outlineMoreFields fields ++ pieces rest
  | [] => rfl
  | (key, j) :: fields => by
    simp only [compactMoreFields, outlineMoreFields, List.cons_append, List.append_assoc]
    rw [pieces_cons_of_mem_punctuation (by decide), pieces_textChars_append,
      pieces_cons_of_mem_punctuation (by decide),
      pieces_compactChars_append (apart_compactMoreFields_append hrest fields) j,
      pieces_compactMoreFields_append hrest fields]
termination_by structural fields => fields

end

theorem apart_newLine_append (level : Nat) (rest : List Char) : Apart (newLine level ++ rest) :=
  apart_cons.mpr rfl

/-- As on one line, with the comma at the end of a line. -/
theorem apart_spreadMoreItems_append {rest : List Char} (hrest : Apart rest) (level : Nat)
    (js : List Json) : Apart (spreadMoreItems level js ++ rest) := by
  cases js with
  | nil => exact hrest
  | cons j js => exact apart_cons.mpr rfl

theorem apart_spreadMoreFields_append {rest : List Char} (hrest : Apart rest) (level : Nat)
    (fields : List (String × Json)) : Apart (spreadMoreFields level fields ++ rest) := by
  cases fields with
  | nil => exact hrest
  | cons field fields => exact apart_cons.mpr rfl

mutual

/-- The pieces of a document over several lines. -/
theorem pieces_spreadChars_append {rest : List Char} (hrest : Apart rest) (level : Nat) :
    (j : Json) → pieces (spreadChars level j ++ rest) = outline j ++ pieces rest
  | .null => pieces_append_of_isWord isWord_nullChars (List.cons_ne_nil _ _) hrest
  | .bool b => pieces_append_of_isWord (isWord_boolChars b) (boolChars_ne_nil b) hrest
  | .int n => pieces_append_of_isWord (isWord_intChars n) (intChars_ne_nil n) hrest
  | .float x => pieces_append_of_isWord (isWord_floatChars x) (floatChars_ne_nil x) hrest
  | .str s => pieces_textChars_append s rest
  | .arr [] => rfl
  | .arr (j :: js) => by
    have hlast : Apart (newLine level ++ ']' :: rest) := apart_newLine_append _ _
    simp only [spreadChars, outline, outlineItems, List.cons_append, List.append_assoc,
      List.nil_append]
    rw [pieces_cons_of_mem_punctuation (by decide), pieces_newLine_append,
      pieces_spreadChars_append (apart_spreadMoreItems_append hlast _ js) _ j,
      pieces_spreadMoreItems_append hlast _ js, pieces_newLine_append,
      pieces_cons_of_mem_punctuation (by decide)]
  | .obj [] => rfl
  | .obj ((key, j) :: fields) => by
    have hlast : Apart (newLine level ++ '\x7d' :: rest) := apart_newLine_append _ _
    simp only [spreadChars, outline, outlineFields, List.cons_append, List.append_assoc,
      List.nil_append]
    rw [pieces_cons_of_mem_punctuation (by decide), pieces_newLine_append, pieces_textChars_append,
      pieces_cons_of_mem_punctuation (by decide), pieces_cons_of_isSpace rfl,
      pieces_spreadChars_append (apart_spreadMoreFields_append hlast _ fields) _ j,
      pieces_spreadMoreFields_append hlast _ fields, pieces_newLine_append,
      pieces_cons_of_mem_punctuation (by decide)]
termination_by structural j => j

/-- The items behind the first are the same pieces, whatever the level of their lines. -/
theorem pieces_spreadMoreItems_append {rest : List Char} (hrest : Apart rest) (level : Nat) :
    (js : List Json) →
      pieces (spreadMoreItems level js ++ rest) = outlineMoreItems js ++ pieces rest
  | [] => rfl
  | j :: js => by
    simp only [spreadMoreItems, outlineMoreItems, List.cons_append, List.append_assoc]
    rw [pieces_cons_of_mem_punctuation (by decide), pieces_newLine_append,
      pieces_spreadChars_append (apart_spreadMoreItems_append hrest _ js) _ j,
      pieces_spreadMoreItems_append hrest _ js]
termination_by structural js => js

theorem pieces_spreadMoreFields_append {rest : List Char} (hrest : Apart rest) (level : Nat) :
    (fields : List (String × Json)) →
      pieces (spreadMoreFields level fields ++ rest) = outlineMoreFields fields ++ pieces rest
  | [] => rfl
  | (key, j) :: fields => by
    simp only [spreadMoreFields, outlineMoreFields, List.cons_append, List.append_assoc]
    rw [pieces_cons_of_mem_punctuation (by decide), pieces_newLine_append, pieces_textChars_append,
      pieces_cons_of_mem_punctuation (by decide), pieces_cons_of_isSpace rfl,
      pieces_spreadChars_append (apart_spreadMoreFields_append hrest _ fields) _ j,
      pieces_spreadMoreFields_append hrest _ fields]
termination_by structural fields => fields

end

/-- However a document is written, its pieces are the same. -/
theorem pieces_compact (j : Json) : pieces j.compact.toList = outline j := by
  have h := pieces_compactChars_append apart_nil j
  rw [List.append_nil] at h
  rw [compact, String.toList_ofList, h]
  exact List.append_nil _

/-- Lines and indentation do not matter: the pieces are those of the document on one line. -/
theorem pieces_spread (j : Json) : pieces j.spread.toList = outline j := by
  have h := pieces_spreadChars_append apart_nil 0 j
  rw [List.append_nil] at h
  rw [spread, String.toList_ofList, h]
  exact List.append_nil _

end LayerNet.Json
