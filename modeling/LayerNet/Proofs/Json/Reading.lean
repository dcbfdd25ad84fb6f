import LayerNet.Proofs.Json.Pieces
import LayerNet.Proofs.Table

/-!
# What a document says

The pieces of a document are read into words, texts, arrays and objects.  Words and texts stay as
they are written; white space is gone, and the fields of an object are put in order, so that two
documents with the same reading differ in white space and in the order of keys only.

A document is read from its first piece to its last.  The arrays and objects that are open are kept
on a stack, so that nothing bounds how deep a document may be.

Main definitions:

- `Reading`: what a document says.
- `Reading.ofText?`: the reading of a text, if it is a document.
- `unescape?`: the text that is written between quotes.

Main results:

- `ofText?_compact`, `ofText?_spread`: every document that is written can be read.
- `reading_sorted`: sorted keys make no difference.
- `unescape?_written`: every text that is written can be read.
-/

namespace LayerNet.Json

/-! ## Reading -/

/-- Words and texts as they are written, arrays, and objects with their keys as they are written, in
order. -/
inductive Reading where
  | word (written : String)
  | text (written : String)
  | arr (items : List Reading)
  | obj (fields : List (String × Reading))

namespace Reading

/-- An array or an object that is open: what stands in it so far, in reverse, and for an object the
key of the value that is read. -/
inductive Frame where
  | items (done : List Reading)
  | fields (done : List (String × Reading)) (key : String)

mutual

/-- Reads on where a value is to begin; of an array that has just been opened the end may stand
there as well. -/
def start : List Piece → List Frame → Option Reading
  | .word w :: ps, frames => resume ps frames (.word w)
  | .text s :: ps, frames => resume ps frames (.text s)
  | .mark '[' :: ps, frames => start ps (.items [] :: frames)
  | .mark ']' :: ps, .items [] :: frames => resume ps frames (.arr [])
  | .mark '\x7b' :: .mark '\x7d' :: ps, frames => resume ps frames (.obj [])
  | .mark '\x7b' :: .text key :: .mark ':' :: ps, frames => start ps (.fields [] key :: frames)
  | _, _ => none
termination_by structural ps => ps

/-- Reads on behind a value. -/
def resume : List Piece → List Frame → Reading → Option Reading
  | [], [], r => some r
  | .mark ',' :: ps, .items done :: frames, r => start ps (.items (r :: done) :: frames)
  | .mark ']' :: ps, .items done :: frames, r => resume ps frames (.arr (r :: done).reverse)
  | .mark ',' :: .text key :: .mark ':' :: ps, .fields done last :: frames, r =>
    start ps (.fields ((last, r) :: done) key :: frames)
  | .mark '\x7d' :: ps, .fields done last :: frames, r =>
    resume ps frames (.obj (Table.ofPairs ((last, r) :: done).reverse))
  | _, _, _ => none
termination_by structural ps => ps

end

/-- The reading of a text, if it is a document. -/
def ofText? (text : String) : Option Reading :=
  start (pieces text.toList) []

/-- What an object says of a key. -/
def field? (key : String) : Reading → Option Reading
  | .obj fields => Table.find? (written key) fields
  | _ => none

end Reading

mutual

/-- The reading of a document. -/
def reading : Json → Reading
  | .null => .word (String.ofList nullChars)
  | .bool b => .word (String.ofList (boolChars b))
  | .int n => .word (String.ofList (intChars n))
  | .float x => .word (String.ofList (floatChars x))
  | .str s => .text (written s)
  | .arr items => .arr (itemReadings items)
  | .obj fields => .obj (Table.ofPairs (fieldReadings fields))
termination_by structural j => j

/-- The readings of the items of an array. -/
def itemReadings : List Json → List Reading
  | [] => []
  | j :: js => reading j :: itemReadings js
termination_by structural js => js

/-- The keys of an object as they are written, with the readings of its values. -/
def fieldReadings : List (String × Json) → List (String × Reading)
  | [] => []
  | (key, j) :: fields => (written key, reading j) :: fieldReadings fields
termination_by structural fields => fields

end

namespace Reading

mutual

/-- The pieces of a document are read to its end. -/
theorem start_outline_append (ps : List Piece) (frames : List Frame) :
    (j : Json) → start (outline j ++ ps) frames = resume ps frames (reading j)
  | .null => rfl
  | .bool _ => rfl
  | .int _ => rfl
  | .float _ => rfl
  | .str _ => rfl
  | .arr items => by
    have hopen : start (outline (.arr items) ++ ps) frames =
        start (outlineItems items ++ .mark ']' :: ps) (.items [] :: frames) := by
      simp [outline, start]
    rw [hopen, start_outlineItems_append ps frames items, reading]
  | .obj [] => rfl
  | .obj ((key, j) :: fields) => by
    have hopen : start (outline (.obj ((key, j) :: fields)) ++ ps) frames =
        start (outline j ++ (outlineMoreFields fields ++ .mark '\x7d' :: ps))
          (.fields [] (written key) :: frames) := by
      simp [outline, outlineFields, start]
    rw [hopen, start_outline_append _ _ j, resume_outlineMoreFields_append ps frames [] _ _ fields]
    rfl
termination_by structural j => j

theorem start_outlineItems_append (ps : List Piece) (frames : List Frame) :
    (js : List Json) → start (outlineItems js ++ .mark ']' :: ps) (.items [] :: frames) =
      resume ps frames (.arr (itemReadings js))
  | [] => rfl
  | j :: js => by
    rw [outlineItems, List.append_assoc, start_outline_append _ _ j,
      resume_outlineMoreItems_append ps frames [] _ js]
    rfl
termination_by structural js => js

/-- Behind an item the further items of its array are read. -/
theorem resume_outlineMoreItems_append (ps : List Piece) (frames : List Frame)
    (done : List Reading) (r : Reading) :
    (js : List Json) →
      resume (outlineMoreItems js ++ .mark ']' :: ps) (.items done :: frames) r =
        resume ps frames (.arr ((r :: done).reverse ++ itemReadings js))
  | [] => by
    rw [itemReadings, List.append_nil]
    rfl
  | j :: js => by
    have hnext : resume (outlineMoreItems (j :: js) ++ .mark ']' :: ps) (.items done :: frames) r =
        start (outline j ++ (outlineMoreItems js ++ .mark ']' :: ps))
          (.items (r :: done) :: frames) := by
      simp [outlineMoreItems, resume]
    rw [hnext, start_outline_append _ _ j, resume_outlineMoreItems_append ps frames _ _ js,
      List.reverse_cons, List.append_assoc]
    rfl
termination_by structural js => js

/-- Behind a value the further fields of its object are read. -/
theorem resume_outlineMoreFields_append (ps : List Piece) (frames : List Frame)
    (done : List (String × Reading)) (key : String) (r : Reading) :
    (fields : List (String × Json)) →
      resume (outlineMoreFields fields ++ .mark '\x7d' :: ps) (.fields done key :: frames) r =
        resume ps frames
          (.obj (Table.ofPairs (((key, r) :: done).reverse ++ fieldReadings fields)))
  | [] => by
    rw [fieldReadings, List.append_nil]
    rfl
  | (next, j) :: fields => by
    have hnext : resume (outlineMoreFields ((next, j) :: fields) ++ .mark '\x7d' :: ps)
          (.fields done key :: frames) r =
        start (outline j ++ (outlineMoreFields fields ++ .mark '\x7d' :: ps))
          (.fields ((key, r) :: done) (written next) :: frames) := by
      simp [outlineMoreFields, resume]
    rw [hnext, start_outline_append _ _ j, resume_outlineMoreFields_append ps frames _ _ _ fields,
      List.reverse_cons, List.append_assoc]
    rfl
termination_by structural fields => fields

end

theorem start_outline (j : Json) : start (outline j) [] = some (reading j) := by
  have h := start_outline_append [] [] j
  rwa [List.append_nil] at h

/-- Every document on one line can be read. -/
theorem ofText?_compact (j : Json) : ofText? j.compact = some (reading j) := by
  rw [ofText?, pieces_compact, start_outline]

theorem ofText?_spread (j : Json) : ofText? j.spread = some (reading j) := by
  rw [ofText?, pieces_spread, start_outline]

example : ofText? " [ 1.0,\n \"a\\\"\"] " = some (.arr [.word "1.0", .text "a\\\""]) := rfl

end Reading

/-! ## Sorted documents -/

theorem fieldReadings_eq (fields : List (String × Json)) :
    fieldReadings fields = fields.map (Prod.map written reading) := by
  induction fields with
  | nil => rfl
  | cons field fields ih => rw [fieldReadings, ih, List.map_cons, Prod.map]

/-- What an object says of a key is what its last field of that key says. -/
theorem field?_reading_obj (key : String) (fields : List (String × Json)) :
    (reading (.obj fields)).field? key = (Table.find? key fields.reverse).map reading := by
  rw [reading, Reading.field?, Table.find?_ofPairs, fieldReadings_eq, ← List.map_reverse,
    Table.find?_map_of_injective reading written_injective]

/-- Sorting an object is making a table of its sorted fields. -/
theorem sortedFields_eq (fields : List (String × Json)) :
    sortedFields fields = Table.ofPairs (fields.map (Prod.map id sorted)) := by
  induction fields with
  | nil => rfl
  | cons field fields ih =>
      rw [sortedFields, ih, List.map_cons, Prod.map, Table.ofPairs_cons]
      rfl

mutual

/-- Sorted keys do not change what a document says. -/
theorem reading_sorted : (j : Json) → reading j.sorted = reading j
  | .null => rfl
  | .bool _ => rfl
  | .int _ => rfl
  | .float _ => rfl
  | .str _ => rfl
  | .arr items => by
    rw [sorted, reading, reading, itemReadings_sorted items]
  | .obj fields => by
    rw [sorted, reading, reading, fieldReadings_eq, fieldReadings_eq, sortedFields_eq,
      Table.ofPairs_map_ofPairs written_injective, map_reading_sorted fields]
termination_by structural j => j

theorem itemReadings_sorted : (js : List Json) → itemReadings (sortedItems js) = itemReadings js
  | [] => rfl
  | j :: js => by
    rw [sortedItems, itemReadings, itemReadings, reading_sorted j, itemReadings_sorted js]
termination_by structural js => js

theorem map_reading_sorted : (fields : List (String × Json)) →
    (fields.map (Prod.map id sorted)).map (Prod.map written reading) =
      fields.map (Prod.map written reading)
  | [] => rfl
  | (key, j) :: fields => by
    simp only [List.map_cons, Prod.map_apply, id_eq]
    rw [reading_sorted j, map_reading_sorted fields]
termination_by structural fields => fields

end

/-! ## Texts in texts -/

/-- The text that is written thus between quotes. -/
def unescape? (written : String) : Option String :=
  (Lexeme.readText [] none (written.toList ++ ['"'])).toOption

theorem readText_cons {c : Char} (hslash : c ≠ '\\') (hquote : c ≠ '"') (hcontrol : 0x20 ≤ c.toNat)
    (acc rest : List Char) :
    Lexeme.readText acc none (c :: rest) = Lexeme.readText (c :: acc) none rest := by
  rw [Lexeme.readText]
  · simp [hquote, Nat.not_lt.mpr hcontrol]
  · exact fun _ h _ => hslash h
  · exact fun _ _ h _ => hslash h
  · exact fun h _ => hslash h

/-- A character is read from how it is written. -/
theorem readText_escapedChar_append (c : Char) (acc rest : List Char) :
    Lexeme.readText acc none (escapedChar c ++ rest) = Lexeme.readText (c :: acc) none rest := by
  have hletters : ∀ p ∈ shortEscapes, p.1 ≠ 'u' ∧ Lexeme.escape? p.1 = some p.2 := by decide
  have hunit : ∀ n < 0x20, Lexeme.hexUnit? '0' '0' (Nat.digitChar (n / 16 % 16))
      (Nat.digitChar (n % 16)) = some n := by decide
  rcases escapedChar_cases c with
    ⟨hc, hslash, hquote, hle⟩ | ⟨letter, hc, hshort⟩ | ⟨hc, hcontrol⟩ <;> rw [hc]
  · exact readText_cons hslash hquote hle acc rest
  · rcases hletters _ hshort with ⟨hu, hescape⟩
    rw [List.cons_append, List.cons_append, List.nil_append, Lexeme.readText]
    · simp [hescape]
    · exact hu
  · have hlow : Lexeme.isLowHalf c.toNat = false := by
      rw [Lexeme.isLowHalf, decide_eq_false (by omega), Bool.false_and]
    have hhigh : Lexeme.isHighHalf c.toNat = false := by
      rw [Lexeme.isHighHalf, decide_eq_false (by omega), Bool.false_and]
    simp [hexPair, Lexeme.readText, hunit _ hcontrol, hlow, hhigh, Char.ofNat_toNat]

/-- Every text is read from how it is written, whatever follows its closing quote. -/
theorem readText_textChars (acc cs rest : List Char) :
    Lexeme.readText acc none (cs.flatMap escapedChar ++ '"' :: rest) =
      .ok (String.ofList (acc.reverse ++ cs)) := by
  induction cs generalizing acc with
  | nil =>
      rw [List.append_nil]
      rfl
  | cons c cs ih =>
      rw [List.flatMap_cons, List.append_assoc, readText_escapedChar_append, ih, List.reverse_cons,
        List.append_assoc]
      rfl

theorem unescape?_written (s : String) : unescape? (written s) = some s := by
  rw [unescape?, written, String.toList_ofList, readText_textChars]
  exact congrArg some String.ofList_toList

end LayerNet.Json
