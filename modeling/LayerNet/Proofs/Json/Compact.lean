import LayerNet.Json.Printer
import LayerNet.Proofs.Text.Quoted

/-!
# Compact documents are told apart

A document on one line has no control in it, so that it really is on one line.  Outside of its texts
every bracket is closed that was opened, and commas stand in brackets only.  A document therefore
ends before the first comma or closing bracket that is not its own, whatever follows, and an object
tells its keys and how its values are written.

Main results:

- `balanced_compactChars`: the form of all compact documents.
- `control_not_mem_compactChars`: no line feed and no other control occurs in them.
- `compactChars_append_inj`: a document is told from what follows it.
- `forall₂_of_compactChars_obj_eq`: an object tells its fields.
-/

namespace LayerNet.Json

/-! ## Texts -/

/-- The escapes of one letter, with the characters they stand for. -/
def shortEscapes : List (Char × Char) :=
  [('"', '"'), ('\\', '\\'), ('n', '\n'), ('t', '\t'), ('r', '\r'), ('b', '\x08'), ('f', '\x0c')]

/-- No letter escapes two characters. -/
theorem shortEscapes_functional :
    ∀ p ∈ shortEscapes, ∀ q ∈ shortEscapes, p.1 = q.1 → p.2 = q.2 := by
  decide

/-- A hexadecimal digit is neither a backslash nor a quote. -/
theorem digitChar_mod_ne (d : Nat) :
    Nat.digitChar (d % 16) ≠ '\\' ∧ Nat.digitChar (d % 16) ≠ '"' := by
  have hall : ∀ d < 16, Nat.digitChar d ≠ '\\' ∧ Nat.digitChar d ≠ '"' := by decide
  exact hall _ (Nat.mod_lt _ (by decide))

/-- Controls that are escaped by number are told apart by their two digits. -/
theorem hexPair_injective : ∀ m < 0x20, ∀ n < 0x20, hexPair m = hexPair n → m = n := by
  decide

/-- A character stands for itself, or has an escape of one letter, or is a control that is written
by its number. -/
theorem escapedChar_cases (c : Char) :
    (escapedChar c = [c] ∧ c ≠ '\\' ∧ c ≠ '"' ∧ 0x20 ≤ c.toNat) ∨
      (∃ letter, escapedChar c = ['\\', letter] ∧ (letter, c) ∈ shortEscapes) ∨
      (escapedChar c = ['\\', 'u', '0', '0'] ++ hexPair c.toNat ∧ c.toNat < 0x20) := by
  unfold escapedChar
  split_ifs with hquote hslash hline htab hreturn hback hfeed hcontrol
  · exact Or.inr (Or.inl ⟨'"', rfl, by simp [shortEscapes, hquote]⟩)
  · exact Or.inr (Or.inl ⟨'\\', rfl, by simp [shortEscapes, hslash]⟩)
  · exact Or.inr (Or.inl ⟨'n', rfl, by simp [shortEscapes, hline]⟩)
  · exact Or.inr (Or.inl ⟨'t', rfl, by simp [shortEscapes, htab]⟩)
  · exact Or.inr (Or.inl ⟨'r', rfl, by simp [shortEscapes, hreturn]⟩)
  · exact Or.inr (Or.inl ⟨'b', rfl, by simp [shortEscapes, hback]⟩)
  · exact Or.inr (Or.inl ⟨'f', rfl, by simp [shortEscapes, hfeed]⟩)
  · exact Or.inr (Or.inr ⟨rfl, hcontrol⟩)
  · exact Or.inl ⟨rfl, hslash, hquote, Nat.le_of_not_lt hcontrol⟩

/-- However a character is written, it does not begin with the quote that ends its text. -/
theorem escapedChar_append_ne_quote (c : Char) (back back' : List Char) :
    escapedChar c ++ back ≠ '"' :: back' := by
  rcases escapedChar_cases c with ⟨h, -, hquote, -⟩ | ⟨letter, h, -⟩ | ⟨h, -⟩
  · simp [h, hquote]
  · simp [h]
  · simp [h]

/-- No escape is the beginning of another. -/
theorem escapedChar_append_inj {c d : Char} {back back' : List Char}
    (h : escapedChar c ++ back = escapedChar d ++ back') : c = d ∧ back = back' := by
  have hletter : ∀ p ∈ shortEscapes, p.1 ≠ 'u' := by decide
  rcases escapedChar_cases c with ⟨hc, hslash, -⟩ | ⟨letter, hc, hshort⟩ | ⟨hc, hcontrol⟩ <;>
    rcases escapedChar_cases d with ⟨hd, hslash', -⟩ | ⟨letter', hd, hshort'⟩ | ⟨hd, hcontrol'⟩ <;>
    rw [hc, hd] at h
  · simpa using h
  · simp [hslash] at h
  · simp [hslash] at h
  · simp [hslash'.symm] at h
  · simp only [List.cons_append, List.nil_append, List.cons.injEq, true_and] at h
    exact ⟨shortEscapes_functional _ hshort _ hshort' h.1, h.2⟩
  · simp only [List.cons_append, List.nil_append, List.cons.injEq, true_and] at h
    exact absurd h.1 (hletter _ hshort)
  · simp [hslash'.symm] at h
  · simp only [List.cons_append, List.nil_append, List.cons.injEq, true_and] at h
    exact absurd h.1.symm (hletter _ hshort')
  · simp only [List.append_assoc, List.append_cancel_left_eq] at h
    rcases List.append_inj h rfl with ⟨hdigits, hback⟩
    exact ⟨Char.toNat_inj.mp (hexPair_injective _ hcontrol _ hcontrol' hdigits), hback⟩

theorem textChars_eq (s : String) :
    textChars s = '"' :: (s.toList.flatMap escapedChar ++ ['"']) :=
  rfl

/-- A text is told from what follows it. -/
theorem textChars_append_inj {s t : String} {back back' : List Char}
    (h : textChars s ++ back = textChars t ++ back') : s = t ∧ back = back' := by
  simp only [textChars_eq, List.cons_append, List.append_assoc, List.nil_append, List.cons.injEq,
    true_and] at h
  rcases Text.flatMap_append_inj escapedChar_append_ne_quote escapedChar_append_inj h with
    ⟨hchars, hback⟩
  exact ⟨String.toList_inj.mp hchars, hback⟩

/-- Texts that are written alike are the same. -/
theorem textChars_injective {s t : String} (h : textChars s = textChars t) : s = t :=
  (textChars_append_inj (congrArg (· ++ []) h)).1

/-! ## Numbers and words -/

/-- The characters that numbers and words are made of. -/
def isWordChar (c : Char) : Bool :=
  c.isAlphanum || c == '+' || c == '-' || c == '.'

/-- Whether there are only characters of numbers and words. -/
def IsWord (cs : List Char) : Prop :=
  cs.all isWordChar = true

theorem isWord_iff {cs : List Char} : IsWord cs ↔ ∀ c ∈ cs, isWordChar c = true :=
  List.all_eq_true

theorem isWord_cons {c : Char} {cs : List Char} :
    IsWord (c :: cs) ↔ isWordChar c = true ∧ IsWord cs := by
  simp [IsWord]

theorem isWord_append {cs ds : List Char} : IsWord (cs ++ ds) ↔ IsWord cs ∧ IsWord ds := by
  simp [IsWord]

/-- The parts of numbers are words.  Nothing is claimed about their value here: the readers of
numbers do that. -/
theorem isWord_digits (n : Nat) : IsWord (Decimal.digits n) := by
  refine isWord_iff.mpr fun c hc => ?_
  have hdigit : c.isDigit = true := Decimal.isDigit_of_mem_digits hc
  simp [isWordChar, Char.isAlphanum, hdigit]

theorem isWord_replicate_zero (n : Nat) : IsWord (List.replicate n '0') := by
  refine isWord_iff.mpr fun c hc => ?_
  rw [List.eq_of_mem_replicate hc]
  decide

theorem isWord_intChars (n : Int) : IsWord (intChars n) := by
  unfold intChars
  split
  · exact isWord_cons.mpr ⟨by decide, isWord_digits _⟩
  · exact isWord_digits _

theorem isWord_exponentChars (e : Int) : IsWord (Decimal.Layout.exponentChars e) := by
  unfold Decimal.Layout.exponentChars
  refine isWord_cons.mpr ⟨by decide, isWord_cons.mpr ⟨?_, isWord_digits _⟩⟩
  split <;> rfl

theorem isWord_scientific {ds : List Char} (hds : IsWord ds) (e : Int) :
    IsWord (Decimal.Layout.scientific ds e) := by
  unfold Decimal.Layout.scientific
  split
  · exact isWord_exponentChars e
  · exact isWord_append.mpr ⟨hds, isWord_exponentChars e⟩
  · rcases isWord_cons.mp hds with ⟨hd, hrest⟩
    exact isWord_cons.mpr ⟨hd, isWord_cons.mpr
      ⟨by decide, isWord_append.mpr ⟨hrest, isWord_exponentChars e⟩⟩⟩

theorem isWord_fixed (layout : Decimal.Layout) {ds : List Char} (hds : IsWord ds) (e : Int) :
    IsWord (layout.fixed ds e) := by
  unfold Decimal.Layout.fixed
  split
  · exact isWord_cons.mpr ⟨by decide, isWord_cons.mpr
      ⟨by decide, isWord_append.mpr ⟨isWord_replicate_zero _, hds⟩⟩⟩
  · simp only
    split
    · refine isWord_append.mpr ⟨isWord_append.mpr ⟨hds, isWord_replicate_zero _⟩, ?_⟩
      split <;> rfl
    · have htaken : IsWord (ds.take (e.toNat + 1) ++ ds.drop (e.toNat + 1)) := by
        rwa [List.take_append_drop]
      rcases isWord_append.mp htaken with ⟨htake, hdrop⟩
      exact isWord_append.mpr ⟨htake, isWord_cons.mpr ⟨by decide, hdrop⟩⟩

/-- Every number is written as one word, in either of the two layouts or as `null`. -/
theorem isWord_floatChars (x : Float) : IsWord (floatChars x) := by
  simp only [floatChars, Decimal.documentText, Decimal.Layout.render, Decimal.Layout.ofDecimal,
    String.toList_ofList]
  have hbody (d : Decimal) (e : Int) :
      IsWord (if Decimal.Layout.document.positional e
        then Decimal.Layout.document.fixed (Decimal.digits d.coefficient) e
        else Decimal.Layout.scientific (Decimal.digits d.coefficient) e) := by
    split
    · exact isWord_fixed _ (isWord_digits _) e
    · exact isWord_scientific (isWord_digits _) e
  split
  · exact isWord_cons.mpr ⟨by decide, hbody _ _⟩
  · exact hbody _ _

theorem isWord_boolChars (b : Bool) : IsWord (boolChars b) := by
  cases b <;> rfl

theorem isWord_nullChars : IsWord nullChars :=
  rfl

/-! ## The form of a document -/

/-- The brackets that are opened, with those that close them. -/
def brackets : List (Char × Char) :=
  [('[', ']'), ('\x7b', '\x7d')]

/-- Outside of texts every bracket is closed that was opened, and commas stand in brackets only,
unless the characters themselves are thought to be `inside` of brackets. -/
inductive Balanced : Bool → List Char → Prop where
  | word {inside : Bool} {cs : List Char} (h : IsWord cs) : Balanced inside cs
  | text {inside : Bool} (s : String) : Balanced inside (textChars s)
  | colon {inside : Bool} : Balanced inside [':']
  | comma : Balanced true [',']
  | append {inside : Bool} {cs ds : List Char} (front : Balanced inside cs)
      (back : Balanced inside ds) : Balanced inside (cs ++ ds)
  | enclosed {inside : Bool} {p : Char × Char} {cs : List Char} (hp : p ∈ brackets)
      (h : Balanced true cs) : Balanced inside (p.1 :: cs ++ [p.2])

theorem Balanced.nil {inside : Bool} : Balanced inside [] :=
  .word rfl

/-- A comma stands between brackets only, which `inside` says. -/
theorem Balanced.cons_comma {cs : List Char} (h : Balanced true cs) : Balanced true (',' :: cs) :=
  .append .comma h

theorem Balanced.cons_colon {inside : Bool} {cs : List Char} (h : Balanced inside cs) :
    Balanced inside (':' :: cs) :=
  .append .colon h

mutual

/-- Every document is written in this form. -/
theorem balanced_compactChars (inside : Bool) : (j : Json) → Balanced inside (compactChars j)
  | .null => .word isWord_nullChars
  | .bool b => .word (isWord_boolChars b)
  | .int n => .word (isWord_intChars n)
  | .float x => .word (isWord_floatChars x)
  | .str s => .text s
  | .arr items => .enclosed (p := ('[', ']')) (by decide) (balanced_compactItems items)
  | .obj fields => .enclosed (p := ('\x7b', '\x7d')) (by decide) (balanced_compactFields fields)
termination_by structural j => j

/-- This and the following go through the items and fields together with `balanced_compactChars`;
what stands between brackets may have commas. -/
theorem balanced_compactItems : (js : List Json) → Balanced true (compactItems js)
  | [] => .nil
  | j :: js => .append (balanced_compactChars true j) (balanced_compactMoreItems js)
termination_by structural js => js

theorem balanced_compactMoreItems : (js : List Json) → Balanced true (compactMoreItems js)
  | [] => .nil
  | j :: js =>
    .append (.cons_comma (balanced_compactChars true j)) (balanced_compactMoreItems js)
termination_by structural js => js

theorem balanced_compactFields :
    (fields : List (String × Json)) → Balanced true (compactFields fields)
  | [] => .nil
  | (key, j) :: fields =>
    .append (.append (.text key) (.cons_colon (balanced_compactChars true j)))
      (balanced_compactMoreFields fields)
termination_by structural fields => fields

theorem balanced_compactMoreFields :
    (fields : List (String × Json)) → Balanced true (compactMoreFields fields)
  | [] => .nil
  | (key, j) :: fields =>
    .append (.cons_comma (.append (.text key) (.cons_colon (balanced_compactChars true j))))
      (balanced_compactMoreFields fields)
termination_by structural fields => fields

end

/-! ## Controls -/

theorem le_toNat_of_isWordChar {c : Char} (h : isWordChar c = true) : 0x20 ≤ c.toNat := by
  have hcontrols : ∀ n < 0x20, isWordChar (Char.ofNat n) = false := by decide
  apply Nat.le_of_not_lt
  intro hlt
  have hc : isWordChar (Char.ofNat c.toNat) = false := hcontrols c.toNat hlt
  simp [h] at hc

theorem le_toNat_of_mem_hexPair {n : Nat} (hn : n < 0x20) {c : Char} (h : c ∈ hexPair n) :
    0x20 ≤ c.toNat := by
  have hall : ∀ n < 0x20, ((hexPair n).all fun c => 0x20 ≤ c.toNat) = true := by decide
  simpa using List.all_eq_true.mp (hall n hn) c h

/-- An escape is made of characters that are no controls, also the escape of a control. -/
theorem le_toNat_of_mem_escapedChar {c d : Char} (h : d ∈ escapedChar c) : 0x20 ≤ d.toNat := by
  have hletter : ∀ p ∈ shortEscapes, 0x20 ≤ p.1.toNat := by decide
  rcases escapedChar_cases c with ⟨hc, -, -, hle⟩ | ⟨letter, hc, hshort⟩ | ⟨hc, hcontrol⟩ <;>
    rw [hc] at h
  · rw [List.mem_singleton] at h
    exact h ▸ hle
  · simp only [List.mem_cons, List.not_mem_nil, or_false] at h
    rcases h with rfl | rfl
    · decide
    · exact hletter _ hshort
  · rcases List.mem_append.mp h with hfront | hdigit
    · simp only [List.mem_cons, List.not_mem_nil, or_false] at hfront
      rcases hfront with rfl | rfl | rfl | rfl <;> decide
    · exact le_toNat_of_mem_hexPair hcontrol hdigit

/-- So no text brings a control into a document. -/
theorem le_toNat_of_mem_textChars {s : String} {c : Char} (h : c ∈ textChars s) :
    0x20 ≤ c.toNat := by
  simp only [textChars_eq, List.mem_cons, List.mem_append, List.mem_flatMap, List.not_mem_nil,
    or_false] at h
  rcases h with rfl | ⟨a, -, hc⟩ | rfl
  · decide
  · exact le_toNat_of_mem_escapedChar hc
  · decide

/-- A form that is built of words, texts and marks has no controls. -/
theorem Balanced.le_toNat {inside : Bool} {cs : List Char} (h : Balanced inside cs) :
    ∀ c ∈ cs, 0x20 ≤ c.toNat := by
  induction h with
  | word hword => exact fun c hc => le_toNat_of_isWordChar (isWord_iff.mp hword c hc)
  | text s => exact fun c hc => le_toNat_of_mem_textChars hc
  | colon => exact List.forall_mem_singleton.mpr (by decide)
  | comma => exact List.forall_mem_singleton.mpr (by decide)
  | append front back hfront hback => exact List.forall_mem_append.mpr ⟨hfront, hback⟩
  | enclosed hp _ ih =>
      have hbrackets : ∀ p ∈ brackets, 0x20 ≤ p.1.toNat ∧ 0x20 ≤ p.2.toNat := by decide
      rcases hbrackets _ hp with ⟨hopen, hclose⟩
      exact List.forall_mem_cons.mpr
        ⟨hopen, List.forall_mem_append.mpr ⟨ih, List.forall_mem_singleton.mpr hclose⟩⟩

/-- No control occurs in a document on one line. -/
theorem control_not_mem_compactChars {c : Char} (h : c.toNat < 0x20) (j : Json) :
    c ∉ compactChars j := by
  intro hmem
  have hle : 0x20 ≤ c.toNat := (balanced_compactChars false j).le_toNat c hmem
  omega

/-! ## Where a document ends -/

/-- The characters that a document in another one is followed by. -/
def ends : List Char :=
  [',', ']', '\x7d']

mutual

/-- What is left from the end of a document on, which is inside of `depth` brackets of its own. -/
def behindDocument (depth : Nat) : List Char → List Char
  | [] => []
  | c :: cs =>
    if c = '"' then behindText depth cs
    else if c = '[' ∨ c = '\x7b' then behindDocument (depth + 1) cs
    else if depth = 0 ∧ c ∈ ends then c :: cs
    else if c = ']' ∨ c = '\x7d' then behindDocument (depth - 1) cs
    else behindDocument depth cs
termination_by structural cs => cs

/-- What is left from the end of a document on, which is inside of a text of its own. -/
def behindText (depth : Nat) : List Char → List Char
  | '\\' :: _ :: cs => behindText depth cs
  | '"' :: cs => behindDocument depth cs
  | _ :: cs => behindText depth cs
  | [] => []
termination_by structural cs => cs

end

/-- Outside of all brackets the document ends where a bracket closes or a comma stands. -/
theorem behindDocument_of_head_mem {cs : List Char} (h : ∃ c ∈ ends, cs.head? = some c) :
    behindDocument 0 cs = cs := by
  rcases h with ⟨c, hc, hhead⟩
  cases cs with
  | nil => rfl
  | cons d cs =>
      rw [List.head?_cons, Option.some.injEq] at hhead
      subst hhead
      simp only [ends, List.mem_cons, List.not_mem_nil, or_false] at hc
      rcases hc with rfl | rfl | rfl <;> simp [behindDocument, ends]

/-- The characters that matter outside of texts. -/
def marks : List Char :=
  ['"', '[', '\x7b', ',', ']', '\x7d']

theorem behindDocument_cons_of_not_mem {c : Char} (h : c ∉ marks) (depth : Nat) (cs : List Char) :
    behindDocument depth (c :: cs) = behindDocument depth cs := by
  simp only [marks, List.mem_cons, List.not_mem_nil, or_false, not_or] at h
  rcases h with ⟨hquote, hbracket, hbrace, hcomma, hbracket', hbrace'⟩
  simp [behindDocument, ends, *]

/-- An opening bracket goes one level deeper, and the closing one comes back. -/
theorem behindDocument_open {p : Char × Char} (h : p ∈ brackets) (depth : Nat)
    (cs : List Char) : behindDocument depth (p.1 :: cs) = behindDocument (depth + 1) cs := by
  simp only [brackets, List.mem_cons, List.not_mem_nil, or_false] at h
  rcases h with rfl | rfl <;> rfl

theorem behindDocument_close {p : Char × Char} (h : p ∈ brackets) (depth : Nat)
    (cs : List Char) : behindDocument (depth + 1) (p.2 :: cs) = behindDocument depth cs := by
  simp only [brackets, List.mem_cons, List.not_mem_nil, or_false] at h
  rcases h with rfl | rfl <;> rfl

/-- The characters of words mean nothing to the search for the end. -/
theorem not_mem_marks {c : Char} (h : isWordChar c = true) : c ∉ marks := by
  intro hmem
  simp only [marks, List.mem_cons, List.not_mem_nil, or_false] at hmem
  rcases hmem with rfl | rfl | rfl | rfl | rfl | rfl <;> exact absurd h (by decide)

/-- Words are passed over. -/
theorem behindDocument_append_of_isWord {cs : List Char} (h : IsWord cs) (depth : Nat)
    (rest : List Char) : behindDocument depth (cs ++ rest) = behindDocument depth rest := by
  induction cs with
  | nil => rfl
  | cons c cs ih =>
      rcases isWord_cons.mp h with ⟨hc, hcs⟩
      rw [List.cons_append, behindDocument_cons_of_not_mem (not_mem_marks hc), ih hcs]

theorem behindText_cons {c : Char} (hslash : c ≠ '\\') (hquote : c ≠ '"') (depth : Nat)
    (cs : List Char) : behindText depth (c :: cs) = behindText depth cs := by
  rw [behindText]
  · exact fun _ _ h _ => hslash h
  · exact hquote

/-- Inside of a text every character is passed over as it is written, so that an escaped quote does
not end it. -/
theorem behindText_escapedChar_append (c : Char) (depth : Nat) (rest : List Char) :
    behindText depth (escapedChar c ++ rest) = behindText depth rest := by
  rcases escapedChar_cases c with ⟨hc, hslash, hquote, -⟩ | ⟨letter, hc, -⟩ | ⟨hc, -⟩ <;> rw [hc]
  · exact behindText_cons hslash hquote depth rest
  · rfl
  · calc behindText depth (['\\', 'u', '0', '0'] ++ hexPair c.toNat ++ rest)
        = behindText depth (hexPair c.toNat ++ rest) := rfl
      _ = behindText depth (Nat.digitChar (c.toNat % 16) :: rest) :=
          behindText_cons (digitChar_mod_ne _).1 (digitChar_mod_ne _).2 depth _
      _ = behindText depth rest :=
        behindText_cons (digitChar_mod_ne _).1 (digitChar_mod_ne _).2 depth _

/-- Texts are passed over, whatever brackets and commas they have. -/
theorem behindDocument_textChars_append (s : String) (depth : Nat) (rest : List Char) :
    behindDocument depth (textChars s ++ rest) = behindDocument depth rest := by
  have hinner (cs : List Char) :
      behindText depth (cs.flatMap escapedChar ++ '"' :: rest) = behindDocument depth rest := by
    induction cs with
    | nil => rfl
    | cons c cs ih =>
        rw [List.flatMap_cons, List.append_assoc, behindText_escapedChar_append, ih]
  rw [textChars_eq, List.cons_append, List.append_assoc]
  exact hinner s.toList

/-- What has its brackets closed is passed over, wherever it may stand. -/
theorem Balanced.behindDocument_append {inside : Bool} {cs : List Char} (h : Balanced inside cs)
    {depth : Nat} (hdepth : inside = true → 0 < depth) (rest : List Char) :
    behindDocument depth (cs ++ rest) = behindDocument depth rest := by
  induction h generalizing depth rest with
  | word hword => exact behindDocument_append_of_isWord hword depth rest
  | text s => exact behindDocument_textChars_append s depth rest
  | colon => exact behindDocument_cons_of_not_mem (by decide) depth rest
  | comma =>
      have hinside : depth ≠ 0 := Nat.ne_of_gt (hdepth rfl)
      simp [behindDocument, hinside]
  | append front back hfront hback =>
      rw [List.append_assoc, hfront hdepth, hback hdepth]
  | @enclosed _ p cs hp _ ih =>
      calc behindDocument depth (p.1 :: cs ++ [p.2] ++ rest)
          = behindDocument (depth + 1) (cs ++ p.2 :: rest) := by
            rw [List.append_assoc, List.cons_append, behindDocument_open hp]
            rfl
        _ = behindDocument (depth + 1) (p.2 :: rest) := ih (fun _ => Nat.succ_pos depth) _
        _ = behindDocument depth rest := behindDocument_close hp depth rest

/-- A whole document is passed over, up to the mark that it is followed by. -/
theorem behindDocument_compactChars_append (j : Json) {rest : List Char}
    (hrest : ∃ c ∈ ends, rest.head? = some c) :
    behindDocument 0 (compactChars j ++ rest) = rest := by
  rw [(balanced_compactChars false j).behindDocument_append (by simp),
    behindDocument_of_head_mem hrest]

/-- A document is told from what follows it in another document. -/
theorem compactChars_append_inj {i j : Json} {rest rest' : List Char}
    (hrest : ∃ c ∈ ends, rest.head? = some c) (hrest' : ∃ c ∈ ends, rest'.head? = some c)
    (h : compactChars i ++ rest = compactChars j ++ rest') :
    compactChars i = compactChars j ∧ rest = rest' := by
  have hback : rest = rest' := by
    rw [← behindDocument_compactChars_append i hrest, h,
      behindDocument_compactChars_append j hrest']
  subst hback
  exact ⟨List.append_cancel_right h, rfl⟩

/-! ## Objects -/

/-- Whether two fields have the same key and values that are written alike. -/
def SameField (field field' : String × Json) : Prop :=
  field.1 = field'.1 ∧ compactChars field.2 = compactChars field'.2

/-- Behind a field there is a comma or the closing brace. -/
theorem head_compactMoreFields (fields : List (String × Json)) :
    ∃ c ∈ ends, (compactMoreFields fields ++ ['\x7d']).head? = some c := by
  cases fields with
  | nil => exact ⟨'\x7d', by decide, rfl⟩
  | cons field fields => exact ⟨',', by decide, rfl⟩

/-- The induction is on the fields of both objects at once: what follows a value tells where it
ends. -/
theorem forall₂_of_compactMoreFields_eq {fields fields' : List (String × Json)}
    (h : compactMoreFields fields ++ ['\x7d'] = compactMoreFields fields' ++ ['\x7d']) :
    List.Forall₂ SameField fields fields' := by
  induction fields generalizing fields' with
  | nil =>
      cases fields' with
      | nil => exact .nil
      | cons field' fields' => simp [compactMoreFields] at h
  | cons field fields ih =>
      cases fields' with
      | nil => simp [compactMoreFields] at h
      | cons field' fields' =>
          simp only [compactMoreFields, List.cons_append, List.append_assoc, List.cons.injEq,
            true_and] at h
          rcases textChars_append_inj h with ⟨hkey, hvalue⟩
          rcases compactChars_append_inj (head_compactMoreFields fields)
            (head_compactMoreFields fields') (List.cons.inj hvalue).2 with ⟨htext, hrest⟩
          exact .cons ⟨hkey, htext⟩ (ih hrest)

/-- The text of an object tells its keys and how their values are written. -/
theorem forall₂_of_compactChars_obj_eq {fields fields' : List (String × Json)}
    (h : compactChars (.obj fields) = compactChars (.obj fields')) :
    List.Forall₂ SameField fields fields' := by
  have hmore (field : String × Json) (fields : List (String × Json)) :
      compactMoreFields (field :: fields) = ',' :: compactFields (field :: fields) := rfl
  simp only [compactChars, List.cons_append, List.cons.injEq, true_and] at h
  cases fields with
  | nil =>
      cases fields' with
      | nil => exact .nil
      | cons field' fields' => simp [compactFields, textChars] at h
  | cons field fields =>
      cases fields' with
      | nil => simp [compactFields, textChars] at h
      | cons field' fields' =>
          apply forall₂_of_compactMoreFields_eq
          rw [hmore, hmore, List.cons_append, List.cons_append, h]

/-! ## Values -/

theorem compactChars_str_inj {s t : String} (h : compactChars (.str s) = compactChars (.str t)) :
    s = t :=
  textChars_injective h

theorem compactChars_bool_inj {a b : Bool} (h : compactChars (.bool a) = compactChars (.bool b)) :
    a = b := by
  cases a <;> cases b <;> simp_all [compactChars, boolChars]

/-- Numbers that are written alike are the same. -/
theorem compactChars_ofNat_inj {m n : Nat}
    (h : compactChars (.ofNat m) = compactChars (.ofNat n)) : m = n := by
  have hdigits (k : Nat) : compactChars (.ofNat k) = Decimal.digits k := by
    simp [ofNat, compactChars, intChars]
  rw [hdigits, hdigits] at h
  exact Decimal.natText_injective (congrArg String.ofList h)

/-- A text is told from none. -/
theorem compactChars_ofOption_inj {a b : Option String}
    (h : compactChars (.ofOption .str a) = compactChars (.ofOption .str b)) : a = b := by
  cases a <;> cases b
  · rfl
  · simp [ofOption, compactChars, nullChars, textChars] at h
  · simp [ofOption, compactChars, nullChars, textChars] at h
  · exact congrArg some (compactChars_str_inj h)

end LayerNet.Json
