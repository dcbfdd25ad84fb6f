import Mathlib.Data.List.Infix
import LayerNet.Proofs.Text.Search
import LayerNet.Text.Quoted

/-!
# Quoted texts are told apart

A quoted text ends at its first quote without a backslash, so that of two texts between quotes none
is the beginning of the other.  What is not part of any escape occurs between the quotes only if it
occurs in the text itself.

Main results:

- `flatMap_append_inj`: a text that is written character by character is told from what follows it.
- `quote_append_inj`: a quoted text is told from what follows it.
- `infix_of_infix_quotedChars`: occurrences between the quotes.
-/

namespace LayerNet.Text

/-! ## Texts written character by character -/

/-- A text is cut at the first place of a character. -/
theorem append_cons_inj_of_not_mem {front front' back back' : List Char} {c : Char}
    (hfront : c ∉ front) (hfront' : c ∉ front') (h : front ++ c :: back = front' ++ c :: back') :
    front = front' ∧ back = back' := by
  have hbegins : front <+: front' := prefix_of_prefix_append_cons hfront ⟨c :: back, h⟩
  have hbegins' : front' <+: front := prefix_of_prefix_append_cons hfront' ⟨c :: back', h.symm⟩
  have heq : front = front' := hbegins.eq_of_length_le hbegins'.length_le
  subst heq
  exact ⟨rfl, (List.cons.inj (List.append_cancel_left h)).2⟩

/-- A text is cut at the last place of a character. -/
theorem append_cons_inj_of_not_mem_back {front front' back back' : List Char} {c : Char}
    (hback : c ∉ back) (hback' : c ∉ back') (h : front ++ c :: back = front' ++ c :: back') :
    front = front' ∧ back = back' := by
  have hreverse : back.reverse ++ c :: front.reverse = back'.reverse ++ c :: front'.reverse := by
    simpa using congrArg List.reverse h
  rcases append_cons_inj_of_not_mem (List.mem_reverse.not.mpr hback)
    (List.mem_reverse.not.mpr hback') hreverse with ⟨hbacks, hfronts⟩
  exact ⟨List.reverse_inj.mp hfronts, List.reverse_inj.mp hbacks⟩

/-- What has only characters of some kind is told from what follows it if that begins with another
one. -/
theorem append_cons_inj_of_all {kind : Char → Bool} {front front' back back' : List Char}
    {c c' : Char} (hfront : ∀ d ∈ front, kind d = true) (hfront' : ∀ d ∈ front', kind d = true)
    (hc : kind c = false) (hc' : kind c' = false) (h : front ++ c :: back = front' ++ c' :: back') :
    front = front' ∧ c :: back = c' :: back' := by
  have hkind := congrArg (List.takeWhile kind) h
  rw [List.takeWhile_append_of_pos hfront, List.takeWhile_append_of_pos hfront',
    List.takeWhile_cons_of_neg (by simp [hc]), List.takeWhile_cons_of_neg (by simp [hc']),
    List.append_nil, List.append_nil] at hkind
  subst hkind
  exact ⟨rfl, List.append_cancel_left h⟩

/-- If no character is written as the beginning of another, and none begins with the mark of the
end, then what is written up to the mark tells the text. -/
theorem flatMap_append_inj {write : Char → List Char} {mark : Char}
    (hmark : ∀ c back back', write c ++ back ≠ mark :: back')
    (hwrite : ∀ {c d back back'}, write c ++ back = write d ++ back' → c = d ∧ back = back')
    {cs ds back back' : List Char}
    (h : cs.flatMap write ++ mark :: back = ds.flatMap write ++ mark :: back') :
    cs = ds ∧ back = back' := by
  induction cs generalizing ds with
  | nil =>
      cases ds with
      | nil => exact ⟨rfl, (List.cons.inj h).2⟩
      | cons d ds =>
          rw [List.flatMap_cons, List.append_assoc] at h
          exact absurd h.symm (hmark d _ _)
  | cons c cs ih =>
      rw [List.flatMap_cons, List.append_assoc] at h
      cases ds with
      | nil => exact absurd h (hmark c _ _)
      | cons d ds =>
          rw [List.flatMap_cons, List.append_assoc] at h
          rcases hwrite h with ⟨rfl, hrest⟩
          rcases ih hrest with ⟨rfl, hback⟩
          exact ⟨rfl, hback⟩

/-! ## Hexadecimal digits -/

/-- The digits that numbers of characters are written with. -/
def hexAlphabet : List Char :=
  "0123456789abcdef".toList

theorem digitChar_mem_hexAlphabet : ∀ d < 16, Nat.digitChar d ∈ hexAlphabet := by
  decide

theorem digitChar_injective : ∀ d < 16, ∀ e < 16, Nat.digitChar d = Nat.digitChar e → d = e := by
  decide

theorem hexDigits_of_lt {n : Nat} (h : n < 16) : hexDigits n = [Nat.digitChar n] :=
  Nat.toDigits_of_lt_base h

theorem hexDigits_of_le {n : Nat} (h : 16 ≤ n) :
    hexDigits n = hexDigits (n / 16) ++ [Nat.digitChar (n % 16)] :=
  Nat.toDigits_of_base_le (by omega) h

theorem mem_hexAlphabet_of_mem_hexDigits {n : Nat} {c : Char} (h : c ∈ hexDigits n) :
    c ∈ hexAlphabet := by
  induction n using Nat.strongRecOn with
  | ind n ih =>
      by_cases hn : n < 16
      · rw [hexDigits_of_lt hn, List.mem_singleton] at h
        exact h ▸ digitChar_mem_hexAlphabet n hn
      · rw [hexDigits_of_le (by omega), List.mem_append, List.mem_singleton] at h
        rcases h with h | rfl
        · exact ih (n / 16) (by omega) h
        · exact digitChar_mem_hexAlphabet (n % 16) (by omega)

/-- Numbers that are written alike are the same.  The induction takes off the last digit. -/
theorem hexDigits_injective {m n : Nat} (h : hexDigits m = hexDigits n) : m = n := by
  induction m using Nat.strongRecOn generalizing n with
  | ind m ih =>
      have hne (k : Nat) : hexDigits k ≠ [] := Nat.toDigits_ne_nil
      by_cases hm : m < 16 <;> by_cases hn : n < 16
      · rw [hexDigits_of_lt hm, hexDigits_of_lt hn] at h
        exact digitChar_injective m hm n hn (List.singleton_inj.mp h)
      · rw [hexDigits_of_lt hm, hexDigits_of_le (by omega), eq_comm,
          List.append_eq_singleton_iff] at h
        simp [hne] at h
      · rw [hexDigits_of_lt hn, hexDigits_of_le (by omega), List.append_eq_singleton_iff] at h
        simp [hne] at h
      · rw [hexDigits_of_le (Nat.le_of_not_lt hm), hexDigits_of_le (Nat.le_of_not_lt hn)] at h
        rcases List.append_inj' h rfl with ⟨hinit, hlast⟩
        have hdiv : m / 16 = n / 16 := ih (m / 16) (by omega) hinit
        have hmod : m % 16 = n % 16 :=
          digitChar_injective _ (by omega) _ (by omega) (List.singleton_inj.mp hlast)
        omega

/-! ## Escapes -/

/-- The escapes of one letter, with the characters they stand for. -/
def shortEscapes : List (Char × Char) :=
  [('"', '"'), ('\\', '\\'), ('n', '\n'), ('t', '\t'), ('r', '\r'), ('0', '\x00')]

/-- No letter escapes two characters. -/
theorem shortEscapes_functional :
    ∀ p ∈ shortEscapes, ∀ q ∈ shortEscapes, p.1 = q.1 → p.2 = q.2 := by
  decide

/-- A character stands for itself, or has an escape of one letter, or is written by its number. -/
theorem quotedChar_cases (c : Char) :
    (quotedChar c = [c] ∧ c ≠ '\\' ∧ c ≠ '"') ∨
      (∃ letter, quotedChar c = ['\\', letter] ∧ (letter, c) ∈ shortEscapes) ∨
      quotedChar c = '\\' :: 'u' :: '\x7b' :: (hexDigits c.toNat ++ ['\x7d']) := by
  unfold quotedChar
  split_ifs with hquote hslash hline htab hreturn hnull hnumber
  · exact Or.inr (Or.inl ⟨'"', rfl, by simp [shortEscapes, hquote]⟩)
  · exact Or.inr (Or.inl ⟨'\\', rfl, by simp [shortEscapes, hslash]⟩)
  · exact Or.inr (Or.inl ⟨'n', rfl, by simp [shortEscapes, hline]⟩)
  · exact Or.inr (Or.inl ⟨'t', rfl, by simp [shortEscapes, htab]⟩)
  · exact Or.inr (Or.inl ⟨'r', rfl, by simp [shortEscapes, hreturn]⟩)
  · exact Or.inr (Or.inl ⟨'0', rfl, by simp [shortEscapes, hnull]⟩)
  · exact Or.inr (Or.inr rfl)
  · exact Or.inl ⟨rfl, hslash, hquote⟩

/-- However a character is written, it does not begin with the closing quote. -/
theorem quotedChar_append_ne_quote (c : Char) (back back' : List Char) :
    quotedChar c ++ back ≠ '"' :: back' := by
  rcases quotedChar_cases c with ⟨h, -, hquote⟩ | ⟨letter, h, -⟩ | h
  · simp [h, hquote]
  · simp [h]
  · simp [h]

/-- No escape is the beginning of another. -/
theorem quotedChar_append_inj {c d : Char} {back back' : List Char}
    (h : quotedChar c ++ back = quotedChar d ++ back') : c = d ∧ back = back' := by
  have hbrace (n : Nat) : '\x7d' ∉ hexDigits n := fun hmem =>
    absurd (mem_hexAlphabet_of_mem_hexDigits hmem) (by decide)
  have hletter : ∀ p ∈ shortEscapes, p.1 ≠ 'u' := by decide
  rcases quotedChar_cases c with ⟨hc, hslash, -⟩ | ⟨letter, hc, hshort⟩ | hc <;>
    rcases quotedChar_cases d with ⟨hd, hslash', -⟩ | ⟨letter', hd, hshort'⟩ | hd <;>
    rw [hc, hd] at h
  · simpa using h
  · simp [hslash] at h
  · simp [hslash] at h
  · simp [hslash'.symm] at h
  · simp only [List.cons_append, List.nil_append, List.cons.injEq, true_and] at h
    exact ⟨shortEscapes_functional _ hshort _ hshort' h.1, h.2⟩
  · simp only [List.cons_append, List.nil_append, List.cons.injEq, true_and] at h
    exact absurd h.1 (hletter _ hshort)
  · simp [hslash'.symm] at h
  · simp only [List.cons_append, List.nil_append, List.cons.injEq, true_and] at h
    exact absurd h.1.symm (hletter _ hshort')
  · simp only [List.cons_append, List.append_assoc, List.nil_append, List.cons.injEq,
      true_and] at h
    rcases append_cons_inj_of_not_mem (hbrace _) (hbrace _) h with ⟨hdigits, hback⟩
    exact ⟨Char.toNat_inj.mp (hexDigits_injective hdigits), hback⟩

/-! ## Quoted texts -/

/-- The characters of a text as they are written between quotes. -/
def quotedChars (cs : List Char) : List Char :=
  cs.flatMap quotedChar

@[simp]
theorem quotedChars_cons (c : Char) (cs : List Char) :
    quotedChars (c :: cs) = quotedChar c ++ quotedChars cs :=
  List.flatMap_cons

theorem toList_quote (s : String) :
    (quote s).toList = '"' :: (quotedChars s.toList ++ ['"']) := by
  simp [quote, quotedChars]

/-- What stands between quotes is told from what follows them. -/
theorem quotedChars_append_inj {cs ds back back' : List Char}
    (h : quotedChars cs ++ '"' :: back = quotedChars ds ++ '"' :: back') :
    cs = ds ∧ back = back' :=
  flatMap_append_inj quotedChar_append_ne_quote quotedChar_append_inj h

/-- A quoted text is told from what follows it. -/
theorem quote_append_inj {s t : String} {back back' : List Char}
    (h : (quote s).toList ++ back = (quote t).toList ++ back') : s = t ∧ back = back' := by
  rw [toList_quote, toList_quote] at h
  simp only [List.cons_append, List.append_assoc, List.nil_append, List.cons.injEq, true_and] at h
  rcases quotedChars_append_inj h with ⟨hchars, hback⟩
  exact ⟨String.toList_inj.mp hchars, hback⟩

/-- A quoted text is on one line. -/
theorem newline_not_mem_quote (s : String) : '\n' ∉ (quote s).toList := by
  have hletter : ∀ p ∈ shortEscapes, p.1 ≠ '\n' := by decide
  have hchar (c : Char) : '\n' ∉ quotedChar c := by
    rcases quotedChar_cases c with ⟨hc, -, -⟩ | ⟨letter, hc, hshort⟩ | hc
    · rintro hmem
      rw [hc, List.mem_singleton] at hmem
      rw [← hmem] at hc
      exact absurd hc (by decide)
    · rw [hc]
      simpa using (hletter _ hshort).symm
    · rw [hc]
      intro hmem
      have hdigit : '\n' ∈ hexDigits c.toNat := by simpa using hmem
      exact absurd (mem_hexAlphabet_of_mem_hexDigits hdigit) (by decide)
  rw [toList_quote]
  simp [quotedChars, hchar]

/-! ## Occurrences between quotes -/

section Occurrences

variable {word : List Char}

/-- A word without a backslash that stands in front of a quoted text was there before: escapes begin
with a backslash. -/
theorem prefix_of_prefix_quotedChars (hslash : '\\' ∉ word) {cs : List Char}
    (h : word <+: quotedChars cs) : word <+: cs := by
  induction cs generalizing word with
  | nil => exact h
  | cons c cs ih =>
      cases word with
      | nil => exact List.nil_prefix
      | cons a word =>
          have hslash' : '\\' ≠ a ∧ '\\' ∉ word := by simpa using hslash
          rw [quotedChars_cons] at h
          rcases quotedChar_cases c with ⟨hc, -, -⟩ | ⟨letter, hc, -⟩ | hc <;>
            rw [hc, List.cons_append, List.cons_prefix_cons] at h
          · exact List.cons_prefix_cons.mpr ⟨h.1, ih hslash'.2 h.2⟩
          · exact absurd h.1.symm hslash'.1
          · exact absurd h.1.symm hslash'.1

/-- A word that is not part of an escape occurs between quotes only if it occurs in the text.  It
has no backslash, does not begin with the letter of an escape, and has a parenthesis, which the
number of a character has not. -/
theorem infix_of_infix_quotedChars (hslash : '\\' ∉ word) (hbrace : '\x7d' ∉ word)
    (hparen : '(' ∈ word) (hhead : ∀ p ∈ shortEscapes, word.head? ≠ some p.1) {cs : List Char}
    (h : word <:+: quotedChars cs) : word <:+: cs := by
  have hne : word ≠ [] := List.ne_nil_of_mem hparen
  induction cs with
  | nil => exact h
  | cons c cs ih =>
      have hrest (hoccurs : word <:+: quotedChars cs) : word <:+: c :: cs :=
        List.infix_cons (ih hoccurs)
      rw [quotedChars_cons] at h
      rcases quotedChar_cases c with ⟨hc, -, -⟩ | ⟨letter, hc, hshort⟩ | hc <;> rw [hc] at h
      · rcases List.infix_cons_iff.mp h with hbegins | hoccurs
        · have hquoted : quotedChars (c :: cs) = [c] ++ quotedChars cs := by
            rw [quotedChars_cons, hc]
          exact (prefix_of_prefix_quotedChars hslash (hquoted ▸ hbegins)).isInfix
        · exact hrest hoccurs
      · rcases List.infix_cons_iff.mp (infix_of_infix_cons hslash hne h) with hbegins | hoccurs
        · rcases List.prefix_cons_iff.mp hbegins with rfl | ⟨rest, rfl, -⟩
          · exact absurd rfl hne
          · exact absurd rfl (hhead _ hshort)
        · exact hrest hoccurs
      · have hsplit : '\\' :: 'u' :: '\x7b' :: (hexDigits c.toNat ++ ['\x7d']) ++ quotedChars cs =
            '\\' :: (('u' :: '\x7b' :: hexDigits c.toNat) ++ '\x7d' :: quotedChars cs) := by
          simp
        rw [hsplit] at h
        have hescape := infix_of_infix_cons hslash hne h
        rcases (infix_append_cons_iff hbrace).mp hescape with hnumber | hoccurs
        · have hmem : '(' ∈ 'u' :: '\x7b' :: hexDigits c.toNat := hnumber.subset hparen
          have hdigit : '(' ∈ hexDigits c.toNat := by simpa using hmem
          exact absurd (mem_hexAlphabet_of_mem_hexDigits hdigit) (by decide)
        · exact hrest hoccurs

end Occurrences

end LayerNet.Text
