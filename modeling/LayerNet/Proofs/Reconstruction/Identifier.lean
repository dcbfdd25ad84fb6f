import Mathlib
import LayerNet.Proofs.Naming.Fresh
import LayerNet.Reconstruction.Session

/-!
# Identifiers of variables

What is made of a node name is an identifier, and so is every numbered name with it as base: the
base is left with a letter or a digit when the underscores at its end are taken away, and no
reserved word has an underscore.

Main definitions:

- `IsIdentifier`: what may stand as an identifier.
- `NamedAfter`: what is made of a name, with a number behind it or not.

Main results:

- `isIdentifier_identifierOf`, `isIdentifier_numbered`: what is made of names are identifiers.
- `Session.namedAfter_freshIdentifier`, `Session.freshIdentifier_not_mem`: what the search for an
  identifier finds.
- `Session.search_freshIdentifier`: the search ends.
-/

namespace LayerNet

/-! ## Characters -/

/-- Whether a character is a small letter or a digit. -/
def isTelling (c : Char) : Bool :=
  c.isLower || c.isDigit

/-- A character that is not kept becomes an underscore. -/
theorem isTelling_identifierChar (c : Char) :
    isTelling (identifierChar c) = true ∨ identifierChar c = '_' := by
  unfold identifierChar
  split
  · rename_i hc
    refine Or.inl ?_
    rw [Char.isAlphanum, Bool.or_eq_true] at hc
    rcases hc with halpha | hdigit
    · simp [isTelling, halpha]
    · have hupper : ¬ c.isUpper = true := by
        simp only [Char.isDigit, Char.isUpper, Bool.and_eq_true, decide_eq_true_eq,
          UInt32.le_iff_toNat_le, not_and, not_le] at hdigit ⊢
        simp at hdigit ⊢
        omega
      simp [isTelling, Char.toLower_eq_of_not_isUpper hupper, hdigit]
  · exact Or.inr rfl

theorem isAlphanum_eq_isTelling {c : Char} (h : isTelling c = true ∨ c = '_') :
    c.isAlphanum = isTelling c := by
  rcases h with h | rfl
  · rw [h, Char.isAlphanum, Bool.or_eq_true]
    rw [isTelling, Bool.or_eq_true] at h
    exact h.imp_left fun hlower => by simp [Char.isAlpha, hlower]
  · decide

/-! ## What may stand as an identifier -/

/-- What may stand as an identifier: small letters, digits and underscores, not a digit at the
beginning, a letter or a digit somewhere, and not a reserved word. -/
structure IsIdentifier (text : String) : Prop where
  ne_empty : text ≠ ""
  plain : ∀ c ∈ text.toList, c.isLower = true ∨ c.isDigit = true ∨ c = '_'
  first : ∀ c ∈ text.toList.head?, c.isDigit = false
  telling : ∃ c ∈ text.toList, c.isLower = true ∨ c.isDigit = true
  not_reserved : text ∉ reservedWords

/-- Characters that make up an identifier unless they are a reserved word. -/
structure IsWord (cs : List Char) : Prop where
  plain : ∀ c ∈ cs, isTelling c = true ∨ c = '_'
  first : ∀ c ∈ cs.head?, c.isDigit = false
  telling : ∃ c ∈ cs, isTelling c = true

/-- A word is an identifier unless it is reserved. -/
theorem IsWord.isIdentifier {text : String} (h : IsWord text.toList)
    (hword : text ∉ reservedWords) :
    IsIdentifier text where
  ne_empty := by
    rintro rfl
    simpa using h.telling
  plain c hc := by simpa [isTelling, or_assoc] using h.plain c hc
  first := h.first
  telling := by simpa [isTelling] using h.telling
  not_reserved := hword

theorem IsIdentifier.isWord {text : String} (h : IsIdentifier text) : IsWord text.toList where
  plain c hc := by simpa [isTelling, or_assoc] using h.plain c hc
  first := h.first
  telling := by simpa [isTelling] using h.telling

/-- More plain characters may follow. -/
theorem IsWord.append {cs more : List Char} (h : IsWord cs)
    (hmore : ∀ c ∈ more, isTelling c = true ∨ c = '_') : IsWord (cs ++ more) where
  plain c hc := (List.mem_append.mp hc).elim (h.plain c) (hmore c)
  first c hc := by
    rcases h.telling with ⟨d, hd, -⟩
    rw [List.head?_append_of_ne_nil _ (List.ne_nil_of_mem hd)] at hc
    exact h.first c hc
  telling := h.telling.imp fun c hc => ⟨List.mem_append_left _ hc.1, hc.2⟩

/-- No reserved word has an underscore, so that one behind a name takes it out of them. -/
theorem not_reserved_of_mem {text : String} (h : '_' ∈ text.toList) : text ∉ reservedWords := by
  intro hmem
  have hnone : ∀ word ∈ reservedWords, '_' ∉ word.toList := by decide
  exact hnone text hmem h

/-! ## What is made of a name -/

/-- Whatever letter is put in front, what comes out is a word. -/
theorem isWord_withFirst {cs : List Char} (h : ∀ c ∈ cs, isTelling c = true ∨ c = '_') :
    IsWord (withFirst cs) := by
  unfold withFirst
  split_ifs with hnone hdigit
  · refine ⟨?_, by simp, 'v', List.mem_cons_self, by decide⟩
    rintro c (_ | ⟨_, hc⟩)
    · exact Or.inl (by decide)
    · exact h c hc
  all_goals
    have hsome : ∃ c ∈ cs, isTelling c = true := by
      simp only [Bool.not_eq_true', Bool.not_eq_false, List.any_eq_true] at hnone
      rcases hnone with ⟨c, hc, halnum⟩
      exact ⟨c, hc, isAlphanum_eq_isTelling (h c hc) ▸ halnum⟩
  · refine ⟨?_, by simp, hsome.imp fun c hc => ⟨List.mem_cons_of_mem _ hc.1, hc.2⟩⟩
    rintro c (_ | ⟨_, hc⟩)
    · exact Or.inr rfl
    · exact h c hc
  · refine ⟨h, fun c hc => ?_, hsome⟩
    rw [Option.mem_def.mp hc] at hdigit
    simpa using hdigit

/-- Every name becomes an identifier: a word that is reserved is not left as it is. -/
theorem isIdentifier_identifierOf (name : String) : IsIdentifier (identifierOf name) := by
  have hplain : ∀ c ∈ name.toList.map identifierChar, isTelling c = true ∨ c = '_' := by
    intro c hc
    rcases List.mem_map.mp hc with ⟨d, -, rfl⟩
    exact isTelling_identifierChar d
  have hword := isWord_withFirst hplain
  unfold identifierOf
  dsimp only
  split <;> rename_i hreserved
  · refine IsWord.isIdentifier ?_ (not_reserved_of_mem (by simp))
    rw [String.toList_append, String.toList_ofList]
    exact hword.append (by simp)
  · refine IsWord.isIdentifier ?_ (by simpa using hreserved)
    rw [String.toList_ofList]
    exact hword

/-! ## Numbered names -/

theorem mem_trimEndChars {drop : Char → Bool} {cs : List Char} {c : Char} (hc : c ∈ cs)
    (hkeep : drop c = false) : c ∈ Text.trimEndChars drop cs := by
  induction cs with
  | nil => exact hc
  | cons d cs ih =>
      unfold Text.trimEndChars
      rcases List.mem_cons.mp hc with rfl | hc
      · split
        · simp [hkeep]
        · exact List.mem_cons_self
      · have hmem := ih hc
        split
        · rename_i hnil
          rw [hnil] at hmem
          exact absurd hmem List.not_mem_nil
        · rename_i kept _
          exact List.mem_cons_of_mem d hmem

/-- An identifier without the underscores at its end is made up of what identifiers are. -/
theorem IsWord.trimEnd {cs : List Char} (h : IsWord cs) :
    IsWord (Text.trimEndChars (· = '_') cs) := by
  have hbegins := Text.trimEndChars_prefix_of (· = '_') cs
  have htelling : ∃ c ∈ Text.trimEndChars (· = '_') cs, isTelling c = true := by
    rcases h.telling with ⟨c, hc, hc'⟩
    have hkeep : decide (c = '_') = false := by
      rw [decide_eq_false_iff_not]
      rintro rfl
      exact absurd hc' (by decide)
    exact ⟨c, mem_trimEndChars hc hkeep, hc'⟩
  refine ⟨fun c hc => h.plain c (hbegins.subset hc), fun c hc => h.first c ?_, htelling⟩
  rcases hbegins with ⟨rest, hrest⟩
  rcases htelling with ⟨d, hd, -⟩
  rw [← hrest, List.head?_append_of_ne_nil _ (List.ne_nil_of_mem hd)]
  exact hc

/-- A number behind an identifier makes another one, whatever underscores are cut off before it. -/
theorem isIdentifier_numbered {base : String} (h : IsIdentifier base) (n : Nat) :
    IsIdentifier (NameRegistry.numbered base n) := by
  have hstem : IsWord (NameRegistry.stem base).toList := by
    rw [NameRegistry.stem, Text.trimEnd, String.toList_ofList]
    exact h.isWord.trimEnd
  have hmore : ∀ c ∈ "_".toList ++ (Decimal.natText n).toList, isTelling c = true ∨ c = '_' := by
    intro c hc
    rcases List.mem_append.mp hc with hc | hc
    · exact Or.inr (by simpa using hc)
    · rw [Decimal.natText, String.toList_ofList] at hc
      have hdigit : c.isDigit = true := Decimal.isDigit_of_mem_digits hc
      exact Or.inl (by simp [isTelling, hdigit])
  refine IsWord.isIdentifier ?_ (not_reserved_of_mem (by simp [NameRegistry.numbered]))
  rw [NameRegistry.numbered, String.toList_append, String.toList_append, List.append_assoc]
  exact hstem.append hmore

/-! ## The search for an identifier -/

/-- Whether a text is what is made of a name, or a numbered name with it as base. -/
def NamedAfter (name identifier : String) : Prop :=
  identifier = identifierOf name ∨
    ∃ n, 1 ≤ n ∧ identifier = NameRegistry.numbered (identifierOf name) n

/-- Both ways to be named after something lead to identifiers. -/
theorem NamedAfter.isIdentifier {name identifier : String} (h : NamedAfter name identifier) :
    IsIdentifier identifier := by
  rcases h with rfl | ⟨n, -, rfl⟩
  · exact isIdentifier_identifierOf name
  · exact isIdentifier_numbered (isIdentifier_identifierOf name) n

namespace Session

/-- If the identifier of a name is taken, a number is searched for it. -/
theorem freshIdentifier_of_mem {s : Session} {name : String}
    (h : identifierOf name ∈ s.identifiers) : s.freshIdentifier name =
      s.suffixes.fresh s.identifiers.toList (identifierOf name) := by
  simp [freshIdentifier, h]

/-- What is made of the name is taken if it is free. -/
theorem freshIdentifier_of_not_mem {s : Session} {name : String}
    (h : identifierOf name ∉ s.identifiers) :
    s.freshIdentifier name = (identifierOf name, s.suffixes) := by
  simp [freshIdentifier, h]

/-- An identifier is that of its name, or that with a number. -/
theorem namedAfter_freshIdentifier (s : Session) (name : String) :
    NamedAfter name (s.freshIdentifier name).1 := by
  by_cases h : identifierOf name ∈ s.identifiers
  · rw [freshIdentifier_of_mem h]
    rcases NameRegistry.fresh_spec s.suffixes s.identifiers.toList (identifierOf name) with
      ⟨n, hn, hname, -⟩
    exact Or.inr ⟨n, by omega, hname⟩
  · rw [freshIdentifier_of_not_mem h]
    exact Or.inl rfl

/-- What is chosen was not taken before. -/
theorem freshIdentifier_not_mem (s : Session) (name : String) :
    (s.freshIdentifier name).1 ∉ s.identifiers := by
  by_cases h : identifierOf name ∈ s.identifiers
  · rw [freshIdentifier_of_mem h, ← Std.HashSet.mem_toList]
    exact NameRegistry.fresh_not_mem _ _ _
  · rw [freshIdentifier_of_not_mem h]
    exact h

/-- The search for an identifier as a loop without a bound ends: it starts with what is made of the
name and goes on with the numbered names. -/
theorem search_freshIdentifier (s : Session) (name : String) :
    NameRegistry.Search s.identifiers.toList (identifierOf name) (identifierOf name, s.suffixes)
      (s.freshIdentifier name) := by
  by_cases h : identifierOf name ∈ s.identifiers
  · rw [freshIdentifier_of_mem h]
    exact .taken (Std.HashSet.mem_toList.mpr h) (NameRegistry.search_fresh _ _ _)
  · rw [freshIdentifier_of_not_mem h]
    exact .free fun hmem => h (Std.HashSet.mem_toList.mp hmem)

end Session
end LayerNet
