import LayerNet.Json.Parser
import LayerNet.Proofs.Json.Scanning

/-!
# Values that are passed over

A value that nothing is wanted of is passed over without being looked at, however deep it is.  Any
value of the grammar can be passed over, and exactly the value is.

Main definitions:

- `Skips`: lexemes that are passed over as one value.

Main results:

- `skips_arrayLexemes`, `skips_objectLexemes`: arrays and objects of such values.
- `IsValue.skips`: all values are passed over.
-/

namespace LayerNet.Json

open Lexeme

/-! ## Values of lexemes -/

/-- The lexemes are passed over as one value, and twice their number is enough fuel. -/
def Skips (ls : List Lexeme) : Prop :=
  ∀ fuel more, 2 * ls.length ≤ fuel → skipValue fuel (ls ++ more) = .ok more

/-- A value begins with a lexeme that closes nothing. -/
theorem Skips.exists_cons {ls : List Lexeme} (h : Skips ls) :
    ∃ l ls', ls = l :: ls' ∧ l ≠ .closeBracket := by
  cases ls with
  | nil =>
      have hnothing := h 0 [] (Nat.le_refl _)
      simp [skipValue] at hnothing
  | cons l ls =>
      refine ⟨l, ls, rfl, ?_⟩
      rintro rfl
      have hclosing := h _ [] (Nat.le_refl _)
      simp [skipValue, Nat.mul_add] at hclosing

theorem skips_singleton {l : Lexeme}
    (h : l = .null ∨ (∃ b, l = .bool b) ∨ (∃ content, l = .text content) ∨ IsNumeral l) :
    Skips [l] := by
  intro fuel more hfuel
  cases fuel with
  | zero => simp at hfuel
  | succ fuel =>
      rw [List.singleton_append]
      rcases h with rfl | ⟨b, rfl⟩ | ⟨content, rfl⟩ | hnumeral
      · rfl
      · rfl
      · rfl
      · cases l with
        | int n => rfl
        | float x => rfl
        | huge => rfl
        | _ => cases hnumeral

/-! ## Arrays -/

theorem skipItems_joined {items : List (List Lexeme)} (hne : items ≠ [])
    (h : ∀ item ∈ items, Skips item) {fuel : Nat} (more : List Lexeme)
    (hfuel : 2 * (joined items).length + 1 ≤ fuel) :
    skipItems fuel (joined items ++ .closeBracket :: more) = .ok more := by
  induction items generalizing fuel with
  | nil => exact absurd rfl hne
  | cons item items ih =>
      rw [List.forall_mem_cons] at h
      obtain ⟨fuel, rfl⟩ : ∃ n, fuel = n + 1 := ⟨fuel - 1, by omega⟩
      cases items with
      | nil =>
          have hitem := h.1 fuel (.closeBracket :: more) (by simp [joined, further] at hfuel; omega)
          simp [skipItems, joined, further, hitem]
      | cons item' items =>
          rw [joined_cons_cons, List.length_append, List.length_cons] at hfuel
          have hitem := h.1 fuel (.comma :: (joined (item' :: items) ++ .closeBracket :: more))
            (by omega)
          have hrest := @ih (List.cons_ne_nil _ _) h.2 fuel (by omega)
          rw [joined_cons_cons, List.append_assoc, List.cons_append, skipItems, hitem]
          exact hrest

theorem skipValue_openBracket {l : Lexeme} (h : l ≠ .closeBracket) (fuel : Nat)
    (rest : List Lexeme) :
    skipValue (fuel + 1) (.openBracket :: l :: rest) = skipItems fuel (l :: rest) := by
  cases l with
  | closeBracket => exact absurd rfl h
  | _ => rfl

/-- An array of values is passed over. -/
theorem skips_arrayLexemes {items : List (List Lexeme)} (h : ∀ item ∈ items, Skips item) :
    Skips (arrayLexemes items) := by
  intro fuel more hfuel
  simp only [arrayLexemes, List.length_cons, List.length_append, List.length_nil] at hfuel
  obtain ⟨fuel, rfl⟩ : ∃ n, fuel = n + 1 := ⟨fuel - 1, by omega⟩
  cases items with
  | nil => rfl
  | cons item items =>
      rcases (h item List.mem_cons_self).exists_cons with ⟨l, ls, rfl, hclose⟩
      have hitems := skipItems_joined (List.cons_ne_nil _ _) h more
        (show 2 * (joined ((l :: ls) :: items)).length + 1 ≤ fuel by omega)
      rw [arrayLexemes, List.cons_append, List.append_assoc]
      exact (skipValue_openBracket hclose fuel _).trans hitems

/-! ## Objects -/

theorem skipFields_joined {fields : List Field} (hne : fields ≠ [])
    (h : ∀ field ∈ fields, Skips field.2) {fuel : Nat} (more : List Lexeme)
    (hfuel : 2 * (joined (fields.map Field.lexemes)).length + 1 ≤ fuel) :
    skipFields fuel (joined (fields.map Field.lexemes) ++ .closeBrace :: more) = .ok more := by
  induction fields generalizing fuel with
  | nil => exact absurd rfl hne
  | cons field fields ih =>
      rw [List.forall_mem_cons] at h
      obtain ⟨fuel, rfl⟩ : ∃ n, fuel = n + 1 := ⟨fuel - 1, by omega⟩
      cases fields with
      | nil =>
          simp only [List.map_cons, List.map_nil, joined, further, List.flatMap_nil,
            List.append_nil, Field.lexemes, List.length_cons] at hfuel ⊢
          have hvalue := h.1 fuel (.closeBrace :: more) (by omega)
          simp [skipFields, skipKey, hvalue]
      | cons field' fields =>
          rw [List.map_cons, List.map_cons, joined_cons_cons, List.length_append, List.length_cons,
            Field.lexemes, List.length_cons, List.length_cons] at hfuel
          have hvalue := h.1 fuel
            (.comma :: (joined ((field' :: fields).map Field.lexemes) ++ .closeBrace :: more))
            (by omega)
          have hrest := @ih (List.cons_ne_nil _ _) h.2 fuel (by rw [List.map_cons]; omega)
          rw [List.map_cons] at hvalue hrest
          rw [List.map_cons, List.map_cons, joined_cons_cons, List.append_assoc, List.cons_append,
            Field.lexemes, List.cons_append, List.cons_append, skipFields]
          simp only [skipKey]
          rw [hvalue]
          exact hrest

/-- An object of values is passed over, whatever its keys mean. -/
theorem skips_objectLexemes {fields : List Field} (h : ∀ field ∈ fields, Skips field.2) :
    Skips (objectLexemes fields) := by
  intro fuel more hfuel
  simp only [objectLexemes, List.length_cons, List.length_append, List.length_nil] at hfuel
  obtain ⟨fuel, rfl⟩ : ∃ n, fuel = n + 1 := ⟨fuel - 1, by omega⟩
  cases fields with
  | nil => rfl
  | cons field fields =>
      have hfields := skipFields_joined (List.cons_ne_nil _ _) h more
        (show 2 * (joined ((field :: fields).map Field.lexemes)).length + 1 ≤ fuel by omega)
      rw [objectLexemes, List.cons_append, List.append_assoc]
      exact hfields

/-! ## All values -/

/-- Every value of the grammar is cut into lexemes, and these are passed over. -/
theorem IsValue.skips {cs : List Char} (h : IsValue cs) :
    Scans cs (scan cs) ∧ Skips (scan cs) := by
  have hsingle {cs : List Char} {l : Lexeme} (hscan : Scans cs [l]) (hskips : Skips [l]) :
      Scans cs (scan cs) ∧ Skips (scan cs) := by
    rw [hscan.scan_eq]
    exact ⟨hscan, hskips⟩
  induction h with
  | null =>
      exact hsingle (fun rest _ => scan_nullChars_append rest) (skips_singleton (Or.inl rfl))
  | bool b =>
      exact hsingle (fun rest _ => scan_boolChars_append b rest)
        (skips_singleton (Or.inr (Or.inl ⟨b, rfl⟩)))
  | number hnumber =>
      rcases exists_scan_of_isNumber hnumber with ⟨l, hl, hscan⟩
      exact hsingle hscan (skips_singleton (Or.inr (Or.inr (Or.inr hl))))
  | text htext =>
      rcases exists_scan_of_isText htext with ⟨content, hscan⟩
      exact hsingle (fun rest _ => hscan rest)
        (skips_singleton (Or.inr (Or.inr (Or.inl ⟨content, rfl⟩))))
  | @array items cs harray _ ih =>
      have hscan := scans_arrayOf harray fun item hmem => (ih item hmem).1
      rw [hscan.scan_eq]
      refine ⟨hscan, skips_arrayLexemes fun item hmem => ?_⟩
      rcases List.mem_map.mp hmem with ⟨item, hitem, rfl⟩
      exact (ih item hitem).2
  | @object members cs hobject hkeys _ ih =>
      have hscan := scans_objectOf hobject hkeys fun m hmem => (ih m hmem).1
      rw [hscan.scan_eq]
      refine ⟨hscan, skips_objectLexemes fun field hmem => ?_⟩
      rcases List.mem_map.mp hmem with ⟨m, hm, rfl⟩
      exact (ih m hm).2

end LayerNet.Json
