import Mathlib.Data.List.DropRight
import LayerNet.Text.CodePoints
import LayerNet.Text.Lines

/-!
# The last line with something on it

Whole lines in front of a text have no influence on its other lines, and blanks behind a line are on
blank lines.  So the last line of a text that is not blank is told by the text alone: it begins
where the text begins or behind a line feed, it ends before a line ending or with the text, and only
blanks follow.

Main definitions:

- `Closes`: what may follow a line.
- `LastLine`: the last line that is not blank, if there is one.

Main results:

- `linesFrom_append`: lines behind whole lines.
- `LastLine.find?_eq`: where the last line is found among the lines.
- `exists_lastLine`: every text has one, or is blank.
-/

namespace LayerNet.Text

/-! ## Line by line -/

theorem mem_of_mem_dropReturn {c : Char} {cs : List Char} (h : c ∈ dropReturn cs) : c ∈ cs := by
  fun_induction dropReturn cs with
  | case1 => exact h
  | case2 => cases h
  | case3 d cs _ ih => exact List.mem_cons.mpr ((List.mem_cons.mp h).imp_right ih)

theorem dropReturn_append_return (cs : List Char) : dropReturn (cs ++ ['\r']) = cs := by
  induction cs with
  | nil => rfl
  | cons c cs ih =>
      have hne : cs ++ ['\r'] ≠ [] := List.append_ne_nil_of_right_ne_nil _ (List.cons_ne_nil _ _)
      rw [List.cons_append, dropReturn, ih]
      exact fun _ hnil => hne hnil

theorem dropReturn_of_getLast? {cs : List Char} (h : cs.getLast? ≠ some '\r') :
    dropReturn cs = cs := by
  fun_induction dropReturn cs with
  | case1 => rfl
  | case2 => exact absurd rfl h
  | case3 c cs hreturn ih =>
      cases cs with
      | nil => rfl
      | cons d cs =>
          rw [List.getLast?_cons_cons] at h
          rw [ih h]

/-- A run without a line feed belongs to the line that has begun. -/
theorem linesFrom_append_of_not_mem {cs : List Char} (h : '\n' ∉ cs) (pending rest : List Char) :
    linesFrom pending (cs ++ rest) = linesFrom (cs.reverse ++ pending) rest := by
  induction cs generalizing pending with
  | nil => rfl
  | cons c cs ih =>
      rw [List.mem_cons, not_or] at h
      rw [List.cons_append, linesFrom, if_neg (Ne.symm h.1), ih h.2, List.reverse_cons,
        List.append_assoc]
      rfl

/-- A text of whole lines: it is empty or ends with a line feed. -/
def Whole (cs : List Char) : Prop :=
  cs = [] ∨ ∃ front, cs = front ++ ['\n']

theorem linesFrom_append_feed (pending front back : List Char) :
    linesFrom pending (front ++ '\n' :: back) =
      linesFrom pending (front ++ ['\n']) ++ linesFrom [] back := by
  induction front generalizing pending with
  | nil => rfl
  | cons c front ih =>
      rw [List.cons_append, List.cons_append, linesFrom, linesFrom]
      split
      · rw [ih, List.cons_append]
      · rw [ih]

/-- Behind whole lines the lines are as if there was nothing before them. -/
theorem linesFrom_append {before : List Char} (h : Whole before) (cs : List Char) :
    linesFrom [] (before ++ cs) = linesFrom [] before ++ linesFrom [] cs := by
  rcases h with rfl | ⟨front, rfl⟩
  · rfl
  · rw [List.append_assoc]
    exact linesFrom_append_feed [] front cs

/-- What may follow a line: nothing, or a line feed, before which a carriage return may stand. -/
inductive Closes (line : List Char) : List Char → Prop where
  | ending : Closes line []
  | feed {rest : List Char} (h : line.getLast? ≠ some '\r') : Closes line ('\n' :: rest)
  | returnFeed {rest : List Char} : Closes line ('\r' :: '\n' :: rest)

/-- A line is followed by the lines of a text behind it. -/
theorem exists_linesFrom_eq {line behind : List Char} (hline : '\n' ∉ line) (hne : line ≠ [])
    (h : Closes line behind) :
    ∃ rest, rest <:+ behind ∧ linesFrom [] (line ++ behind) = line :: linesFrom [] rest := by
  rw [linesFrom_append_of_not_mem hline, List.append_nil]
  cases h with
  | ending =>
      refine ⟨[], List.suffix_refl _, ?_⟩
      rw [linesFrom, List.reverse_reverse, if_neg (by simpa using hne)]
      rfl
  | @feed rest hreturn =>
      refine ⟨rest, List.suffix_cons _ _, ?_⟩
      rw [linesFrom, if_pos rfl, List.reverse_reverse, dropReturn_of_getLast? hreturn]
  | @returnFeed rest =>
      refine ⟨rest, (List.suffix_cons _ _).trans (List.suffix_cons _ _), ?_⟩
      rw [linesFrom, if_neg (by decide), linesFrom, if_pos rfl, List.reverse_cons,
        List.reverse_reverse, dropReturn_append_return]

/-- No line holds anything that is not in the text. -/
theorem mem_of_mem_linesFrom {c : Char} {line pending cs : List Char}
    (hline : line ∈ linesFrom pending cs) (hc : c ∈ line) : c ∈ pending ∨ c ∈ cs := by
  induction cs generalizing pending with
  | nil =>
      rw [linesFrom] at hline
      split at hline
      · cases hline
      · rw [List.mem_singleton.mp hline, List.mem_reverse] at hc
        exact .inl hc
  | cons d cs ih =>
      rw [linesFrom] at hline
      split at hline
      · rcases List.mem_cons.mp hline with rfl | hlater
        · exact .inl (List.mem_reverse.mp (mem_of_mem_dropReturn hc))
        · exact .inr (List.mem_cons_of_mem d ((ih hlater).resolve_left List.not_mem_nil))
      · rcases ih hline with hpending | hlater
        · rcases List.mem_cons.mp hpending with rfl | hold
          · exact .inr List.mem_cons_self
          · exact .inl hold
        · exact .inr (List.mem_cons_of_mem d hlater)

/-! ## The last line -/

/-- The last line of a text that is not blank; nothing, if all of the text is blank. -/
inductive LastLine : List Char → List Char → Prop where
  | line {before line behind : List Char} (hbefore : Whole before) (hline : '\n' ∉ line)
      (hsome : ∃ c ∈ line, isBlank c = false) (hcloses : Closes line behind)
      (hblank : ∀ c ∈ behind, isBlank c = true) : LastLine (before ++ (line ++ behind)) line
  | blank {cs : List Char} (hblank : ∀ c ∈ cs, isBlank c = true) : LastLine cs []

/-- A text of blanks has blank lines only. -/
theorem find?_linesFrom_of_blank {cs : List Char} (h : ∀ c ∈ cs, isBlank c = true) :
    (linesFrom [] cs).reverse.find? (fun line => !line.all isBlank) = none := by
  rw [List.find?_eq_none]
  intro line hline
  have hblank : line.all isBlank = true := List.all_eq_true.mpr fun c hc =>
    h c ((mem_of_mem_linesFrom (List.mem_reverse.mp hline) hc).resolve_left List.not_mem_nil)
  simp [hblank]

theorem LastLine.find?_eq {cs line : List Char} (h : LastLine cs line) :
    ((linesFrom [] cs).reverse.find? fun line => !line.all isBlank).getD [] = line := by
  cases h with
  | blank hblank => rw [find?_linesFrom_of_blank hblank, Option.getD_none]
  | line hbefore hline hsome hcloses hblank =>
      have hne : line ≠ [] := by
        rintro rfl
        rcases hsome with ⟨c, hc, -⟩
        cases hc
      have hfound : (!line.all isBlank) = true := by simpa using hsome
      rcases exists_linesFrom_eq hline hne hcloses with ⟨rest, hrest, hlines⟩
      have hnone := find?_linesFrom_of_blank fun c hc => hblank c (hrest.subset hc)
      rw [linesFrom_append hbefore, hlines, List.reverse_append, List.reverse_cons,
        List.append_assoc, List.find?_append, hnone, Option.none_or, List.singleton_append,
        List.find?_cons, hfound]
      rfl

/-- A text begins with a line, which a line ending or the end of the text closes. -/
theorem exists_closes (cs : List Char) :
    ∃ line behind, cs = line ++ behind ∧ '\n' ∉ line ∧ Closes line behind := by
  induction cs with
  | nil => exact ⟨[], [], rfl, List.not_mem_nil, .ending⟩
  | cons c cs ih =>
      by_cases hfeed : c = '\n'
      · subst hfeed
        exact ⟨[], '\n' :: cs, rfl, List.not_mem_nil, .feed (by simp)⟩
      · by_cases hreturn : c = '\r' ∧ ∃ rest, cs = '\n' :: rest
        · rcases hreturn with ⟨rfl, rest, rfl⟩
          exact ⟨[], _, rfl, List.not_mem_nil, .returnFeed⟩
        · rcases ih with ⟨line, behind, rfl, hline, hcloses⟩
          have hmem : '\n' ∉ c :: line := List.not_mem_cons_of_ne_of_not_mem (Ne.symm hfeed) hline
          refine ⟨c :: line, behind, rfl, hmem, ?_⟩
          cases hcloses with
          | ending => exact .ending
          | returnFeed => exact .returnFeed
          | @feed rest hlast =>
              refine .feed ?_
              cases line with
              | nil =>
                  intro hc
                  exact hreturn ⟨Option.some.inj hc, rest, rfl⟩
              | cons d line => rwa [List.getLast?_cons_cons]

/-- Whole lines may be put before a text that is not blank. -/
theorem LastLine.append {before cs line : List Char} (hbefore : Whole before) (hne : line ≠ [])
    (h : LastLine cs line) : LastLine (before ++ cs) line := by
  cases h with
  | blank => exact absurd rfl hne
  | @line inner line behind hinner hline hsome hcloses hblank =>
      have hwhole : Whole (before ++ inner) := by
        rcases hinner with rfl | ⟨front, rfl⟩
        · rwa [List.append_nil]
        · exact .inr ⟨before ++ front, (List.append_assoc _ _ _).symm⟩
      rw [← List.append_assoc]
      exact .line hwhole hline hsome hcloses hblank

/-- Behind a line the text is over, or a line ending stands there. -/
theorem Closes.cases {line behind : List Char} (h : Closes line behind) :
    behind = [] ∨
      ∃ front rest, behind = front ++ '\n' :: rest ∧ ∀ c ∈ front, isBlank c = true := by
  cases h with
  | ending => exact .inl rfl
  | @feed rest => exact .inr ⟨[], rest, rfl, List.forall_mem_nil _⟩
  | @returnFeed rest => exact .inr ⟨['\r'], rest, rfl, List.forall_mem_singleton.mpr (by decide)⟩

/-- The first line is the last one if only blanks follow.  Otherwise the last line is behind it. -/
theorem exists_lastLine (cs : List Char) : ∃ line, LastLine cs line := by
  induction hlength : cs.length using Nat.strongRecOn generalizing cs with
  | ind length ih =>
      subst hlength
      by_cases hall : ∀ c ∈ cs, isBlank c = true
      · exact ⟨[], .blank hall⟩
      · rcases exists_closes cs with ⟨line, behind, rfl, hline, hcloses⟩
        have hfirst (hblank : ∀ c ∈ behind, isBlank c = true) :
            LastLine (line ++ behind) line := by
          have hsome : ∃ c ∈ line, isBlank c = false := by
            by_contra hnone
            refine hall (List.forall_mem_append.mpr ⟨fun c hc => ?_, hblank⟩)
            exact eq_true_of_ne_false fun hfalse => hnone ⟨c, hc, hfalse⟩
          exact @LastLine.line [] line behind (.inl rfl) hline hsome hcloses hblank
        rcases hcloses.cases with rfl | ⟨front, rest, rfl, hfront⟩
        · exact ⟨line, hfirst (List.forall_mem_nil _)⟩
        · have hlt : rest.length < (line ++ (front ++ '\n' :: rest)).length := by
            rw [List.length_append, List.length_append, List.length_cons]
            omega
          rcases ih rest.length hlt rest rfl with ⟨last, hlast⟩
          by_cases hne : last = []
          · subst hne
            have hrest : ∀ c ∈ rest, isBlank c = true := by
              cases hlast with
              | blank hblank => exact hblank
              | line _ _ hsome =>
                  rcases hsome with ⟨c, hc, -⟩
                  cases hc
            refine ⟨line, hfirst (List.forall_mem_append.mpr ⟨hfront, ?_⟩)⟩
            exact List.forall_mem_cons.mpr ⟨by decide, hrest⟩
          · have hwhole : Whole (line ++ front ++ ['\n']) := .inr ⟨_, rfl⟩
            have htext : line ++ (front ++ '\n' :: rest) = line ++ front ++ ['\n'] ++ rest := by
              simp only [List.append_assoc, List.singleton_append]
            exact ⟨last, htext ▸ hlast.append hwhole hne⟩

end LayerNet.Text
