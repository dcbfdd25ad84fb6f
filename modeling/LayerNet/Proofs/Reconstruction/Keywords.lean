import LayerNet.Proofs.Reconstruction.Declarations
import LayerNet.Proofs.Reconstruction.InternalCalls

/-!
# Keywords as identifiers

No keyword may be declared, neither one that is in use nor one that is kept for later.  Those in use
are reserved words, so that no identifier is one of them.  Those that are kept are not: a name that
reads like such a word, whatever the case of its letters, is made into the word itself.  An
identifier with a number behind it is never a keyword.

Main definitions:

- `keywords`, `futureKeywords`: the keywords in use, and those kept for later.
- `folded`: a name in small letters, digits and underscores.

Main results:

- `identifierOf_eq_iff`: of which names a kept keyword is made.
- `Session.Coherent.exists_identifier_iff`: when a kept keyword is the identifier of a variable.
- `SavedGraph.keywords_reconstruct`: which keywords are declared.
-/

namespace LayerNet

/-! ## Keywords -/

/-- The keywords in use. -/
def keywords : List String :=
  ["as", "async", "await", "break", "const", "continue", "crate", "dyn", "else", "enum", "extern",
   "false", "fn", "for", "if", "impl", "in", "let", "loop", "match", "mod", "move", "mut", "pub",
   "ref", "return", "self", "Self", "static", "struct", "super", "trait", "true", "type", "unsafe",
   "use", "where", "while"]

/-- The keywords that are kept for later. -/
def futureKeywords : List String :=
  ["abstract", "become", "box", "do", "final", "macro", "override", "priv", "try", "typeof",
   "unsized", "virtual", "yield"]

/-- All keywords in use but one, which has a capital letter, are reserved words. -/
theorem reserved_of_keyword : ∀ word ∈ keywords, word ∈ reservedWords ∨ word = "Self" := by
  decide

theorem IsIdentifier.not_mem_keywords {text : String} (h : IsIdentifier text) :
    text ∉ "_" :: keywords := by
  intro hmem
  rcases List.mem_cons.mp hmem with rfl | hmem
  · rcases h.telling with ⟨c, hc, htelling⟩
    obtain rfl : c = '_' := by simpa using hc
    exact absurd htelling (by decide)
  · rcases reserved_of_keyword text hmem with hreserved | rfl
    · exact h.not_reserved hreserved
    · exact absurd (h.plain 'S' (by decide)) (by decide)

theorem not_space_mem_keyword :
    ∀ word ∈ "_" :: keywords ++ futureKeywords, ' ' ∉ word.toList := by
  decide

/-! ## Names that are made into keywords -/

/-- A name with its letters in lower case, and underscores for what is neither a letter nor a
digit. -/
def folded (name : String) : String :=
  String.ofList (name.toList.map identifierChar)

/-- A kept keyword is not reserved and has no underscore, nor is it a `v` with no letters behind
it. -/
theorem futureKeywords_spelling : ∀ word ∈ futureKeywords,
    word ∉ reservedWords ∧ '_' ∉ word.toList ∧ word.toList.tail.any Char.isAlphanum = true ∧
      withFirst word.toList = word.toList := by
  decide

/-- A kept keyword is made of the names that are folded to it, and of no others. -/
theorem identifierOf_eq_iff {name word : String} (hword : word ∈ futureKeywords) :
    identifierOf name = word ↔ folded name = word := by
  rcases futureKeywords_spelling word hword with ⟨hreserved, hunderscore, htail, hfirst⟩
  constructor
  · intro heq
    have hchars : word.toList = withFirst (folded name).toList := by
      unfold identifierOf at heq
      dsimp only at heq
      split at heq
      · refine absurd ?_ hunderscore
        rw [← heq]
        simp
      · rw [← heq, folded, String.toList_ofList, String.toList_ofList]
    unfold withFirst at hchars
    split_ifs at hchars with hnone hdigit
    · rw [hchars, List.tail_cons] at htail
      rw [htail] at hnone
      cases hnone
    · exact absurd (hchars ▸ List.mem_cons_self) hunderscore
    · exact (String.toList_inj.mp hchars).symm
  · rintro rfl
    have hsame : String.ofList (withFirst (name.toList.map identifierChar)) = folded name := by
      rw [← String.toList_inj, String.toList_ofList, ← hfirst, folded, String.toList_ofList]
    rw [identifierOf, hsame]
    simp [hreserved]

/-- A number is behind an underscore, which no kept keyword has. -/
theorem NamedAfter.folded_eq {name word : String} (h : NamedAfter name word)
    (hword : word ∈ futureKeywords) : folded name = word := by
  rcases h with heq | ⟨n, -, heq⟩
  · exact (identifierOf_eq_iff hword).mp heq.symm
  · refine absurd ?_ (futureKeywords_spelling word hword).2.1
    rw [heq]
    simp [NameRegistry.numbered]

namespace Session

/-- A kept keyword is the identifier of a variable if a name is folded to it: the first such name
gets it. -/
theorem Coherent.exists_identifier_iff {s : Session} (h : s.Coherent) {word : String}
    (hword : word ∈ futureKeywords) :
    (∃ v ∈ s.toList, v.identifier = word) ↔ ∃ v ∈ s.toList, folded v.node = word := by
  constructor
  · rintro ⟨v, hv, heq⟩
    exact ⟨v, hv, NamedAfter.folded_eq (heq ▸ h.namedAfter v hv) hword⟩
  · rintro ⟨v, hv, hfolded⟩
    have hmade : identifierOf v.node = word := (identifierOf_eq_iff hword).mpr hfolded
    rcases List.append_of_mem hv with ⟨before, after, hlist⟩
    by_cases hearlier : ∃ w ∈ before, w.identifier = word
    · rcases hearlier with ⟨w, hw, heq⟩
      exact ⟨w, hlist ▸ List.mem_append_left _ hw, heq⟩
    · refine ⟨v, hv, (h.natural before v after hlist fun w hw heq => ?_).trans hmade⟩
      exact hearlier ⟨w, hw, heq.trans hmade⟩

end Session

/-! ## Declared keywords -/

namespace SavedGraph

variable {graph : SavedGraph} {options : ReconstructionOptions} {word : String}

/-- What is declared by a reconstructed variable is its identifier. -/
theorem declares_keyword_iff {v : Variable} (hv : v ∈ graph.reconstruct options)
    (hword : word ∈ "_" :: keywords ++ futureKeywords) :
    v.declares word = true ↔ v.identifier = word := by
  rcases exists_filled_of_mem_reconstruct hv with ⟨u, hu, rfl⟩
  rw [Variable.identifier_filled]
  exact declares_filled_iff hu (not_space_mem_keyword word hword)

/-- A kept keyword is declared if a name is folded to it, unless that of a variable which is left
out is folded to it as well: then that one has it. -/
theorem exists_declares_keyword_iff (hword : word ∈ futureKeywords) :
    (∃ v ∈ graph.reconstruct options, v.declares word = true) ↔
      (∃ v ∈ graph.reconstruct options, folded v.node = word) ∧
        ∀ w ∈ (graph.hiddenSession options).toList, folded w.node ≠ word := by
  rcases graph.exists_reconstruct_eq options with ⟨rest, hrest, hreconstruct⟩
  have hdeclares : (∃ v ∈ graph.reconstruct options, v.declares word = true) ↔
      ∃ v ∈ graph.reconstruct options, v.identifier = word :=
    exists_congr fun v => and_congr_right fun hv =>
      declares_keyword_iff hv (List.mem_append_right _ hword)
  have hgiven : (∃ v ∈ graph.reconstruct options, v.identifier = word) ↔
      ∃ u ∈ rest, u.identifier = word := by
    simp [hreconstruct]
  have hshown : (∃ v ∈ graph.reconstruct options, folded v.node = word) ↔
      ∃ u ∈ rest, folded u.node = word := by
    simp [hreconstruct]
  have hhidden : (∃ w ∈ (graph.hiddenSession options).toList, w.identifier = word) ↔
      ∃ w ∈ (graph.hiddenSession options).toList, folded w.node = word :=
    (graph.settled_hiddenSession options).coherent.exists_identifier_iff hword
  have hall : (∃ u ∈ graph.unfilled options, u.identifier = word) ↔
      ∃ u ∈ graph.unfilled options, folded u.node = word :=
    (graph.settled_fullSession options).coherent.exists_identifier_iff hword
  have hapart : (∃ w ∈ (graph.hiddenSession options).toList, w.identifier = word) →
      ¬ ∃ u ∈ rest, u.identifier = word := by
    rintro ⟨w, hw, hidentifier⟩ ⟨u, hu, heq⟩
    have hnodup := (graph.settled_fullSession options).coherent.nodup_identifiers
    have hlist : (graph.fullSession options).toList =
        (graph.hiddenSession options).toList ++ rest := hrest.symm
    rw [hlist, List.map_append] at hnodup
    exact List.disjoint_of_nodup_append hnodup (List.mem_map.mpr ⟨w, hw, hidentifier⟩)
      (List.mem_map.mpr ⟨u, hu, heq⟩)
  rw [← hrest] at hall
  simp only [List.mem_append, or_and_right, exists_or] at hall
  rw [hdeclares, hgiven, hshown]
  constructor
  · intro hsome
    have hnone : ¬ ∃ w ∈ (graph.hiddenSession options).toList, folded w.node = word :=
      fun hleft => hapart (hhidden.mpr hleft) hsome
    refine ⟨(hall.mp (Or.inr hsome)).resolve_left hnone, ?_⟩
    simpa using hnone
  · rintro ⟨hsome, hnone⟩
    refine (hall.mpr (Or.inr hsome)).resolve_left fun hleft => ?_
    rcases hhidden.mp hleft with ⟨w, hw, hfolded⟩
    exact hnone w hw hfolded

/-- No keyword in use is declared, nor an underscore alone.  A keyword that is kept for later is
declared exactly if a name is folded to it and no variable that is left out has it; then it is
declared for such a name. -/
theorem keywords_reconstruct (graph : SavedGraph) (options : ReconstructionOptions) :
    (∀ v ∈ graph.reconstruct options, ∀ word ∈ "_" :: keywords, v.declares word = false) ∧
      (∀ v ∈ graph.reconstruct options, ∀ word ∈ futureKeywords, v.declares word = true →
        v.identifier = word ∧ folded v.node = word) ∧
      ∀ word ∈ futureKeywords,
        ((∃ v ∈ graph.reconstruct options, v.declares word = true) ↔
          (∃ v ∈ graph.reconstruct options, folded v.node = word) ∧
            ∀ w ∈ (graph.hiddenSession options).toList, folded w.node ≠ word) := by
  refine ⟨fun v hv word hword => ?_, fun v hv word hword hdeclares => ?_,
    fun word => exists_declares_keyword_iff⟩
  · rw [Bool.eq_false_iff, ne_eq, declares_keyword_iff hv (List.mem_append_left _ hword)]
    rintro rfl
    have hnamed := namedAfter_of_mem_allVariables (reconstruct_subset hv)
    exact hnamed.isIdentifier.not_mem_keywords hword
  · have heq : v.identifier = word :=
      (declares_keyword_iff hv (List.mem_append_right _ hword)).mp hdeclares
    have hnamed : NamedAfter v.node v.identifier :=
      namedAfter_of_mem_allVariables (reconstruct_subset hv)
    exact ⟨heq, NamedAfter.folded_eq (heq ▸ hnamed) hword⟩

/-- A graph with a node whose name is a kept keyword but for a capital letter. -/
def finalGraph : SavedGraph where
  functions := [⟨"__inference_learn_1", [⟨"Final", "NoOp", []⟩]⟩]

/-- The keyword is declared. -/
theorem keyword_finalGraph :
    ∃ v ∈ finalGraph.reconstruct {}, ∃ word ∈ futureKeywords, v.declares word = true := by
  have hplaces : ∀ name, name ∉ (finalGraph.hiddenSession {}).places := by
    simp [hiddenSession, mainSession, Session.defineAll, Session.empty, finalGraph]
  have hname : "Final" ∈ (finalGraph.reconstruct {}).map Variable.node := by
    rw [mem_names_reconstruct_iff, mem_names_unfilled]
    refine ⟨Or.inl ⟨_, mem_lists_iff.mpr (Or.inr ⟨_, List.mem_cons_self, ?_, rfl⟩), _,
      ⟨List.mem_cons_self, ?_⟩, ?_⟩, hplaces _⟩
    all_goals decide
  rcases List.mem_map.mp hname with ⟨v, hv, hnode⟩
  have hdeclared : ∃ v ∈ finalGraph.reconstruct {}, v.declares "final" = true := by
    rw [exists_declares_keyword_iff (by decide)]
    refine ⟨⟨v, hv, by rw [hnode]; decide⟩, ?_⟩
    simp [hiddenSession, mainSession, Session.defineAll, Session.empty, finalGraph, Session.toList]
  rcases hdeclared with ⟨w, hw, hdeclares⟩
  exact ⟨w, hw, "final", by decide, hdeclares⟩

end SavedGraph
end LayerNet
