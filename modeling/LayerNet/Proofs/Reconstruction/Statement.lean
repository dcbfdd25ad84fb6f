import Mathlib.Data.List.Infix
import LayerNet.Proofs.Text.Quoted
import LayerNet.Reconstruction.Session

/-!
# The text of a statement

A statement is made by putting an identifier into a template, and later its placeholders are
replaced in its text.  Both come to the same as writing the statement anew: the mark that is
replaced in the template is the one meant for the identifier, and a placeholder is found in a
statement exactly where it is an argument.  The latter holds if no name and no operation has in it
what placeholders begin with.

Main definitions:

- `statementText`: the statement with its identifier and its arguments.
- `Argument`: an argument as an identifier or a placeholder.

Main results:

- `replaceFirst_statementTemplate`: the identifier is put where it belongs.
- `replaceAll_statementText`: a replacement in the text is one among the arguments.
-/

namespace LayerNet

/-! ## Statements -/

/-- The statement that declares a variable for a node. -/
def statementText (identifier op name : String) (arguments : List String) : String :=
  "let " ++ identifier ++ " = op::" ++ op ++ "(scope.sub_scope(" ++ Text.quote name ++ ")"
    ++ String.join (arguments.map fun argument => ", " ++ argument) ++ ");"

/-- The identifier goes where it is meant to, whatever marks the operation and the names have. -/
theorem replaceFirst_statementTemplate (identifier op name : String) (arguments : List String) :
    Text.replaceFirst identifierMark identifier (statementTemplate op name arguments)
      = statementText identifier op name arguments := by
  have htemplate : (statementTemplate op name arguments).toList = "let ".toList ++
      identifierMark.toList ++ (" = op::" ++ op ++ "(scope.sub_scope(" ++ Text.quote name ++ ")"
        ++ String.join (arguments.map fun argument => ", " ++ argument) ++ ");").toList := by
    simp [statementTemplate]
  have hbreak (back : List Char) :
      Text.breakOn identifierMark.toList ("let ".toList ++ identifierMark.toList ++ back)
        = some ("let ".toList, back) := by
    simp [identifierMark, Text.breakOn, Text.dropFront?]
  rw [Text.replaceFirst, htemplate, hbreak]
  simp [statementText, ← String.toList_inj]

/-! ## Arguments -/

/-- An argument of a statement: the identifier of a variable, or a placeholder for an operand. -/
inductive Argument where
  | identifier (text : String)
  | placeholder (operand : String)

namespace Argument

/-- The argument as it is written. -/
def text : Argument → String
  | identifier text => text
  | placeholder operand => LayerNet.placeholder operand

/-- The operand that an argument is a placeholder for. -/
def operand? : Argument → Option String
  | identifier _ => none
  | placeholder operand => some operand

/-- The argument after the placeholders for one operand are replaced by an identifier. -/
def replace (name new : String) : Argument → Argument
  | identifier text => identifier text
  | placeholder operand => if operand = name then identifier new else placeholder operand

/-- Whether no placeholder is found in an argument but where it is one itself. -/
def Harmless : Argument → Prop
  | identifier text => '(' ∉ text.toList
  | placeholder operand => ¬ placeholderOpening.toList <:+: operand.toList

end Argument

/-! ## Placeholders in texts -/

theorem toList_placeholder (name : String) :
    (placeholder name).toList = placeholderOpening.toList ++ (Text.quote name).toList ++ [')'] := by
  simp [placeholder]

/-- A placeholder is told from what follows it. -/
theorem placeholder_append_inj {name other : String} {back back' : List Char}
    (h : (placeholder name).toList ++ back = (placeholder other).toList ++ back') :
    name = other ∧ back = back' := by
  simp only [toList_placeholder, List.append_assoc] at h
  exact (Text.quote_append_inj (List.append_cancel_left h)).imp_right List.append_cancel_left

/-- How placeholders begin, with the quote that follows. -/
def quotedOpening : List Char :=
  placeholderOpening.toList ++ ['"']

theorem quotedOpening_prefix_placeholder (name : String) :
    quotedOpening <+: (placeholder name).toList := by
  rw [toList_placeholder, quotedOpening, Text.toList_quote]
  simp

/-- A text without the beginning of a placeholder has none with a quote behind it. -/
theorem not_quotedOpening_of_not_opening {cs : List Char}
    (h : ¬ placeholderOpening.toList <:+: cs) :
    ¬ quotedOpening <:+: cs :=
  fun hoccurs => h ((List.prefix_append _ _).isInfix.trans hoccurs)

/-- Placeholders do not begin where there is no parenthesis. -/
theorem not_opening_infix_of_not_mem {cs : List Char} (h : '(' ∉ cs) :
    ¬ placeholderOpening.toList <:+: cs :=
  fun hoccurs => h (hoccurs.subset (by decide))

/-- Placeholders begin in a quoted text only if they do in the text. -/
theorem not_opening_infix_quote {front : List Char} {name : String}
    (hfront : ¬ placeholderOpening.toList <:+: front)
    (hname : ¬ placeholderOpening.toList <:+: name.toList) :
    ¬ placeholderOpening.toList <:+: front ++ (Text.quote name).toList := by
  have hquote : '"' ∉ placeholderOpening.toList := by decide
  have hempty : ¬ placeholderOpening.toList <:+: [] := by decide
  rw [Text.toList_quote, Text.infix_append_cons_iff hquote, Text.infix_append_cons_iff hquote]
  rintro (hoccurs | hoccurs | hoccurs)
  · exact hfront hoccurs
  · exact hname (Text.infix_of_infix_quotedChars (by decide) (by decide) (by decide) (by decide)
      hoccurs)
  · exact hempty hoccurs

/-- A statement up to its arguments. -/
def statementHead (identifier op name : String) : String :=
  "let " ++ identifier ++ " = op::" ++ op ++ "(scope.sub_scope(" ++ Text.quote name ++ ")"

/-- The arguments of a statement and what follows them. -/
def argumentChars (arguments : List Argument) : List Char :=
  arguments.flatMap (fun argument => ',' :: ' ' :: argument.text.toList) ++ ");".toList

theorem toList_statementText (identifier op name : String) (arguments : List Argument) :
    (statementText identifier op name (arguments.map Argument.text)).toList
      = (statementHead identifier op name).toList ++ argumentChars arguments := by
  simp [statementText, statementHead, argumentChars, List.flatMap_map]

theorem argumentChars_cons (argument : Argument) (arguments : List Argument) :
    argumentChars (argument :: arguments) =
      ',' :: ' ' :: (argument.text.toList ++ argumentChars arguments) := by
  simp [argumentChars]

/-- What follows an argument begins with a comma or a parenthesis. -/
theorem exists_cons_argumentChars (arguments : List Argument) :
    ∃ c back, (c = ',' ∨ c = ')') ∧ argumentChars arguments = c :: back := by
  cases arguments with
  | nil => exact ⟨')', [';'], Or.inr rfl, rfl⟩
  | cons argument arguments => exact ⟨',', _, Or.inl rfl, argumentChars_cons argument arguments⟩

section Replacing

variable (name new : String)

/-- A replacement of placeholders, as it goes through the characters of a text. -/
def replacedChars (cs : List Char) : List Char :=
  Text.replaceFrom (placeholder name).toList new.toList 0 cs

/-- A replacement does not reach over a character that the beginning of a placeholder does not
have. -/
theorem replacedChars_separator {front back : List Char} {c : Char} (hc : c ∉ quotedOpening)
    (hfront : ¬ quotedOpening <:+: front) :
    replacedChars name new (front ++ c :: back) = front ++ c :: replacedChars name new back :=
  Text.replaceFrom_separator new.toList (quotedOpening_prefix_placeholder name) hc hfront

/-- Before the arguments of a statement there is no placeholder. -/
theorem replacedChars_head {identifier op node : String} (hidentifier : '(' ∉ identifier.toList)
    (hop : ¬ placeholderOpening.toList <:+: op.toList)
    (hnode : ¬ placeholderOpening.toList <:+: node.toList) (back : List Char) :
    replacedChars name new ((statementHead identifier op node).toList ++ back)
      = (statementHead identifier op node).toList ++ replacedChars name new back := by
  -- the text is cut at characters that do not stand at the beginning of placeholders
  have hcut (tail : List Char) : (statementHead identifier op node).toList ++ tail =
      ("let " ++ identifier ++ " = op:").toList ++ ':' :: ((op ++ "(scope.sub").toList ++ '_' ::
        ("scope(".toList ++ (Text.quote node).toList ++ ')' :: tail)) := by
    simp [statementHead]
  have hlet : ¬ quotedOpening <:+: ("let " ++ identifier ++ " = op:").toList := by
    refine not_quotedOpening_of_not_opening (not_opening_infix_of_not_mem ?_)
    simp [hidentifier]
  have hcall : ¬ quotedOpening <:+: (op ++ "(scope.sub").toList := by
    rw [String.toList_append]
    intro hoccurs
    exact not_quotedOpening_of_not_opening hop (Text.infix_of_infix_append (by decide) hoccurs)
  have hscope : ¬ quotedOpening <:+: "scope(".toList ++ (Text.quote node).toList :=
    not_quotedOpening_of_not_opening (not_opening_infix_quote (by decide) hnode)
  rw [hcut, hcut, replacedChars_separator name new (by decide) hlet,
    replacedChars_separator name new (by decide) hcall,
    replacedChars_separator name new (by decide) hscope]

/-- An argument is replaced if it is a placeholder for the name, and else left alone. -/
theorem replacedChars_argument {argument : Argument} (h : argument.Harmless) {c : Char}
    (hc : c ∉ quotedOpening) (back : List Char) :
    replacedChars name new (argument.text.toList ++ c :: back)
      = (argument.replace name new).text.toList ++ replacedChars name new (c :: back) := by
  have hopening := quotedOpening_prefix_placeholder name
  cases argument with
  | identifier text =>
      have hnot : ¬ quotedOpening <:+: text.toList :=
        not_quotedOpening_of_not_opening (not_opening_infix_of_not_mem h)
      exact Text.replaceFrom_append_of_absent _ (Text.absent_of_separator hopening hc hnot)
  | placeholder operand =>
      by_cases heq : operand = name
      · subst heq
        have hne : (placeholder operand).toList ≠ [] := by simp [placeholder, placeholderOpening]
        rw [Argument.replace, if_pos rfl]
        exact Text.replaceFrom_occurrence _ hne
      · rw [Argument.replace, if_neg heq]
        refine Text.replaceFrom_append_of_absent _ ?_
        have htail : ¬ placeholderOpening.toList <:+: "nresolved(".toList ++
            (Text.quote operand).toList := not_opening_infix_quote (by decide) h
        have hafter : ¬ placeholderOpening.toList <:+: "nresolved(".toList ++
            (Text.quote operand).toList ++ [')'] := by
          rw [Text.infix_append_cons_iff (by decide)]
          exact fun hoccurs => hoccurs.elim htail (by decide)
        have hcut : (Argument.placeholder operand).text.toList =
            'u' :: ("nresolved(".toList ++ (Text.quote operand).toList ++ [')']) := by
          rw [Argument.text, toList_placeholder]
          rfl
        rw [hcut]
        refine Text.Absent.cons (fun hbegins => ?_) ?_
        · rcases hbegins with ⟨rest, hrest⟩
          rw [← hcut] at hrest
          exact heq (placeholder_append_inj hrest).1.symm
        · exact Text.absent_of_separator hopening hc (not_quotedOpening_of_not_opening hafter)

/-- Replacing in a list of arguments replaces in each of them, if none of them hides a
placeholder. -/
theorem replacedChars_arguments {arguments : List Argument}
    (h : ∀ argument ∈ arguments, argument.Harmless) :
    replacedChars name new (argumentChars arguments)
      = argumentChars (arguments.map (Argument.replace name new)) := by
  induction arguments with
  | nil =>
      have hparen : ¬ quotedOpening <:+: [')'] := by decide
      have hcut : argumentChars [] = [')'] ++ ';' :: [] := rfl
      rw [List.map_nil, hcut, replacedChars_separator name new (by decide) hparen]
      rfl
  | cons argument arguments ih =>
      rcases exists_cons_argumentChars arguments with ⟨c, back, hseparator, hback⟩
      have hc : c ∉ quotedOpening := by
        rcases hseparator with rfl | rfl
        all_goals decide
      have hcomma : ¬ quotedOpening <:+: [','] := by decide
      have hcut (a : Argument) (more : List Argument) : argumentChars (a :: more) =
          [','] ++ ' ' :: (a.text.toList ++ argumentChars more) := argumentChars_cons a more
      rw [hcut, replacedChars_separator name new (by decide) hcomma, hback,
        replacedChars_argument name new (h argument List.mem_cons_self) hc, ← hback,
        ih fun a ha => h a (List.mem_cons_of_mem _ ha), List.map_cons, hcut]

end Replacing

/-- Replacing a placeholder in the text of a statement replaces it among the arguments and does
nothing else. -/
theorem replaceAll_statementText {identifier op node : String} {arguments : List Argument}
    (hidentifier : '(' ∉ identifier.toList)
    (hop : ¬ placeholderOpening.toList <:+: op.toList)
    (hnode : ¬ placeholderOpening.toList <:+: node.toList)
    (harguments : ∀ argument ∈ arguments, argument.Harmless) (name new : String) :
    Text.replaceAll (placeholder name) new
        (statementText identifier op node (arguments.map Argument.text))
      = statementText identifier op node
          ((arguments.map (Argument.replace name new)).map Argument.text) := by
  have hpattern : (placeholder name).isEmpty = false := by
    simp [placeholder, placeholderOpening]
  have hreplaced := replacedChars_head name new hidentifier hop hnode (argumentChars arguments)
  rw [replacedChars_arguments name new harguments, ← toList_statementText,
    ← toList_statementText] at hreplaced
  rw [Text.replaceAll, hpattern, if_neg Bool.false_ne_true]
  exact (congrArg String.ofList hreplaced).trans String.ofList_toList

end LayerNet
