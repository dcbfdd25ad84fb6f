import LayerNet.Shell.Pattern
import LayerNet.Shell.State

/-!
# Fields

What a word expands to is a row of segments.  Only in some of them characters separate fields: what
takes the place of an expansion that is not quoted is split, a literal text is not.

Main definitions:

- `Segment`: a part of an expanded word.
- `breakUp`: the fields that segments make.
- `argumentsOfField`: the names of files that a field stands for.
-/

namespace LayerNet.Shell

/-! ## Segments -/

/-- A part of an expanded text: a character, a mark that keeps a field although it is empty, or a
gap, where a field ends in any case. -/
inductive Item where
  | glyph (glyph : Glyph)
  | mark
  | gap
deriving DecidableEq, Repr

/-- Where a segment is split: nowhere, at separators, or at gaps alone. -/
inductive Splitting where
  | none
  | separators
  | gaps
deriving DecidableEq, Repr

/-- A part of an expanded word. -/
structure Segment where
  splitting : Splitting
  items : List Item
deriving DecidableEq, Repr

/-- The items of characters. -/
def itemsOf (quoted : Bool) (chars : List Char) : List Item :=
  chars.map fun c => .glyph ⟨c, quoted⟩

/-- The glyphs of items. -/
def glyphsOf (items : List Item) : List Glyph :=
  items.filterMap fun item =>
    match item with
    | .glyph glyph => some glyph
    | _ => none

/-- The glyphs of segments. -/
def glyphsOfSegments (segments : List Segment) : List Glyph :=
  segments.flatMap fun segment => glyphsOf segment.items

/-- The text of segments that are not split. -/
def textOf (segments : List Segment) : String :=
  String.ofList (Glyph.text (glyphsOfSegments segments))

/-! ## Splitting -/

/-- How far segments are split: the fields that are complete, in reverse, the items of the one that
is open, in reverse, and the same items less those that are left out if nothing more follows. -/
structure Splitter where
  fields : List (List Item) := []
  field : List Item := []
  /-- what is kept of the field if it ends here; only once no more fields are wanted -/
  kept : Option (List Item) := none
  /-- whether a blank has ended the last field -/
  afterBlank : Bool := false
  /-- how many fields are wanted, if not all; the last one is not split -/
  wanted : Option Nat := none

namespace Splitter

/-- Whether an item separates fields in a segment, and whether it does so as a blank. -/
def role (separators : List Char) (splitting : Splitting) : Item → Bool × Bool
  | .gap => (true, true)
  | .mark => (false, false)
  | .glyph g =>
    let separates := splitting = .separators && separators.contains g.char
    (separates, separates && [' ', '\t', '\n'].contains g.char)

/-- Splits on at one item of a segment.  Gaps leave no blanks behind, and neither does the segment
behind such gaps. -/
def step (separators : List Char) (splitting : Splitting) (behindGaps : Bool) (s : Splitter)
    (item : Item) : Splitter :=
  let (separates, isBlank) := role separators splitting item
  if s.wanted = some 0 then
    let kept := if isBlank then some (s.kept.getD s.field)
      else if separates && s.afterBlank then s.kept
      else none
    { s with
      kept
      field := item :: s.field
      afterBlank := s.afterBlank && isBlank }
  else if s.afterBlank && isBlank then { s with field := [] }
  else if s.afterBlank && separates then { s with field := [], afterBlank := false }
  else if separates then
    let afterBlank := isBlank && !(behindGaps || splitting = .gaps)
    if s.field.isEmpty && afterBlank then { s with afterBlank := false }
    else if s.wanted = some 1 then
      { s with wanted := some 0, kept := some s.field, field := item :: s.field, afterBlank }
    else
      { s with
        fields := s.field :: s.fields
        field := []
        afterBlank
        wanted := s.wanted.map (· - 1) }
  else { s with field := item :: s.field, afterBlank := false }

/-- Splits on at one segment; `behindGaps` tells whether the last one that is split at all was split
at gaps. -/
def segment (separators : List Char) (s : Splitter × Bool) (segment : Segment) : Splitter × Bool :=
  match segment.splitting with
  | .none => ({ s.1 with field := segment.items.reverse ++ s.1.field }, s.2)
  | splitting =>
    let begun := { s.1 with afterBlank := false }
    (segment.items.foldl (step separators splitting s.2) begun, splitting = .gaps)

end Splitter

/-- The fields that segments make, no more than are wanted. -/
def breakUp (separators : List Char) (wanted : Option Nat) (segments : List Segment) :
    List (List Glyph) :=
  let (s, endsAtGaps) := segments.foldl (Splitter.segment separators) ({ wanted }, false)
  let last := s.kept.getD s.field
  let fields := if last.isEmpty && !endsAtGaps then s.fields else last :: s.fields
  (fields.map fun field => glyphsOf field.reverse).reverse

/-! ## Names of files -/

/-- The parts of a path that glyphs write. -/
def splitGlyphs (part : List Glyph) : List Glyph → List (List Glyph)
  | [] => [part.reverse]
  | g :: gs =>
    if g.char = '/' then part.reverse :: splitGlyphs [] gs else splitGlyphs (g :: part) gs

/-- The names of the entries of a directory. -/
def entriesOf (files : FileSystem) (path : String) : List String :=
  match files.locate (toText path) with
  | .ok (_, node) => node.entries.map fun e => fromText e.1
  | .error _ => []

/-- The paths that parts of a pattern match, behind a path that was found. -/
def matchingPaths (files : FileSystem) (found : String) : List (List Glyph) → List String
  | [] => []
  | part :: parts =>
    let pattern := NamePattern.read part
    let names : List String :=
      if pattern.isPattern then
        let entries := entriesOf files (if found.isEmpty then "." else found)
        let showsHidden := (part.head?.map Glyph.char) == some '.'
        let entries := if showsHidden then "." :: ".." :: entries
          else entries.filter fun n => !n.startsWith "."
        entries.filter fun n => pattern.matchesAll n.toList
      else [String.ofList (Glyph.text part)]
    names.flatMap fun name =>
      let path := found ++ name
      match parts with
      | [] => if files.contains (toText path) then [path] else []
      | parts =>
        if name.isEmpty || files.isDirectory (toText path) then
          matchingPaths files (path ++ "/") parts
        else []

/-- The arguments that a field stands for: the files that it matches, or itself. -/
def argumentsOfField (s : State) (field : List Glyph) : List String :=
  let itself := String.ofList (Glyph.text field)
  if s.options.contains 'f' || !(NamePattern.read field).isPattern then [itself]
  else
    match matchingPaths s.files "" (splitGlyphs [] field) with
    | [] => [itself]
    | paths => paths.mergeSort fun a b => !decide (b < a)

end LayerNet.Shell
