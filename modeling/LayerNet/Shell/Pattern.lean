import LayerNet.Shell.CharSet

/-!
# Patterns of the shell

The patterns that the names of files and the words of a choice are matched with as a whole.  A
pattern is followed through a text by what may be left of it.

Main definitions:

- `Glyph`: a character that may be quoted, so that it stands for itself.
- `NamePattern`: patterns for whole texts.
- `NamePattern.remainders`: what may be left of a text behind a pattern.
-/

namespace LayerNet.Shell

/-- A character of an expanded word, and whether it is quoted. -/
structure Glyph where
  char : Char
  quoted : Bool
deriving DecidableEq, Repr

namespace Glyph

/-- The characters of glyphs. -/
def text (glyphs : List Glyph) : List Char :=
  glyphs.map Glyph.char

/-- Whether a glyph is a given character that is not quoted. -/
def isBare (g : Glyph) (c : Char) : Bool :=
  g.char = c && !g.quoted

end Glyph

/-! ## Sets in patterns -/

/-- The class whose name and closing signs stand in front of glyphs, and what follows. -/
def classInFront? (gs : List Glyph) : Option (CharClass × List Glyph) :=
  let name := gs.takeWhile fun g => g.char.isAlpha
  match gs.drop name.length with
  | colon :: close :: rest =>
    if colon.isBare ':' && close.isBare ']' then
      (CharClass.ofName? (String.ofList (Glyph.text name))).map fun cls => (cls, rest)
    else none
  | _ => none

/-- Reads the members of a set up to behind its closing bracket. -/
def readMembers : Nat → CharSet → Bool → List Glyph → Option (CharSet × List Glyph)
  | 0, _, _, _ => none
  | fuel + 1, set, isFirst, gs =>
    match gs with
    | [] => none
    | g :: gs =>
      if g.isBare ']' && !isFirst then some (set, gs)
      else
        let cls? := if g.isBare '[' then
            match gs with
            | colon :: rest => if colon.isBare ':' then classInFront? rest else none
            | [] => none
          else none
        match cls?, gs with
        | some (cls, rest), _ =>
          readMembers fuel { set with classes := cls :: set.classes } false rest
        | none, dash :: high :: rest =>
          if dash.isBare '-' && !high.isBare ']' then
            readMembers fuel (set.withRange g.char high.char) false rest
          else readMembers fuel (set.withChar g.char) false gs
        | none, gs => readMembers fuel (set.withChar g.char) false gs

/-- Reads a set from behind its opening bracket. -/
def readSet (gs : List Glyph) : Option (CharSet × List Glyph) :=
  match gs with
  | g :: rest =>
    if g.isBare '^' || g.isBare '!' then readMembers (gs.length + 1) { negated := true } true rest
    else readMembers (gs.length + 1) {} true gs
  | [] => none

/-! ## Patterns for whole texts -/

/-- A part of a pattern for whole texts. -/
inductive NamePart where
  | char (c : Char)
  | one
  | many
  | oneOf (set : CharSet)
deriving DecidableEq, Repr

/-- A pattern for whole texts. -/
abbrev NamePattern := List NamePart

/-- All ends of a list, the longest first. -/
def endings {α : Type} : List α → List (List α)
  | [] => [[]]
  | a :: as => (a :: as) :: endings as

/-- What may be left behind one part, of texts that may be left before it.  Both lists go from the
longest to the shortest. -/
def NamePart.remainders (part : NamePart) (texts : List (List Char)) : List (List Char) :=
  let behindOne (test : Char → Bool) : List (List Char) :=
    texts.filterMap fun text =>
      match text with
      | c :: cs => if test c then some cs else none
      | [] => none
  match part with
  | .char p => behindOne fun c => c = p
  | .one => behindOne fun _ => true
  | .oneOf set => behindOne set.holds
  | .many => (texts.head?.map endings).getD []

namespace NamePattern

/-- The pattern that glyphs write. -/
def ofGlyphs : Nat → List Glyph → NamePattern
  | 0, _ => []
  | _ + 1, [] => []
  | fuel + 1, g :: gs =>
    if g.quoted then .char g.char :: ofGlyphs fuel gs
    else if g.char = '*' then .many :: ofGlyphs fuel gs
    else if g.char = '?' then .one :: ofGlyphs fuel gs
    else if g.char = '[' then
      match readSet gs with
      | some (set, rest) => .oneOf set :: ofGlyphs fuel rest
      | none => .char '[' :: ofGlyphs fuel gs
    else .char g.char :: ofGlyphs fuel gs

/-- Glyphs without the backslashes that are not quoted, which protect what follows them. -/
def withProtected : List Glyph → List Glyph
  | [] => []
  | [g] => [g]
  | g :: h :: gs =>
    if g.isBare '\\' then { h with quoted := true } :: withProtected gs
    else g :: withProtected (h :: gs)

/-- The pattern that glyphs write. -/
def read (glyphs : List Glyph) : NamePattern :=
  ofGlyphs glyphs.length (withProtected glyphs)

/-- The pattern that a text writes. -/
def ofText (text : List Char) : NamePattern :=
  read (text.map fun c => ⟨c, false⟩)

/-- What may be left of a text behind a pattern, from the longest to the shortest. -/
def remainders (p : NamePattern) (text : List Char) : List (List Char) :=
  p.foldl (fun texts part => part.remainders texts) [text]

/-- Whether a pattern matches all of a text. -/
def matchesAll (p : NamePattern) (text : List Char) : Bool :=
  (p.remainders text).any List.isEmpty

/-- Whether a pattern holds more than literal characters. -/
def isPattern (p : NamePattern) : Bool :=
  p.any fun part =>
    match part with
    | .char _ => false
    | _ => true

/-- A text without the shortest or longest beginning that a pattern matches. -/
def withoutFront (p : NamePattern) (longest : Bool) (text : List Char) : List Char :=
  let kept := p.remainders text
  (if longest then kept.getLast? else kept.head?).getD text

/-- A text without the shortest or longest end that a pattern matches. -/
def withoutBack (p : NamePattern) (longest : Bool) (text : List Char) : List Char :=
  let ends := if longest then endings text else (endings text).reverse
  match ends.find? p.matchesAll with
  | some back => text.take (text.length - back.length)
  | none => text

end NamePattern

end LayerNet.Shell
