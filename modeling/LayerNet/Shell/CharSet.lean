/-!
# Sets of characters

The sets that patterns and expressions write in brackets: ranges of characters and named classes,
or all characters but those.  The characters are bytes; those of a named class are ASCII.

Main definitions:

- `CharClass`: the named classes.
- `CharSet`: sets of characters, with `CharSet.holds`.
-/

namespace LayerNet.Shell

/-- The named classes of characters. -/
inductive CharClass where
  | alpha
  | digit
  | alnum
  | upper
  | lower
  | space
  | blank
  | punct
  | print
  | graph
  | cntrl
  | xdigit
deriving DecidableEq, Repr

namespace CharClass

/-- The class of a name. -/
def ofName? : String → Option CharClass
  | "alpha" => some alpha
  | "digit" => some digit
  | "alnum" => some alnum
  | "upper" => some upper
  | "lower" => some lower
  | "space" => some space
  | "blank" => some blank
  | "punct" => some punct
  | "print" => some print
  | "graph" => some graph
  | "cntrl" => some cntrl
  | "xdigit" => some xdigit
  | _ => none

/-- Whether a character is in a class. -/
def holds (c : Char) : CharClass → Bool
  | alpha => c.isAlpha
  | digit => c.isDigit
  | alnum => c.isAlphanum
  | upper => c.isUpper
  | lower => c.isLower
  | space => c = ' ' || (9 ≤ c.toNat && c.toNat ≤ 13)
  | blank => c = ' ' || c = '\t'
  | punct => 33 ≤ c.toNat && c.toNat ≤ 126 && !c.isAlphanum
  | print => 32 ≤ c.toNat && c.toNat ≤ 126
  | graph => 33 ≤ c.toNat && c.toNat ≤ 126
  | cntrl => c.toNat < 32 || c.toNat = 127
  | xdigit => c.isDigit || ('a' ≤ c && c ≤ 'f') || ('A' ≤ c && c ≤ 'F')

/-- The characters of a class, in order. -/
def members (cls : CharClass) : List Char :=
  ((List.range 128).map Char.ofNat).filter fun c => cls.holds c

end CharClass

/-- A set of characters: ranges and named classes, or all others. -/
structure CharSet where
  negated : Bool := false
  ranges : List (Char × Char) := []
  classes : List CharClass := []
deriving DecidableEq, Repr

namespace CharSet

/-- Whether a character is in a set. -/
def holds (set : CharSet) (c : Char) : Bool :=
  let found := set.ranges.any (fun r => r.1 ≤ c && c ≤ r.2) || set.classes.any (·.holds c)
  found != set.negated

/-- A set with one more range. -/
def withRange (set : CharSet) (low high : Char) : CharSet :=
  { set with ranges := (low, high) :: set.ranges }

/-- A set with one more character. -/
def withChar (set : CharSet) (c : Char) : CharSet :=
  set.withRange c c

end CharSet

end LayerNet.Shell
