import LayerNet.Shell.Regex.Basic
import Std.Data.HashSet

/-!
# Searching for expressions

An expression is laid out as a program of instructions.  All ways through it are followed at once
along a text, so that the work grows with the length of the text times that of the program.  Of the
places where the expression is found the first one counts, and of those that begin there the
longest. What the groups have found is told by the first way that leads there.

Main definitions:

- `RegexProgram`: expressions laid out as instructions.
- `RegexProgram.search`: the first and longest part of a text that an expression matches.
-/

namespace LayerNet.Shell

/-! ## Programs -/

/-- An instruction: takes a character of a set, goes on at one of two places or at another one,
notes the place in the text, asks something of it, takes what a group has found, or is done. -/
inductive RegexInstruction where
  | char (members : Array Bool)
  | split (first second : Nat)
  | jump (target : Nat)
  | save (slot : Nat)
  | place (place : Place)
  | backReference (number : Nat)
  | accept

instance : Inhabited RegexInstruction :=
  ⟨.accept⟩

/-- An expression laid out as instructions. -/
structure RegexProgram where
  code : Array RegexInstruction
  groups : Nat
  hasBackReferences : Bool
  ignoreCase : Bool := false
  /-- whether lines begin and end inside of a text -/
  perLine : Bool := false

/-- A character with the other case. -/
def otherCase (c : Char) : Char :=
  if c.isUpper then c.toLower else c.toUpper

namespace Regex

/-- The highest number of a group. -/
def groupCount : Regex → Nat
  | both a b | either a b => max a.groupCount b.groupCount
  | repeated a _ _ => a.groupCount
  | group n a => max n a.groupCount
  | _ => 0

/-- Whether there is a reference to what a group has found. -/
def refersBack : Regex → Bool
  | both a b | either a b => a.refersBack || b.refersBack
  | repeated a _ _ | group _ a => a.refersBack
  | backReference _ => true
  | _ => false

/-- For each character whether it is in a set, with any case if the case is passed over. -/
def membersOf (ignoreCase : Bool) (set : CharSet) : Array Bool :=
  let listed := { set with negated := false }
  (Array.range 256).map fun n =>
    let c := Char.ofNat n
    let holds := listed.holds c || (ignoreCase && listed.holds (otherCase c))
    holds != set.negated

/-- Lays out code that may be left out, several times inside of each other. -/
def emitOptional (emit : Array RegexInstruction → Array RegexInstruction) :
    Nat → Array RegexInstruction → Array RegexInstruction
  | 0, code => code
  | n + 1, code =>
    let start := code.size
    let code := emitOptional emit n (emit (code.push .accept))
    code.set! start (.split (start + 1) code.size)

/-- Lays out code several times. -/
def emitTimes (emit : Array RegexInstruction → Array RegexInstruction) :
    Nat → Array RegexInstruction → Array RegexInstruction
  | 0, code => code
  | n + 1, code => emitTimes emit n (emit code)

/-- Lays out an expression behind other code. -/
def emit (ignoreCase : Bool) : Regex → Array RegexInstruction → Array RegexInstruction
  | nothing, code => code
  | one set, code => code.push (.char (membersOf ignoreCase set))
  | place p, code => code.push (.place p)
  | both a b, code => b.emit ignoreCase (a.emit ignoreCase code)
  | either a b, code =>
    let start := code.size
    let code := a.emit ignoreCase (code.push .accept)
    let middle := code.size
    let code := (code.push .accept).set! start (.split (start + 1) (middle + 1))
    let code := b.emit ignoreCase code
    code.set! middle (.jump code.size)
  | repeated a least most, code =>
    let code := emitTimes (a.emit ignoreCase) least code
    match most with
    | some most => emitOptional (a.emit ignoreCase) (most - least) code
    | none =>
      let start := code.size
      let code := (a.emit ignoreCase (code.push .accept)).push (.jump start)
      code.set! start (.split (start + 1) code.size)
  | group n a, code => (a.emit ignoreCase (code.push (.save (2 * n)))).push (.save (2 * n + 1))
  | backReference n, code => code.push (.backReference n)

/-- An expression laid out as a program. -/
def compile (r : Regex) (ignoreCase perLine : Bool) : RegexProgram where
  code := (r.emit ignoreCase #[]).push .accept
  groups := r.groupCount
  hasBackReferences := r.refersBack
  ignoreCase
  perLine

end Regex

/-- A part of a text that an expression matches, and the parts that its groups match. -/
structure RegexFound where
  start : Nat
  stop : Nat
  groups : Array (Option (Nat × Nat)) := #[]

namespace RegexProgram

/-! ## Places -/

/-- Whether a character belongs to words. -/
def isWordChar (c : Char) : Bool :=
  c.isAlphanum || c = '_'

/-- Whether a place of a text is what is asked of it. -/
def isAt (p : RegexProgram) (text : Array Char) (i : Nat) (place : Place) : Bool :=
  let before := if i = 0 then none else text[i - 1]?
  let after := text[i]?
  let wordBefore := (before.map isWordChar).getD false
  let wordAfter := (after.map isWordChar).getD false
  match place with
  | .lineStart => before.isNone || (p.perLine && before = some '\n')
  | .lineEnd => after.isNone || (p.perLine && after = some '\n')
  | .textStart => before.isNone
  | .textEnd => after.isNone
  | .wordStart => !wordBefore && wordAfter
  | .wordEnd => wordBefore && !wordAfter
  | .wordEdge => wordBefore != wordAfter
  | .noWordEdge => wordBefore == wordAfter
  | .noWordBefore => !wordBefore
  | .noWordAfter => !wordAfter

/-! ## Following all ways at once -/

/-- The ways through a program at one place of a text: the instructions that were met, those that
wait for a character, with the place where each way began, and the best way that is complete. -/
structure Ways where
  met : Array Bool
  waiting : Array (Nat × Nat) := #[]
  best : Option (Nat × Nat)

/-- Whether a way that begins and ends somewhere is better than another one. -/
def isBetter (start stop : Nat) : Option (Nat × Nat) → Bool
  | none => true
  | some (s, e) => start < s || (start = s && e < stop)

/-- Follows the instructions that take no character. -/
def follow (p : RegexProgram) (text : Array Char) (i start : Nat) :
    Nat → List Nat → Ways → Ways
  | 0, _, ways => ways
  | _, [], ways => ways
  | fuel + 1, pc :: todo, ways =>
    if ways.met[pc]?.getD true then p.follow text i start fuel todo ways
    else
      let ways := { ways with met := ways.met.set! pc true }
      match p.code[pc]?.getD .accept with
      | .char _ =>
        let ways := { ways with waiting := ways.waiting.push (pc, start) }
        p.follow text i start fuel todo ways
      | .split first second => p.follow text i start fuel (first :: second :: todo) ways
      | .jump target => p.follow text i start fuel (target :: todo) ways
      | .save _ => p.follow text i start fuel ((pc + 1) :: todo) ways
      | .place place =>
        let todo := if p.isAt text i place then (pc + 1) :: todo else todo
        p.follow text i start fuel todo ways
      | .backReference _ => p.follow text i start fuel todo ways
      | .accept =>
        let best := if isBetter start i ways.best then some (start, i) else ways.best
        p.follow text i start fuel todo { ways with best }

/-- Follows all ways from a place of a text on; `seeds` are the instructions that they have come to,
those that began first in front.  New ways begin as long as none is complete. -/
def sweep (p : RegexProgram) (text : Array Char) :
    Nat → Nat → Array (Nat × Nat) → Option (Nat × Nat) → Option (Nat × Nat)
  | 0, _, _, best => best
  | fuel + 1, i, seeds, best =>
    let isOpen (start : Nat) : Bool :=
      match best with
      | some (s, _) => start ≤ s
      | none => true
    let seeds := seeds.filter fun seed => isOpen seed.2
    let seeds := if best.isNone then seeds.push (0, i) else seeds
    if seeds.isEmpty then best
    else
      let empty : Ways := { met := Array.replicate p.code.size false, best }
      let ways := seeds.foldl
        (fun ways seed => p.follow text i seed.2 (3 * p.code.size + 3) [seed.1] ways) empty
      match text[i]? with
      | none => ways.best
      | some c =>
        let next := ways.waiting.filterMap fun (pc, start) =>
          match p.code[pc]?.getD .accept with
          | .char members => if members[c.toNat]?.getD false then some (pc + 1, start) else none
          | _ => none
        p.sweep text fuel (i + 1) next ways.best

/-! ## Following one way after another -/

/-- A way that is still to be followed: the instruction, the place in the text, and what the groups
have noted. -/
structure Way where
  pc : Nat
  place : Nat
  slots : Array (Option Nat)

/-- The ways that go on behind one instruction, the first one to be followed in front. -/
def stepsFrom (p : RegexProgram) (text : Array Char) (w : Way) : List Way :=
  let onward (place : Nat) : List Way := [{ w with pc := w.pc + 1, place }]
  match p.code[w.pc]?.getD .accept with
  | .char members =>
    match text[w.place]? with
    | some c => if members[c.toNat]?.getD false then onward (w.place + 1) else []
    | none => []
  | .split first second => [{ w with pc := first }, { w with pc := second }]
  | .jump target => [{ w with pc := target }]
  | .save slot => [{ w with pc := w.pc + 1, slots := w.slots.set! slot (some w.place) }]
  | .place place => if p.isAt text w.place place then onward w.place else []
  | .backReference number =>
    match w.slots[2 * number]?.getD none, w.slots[2 * number + 1]?.getD none with
    | some start, some stop =>
      let found := text.extract start stop
      let here := text.extract w.place (w.place + found.size)
      let same := if p.ignoreCase then
          found.map Char.toLower == here.map Char.toLower
        else found == here
      if same then onward (w.place + found.size) else []
    | _, _ => []
  | .accept => []

/-- Whether a way has come to its end. -/
def Way.isDone (w : Way) (p : RegexProgram) : Bool :=
  match p.code[w.pc]? with
  | some .accept => true
  | _ => false

/-- The first way that ends at a place; no instruction is met twice at one place of the text. -/
def firstWayTo (p : RegexProgram) (text : Array Char) (stop : Nat) :
    Nat → Std.HashSet (Nat × Nat) → List Way → Option Way
  | 0, _, _ => none
  | _, _, [] => none
  | fuel + 1, met, w :: todo =>
    if met.contains (w.pc, w.place) then p.firstWayTo text stop fuel met todo
    else if w.isDone p && w.place = stop then some w
    else
      let met := met.insert (w.pc, w.place)
      p.firstWayTo text stop fuel met (p.stepsFrom text w ++ todo)

/-- The longest of all ways, of several the first one. -/
def longestWay (p : RegexProgram) (text : Array Char) :
    Nat → Std.HashSet (Nat × Nat × List (Option Nat)) → Option Way → List Way → Option Way
  | 0, _, best, _ => best
  | _, _, best, [] => best
  | fuel + 1, met, best, w :: todo =>
    let key := (w.pc, w.place, w.slots.toList)
    if met.contains key then p.longestWay text fuel met best todo
    else if w.isDone p then
      let isLonger := match best with
        | some b => b.place < w.place
        | none => true
      if isLonger && w.place = text.size then some w
      else p.longestWay text fuel met (if isLonger then some w else best) todo
    else p.longestWay text fuel (met.insert key) best (p.stepsFrom text w ++ todo)

/-- The way that begins at a place of a text. -/
def wayFrom (p : RegexProgram) (start : Nat) : Way where
  pc := 0
  place := start
  slots := Array.replicate (2 * p.groups + 2) none

/-- What a way has found. -/
def Way.found (w : Way) (start : Nat) : RegexFound where
  start
  stop := w.place
  groups := (Array.range (w.slots.size / 2)).map fun n =>
    match w.slots[2 * n]?.getD none, w.slots[2 * n + 1]?.getD none with
    | some start, some stop => some (start, stop)
    | _, _ => none

/-- The most steps along ways of which each needs a memory of its own. -/
def maxSteps : Nat := 400000

/-- The first place from one on where a way comes to its end. -/
def searchEach (p : RegexProgram) (text : Array Char) : Nat → Nat → Option RegexFound
  | 0, _ => none
  | fuel + 1, start =>
    match p.longestWay text maxSteps {} none [p.wayFrom start] with
    | some w => some (w.found start)
    | none => if text.size ≤ start then none else p.searchEach text fuel (start + 1)

/-- The first and longest part of a text, from a place on, that an expression matches. -/
def search (p : RegexProgram) (text : Array Char) (start : Nat) : Option RegexFound :=
  if text.size < start then none
  else if p.hasBackReferences then p.searchEach text (text.size - start + 1) start
  else
    match p.sweep text (text.size - start + 1) start #[] none with
    | none => none
    | some (start, stop) =>
      if p.groups = 0 then some { start, stop }
      else
        let steps := 3 * p.code.size * (stop - start + 1) + 3
        match p.firstWayTo text stop steps {} [p.wayFrom start] with
        | some w => some (w.found start)
        | none => some { start, stop }

end RegexProgram

end LayerNet.Shell
