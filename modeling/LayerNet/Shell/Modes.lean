import LayerNet.Text.Lines

/-!
# Modes of files

What the classes of users may do with a file, and changes of it.

Main definition: `changeModes`, the mode behind changes such as `u=rw,g-w`.
-/

namespace LayerNet.Shell

/-- The bits of a mode in which one change such as `g-w` is carried out. -/
def changeMode (mode : Nat) (change : List Char) : Option Nat :=
  let users := change.takeWhile ['u', 'g', 'o', 'a'].contains
  let isFor (user : Char) : Bool := users.isEmpty || users.contains 'a' || users.contains user
  let spread (bits : Nat) : Nat :=
    (if isFor 'u' then 64 * bits else 0) + (if isFor 'g' then 8 * bits else 0)
      + (if isFor 'o' then bits else 0)
  match change.drop users.length with
  | sign :: letters =>
    let bits := letters.foldl
      (fun bits c => bits ||| (if c = 'r' then 4 else if c = 'w' then 2 else 1)) 0
    if !letters.all ['r', 'w', 'x', 'X'].contains then none
    else if sign = '+' then some (mode ||| spread bits)
    else if sign = '-' then some (mode &&& (511 ^^^ spread bits))
    else if sign = '=' then some ((mode &&& (511 ^^^ spread 7)) ||| spread bits)
    else none
  | [] => none

/-- The bits of a mode in which changes such as `u=rw,g-w` are carried out. -/
def changeModes (mode : Nat) (text : String) : Option Nat :=
  (Text.splitAtChar ',' text).foldlM (fun mode change => changeMode mode change.toList) mode

end LayerNet.Shell
