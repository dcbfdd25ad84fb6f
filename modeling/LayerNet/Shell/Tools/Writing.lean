import LayerNet.Shell.Format
import LayerNet.Shell.Testing
import LayerNet.Shell.Tools.Options

/-!
# Tools that commands of the shell have the names of

Where another program starts a command such as `echo`, it is a tool, with its own options and its
own words for what is wrong.

Main definitions:

- `echoTool`, `printfTool`, `testTool`: the tools.
-/

namespace LayerNet.Shell

/-- The letters of an argument that is a group of options of `echo`. -/
def echoLetters? (argument : String) : Option (List Char) :=
  match argument.toList with
  | '-' :: c :: cs => if (c :: cs).all ['n', 'e', 'E'].contains then some (c :: cs) else none
  | _ => none

/-- Writes arguments with blanks between them; options leave the line open, or replace escapes. -/
def echoTool (_tool : String) (arguments : List String) : Run Nat := do
  let operands := arguments.dropWhile fun a => (echoLetters? a).isSome
  let given := (arguments.take (arguments.length - operands.length)).filterMap echoLetters?
  let letters := given.flatten
  let text := (" ".intercalate operands).toList
  let replaces := (letters.filter (· ≠ 'n')).getLast? = some 'e'
  let (text, stops) := if replaces then Escape.replacedWide false text else (text, false)
  outChars (if letters.contains 'n' || stops then text else text ++ ['\n'])
  return 0

/-- Writes arguments in a format. -/
def printfTool (tool : String) (arguments : List String) : Run Nat := do
  let operands := if arguments.head? = some "--" then arguments.tail else arguments
  match operands with
  | [] =>
    complain (tool ++ ": missing operand")
    complainOfUsage tool ""
    return 1
  | format :: rest =>
    let f := Formatted.ofArguments .tool format rest
    outChars f.text.reverse
    for message in f.messages do complain (tool ++ ": " ++ message)
    return if f.fails then 1 else 0

/-- Tests its arguments. -/
def testTool (inBrackets : Bool) (tool : String) : List String → Run Nat :=
  testCommand inBrackets fun count fault => complain (tool ++ ": " ++ fault.toolMessage count)

end LayerNet.Shell
