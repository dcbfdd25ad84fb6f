import LayerNet.Shell.Tools.Characters
import LayerNet.Shell.Tools.Columns
import LayerNet.Shell.Tools.Comparing
import LayerNet.Shell.Tools.Counting
import LayerNet.Shell.Tools.Dumps
import LayerNet.Shell.Tools.Editing.Cycle
import LayerNet.Shell.Tools.Expressions
import LayerNet.Shell.Tools.Files
import LayerNet.Shell.Tools.Listings
import LayerNet.Shell.Tools.Numbers
import LayerNet.Shell.Tools.Paths
import LayerNet.Shell.Tools.Searching
import LayerNet.Shell.Tools.Sorting
import LayerNet.Shell.Tools.Streams
import LayerNet.Shell.Tools.Writing

/-!
# The tools

Main definition: `tool?`, the tool of a name.
-/

namespace LayerNet.Shell

/-- A tool: from the name that it is called by and its arguments to its status. -/
abbrev Tool := String → List String → Run Nat

/-- A tool that says the same whatever it is asked. -/
def saying (text : String) : Tool := fun _ _ => do
  out (text ++ "\n")
  return 0

/-- Writes its arguments, as numbers or names of the user. -/
def idTool : Tool := fun tool arguments => do
  withOptions tool 1 (OptionTable.ofText "uGgnr" [("user", 'u'), ("name", 'n'), ("group", 'g')])
    arguments fun o => do
    let text := if !o.hasAny ['u', 'g', 'G'] then "uid=0(root) gid=0(root) groups=0(root)"
      else if o.has 'n' then "root"
      else "0"
    out (text ++ "\n")
    return 0

/-- Writes what the system is. -/
def unameTool : Tool := fun tool arguments => do
  withOptions tool 1 (OptionTable.ofText "asnrvmpio" [("kernel-name", 's'), ("machine", 'm')])
    arguments fun o => do
    let parts := (if o.has 's' || o.given.isEmpty then ["Linux"] else [])
      ++ (if o.hasAny ['m', 'p', 'i'] then ["x86_64"] else [])
      ++ (if o.has 'o' then ["GNU/Linux"] else [])
    out (" ".intercalate parts ++ "\n")
    return 0

/-- A tool that does nothing but give a status. -/
def giving (status : Nat) : Tool := fun _ _ => return status

/-- The tools by their names. -/
def toolsByName : Table Tool :=
  [("[", testTool true), ("arch", saying "x86_64"), ("base32", baseTool .small),
    ("base64", baseTool .large), ("basename", basenameTool), ("cat", catTool), ("chmod", chmodTool),
    ("cksum", cksumTool), ("cmp", cmpTool), ("comm", commTool), ("cp", cpTool), ("cut", cutTool),
    ("dd", ddTool), ("diff", diffTool), ("dirname", dirnameTool), ("echo", echoTool),
    ("egrep", grepTool .extended), ("expand", expandTool), ("expr", exprTool),
    ("factor", factorTool), ("false", giving 1), ("fgrep", grepTool .fixed), ("fold", foldTool),
    ("grep", grepTool .basic), ("groups", saying "root"), ("head", headTool), ("id", idTool),
    ("join", joinTool), ("ln", lnTool), ("ls", lsTool), ("mkdir", mkdirTool),
    ("mktemp", mktempTool), ("mv", mvTool), ("nl", nlTool), ("nproc", saying "4"), ("od", odTool),
    ("paste", pasteTool), ("printf", printfTool), ("readlink", readlinkTool),
    ("realpath", realpathTool), ("rev", revTool), ("rm", rmTool), ("rmdir", rmdirTool),
    ("sed", sedTool), ("seq", seqTool), ("sort", sortTool), ("split", splitTool),
    ("stat", statTool), ("tac", tacTool), ("tail", tailTool), ("sync", giving 0), ("tee", teeTool),
    ("test", testTool false), ("touch", touchTool), ("tr", trTool), ("true", giving 0),
    ("truncate", truncateTool), ("uname", unameTool), ("unexpand", unexpandTool),
    ("uniq", uniqTool), ("wc", wcTool), ("which", whichTool), ("whoami", saying "root"),
    ("yes", yesTool)]

/-- The tool of a name. -/
def tool? (name : String) : Option Tool :=
  Table.find? name toolsByName

end LayerNet.Shell
