import LayerNet.Shell.Reader
import LayerNet.Shell.State
import LayerNet.Text.Lines

/-!
# Where commands are found

The name of a command leads to a command of the shell itself, to a function, or to a program, which
is a tool or a file.

Main definitions:

- `toolNames`: the tools that are there.
- `Launch`: what a program is started as, with `Launch.find`.
- `State.meaning`: what a name leads to.
-/

namespace LayerNet.Shell

/-! ## Tools -/

/-- The names of the tools that are there. -/
def toolNames : List String :=
  ["[", "arch", "awk", "base32", "base64", "basename", "bash", "cat", "chgrp", "chmod",
    "chown", "cksum", "cmp", "comm", "cp", "cut", "dash", "date", "dd", "diff", "dirname",
    "du", "echo", "egrep", "env", "expand", "expr", "factor", "false", "fgrep", "find", "fmt",
    "fold", "grep", "groups", "head", "hostname", "id", "install", "join", "kill", "link",
    "ln", "ls", "mawk", "md5sum", "mkdir", "mktemp", "mv", "nice", "nl", "nohup", "nproc",
    "numfmt", "od", "paste", "pathchk", "printenv", "printf", "pwd", "readlink", "realpath",
    "rev", "rm", "rmdir", "sed", "seq", "sh", "sha1sum", "sha224sum", "sha256sum",
    "sha384sum", "sha512sum", "shuf", "sleep", "sort", "split", "stat", "stdbuf", "sum",
    "sync", "tac", "tail", "tee", "test", "timeout", "touch", "tr", "true", "truncate",
    "tsort", "tty", "uname", "unexpand", "uniq", "unlink", "wc", "which", "whoami", "xargs",
    "yes"]

/-- The directories that hold the tools. -/
def toolDirectories : List String :=
  ["/usr/bin/", "/bin/"]

/-- The name of the tool that a path leads to. -/
def toolAt? (path : String) : Option String :=
  let name? := toolDirectories.findSome? fun front =>
    if path.startsWith front then some (String.ofList (path.toList.drop front.length)) else none
  name?.filter toolNames.contains

/-! ## Programs -/

/-- What a program is started as: a tool, which is called in some way, or a file of commands. -/
inductive Launch where
  | tool (name calledAs : String) (arguments : List String)
  | commands (path : String) (arguments : List String)

/-- The program in the first line of a file, with its argument. -/
def interpreterLine? (content : List UInt8) : Option (String × Option String) :=
  match content with
  | 35 :: 33 :: rest =>
    let line := charsOf (rest.takeWhile (· ≠ 10))
    let isBlank (c : Char) : Bool := c = ' ' || c = '\t'
    let line := ((line.dropWhile isBlank).reverse.dropWhile isBlank).reverse
    let path := line.takeWhile fun c => !isBlank c
    let argument := (line.drop path.length).dropWhile isBlank
    if path.isEmpty then none
    else some (String.ofList path, if argument.isEmpty then none else some (String.ofList argument))
  | _ => none

/-- What a program is started as, if it can be started; a file may name another program that it is
started with, a few times over. -/
def launchPath (files : FileSystem) : Nat → String → List String → Except FileFault Launch
  | 0, _, _ => .error .tooManyLinks
  | depth + 1, path, arguments =>
    match toolAt? path with
    | some name => .ok (.tool name path arguments)
    | none =>
      match files.program (toText path) with
      | .error fault => .error fault
      | .ok (_, content) =>
        match interpreterLine? content.toList with
        | none => .ok (.commands path arguments)
        | some (interpreter, argument) =>
          launchPath files depth interpreter (argument.toList ++ path :: arguments)

/-- Where programs are looked for if nothing else is said. -/
def usualSearchPath : String :=
  "/usr/local/sbin:/usr/local/bin:/usr/sbin:/usr/bin:/sbin:/bin"

/-- The paths that a name may have in the directories of a search path. -/
def candidatePaths (searched : Option String) (name : String) : List String :=
  (Text.splitAtChar ':' (searched.getD usualSearchPath)).map fun d =>
    if d.isEmpty then name else d ++ "/" ++ name

/-- Whether a name means a directory in any directory. -/
def namesDirectory (name : String) : Bool :=
  name = "" || name = "." || name = ".."

/-- The first path at which there is a file of a name, in the directories of a search path. -/
def searchPath? (files : FileSystem) (searched : Option String) (name : String) : Option String :=
  (candidatePaths searched name).find? fun path =>
    (toolAt? path).isSome || files.isFile (toText path)

/-- What a program is started as; one that is given by its name alone is looked for in a search
path. -/
def Launch.find (files : FileSystem) (searched : Option String) (program : String)
    (arguments : List String) : Except FileFault Launch :=
  if program.contains '/' then launchPath files 5 program arguments
  else
    let start (path : String) : Except FileFault Launch :=
      match toolAt? path with
      | some name => .ok (.tool name program arguments)
      | none => launchPath files 5 path arguments
    let found := (candidatePaths searched program).map start
    match found.find? Except.isOk with
    | some launch => launch
    | none =>
      let isMissing (fault : FileFault) : Bool := fault = .notFound || fault = .notADirectory
      let faults := found.filterMap fun r =>
        match r with
        | .error fault => if isMissing fault then none else some fault
        | .ok _ => none
      .error
        (faults.getLast?.getD (if namesDirectory program then .permissionDenied else .notFound))

/-! ## Commands of the shell -/

/-- The commands of a shell that are looked for behind its functions. -/
def ordinaryNames : List String :=
  ["[", "alias", "bg", "cd", "chdir", "command", "echo", "false", "fg", "getopts", "hash", "jobs",
    "kill", "printf", "pwd", "read", "test", "true", "type", "ulimit", "umask", "unalias",
    "wait"]

/-- The commands whose arguments are not split if they are assignments. -/
def assigningNames : List String :=
  ["alias", "export", "local", "readonly"]

/-- What the name of a command leads to. -/
inductive Meaning where
  | special
  | ordinary
  | function (body : Command)
  | program

/-- What the name of a command leads to, functions only if they are looked for. -/
def State.meaning (s : State) (functions : Bool) (name : String) : Meaning :=
  if specialNames.contains name then .special
  else
    match if functions then Table.find? name s.functions else none with
    | some body => .function body
    | none => if ordinaryNames.contains name then .ordinary else .program

/-- Where a name stands in a listing that is kept in buckets. -/
def bucketOf (count : Nat) (name : String) : Nat :=
  let cs := name.toList
  let first := (cs.head?.map fun c => 16 * c.toNat).getD 0
  cs.foldl (fun n c => n + c.toNat) first % count

/-- Names with what belongs to them, in the order of their buckets. -/
def inBuckets {α : Type} (count : Nat) (entries : List (String × α)) : List (String × α) :=
  entries.mergeSort fun a b => decide (bucketOf count a.1 ≤ bucketOf count b.1)

end LayerNet.Shell
