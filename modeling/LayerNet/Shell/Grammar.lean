import LayerNet.Shell.Reader
import LayerNet.Text.Search

/-!
# Grammar of shell scripts

Commands are read one complete line of them after another, so that those before a fault are had,
and so that what a line does can change how the next one is read.  The parts of a word and the
commands inside of it are read together.

Main definitions:

- `readParts`: the parts of a word, up to where it ends.
- `readCommand`: one command.
- `readComplete`: the commands of one line and those that they go on with.
-/

namespace LayerNet.Shell

/-! ## Surroundings -/

/-- What ends the parts of a word. -/
inductive Stop where
  | word
  | quote
  | brace
  | parentheses (depth : Nat)
  | document (document : PendingDocument)

/-- Where parts of a word are read: whether characters count as quoted, what ends the parts, whether
they are between braces, whether they belong to a document, and whether they are the last line of
one, where nothing is expanded. -/
structure Surroundings where
  quotes : Bool := false
  stop : Stop := .word
  inBraces : Bool := false
  inDocument : Bool := false
  isMark : Bool := false

namespace Surroundings

/-- Whether a character ends a word. -/
def endsWord (c : Char) : Bool :=
  [' ', '\t', '\n', ';', '&', '|', '<', '>', '(', ')'].contains c

/-- Whether a backslash only protects a character here, so that it vanishes itself. -/
def protects (s : Surroundings) (c : Char) : Bool :=
  !s.quotes || ['\\', '\x60', '$'].contains c
    || (c = '"' && !(s.inDocument && !s.inBraces)) || (c = '\x7d' && s.inBraces)

/-- What is missing when the script ends here. -/
def missing (s : Surroundings) : Option String :=
  match s.stop with
  | .word | .document _ => none
  | .quote => some "Unterminated quoted string"
  | .brace =>
    some (if s.quotes && !s.inDocument then "Unterminated quoted string" else "Missing '\x7d'")
  | .parentheses _ => some "Missing '))'"

end Surroundings

/-- The parameters that are named by one sign. -/
def isSpecial (c : Char) : Bool :=
  ['@', '*', '#', '?', '$', '!', '-'].contains c

/-- The use of a parameter that a sign behind its name asks for; `orEmpty` tells whether a colon
stands between them. -/
def useOfSign (orEmpty : Bool) (c : Char) : ParameterUse :=
  match c with
  | '-' => .orDefault orEmpty
  | '+' => .alternative orEmpty
  | '?' => .required orEmpty
  | '=' => .orAssign orEmpty
  | _ => .unknown

/-- What is checked of a token: whether ends of lines are passed over, and whether a word may be one
with a meaning of its own, an alias, or the last line of a document. -/
structure Checks where
  newlines : Bool := false
  keywords : Bool := false
  aliases : Bool := false
  isMark : Bool := false

/-- The checks where a command may follow on a further line. -/
def Checks.command : Checks :=
  { newlines := true, keywords := true, aliases := true }

/-- How a list of commands is read: on a line of its own, in the body of a command, or in a clause,
where it may be empty. -/
inductive ListKind where
  | line
  | body
  | clause
deriving DecidableEq, Repr

/-- The parts of a simple command read so far, in reverse. -/
structure SimpleParts where
  assignments : List (String × Word) := []
  words : List Word := []
  redirects : List Redirect := []

/-- One command out of several. -/
def Command.ofList : List Command → Command
  | [command] => command
  | commands => .sequence commands

/-- The characters up to the next backtick, which are read as a script of their own; less the
backslashes that protect characters there. -/
def upToBacktick (quotes : Bool) : Nat → List Char → Read (List Char)
  | 0, taken => return taken.reverse
  | fuel + 1, taken => do
    match ← next with
    | none => faulty "EOF in backquote substitution"
    | some '\x60' => return taken.reverse
    | some '\\' =>
      match ← peekRaw with
      | none => faulty "EOF in backquote substitution"
      | some c =>
        advance
        let isProtected := c = '\\' || c = '\x60' || c = '$' || (quotes && c = '"')
        upToBacktick quotes fuel (if isProtected then c :: taken else c :: '\\' :: taken)
    | some c => upToBacktick quotes fuel (c :: taken)

/-- The characters up to the next quotation mark that takes all as it is. -/
def upToQuote : Read (List Char) := do
  let r ← get
  match Text.breakOn ['\''] r.input with
  | none =>
    set { r with line := r.line + r.input.count '\n' }
    faulty "Unterminated quoted string"
  | some (inner, rest) =>
    set { r with input := rest, line := r.line + inner.count '\n' }
    return inner

/-- A token that begins with an operator sign, if the next character is one. -/
def readOperator? (c : Char) : Read (Option Token) := do
  let double (single both : String) : Read (Option Token) := do
    advance
    return some (.operator (if ← takes c then both else single))
  match c with
  | '&' => double "&" "&&"
  | '|' => double "|" "||"
  | ';' => double ";" ";;"
  | '(' | ')' =>
    advance
    return some (.operator (String.singleton c))
  | '\n' =>
    advance
    return some .newline
  | _ => return none

/-- What the operator of a redirection asks for, read from behind its first sign. -/
def readRedirectKind (c : Char) : Read RedirectKind := do
  if c = '>' then
    if ← takes '>' then return .output .append
    if ← takes '|' then return .output .clobber
    if ← takes '&' then return .copy
    return .output .create
  else
    if ← takes '<' then return .document (← takes '-')
    if ← takes '&' then return .copy
    if ← takes '>' then return .output .update
    return .input

/-- Passes over blanks and comments. -/
def skipBlanks : Nat → Read Unit
  | 0 => return ()
  | fuel + 1 => do
    match ← peek with
    | some ' ' | some '\t' =>
      advance
      skipBlanks fuel
    | some '#' => modify fun r => { r with input := r.input.dropWhile (· ≠ '\n') }
    | _ => return ()

/-! ## Reading -/

mutual

/-- Reads the parts of a word up to where they end; `parts` are those read before, in reverse.  A
sign that closes is taken away, one that only ends the word is not. -/
def readParts (s : Surroundings) : Nat → List WordPart → Read Word
  | 0, _ => faulty "word too long"
  | fuel + 1, parts => do
    match ← peek with
    | none =>
      match s.missing with
      | some text => faulty text
      | none => return parts.reverse
    | some '\n' =>
      match s.stop with
      | .word => return parts.reverse
      | .document document =>
        advance
        let parts := addText ['\n'] true parts
        if ← atDocumentEnd document then return parts.reverse else readParts s fuel parts
      | _ =>
        advance
        readParts s fuel (addText ['\n'] s.quotes parts)
    | some '\\' =>
      advance
      match ← peekRaw with
      | none => readParts s fuel (addText ['\\'] true parts)
      | some c =>
        advance
        let chars := if s.protects c then [c] else ['\\', c]
        readParts s fuel (addText chars true parts)
    | some '$' =>
      advance
      readDollar s fuel parts
    | some '\x60' =>
      advance
      if s.isMark then readParts s fuel (addText ['\x60'] true parts)
      else
        let script ← upToBacktick s.quotes ((← get).input.length + 1) []
        let command ← readBacktickScript fuel script
        readParts s fuel (.output command s.quotes :: parts)
    | some '\'' =>
      advance
      if s.quotes then readParts s fuel (addText ['\''] true parts)
      else
        let inner ← upToQuote
        readParts s fuel (addText inner true parts)
    | some '"' =>
      advance
      let readQuoted : Read Word := do
        let inner ← readParts { s with quotes := true, stop := .quote } fuel []
        match inner with
        | [.parameter "@" .value [] true] => readParts s fuel (inner ++ parts)
        | _ => readParts s fuel (inner.reverse ++ .text [] true :: parts)
      match s.stop with
      | .quote => return parts.reverse
      | .word => readQuoted
      | .brace => readQuoted
      | .document _ | .parentheses _ => readParts s fuel (addText ['"'] true parts)
    | some c =>
      match s.stop, c with
      | .brace, '\x7d' =>
        advance
        return parts.reverse
      | .parentheses depth, '(' =>
        advance
        readParts { s with stop := .parentheses (depth + 1) } fuel (addText ['('] true parts)
      | .parentheses 0, ')' =>
        advance
        if ← takes ')' then return parts.reverse
        else readParts s fuel (addText [')'] true parts)
      | .parentheses (depth + 1), ')' =>
        advance
        readParts { s with stop := .parentheses depth } fuel (addText [')'] true parts)
      | .word, c =>
        if Surroundings.endsWord c then return parts.reverse
        else
          advance
          readParts s fuel (addText [c] s.quotes parts)
      | _, c =>
        advance
        readParts s fuel (addText [c] s.quotes parts)
termination_by structural fuel => fuel

/-- Reads the expansion behind a dollar sign and the parts behind it. -/
def readDollar (s : Surroundings) : Nat → List WordPart → Read Word
  | 0, _ => faulty "word too long"
  | fuel + 1, parts => do
    let c? ← if s.isMark then pure none else peek
    match c? with
    | some '(' =>
      advance
      if ← takes '(' then
        let inside : Surroundings :=
          { quotes := true, stop := .parentheses 0, inDocument := s.inDocument }
        let expression ← readParts inside fuel []
        readParts s fuel (.arithmetic expression s.quotes :: parts)
      else
        let command ← readScript fuel
        readParts s fuel (.output command s.quotes :: parts)
    | some '\x7b' =>
      advance
      readBraced s fuel parts
    | some c =>
      if Word.isNameStart c then
        let name ← takeWhileJoined Word.isNameChar ((← get).input.length + 1) []
        readParts s fuel (.parameter (String.ofList name) .value [] s.quotes :: parts)
      else if c.isDigit || isSpecial c then
        advance
        readParts s fuel (.parameter (String.singleton c) .value [] s.quotes :: parts)
      else readParts s fuel (addText ['$'] s.quotes parts)
    | none => readParts s fuel (addText ['$'] s.quotes parts)
termination_by structural fuel => fuel

/-- Reads an expansion from behind its opening brace, and the parts behind it. -/
def readBraced (s : Surroundings) : Nat → List WordPart → Read Word
  | 0, _ => faulty "word too long"
  | fuel + 1, parts => do
    let inside (isPattern : Bool) : Surroundings :=
      { quotes := s.quotes && !isPattern, stop := .brace, inBraces := true
        inDocument := s.inDocument }
    let nameFrom (c : Char) : Read String := do
      let test := if c.isDigit then Char.isDigit else Word.isNameChar
      return String.ofList (c :: (← takeWhileJoined test ((← get).input.length + 1) []))
    let finish (name : String) (use : ParameterUse) : Read Word := do
      let argument ← readParts (inside use.takesPattern) fuel []
      readParts s fuel (.parameter name use argument s.quotes :: parts)
    let readUse (name : String) : Read Word := do
      match ← next with
      | some '\x7d' => readParts s fuel (.parameter name .value [] s.quotes :: parts)
      | some ':' =>
        match ← next with
        | some c => finish name (useOfSign true c)
        | none => finish name .unknown
      | some '%' => finish name (.withoutBack (← takes '%'))
      | some '#' => finish name (.withoutFront (← takes '#'))
      | some c => finish name (useOfSign false c)
      | none => finish name .unknown
    let readLength (name : String) : Read Word := do
      if (← peek) = some '\x7d' then finish name .length else finish name .unknown
    match ← next with
    | none => finish "" .unknown
    | some '#' =>
      match ← next with
      | none => finish "" .unknown
      | some '\x7d' => readParts s fuel (.parameter "#" .value [] s.quotes :: parts)
      | some c =>
        if Word.isNameChar c then readLength (← nameFrom c)
        else if isSpecial c && (← peek) = some '\x7d' then finish (String.singleton c) .length
        else
          modify fun r => { r with input := c :: r.input }
          readUse "#"
    | some c =>
      if Word.isNameStart c || c.isDigit then readUse (← nameFrom c)
      else if isSpecial c then readUse (String.singleton c)
      else
        if c = '\x7d' then modify fun r => { r with input := c :: r.input }
        finish "" .unknown
termination_by structural fuel => fuel

/-- Reads a script up to the parenthesis that closes it. -/
def readScript : Nat → Read Command
  | 0 => faulty "nested too deep"
  | fuel + 1 => do
    let before ← get
    set { before with pending := [], pushed := none }
    let (commands, _) ← readList .clause fuel
    let token ← readToken {} fuel
    if !token.isOperator ")" then unexpected token (some "\")\"")
    modify fun r => { r with pending := before.pending }
    return Command.ofList commands
termination_by structural fuel => fuel

/-- Reads a script that stood between backticks; its lines are counted from one. -/
def readBacktickScript : Nat → List Char → Read Command
  | 0, _ => faulty "nested too deep"
  | fuel + 1, script => do
    let before ← get
    set { before with input := script, line := 1, pending := [], pushed := none, replaced := [] }
    let (commands, _) ← readList .clause fuel
    modify fun r => { before with documents := r.documents }
    return Command.ofList commands
termination_by structural fuel => fuel

/-- Reads the bodies of the documents that have been asked for. -/
def readDocuments : Nat → List PendingDocument → Read Unit
  | 0, _ => return ()
  | fuel + 1, documents => do
    match documents with
    | [] => modify fun r => { r with pending := [] }
    | document :: rest =>
      let body ← if document.isLiteral then
          let body ← literalBody document ((← get).input.length + 1) []
          pure [.text body true]
        else if ← atDocumentEnd document then pure []
        else
          readParts { quotes := true, stop := .document document, inDocument := true } fuel []
      modify fun r => { r with documents := r.documents.set! document.number body }
      readDocuments fuel rest
termination_by structural fuel => fuel

/-- Reads a token as it stands. -/
def readRawToken (isMark : Bool) : Nat → Read Token
  | 0 => faulty "word too long"
  | fuel + 1 => do
    let r ← get
    if let some token := r.pushed then
      set { r with pushed := none }
      return token
    skipBlanks (r.input.length + 1)
    let some c ← peek | return .ended
    if let some token ← readOperator? c then return token
    if !r.replaced.isEmpty || !r.aliases.isEmpty then
      modify fun r => { r with wordStart := r.input.length }
    let word ← readParts { isMark } fuel []
    let digit? : Option (Option Char) := match word with
      | [] => some none
      | [.text [d] false] => if d.isDigit then some (some d) else none
      | _ => none
    match digit?, ← peekRaw with
    | some digit, some c =>
      if c = '<' || c = '>' then
        advance
        let kind ← readRedirectKind c
        let usual := if c = '<' then 0 else 1
        return .redirect ((digit.map fun d => d.toNat - 48).getD usual) kind
      else return .word word
    | _, _ => return .word word
termination_by structural fuel => fuel

/-- Reads a token. -/
def readToken (checks : Checks) : Nat → Read Token
  | 0 => faulty "script too long"
  | fuel + 1 => do
    match ← readRawToken checks.isMark fuel with
    | .newline =>
      if checks.newlines then
        readDocuments fuel (← get).pending
        readToken checks fuel
      else return .newline
    | .word word =>
      match Word.plain? word with
      | none => return .word word
      | some text =>
        if checks.keywords && keywords.contains text then return .keyword text
        else if checks.aliases || (← followsAlias) then
          if ← replaceAlias text then readToken checks fuel else return .word word
        else return .word word
    | token => return token
termination_by structural fuel => fuel

/-- Reads the target of a redirection. -/
def readTarget (descriptor : Nat) (kind : RedirectKind) : Nat → Read Redirect
  | 0 => faulty "script too long"
  | fuel + 1 => do
    let isMark := match kind with
      | .document _ => true
      | _ => false
    match ← readToken { isMark } fuel with
    | .word word =>
      match kind with
      | .input => return .mk descriptor (.input word)
      | .output mode => return .mk descriptor (.output word mode)
      | .copy => return .mk descriptor (.copy word)
      | .document stripTabs =>
        let number ← askDocument (Word.literal word) stripTabs (Word.hasQuotes word)
        return .mk descriptor (.document number)
    | token => unexpected token
termination_by structural fuel => fuel

/-- Reads a list of commands; tells whether the script ended before the first one. -/
def readList (kind : ListKind) : Nat → Read (List Command × Bool)
  | 0 => faulty "script too long"
  | fuel + 1 => readListFrom kind [] fuel
termination_by structural fuel => fuel

/-- Reads a list of commands behind those in `commands`, which are in reverse. -/
def readListFrom (kind : ListKind) (commands : List Command) : Nat → Read (List Command × Bool)
  | 0 => faulty "script too long"
  | fuel + 1 => do
    let checks : Checks := { newlines := kind ≠ .line, keywords := true, aliases := true }
    match ← readToken checks fuel with
    | .newline =>
      readDocuments fuel (← get).pending
      return (commands.reverse, false)
    | .ended =>
      readDocuments fuel (← get).pending
      pushBack .ended
      return (commands.reverse, commands.isEmpty)
    | token =>
      pushBack token
      let mayEnd := kind = .clause || (kind = .body && !commands.isEmpty)
      if mayEnd && token.closes then return (commands.reverse, false)
      let command ← readAndOr fuel
      match ← readToken {} fuel with
      | .newline =>
        pushBack .newline
        readListFrom kind (command :: commands) fuel
      | .ended =>
        pushBack .ended
        readListFrom kind (command :: commands) fuel
      | .operator ";" => readListFrom kind (command :: commands) fuel
      | .operator "&" => readListFrom kind (.background command :: commands) fuel
      | token =>
        if kind = .line then unexpected token
        pushBack token
        return ((command :: commands).reverse, false)
termination_by structural fuel => fuel

/-- Reads a list of commands that is not empty. -/
def readBody : Nat → Read Command
  | 0 => faulty "script too long"
  | fuel + 1 => do
    let (commands, _) ← readList .body fuel
    return Command.ofList commands
termination_by structural fuel => fuel

/-- Reads pipelines joined by `&&` and `||`. -/
def readAndOr : Nat → Read Command
  | 0 => faulty "script too long"
  | fuel + 1 => do
    let first ← readPipeline {} fuel
    readAndOrTail first fuel
termination_by structural fuel => fuel

/-- Reads what is joined to a command by `&&` and `||`. -/
def readAndOrTail (first : Command) : Nat → Read Command
  | 0 => faulty "script too long"
  | fuel + 1 => do
    match ← readToken {} fuel with
    | .operator "&&" =>
      let second ← readPipeline .command fuel
      readAndOrTail (.both first second) fuel
    | .operator "||" =>
      let second ← readPipeline .command fuel
      readAndOrTail (.either first second) fuel
    | token =>
      pushBack token
      return first
termination_by structural fuel => fuel

/-- Reads a pipeline. -/
def readPipeline (checks : Checks) : Nat → Read Command
  | 0 => faulty "script too long"
  | fuel + 1 => do
    let token ← readToken checks fuel
    if token.isKeyword "!" then
      let first ← readCommand { keywords := true, aliases := true } fuel
      return .negated (← readStages [first] fuel)
    else
      pushBack token
      let first ← readCommand {} fuel
      readStages [first] fuel
termination_by structural fuel => fuel

/-- Reads the further stages of a pipeline; `stages` are those before, in reverse. -/
def readStages (stages : List Command) : Nat → Read Command
  | 0 => faulty "script too long"
  | fuel + 1 => do
    match ← readToken {} fuel with
    | .operator "|" =>
      let stage ← readCommand .command fuel
      readStages (stage :: stages) fuel
    | token =>
      pushBack token
      match stages with
      | [command] => return command
      | stages => return .pipeline stages.reverse
termination_by structural fuel => fuel

/-- Reads a command. -/
def readCommand (checks : Checks) : Nat → Read Command
  | 0 => faulty "script too long"
  | fuel + 1 => do
    let line := (← get).line
    let expect (text : String) : Read Unit := do
      let token ← readToken {} fuel
      if !(token.isKeyword text || token.isOperator text) then
        unexpected token (some ("\"" ++ text ++ "\""))
    match ← readToken checks fuel with
    | .keyword "if" =>
      let command ← readConditional fuel
      expect "fi"
      readTrailing line command fuel
    | .keyword "while" =>
      let condition ← readBody fuel
      expect "do"
      let body ← readBody fuel
      expect "done"
      readTrailing line (.loop false condition body) fuel
    | .keyword "until" =>
      let condition ← readBody fuel
      expect "do"
      let body ← readBody fuel
      expect "done"
      readTrailing line (.loop true condition body) fuel
    | .keyword "for" =>
      let command ← readForEach line fuel
      expect "done"
      readTrailing line command fuel
    | .keyword "case" =>
      match ← readToken {} fuel with
      | .word word =>
        let token ← readToken .command fuel
        if !token.isKeyword "in" then unexpected token (some "\"in\"")
        let clauses ← readClauses [] fuel
        readTrailing line (.choice line word clauses) fuel
      | token => unexpected token (some "word")
    | .operator "(" =>
      let body ← readBody fuel
      expect ")"
      readTrailing line (.subshell line body []) fuel
    | .keyword "\x7b" =>
      let body ← readBody fuel
      expect "\x7d"
      readTrailing line body fuel
    | .word word =>
      pushBack (.word word)
      readSimple line {} true fuel
    | .redirect descriptor kind =>
      pushBack (.redirect descriptor kind)
      readSimple line {} true fuel
    | token => unexpected token
termination_by structural fuel => fuel

/-- Reads the redirections behind a compound command. -/
def readTrailing (line : Nat) (command : Command) : Nat → Read Command
  | 0 => faulty "script too long"
  | fuel + 1 => do
    let redirects ← readRedirects [] fuel
    if redirects.isEmpty then return command
    match command with
    | .subshell line body _ => return .subshell line body redirects
    | command => return .redirected line command redirects
termination_by structural fuel => fuel

/-- Reads redirections; `redirects` are those before, in reverse. -/
def readRedirects (redirects : List Redirect) : Nat → Read (List Redirect)
  | 0 => faulty "script too long"
  | fuel + 1 => do
    match ← readToken { keywords := true, aliases := true } fuel with
    | .redirect descriptor kind =>
      let redirect ← readTarget descriptor kind fuel
      readRedirects (redirect :: redirects) fuel
    | token =>
      pushBack token
      return redirects.reverse
termination_by structural fuel => fuel

/-- Reads a conditional from behind its first word up to before its last. -/
def readConditional : Nat → Read Command
  | 0 => faulty "script too long"
  | fuel + 1 => do
    let condition ← readBody fuel
    let token ← readToken {} fuel
    if !token.isKeyword "then" then unexpected token (some "\"then\"")
    let thenBranch ← readBody fuel
    let token ← readToken {} fuel
    if token.isKeyword "elif" then
      return .conditional condition thenBranch (← readConditional fuel)
    else if token.isKeyword "else" then
      return .conditional condition thenBranch (← readBody fuel)
    else
      pushBack token
      return .conditional condition thenBranch (.sequence [])
termination_by structural fuel => fuel

/-- Reads a loop over words from behind its first word up to before its last. -/
def readForEach (line : Nat) : Nat → Read Command
  | 0 => faulty "script too long"
  | fuel + 1 => do
    let name? : Option String := match ← readToken {} fuel with
      | .word word => (Word.plain? word).filter Word.isName
      | _ => none
    let some name := name? | faulty "Bad for loop variable"
    let token ← readToken .command fuel
    let words ← if token.isKeyword "in" then
        let (words, last) ← readWords [] fuel
        match last with
        | .newline | .operator ";" => pure (some words)
        | token => unexpected token
      else
        if !token.isOperator ";" then pushBack token
        pure none
    let token ← readToken .command fuel
    if !token.isKeyword "do" then unexpected token (some "\"do\"")
    return .forEach line name words (← readBody fuel)
termination_by structural fuel => fuel

/-- Reads words up to another token; `words` are those before, in reverse. -/
def readWords (words : List Word) : Nat → Read (List Word × Token)
  | 0 => faulty "script too long"
  | fuel + 1 => do
    match ← readToken {} fuel with
    | .word word => readWords (word :: words) fuel
    | token =>
      if let .newline := token then readDocuments fuel (← get).pending
      return (words.reverse, token)
termination_by structural fuel => fuel

/-- Reads the clauses of a choice; `clauses` are those before, in reverse. -/
def readClauses (clauses : List (List Word × Command)) :
    Nat → Read (List (List Word × Command))
  | 0 => faulty "script too long"
  | fuel + 1 => do
    let checks : Checks := { newlines := true, keywords := true }
    let token ← readToken checks fuel
    if token.isKeyword "esac" then return clauses.reverse
    let token ← if token.isOperator "(" then readToken {} fuel else pure token
    let patterns ← readPatterns token [] fuel
    let (commands, _) ← readList .clause fuel
    let clauses := (patterns, Command.ofList commands) :: clauses
    let token ← readToken checks fuel
    if token.isKeyword "esac" then return clauses.reverse
    else if token.isOperator ";;" then readClauses clauses fuel
    else unexpected token (some "\";;\"")
termination_by structural fuel => fuel

/-- Reads the patterns of a clause from the first one on up to behind the parenthesis. -/
def readPatterns (token : Token) (patterns : List Word) : Nat → Read (List Word)
  | 0 => faulty "script too long"
  | fuel + 1 => do
    let pattern : Word := match token with
      | .word word => word
      | .keyword text => [.text text.toList false]
      | _ => []
    let token ← readToken {} fuel
    if token.isOperator "|" then
      readPatterns (← readToken {} fuel) (pattern :: patterns) fuel
    else if token.isOperator ")" then return (pattern :: patterns).reverse
    else unexpected token (some "\")\"")
termination_by structural fuel => fuel

/-- Reads a simple command or the definition of a function; `parts` are those read before, and
`leads` tells whether assignments may still follow. -/
def readSimple (line : Nat) (parts : SimpleParts) (leads : Bool) : Nat → Read Command
  | 0 => faulty "script too long"
  | fuel + 1 => do
    let finish : Read Command :=
      return .simple line parts.assignments.reverse parts.words.reverse parts.redirects.reverse
    match ← readToken { aliases := leads } fuel with
    | .word word =>
      match if leads then Word.assignment? word else none with
      | some assignment =>
        readSimple line { parts with assignments := assignment :: parts.assignments } true fuel
      | none => readSimple line { parts with words := word :: parts.words } false fuel
    | .redirect descriptor kind =>
      let redirect ← readTarget descriptor kind fuel
      readSimple line { parts with redirects := redirect :: parts.redirects } leads fuel
    | .operator "(" =>
      match parts.words, parts.assignments, parts.redirects with
      | [word], [], [] =>
        let token ← readToken {} fuel
        if !token.isOperator ")" then unexpected token (some "\")\"")
        match (Word.plain? word).filter fun n => Word.isName n && !specialNames.contains n with
        | none => faulty "Bad function name"
        | some name => return .function name (← readCommand .command fuel)
      | _, _, _ =>
        pushBack (.operator "(")
        finish
    | token =>
      pushBack token
      finish
termination_by structural fuel => fuel

end

/-! ## Complete commands -/

/-- Reads the commands of one line and those that they go on with; gives none at the end. -/
def readComplete : Read (Option (List Command)) := do
  modify fun r => { r with pushed := none }
  let (commands, isEnd) ← readList .line (32 * (← get).input.length + 100000)
  return if isEnd then none else some commands

end LayerNet.Shell
