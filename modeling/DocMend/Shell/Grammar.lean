import DocMend.Shell.Tree
import DocMend.Shell.Word.Token
/-!
Reading of commands. A script is read one complete line at a time, so that what the first lines do
can bear on how the later ones are read; a fault in a later line does not keep the first ones from
running.
-/

set_option autoImplicit false
set_option relaxedAutoImplicit false

namespace DocMend.Shell

/-- Which list of commands is read: those of a line, those of a body, or those of a body that may be
empty. -/
inductive Scope where
  | line
  | body
  | loose
deriving DecidableEq, Repr

/-- What is read. -/
inductive Goal where
  | list (scope : Scope)
  | command

/-- Reads what is asked for; there is nothing to read at the end of a script. -/
abbrev GoalReader := Goal → Reader (Option Command)

namespace Grammar

/-- Names of commands that no function may have. -/
def specialCommands : List String :=
  [".", ":", "break", "continue", "eval", "exec", "exit", "export", "readonly", "return", "set",
   "shift", "times", "trap", "unset"]

variable (commands : CommandReader) (inner : GoalReader)

/-- Reads the commands of a body. -/
def body : Reader Command :=
  return (← inner (.list .body)).getD .nothing

/-- Reads the keyword that must follow. -/
def demand (text : String) : Reader Unit := do
  let token ← readToken commands
  if !token.isKeyword text then Reader.refuseToken (some (.keyword text))

/-- Reads the target of a redirection whose sign was read. -/
def target (descriptor : Descriptor) (sign : Sign) : Reader Redirection := do
  let isDocument := match sign with
    | .document _ => true
    | _ => false
  let token ← readTokenWith commands { mark := isDocument }
  match token, sign with
  | .word pieces quoted, .document stripsTabs =>
    let index ← Reader.newDocument
    let awaited : Awaited := ⟨index, Word.unquoted pieces, !quoted, stripsTabs⟩
    modify fun r => { r with awaited := r.awaited ++ [awaited] }
    return .document descriptor index stripsTabs pieces
  | .word pieces _, sign => return .file descriptor sign pieces
  | _, _ => Reader.refuseToken

/-- Reads redirections alone. -/
def redirections : Nat → Reader (List Redirection)
  | 0 => return []
  | fuel + 1 => do
    match ← readToken commands with
    | .redirection descriptor sign =>
      let redirection ← target commands descriptor sign
      return redirection :: (← redirections fuel)
    | _ =>
      Reader.pushBack
      return []

/-- Reads words up to another token. -/
def words : Nat → Reader (List Word)
  | 0 => return []
  | fuel + 1 => do
    match ← readToken commands with
    | .word pieces _ => return pieces :: (← words fuel)
    | _ => return []

/-- Reads the elements of an array up to the closing parenthesis. -/
def elements : Nat → Reader (List Word)
  | 0 => return []
  | fuel + 1 => do
    match ← readTokenWith commands { newlines := true, elements := true } with
    | .word pieces _ => return pieces :: (← elements fuel)
    | .closing => return []
    | _ => Reader.refuseToken

/-- A number that bounds how many tokens are left. -/
def fuel : Reader Nat :=
  return (← get).rest.length + 3

/-- The parts of a simple command, each in reverse order. -/
structure Parts where
  assignments : List Word := []
  words : List Word := []
  redirections : List Redirection := []

/-- Whether a word assigns an array that begins right after it. -/
def beginsArray (pieces : Word) : Reader Bool := do
  let r ← get
  let extended := r.dialect == .extended
  let text := Word.leading pieces
  let assigns := text.getLast? = some '=' && text.length = pieces.length
  return extended && assigns && r.rest.head? = some '('

/-- Names of builtins whose arguments may be assignments of arrays. -/
def declarers : List String :=
  ["declare", "local", "export", "readonly", "typeset"]

/-- Reads the elements of an array after a word that assigns them. -/
def withElements (pieces : Word) (fuel : Nat) : Reader Word := do
  if ← beginsArray pieces then
    let _ ← rawToken commands
    let line := (← get).line
    try return pieces ++ [.array (← elements commands fuel)]
    catch flaw =>
      throw (match flaw.fault with
        | .unexpected .ending _ =>
          { flaw with line, fault := .unterminated ")" "Missing \x27)\x27", inElements := true }
        | _ => { flaw with inElements := true })
  return pieces

/-- The line of a simple command after a further token: in the extended language it is the one in
which the second token ends. -/
def lineAfter (parts : Parts) (token : Token) (line : Nat) : Reader Nat := do
  let r ← get
  match r.dialect, parts.assignments, parts.words, token with
  | .extended, [], [_], .newline => return r.line - 1
  | .extended, [], [_], _ => return r.line
  | _, _, _, _ => return line

/-- Keywords that begin a compound command. -/
def compounds : List String :=
  ["if", "while", "until", "for", "case", "\x7b", "[[", "select"]

/-- Reads the body of a function: in the extended language it is a compound command. -/
def functionBody : Reader Command := do
  let token ← readToken commands
  let isCompound := match token with
    | .opening => true
    | .keyword text => compounds.contains text
    | _ => false
  if (← Reader.isExtended) && !isCompound then Reader.refuseToken
  Reader.pushBack
  return (← inner .command).getD .nothing

/-- Reads a simple command, or a definition of a function. -/
def simple (line : Nat) : Nat → Bool → Parts → Reader Command
  | 0, _, parts =>
    return .simple line parts.assignments.reverse parts.words.reverse parts.redirections.reverse
  | fuel + 1, first, parts => do
    let finish : Reader Command := do
      Reader.pushBack
      return .simple line parts.assignments.reverse parts.words.reverse parts.redirections.reverse
    let declares := match parts.words.getLast? with
      | some word => declarers.contains (Word.leading word).name
      | none => false
    let token ← readTokenWith commands { aliases := first, assignments := first || declares }
    let line ← lineAfter parts token line
    match token with
    | .word pieces _ =>
      if first && (Word.assignment? (← get).dialect pieces).isSome then
        let pieces ← withElements commands pieces fuel
        simple line fuel true { parts with assignments := pieces :: parts.assignments }
      else
        let pieces ← if declares then withElements commands pieces fuel else pure pieces
        simple line fuel false { parts with words := pieces :: parts.words }
    | .redirection descriptor sign =>
      let redirection ← target commands descriptor sign
      simple line fuel first { parts with redirections := redirection :: parts.redirections }
    | .opening =>
      match parts.words, parts.assignments, parts.redirections with
      | [word], [], [] =>
        match ← readToken commands with
        | .closing => pure ()
        | _ => Reader.refuseToken (some .closing)
        let extended ← Reader.isExtended
        match Word.plain? word with
        | some name =>
          if !extended && (!Octets.isName name || specialCommands.contains name.name) then
            Reader.refuse .functionName
          Reader.expect atLaterCommand
          let defined := (← get).line
          return .define defined name (← functionBody commands inner)
        | none => Reader.refuse .functionName
      | _, _, _ => finish
    | _ => finish

/-- Reads what follows the test of a choice. -/
def choice : Nat → Reader Command
  | 0 => return .nothing
  | fuel + 1 => do
    let test ← body inner
    demand commands "then"
    let yes ← body inner
    match ← readToken commands with
    | .keyword "elif" => return .choice test yes (← choice fuel)
    | .keyword "else" => return .choice test yes (← body inner)
    | _ =>
      Reader.pushBack
      return .choice test yes .nothing

/-- Reads the patterns of an arm, of which the first token was read. The POSIX language takes any
token for a pattern: one that is no word stands for the word that was read last. -/
def patterns : Nat → Reader (List Word)
  | 0 => return []
  | fuel + 1 => do
    let extended ← Reader.isExtended
    let r ← get
    let pieces : Word ← match r.last with
      | .word pieces _ => pure pieces
      | .keyword text => pure (Word.bare text)
      | _ => if extended then Reader.refuseToken else pure r.lastWord
    match ← readTokenWith commands { keywords := extended } with
    | .pipe =>
      let _ ← readToken commands
      return pieces :: (← patterns fuel)
    | .closing => return [pieces]
    | _ => Reader.refuseToken (some .closing)

/-- Reads the arms of a selection up to its end. -/
def arms : Nat → Reader (List Arm)
  | 0 => return []
  | fuel + 1 => do
    let token ← readTokenWith commands atArm
    if token.isKeyword "esac" then return []
    match token with
    | .opening =>
      let _ ← readToken commands
    | _ => pure ()
    let list ← patterns commands fuel
    let content := (← inner (.list .loose)).getD .nothing
    let after ← readTokenWith commands atArm
    match after with
    | .armEnd further => return .mk list content further :: (← arms fuel)
    | _ =>
      if after.isKeyword "esac" then return [.mk list content .stop]
      else Reader.refuseToken (some (.armEnd .stop))

/-- Splits the pieces of a word at a bare semicolon. -/
def splitSemicolons : Word → List Word
  | [] => [[]]
  | .char ';' _ :: rest => [] :: splitSemicolons rest
  | piece :: rest =>
    match splitSemicolons rest with
    | first :: more => (piece :: first) :: more
    | [] => [[piece]]

/-- Reads an arithmetic expression in double parentheses after the first of them, if the second one
follows and they are closed together. -/
def arithmetic? : Reader (Option Word) := do
  let r ← get
  match r.rest with
  | '(' :: rest =>
    if !closesTwice none 0 rest then return none
    set { r with rest, pushed := false }
    let start : Building :=
      { level := { mode := .arithmetic, quoted := true }, outer := [{}],
        unclosed := [(.arithmetic false, [])] }
    let c ← Reader.nextJoined
    let (b, stop) ← readPieces commands none ((← get).rest.length + 2) false c start
    Reader.putBack stop
    match unfinished? none b with
    | some fault => throw { line := r.line, fault, unended := r.unended }
    | none =>
      match b.pieces with
      | [.arithmetic expression _] => return some expression
      | _ => Reader.refuseToken
  | _ => return none

/-- Reads a loop over words, one that counts, or one over answers to a menu. -/
def each (line : Nat) (isMenu : Bool) : Reader Command := do
  let extended ← Reader.isExtended
  let token ← readToken commands
  let counted ← match token with
    | .opening => if extended && !isMenu then arithmetic? commands else pure none
    | _ => pure none
  match counted with
  | some expression =>
    match ← readTokenWith commands atCommand with
    | .semicolon => pure ()
    | _ => Reader.pushBack
    Reader.expect atLaterCommand
    demand commands "do"
    let content ← body inner
    match splitSemicolons expression with
    | [start, test, step] => return .count line start test step content
    | _ => Reader.refuseToken
  | none =>
    let name ← match token with
      | .word pieces false =>
        let name := (Word.plain? pieces).getD []
        if extended || Octets.isName name then pure name else Reader.refuse .loopName
      | .word pieces true =>
        if extended then pure (Word.unquoted pieces) else Reader.refuse .loopName
      | _ => if extended then Reader.refuseToken else Reader.refuse .loopName
    let token ← readTokenWith commands atLaterCommand
    let list ←
      if token.isKeyword "in" then
        let list ← words commands (← fuel)
        match (← get).last with
        | .newline => pure ()
        | .semicolon => pure ()
        | _ => Reader.refuseToken
        pure list
      else
        match token with
        | .semicolon => pure ()
        | _ => Reader.pushBack
        pure [[.mark .faint, .parameter { name := ['@'] } .value false true [], .mark .faint]]
    Reader.expect atLaterCommand
    demand commands "do"
    let content ← body inner
    return if isMenu then .menu line name list content else .each line name list content

/-- Reads a selection. -/
def select (line : Nat) : Reader Command := do
  match ← readToken commands with
  | .word subject _ =>
    let token ← readTokenWith commands atLaterCommand
    if !token.isKeyword "in" then Reader.refuseToken (some (.keyword "in"))
    return .select line subject (← arms commands inner (← fuel))
  | _ => Reader.refuseToken (some (.word [] false))

/-- Reads a regular expression up to a blank; parentheses and bars in it are ordinary. -/
def regex : Nat → Reader Word
  | 0 => return []
  | fuel + 1 => do
    let c ← Reader.nextJoined
    match c with
    | none => return []
    | some d =>
      if Octets.isGap d then
        Reader.putBack c
        return []
      let (pieces, _, stop) ← readWord commands c
      match stop with
      | some e =>
        if Octets.isGap e then
          Reader.putBack stop
          return pieces
        return pieces ++ [.char e false] ++ (← regex fuel)
      | none => return pieces

/-- Drops blanks. -/
def skipBlanks : Reader Unit :=
  modify fun r => { r with rest := r.rest.dropWhile Octets.isBlank }

/-- What a token is in a condition: a word with its plain text, a sign between words, the closing
brackets, or something else. -/
inductive ConditionToken where
  | word (text : Octets) (pieces : Word)
  | sign (text : Octets)
  | closing
  | other

/-- What a token is in a condition. -/
def conditionToken (token : Token) : ConditionToken :=
  match token with
  | .word pieces quoted =>
    let text : Octets := if quoted then [] else (Word.plain? pieces).getD []
    if text == "]]".toList then .closing else .word text pieces
  | .redirection _ .input => .sign ['<']
  | .redirection _ .output => .sign ['>']
  | _ => .other

/-- What a token is called in a complaint about a condition: a word has no name. -/
def conditionName? (token : Token) : Option String :=
  match conditionToken token, token with
  | .closing, _ => some "]]"
  | .word _ _, _ => none
  | _, .ending => some "EOF"
  | _, token => some token.written

/-- Refuses a condition at the last token, with a complaint that may name the token. -/
def refuseCondition {α : Type} (complaint : Option (Option String → String))
    (line? : Option Nat := none) : Reader α := do
  let r ← get
  let (isLineEnd, isOver) := match r.last with
    | .newline => (true, false)
    | .ending => (false, true)
    | _ => (false, false)
  let line := if isLineEnd then r.line - 1 else r.line
  let left := if isLineEnd then none else some (r.rest.takeWhile (· ≠ '\n')).length
  let complaints := complaint.toList.map fun text =>
    (line?.getD line, text (conditionName? r.last))
  throw { line, fault := .condition complaints (if isOver then .ending else .near left), unended := r.unended }

/-- A complaint that names a token, or that has no name for it. -/
def aboutToken (named : String) (after : String) (unnamed : String) (name? : Option String) : String :=
  match name? with
  | some name => named ++ " \x60" ++ name ++ "\x27" ++ after
  | none => unnamed

/-- Operators between two words of a condition. -/
def conditionOperators : List String :=
  ["=", "==", "!=", "<", ">", "=~", "-eq", "-ne", "-lt", "-le", "-gt", "-ge", "-nt", "-ot", "-ef"]

/-- Operators before a word of a condition. -/
def conditionTests : List String :=
  ["-n", "-z", "-e", "-f", "-d", "-r", "-w", "-x", "-s", "-h", "-L", "-b", "-c", "-p", "-S", "-t",
   "-v", "-a", "-o", "-R", "-O", "-G", "-N", "-u", "-g", "-k"]

/-- Reads the second word of a condition. -/
def conditionSide (operator : Octets) (first : Word) : Reader Condition := do
  let refuse : Reader Condition := refuseCondition (some (aboutToken "unexpected argument"
    " to conditional binary operator" "unexpected argument to conditional binary operator"))
  if operator == "=~".toList then
    skipBlanks
    let isClosing := (Text.afterStart? [']', ']'] (← get).rest).any fun rest =>
      rest.head?.all Octets.isGap
    if !isClosing && (← get).rest.head? ≠ some '\n' then
      return .binary operator first (← regex commands (← fuel))
  match conditionToken (← readTokenWith commands { pattern := true }) with
  | .word _ second => return .binary operator first second
  | _ => refuse

/-- Reads what follows the first word of a condition. -/
def conditionAfter (first : Word) : Reader Condition := do
  let token ← readToken commands
  let refuse : Reader Condition := refuseCondition (some (aboutToken "unexpected token"
    ", conditional binary operator expected" "conditional binary operator expected"))
  let alone : Reader Condition := do
    Reader.pushBack
    return .text first
  match conditionToken token, token with
  | .word text _, _ =>
    if conditionOperators.contains text.name then conditionSide commands text first else refuse
  | .sign text, _ => conditionSide commands text first
  | .closing, _ => alone
  | _, .both => alone
  | _, .either => alone
  | _, .closing => alone
  | _, _ => refuse

/-- The parts of conditions: terms, terms joined by a sign that wants both, and those joined by a sign
that wants one of them. -/
inductive ConditionPart where
  | term
  | both
  | either
deriving DecidableEq, Repr

/-- Reads a part of a condition between double brackets. -/
def condition : ConditionPart → Nat → Reader Condition
  | _, 0 => Reader.refuseToken
  | .either, fuel + 1 => do
    let first ← condition .both fuel
    match ← readTokenWith commands { newlines := true } with
    | .either => return .either first (← condition .either fuel)
    | _ =>
      Reader.pushBack
      return first
  | .both, fuel + 1 => do
    let first ← condition .term fuel
    match ← readTokenWith commands { newlines := true } with
    | .both => return .both first (← condition .both fuel)
    | _ =>
      Reader.pushBack
      return first
  | .term, fuel + 1 => do
    let token ← readTokenWith commands { newlines := true }
    let line := (← get).line
    let closed (name? : Option String) : String :=
      match name? with
      | some name => "unexpected token \x60" ++ name ++ "\x27, expected \x60)\x27"
      | none => "expected \x60)\x27"
    match conditionToken token, token with
    | _, .opening =>
      let nested ←
        try condition .either fuel
        catch flaw =>
          match flaw.fault with
          | .condition complaints place =>
            throw { flaw with fault := .condition (complaints ++ [(line, closed none)]) place }
          | _ => throw flaw
      match ← readTokenWith commands { newlines := true } with
      | .closing => return .group nested
      | _ => refuseCondition (some closed) (some line)
    | .word text pieces, _ =>
      if text == ['!'] then return .negated (← condition .term fuel)
      else if conditionTests.contains text.name then
        match conditionToken (← readToken commands) with
        | .word _ word => return .unary text word
        | _ => refuseCondition (some (aboutToken "unexpected argument"
          " to conditional unary operator" "unexpected argument to conditional unary operator"))
      else conditionAfter commands pieces
    | .closing, _ => refuseCondition none
    | _, _ => refuseCondition (some (aboutToken "unexpected token" " in conditional command" ""))

/-- Reads a condition after its opening brackets. -/
def brackets (line : Nat) : Reader Command := do
  let first := (← get).line
  let test ← condition commands .either (← fuel)
  let token ← readTokenWith commands { newlines := true }
  match conditionToken token, token with
  | .closing, _ => return .condition line test
  | _, .ending =>
    refuseCondition (some fun _ => "unexpected EOF while looking for \x60]]\x27") (some first)
  | _, _ =>
    refuseCondition (some (aboutToken "syntax error in conditional expression: unexpected token" ""
      "syntax error in conditional expression")) (some first)

/-- Reads a definition of a function after its keyword. -/
def definition : Reader Command := do
  match ← readToken commands with
  | .word pieces _ =>
    let name := Word.unquoted pieces
    match ← readTokenWith commands atLaterCommand with
    | .opening =>
      match ← readToken commands with
      | .closing => Reader.expect atLaterCommand
      | _ => Reader.refuseToken (some .closing)
    | _ => Reader.pushBack
    let line := (← get).line
    return .define line name (← functionBody commands inner)
  | _ => Reader.refuseToken

/-- Reads the token that must end a command, and the redirections after it. -/
def conclude (line : Nat) (closer : Token) (command : Command) : Reader Command := do
  let token ← readToken commands
  let isRight := match closer, token with
    | .closing, .closing => true
    | .keyword a, .keyword b => a == b
    | _, _ => false
  if !isRight then Reader.refuseToken (some closer)
  Reader.expect atCommand
  match command, ← redirections commands (← fuel) with
  | command, [] => return command
  | .subshell line body _, list => return .subshell line body list
  | command, list => return .redirected line command list

/-- Adds the redirections that follow a command. -/
def withRedirections (line : Nat) (command : Command) : Reader Command := do
  Reader.expect atCommand
  match ← redirections commands (← fuel) with
  | [] => return command
  | list => return .redirected line command list

/-- Reads a command. -/
def command : Reader Command := do
  let line := (← get).line
  let token ← readToken commands
  match token with
  | .keyword "if" =>
    conclude commands line (.keyword "fi") (← choice commands inner (← fuel))
  | .keyword "while" =>
    let test ← body inner
    demand commands "do"
    conclude commands line (.keyword "done") (.loop false test (← body inner))
  | .keyword "until" =>
    let test ← body inner
    demand commands "do"
    conclude commands line (.keyword "done") (.loop true test (← body inner))
  | .keyword "for" => conclude commands line (.keyword "done") (← each commands inner line false)
  | .keyword "select" => conclude commands line (.keyword "done") (← each commands inner line true)
  | .keyword "case" => withRedirections commands line (← select commands inner line)
  | .keyword "\x7b" => conclude commands line (.keyword "\x7d") (.group (← body inner))
  | .keyword "[[" => withRedirections commands line (← brackets commands line)
  | .keyword "function" => definition commands inner
  | .opening =>
    match ← if ← Reader.isExtended then arithmetic? commands else pure none with
    | some expression => withRedirections commands line (.compute line expression)
    | none => conclude commands line .closing (.subshell line (← body inner) [])
  | .word _ _ =>
    Reader.pushBack
    let line := (← get).line
    simple commands inner line (← fuel) true {}
  | .redirection _ _ =>
    Reader.pushBack
    let line := (← get).line
    simple commands inner line (← fuel) true {}
  | _ => Reader.refuseToken

/-- A command that writes its complaints where it writes its output. -/
def withComplaints (line : Nat) (command : Command) : Command :=
  let joined : List Redirection := [.file (.number 2) .copyOutput (Word.bare ['1'])]
  match command with
  | .simple line assignments words list => .simple line assignments words (list ++ joined)
  | .subshell line body list => .subshell line body (list ++ joined)
  | .redirected line body list => .redirected line body (list ++ joined)
  | command => .redirected line command joined

/-- Reads the further commands of a pipeline after the first one. -/
def stages : Nat → Command → Reader (List Command)
  | 0, first => return [first]
  | fuel + 1, first => do
    match ← readToken commands with
    | .pipe =>
      Reader.expect atLaterCommand
      return first :: (← stages fuel (← command commands inner))
    | .wholePipe =>
      let first := withComplaints (← get).line first
      Reader.expect atLaterCommand
      return first :: (← stages fuel (← command commands inner))
    | _ =>
      Reader.pushBack
      return [first]

/-- What stands before a pipeline. -/
inductive Lead where
  | negation
  | time (portable : Bool)

/-- Reads exclamation marks before a pipeline; the extended language allows several, and the keyword
that takes the time. -/
def leads : Nat → Reader (List Lead)
  | 0 => return []
  | fuel + 1 => do
    match ← readToken commands with
    | .keyword "!" =>
      Reader.expect atCommand
      if ← Reader.isExtended then return .negation :: (← leads fuel)
      return [.negation]
    | .keyword "time" =>
      let next ← readTokenWith commands atCommand
      let portable := match next with
        | .word pieces false => Word.plain? pieces == some ['-', 'p']
        | _ => false
      if portable then Reader.expect atCommand else Reader.pushBack
      return .time portable :: (← leads fuel)
    | _ =>
      Reader.pushBack
      return []

/-- Reads a pipeline. -/
def pipeline : Reader Command := do
  let before ← leads commands (← fuel)
  let isAlone ← do
    if before.isEmpty || !(← Reader.isExtended) then pure false
    else
      let token ← readToken commands
      Reader.pushBack
      pure (match token with
        | .newline => true
        | .semicolon => true
        | .ending => true
        | _ => false)
  let list ← if isAlone then pure [.simple (← get).line [] [] []]
    else stages commands inner (← fuel) (← command commands inner)
  let whole := match list with
    | [single] => single
    | list => .pipeline list
  let (negated, whole) := before.foldr (fun lead (negated, whole) => match lead with
    | .negation => (!negated, whole)
    | .time portable => (false, .timed portable (if negated then .negated whole else whole)))
    (false, whole)
  return if negated then .negated whole else whole

/-- Reads pipelines that are joined by success or failure. -/
def chain : Nat → Command → Reader Command
  | 0, first => return first
  | fuel + 1, first => do
    match ← readToken commands with
    | .both =>
      Reader.expect atLaterCommand
      chain fuel (.both first (← pipeline commands inner))
    | .either =>
      Reader.expect atLaterCommand
      chain fuel (.either first (← pipeline commands inner))
    | _ =>
      Reader.pushBack
      return first

/-- One command after another. -/
def after (first : Option Command) (second : Command) : Command :=
  match first with
  | some first => .sequence first second
  | none => second

/-- Reads a list of commands. -/
def list (scope : Scope) : Nat → Bool → Option Command → Reader (Option Command)
  | 0, _, done => return done
  | fuel + 1, mayEnd, done => do
    let isLine := scope == .line
    match ← readTokenWith commands (if isLine then atCommand else atLaterCommand) with
    | .newline =>
      readDocuments commands
      return some (done.getD .nothing)
    | .ending =>
      readDocuments commands
      Reader.pushBack
      modify fun r => { r with last := .ending }
      return if isLine && done.isNone then none else some (done.getD .nothing)
    | token =>
      Reader.pushBack
      if mayEnd && token.endsList then return some (done.getD .nothing)
      let next ← chain commands inner (← Grammar.fuel) (← pipeline commands inner)
      match ← readToken commands with
      | .background => list scope fuel (!isLine) (some (after done (.background next)))
      | .semicolon => list scope fuel (!isLine) (some (after done next))
      | .newline =>
        Reader.pushBack
        list scope fuel (!isLine) (some (after done next))
      | .ending =>
        Reader.pushBack
        list scope fuel (!isLine) (some (after done next))
      | _ =>
        if isLine then Reader.refuseToken
        Reader.pushBack
        return some (after done next)

/-- How the commands of expansions are read. -/
def commandReader (inner : GoalReader) (commands : CommandReader) : CommandReader where
  inParentheses := do
    let awaited := (← get).awaited
    modify fun r => { r with awaited := [] }
    let whole : Reader Command := do
      let content := (← inner (.list .loose)).getD .nothing
      match ← readToken commands with
      | .closing =>
        modify fun r => { r with awaited }
        return content
      | _ => Reader.refuseToken (some .closing)
    let extended ← Reader.isExtended
    try whole
    catch flaw =>
      match flaw.fault with
      | .unexpected .ending _ => throw (if extended then { flaw with fault := .openCommands } else flaw)
      | _ => throw flaw
  ofText text := do
    let r ← get
    let other : Reading :=
      { rest := text, dialect := r.dialect, alternatives := r.alternatives, aliases := r.aliases
        documents := r.documents }
    match (inner (.list .loose)).run other with
    | .ok (content, after) =>
      modify fun r => { r with documents := after.documents }
      return content.getD .nothing
    | .error flaw => if r.dialect == .extended then return .unread text else throw flaw

/-- Reads what is asked for. Every construct inside another one takes a unit of fuel. -/
def readGoal : Nat → GoalReader
  | 0, _ => Reader.refuseToken
  | fuel + 1, goal =>
    let inner := readGoal fuel
    let nowhere : CommandReader := ⟨return .nothing, fun _ => return .nothing⟩
    let commands := commandReader inner (commandReader inner nowhere)
    match goal with
    | .list scope => do
      list commands inner scope (← Grammar.fuel) (scope == .loose) none
    | .command => do
      return some (← command commands inner)

end Grammar

/-- How deep constructs may stand inside each other. -/
def deepest : Nat := 400

/-- Reads a text as it would stand between double quotation marks. -/
def readTemplate : Reader Word := do
  let inner := Grammar.readGoal deepest
  let nowhere : CommandReader := ⟨return .nothing, fun _ => return .nothing⟩
  let (word, _) ← readDocument (Grammar.commandReader inner nowhere)
    { index := 0, mark := ['\x00'], expands := true, stripsTabs := false }
  return word

/-- Reads the commands of the next line; at the end of a script there are none. -/
def readLine : Reader (Option Command) := do
  modify fun r => { r with pushed := false, awaited := [], checks := {} }
  Grammar.readGoal deepest (.list .line)

end DocMend.Shell
