import DocMend.Shell.Word.Reading
/-!
Reading of tokens. A word may turn out to be a keyword or an alias where one is looked for; the value
of an alias is read in its place.
-/

set_option autoImplicit false
set_option relaxedAutoImplicit false

namespace DocMend.Shell

/-- The keywords of both languages. -/
def commonKeywords : List String :=
  ["!", "case", "do", "done", "elif", "else", "esac", "fi", "for", "if", "in", "then", "until",
   "while", "\x7b", "\x7d"]

/-- Further keywords of the extended language. -/
def extendedKeywords : List String :=
  ["[[", "coproc", "function", "select", "time"]

/-- Whether a word is a keyword. -/
def isKeyword (dialect : Dialect) (text : String) : Bool :=
  commonKeywords.contains text || dialect == .extended && extendedKeywords.contains text

/-- Reads the sign of a redirection after its first character, for a descriptor if one is given. -/
def readSign (first : Char) (descriptor : Option Descriptor) : Reader Token := do
  if first == '>' then
    let sign : Sign ← Reader.choose Sign.output [('>', .append), ('|', .force), ('&', .copyOutput)]
    return .redirection (descriptor.getD (.number 1)) sign
  else
    let sign : Sign ← Reader.choose Sign.input [('<', .document false), ('&', .copyInput), ('>', .both)]
    match sign with
    | .document _ =>
      let extended ← Reader.isExtended
      let further : List (Char × Sign) := if extended then [('<', .text)] else []
      let sign ← Reader.choose sign (('-', .document true) :: further)
      return .redirection (descriptor.getD (.number 0)) sign
    | sign => return .redirection (descriptor.getD (.number 0)) sign

/-- The descriptor that a word right before the sign of a redirection writes: a digit, in the extended
language also several, or a name in braces. -/
def descriptor? (dialect : Dialect) (pieces : Word) : Option Descriptor :=
  match Word.plain? pieces with
  | none => none
  | some text =>
    let isNumber := match dialect with
      | .posix => text.length = 1 && text.all Char.isDigit
      | .extended => Text.isDigits text
    if isNumber then some (.number (Text.digitsValue text))
    else
      match dialect, text with
      | .extended, '\x7b' :: rest =>
        let name := rest.dropLast
        if rest.getLast? = some '\x7d' && Octets.isName name then some (.free name) else none
      | _, _ => none

/-- Reads a word or a redirection from its first character on. -/
def readWordToken (commands : CommandReader) (c : Option Char) : Reader Token := do
  let (pieces, quoted, stop) ← readWord commands c
  let sign? := match stop with
    | some '<' => some '<'
    | some '>' => some '>'
    | _ => none
  let dialect := (← get).dialect
  let before : Option (Option Descriptor) :=
    if pieces.isEmpty then some none else (descriptor? dialect pieces).map some
  match sign?, before, quoted with
  | some first, some descriptor, false => readSign first descriptor
  | _, _, _ =>
    Reader.putBack stop
    modify fun r => { r with lastWord := pieces }
    return .word pieces quoted

/-- Drops the rest of a line. -/
def skipLine : Reader Unit :=
  modify fun r => { r with rest := r.rest.dropWhile (· ≠ '\n') }

/-- Reads a token that is no word, or a word as it stands. -/
def scanToken (commands : CommandReader) : Nat → Reader Token
  | 0 => return .ending
  | fuel + 1 => do
    match ← Reader.nextJoined with
    | none => return .ending
    | some '\n' =>
      Reader.countLine
      return .newline
    | some '&' =>
      if ← Reader.accept '&' then return .both
      if ← Reader.acceptExtended '>' then
        let sign : Sign := if ← Reader.accept '>' then .everythingAppend else .everything
        return .redirection (.number 1) sign
      return .background
    | some '|' =>
      if ← Reader.accept '|' then return .either
      return if ← Reader.acceptExtended '&' then .wholePipe else .pipe
    | some ';' =>
      if ← Reader.accept ';' then
        return .armEnd (if ← Reader.acceptExtended '&' then .test else .stop)
      if ← Reader.acceptExtended '&' then return .armEnd .enter
      return .semicolon
    | some '(' => return .opening
    | some ')' => return .closing
    | some c =>
      if Octets.isBlank c then scanToken commands fuel
      else if c == '#' then
        skipLine
        scanToken commands fuel
      else readWordToken commands (some c)

/-- The next token as it stands, or the one that was put back. -/
def rawToken (commands : CommandReader) : Reader Token := do
  let r ← get
  if r.pushed then
    set { r with pushed := false }
    return r.last
  let token ← scanToken commands (r.rest.length + 2)
  modify fun r => { r with last := token }
  return token

/-- The next token that is no line end. Texts of here-documents follow a line end. -/
def tokenAfterLines (commands : CommandReader) : Nat → Reader Token
  | 0 => rawToken commands
  | fuel + 1 => do
    match ← rawToken commands with
    | .newline =>
      readDocuments commands
      tokenAfterLines commands fuel
    | token => return token

/-- The value of an alias that is not being read already. -/
def aliasValue? (text : Octets) : Reader (Option Octets) := do
  Reader.leaveAliases
  let r ← get
  if r.expanding.any fun e => e.name == text then return none
  return (r.aliases.find? fun entry => entry.1 == text).map Prod.snd

/-- Reads the value of an alias in place of its name. -/
def enterAlias (name value : Octets) : Reader Unit :=
  modify fun r =>
    let continues := (value.getLast?.map Octets.isBlank).getD false
    { r with
      rest := value ++ r.rest
      expanding := ⟨name, r.rest.length, continues⟩ :: r.expanding }

/-- Reads a token with what is looked for. -/
def readTokenFor (commands : CommandReader) : Nat → Checks → Reader Token
  | 0, _ => rawToken commands
  | fuel + 1, checks => do
    let token ← if checks.newlines then tokenAfterLines commands ((← get).rest.length + 2)
      else rawToken commands
    let noted := (← get).checks
    let checks : Checks :=
      { checks with
        keywords := checks.keywords || noted.keywords, aliases := checks.aliases || noted.aliases }
    Reader.expect {}
    match token with
    | .word pieces false =>
      match Word.plain? pieces with
      | none => return token
      | some text =>
        if checks.keywords && isKeyword (← get).dialect text.name then
          let token := Token.keyword text.name
          modify fun r => { r with last := token }
          return token
        if checks.aliases then
          match ← aliasValue? text with
          | some value =>
            enterAlias text value
            readTokenFor commands fuel checks
          | none => return token
        else return token
    | _ => return token

/-- Reads a token. -/
def readToken (commands : CommandReader) : Reader Token := do
  let r ← get
  readTokenFor commands (r.aliases.length + 2) r.checks

/-- Reads a token with what is looked for. -/
def readTokenWith (commands : CommandReader) (checks : Checks) : Reader Token := do
  Reader.expect checks
  readToken commands

/-- What is looked for where a command may begin. -/
def atCommand : Checks :=
  { keywords := true, aliases := true, assignments := true }

/-- What is looked for where a command may begin on a later line. -/
def atLaterCommand : Checks :=
  { keywords := true, aliases := true, newlines := true, assignments := true }

/-- What is looked for between the arms of a selection. -/
def atArm : Checks :=
  { keywords := true, newlines := true }

end DocMend.Shell
