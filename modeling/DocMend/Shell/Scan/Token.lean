import DocMend.Shell.Scan.Number
import DocMend.Shell.Scan.Program
import DocMend.Shell.Scan.Regex
/-!
The words of scanning programs. Whether a slash divides or begins a regular expression depends on the
word before it; line ends are dropped where a statement goes on, and a semicolon is put before a brace
that closes a block.
-/

set_option autoImplicit false
set_option relaxedAutoImplicit false

namespace DocMend.Shell.Scan

/-- A word of a program. -/
inductive Token where
  | number (x : Float) (written : Octets)
  | text (text : Octets)
  | regex (source : Octets)
  /-- A name; whether a parenthesis follows it at once. -/
  | name (name : Octets) (tight : Bool)
  | word (word : String)
  | sign (sign : String)
  /-- The semicolon before a closing brace. -/
  | closing
  | newline
  | finish

/-- A word with the number of its line. What is wrong with it is told when it is read. -/
structure Lexeme where
  token : Token
  line : Nat
  complaint : Option Octets := none

/-- Why a program cannot be cut into words. -/
structure LexicalFault where
  text : Octets

namespace Token

/-- How a word is named in complaints. -/
def shown : Token → Octets
  | number _ written => written
  | text cs => cs
  | regex source => ['/'] ++ source ++ ['/']
  | name cs _ => cs
  | word cs => cs.toList
  | sign cs => cs.toList
  | closing => ['\x7d']
  | newline => "end of line".toList
  | finish => "end of file".toList

/-- Whether a slash behind a word divides. -/
def endsOperand : Token → Bool
  | number _ _ => true
  | text _ => true
  | name _ _ => true
  | sign cs => [")", "]", "++", "--"].contains cs
  | _ => false

end Token

namespace Lexing

/-- The words with a meaning of their own. -/
def words : List String :=
  ["BEGIN", "END", "function", "if", "else", "while", "for", "do", "break", "continue", "return", "in",
   "getline", "print", "printf", "delete", "next", "nextfile", "exit", "split", "sub", "gsub"] ++
    Builtin.all.map Prod.fst

/-- The signs of more than one character, the longest first. -/
def longSigns : List String :=
  ["&&", "||", "==", "!=", "<=", ">=", ">>", "!~", "++", "--", "+=", "-=", "*=", "/=", "%=", "^="]

/-- The signs of one character. -/
def shortSigns : List Char := "()\x7b\x7d[];,+-*/%^!<>|?:~$=".toList

/-- The text that a string in a program stands for. A backslash in front of another character stays. -/
def unescaped : Nat → Octets → Octets
  | 0, cs => cs
  | _, [] => []
  | fuel + 1, '\\' :: c :: rest =>
    if Escape.isOctal c then
      let (n, rest) := Escape.digits 8 3 (c :: rest)
      Escape.byteOf n :: unescaped fuel rest
    else if c == 'x' && (rest.head?.bind (Octets.digit? 16)).isSome then
      let (n, rest) := Escape.digits 16 2 rest
      Escape.byteOf n :: unescaped fuel rest
    else if c == '\n' then unescaped fuel rest
    else
      match RegexReading.escaped [c] with
      | (value, _) =>
        if c == '\\' || c == '"' || value != c then value :: unescaped fuel rest
        else '\\' :: c :: unescaped fuel rest
  | fuel + 1, c :: rest => c :: unescaped fuel rest

/-- Cuts a string off behind its first quotation mark: what it writes, the rest, and how many lines it
goes over. -/
def cutString : Octets → Option (Octets × Octets × Nat)
  | [] => none
  | '"' :: rest => some ([], rest, 0)
  | '\n' :: _ => none
  | '\\' :: c :: rest =>
    (cutString rest).map fun (text, rest, lines) =>
      ('\\' :: c :: text, rest, if c == '\n' then lines + 1 else lines)
  | c :: rest => (cutString rest).map fun (text, rest, lines) => (c :: text, rest, lines)

/-- Cuts a regular expression off behind its first slash: what it writes, and the rest. Between brackets
a slash is an ordinary character. -/
def cutRegex : (inBracket : Bool) → Octets → Option (Octets × Octets)
  | _, [] => none
  | _, '\n' :: _ => none
  | inBracket, '\\' :: c :: rest =>
    (cutRegex inBracket rest).map fun (text, rest) =>
      (if c == '/' then '/' :: text else '\\' :: c :: text, rest)
  | false, '/' :: rest => some ([], rest)
  | false, '[' :: '^' :: ']' :: rest =>
    (cutRegex true rest).map fun (text, rest) => ('[' :: '^' :: ']' :: text, rest)
  | false, '[' :: ']' :: rest =>
    (cutRegex true rest).map fun (text, rest) => ('[' :: ']' :: text, rest)
  | false, '[' :: rest => (cutRegex true rest).map fun (text, rest) => ('[' :: text, rest)
  | true, '[' :: ':' :: rest => (cutRegex true rest).map fun (text, rest) => ('[' :: ':' :: text, rest)
  | true, ':' :: ']' :: rest => (cutRegex true rest).map fun (text, rest) => (':' :: ']' :: text, rest)
  | true, ']' :: rest => (cutRegex false rest).map fun (text, rest) => (']' :: text, rest)
  | inBracket, c :: rest => (cutRegex inBracket rest).map fun (text, rest) => (c :: text, rest)

/-- Cuts the digits of a number off. -/
def cutNumber (cs : Octets) : Octets × Octets :=
  let whole := cs.takeWhile Char.isDigit
  let rest := cs.drop whole.length
  let fraction := match rest with
    | '.' :: after => '.' :: after.takeWhile Char.isDigit
    | _ => []
  let rest := rest.drop fraction.length
  let exponent := match rest with
    | e :: after =>
      if e == 'e' || e == 'E' then
        let sign := (after.take 1).filter fun c => c == '+' || c == '-'
        let digits := (after.drop sign.length).takeWhile Char.isDigit
        if digits.isEmpty then [] else e :: sign ++ digits
      else []
    | [] => []
  (whole ++ fraction ++ exponent, rest.drop exponent.length)

/-- Drops blanks, comments and line ends: the rest, and the number of lines. -/
def skipLines : Nat → Octets → Octets × Nat
  | 0, cs => (cs, 0)
  | fuel + 1, cs =>
    match cs with
    | '\n' :: rest =>
      let (rest, lines) := skipLines fuel rest
      (rest, lines + 1)
    | '#' :: rest => skipLines fuel (rest.dropWhile (· ≠ '\n'))
    | '\\' :: '\n' :: rest =>
      let (rest, lines) := skipLines fuel rest
      (rest, lines + 1)
    | c :: rest => if Octets.isSpace c then skipLines fuel rest else (cs, 0)
    | [] => ([], 0)

/-- How a program is cut into words: the word before, the line, and the braces and parentheses that are
open. -/
structure Cutting where
  before : Token := Token.newline
  line : Nat := 1
  braces : Nat := 0
  parentheses : Nat := 0

/-- Whether line ends behind a word are dropped. -/
def dropsLines (token : Token) : Bool :=
  match token with
  | .newline => true
  | .sign cs => ["\x7b", "\x7d", ";", ",", "&&", "||"].contains cs
  | .word cs => cs == "else" || cs == "do"
  | _ => false

/-- The first sign of a text. -/
def sign? (cs : Octets) : Option String :=
  match longSigns.find? fun sign => sign.toList.isPrefixOf cs with
  | some sign => some sign
  | none =>
    match cs with
    | c :: _ => if shortSigns.contains c then some (String.ofList [c]) else none
    | [] => none

/-- Cuts a program into words. -/
def all : Nat → Cutting → (complaint : Option Octets) → Octets → Except LexicalFault (List Lexeme)
  | 0, s, _, _ => .ok [⟨.finish, s.line, none⟩]
  | fuel + 1, s, complaint, cs => do
    let put (token : Token) (s : Cutting) (rest : Octets) : Except LexicalFault (List Lexeme) := do
      let (rest, lines) := if dropsLines token then skipLines (rest.length + 1) rest else (rest, 0)
      let more ← all fuel { s with before := token, line := s.line + lines } none rest
      return ⟨token, s.line, complaint⟩ :: more
    let wrong (text : Octets) : Except LexicalFault (List Lexeme) := .error ⟨text⟩
    let line : Octets := "line " ++ Octets.ofNat s.line ++ ": "
    match cs with
    | [] =>
      match s.before with
      | .newline => return [⟨.finish, s.line, complaint⟩]
      | _ => return [⟨.newline, s.line, complaint⟩, ⟨.finish, s.line + 1, none⟩]
    | '\n' :: rest => do
      let (rest, lines) := skipLines (rest.length + 1) rest
      let more ← all fuel { s with before := .newline, line := s.line + 1 + lines } none rest
      return ⟨.newline, s.line, complaint⟩ :: more
    | '\\' :: '\n' :: rest => all fuel { s with line := s.line + 1 } complaint rest
    | '#' :: rest => all fuel s complaint (rest.dropWhile (· ≠ '\n'))
    | '"' :: rest =>
      match cutString rest with
      | some (text, rest, lines) =>
        put (.text (unescaped (text.length + 1) text)) { s with line := s.line + lines } rest
      | none => wrong (line ++ "runaway string constant \"" ++ rest.takeWhile (· ≠ '\n') ++ " ...")
    | c :: rest =>
      if Octets.isSpace c then all fuel s complaint rest
      else if c.isDigit || c == '.' && (rest.head?.any Char.isDigit) then
        let (written, rest) := cutNumber cs
        put (.number (numberOf written) written) s rest
      else if Octets.startsName c then
        let name := cs.takeWhile Octets.inName
        let rest := cs.drop name.length
        let plain := String.ofList name
        put (if words.contains plain then .word plain else .name name (rest.head? = some '(')) s rest
      else if c == '/' && !s.before.endsOperand then
        match cutRegex false rest with
        | some (source, rest) => put (.regex source) s rest
        | none => wrong (line ++ "runaway regular expression /" ++ rest.takeWhile (· ≠ '\n') ++ " ...")
      else
        match sign? cs with
        | none =>
          wrong (Octets.ofNat s.line ++ ": unexpected character " ++ ['\x27', c, '\x27'])
        | some sign =>
          let rest := cs.drop sign.length
          match sign with
          | "\x7b" => put (.sign sign) { s with braces := s.braces + 1 } rest
          | "\x7d" =>
            if s.braces = 0 then all fuel s (some (line ++ "extra \x27\x7d\x27")) rest
            else
              let closes := match s.before with
                | .newline => true
                | .closing => true
                | .sign cs => cs == ";" || cs == "\x7d"
                | _ => false
              if closes then
                let (rest, lines) := skipLines (rest.length + 1) rest
                let rest := match s.braces, lines, rest with
                  | 1, 0, ';' :: rest => rest
                  | _, _, rest => rest
                let (rest, more) := skipLines (rest.length + 1) rest
                let s := { s with braces := s.braces - 1 }
                let others ← all fuel { s with before := .sign sign, line := s.line + lines + more } none rest
                return ⟨.sign sign, s.line, complaint⟩ :: others
              else put .closing s cs
          | "(" => put (.sign sign) { s with parentheses := s.parentheses + 1 } rest
          | ")" =>
            if s.parentheses = 0 then all fuel s (some (line ++ "extra \x27)\x27")) rest
            else put (.sign sign) { s with parentheses := s.parentheses - 1 } rest
          | sign => put (.sign sign) s rest

/-- The words of a program. -/
def lexemes (program : Octets) : Except LexicalFault (List Lexeme) :=
  all (2 * program.length + 2) {} none program

end Lexing

end DocMend.Shell.Scan
