import DocMend.Json.Writer
import DocMend.Number.Decimal
import DocMend.Text.Blank
import DocMend.Text.Search
/-!
Issues that a documentation linter reports, and the marks by which its lines are recognised.

Reading of linter output. A line reports an issue when it carries a mark and has the form file,
colon, line number, colon, message; the colon of a leading drive belongs to the file, and a message
keeps all its colons. Every other line is passed over.

Repeated issues. Two issues count as the same when their keys are equal; the key writes path, line
and message as one JSON array. Of equal issues the first is kept, in place.
-/

set_option autoImplicit false
set_option relaxedAutoImplicit false

namespace DocMend

/-- One reported issue: a file, a line counted from one, and the message. -/
structure Issue where
  path : String
  line : Number
  message : String
deriving DecidableEq, Repr

namespace Diagnostic

/-- What stands before the bracketed name of an undocumented type parameter. -/
def parameterLead : String := "no @param for <"

/-- The bracket text right after an opening bracket: one or more characters up to the next closing
bracket. -/
def bracketText? (cs : List Char) : Option (List Char) :=
  match cs.takeWhile (· ≠ '>'), cs.dropWhile (· ≠ '>') with
  | c :: name, _ :: _ => some (c :: name)
  | _, _ => none

/-- The bracket text of the first report of an undocumented type parameter. -/
def parameterText? : List Char → Option (List Char)
  | [] => none
  | c :: cs =>
    match (Text.afterStart? parameterLead.toList (c :: cs)).bind bracketText? with
    | some name => some name
    | none => parameterText? cs

/-- Marks of a line that reports something. -/
def marks : List String := ["warning:", "error:"]

/-- Whether a line carries a mark or reports an undocumented type parameter. -/
def hasMark (line : String) : Bool :=
  marks.any (Text.contains line) || (parameterText? line.toList).isSome

end Diagnostic

/-- An issue on one line, as a linter prints it. -/
def Issue.text (issue : Issue) : String :=
  issue.path ++ ":" ++ issue.line.text ++ ":" ++ issue.message

end DocMend

namespace DocMend.Diagnostic

/-- The drive at the beginning of a path, such as `C:` before a slash or a backslash, and the text
that follows it. -/
def splitDrive (cs : List Char) : List Char × List Char :=
  match cs with
  | letter :: ':' :: mark :: rest =>
    if letter.isAlpha ∧ (mark = '\\' ∨ mark = '/') then ([letter, ':'], mark :: rest) else ([], cs)
  | _ => ([], cs)

/-- The line number that a field writes: decimal digits with blanks around them. -/
def lineNumber? (field : List Char) : Option Number :=
  let digits := Text.trim field
  if Text.isDigits digits then some (Number.ofNat (Text.digitsValue digits)) else none

/-- The issue of a line that has a mark. -/
def fields? (cs : List Char) : Option Issue :=
  let (drive, body) := splitDrive (Text.trimStart cs)
  match Text.pieces ':' body with
  | first :: field :: part :: parts =>
    let path := Text.trim (drive ++ first)
    match lineNumber? field with
    | some line =>
      if path.isEmpty then none
      else some ⟨String.ofList path, line,
        String.ofList (Text.trim (Text.joined [':'] (part :: parts)))⟩
    | none => none
  | _ => none

/-- The issue that a line reports. -/
def readLine? (line : String) : Option Issue :=
  if hasMark line then fields? line.toList else none

/-- The issues that a text reports, in order. -/
def readAll (text : String) : List Issue :=
  (Text.lines text.toList).filterMap fun line => readLine? (String.ofList line)

end DocMend.Diagnostic

namespace DocMend

/-- The key of an issue. -/
def Issue.key (issue : Issue) : String :=
  (Json.array [.string issue.path, .number issue.line, .string issue.message]).text

namespace Diagnostic

/-- The issues whose key is neither among `seen` nor that of an earlier issue. -/
def distinctAfter (seen : List String) : List Issue → List Issue
  | [] => []
  | issue :: rest =>
    if issue.key ∈ seen then distinctAfter seen rest
    else issue :: distinctAfter (issue.key :: seen) rest

/-- First occurrences only. -/
def distinct (issues : List Issue) : List Issue :=
  distinctAfter [] issues

/-- The issues that a text reports, without repetitions where `dedupe` asks for it. -/
def collect (dedupe : Bool) (text : String) : List Issue :=
  if dedupe then distinct (readAll text) else readAll text

end Diagnostic

end DocMend
