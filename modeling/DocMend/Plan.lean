import DocMend.Number.Decimal
import DocMend.Phrase
import DocMend.Remedy
import DocMend.Source.Basic
/-!
Why a single repair fails. The causes are values; their wording is in one place.

Plans: the one insertion that mends an issue in a given source. A tag goes right before the end of
the comment block above the declaration, with the indent of that line; a new block goes right before
the declaration, with the declaration's indent.
-/

set_option autoImplicit false
set_option relaxedAutoImplicit false

namespace DocMend

/-- The two ways to reach a stored file. -/
inductive Access where
  | read
  | write
deriving DecidableEq, Repr

/-- The verb of an access. -/
def Access.verb : Access → String
  | read => "read"
  | write => "write"

/-- The causes of a failed repair: no end of a comment block within the window above the line, no
declaration on the line, or a file that cannot be read or written. -/
inductive Failure where
  | anchorNotFound (path : String) (line window : Number)
  | signatureNotFound (path : String) (line : Number)
  | inaccessible (path : String) (access : Access) (detail : String)
deriving DecidableEq, Repr

/-- The wording of a failure. -/
def Failure.reason : Failure → String
  | anchorNotFound _ line window =>
    "no doc-comment terminator within " ++ window.text ++ " lines above line " ++ line.text
  | signatureNotFound _ line => "no method signature on line " ++ line.text
  | inaccessible _ access detail => access.verb ++ " failed: " ++ detail

/-- How many lines above a declaration are searched for the end of its comment block. -/
structure Windows where
  parameter : Number
  result : Number
deriving DecidableEq, Repr

/-- The windows used where nothing else is set. -/
def Windows.standard : Windows := ⟨18, 13⟩

/-- What planning depends on besides the issue and the source. -/
structure Plan.Options where
  windows : Windows := Windows.standard
  phrases : Phrases := []
deriving DecidableEq, Repr

namespace Plan

/-- A tag as a line of the comment block that `blockEnd` ends. -/
def tagLine (blockEnd tag : String) : String :=
  Line.indent blockEnd ++ "* " ++ tag

/-- A new comment block of three lines. -/
def block (indent summary : String) : List String :=
  [indent ++ "/**", indent ++ " * " ++ summary, indent ++ " */"]

/-- The tag that documents a type parameter. -/
def parameterTag (name : String) (phrases : Phrases) : String :=
  "@param <" ++ name ++ "> " ++ Phrase.ofParameter name phrases

/-- The tag that documents the value returned by a declaration. -/
def returnTag (declaration : String) : String :=
  "@return " ++ Phrase.ofReturn declaration

/-- Plans a tag in the comment block above the issue's line. -/
def tag (source : Source) (issue : Issue) (window : Number) (tag : String) :
    Except Failure Insertion :=
  match source.anchor? issue.line window with
  | some index =>
    match source.lines[index]? with
    | some raw => .ok ⟨Number.ofNat index, [tagLine (Line.content raw) tag]⟩
    | none => .error (.anchorNotFound issue.path issue.line window)
  | none => .error (.anchorNotFound issue.path issue.line window)

/-- Plans a tag for the value returned by the declaration on the issue's line. -/
def returned (source : Source) (issue : Issue) (window : Number) : Except Failure Insertion :=
  match source.contentAt? (issue.line - 1) with
  | some declaration => tag source issue window (returnTag declaration)
  | none => .error (.signatureNotFound issue.path issue.line)

/-- Plans a new comment block for the declaration on the issue's line. -/
def comment (source : Source) (issue : Issue) : Except Failure Insertion :=
  match source.declaration? issue.line with
  | some index =>
    match source.lines[index]? with
    | some raw =>
      let declaration := Line.content raw
      match Phrase.methodName? declaration with
      | some name =>
        .ok ⟨Number.ofNat index, block (Line.indent declaration) (Phrase.ofMethod name)⟩
      | none => .error (.signatureNotFound issue.path issue.line)
    | none => .error (.anchorNotFound issue.path issue.line 0)
  | none => .error (.anchorNotFound issue.path issue.line 0)

/-- The insertion that carries out a remedy for an issue. -/
def ofRemedy (remedy : Remedy) (issue : Issue) (source : Source) (options : Options) :
    Except Failure Insertion :=
  match remedy with
  | .parameterTag name =>
    tag source issue options.windows.parameter (parameterTag name options.phrases)
  | .returnTag => returned source issue options.windows.result
  | .commentBlock => comment source issue

end Plan

end DocMend
