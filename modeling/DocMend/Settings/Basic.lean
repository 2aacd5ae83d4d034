import DocMend.Plan
import DocMend.Json.Basic
/-!
Settings of the program, and how a settings document is laid over defaults. Each field counts on its
own: where the document gives a usable value that value is taken, else the default stays.
-/

set_option autoImplicit false
set_option relaxedAutoImplicit false

namespace DocMend

/-- The settings of the program. -/
structure Settings where
  command : String
  dedupe : Bool
  windows : Windows
  phrases : Phrases
  repository : String
deriving DecidableEq, Repr

namespace Settings

/-- The name of the settings file. -/
def fileName : String := "doclint-autofix.config.json"

/-- The linter command used where nothing else is set. -/
def standardCommand : String := "bash .github/scripts/validate-all-javadoc.sh"

/-- The variable that names the repository. -/
def repositoryVariable : String := "GITHUB_REPOSITORY"

/-- The repository used where nothing else is set. -/
def localRepository : String := "local/repository"

/-- The defaults in an environment. -/
def standard (environment : List (String × String)) : Settings :=
  ⟨standardCommand, true, Windows.standard, [],
    (environment.lookup repositoryVariable).getD localRepository⟩

/-- A string that is not blank. -/
def usableText? (document : Option Json) : Option String :=
  match document.bind Json.string? with
  | some text => if Text.isBlankText text then none else some text
  | none => none

/-- A positive whole number. -/
def usableWindow? (document : Option Json) : Option Number :=
  match document.bind Json.number? with
  | some value => if value.isPositiveWhole then some value else none
  | none => none

/-- Lays the windows of a document over defaults. -/
def mergeWindows (document : Option Json) (defaults : Windows) : Windows :=
  ⟨(usableWindow? (document.bind (Json.get? "generic"))).getD defaults.parameter,
   (usableWindow? (document.bind (Json.get? "return"))).getD defaults.result⟩

/-- The usable phrases of a document. -/
def usablePhrases (document : Option Json) : Phrases :=
  ((document.bind Json.members?).getD []).filterMap fun (name, value) =>
    (usableText? (some value)).map fun phrase => (name, phrase)

/-- Lays phrases over others: a name that occurs in both takes the later phrase. -/
def overlay (base later : Phrases) : Phrases :=
  later.foldl (fun phrases (name, phrase) => setEntry phrases name phrase) base

/-- Lays a document over defaults; a document that is not an object changes nothing. -/
def merge (document : Json) (defaults : Settings) : Settings :=
  match document with
  | .object _ =>
    { command := (usableText? (document.get? "diagnosticsCommand")).getD defaults.command
      dedupe := ((document.get? "dedupe").bind Json.bool?).getD defaults.dedupe
      windows := mergeWindows (document.get? "windows") defaults.windows
      phrases := overlay defaults.phrases
        (usablePhrases (document.get? "typeParameterDescriptions"))
      repository := (usableText? (document.get? "repository")).getD defaults.repository }
  | _ => defaults

/-- Settings as a document. -/
def toJson (settings : Settings) : Json :=
  .object
    [("diagnosticsCommand", .string settings.command),
     ("dedupe", .bool settings.dedupe),
     ("windows", .object
       [("generic", .number settings.windows.parameter),
        ("return", .number settings.windows.result)]),
     ("typeParameterDescriptions", .object
       (settings.phrases.map fun (name, phrase) => (name, .string phrase))),
     ("repository", .string settings.repository)]

end Settings

end DocMend
