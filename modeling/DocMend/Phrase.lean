import DocMend.Json.Basic
import DocMend.Text.Blank
import DocMend.Text.Lowercase
import DocMend.Text.Search
/-!
Wording of comments: what to say of a type parameter, of a returned value and of a method, read off
naming conventions.
-/

set_option autoImplicit false
set_option relaxedAutoImplicit false

namespace DocMend

/-- Phrases by the name that they describe. -/
abbrev Phrases := List (String × String)

namespace Phrase

/-- The customary names of type parameters. -/
def customary : Phrases :=
  [("T", "the type parameter"),
   ("E", "the element type parameter"),
   ("K", "the key type parameter"),
   ("V", "the value type parameter"),
   ("C", "the command type parameter"),
   ("O", "the observer type parameter"),
   ("R", "the result type parameter"),
   ("CH", "the command handler type parameter"),
   ("F", "the field type parameter"),
   ("VO", "the value object type parameter"),
   ("S", "the state type parameter"),
   ("S1", "the source state type parameter"),
   ("S2", "the target state type parameter"),
   ("P", "the port type parameter")]

/-- The phrase for a type parameter that has no customary name. -/
def anyParameter : String := "the type parameter"

/-- The phrase for a type parameter: the project's own, else the customary one, else a general
one. -/
def ofParameter (name : String) (own : Phrases) : String :=
  match own.lookup name with
  | some phrase => phrase
  | none => (customary.lookup name).getD anyParameter

/-- Type names to look for in a declaration, and what a value of that type is. -/
def returnHints : List (String × String) :=
  [("boolean", "true if successful, false otherwise"),
   ("String", "the string representation"),
   ("List", "the list of items"),
   ("Optional", "an optional containing the result")]

/-- The phrase for a returned value of no known type. -/
def anyReturn : String := "the result of the operation"

/-- The phrase for the value that a declaration returns: the first hint that stands in the
declaration decides. -/
def ofReturn (declaration : String) : String :=
  match returnHints.find? fun hint => Text.contains declaration hint.1 with
  | some hint => hint.2
  | none => anyReturn

/-- Whether a text goes on with an opening parenthesis, blanks aside. -/
def opensCall (cs : List Char) : Bool :=
  match cs.dropWhile Text.isBlank with
  | '(' :: _ => true
  | _ => false

/-- The first word that is followed by an opening parenthesis. -/
def calledWord? : List Char → Option (List Char)
  | [] => none
  | c :: cs =>
    if Text.isWordChar c ∧ opensCall ((c :: cs).dropWhile Text.isWordChar) then
      some ((c :: cs).takeWhile Text.isWordChar)
    else calledWord? cs

/-- The name of the method that a line declares. -/
def methodName? (line : String) : Option String :=
  (calledWord? (Text.trim line.toList)).map String.ofList

/-- A word that begins method names, and the sentence made of the rest of the name. -/
structure Convention where
  lead : String
  opening : String

/-- The conventions for method names, in the order in which they are tried. -/
def conventions : List Convention :=
  [⟨"get", "Gets the "⟩, ⟨"set", "Sets the "⟩, ⟨"is", "Checks if "⟩, ⟨"has", "Checks if "⟩]

/-- Whether the rest of a name starts a new word: a capital letter, a digit or an underscore. -/
def startsWord : List Char → Bool
  | [] => false
  | c :: _ => c.isUpper || c.isDigit || c == '_'

/-- The sentence that a convention makes of a method name. -/
def Convention.sentence? (convention : Convention) (name : String) : Option String :=
  match Text.afterStart? convention.lead.toList name.toList with
  | some subject =>
    if startsWord subject then
      some (convention.opening ++ Text.lowered (String.ofList subject) ++ ".")
    else none
  | none => none

/-- The sentence that describes a method. -/
def ofMethod (name : String) : String :=
  match conventions.findSome? fun convention => convention.sentence? name with
  | some sentence => sentence
  | none => "Performs " ++ name ++ " operation."

end Phrase

end DocMend
