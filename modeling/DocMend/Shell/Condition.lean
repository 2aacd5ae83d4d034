import DocMend.Shell.Builtin.Test
import DocMend.Shell.Regex.Reading
import DocMend.Shell.Regex.Search
import DocMend.Shell.Trace
/-!
Conditions between double brackets. Their words are not cut into fields; the right side of a
comparison is a pattern or a regular expression as far as it is not quoted.
-/

set_option autoImplicit false
set_option relaxedAutoImplicit false

namespace DocMend.Shell

namespace Condition

/-- A text as a regular expression: what is quoted stands for itself. -/
def regexText (text : PatternText) : Octets :=
  text.flatMap fun (c, quoted) =>
    if quoted && "\\.[]()*+?\x7b\x7d|^$".toList.contains c then ['\\', c] else [c]

/-- How regular expressions are written in conditions. -/
def regexStyle (fold : Bool) : Regex.Style :=
  { extended := true, fold, refusesLeading := true, looseClose := true }

/-- Whether a regular expression occurs in a text; the texts of its groups are kept. -/
def searches (e : Engine) (text : Octets) (word : Word) : Run Bool := do
  let source := regexText (textOf (← e.expand { tilde := true } word))
  match Regex.read (regexStyle (← Run.has "nocasematch")) source with
  | .error _ =>
    Run.setStatus 2
    throw .failure
  | .ok (r, count) =>
    let subject := Regex.Subject.ofOctets text
    match r.searcher.find? subject 0 with
    | none =>
      Run.setElements "BASH_REMATCH" []
      return false
    | some found =>
      Run.setElements "BASH_REMATCH" ((List.range (count + 1)).map (found.text subject))
      return true

/-- Whether two words compare by an operator. -/
def compares (e : Engine) (operator : Octets) (left right : Word) : Run Bool := do
  let first ← Expansion.text e left
  let takesPattern := ["=", "==", "!="].contains (Octets.name operator)
  Trace.show1 e (do
    let second := textOf (← e.expand { tilde := true } right)
    let shown := if takesPattern then Trace.pattern second else second.map Prod.fst
    return "[[ " ++ Trace.operand first ++ [' '] ++ operator ++ [' '] ++ Trace.operand shown ++ " ]]")
  match Octets.name operator with
  | "=" => Expansion.takes e right first true
  | "==" => Expansion.takes e right first true
  | "!=" => return !(← Expansion.takes e right first true)
  | "=~" => searches e first right
  | _ =>
    let second ← Expansion.text e right
    match Test.comparison? operator with
    | some compare => return compare (← Run.compute first) (← Run.compute second)
    | none =>
      match Test.binary .extended (← Builtin.view) operator first second with
      | .ok holds => return holds
      | .error complaint => Run.fail complaint

/-- Whether a condition holds. -/
def holds (e : Engine) : Condition → Run Bool
  | .text word => do
    let text ← Expansion.text e word
    Trace.show1 e (return "[[ -n " ++ Trace.operand text ++ " ]]")
    return !text.isEmpty
  | .unary operator word => do
    let text ← Expansion.text e word
    Trace.show1 e (return "[[ " ++ operator ++ [' '] ++ Trace.operand text ++ " ]]")
    let text ← if operator == ['-', 'v'] then Builtin.asked e text else pure text
    match Test.unary .extended (← Builtin.view) operator text with
    | .ok holds => return holds
    | .error complaint => Run.fail complaint
  | .binary operator left right => compares e operator left right
  | .negated inner => return !(← holds e inner)
  | .group inner => holds e inner
  | .both first second => do
    if ← holds e first then holds e second else return false
  | .either first second => do
    if ← holds e first then return true else holds e second

end Condition

end DocMend.Shell
