import DocMend.Shell.Find.Reading
import DocMend.Shell.Find.Walk
/-!
The tool that looks for files.
-/

set_option autoImplicit false
set_option relaxedAutoImplicit false

namespace DocMend.Shell.Tool

/-- The options in front of all names: how links are dealt with, and the words after them. -/
def findOptions : Find.Follows → List Octets → Run (Find.Follows × List Octets)
  | follows, word :: rest => do
    match word with
    | ['-', 'H'] => findOptions .starts rest
    | ['-', 'L'] => findOptions .always rest
    | ['-', 'P'] => findOptions .never rest
    | ['-', '-'] => return (follows, rest)
    | '-' :: 'O' :: digits =>
      if digits.isEmpty then
        abandon "find" 1
          "The -O option must be immediately followed by a decimal integer"
      if !(digits.all Char.isDigit) then
        abandon "find" 1 "Please specify a decimal number immediately after -O"
      findOptions follows rest
    | ['-', 'D'] =>
      match rest with
      | [] => refuse "find" 1 "Missing argument after the -D option."
      | flags :: rest => do
        let known : List String := ["exec", "opt", "rates", "search", "stat", "time", "tree", "all"]
        for flag in Text.pieces ',' flags do
          if !known.contains (String.ofList flag) then
            complain "find" ("Ignoring unrecognised debug flag " ++ quotedName flag)
        findOptions follows rest
    | _ => return (follows, word :: rest)
  | follows, [] => return (follows, [])

/-- The orders in an expression that are given many files. -/
def gatheringOrders : Find.Expression → List Find.Order
  | .test _ => []
  | .action (.run order) => if order.gathers then [order] else []
  | .action _ => []
  | .no expression => gatheringOrders expression
  | .both first second => gatheringOrders first ++ gatheringOrders second
  | .either first second => gatheringOrders first ++ gatheringOrders second
  | .sequence first second => gatheringOrders first ++ gatheringOrders second

/-- Looks for files. -/
def find (launcher : Launcher) : Tool := fun arguments => do
  match arguments.find? fun word =>
      ["-help", "--help", "-version", "--version"].contains (String.ofList word) with
  | some word =>
    Run.print (if word.contains 'h' then helpOf "find" else versionOf "find")
    return 0
  | none => pure ()
  let (follows, words) ← findOptions .never arguments
  let rec names : (isLeading : Bool) → List Octets → List Octets
    | _, [] => []
    | isLeading, word :: rest =>
      if Find.looksLikeExpression isLeading word then [] else word :: names true rest
  let starts := names true words
  let (_, reading) ← (Find.Reader.all (words.length + 1)).run
    { words := words.drop starts.length, settings := { follows } }
  let settings := reading.settings
  let expression ← match Find.expressionOf reading.tokens.reverse with
    | .ok expression => pure expression
    | .error fault => abandon "find" 1 fault.text
  if settings.removes && settings.skips && !settings.depthFirst then
    abandon "find" 1 ("The -delete action automatically turns on -depth, but -prune does nothing when " ++
      "-depth is in effect.  If you want to carry on anyway, just explicitly use the -depth option.")
  let plan : Find.Plan :=
    { settings := { settings with depthFirst := settings.depthFirst || settings.removes }
      expression, launcher, orders := gatheringOrders expression }
  let starts := if starts.isEmpty then [['.']] else starts
  let body : Find.Walking Unit := do
    starts.forM (Find.Walking.start plan)
    plan.orders.forM (Find.Walking.complete plan)
  let ((), progress) ← StateT.run body ({} : Find.Progress)
  return progress.status

end DocMend.Shell.Tool
