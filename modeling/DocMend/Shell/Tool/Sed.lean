import DocMend.Shell.Edit.Cycle
/-!
The tool that edits streams of lines.
-/

set_option autoImplicit false
set_option relaxedAutoImplicit false

namespace DocMend.Shell.Tool

/-- The options of the tool that edits streams. -/
def sedOptions : Options where
  letters := "bsnrzuEe:f:l:i::V:"
  names := ["binary=b", "debug", "regexp-extended=r", "expression=e", "file=f", "follow-symlinks",
    "in-place=i", "line-length=l", "null-data=z", "zero-terminated=z", "quiet=n", "posix",
    "silent=n", "sandbox", "separate=s", "unbuffered=u"]

/-- How the tool that edits streams is used. -/
def sedUsage : Octets :=
  helpOf "sed" ++ ("\n  -n, --quiet, --silent\n" ++
    "                 suppress automatic printing of pattern space\n").toList

/-- Edits streams of lines. -/
def sed (launcher : Launcher) : Tool := fun arguments => do
  let wrong {α : Type} (text : Octets) (status : Nat) : Run α := abandon "sed" status text
  let usage {α : Type} : Run α := do
    let _ ← Run.write 2 sedUsage
    Run.setStatus 1
    throw .failure
  let (given, operands) ← match sedOptions.read arguments with
    | .error fault =>
      complain "sed" fault.text
      usage
    | .ok result => pure result
  if has given "help" then
    Run.print (helpOf "sed")
    return 0
  if has given "version" then
    Run.print (versionOf "sed")
    return 0
  let scripts := given.filter fun g => g.key == "e" || g.key == "f"
  let (texts, files) ← do
    if scripts.isEmpty then
      match operands with
      | [] => usage
      | text :: files => pure ([(Edit.Source.argument 1, text)], files)
    else
      let mut texts : List (Edit.Source × Octets) := []
      let mut count := 0
      for g in scripts do
        let argument := g.argument.getD []
        if g.key == "e" then
          count := count + 1
          texts := texts ++ [(.argument count, argument)]
        else
          match ← readSource argument with
          | .ok text => texts := texts ++ [(.file argument, text)]
          | .error refusal =>
            wrong ("couldn\x27t open file " ++ argument ++ ": " ++ reason refusal) 4
      pure (texts, operands)
  let extended := has given "r" || has given "E"
  let long := has given "z"
  let (script, targets) ← match Edit.Script.read extended long texts with
    | .ok result => pure result
    | .error (.complaint c) => wrong c.text 1
    | .error (.noLabel name) =>
      wrong ("can\x27t find label for jump to " ++ Edit.inMarks name) 4
  if has given "i" && files.isEmpty then wrong "no input files" 4
  let mut opened : List (Octets × Nat × Bool) := []
  for name in targets do
    if !(opened.any fun t => t.1 == name) then
      match ← Run.openName name { writes := true, creates := true, empties := true } with
      | .ok index => opened := opened ++ [(name, index, false)]
      | .error refusal => wrong ("couldn\x27t open file " ++ name ++ ": " ++ reason refusal) 4
  let inPlace : Option Octets := (lastOf? given ["i"]).map fun g => g.argument.getD []
  let manner : Edit.Manner :=
    { quiet := has given "n" || script.quiet, separate := has given "s" || inPlace.isSome, inPlace
      finish := if long then '\x00' else '\n'
      width := (((valueOf? given "l").bind natural?).getD 70), texts := script.texts }
  let launch : Edit.Editing.Launch := fun command => do
    let (index, machine) := (← Run.machine).addChannel (.pipe [] [])
    Run.modifyMachine fun _ => machine
    let _ ← launcher.spawn (Run.connect 1 index) ["sh", "-c", command] (fun _ => return 127)
    match (← Run.machine).available index with
    | .ok text => return text
    | .error _ => return []
  let start : Edit.State :=
    { files := if files.isEmpty then [['-']] else files
      spans := Array.replicate script.instructions.size .idle, targets := opened }
  let (status, _) ← (Edit.Editing.all manner launch script Edit.Editing.patience true).run start
  return status

end DocMend.Shell.Tool
