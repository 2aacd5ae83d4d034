import DocMend.Shell.Expansion
/-!
Traces of what a shell does, on its standard error. Every line begins with a mark, whose first character
the extended language repeats for each script that runs inside another one.
-/

set_option autoImplicit false
set_option relaxedAutoImplicit false

namespace DocMend.Shell

namespace Trace

/-- The text before every line of a trace. -/
def mark (e : Engine) : Run Octets := do
  let s ← Run.self
  Run.modifySelf fun s => { s with options := s.options.filter (· != "xtrace") }
  let text ← Expansion.ofTemplate e (s.text "PS4")
  Run.modifySelf fun now => { now with options := s.options }
  match s.dialect, text with
  | .extended, c :: rest => return List.replicate s.level c ++ c :: rest
  | _, text => return text

/-- Writes lines of a trace to a channel. -/
def write (e : Engine) (channel : Option Nat) (lines : List Octets) : Run Unit := do
  if lines.isEmpty then return
  let first ← mark e
  match channel with
  | none => return
  | some index =>
    match (← Run.machine).write index (lines.flatMap fun line => first ++ line ++ ['\n']) with
    | .ok m => Run.modifyMachine fun _ => m
    | .error _ => return

/-- Shows a line where this is asked for in the extended language. -/
def show1 (e : Engine) (line : Run Octets) : Run Unit := do
  if (← Run.has "xtrace") && (← Run.isExtended) then
    write e (← Run.channel? 2) [← line]

/-- Shows a command where this is asked for: its words, and in the POSIX language what it assigns before
them. -/
def command (e : Engine) (channel : Option Nat) (assigned fields : List Octets) : Run Unit := do
  if !(← Run.has "xtrace") then return
  let line (words : List Octets) : Octets := Text.joined [' '] words
  if ← Run.isExtended then
    write e channel (if fields.isEmpty then [] else [line (fields.map Quoting.traced)])
  else write e channel [line (assigned ++ fields)]

/-- The characters of a pattern, with backslashes before those that are quoted. -/
def pattern (text : PatternText) : Octets :=
  text.flatMap fun (c, quoted) => if quoted then ['\\', c] else [c]

/-- A word of a condition: an empty one shows as quotation marks. -/
def operand (text : Octets) : Octets :=
  if text.isEmpty then ['\x27', '\x27'] else text

end Trace

end DocMend.Shell
