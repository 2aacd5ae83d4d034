import DocMend.Shell.Builtin.Folder
import DocMend.Shell.Rendering
/-!
The stack of folders of the extended language. The working folder is its top; the others are names to
which the shell can go back.
-/

set_option autoImplicit false
set_option relaxedAutoImplicit false

namespace DocMend.Shell

namespace Builtin

/-- The names on the stack, the working folder first. -/
def stackNames : Run (List Octets) := do
  let s ← Run.self
  return Octets.ofText s.route.text :: s.stack

/-- Replaces the names below the working folder. -/
def putStack (stack : List Octets) : Run Unit :=
  Run.modifySelf fun s => { s with stack }

/-- A position in the stack, counted from the top by a plus sign, or from the bottom by a minus sign. -/
def position? (size : Nat) (text : Octets) : Option (Option Nat) :=
  match text with
  | '+' :: digits =>
    if Text.isDigits digits then
      let n := Text.digitsValue digits
      some (if n < size then some n else none)
    else none
  | '-' :: digits =>
    if Text.isDigits digits then
      let n := Text.digitsValue digits
      some (if n < size then some (size - 1 - n) else none)
    else none
  | _ => none

/-- How a list of the stack is printed: without tildes, a name a line, with numbers. -/
structure StackForm where
  long : Bool := false
  lines : Bool := false
  numbered : Bool := false

/-- A name on the stack with its number in a form. -/
def StackForm.line (form : StackForm) (home name : Octets) (n : Nat) : Octets :=
  let shown := if form.long then name else Rendering.withTilde home name
  if form.numbered then
    let number := Octets.ofNat n
    List.replicate (2 - number.length) ' ' ++ number ++ [' ', ' '] ++ shown
  else shown

/-- Prints the stack. -/
def printStack (form : StackForm) : Run Unit := do
  let names ← stackNames
  let home := (← Run.self).text "HOME"
  let shown := names.zip (List.range names.length) |>.map fun (name, n) => form.line home name n
  if form.lines || form.numbered then
    for line in shown do
      Run.printLine line
  else Run.printLine (Text.joined [' '] shown)

/-- Refuses a position that the stack does not have. -/
def refusePosition (text : Octets) : Run Nat := do
  if (← Run.self).stack.isEmpty then Run.warn "directory stack empty"
  else Run.warn (text ++ ": directory stack index out of range")
  return 1

/-- Refuses an argument. -/
def refuseWord {α : Type} (text : Octets) (what : String) : Run α := do
  Run.warn (text ++ ": invalid " ++ what)
  usage

/-- The builtin that prints the stack. -/
def printFolders : Builtin := fun _ arguments => do
  let names ← stackNames
  let mut form : StackForm := {}
  let mut chosen : Option Nat := none
  let mut clears := false
  for word in arguments do
    match word, position? names.length word with
    | _, some (some n) => chosen := some n
    | _, some none => return ← refusePosition (word.drop 1)
    | ['-', 'c'], none => clears := true
    | ['-', 'l'], none => form := { form with long := true }
    | ['-', 'p'], none => form := { form with lines := true }
    | ['-', 'v'], none => form := { form with numbered := true }
    | '-' :: _, none => refuseWord word "number"
    | '+' :: _, none => refuseWord word "number"
    | _, none => refuseWord word "option"
  if clears then putStack []
  else
    match chosen with
    | none => printStack form
    | some n =>
      let home := (← Run.self).text "HOME"
      Run.printLine (form.line home ((names[n]?).getD []) n)
  return 0

/-- Goes to the first of some names, which become the stack. -/
def goTo (e : Engine) (names : List Octets) : Run Nat := do
  match names with
  | [] => return 0
  | name :: below =>
    let status ← changeFolder e [name]
    if status = 0 then
      putStack below
      printStack {}
    return status

/-- The builtin that puts a folder on the stack and goes there, or turns the stack. -/
def pushFolder : Builtin := fun e arguments => do
  let names ← stackNames
  let (stays, words) := match arguments with
    | ['-', 'n'] :: rest => (true, rest)
    | ['-', '-'] :: rest => (false, rest)
    | words => (false, words)
  match words with
  | [] =>
    match names with
    | here :: next :: rest => if stays then return 0 else goTo e (next :: here :: rest)
    | _ =>
      Run.warn "no other directory"
      return 1
  | [word] =>
    match word, position? names.length word with
    | _, some (some n) =>
      let turned := names.drop n ++ names.take n
      if stays then
        putStack (turned.drop 1)
        printStack {}
        return 0
      goTo e turned
    | _, some none => refusePosition word
    | ['-'], none => goTo e (word :: names)
    | '-' :: _, none => refuseWord word "number"
    | _, none =>
      if stays then
        putStack (word :: names.drop 1)
        printStack {}
        return 0
      let status ← changeFolder e [word]
      if status = 0 then
        putStack names
        printStack {}
      return status
  | _ =>
    Run.warn "too many arguments"
    return 1

/-- The builtin that takes a folder off the stack, and goes to the next one if it was the top. -/
def popFolder : Builtin := fun e arguments => do
  let names ← stackNames
  let (stays, words) := match arguments with
    | ['-', 'n'] :: rest => (true, rest)
    | words => (false, words)
  let position ← match words with
    | [] => pure (some 0)
    | word :: _ =>
      match position? names.length word, word with
      | some (some n), _ => pure (some n)
      | some none, _ => pure none
      | none, '-' :: _ => refuseWord word "number"
      | none, _ => refuseWord word "argument"
  match position with
  | none => refusePosition (words.headD [])
  | some n =>
    if (names.drop 1).isEmpty then
      Run.warn "directory stack empty"
      return 1
    if n = 0 && !stays then goTo e (names.drop 1)
    else
      putStack ((names.drop 1).eraseIdx (n - 1))
      printStack {}
      return 0

end Builtin

end DocMend.Shell
