import DocMend.Shell.Print.Escape
import DocMend.Shell.Tool.Basic
/-!
The tool that runs a program with words from its input. The words are gathered until there are as many
as are asked for, or as many as fit; or every line takes the place of a mark in the words that are
given.
-/

set_option autoImplicit false
set_option relaxedAutoImplicit false

namespace DocMend.Shell.Tool

/-- How words are gathered. -/
structure Gathering where
  /-- The character behind every word, if quotation marks and blanks mean nothing. -/
  delimiter : Option Char := none
  finish : Option Octets := none
  mark : Option Octets := none
  words : Nat := 0
  lines : Nat := 0
  bytes : Nat := 131072
  strict : Bool := false
  runsIdle : Bool := true
  tells : Bool := false
  asks : Bool := false
  source : Option Octets := none

namespace Gathering

/-- A number as the argument of an option. -/
def number (letter : Char) (least : Nat) (text : Octets) : Run Nat := do
  match Octets.decimal? text with
  | none =>
    refuse "xargs" 1 ("invalid number \"" ++ text ++ "\" for -" ++ [letter] ++ " option")
  | some n =>
    if n < least then
      refuse "xargs" 1 ("value " ++ text ++ " for -" ++ [letter] ++ " option should be >= " ++
        Octets.ofNat least)
    return n.toNat

/-- The character that an argument stands for. -/
def delimiterOf (text : Octets) : Run Char := do
  match text with
  | [c] => return c
  | '\\' :: c :: rest =>
    let (n, after) : Nat × Octets :=
      if c == 'x' then Escape.digits 16 2 rest
      else if Escape.isOctal c then Escape.digits 8 3 (c :: rest)
      else
        match Escape.letter? c with
        | some value => (value.toNat, rest)
        | none => (c.toNat, if c == '\\' then rest else ['?'])
    if after.isEmpty && !(c == 'x' && rest.isEmpty) then return Escape.byteOf n
    abandon "xargs" 1 ("Invalid escape sequence " ++ text ++ " in input delimiter specification.")
  | _ =>
    abandon "xargs" 1 ("Invalid input delimiter specification " ++ text ++ ": the delimiter must be " ++
      "either a single character or an escape sequence starting with \\.")

/-- Notes that an option makes one before it idle. -/
def excludes (option earlier : String) (holds : Bool) : Run Unit := do
  if holds then
    complain "xargs" ("warning: options " ++ earlier ++ " and " ++ option ++
      " are mutually exclusive, ignoring previous " ++ earlier ++ " value")

/-- Lets every line take the place of a mark. -/
def replacing (g : Gathering) (mark : Octets) : Run Gathering := do
  excludes "--replace/-I/-i" "--max-args" (g.words ≠ 0)
  excludes "--replace/-I/-i" "--max-lines" (g.lines ≠ 0)
  return { g with mark := some mark, words := 0, lines := 0 }

/-- Gathers the words of some lines. -/
def byLines (g : Gathering) (option : String) (text : Octets) : Run Gathering := do
  let n ← number (if option = "-L" then 'L' else 'l') 1 text
  excludes option "--max-args" (g.words ≠ 0)
  excludes option "--replace" g.mark.isSome
  return { g with lines := n, words := 0, mark := none }

/-- Gathers some words. -/
def byWords (g : Gathering) (text : Octets) : Run Gathering := do
  let n ← number 'n' 1 text
  excludes "--max-args/-n" "--max-lines" (g.lines ≠ 0)
  if n = 1 && g.mark.isSome then return { g with lines := 0 }
  excludes "--max-args/-n" "--replace" g.mark.isSome
  return { g with words := n, lines := 0, mark := none }

/-- Adds what an option asks for. -/
def add (g : Gathering) (o : Given) : Run Gathering := do
  let text := o.argument.getD []
  match o.key with
  | "0" => return { g with delimiter := some '\x00' }
  | "d" => return { g with delimiter := some (← delimiterOf text) }
  | "a" => return { g with source := some text }
  | "E" => return { g with finish := if text.isEmpty then none else some text }
  | "e" => return { g with finish := o.argument }
  | "r" => return { g with runsIdle := false }
  | "t" => return { g with tells := true }
  | "p" => return { g with asks := true }
  | "x" => return { g with strict := true }
  | "P" =>
    let _ ← number 'P' 0 text
    return g
  | "s" => return { g with bytes := ← number 's' 1 text }
  | "n" => g.byWords text
  | "I" => g.replacing text
  | "i" => g.replacing (o.argument.getD ['\x7b', '\x7d'])
  | "L" => g.byLines "-L" text
  | "l" => g.byLines "--max-lines/-l" (o.argument.getD ['1'])
  | _ => return g

end Gathering

/-- What is next in an input. -/
inductive Item where
  | word (text : Octets)
  /-- The end of a line; not every one counts. -/
  | line
  /-- A quotation mark of a kind was not closed. -/
  | unclosed (mark : Char)
deriving DecidableEq, Repr

/-- How far a word was read: nothing of it, or something of it, or behind a backslash, or behind a
quotation mark. -/
inductive Midway where
  | space
  | plain
  | backslash
  | quote (mark : Char)
deriving DecidableEq, Repr

/-- How a word goes on with a character that is no blank and no line end. -/
def goesOn (c : Char) (word : Octets) : Midway × Octets :=
  if c == '\\' then (.backslash, word)
  else if c == '\x27' || c == '"' then (.quote c, word)
  else (.plain, c :: word)

/-- Cuts an input into words and lines. Where whole lines are words, blanks do not end a word. A blank
at the end of a line lets the line go on. -/
def items (whole : Bool) : Midway → (word : Octets) → (seen : Bool) → Octets → List Item
  | midway, word, _, [] =>
    if word.isEmpty then []
    else
      match midway with
      | .quote mark => [.unclosed mark]
      | _ => [.word word.reverse, .line]
  | .space, word, seen, c :: rest =>
    if Octets.isSpace c then items whole .space word seen rest
    else
      let (midway, word) := goesOn c word
      items whole midway word true rest
  | .plain, word, seen, c :: rest =>
    if c == '\n' then
      if word.isEmpty && !seen then items whole .space [] false rest
      else .word word.reverse :: .line :: items whole .space [] false rest
    else if !whole && Octets.isSpace c then .word word.reverse :: items whole .space [] seen rest
    else
      let (midway, word) := goesOn c word
      items whole midway word true rest
  | .backslash, word, _, c :: rest => items whole .plain (c :: word) true rest
  | .quote mark, word, _, c :: rest =>
    if c == '\n' then [.unclosed mark]
    else if c == mark then items whole .plain word true rest
    else items whole (.quote mark) (c :: word) true rest

/-- Cuts an input into words behind each of which stands a character. -/
def delimited (c : Char) (text : Octets) : List Item :=
  let all := Text.pieces c text
  let words := if all.getLast? = some [] then all.dropLast else all
  words.flatMap fun word => [.word word, .line]

/-- A word with a text in place of every mark. -/
def filledMark (mark text : Octets) : Nat → Octets → Octets
  | 0, word => word
  | _, [] => []
  | fuel + 1, c :: rest =>
    match Text.afterStart? mark (c :: rest) with
    | some after => text ++ filledMark mark text fuel after
    | none => c :: filledMark mark text fuel rest

/-- The options of the tool that runs a program with words from its input. -/
def xargsOptions : Options where
  letters := "0a:E:e::i::I:l::L:n:prs:txP:d:o"
  names := ["null=0", "arg-file=a", "delimiter=d", "eof=e", "replace=i", "max-lines=l", "max-args=n",
    "open-tty=o", "interactive=p", "no-run-if-empty=r", "max-chars=s", "verbose=t", "show-limits",
    "exit=x", "max-procs=P", "process-slot-var:"]
  leading := true

/-- The number of bytes that words take up. -/
def bytesOf (words : List Octets) : Nat :=
  words.foldl (fun n word => n + word.length + 1) 0

/-- Runs a program with words; whether it went well. Where it did not in a way that ends all, nothing
else is run. -/
def launchGathered (launcher : Launcher) (g : Gathering) (slot : Option Octets) (words : List Octets) :
    Run Bool := do
  let words := words.map fun word => word.takeWhile (· ≠ '\x00')
  let name := words.headD []
  if g.tells || g.asks then
    let line := Text.joined [' '] (words.map shownName)
    let _ ← Run.write 2 (if g.asks then line else line ++ ['\n'])
  if g.asks then
    abandon "xargs" 1 ("failed to open /dev/tty for reading: " ++ reason .noDevice)
  let (failed, machine) := (← Run.machine).addChannel (.pipe [] [])
  Run.modifyMachine fun _ => machine
  let prepare : Run Unit := do
    match slot with
    | some name => Run.putVariable name (.ofText ['0'] true)
    | none => pure ()
    if g.source.isNone then
      let _ ← Run.connectNew 0 .nothing
  let refused (refusal : Refusal) : Run Nat := do
    complain "xargs" (shownName name ++ ": " ++ reason refusal)
    match (← Run.machine).write failed ['x'] with
    | .ok changed => Run.modifyMachine fun _ => changed
    | .error _ => pure ()
    return if refusal = .missing then 127 else 126
  match ← launcher.spawn prepare words refused with
  | .signal n => abandon "xargs" 125 (shownName name ++ ": terminated by signal " ++ Octets.ofNat n)
  | .status n =>
    match (← Run.machine).available failed with
    | .ok (_ :: _) => do
      Run.setStatus n
      throw .failure
    | _ => pure ()
    if n = 255 then
      abandon "xargs" 124 (shownName name ++ ": exited with status 255; aborting")
    return n = 0

/-- Runs a program with words from the input. -/
def xargs (launcher : Launcher) : Tool := fun arguments => do
  let (given, operands) ← options "xargs" 1 xargsOptions arguments
  let mut g : Gathering := {}
  for o in given do
    g ← g.add o
  let words := if operands.isEmpty then ["echo".toList] else operands
  let text ← match g.source with
    | none =>
      match ← Run.readAll 0 with
      | .ok text => pure text
      | .error _ => pure []
    | some name =>
      match ← readSource name with
      | .ok text => pure text
      | .error refusal =>
        abandon "xargs" 1 ("Cannot open input file " ++ marked name ++ ": " ++ reason refusal)
  let all := match g.delimiter with
    | some c => delimited c text
    | none => items g.mark.isSome .space [] false text
  let all := match g.finish with
    | some word => if g.delimiter.isNone then all.takeWhile (· ≠ Item.word word) else all
    | none => all
  if g.delimiter.isNone && text.contains '\x00' then
    complain "xargs" ("WARNING: a NUL character occurred in the input.  It cannot be passed through in " ++
      "the argument list.  Did you mean to use the --null option?")
  let launch := launchGathered launcher g (valueOf? given "process-slot-var")
  let least := bytesOf words
  let mut gathered : List Octets := []
  let mut size := least
  let mut lines := 0
  let mut clean := true
  let mut ran := false
  for item in all do
    match item with
    | .word word =>
      if g.bytes < least + word.length + 1 then
        if !gathered.isEmpty then
          let _ ← launch (words ++ gathered.reverse)
        abandon "xargs" 1 "argument line too long"
      match g.mark with
      | some mark =>
        let filled := (words.drop 1).map fun (part : Octets) =>
          filledMark mark word (part.length + 1) part
        if !(← launch (words.take 1 ++ filled)) then clean := false
        ran := true
      | none =>
        let isOver := g.bytes < size + word.length + 1
        if isOver && g.strict && (g.words ≠ 0 || g.lines ≠ 0) then
          abandon "xargs" 1 "argument list too long"
        if isOver || g.words ≠ 0 && gathered.length = g.words then
          if !(← launch (words ++ gathered.reverse)) then clean := false
          ran := true
          gathered := []
          size := least
          lines := 0
        gathered := word :: gathered
        size := size + word.length + 1
    | .line =>
      lines := lines + 1
      if g.lines ≠ 0 && g.lines ≤ lines && g.mark.isNone then
        if !(← launch (words ++ gathered.reverse)) then clean := false
        ran := true
        gathered := []
        size := least
        lines := 0
    | .unclosed mark =>
      if !gathered.isEmpty then
        let _ ← launch (words ++ gathered.reverse)
      abandon "xargs" 1 ("unmatched " ++ (if mark == '"' then "double" else "single") ++ " quote; by " ++
        "default quotes are special to xargs unless you use the -0 option")
  if !gathered.isEmpty || !ran && g.runsIdle && g.mark.isNone then
    if !(← launch (words ++ gathered.reverse)) then clean := false
  return if clean then 0 else 123

end DocMend.Shell.Tool
