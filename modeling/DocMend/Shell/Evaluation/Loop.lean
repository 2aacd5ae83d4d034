import DocMend.Shell.Builtin.Line
import DocMend.Shell.Condition
import DocMend.Shell.Evaluation.Basic
/-!
Loops, selections and conditions.
-/

set_option autoImplicit false
set_option relaxedAutoImplicit false

namespace DocMend.Shell

namespace Evaluation

/-- What a loop does after a round. -/
inductive Onward where
  | next
  | again
  | leave
deriving DecidableEq, Repr

/-- Counts off a loop that is left or gone on with. -/
def afterRound : Run Onward := do
  match (← Run.self).skip with
  | none => return .next
  | some (.leave n) =>
    Run.modifySelf fun s => { s with skip := if n ≤ 1 then none else some (.leave (n - 1)) }
    return .leave
  | some (.again n) =>
    Run.modifySelf fun s => { s with skip := if n ≤ 1 then none else some (.again (n - 1)) }
    return if n ≤ 1 then .again else .leave
  | some (.function _) => return .leave

/-- The largest number of rounds of a loop. -/
def mostRounds : Nat := 1000000000

/-- Runs the rounds of a loop: its status. -/
def runRounds (e : Engine) (untilTrue : Bool) (test body : Command) (tested : Bool) :
    Nat → Nat → Run Nat
  | 0, status => return status
  | fuel + 1, status => do
    e.run test true false
    let code := (← Run.self).status
    let returns := match (← Run.self).skip with
      | some (.function _) => true
      | _ => false
    let status := if returns then code else status
    match ← afterRound with
    | .leave => return status
    | .again => runRounds e untilTrue test body tested fuel status
    | .next =>
      if (code = 0) = untilTrue then return status
      e.run body tested false
      let status := (← Run.self).status
      match ← afterRound with
      | .leave => return status
      | _ => runRounds e untilTrue test body tested fuel status

/-- The first line of a compound command. -/
def headText (head : Command) : Run Octets := do
  let text := Layout.head (← Run.self).documents head
  return if text.getLast? = some ' ' then text.dropLast else text

/-- Runs the rounds of a loop over texts: its status. Each round is announced as its head. A variable
that leads to another one is led to each text in turn. -/
def runEach (e : Engine) (head : Command) (name : Octets) (body : Command) (tested : Bool) :
    Nat → List Octets → Run Nat
  | status, [] => return status
  | _, text :: rest => do
    announce e head
    Trace.show1 e (headText head)
    match getKey (← Run.self).vars name with
    | some v =>
      if (← Run.isExtended) && v.fixed then
        Run.warnFixed name
        return 1
      if v.isReference then Run.putVariable name { v with content := .text text }
      else Run.assign name text
    | none => Run.assign name text
    e.run body tested false
    let status := (← Run.self).status
    match ← afterRound with
    | .leave => return status
    | _ => runEach e head name body tested status rest

/-- The blanks and tabulators that lead from a column to another one. -/
def indent : (count column goal : Nat) → Octets
  | 0, _, _ => []
  | count + 1, column, goal =>
    if goal ≤ column then []
    else if column / 8 < goal / 8 then '\t' :: indent count (column + 8 - column % 8) goal
    else ' ' :: indent count (column + 1) goal

/-- The lines of a menu with numbers before its items, in columns that fit into a width. -/
def menuLines (width : Nat) (items : List Octets) : List Octets :=
  let count := items.length
  let digits (n : Nat) : Nat := (Nat.toDigits 10 n).length
  let column := (items.map List.length).foldl max 0 + digits count + 4
  let columns := max 1 (width / column)
  let rows := count / columns + (if count % columns = 0 then 0 else 1)
  let columns := count / rows + (if count % rows = 0 then 0 else 1)
  let rows := if rows = 1 then columns else rows
  let cell (row n : Nat) : Octets :=
    let number := Octets.ofNat (row + n * rows + 1)
    let wide := if n = 0 then digits rows else digits count
    List.replicate (wide - number.length) ' ' ++ number ++ [')', ' '] ++
      (items[row + n * rows]?).getD []
  (List.range rows).map fun row =>
    let cells := (List.range count).filter fun n => row + n * rows < count
    (cells.foldl (fun (line, used) n =>
      let text := cell row n
      let isLast := count ≤ row + (n + 1) * rows
      let after := if isLast then [] else indent column (used + text.length) (used + column)
      (line ++ text ++ after, used + column)) (([], 0) : Octets × Nat)).1

/-- Asks which item of a menu is meant; the menu is shown again after an empty answer. There is no item
at the end of the input, and an empty one for a number that is none of them. -/
def choose (items : List Octets) : Nat → (shows : Bool) → Run (Option Octets)
  | 0, _ => return none
  | fuel + 1, shows => do
    let s ← Run.self
    if shows then
      let width := match Octets.decimal? (s.text "COLUMNS") with
        | some n => if n ≤ 0 then 80 else n.toNat
        | none => 80
      for line in menuLines width items do
        Run.note line
    let _ ← Run.write 2 ((s.value? "PS3").getD "#? ")
    if !(← Builtin.readWhole 0 "REPLY") then
      Run.printLine []
      return none
    let answer := (← Run.self).text "REPLY"
    if answer.isEmpty then return ← choose items fuel true
    match Octets.decimal? answer with
    | some n => return some (if n ≤ 0 then [] else (items[n.toNat - 1]?).getD [])
    | none => return some []

/-- Runs the rounds of a loop over the answers to a menu: its status. -/
def runMenu (e : Engine) (name : Octets) (items : List Octets) (body : Command)
    (tested : Bool) : Nat → (shows : Bool) → Run Nat
  | 0, _ => return 0
  | fuel + 1, shows => do
    match ← choose items (mostRounds) shows with
    | none => return 1
    | some item =>
      if (getKey (← Run.self).vars name).any fun v => v.fixed then
        Run.warnFixed name
        return 1
      Run.assign name item
      e.run body tested false
      let status := (← Run.self).status
      match ← afterRound with
      | .leave => return status
      | _ =>
        let showsAgain := ((← Run.self).text "REPLY").isEmpty
        runMenu e name items body tested fuel showsAgain

/-- Runs a computation as a loop. -/
def asLoop (body : Run Nat) : Run Unit := do
  Run.modifySelf fun s => { s with loops := s.loops + 1 }
  let status ← body
  Run.modifySelf fun s => { s with loops := s.loops - 1, status }

/-- Whether a text matches one of some patterns. -/
def matchesAny (e : Engine) (text : Octets) : List Word → Run Bool
  | [] => return false
  | word :: rest => do
    if ← Expansion.takes e word text (← Run.has "extglob") then return true
    matchesAny e text rest

/-- Runs the first arm that matches, and the arms after it into which it leads. The status is zero where
none matches; it stays where one that matched leads to none. -/
def runArms (e : Engine) (text : Octets) (tested last : Bool) : (enters matched : Bool) →
    List Arm → Run Unit
  | _, matched, [] => if matched then return else Run.setStatus 0
  | enters, matched, .mk patterns body after :: rest => do
    let chosen ← if enters then pure true else matchesAny e text patterns
    if !chosen then runArms e text tested last false matched rest
    else
      match body with
      | .nothing => Run.setStatus 0
      | body => e.run body tested (last && after == .stop)
      if (← Run.self).skip.isNone then
        match after with
        | .stop => return
        | .enter => if !rest.isEmpty then runArms e text tested last true true rest
        | .test => runArms e text tested last false true rest

/-- Carries out an arithmetic command of the extended language: its errors give a status. -/
def arithmetic (e : Engine) (word : Word) : Run (Option Int) := do
  announce e (.compute (← Run.self).line word)
  let before := (← Run.self).command
  Run.modifySelf fun s => { s with command := some "((" }
  let restore : Run Unit := Run.modifySelf fun s => { s with command := before }
  try
    let text ← Expansion.textWith e {} (Expansion.withoutMarks word)
    Trace.show1 e (return "(( " ++ text ++ " ))")
    let value ← Run.compute text
    restore
    return some value
  catch r =>
    restore
    match r with
    | .failure => return none
    | .abandoned => return none
    | r => throw r

/-- Runs the rounds of a loop that counts: its status. -/
def runCount (e : Engine) (test step : Word) (body : Command) (tested : Bool) : Nat → Nat → Run Nat
  | 0, status => return status
  | fuel + 1, status => do
    let goesOn ← do
      if test.all fun piece => match piece with
          | .char c _ => Octets.isGap c
          | _ => false then pure (some 1)
      else arithmetic e test
    match goesOn with
    | none => return 1
    | some 0 => return status
    | some _ =>
      e.run body tested false
      let status := (← Run.self).status
      match ← afterRound with
      | .leave => return status
      | _ =>
        if (← arithmetic e step).isNone then return 1
        runCount e test step body tested fuel status

/-- Evaluates a condition: its status. -/
def decideCondition (e : Engine) (test : Condition) : Run Unit := do
  let before := (← Run.self).command
  Run.modifySelf fun s => { s with command := some "[[", status := 0 }
  let restore : Run Unit := Run.modifySelf fun s => { s with command := before }
  try
    let holds ← test.holds e
    restore
    Run.setStatus (if holds then 0 else 1)
  catch r =>
    restore
    match r with
    | .failure => Run.setStatus (max 1 (← Run.self).status)
    | .abandoned => Run.setStatus 1
    | r => throw r

end Evaluation

end DocMend.Shell
