import DocMend.Json.Basic
import DocMend.Text.Quoted
import DocMend.Text.Utf16
import DocMend.Text.Utf8
/-!
What a command leaves behind when it is over, and what the program makes of it. Captured text is
limited; output beyond the limit ends the command and cuts the text.
-/

set_option autoImplicit false
set_option relaxedAutoImplicit false

namespace DocMend.Launch

/-- The two output streams of a command. -/
inductive Stream where
  | stdout
  | stderr
deriving DecidableEq, Repr

/-- The name of a stream. -/
def Stream.name : Stream → String
  | stdout => "stdout"
  | stderr => "stderr"

/-- The text of a stream in a report of a failed command; a command that never ran left none. -/
def Stream.textIn? (stream : Stream) (report : Json) : Option String :=
  (report.get? stream.name).bind Json.string?

/-- Why a command cannot be started: the command is empty or has a null byte in it, or its folder has
one, is missing, is no folder, or has too long a name. -/
inductive Obstacle where
  | nullByte
  | empty
  | nullByteInFolder (folder : String)
  | missing
  | notFolder
  | nameTooLong
deriving DecidableEq, Repr

/-- The wording of an obstacle to a command. -/
def Obstacle.detail (command : String) : Obstacle → String
  | nullByte =>
    "The argument 'command' must be a string without null bytes. Received " ++
      Text.Quoted.shown command
  | empty => "The argument 'file' cannot be empty. Received " ++ Text.Quoted.shown command
  | nullByteInFolder folder =>
    "The property 'options.cwd' must be a string, Uint8Array, or URL without null bytes. Received " ++
      Text.Quoted.shown folder
  | missing => "spawn /bin/sh ENOENT"
  | notFolder => "spawn ENOTDIR"
  | nameTooLong => "spawn ENAMETOOLONG"

/-- How a command ended: with an exit status, by a signal, or before it was started. -/
inductive Ending where
  | exited (status : Nat)
  | killed
  | notStarted (obstacle : Obstacle)
deriving DecidableEq, Repr

/-- Everything that a command wrote, and how it ended. -/
structure Outcome where
  stdout : List UInt8
  stderr : List UInt8
  ending : Ending
deriving DecidableEq, Repr

/-- Why a command counts as failed. -/
inductive Fault where
  | failed (stderr : String)
  | overflowed (stream : Stream)
  | notStarted (obstacle : Obstacle)
deriving DecidableEq, Repr

/-- A failed command. -/
structure Failure where
  command : String
  fault : Fault
deriving DecidableEq, Repr

/-- The wording of a failure. -/
def Failure.detail (failure : Failure) : String :=
  match failure.fault with
  | .failed stderr => "Command failed: " ++ failure.command ++ "\n" ++ stderr
  | .overflowed stream => stream.name ++ " maxBuffer length exceeded"
  | .notStarted obstacle => obstacle.detail failure.command

/-- The limit of captured text where nothing else is set. -/
def standardLimit : Nat := 32 * 1024 * 1024

/-- The text that a stream holds. -/
def Outcome.text (outcome : Outcome) : Stream → String
  | .stdout => String.ofList (Text.Utf8.decode outcome.stdout)
  | .stderr => String.ofList (Text.Utf8.decode outcome.stderr)

/-- Whether a stream holds more bytes of text than the limit. -/
def Outcome.overflows (outcome : Outcome) (limit : Nat) (stream : Stream) : Bool :=
  limit < (outcome.text stream).utf8ByteSize

/-- The captured text of a stream. -/
def Outcome.captured (outcome : Outcome) (limit : Nat) (stream : Stream) : String :=
  if outcome.overflows limit stream then
    String.ofList (Text.takeUnits limit (outcome.text stream).toList)
  else outcome.text stream

/-- Why an outcome counts as a failure, if it does. -/
def Outcome.fault? (outcome : Outcome) (limit : Nat) : Option Fault :=
  match outcome.ending with
  | .notStarted obstacle => some (.notStarted obstacle)
  | ending =>
    if outcome.overflows limit .stdout then some (.overflowed .stdout)
    else if outcome.overflows limit .stderr then some (.overflowed .stderr)
    else if ending = .exited 0 then none
    else some (.failed (outcome.captured limit .stderr))

/-- The standard output of a command. A failed command that wrote something counts as a success. -/
def Outcome.output (outcome : Outcome) (command : String) (limit : Nat) : Except Failure String :=
  match outcome.fault? limit with
  | none => .ok (outcome.captured limit .stdout)
  | some fault =>
    let text := outcome.captured limit .stdout
    if text.isEmpty then .error ⟨command, fault⟩ else .ok text

/-- A command that ran to its end. -/
structure Completed where
  status : Nat
  stdout : String
  stderr : String
deriving DecidableEq, Repr

/-- Both streams and the exit status of a command. A status other than zero is not a failure; a
signal and too much output are. -/
def Outcome.completed (outcome : Outcome) (command : String) (limit : Nat) :
    Except Failure Completed :=
  let texts (status : Nat) : Completed :=
    ⟨status, outcome.captured limit .stdout, outcome.captured limit .stderr⟩
  match outcome.fault? limit, outcome.ending with
  | none, _ => .ok (texts 0)
  | some (.failed _), .exited status => .ok (texts status)
  | some fault, _ => .error ⟨command, fault⟩

end DocMend.Launch
