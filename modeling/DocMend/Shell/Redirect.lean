import DocMend.Shell.Expansion
/-!
Redirections. The targets of all redirections of a command are expanded before the first of them is
opened. A redirection that cannot be carried out keeps the command from running, but does not end
the script by itself.
-/

set_option autoImplicit false
set_option relaxedAutoImplicit false

namespace DocMend.Shell

/-- A device: the empty one, a descriptor of the process, or the terminal, which no process has. -/
inductive Device where
  | empty
  | descriptor (n : Nat)
  | terminal
deriving DecidableEq, Repr

/-- The device at a path. -/
def Device.at? (path : Path) : Option Device :=
  match path with
  | ["dev", "null"] => some .empty
  | ["dev", "tty"] => some .terminal
  | ["dev", "stdin"] => some (.descriptor 0)
  | ["dev", "stdout"] => some (.descriptor 1)
  | ["dev", "stderr"] => some (.descriptor 2)
  | ["dev", "fd", n] =>
    if Text.isDigits n.toList then some (.descriptor (Text.digitsValue n.toList)) else none
  | _ => none

/-- How many channels lead out of the machine: its input and the captured streams. These cannot be
opened again by the name of a device. -/
def outerChannels : Nat := 3

/-- A redirection whose target is expanded. -/
inductive Redirecting where
  | file (descriptor : Descriptor) (sign : Sign) (name : Octets)
  | copy (descriptor : Descriptor) (source : Nat)
  | close (descriptor : Descriptor)
  | text (descriptor : Descriptor) (text : Octets)
  | document (descriptor : Descriptor) (index : Nat)

namespace Sign

/-- How a sign opens a file. -/
def access : Sign → Machine.Access
  | input => { reads := true }
  | both => { reads := true, writes := true, creates := true }
  | append => { writes := true, creates := true, appends := true }
  | everythingAppend => { writes := true, creates := true, appends := true }
  | _ => { writes := true, creates := true, empties := true }

end Sign

namespace Run

/-- Opens a device: the index of its channel. -/
def openDevice (device : Device) (access : Machine.Access) : Run (Except Refusal Nat) := do
  let add (channel : Channel) : Run (Except Refusal Nat) := do
    let (index, machine) := (← Run.machine).addChannel channel
    modifyMachine fun _ => machine
    return .ok index
  match device with
  | .empty => add .nothing
  | .terminal => return .error .noDevice
  | .descriptor n =>
    match ← channel? n with
    | none => return .error .missing
    | some index =>
      if index < outerChannels then return .error .noDevice
      let m ← machine
      match m.channels[index]? with
      | some (.file path _ _ _ _) =>
        match m.openFile path access with
        | .error refusal => return .error refusal
        | .ok (channel, m) =>
          modifyMachine fun _ => m
          add channel
      | some (.pipe _ _ _) => return .ok index
      | some .folder => if access.writes then return .error .isFolder else return .ok index
      | some .nothing => add .nothing
      | _ => return .error .noDevice

/-- What may be done with a new file, under a mask of what may not. -/
def newFileMode (mask : Nat) : Nat :=
  438 - (438 &&& mask)

/-- Opens a file or a device by its name: the index of its channel. -/
def openName (name : Octets) (access : Machine.Access) : Run (Except Refusal Nat) := do
  let m ← machine
  let folder := (← self).folder
  match Device.at? (Path.resolve folder (Octets.toText name)) with
  | some device => openDevice device access
  | none =>
    match m.locate folder (Octets.toText name) with
    | .error refusal => return .error refusal
    | .ok path =>
      let isNew := !m.isPresent path
      match m.openFile path access with
      | .error refusal => return .error refusal
      | .ok (channel, m) =>
        let (index, m) := m.addChannel channel
        let mode := newFileMode (← self).mask
        modifyMachine fun _ =>
          if isNew && mode ≠ newFileMode 18 then m.setMode path mode else m
        return .ok index

/-- Whether a file must not be replaced: where files are kept from it, and one is there. -/
def isKept (sign : Sign) (name : Octets) : Run Bool := do
  let replaces := match sign with
    | .output => true
    | .everything => true
    | _ => false
  if replaces && (← has "noclobber") then
    match Device.at? (Path.resolve (← self).folder (Octets.toText name)), ← node? name with
    | none, some (.file _) => return true
    | _, _ => return false
  return false

/-- Whether opening a name may make a file: not where files are kept from being replaced and
something else than a file is there. -/
def mayCreate (sign : Sign) (name : Octets) : Run Bool := do
  match sign with
  | .input => return false
  | .output =>
    if !(← has "noclobber") then return true
    match Device.at? (Path.resolve (← self).folder (Octets.toText name)), ← node? name with
    | none, none => return true
    | none, some (.file _) => return true
    | some (.descriptor n), _ => return (← channel? n).isNone
    | _, _ => return false
  | _ => return true

/-- Breaks off because a file cannot be opened. -/
def refuseFile {α : Type} (sign : Sign) (name : Octets) (refusal : Refusal) : Run α := do
  let isAbsent := refusal = .missing || refusal = .notFolder
  let text : Octets :=
    if ← mayCreate sign name then
      "cannot create " ++ name ++ ": " ++
        (if isAbsent then "Directory nonexistent" else refusal.text)
    else
      "cannot open " ++ name ++ ": " ++ (if isAbsent then "No such file" else refusal.text)
  let extended : Octets := if refusal = .exists then "cannot overwrite existing file"
    else refusal.text
  failIn text (name ++ ": " ++ extended)

end Run

namespace Redirection

/-- Expands a target. In the extended language it has to expand to one word. -/
def target (e : Engine) (word : Word) : Run Octets := do
  if !(← Run.isExtended) then Expansion.text e word
  else
    match ← Expansion.words e [word] with
    | [name] => return name
    | _ => Run.fail (Layout.word word ++ ": ambiguous redirect")

/-- Refuses a target that should be a descriptor. -/
def refuseDescriptor {α : Type} (name : Octets) : Run α := do
  if ← Run.isExtended then Run.fail (name ++ ": ambiguous redirect")
  Run.modifySelf fun s => { s with line := s.readerLine }
  Run.fail "Syntax error: Bad fd number"

/-- Expands the target of a redirection. -/
def expanded (e : Engine) : Redirection → Run (List Redirecting)
  | .document descriptor index _ _ => return [.document descriptor index]
  | .file descriptor sign word => do
    let extended ← Run.isExtended
    let streams (sign : Sign) (name : Octets) : List Redirecting :=
      [.file (.number 1) sign name, .copy (.number 2) 1]
    let copy (name : Octets) : Run (List Redirecting) := do
      if name == ['-'] then return [.close descriptor]
      if Text.isDigits name && (extended || name.length = 1) then
        return [.copy descriptor (Text.digitsValue name)]
      let moved := name.dropLast
      if extended && name.getLast? = some '-' && Text.isDigits moved then
        let n := Text.digitsValue moved
        return [.copy descriptor n, .close (.number n)]
      match sign with
      | .copyOutput =>
        if extended && descriptor = .number 1 then return streams .everything name
        refuseDescriptor name
      | _ => refuseDescriptor name
    match sign with
    | .copyInput => copy (← target e word)
    | .copyOutput => copy (← target e word)
    | .everything => return streams sign (← target e word)
    | .everythingAppend => return streams sign (← target e word)
    | .text => return [.text descriptor ((← Expansion.text e word) ++ ['\n'])]
    | sign => return [.file descriptor sign (← target e word)]

/-- Expands the targets of redirections. -/
def allExpanded (e : Engine) (list : List Redirection) : Run (List Redirecting) := do
  return (← list.mapM (expanded e)).flatten

/-- The least descriptor from a number on that leads nowhere. -/
def leastFree (taken : List Nat) : (count from0 : Nat) → Nat
  | 0, n => n
  | count + 1, n => if taken.contains n then leastFree taken count (n + 1) else n

/-- The number of a descriptor that is to be connected: a variable takes the number of a free one. -/
def numberOf (d : Descriptor) : Run Nat := do
  match d with
  | .number n => return n
  | .free name =>
    let taken := (← Run.self).descriptors.map Prod.fst
    let n := leastFree taken (taken.length + 1) 10
    Run.assign name (Octets.ofNat n)
    return n

/-- Carries out a redirection. -/
def apply (e : Engine) : Redirecting → Run Unit
  | .file descriptor sign name => do
    if ← Run.isKept sign name then Run.refuseFile sign name .exists
    match ← Run.openName name sign.access with
    | .ok index => Run.connect (← numberOf descriptor) index
    | .error refusal => Run.refuseFile sign name refusal
  | .copy descriptor source => do
    if descriptor = .number source then
      if !(← Run.isExtended) then return
    match ← Run.channel? source with
    | some index => Run.connect (← numberOf descriptor) index
    | none =>
      if descriptor = .number 2 && !(← Run.isExtended) then Run.disconnect 2
      Run.fail (Octets.ofNat source ++ ": " ++ Refusal.badDescriptor.text)
  | .close descriptor => do
    match descriptor with
    | .number n => Run.disconnect n
    | .free name =>
      match Octets.decimal? ((← Run.self).text name) with
      | some n => Run.disconnect n.toNat
      | none => Run.fail (name ++ ": ambiguous redirect")
  | .text descriptor text => do
    let _ ← Run.connectNew (← numberOf descriptor) (.pipe text [])
  | .document descriptor index => do
    let word := ((← Run.self).documents[index]?).getD []
    let text ← Expansion.textWith e {} word
    let _ ← Run.connectNew (← numberOf descriptor) (.pipe text [])

/-- Carries out redirections one after the other, as far as it is possible: whether all of them
were. -/
def applyAll (e : Engine) (list : List Redirecting) : Run Bool := do
  try
    list.forM (apply e)
    return true
  catch r =>
    match r with
    | .failure => return false
    | r => throw r

/-- The descriptors with numbers that redirections connect or close. A free descriptor that a variable
names stays as it is after the command. -/
def touched (list : List Redirecting) : List Nat :=
  list.filterMap fun r =>
    let descriptor := match r with
      | .file descriptor _ _ => descriptor
      | .copy descriptor _ => descriptor
      | .close descriptor => descriptor
      | .text descriptor _ => descriptor
      | .document descriptor _ => descriptor
    match descriptor with
    | .number n => some n
    | .free _ => none

/-- Runs a computation while redirections are in force. -/
def during (e : Engine) (list : List Redirecting) (body : Run Unit) : Run Unit := do
  let before := (← Run.self).descriptors
  let restore : Run Unit := Run.restoreDescriptors before (touched list)
  try
    if ← applyAll e list then body
    restore
  catch r =>
    restore
    throw r

end Redirection

end DocMend.Shell
