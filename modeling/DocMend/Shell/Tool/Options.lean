import DocMend.Shell.Octets
/-!
Options of tools. An option has a letter, a name, or both; a name may be cut short as long as it stays
clear. Options may stand among the operands, and two hyphens end them.
-/

set_option autoImplicit false
set_option relaxedAutoImplicit false

namespace DocMend.Shell.Tool

/-- An option that was given: its letter, or its name if it has no letter, and its argument. -/
structure Given where
  key : String
  argument : Option Octets := none
deriving DecidableEq, Repr

/-- Whether an option has an argument. -/
inductive Takes where
  | nothing
  | maybe
  | argument
deriving DecidableEq, Repr

/-- The options of a tool. A colon follows the letter of an option with an argument, and two follow one
whose argument may be left out. A name with an equals sign stands for the letter after it. -/
structure Options where
  letters : String := ""
  names : List String := []
  /-- Whether the first operand ends the options. -/
  leading : Bool := false

/-- What is wrong with the options of a tool. -/
inductive OptionFault where
  | unknownLetter (c : Char)
  | letterLacks (c : Char)
  | unknownName (text : Octets)
  | ambiguous (text : Octets) (candidates : List String)
  | nameLacks (name : String)
  | nameRefuses (name : String)
deriving DecidableEq, Repr

namespace OptionFault

/-- The wording of a fault. -/
def text : OptionFault → Octets
  | unknownLetter c => "invalid option -- \x27".toList ++ [c, '\x27']
  | letterLacks c => "option requires an argument -- \x27".toList ++ [c, '\x27']
  | unknownName text => "unrecognized option \x27--".toList ++ text ++ ['\x27']
  | ambiguous text candidates =>
    "option \x27--".toList ++ text ++ "\x27 is ambiguous; possibilities:".toList ++
      candidates.flatMap fun name => " \x27--".toList ++ name.toList ++ ['\x27']
  | nameLacks name => ("option \x27--" ++ name ++ "\x27 requires an argument").toList
  | nameRefuses name => ("option \x27--" ++ name ++ "\x27 doesn\x27t allow an argument").toList

end OptionFault

namespace Options

/-- Whether a letter is an option, and whether the option has an argument. -/
def letter? (o : Options) (c : Char) : Option Takes :=
  if c = ':' then none
  else
    match o.letters.toList.dropWhile (· ≠ c) with
    | _ :: ':' :: ':' :: _ => some .maybe
    | _ :: ':' :: _ => some .argument
    | _ :: _ => some .nothing
    | [] => none

/-- A name of an option: the name, the key under which the option is given, and whether it has an
argument. -/
def entry (o : Options) (spec : String) : String × String × Takes :=
  let cs := spec.toList
  let name := cs.takeWhile fun c => c ≠ '=' && c ≠ ':'
  match cs.drop name.length with
  | '=' :: c :: _ => (String.ofList name, String.ofList [c], (o.letter? c).getD .nothing)
  | [':'] => (String.ofList name, String.ofList name, .argument)
  | [':', ':'] => (String.ofList name, String.ofList name, .maybe)
  | _ => (String.ofList name, String.ofList name, .nothing)

/-- The names that every tool has. -/
def common : List String := ["help", "version"]

/-- The option that a name stands for, which may be cut short. -/
def named (o : Options) (text : Octets) : Except OptionFault (String × String × Takes) :=
  let name := text.takeWhile (· ≠ '=')
  let entries := (o.names ++ common).map o.entry
  match entries.find? fun e => e.1.toList == name with
  | some e => .ok e
  | none =>
    match entries.filter fun e => name.isPrefixOf e.1.toList with
    | [] => .error (.unknownName text)
    | e :: rest =>
      if rest.all fun other => other.2 = e.2 then .ok e
      else .error (.ambiguous text ((e :: rest).map Prod.fst))

/-- Reads the options in one word: them, and the letter of the last one if its argument is in the next
word. -/
def readLetters (o : Options) : Octets → Except OptionFault (List Given × Option Char)
  | [] => .ok ([], none)
  | c :: rest =>
    let key := String.ofList [c]
    match o.letter? c with
    | none => .error (.unknownLetter c)
    | some .argument =>
      .ok (if rest.isEmpty then ([], some c) else ([⟨key, some rest⟩], none))
    | some .maybe => .ok ([⟨key, if rest.isEmpty then none else some rest⟩], none)
    | some .nothing =>
      match readLetters o rest with
      | .ok (more, open?) => .ok (⟨key, none⟩ :: more, open?)
      | .error fault => .error fault

/-- Reads options and operands. -/
def read (o : Options) : List Octets → Except OptionFault (List Given × List Octets)
  | [] => .ok ([], [])
  | ['-', '-'] :: rest => .ok ([], rest)
  | ('-' :: '-' :: text) :: rest =>
    match o.named text with
    | .error fault => .error fault
    | .ok (name, key, takes) =>
      let value? := match text.dropWhile (· ≠ '=') with
        | _ :: value => some value
        | [] => none
      let add (given : Given) (result : Except OptionFault (List Given × List Octets)) :
          Except OptionFault (List Given × List Octets) :=
        result.map fun (more, operands) => (given :: more, operands)
      match takes, value?, rest with
      | .nothing, some _, _ => .error (.nameRefuses name)
      | .nothing, none, rest => add ⟨key, none⟩ (read o rest)
      | .maybe, value?, rest => add ⟨key, value?⟩ (read o rest)
      | .argument, some value, rest => add ⟨key, some value⟩ (read o rest)
      | .argument, none, value :: rest => add ⟨key, some value⟩ (read o rest)
      | .argument, none, [] => .error (.nameLacks name)
  | ('-' :: c :: cs) :: rest =>
    match o.readLetters (c :: cs), rest with
    | .error fault, _ => .error fault
    | .ok (given, none), rest =>
      (read o rest).map fun (more, operands) => (given ++ more, operands)
    | .ok (_, some d), [] => .error (.letterLacks d)
    | .ok (given, some d), argument :: rest =>
      (read o rest).map fun (more, operands) =>
        (given ++ ⟨String.ofList [d], some argument⟩ :: more, operands)
  | operand :: rest =>
    if o.leading then .ok ([], operand :: rest)
    else (read o rest).map fun (more, operands) => (more, operand :: operands)

end Options

/-- Whether an option is among those that were given. -/
def has (given : List Given) (key : String) : Bool :=
  given.any fun g => g.key == key

/-- The argument of the last option with a key. -/
def valueOf? (given : List Given) (key : String) : Option Octets :=
  (given.reverse.find? fun g => g.key == key).bind Given.argument

/-- The arguments of all options with a key. -/
def valuesOf (given : List Given) (key : String) : List Octets :=
  (given.filter fun g => g.key == key).filterMap Given.argument

/-- The last of some options that was given. -/
def lastOf? (given : List Given) (keys : List String) : Option Given :=
  given.reverse.find? fun g => keys.contains g.key

end DocMend.Shell.Tool
