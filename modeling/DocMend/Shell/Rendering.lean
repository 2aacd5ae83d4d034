import DocMend.Shell.Print.Escape
import DocMend.Shell.Print.Quoting
import DocMend.Shell.Variables
/-!
Variables as the extended language shows them: as assignments that can be read back, as keys with
texts, and texts as prompts.
-/

set_option autoImplicit false
set_option relaxedAutoImplicit false

namespace DocMend.Shell

namespace Content

/-- Elements between parentheses, as an assignment has them; each of those with keys has a blank after
it. -/
def listed (content : Content) : Octets :=
  let element (entry : Octets × Octets) : Octets :=
    ['['] ++ Quoting.key entry.1 ++ [']', '='] ++ Quoting.inList entry.2
  match content with
  | table _ => ['('] ++ content.elements.flatMap (fun entry => element entry ++ [' ']) ++ [')']
  | content => ['('] ++ Text.joined [' '] (content.elements.map element) ++ [')']

end Content

namespace Variable

/-- The letters of the attributes of a variable. -/
def letters (v : Variable) : Octets :=
  let kind : Octets := match v.content with
    | .list _ => ['a']
    | .table _ => ['A']
    | _ => []
  let flag (on : Bool) (c : Char) : Octets := if on then [c] else []
  let letterCase : Octets := match v.letterCase with
    | some .capital => ['c']
    | some .lower => ['l']
    | some .upper => ['u']
    | none => []
  kind ++ flag v.integer 'i' ++ flag v.isReference 'n' ++ flag v.fixed 'r' ++ flag v.traced 't' ++
    flag v.exported 'x' ++ letterCase

/-- A variable as a declaration that can be read back. -/
def declaration (v : Variable) (name : Octets) : Octets :=
  let letters := v.letters
  let value : Octets := match v.content with
    | .nothing => []
    | .text cs => '=' :: Quoting.inList cs
    | content => if v.isBare then [] else '=' :: content.listed
  "declare -".toList ++ (if letters.isEmpty then ['-'] else letters) ++ [' '] ++ name ++ value

/-- A variable as an assignment in a list of all variables, if it holds something. -/
def assignment? (v : Variable) (name : Octets) : Option Octets :=
  match v.content with
  | .nothing => none
  | .text cs => some (name ++ ['='] ++ Quoting.listed cs)
  | content => if v.isBare then none else some (name ++ ['='] ++ content.listed)

end Variable

namespace Rendering

/-- A text with the escapes in it replaced. -/
def unescapedFrom : Nat → Octets → Octets
  | 0, cs => cs
  | fuel + 1, cs =>
    match cs with
    | [] => []
    | '\\' :: rest =>
      let (text, rest) := Escape.inMarks rest
      text ++ unescapedFrom fuel rest
    | c :: rest => c :: unescapedFrom fuel rest

/-- A text with the escapes in it replaced, up to the first null character. -/
def unescaped (cs : Octets) : Octets :=
  (unescapedFrom (cs.length + 1) cs).takeWhile (· ≠ '\x00')

/-- The name of a folder with a tilde in place of the home. -/
def withTilde (home folder : Octets) : Octets :=
  if home.isEmpty then folder
  else if folder == home then ['~']
  else
    match Text.afterStart? (home ++ ['/']) folder with
    | some rest => ['~', '/'] ++ rest
    | none => folder

/-- The working folder with a tilde in place of the home. -/
def withHome (s : Interpreter) : Octets :=
  withTilde (s.text "HOME") (Octets.ofText s.route.text)

/-- A text as a prompt: letters after backslashes stand for what is known of the shell. -/
def promptFrom (s : Interpreter) : Nat → Octets → Octets
  | 0, cs => cs
  | fuel + 1, cs =>
    match cs with
    | [] => []
    | '\\' :: c :: rest =>
      let onward (text : Octets) : Octets := text ++ promptFrom s fuel rest
      match c with
      | 'u' => onward "root"
      | 'w' => onward (withHome s)
      | 'W' =>
        let folder := withHome s
        onward (if folder == ['~'] || folder == ['/'] then folder
          else (folder.reverse.takeWhile (· ≠ '/')).reverse)
      | 's' => onward ((s.name.reverse.takeWhile (· ≠ '/')).reverse)
      | 'v' => onward "5.2"
      | 'V' => onward "5.2.15"
      | 'j' => onward (Octets.ofNat s.jobs.length)
      | '$' => onward ['#']
      | '#' => onward ['1']
      | '!' => onward ['1']
      | 'n' => onward ['\n']
      | 'r' => onward ['\r']
      | 'a' => onward ['\x07']
      | 'e' => onward ['\x1b']
      | '\\' => onward ['\\']
      | '[' => onward []
      | ']' => onward []
      | c =>
        if Escape.isOctal c then
          let (n, rest) := Escape.digits 8 3 (c :: rest)
          Escape.byteOf n :: promptFrom s fuel rest
        else onward ['\\', c]
    | c :: rest => c :: promptFrom s fuel rest

/-- A text as a prompt. -/
def prompt (s : Interpreter) (cs : Octets) : Octets :=
  promptFrom s (cs.length + 1) cs

/-- Elements with their keys in front, if there are any. -/
def pairs (content : Content) : Option Octets :=
  let texts := content.elements.map fun (key, text) => Quoting.key key ++ [' '] ++ Quoting.inList text
  match content with
  | .nothing => none
  | .table _ => some (texts.flatMap fun text => text ++ [' '])
  | _ => some (Text.joined [' '] texts)

/-- Keys and texts of elements in turn. -/
def keysAndTexts (content : Content) : List Octets :=
  content.elements.flatMap fun (key, text) => [key, text]

/-- An assignment to the parameters that can be read back. -/
def parameters (texts : List Octets) : Octets :=
  "set -- ".toList ++ Text.joined [' '] (texts.map Quoting.reusable)

/-- A declaration or an assignment that can be read back, with a content. -/
def assignment? (name : Octets) (v : Variable) (content : Content) : Option Octets :=
  let letters := v.letters
  let text : Option Octets := match content with
    | .nothing => none
    | .text cs => some (Quoting.reusable cs)
    | content => some content.listed
  let declared : Octets := if letters.isEmpty then [] else "declare -".toList ++ letters ++ [' ']
  match text with
  | some text => some (declared ++ name ++ ['='] ++ text)
  | none => if letters.isEmpty then none else some (declared ++ name)

end Rendering

end DocMend.Shell
