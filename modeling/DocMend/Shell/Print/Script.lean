import DocMend.Shell.Grammar
/-!
Scripts as the extended language shows them. A command is laid out anew, with one command on a line and
four blanks for every level; words are shown as they were written. The text of a here-document follows
the line of its redirection.
-/

set_option autoImplicit false
set_option relaxedAutoImplicit false

namespace DocMend.Shell.Layout

/-- The state of laying out: the text so far, its last character first, the texts of here-documents
that are still to come, how far lines are indented and how much farther those inside others are, how
many commands begin on a line that is begun already, whether every command has its own line, and the
texts of here-documents. -/
structure State where
  text : Octets := []
  awaited : List Octets := []
  indent : Nat := 0
  step : Nat := 4
  skipped : Nat := 0
  onLines : Bool := false
  afterDocument : Bool := false
  documents : Array Word := #[]

/-- Computations that lay out. -/
abbrev Layout := StateM State

/-- Adds a text. -/
def say (text : Octets) : Layout Unit :=
  modify fun s => { s with text := text.reverse ++ s.text }

/-- The commands of a function and its redirections. -/
def functionParts : Command → Command × List Redirection
  | .group inner => (inner, [])
  | .redirected _ (.group inner) list => (inner, list)
  | inner => (inner, [])

/-- Begins the line of a command. -/
def indented : Layout Unit := do
  say (List.replicate (← get).indent ' ')

/-- Begins a line with a text. -/
def newLine (text : Octets) : Layout Unit := do
  say ['\n']
  indented
  say text

/-- Ends a command with a semicolon, unless its end shows already. -/
def semicolon : Layout Unit := do
  match (← get).text with
  | '&' :: _ => return
  | '\n' :: _ => return
  | [] => return
  | _ => say [';']

/-- Runs a computation further to the right. -/
def deeper (body : Layout Unit) : Layout Unit := do
  modify fun s => { s with indent := s.indent + s.step }
  body
  modify fun s => { s with indent := s.indent - s.step }

/-- Lets the next command begin on the line at hand. -/
def skipIndent : Layout Unit :=
  modify fun s => { s with skipped := s.skipped + 1 }

/-- Adds the texts of here-documents after a connector, if some are awaited: whether there were any. -/
def withDocuments (connector : Octets) : Layout Bool := do
  let awaited := (← get).awaited
  if awaited.isEmpty then return false
  say connector
  say ['\n']
  for text in awaited do
    say text
  if !connector.isEmpty && connector ≠ [';'] then say [' ']
  modify fun s => { s with awaited := [], afterDocument := true }
  return true

/-- Texts with a mark between them, each by its own computation. -/
def between {α : Type} (mark : Octets) (show1 : α → Layout Unit) : List α → Layout Unit
  | [] => return
  | [last] => show1 last
  | first :: rest => do
    show1 first
    say mark
    between mark show1 rest

/-- A text without blanks around it. -/
def trimmed (cs : Octets) : Octets :=
  ((cs.dropWhile Octets.isGap).reverse.dropWhile Octets.isGap).reverse

/-- Runs a computation of its own and gives its text. -/
def apart (body : Layout Unit) : Layout Octets := do
  let outer ← get
  let ((), inner) := body.run { documents := outer.documents }
  return inner.text.reverse

/-- The sign of what is made of a parameter. -/
def useSign (orNull : Bool) : Use → Octets
  | .orElse => if orNull then [':', '-'] else ['-']
  | .ifSet => if orNull then [':', '+'] else ['+']
  | .orFail => if orNull then [':', '?'] else ['?']
  | .orAssign => if orNull then [':', '='] else ['=']
  | .dropEnd longest => if longest then ['%', '%'] else ['%']
  | .dropStart longest => if longest then ['#', '#'] else ['#']
  | .slice => [':']
  | .replace everywhere => if everywhere then ['/', '/'] else ['/']
  | .upper all => if all then ['^', '^'] else ['^']
  | .swapped all => if all then ['~', '~'] else ['~']
  | .lower all => if all then [',', ','] else [',']
  | .rendered letter => ['@', letter]
  | .names apart => if apart then ['@'] else ['*']
  | .malformed => if orNull then [':'] else []
  | .value => []
  | .length => []

/-- Whether a word that belongs to a parameter stands outside quotation marks. -/
def standsOutside : Use → Bool
  | .dropEnd _ => true
  | .dropStart _ => true
  | .replace _ => true
  | .upper _ => true
  | .swapped _ => true
  | .lower _ => true
  | _ => false

/-- A character of a word, inside a quotation mark or outside all of them. -/
def written (inside : Option Mark) (c : Char) (quoted : Bool) : Octets :=
  match inside, quoted with
  | _, false => [c]
  | none, true => ['\\', c]
  | some .single, true => if c == '\x27' then ['\x27', '\\', '\x27', '\x27'] else [c]
  | some .double, true | some .faint, true =>
    if c == '"' || c == '$' || c == '\x60' then ['\\', c] else [c]

/-- The number or the name of a descriptor, unless it is the usual one. -/
def descriptor (usual : Option Nat) : Descriptor → Octets
  | .number n => if usual = some n then [] else Octets.ofNat n
  | .free name => ['\x7b'] ++ name ++ ['\x7d']

mutual
/-- Shows the parts of a word. -/
def pieces (depth : Nat) (inside : Option Mark) (word : Word) : Layout Unit := do
  match depth with
  | 0 => return
  | depth + 1 =>
    match word with
    | [] => return
    | .mark mark :: rest =>
      say (match mark with
        | .single => ['\x27']
        | _ => ['"'])
      pieces depth (if inside.isSome then none else some mark) rest
    | .char c quoted :: rest =>
      say (written inside c quoted)
      pieces depth inside rest
    | piece :: rest =>
      expansion depth inside piece
      pieces depth inside rest

/-- Shows a parameter or an element. -/
def reference (depth : Nat) (source : Reference) : Layout Unit := do
  match depth with
  | 0 => return
  | depth + 1 =>
    say source.name
    match source.index with
    | some index =>
      say ['[']
      pieces depth none index
      say [']']
    | none => return

/-- Shows an expansion. -/
def expansion (depth : Nat) (inside : Option Mark) (piece : Piece) : Layout Unit := do
  match depth with
  | 0 => return
  | depth + 1 =>
    match piece with
    | .parameter source use orNull _ word =>
      if source.braced then
        say (['$', '\x7b'] ++ (if use == .length then ['#'] else []) ++
          (if source.indirect then ['!'] else []))
        reference depth source
        say (useSign orNull use)
        pieces depth (if standsOutside use then none else inside) word
        say ['\x7d']
      else say ('$' :: source.name)
    | .output _ _ (some text) => say (['\x60'] ++ text ++ ['\x60'])
    | .output body _ none =>
      say ['$', '(']
      say (← apart (command depth body))
      say [')']
    | .process body takesInput =>
      say [if takesInput then '>' else '<', '(']
      say (← apart (command depth body))
      say [')']
    | .arithmetic expression _ =>
      say ['$', '(', '(']
      pieces depth (some .single) expression
      say [')', ')']
    | .array elements =>
      say ['(']
      between [' '] (pieces depth none) elements
      say [')']
    | _ => return

/-- Shows a redirection. -/
def redirection (depth : Nat) (r : Redirection) : Layout Unit := do
  match depth with
  | 0 => return
  | depth + 1 =>
    match r with
    | .document d index stripsTabs mark =>
      let isQuoted := mark.any fun piece => match piece with
        | .mark _ => true
        | .char _ quoted => quoted
        | _ => false
      let text := Word.unquoted mark
      say (descriptor (some 0) d ++ ['<', '<'] ++ (if stripsTabs then ['-'] else []))
      say (if isQuoted then ['\x27'] ++ text ++ ['\x27'] else text)
      let body := ((← get).documents[index]?).getD []
      let shown ← apart (pieces depth (some (if isQuoted then .single else .double)) body)
      modify fun s => { s with awaited := s.awaited ++ [shown ++ text ++ ['\n']] }
    | .file d sign target =>
      let simple (usual : Nat) (text : String) : Layout Unit := do
        say (descriptor (some usual) d ++ text.toList ++ [' '])
        pieces depth none target
      match sign with
      | .input => simple 0 "<"
      | .output => simple 1 ">"
      | .force => simple 1 ">|"
      | .append => simple 1 ">>"
      | .both => simple 1 "<>"
      | .text => simple 0 "<<<"
      | .everything => simple 1 "&>"
      | .everythingAppend => simple 1 "&>>"
      | .document _ => return
      | .copyInput =>
        say (descriptor none d ++ ['<', '&'])
        pieces depth none target
      | .copyOutput =>
        say (descriptor none d ++ ['>', '&'])
        pieces depth none target

/-- Shows redirections after a command. -/
def redirections (depth : Nat) (list : List Redirection) : Layout Unit := do
  match depth with
  | 0 => return
  | depth + 1 =>
    if list.isEmpty then return
    say [' ']
    modify fun s => { s with afterDocument := false }
    between [' '] (redirection depth) list

/-- Shows a condition between double brackets. -/
def condition (depth : Nat) (test : Condition) : Layout Unit := do
  match depth with
  | 0 => return
  | depth + 1 =>
    match test with
    | .text word => pieces depth none word
    | .unary operator word =>
      say (operator ++ [' '])
      pieces depth none word
    | .binary operator left right =>
      pieces depth none left
      say ([' '] ++ operator ++ [' '])
      pieces depth none right
    | .negated inner =>
      say ['!', ' ']
      condition depth inner
    | .group inner =>
      say ['(', ' ']
      condition depth inner
      say [' ', ')']
    | .both first second =>
      condition depth first
      say " && ".toList
      condition depth second
    | .either first second =>
      condition depth first
      say " || ".toList
      condition depth second

/-- Shows the arms of a selection. -/
def arms (depth : Nat) (list : List Arm) : Layout Unit := do
  match depth, list with
  | 0, _ => return
  | _, [] => return
  | depth + 1, .mk patterns body after :: rest =>
    newLine []
    between " | ".toList (pieces depth none) patterns
    say [')', '\n']
    deeper (command depth body)
    let _ ← withDocuments []
    newLine (match after with
      | .stop => [';', ';']
      | .enter => [';', '&']
      | .test => [';', ';', '&'])
    arms depth rest

/-- Shows commands that are joined by a connector. -/
def joined (depth : Nat) (connector : Octets) (first second : Command) : Layout Unit := do
  match depth with
  | 0 => return
  | depth + 1 =>
    command depth first
    let shown := [' '] ++ connector ++ [' ']
    if !(← withDocuments shown) then say shown
    skipIndent
    command depth second

/-- Shows a loop after its head. -/
def body (depth : Nat) (inner : Command) : Layout Unit := do
  match depth with
  | 0 => return
  | depth + 1 =>
    deeper (command depth inner)
    let _ ← withDocuments []
    semicolon
    newLine "done".toList

/-- Shows a command. -/
def command (depth : Nat) (c : Command) : Layout Unit := do
  match depth with
  | 0 => return
  | depth + 1 =>
    let start : Layout Unit := do
      let s ← get
      if s.skipped = 0 then indented else set { s with skipped := s.skipped - 1 }
    match c with
    | .nothing => return
    | .simple _ assignments words list =>
      start
      between [' '] (pieces depth none) (assignments ++ words)
      if !list.isEmpty then
        if assignments.isEmpty && words.isEmpty then between [' '] (redirection depth) list
        else redirections depth list
    | .pipeline stages =>
      match stages with
      | [] => return
      | [last] => command depth last
      | first :: rest =>
        command depth first
        if !(← withDocuments " |".toList) then say " |".toList
        say [' ']
        skipIndent
        command depth (.pipeline rest)
    | .negated inner =>
      start
      say ['!', ' ']
      skipIndent
      command depth inner
    | .timed portable inner =>
      start
      say (if portable then "time -p ".toList else "time ".toList)
      skipIndent
      command depth inner
    | .both first second => joined depth ['&', '&'] first second
    | .either first second => joined depth ['|', '|'] first second
    | .sequence first second =>
      command depth first
      let endsBeside := (← get).text.head? = some '&'
      if endsBeside then
        say [' ']
        skipIndent
      else
        let s ← get
        if !(← withDocuments (if s.onLines then [] else [';'])) then
          if s.afterDocument then modify fun s => { s with afterDocument := false } else say [';']
        if s.onLines then say ['\n']
        else
          say [' ']
          skipIndent
      command depth second
    | .background inner =>
      command depth inner
      if !(← withDocuments " &".toList) then say " &".toList
    | .group inner =>
      start
      say ['\x7b', ' ']
      if (← get).onLines then
        say ['\n']
        deeper (command depth inner)
        let _ ← withDocuments []
        say ['\n']
        indented
      else
        skipIndent
        command depth inner
        let _ ← withDocuments []
        semicolon
        say [' ']
      say ['\x7d']
    | .subshell _ inner list =>
      start
      say ['(', ' ']
      skipIndent
      command depth inner
      let _ ← withDocuments []
      say [' ', ')']
      redirections depth list
    | .redirected _ inner list =>
      command depth inner
      redirections depth list
    | .choice test yes no =>
      start
      say "if ".toList
      skipIndent
      command depth test
      semicolon
      say " then\n".toList
      deeper (command depth yes)
      let _ ← withDocuments []
      match no with
      | .nothing => pure ()
      | no =>
        semicolon
        newLine "else\n".toList
        deeper (command depth no)
        let _ ← withDocuments []
      semicolon
      newLine "fi".toList
    | .loop untilTrue test inner =>
      start
      say (if untilTrue then "until ".toList else "while ".toList)
      skipIndent
      command depth test
      let _ ← withDocuments []
      semicolon
      say " do\n".toList
      body depth inner
    | .each _ name words inner =>
      start
      say ("for ".toList ++ name ++ " in ".toList)
      between [' '] (pieces depth none) words
      say [';']
      newLine "do\n".toList
      body depth inner
    | .menu _ name words inner =>
      start
      say ("select ".toList ++ name ++ " in ".toList)
      between [' '] (pieces depth none) words
      say [';']
      newLine "do\n".toList
      body depth inner
    | .count _ first test step inner =>
      start
      let parts ← [first, test, step].mapM fun word => apart (pieces depth (some .single) word)
      say ("for ((".toList ++ Text.joined [';', ' '] (parts.map trimmed) ++ [')', ')'])
      newLine "do\n".toList
      body depth inner
    | .select _ subject list =>
      start
      say "case ".toList
      pieces depth none subject
      say " in ".toList
      deeper (arms depth list)
      newLine "esac".toList
    | .condition _ test =>
      start
      say "[[ ".toList
      condition depth test
      say " ]]".toList
    | .compute _ expression =>
      start
      say ['(', '(']
      pieces depth (some .single) expression
      say [')', ')']
    | .define _ name inner =>
      start
      say ("function ".toList ++ name ++ " () \n".toList)
      definition depth inner
    | .unread _ => return

/-- Shows the body of a function. -/
def definition (depth : Nat) (inner : Command) : Layout Unit := do
  match depth with
  | 0 => return
  | depth + 1 =>
    let before := (← get).onLines
    modify fun s => { s with onLines := true }
    indented
    say ['\x7b', ' ', '\n']
    let (inner, list) := functionParts inner
    deeper (command depth inner)
    let _ ← withDocuments []
    newLine ['\x7d']
    redirections depth list
    modify fun s => { s with onLines := before }
end

/-- How deeply what is shown may be nested. -/
def deepest : Nat := 1000000

/-- The text of a computation. -/
def textOf (documents : Array Word) (body : Layout Unit) : Octets :=
  ((body.run { documents }).2).text.reverse

/-- A word as it was written. -/
def word (w : Word) : Octets :=
  textOf #[] (pieces deepest none w)

/-- A parameter or an element as it was written. -/
def source (r : Reference) : Octets :=
  textOf #[] (reference deepest r)

/-- A function as the extended language shows it. -/
def function (documents : Array Word) (name : Octets) (inner : Command) : Octets :=
  textOf documents (do
    if isKeyword .extended name.name then say "function ".toList
    say (name ++ " () \n".toList)
    definition deepest inner)

/-- A function without its name, as programs are shown it. -/
def exported (documents : Array Word) (inner : Command) : Octets :=
  let (inner, list) := functionParts inner
  let body : Layout Unit := do
    say ['(', ')', ' ', '\x7b', ' ']
    command deepest inner
    let _ ← withDocuments []
    say ['\n', '\x7d']
    redirections deepest list
  ((body.run { documents, indent := 1, step := 0, onLines := true }).2).text.reverse

/-- A command in one line, as it was written. -/
def inLine (documents : Array Word) (c : Command) : Octets :=
  textOf documents (command deepest c)

/-- The first line of a compound command, or another command as a whole. -/
def head (documents : Array Word) (c : Command) : Octets :=
  let list (words : List Word) : Octets := Text.joined [' '] (words.map word)
  match c with
  | .each _ name words _ => "for ".toList ++ name ++ " in ".toList ++ list words
  | .menu _ name words _ => "select ".toList ++ name ++ " in ".toList ++ list words
  | .select _ subject _ => "case ".toList ++ word subject ++ " in ".toList
  | c => inLine documents c

end DocMend.Shell.Layout
