import DocMend.Shell.Find.Expression
/-!
Walks through folders, on which an expression is evaluated for every file. What a walk remembers is how
commands are to be completed, whether the folder at hand is left out, and whether something went
wrong.
-/

set_option autoImplicit false
set_option relaxedAutoImplicit false

namespace DocMend.Shell.Find

/-- A file on a walk: its name, the name at which the walk began, its depth, its path, the path of what
it stands for, and both things. -/
structure Visit where
  name : Octets
  start : Octets
  depth : Nat
  path : Path
  direct : Thing
  goal : Path
  thing : Thing

namespace Visit

/-- The letter for the kind of a thing. -/
def letterOf : Thing → Char
  | .file _ => 'f'
  | .folder => 'd'
  | .link _ => 'l'

/-- A name without the slashes at its end, of which one stays if there is nothing else. -/
def trimmed (name : Octets) : Octets :=
  let short := (name.reverse.dropWhile (· == '/')).reverse
  if short.isEmpty then name.take 1 else short

/-- The last component of the name. -/
def base (v : Visit) : Octets :=
  let name := trimmed v.name
  let last := (name.reverse.takeWhile (· ≠ '/')).reverse
  if last.isEmpty then name else last

/-- The last component of the name, with a slash where the name ends with one. -/
def shownBase (v : Visit) : Octets :=
  if v.name.getLast? = some '/' && v.base ≠ ['/'] then v.base ++ ['/'] else v.base

/-- The part of the name before its last slash. -/
def folder (v : Visit) : Octets :=
  match v.name.reverse.dropWhile (· ≠ '/') with
  | [] => ['.']
  | _ :: rest => rest.reverse

/-- The name behind that of the start. -/
def below (v : Visit) : Octets :=
  (v.name.drop v.start.length).dropWhile (· == '/')

/-- What is known of the file. -/
def details (v : Visit) (m : Machine) : Details :=
  m.detailsOf v.name v.goal v.thing

/-- The kind of the other end of a link, or of the link itself where it was followed. -/
def otherLetter (v : Visit) (m : Machine) : Char :=
  match v.direct, v.thing with
  | .link _, .link _ =>
    match m.locate v.path.dropLast ((v.path.getLast?).getD "") with
    | .ok goal =>
      match m.thing? goal with
      | some thing => letterOf thing
      | none => 'l'
    | .error _ => 'l'
  | direct, _ => letterOf direct

end Visit

/-- Whether a test holds. -/
def Test.holds (m : Machine) (v : Visit) : Test → Bool
  | .constant holds => holds
  | .name pattern fold =>
    Pattern.matchesAll pattern (if fold then v.base.map Char.toLower else v.base)
  | .whole pattern fold =>
    Pattern.matchesAll pattern (if fold then v.name.map Char.toLower else v.name)
  | .target pattern fold =>
    match v.thing with
    | .link text => Pattern.matchesAll pattern (if fold then text.map Char.toLower else text)
    | _ => false
  | .regex searcher =>
    let found := searcher.graph.matchAt? (.ofOctets v.name) 0
    found.any fun found => found.stop == v.name.length
  | .kind letters other =>
    letters.contains (if other then v.otherLetter m else Visit.letterOf v.thing)
  | .empty =>
    match v.thing with
    | .file bytes => bytes.isEmpty
    | .folder => (m.entries v.goal).isEmpty
    | .link _ => false
  | .size bound unit =>
    bound.holds (((v.details m).size + unit - 1) / unit : Nat)
  | .changedAfter time => time < m.timeOf v.goal
  | .age bound unit roundsUp origin => bound.holdsAge unit roundsUp (origin - m.timeOf v.goal)
  | .mode allowance => allowance.holds (v.details m).mode
  | .names bound => bound.holds (v.details m).names
  | .number bound => bound.holds (m.numberOf v.goal)
  | .sameAs path => (m.namesAt path).contains v.goal
  | .allows bits =>
    match m.locate v.path.dropLast ((v.path.getLast?).getD ".") with
    | .ok goal => m.isPresent goal && (bits == 0 || m.modeOf goal &&& bits != 0)
    | .error _ => false

/-- The time of a file as a part of a format shows it. The seconds have ten digits behind the point. -/
def timeText (moment : Moment) (letter : Char) : Octets :=
  let part := '.' :: moment.format "%N" true ++ ['0']
  let clock := moment.format "%H:%M:%S" ++ part
  match letter with
  | '@' => Octets.ofInt moment.seconds ++ part
  | '+' => moment.format "%Y-%m-%d+" ++ clock
  | 'S' => moment.format "%S" ++ part
  | 'T' => clock
  | 'X' => clock
  | 'q' => ['%', 'q']
  | letter => moment.format ['%', letter]

/-- What a part of a format shows of a file. -/
def fieldText (m : Machine) (v : Visit) (c : Conversion) : Octets :=
  let d := v.details m
  let number (n : Nat) : Octets := { c with letter := 'd' }.integer n
  let count (n : Nat) : Octets := c.text (Octets.ofNat n)
  let stamp : Octets := d.time.format "%a %b %e %H:%M:%S." ++ d.time.format "%N" true ++ "0 ".toList ++
    d.time.format "%Y"
  match c.letter with
  | 'p' => c.text v.name
  | 'f' => c.text v.shownBase
  | 'h' => c.text v.folder
  | 'H' => c.text v.start
  | 'P' => c.text v.below
  | 'd' => number v.depth
  | 's' => count d.size
  | 'b' => count d.blocks
  | 'k' => count (d.blocks / 2)
  | 'm' => { c with letter := 'o' }.integer d.mode
  | 'M' => c.text d.letters
  | 'y' => c.text [Visit.letterOf v.thing]
  | 'Y' =>
    let letter := v.otherLetter m
    c.text [if letter == 'l' && Visit.letterOf v.direct == 'l' then 'N' else letter]
  | 'l' =>
    c.text (match v.thing with
      | .link text => text
      | _ => [])
  | 'n' => count d.names
  | 'i' => count (m.numberOf v.goal)
  | 'u' => c.text "root"
  | 'g' => c.text "root"
  | 'U' => count 0
  | 'G' => count 0
  | 'a' => c.text stamp
  | 'c' => c.text stamp
  | 't' => c.text stamp
  | 'D' => count 64769
  | 'F' => c.text "overlay"
  | 'S' => c.text ['1']
  | _ => c.text []

/-- What a format shows of a file. -/
def piecesText (m : Machine) (v : Visit) : List Piece → Octets
  | [] => []
  | .stop :: _ => []
  | .text text :: rest => text ++ piecesText m v rest
  | .field c :: rest => fieldText m v c ++ piecesText m v rest
  | .time c letter :: rest => c.text (timeText (v.details m).time letter) ++ piecesText m v rest

/-- A file as a long list shows it. -/
def listText (m : Machine) (v : Visit) : Octets :=
  let d := v.details m
  let number (width n : Nat) : Octets := Tool.toRight width (Octets.ofNat n)
  let halfYear : Int := 15778476
  let now := Moment.ofThousandths m.now
  let recent := now.seconds - d.time.seconds < halfYear && d.time.seconds ≤ now.seconds
  number 9 (m.numberOf v.goal) ++ [' '] ++ number 6 (d.blocks / 2) ++ [' '] ++ d.letters ++ [' '] ++
    number 3 d.names ++ " root     root     ".toList ++ number 8 d.size ++ [' '] ++
    d.time.format (if recent then "%b %e %H:%M " else "%b %e  %Y ") ++ v.name.flatMap (fun c =>
      if c == ' ' || c == '\\' || c == '"' then ['\\', c] else (Tool.escape? c).getD [c]) ++
    (match v.thing with
      | .link text => " -> ".toList ++ text
      | _ => []) ++ ['\n']

/-- What a walk remembers. -/
structure Progress where
  /-- For each order with many files: the folder in which it runs, and the names, the latest first. -/
  gathered : List (Nat × (Octets × List Octets)) := []
  skipped : Bool := false
  finished : Bool := false
  status : Nat := 0

/-- Computations on a walk. -/
abbrev Walking := StateT Progress Run

/-- What a walk needs to know. -/
structure Plan where
  settings : Settings
  expression : Expression
  launcher : Launcher
  /-- The orders that are given many files. -/
  orders : List Order

namespace Walking

/-- Notes that something went wrong. -/
def wrong (text : Octets) : Walking Unit := do
  (Tool.complain "find" text : Run Unit)
  modify fun p => { p with status := 1 }

/-- Writes what an action shows. -/
def put (channel : Option Nat) (text : Octets) : Walking Unit := do
  match channel with
  | none => (Run.print text : Run Unit)
  | some index =>
    match (← (Run.machine : Run Machine)).write index text with
    | .ok changed => (Run.modifyMachine fun _ => changed : Run Unit)
    | .error _ => pure ()

/-- The words of a command with the name of a file in place of braces. -/
def filled (name : Octets) : Octets → Octets
  | '\x7b' :: '\x7d' :: rest => name ++ filled name rest
  | c :: rest => c :: filled name rest
  | [] => []

/-- Runs a command in a folder: its status. -/
def launch (plan : Plan) (folder : Octets) (silent : Bool) (words : List Octets) : Walking Nat := do
  let name := words.headD []
  let goal ← (Run.locate folder : Run _)
  let prepare : Run Unit := do
    match goal with
    | .ok path => Run.modifySelf fun s => { s with folder := path, route? := none }
    | .error _ => pure ()
    if silent then
      let _ ← Run.connectNew 0 .nothing
  let refused (refusal : Refusal) : Run Nat := do
    Tool.complain "find" (Tool.quotedName name ++ ": " ++ Tool.reason refusal)
    return 1
  match ← (plan.launcher.spawn prepare words refused : Run Exit) with
  | .status n => return n
  | .signal n =>
    (Tool.complain "find" (Tool.quotedName name ++ " terminated by signal " ++ Octets.ofNat n) : Run Unit)
    return 128 + n

/-- Asks whether a command shall run. -/
def confirms (order : Order) (name : Octets) : Walking Bool := do
  let question := "< " ++ order.words.headD [] ++ " ... " ++ name ++ " > ? "
  let _ ← (Run.write 2 question : Run _)
  match ← (Run.available 0 : Run _) with
  | .error _ => return false
  | .ok text =>
    let line := text.takeWhile (· ≠ '\n')
    (Run.consume 0 (min text.length (line.length + 1)) : Run Unit)
    return line.head? = some 'y' || line.head? = some 'Y'

/-- Runs an order for the names that were gathered for it. -/
def complete (plan : Plan) (order : Order) : Walking Unit := do
  match (← get).gathered.lookup order.index with
  | none => return
  | some (folder, names) =>
    modify fun p => { p with gathered := p.gathered.filter fun entry => entry.1 != order.index }
    if (← launch plan folder false (order.words ++ names.reverse)) != 0 then
      modify fun p => { p with status := 1 }

/-- How many bytes the words of a command may have. -/
def mostBytes : Nat := 131072

/-- Carries out an order for a file. -/
def run (plan : Plan) (order : Order) (v : Visit) : Walking Bool := do
  let folder := if order.nearby then (if v.folder.isEmpty then ['/'] else v.folder) else ['.']
  let name := if order.nearby then (if v.base == ['/'] then v.base else "./".toList ++ v.base) else v.name
  if order.asks then
    if !(← confirms order v.name) then return false
  if !order.gathers then
    return (← launch plan folder order.asks (order.words.map (filled name))) == 0
  match (← get).gathered.lookup order.index with
  | some (other, names) =>
    let size := (order.words ++ names).foldl (fun n word => n + word.length + 1) name.length
    if other ≠ folder || mostBytes ≤ size then complete plan order
  | none => pure ()
  modify fun p =>
    let names := ((p.gathered.lookup order.index).map Prod.snd).getD []
    { p with
      gathered := (order.index, (folder, name :: names)) ::
        p.gathered.filter fun entry => entry.1 != order.index }
  return true

/-- Removes a file. -/
def remove (v : Visit) : Walking Bool := do
  if v.name == ['.'] then return true
  let fail (text : Octets) : Walking Bool := do
    wrong ("cannot delete " ++ Tool.quotedName v.name ++ ": " ++ text)
    return false
  let m ← (Run.machine : Run Machine)
  match m.thing? v.path with
  | none => fail (Tool.reason .missing)
  | some .folder =>
    if !(m.entries v.path).isEmpty then return ← fail "Directory not empty"
    (Run.modifyMachine fun m => m.erase v.path : Run Unit)
    return true
  | some _ =>
    (Run.modifyMachine fun m => m.erase v.path : Run Unit)
    return true

/-- Carries out an action for a file. -/
def act (plan : Plan) (v : Visit) : Action → Walking Bool
  | .print finish channel => do
    put channel (v.name ++ [finish])
    return true
  | .format pieces channel => do
    put channel (piecesText (← (Run.machine : Run Machine)) v pieces)
    return true
  | .list channel => do
    put channel (listText (← (Run.machine : Run Machine)) v)
    return true
  | .run order => run plan order v
  | .remove => remove v
  | .skip => do
    modify fun p => { p with skipped := true }
    return true
  | .quit => do
    plan.orders.forM (complete plan)
    modify fun p => { p with finished := true }
    return true

/-- Evaluates an expression for a file. -/
def evaluate (plan : Plan) (v : Visit) : Expression → Walking Bool
  | .test test => return test.holds (← (Run.machine : Run Machine)) v
  | .action action => do
    if (← get).finished then return true
    act plan v action
  | .no expression => return !(← evaluate plan v expression)
  | .both first second => do
    if ← evaluate plan v first then evaluate plan v second else return false
  | .either first second => do
    if ← evaluate plan v first then return true else evaluate plan v second
  | .sequence first second => do
    let _ ← evaluate plan v first
    evaluate plan v second

/-- What a name leads to on a walk. -/
def visitOf (m : Machine) (follows : Bool) (name start : Octets) (depth : Nat) (path : Path)
    (direct : Thing) : Visit :=
  let plain : Visit := ⟨name, start, depth, path, direct, path, direct⟩
  match direct, follows with
  | .link _, true =>
    match m.locate path.dropLast ((path.getLast?).getD "") with
    | .ok goal =>
      match m.thing? goal with
      | some thing => { plain with goal, thing }
      | none => plain
    | .error _ => plain
  | _, _ => plain

/-- Walks through a file and what is below it. The folders above it are known by their paths and
names. -/
def walk (plan : Plan) : Nat → (above : List (Path × Octets)) → Visit → Walking Unit
  | 0, _, _ => return
  | fuel + 1, above, v => do
    if (← get).finished then return
    match (if v.thing == .folder then above.lookup v.goal else none) with
    | some name =>
      wrong ("File system loop detected; " ++ Tool.quotedName v.name ++
        " is part of the same file system loop as " ++ Tool.quotedName name ++ ".")
      return
    | none => pure ()
    let settings := plan.settings
    let counts := settings.least ≤ v.depth
    modify fun p => { p with skipped := false }
    if !settings.depthFirst && counts then
      let _ ← evaluate plan v plan.expression
    let enters := v.thing == .folder && !((← get).skipped && !settings.depthFirst) &&
      settings.most.all fun most => v.depth < most
    if enters && !(← get).finished then
      let m ← (Run.machine : Run Machine)
      if !m.disk.isFolder v.goal then wrong (Tool.quotedName v.name ++ ": " ++ Tool.reason .missing)
      else
        for child in ← (Tool.childrenOf v.goal : Run (List Octets)) do
          let m ← (Run.machine : Run Machine)
          let path := v.goal ++ [Octets.toText child]
          match m.thing? path with
          | none => pure ()
          | some direct =>
            let follows := settings.follows = .always
            let next := visitOf m follows (Tool.inside v.name child) v.start (v.depth + 1) path direct
            walk plan fuel ((v.goal, v.name) :: above) next
    plan.orders.forM fun order => do
      if order.nearby && !(← get).finished then complete plan order
    if settings.depthFirst && counts && !(← get).finished then
      let _ ← evaluate plan v plan.expression

/-- Walks from a name. -/
def start (plan : Plan) (name : Octets) : Walking Unit := do
  if (← get).finished then return
  let follows := plan.settings.follows ≠ .never
  match ← (Run.placeOf name false : Run _) with
  | .error refusal => wrong (Tool.quotedName name ++ ": " ++ Tool.reason refusal)
  | .ok (_, none) => wrong (Tool.quotedName name ++ ": " ++ Tool.reason .missing)
  | .ok (path, some thing) =>
    let slashed := name.getLast? = some '/'
    let m ← (Run.machine : Run Machine)
    if slashed && Visit.letterOf thing == 'f' then
      wrong (Tool.quotedName name ++ ": " ++ Tool.reason .notFolder)
    else walk plan Tool.deepestFolder [] (visitOf m (follows || slashed) name name 0 path thing)

end Walking

end DocMend.Shell.Find
