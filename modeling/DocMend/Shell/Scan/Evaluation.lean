import DocMend.Shell.Scan.Function
/-!
Carrying out of scanning programs. What a program nests is bounded by a depth; loops go on for as long as
they like.
-/

set_option autoImplicit false
set_option relaxedAutoImplicit false

namespace DocMend.Shell.Scan

/-- What a program is carried out with. -/
structure Setting where
  program : Program
  launcher : Launcher

/-- What can be assigned: a variable, a field, or an element of a table. -/
inductive Address where
  | variable (place : Place)
  | field (number : Nat)
  | element (table : Nat) (key : Key)

/-- The result of an operation. -/
def Operation.apply (operation : Operation) (x y : Float) : Float :=
  match operation with
  | add => x + y
  | subtract => x - y
  | multiply => x * y
  | divide => x / y
  | modulo => remainder x y
  | raise => power x y

/-- Whether a comparison holds for an order. -/
def Comparison.holds (comparison : Comparison) (order : Ordering) : Bool :=
  match comparison with
  | less => order == .lt
  | lessOrEqual => order != .gt
  | equal => order == .eq
  | unequal => order != .eq
  | greater => order == .gt
  | greaterOrEqual => order != .lt

namespace Scanning

/-- The number of a field. -/
def fieldNumber (v : Value) : Scanning Nat := do
  let n := toInteger v.toNumber
  if n < 0 then giveAtRecord ("negative field index $" ++ Octets.ofInt n)
  return n.toNat

/-- What stands at an address. -/
def load : Address → Scanning Value
  | .variable place => readVariable place
  | .field n => field n
  | .element table key => withTable table fun t => t.get .missing key

/-- Sets what stands at an address. -/
def store (address : Address) (v : Value) : Scanning Unit := do
  match address with
  | .variable place => setVariable place v
  | .field n => setField n v
  | .element table key => withTable table fun t => ((), t.set key v)

/-- The key that values make together. -/
def keyOf (values : List Value) : Scanning Key := do
  match values with
  | [v] => return v.toKey (← textFormat)
  | values =>
    let between ← textOf (← special "SUBSEP")
    return .text (Text.joined between (← values.mapM textOf))

/-- Writes values by a format. -/
def formatWith (function : Octets) (values : List Value) :
    Scanning (Octets × Option Octets) := do
  let convert ← textFormat
  let format ← textOf (values.headD .missing)
  let (text, fault) := formatted (Value.toText convert) format (values.drop 1)
  return (text, fault.map fun fault => fault.text function format)

/-- Carries out the body of a loop: whether the loop goes on. -/
def turn (body : Scanning Unit) : Scanning Bool := do
  try
    body
    return true
  catch
    | .break => return false
    | .continue => return true
    | leave => throw leave

/-- How often a loop is gone through. -/
def mostTurns : Nat := 1000000000000

/-- Gives a value to a function of numbers. -/
def compute (f : Float → Float) (values : List Value) : Value :=
  .number (f (values.headD .missing).toNumber)

/-- The moment of the machine, in seconds. -/
def present : Scanning Int := do
  return (← run Run.machine).now / 1000

/-- Sets the seed of random numbers: the one before. -/
def seed (values : List Value) : Scanning Value := do
  let v ← match values with
    | v :: _ => pure v
    | [] => pure (Value.number (Float.ofInt (← present)))
  let before := (← get).seed
  let n := toInteger v.toNumber
  modify fun s => { s with seed := v, random := Random.ofSeed (n % 4294967296).toNat }
  return before

/-- Writes a moment by a format. -/
def moment (values : List Value) : Scanning Value := do
  let format ← textOf (values.headD .missing)
  let seconds ← match values[1]? with
    | some v => pure (toInteger v.toNumber)
    | none => present
  let format := if format.isEmpty then "%c".toList else format
  return .text ((Moment.mk seconds 0).format format)

/-- The value of a function that is there from the start, of which the arguments are values. -/
def applied (setting : Setting) (builtin : Builtin) (values : List Value) : Scanning Value := do
  let first : Scanning Octets := textOf (values.headD .missing)
  match builtin, values with
  | .length, [] => return .ofNat (← record).length
  | .length, _ => return .ofNat (← first).length
  | .index, [whole, part] => do
    let whole ← textOf whole
    return .ofNat (indexOf (← textOf part) 1 whole)
  | .substr, [text, start] => return .text (substring (← textOf text) start.toNumber none)
  | .substr, [text, start, length] =>
    return .text (substring (← textOf text) start.toNumber (some length.toNumber))
  | .sprintf, values => do
    let (text, fault?) ← formatWith "sprintf" values
    match fault? with
    | some fault => giveAtRecord fault
    | none => return .text text
  | .sin, values => return compute Float.sin values
  | .cos, values => return compute Float.cos values
  | .exp, values => return compute Float.exp values
  | .log, values => return compute Float.log values
  | .sqrt, values => return compute Float.sqrt values
  | .int, values => return compute truncated values
  | .atan2, [y, x] => return .number (Float.atan2 y.toNumber x.toNumber)
  | .rand, _ => do
    let (x, random) := Random.next (← get).random
    modify fun s => { s with random }
    return .number x
  | .srand, values => seed values
  | .system, _ => return .ofNat (← system setting.launcher (← first))
  | .close, _ => do
    match ← close setting.launcher (← first) with
    | some status => return .ofNat status
    | none => return .number (-1)
  | .flush, [] => do
    flushAll
    return .ofNat 0
  | .flush, _ => do
    let name ← first
    if name == "/dev/stdout".toList || name.isEmpty then
      flushAll
      return .ofNat 0
    let known := (← get).streams.any fun (stream : Stream) => stream.name == name
    flushAll
    return if known then .ofNat 0 else .number (-1)
  | .toUpper, _ => return .text ((← first).map Char.toUpper)
  | .toLower, _ => return .text ((← first).map Char.toLower)
  | .systime, _ => return .number (Float.ofInt (← present))
  | .mktime, _ => do
    match momentOf (← first) with
    | some seconds => return .number (Float.ofInt seconds)
    | none => return .number (-1)
  | .strftime, values => moment values
  | _, _ => return .missing

/-- Writes a text to where output goes. -/
def send (text : Octets) : Option (Octets ⊕ (Bool × Octets)) → Scanning Unit
  | none => put text
  | some (.inl line) => putToCommand line text
  | some (.inr (appends, name)) => putTo name appends text

mutual
/-- The value of an expression. -/
def evaluate (setting : Setting) : Nat → Expression → Scanning Value
  | 0, _ => run (throw .exhausted)
  | fuel + 1, e => do
    match e with
    | .number x => return .number x
    | .text cs => return .text cs
    | .group inner => evaluate setting fuel inner
    | .regex x _ => return .ofBool (x.occurs (← record))
    | .target target => do load (← address setting fuel target)
    | .assign operation? target value => do
      let address ← address setting fuel target
      let v ← evaluate setting fuel value
      let new ← match operation? with
        | none => pure v
        | some operation => do
          pure (Value.number (operation.apply (← load address).toNumber v.toNumber))
      store address new
      return new
    | .step target adds after => do
      let address ← address setting fuel target
      let old := (← load address).toNumber
      let new := if adds then old + 1 else old - 1
      store address (.number new)
      return .number (if after then new else old)
    | .choose condition first second => do
      if (← evaluate setting fuel condition).holds then evaluate setting fuel first
      else evaluate setting fuel second
    | .either first second => do
      if (← evaluate setting fuel first).holds then return .ofBool true
      return .ofBool (← evaluate setting fuel second).holds
    | .both first second => do
      if !(← evaluate setting fuel first).holds then return .ofBool false
      return .ofBool (← evaluate setting fuel second).holds
    | .no operand => return .ofBool !(← evaluate setting fuel operand).holds
    | .negate operand => return .number (-(← evaluate setting fuel operand).toNumber)
    | .plus operand => return .number (← evaluate setting fuel operand).toNumber
    | .operate operation first second => do
      let x ← evaluate setting fuel first
      let y ← evaluate setting fuel second
      return .number (operation.apply x.toNumber y.toNumber)
    | .join first second => do
      let x ← evaluate setting fuel first
      let y ← evaluate setting fuel second
      return .text ((← textOf x) ++ (← textOf y))
    | .compare comparison first second => do
      let x ← evaluate setting fuel first
      let y ← evaluate setting fuel second
      return .ofBool (comparison.holds (x.compare (← textFormat) y))
    | .taken negated subject pattern => do
      let text ← textOf (← evaluate setting fuel subject)
      let x ← searcher setting fuel pattern
      return .ofBool (x.occurs text != negated)
    | .isIn keys table => do
      let key ← keyOf (← evaluateAll setting fuel keys)
      return .ofBool (← withTable (← tableIndex table) fun t => t.has key)
    | .call function arguments => callFunction setting fuel function arguments
    | .builtin .match arguments => do
      match arguments with
      | [subject, pattern] =>
        let text ← textOf (← evaluate setting fuel subject)
        let x ← searcher setting fuel pattern
        let (start, length) : Value × Value := match x.find? (.ofOctets text) 0 with
          | some m => (.ofNat (m.start + 1), .ofNat (m.stop - m.start))
          | none => (.ofNat 0, .number (-1))
        setSpecial "RSTART" start
        setSpecial "RLENGTH" length
        return start
      | _ => return .missing
    | .builtin builtin arguments => do
      applied setting builtin (← evaluateAll setting fuel arguments)
    | .split subject table separator? => do
      let text ← textOf (← evaluate setting fuel subject)
      let how ← match separator? with
        | none => fieldSeparation (← textOf (← lastSet fieldPlace))
        | some (.regex x _) => pure (.regex x)
        | some e => do fieldSeparation (← textOf (← evaluate setting fuel e))
      let parts := (how.cut text).map fun (part : Octets) => Value.input part
      withTable (← tableIndex table) fun _ => ((), .ofParts parts)
      return .ofNat parts.length
    | .substitute everywhere pattern replacement target? => do
      let x ← searcher setting fuel pattern
      let new ← textOf (← evaluate setting fuel replacement)
      let address ← match target? with
        | some target => address setting fuel target
        | none => pure (.field 0)
      let text ← textOf (← load address)
      let fill (whole : Octets) : Octets := filled whole (new.length + 1) new
      let (done, count) := replaced x (.ofOctets text) fill everywhere (text.length + 2) 0 none [] 0
      if count ≠ 0 then store address (.text done.reverse.flatten)
      return .ofNat count
    | .line source target? => do
      let address? ← match target? with
        | some target => some <$> address setting fuel target
        | none => pure none
      let keep (text : Octets) : Scanning Value := do
        match address? with
        | some address => store address (.input text)
        | none => setRecord text
        return .ofNat 1
      match source with
      | .input => do
        match ← advance setting.program with
        | some text => keep text
        | none => return .ofNat 0
      | .file name => do
        match ← nextLine setting.launcher (← textOf (← evaluate setting fuel name)) .reads with
        | .ok text => keep text
        | .error isMissing => return .number (if isMissing then -1 else 0)
      | .command line => do
        match ← nextLine setting.launcher (← textOf (← evaluate setting fuel line)) .readsCommand with
        | .ok text => keep text
        | .error isMissing => return .number (if isMissing then -1 else 0)
    | .size table => do
      match ← slotAt table with
      | .table index => return .ofNat (← withTable index fun t => (t.count, t))
      | .value v => return .ofNat (← textOf v).length

/-- The values of expressions. -/
def evaluateAll (setting : Setting) : Nat → List Expression → Scanning (List Value)
  | 0, _ => run (throw .exhausted)
  | _, [] => return []
  | fuel + 1, e :: rest => do
    let v ← evaluate setting fuel e
    return v :: (← evaluateAll setting fuel rest)

/-- The expression that a text has to be taken by. -/
def searcher (setting : Setting) : Nat → Expression → Scanning Regex.Searcher
  | 0, _ => run (throw .exhausted)
  | fuel + 1, e => do
    match e with
    | .regex x _ => return x
    | e => searcherOf (← textOf (← evaluate setting fuel e))

/-- The address of what can be assigned. -/
def address (setting : Setting) : Nat → Target → Scanning Address
  | 0, _ => run (throw .exhausted)
  | fuel + 1, target => do
    match target with
    | .variable place => return .variable place
    | .field index => return .field (← fieldNumber (← evaluate setting fuel index))
    | .element table keys => do
      let key ← keyOf (← evaluateAll setting fuel keys)
      return .element (← tableIndex table) key

/-- Calls a function. A table is given as it is; parameters for which nothing is given are fresh. -/
def callFunction (setting : Setting) : Nat → (function : Nat) → List Expression → Scanning Value
  | 0, _, _ => run (throw .exhausted)
  | fuel + 1, number, arguments => do
    match setting.program.functions[number]? with
    | none => return .missing
    | some function =>
      let given ← argumentSlots setting fuel arguments function.kinds
      let size := (← get).tables.size
      let mut frame := given.toArray
      for kind in function.kinds.drop given.length do
        if kind = .table then
          let s ← get
          frame := frame.push (.table s.tables.size)
          set { s with tables := s.tables.push .empty }
        else frame := frame.push (.value .missing)
      let before := (← get).frame
      modify fun s => { s with frame }
      let result ← try
          execute setting fuel (function.body.getD .nothing)
          pure Value.missing
        catch
          | .return v => pure v
          | leave => throw leave
      modify fun s => { s with frame := before, tables := s.tables.extract 0 size }
      return result

/-- What is given to the parameters of a function. -/
def argumentSlots (setting : Setting) : Nat → List Expression → List Kind → Scanning (List Slot)
  | 0, _, _ => run (throw .exhausted)
  | _, [], _ => return []
  | fuel + 1, e :: rest, kinds => do
    let slot ← match e with
      | .target (.variable place) => do
        if kinds.head? = some .table then pure (Slot.table (← tableIndex place))
        else
          match ← slotAt place with
          | .table index => pure (.table index)
          | .value _ => pure (.value (← readVariable place))
      | e => do pure (.value (← evaluate setting fuel e))
    return slot :: (← argumentSlots setting fuel rest (kinds.drop 1))

/-- Where output goes. -/
def sinkOf (setting : Setting) : Nat → Option Sink → Scanning (Option (Octets ⊕ (Bool × Octets)))
  | 0, _ => run (throw .exhausted)
  | _ + 1, none => return none
  | fuel + 1, some (.file appends name) => do
    return some (.inr (appends, ← textOf (← evaluate setting fuel name)))
  | fuel + 1, some (.command line) => do
    return some (.inl (← textOf (← evaluate setting fuel line)))

/-- Carries out a statement. -/
def execute (setting : Setting) : Nat → Statement → Scanning Unit
  | 0, _ => run (throw .exhausted)
  | fuel + 1, statement => do
    match statement with
    | .nothing => return
    | .evaluate e =>
      let _ ← evaluate setting fuel e
    | .print values sink? => do
      let format := (← special "OFMT").toText []
      let values ← evaluateAll setting fuel values
      let sink ← sinkOf setting fuel sink?
      let text ← if values.isEmpty then record
        else do
          let between ← textOf (← lastSet joinPlace)
          pure (Text.joined between (values.map (Value.toText format)))
      send (text ++ (← textOf (← special "ORS"))) sink
    | .format values sink? => do
      let values ← evaluateAll setting fuel values
      let sink ← sinkOf setting fuel sink?
      let (text, fault?) ← formatWith "printf" values
      send text sink
      match fault? with
      | some fault => giveAtRecord fault
      | none => return
    | .choose condition first second => do
      if (← evaluate setting fuel condition).holds then execute setting fuel first
      else execute setting fuel second
    | .while condition body => do
      for _ in [0:mostTurns] do
        if !(← evaluate setting fuel condition).holds then break
        if !(← turn (execute setting fuel body)) then break
    | .until body condition => do
      for _ in [0:mostTurns] do
        if !(← turn (execute setting fuel body)) then break
        if !(← evaluate setting fuel condition).holds then break
    | .count start condition step body => do
      match start with
      | some e =>
        let _ ← evaluate setting fuel e
      | none => pure ()
      for _ in [0:mostTurns] do
        match condition with
        | some e => if !(← evaluate setting fuel e).holds then break
        | none => pure ()
        if !(← turn (execute setting fuel body)) then break
        match step with
        | some e =>
          let _ ← evaluate setting fuel e
        | none => pure ()
    | .each name table body => do
      let keys ← withTable (← tableIndex table) fun t => t.keys
      for key in keys do
        setVariable name (.text key)
        if !(← turn (execute setting fuel body)) then break
    | .block statements => executeAll setting fuel statements
    | .next => throw .next
    | .nextFile => throw .nextFile
    | .break => throw .break
    | .continue => throw .continue
    | .exit status? => do
      match status? with
      | some e => do
        let n := toInteger (← evaluate setting fuel e).toNumber
        modify fun s => { s with status := (n % 256).toNat }
      | none => pure ()
      throw .exit
    | .return value? => do
      match value? with
      | some e => throw (.return (← evaluate setting fuel e))
      | none => throw (.return .missing)
    | .erase table keys? => do
      let index ← tableIndex table
      match keys? with
      | some keys => do
        let key ← keyOf (← evaluateAll setting fuel keys)
        withTable index fun t => ((), t.erase key)
      | none => withTable index fun _ => ((), .empty)

/-- Carries out statements one after the other. -/
def executeAll (setting : Setting) : Nat → List Statement → Scanning Unit
  | 0, _ => run (throw .exhausted)
  | _, [] => return
  | fuel + 1, statement :: rest => do
    execute setting fuel statement
    executeAll setting fuel rest
end

/-- How deep a program may nest. -/
def deepest : Nat := 100000

/-- Whether a rule is for the record. A range begins with one record and ends with another one, which may
be the same. -/
def chooses (setting : Setting) (number : Nat) : Choice → Scanning Bool
  | .all => return true
  | .those condition => return (← evaluate setting deepest condition).holds
  | .range first last => do
    if !((← get).begun.getD number false) then
      if !(← evaluate setting deepest first).holds then return false
    let isOver := (← evaluate setting deepest last).holds
    modify fun s => { s with begun := s.begun.setIfInBounds number !isOver }
    return true

/-- Carries out the rules for a record: whether there may be more records. -/
def applyRules (setting : Setting) : Nat → List Rule → Scanning Unit
  | _, [] => return
  | number, rule :: rest => do
    if ← chooses setting number rule.choice then execute setting deepest rule.body
    applyRules setting (number + 1) rest

/-- Goes through all records. -/
def scan (setting : Setting) : Scanning Unit := do
  for _ in [0:mostTurns] do
    match ← advance setting.program with
    | none => return
    | some text =>
      setRecord text
      try
        applyRules setting 0 setting.program.rules
      catch
        | .next => pure ()
        | .nextFile => modify fun s => { s with main := none }
        | leave => throw leave

/-- Carries out a program: what it does first, what it does for records, and what it does at last. Leaving it
before the last part only leads to that part. -/
def perform (setting : Setting) : Scanning Unit := do
  let program := setting.program
  let leaving (body : Scanning Unit) : Scanning Bool := do
    try
      body
      return true
    catch
      | .exit => return true
      | .fault => return false
      | _ => return true
  let isSound ← leaving (do
    program.starts.forM (execute setting deepest)
    if !program.rules.isEmpty || !program.finishes.isEmpty then scan setting)
  if isSound then
    let _ ← leaving (program.finishes.forM (execute setting deepest))
  closeAll setting.launcher

end Scanning

end DocMend.Shell.Scan
