import DocMend.Shell.Pattern
/-!
Regular expressions as trees, sets of bytes, and the styles in which expressions are written. A style
says which signs are special and what becomes of signs that stand where they mean nothing.

Regular expressions as graphs. A node takes a byte, tests a place, opens or closes a group, or leads on
to one of two nodes without taking anything. Nodes are numbered in the order in which the expression
is written, an operator after what it is applied to; of two ways on, the lower number comes first.
-/

set_option autoImplicit false
set_option relaxedAutoImplicit false

namespace DocMend.Shell

/-- A set of bytes, as a table of all of them. -/
structure ByteSet where
  table : Array Bool
deriving DecidableEq, Repr

namespace ByteSet

/-- The bytes that pass a test. -/
def ofTest (test : Char → Bool) : ByteSet :=
  ⟨((List.range 256).map fun n => test (Char.ofNat n)).toArray⟩

/-- Whether a byte is in a set. -/
def contains (set : ByteSet) (c : Char) : Bool :=
  (set.table[c.toNat]?).getD false

/-- The set of a single byte. -/
def single (c : Char) : ByteSet :=
  ofTest (· == c)

/-- All bytes. -/
def all : ByteSet :=
  ofTest fun _ => true

/-- The bytes that are not in a set. -/
def complement (set : ByteSet) : ByteSet :=
  ofTest fun c => !set.contains c

/-- The bytes in one set or the other. -/
def union (first second : ByteSet) : ByteSet :=
  ofTest fun c => first.contains c || second.contains c

/-- The bytes whose capital letter is in a set. -/
def folded (set : ByteSet) : ByteSet :=
  ofTest fun c => set.contains c.toUpper

end ByteSet

/-- A condition on a place between two bytes. -/
inductive Assertion where
  | lineStart
  | lineEnd
  | textStart
  | textEnd
  | wordStart
  | wordEnd
  | wordEdge
  | noWordEdge
deriving DecidableEq, Repr

/-- A regular expression. A group that may be left out or repeated forgets an empty round in favour of
an earlier one. -/
inductive Regex where
  | empty
  | one (set : ByteSet)
  | check (assertion : Assertion)
  | group (number : Nat) (optional : Bool) (body : Regex)
  | back (number : Nat)
  | both (first second : Regex)
  | either (first second : Regex)
  | many (body : Regex)
deriving DecidableEq, Repr

namespace Regex

/-- How an expression is written. -/
structure Style where
  /-- Whether parentheses, bars, braces and the signs for repetition need no backslash. -/
  extended : Bool
  /-- Whether upper and lower case are the same. -/
  fold : Bool := false
  /-- Whether a repetition of a repetition is refused. -/
  refusesStacked : Bool := false
  /-- Whether a repetition of nothing is refused; otherwise its sign is passed over where it is
  special without a backslash. -/
  refusesLeading : Bool := false
  /-- Whether bounds that cannot be read stand for themselves. -/
  looseBounds : Bool := false
  /-- Whether a closing parenthesis that closes nothing stands for itself. -/
  looseClose : Bool := false
deriving DecidableEq, Repr

/-- What is wrong with an expression. -/
inductive Fault where
  | badPattern
  | openBracket
  | openGroup
  | openBounds
  | closedGroup
  | boundsContent
  | rangeEnd
  | className
  | collation
  | backReference
  | leadingRepetition
  | trailingBackslash
  | tooBig
deriving DecidableEq, Repr

/-- The wording of a fault. -/
def Fault.text : Fault → String
  | badPattern => "Invalid regular expression"
  | openBracket => "Unmatched [, [^, [:, [., or [="
  | openGroup => "Unmatched ( or \\("
  | openBounds => "Unmatched \\\x7b"
  | closedGroup => "Unmatched ) or \\)"
  | boundsContent => "Invalid content of \\\x7b\\\x7d"
  | rangeEnd => "Invalid range end"
  | className => "Invalid character class name"
  | collation => "Invalid collation character"
  | backReference => "Invalid back reference"
  | leadingRepetition => "Invalid preceding regular expression"
  | trailingBackslash => "Trailing backslash"
  | tooBig => "Regular expression too big"

/-- An expression for a text that stands for itself. -/
def literal (fold : Bool) (text : Octets) : Regex :=
  text.foldr (fun c rest =>
    .both (.one (if fold then ByteSet.folded (.single c.toUpper) else .single c)) rest) .empty

/-- One expression or another of a list. -/
def anyOf : List Regex → Regex
  | [] => .empty
  | [r] => r
  | r :: rest => .either r (anyOf rest)

/-- The largest number of a group. -/
def groups : Regex → Nat
  | .group number _ body => max number body.groups
  | .both first second => max first.groups second.groups
  | .either first second => max first.groups second.groups
  | .many body => body.groups
  | _ => 0

/-- Whether an expression refers back to a group. -/
def refersBack : Regex → Bool
  | .group _ _ body => body.refersBack
  | .both first second => first.refersBack || second.refersBack
  | .either first second => first.refersBack || second.refersBack
  | .many body => body.refersBack
  | .back _ => true
  | _ => false

end Regex

end DocMend.Shell

namespace DocMend.Shell.Regex

/-- A node of a graph and where it leads. -/
inductive Node where
  | take (set : ByteSet) (next : Nat)
  | check (assertion : Assertion) (next : Nat)
  | opens (group next : Nat)
  | closes (group : Nat) (optional : Bool) (next : Nat)
  | back (group next : Nat)
  | fork (first second : Nat)
  | done
deriving DecidableEq, Repr

/-- A graph: its nodes, where a match begins, the number of its groups, and whether it refers back to
one of them. -/
structure Graph where
  nodes : Array Node
  start : Nat
  groups : Nat
  refersBack : Bool
deriving DecidableEq, Repr

/-- The number of nodes that an expression needs. -/
def size : Regex → Nat
  | .empty => 0
  | .one _ => 1
  | .check _ => 1
  | .back _ => 1
  | .group _ _ body => body.size + 2
  | .both first second => first.size + second.size
  | .either first second => first.size + second.size + 1
  | .many body => body.size + 1

/-- A node that leads on to one of two. -/
def fork (first second : Nat) : Node :=
  .fork (min first second) (max first second)

/-- The nodes of an expression, numbered from `base` and leading on to `next`, and the first of
them. -/
def layOut : Regex → (base next : Nat) → Nat × List Node
  | .empty, _, next => (next, [])
  | .one set, base, next => (base, [.take set next])
  | .check assertion, base, next => (base, [.check assertion next])
  | .back number, base, next => (base, [.back number next])
  | .group number optional body, base, next =>
    let last := base + 1 + body.size
    let (first, nodes) := layOut body (base + 1) last
    (base, .opens number first :: nodes ++ [.closes number optional next])
  | .both left right, base, next =>
    let (second, rightNodes) := layOut right (base + left.size) next
    let (first, leftNodes) := layOut left base second
    (first, leftNodes ++ rightNodes)
  | .either left right, base, next =>
    let (first, leftNodes) := layOut left base next
    let (second, rightNodes) := layOut right (base + left.size) next
    (base + left.size + right.size, leftNodes ++ rightNodes ++ [fork first second])
  | .many body, base, next =>
    let last := base + body.size
    let (first, nodes) := layOut body base last
    (last, nodes ++ [fork first next])

/-- An expression lays out as many nodes as it needs. -/
theorem length_layOut (r : Regex) (base next : Nat) : (layOut r base next).2.length = r.size := by
  induction r generalizing base next with
  | empty => rfl
  | one => rfl
  | check => rfl
  | back => rfl
  | group _ _ _ ih => simp [layOut, size, ih]
  | both _ _ ihLeft ihRight => simp [layOut, size, ihLeft, ihRight]
  | either _ _ ihLeft ihRight => simp [layOut, size, ihLeft, ihRight, Nat.add_assoc]
  | many _ ih => simp [layOut, size, ih]

/-- The graph of an expression. -/
def graph (r : Regex) : Graph :=
  let (start, nodes) := layOut r 0 r.size
  ⟨(nodes ++ [Node.done]).toArray, start, r.groups, r.refersBack⟩

end DocMend.Shell.Regex
