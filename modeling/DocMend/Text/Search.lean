/-!
Finding and cutting. `occurs` is the substring test, `pieces` cuts at every occurrence of one
character, `lines` cuts at line ends and `joined` puts pieces back together.
-/

set_option autoImplicit false
set_option relaxedAutoImplicit false

namespace DocMend.Text

/-- Whether `needle` stands somewhere in the text. -/
def occurs (needle : List Char) : List Char → Bool
  | [] => needle.isEmpty
  | c :: cs => needle.isPrefixOf (c :: cs) || occurs needle cs

theorem occurs_iff (needle text : List Char) : occurs needle text = true ↔ needle <:+: text := by
  induction text with
  | nil => simp [occurs]
  | cons c cs ih => simp [occurs, ih, List.infix_cons_iff]

/-- Whether the string `needle` stands somewhere in the string `text`. -/
def contains (text needle : String) : Bool :=
  occurs needle.toList text.toList

/-- The pieces between the occurrences of `mark`; there is always at least one piece. -/
def pieces (mark : Char) : List Char → List (List Char)
  | [] => [[]]
  | c :: cs =>
    if c = mark then [] :: pieces mark cs
    else
      match pieces mark cs with
      | [] => [[c]]
      | piece :: rest => (c :: piece) :: rest

/-- Pieces with `mark` between them. -/
def joined (mark : List Char) : List (List Char) → List Char
  | [] => []
  | [piece] => piece
  | piece :: rest => piece ++ mark ++ joined mark rest

theorem pieces_ne_nil (mark : Char) (cs : List Char) : pieces mark cs ≠ [] := by
  cases cs with
  | nil => simp [pieces]
  | cons c cs =>
    simp only [pieces]
    split
    · simp
    · split <;> simp

theorem joined_pieces (mark : Char) (cs : List Char) : joined [mark] (pieces mark cs) = cs := by
  induction cs with
  | nil => rfl
  | cons c cs ih =>
    simp only [pieces]
    split
    · rename_i equal
      have nonempty := pieces_ne_nil mark cs
      cases parts : pieces mark cs with
      | nil => exact absurd parts nonempty
      | cons piece rest => rw [parts] at ih; simp [joined, ih, equal]
    · have nonempty := pieces_ne_nil mark cs
      cases parts : pieces mark cs with
      | nil => exact absurd parts nonempty
      | cons piece rest =>
        rw [parts] at ih
        cases rest with
        | nil => simpa [joined] using ih
        | cons next more => simpa [joined] using ih

/-- The lines of a text. A line ends at a line feed, and one carriage return right before that
feed belongs to the line end; what follows the last feed is a line too. -/
def lines : List Char → List (List Char)
  | [] => [[]]
  | '\n' :: cs => [] :: lines cs
  | '\r' :: '\n' :: cs => [] :: lines cs
  | c :: cs =>
    match lines cs with
    | [] => [[c]]
    | line :: rest => (c :: line) :: rest

/-- The lines of a text, each with its line feed if it has one. -/
def linesWithEnds : List Char → List (List Char)
  | [] => []
  | c :: cs =>
    if c = '\n' then ['\n'] :: linesWithEnds cs
    else
      match linesWithEnds cs with
      | [] => [[c]]
      | line :: rest => (c :: line) :: rest

/-- The rest of the text after a given beginning, if it begins so. -/
def afterStart? : List Char → List Char → Option (List Char)
  | [], text => some text
  | _ :: _, [] => none
  | p :: ps, c :: cs => if p = c then afterStart? ps cs else none

theorem afterStart?_eq_some (start text rest : List Char) :
    afterStart? start text = some rest ↔ text = start ++ rest := by
  induction start generalizing text with
  | nil => simp [afterStart?]
  | cons p ps ih =>
    cases text with
    | nil => simp [afterStart?]
    | cons c cs =>
      simp only [afterStart?, List.cons_append, List.cons.injEq]
      split
      · rename_i equal; simp [ih, equal]
      · rename_i differ; simp [Ne.symm differ]

/-- Whether the string `text` begins with the string `start`. -/
def beginsWith (text start : String) : Bool :=
  (afterStart? start.toList text.toList).isSome

/-- Strings with `mark` between them. -/
def joinedBy (mark : String) (parts : List String) : String :=
  String.ofList (joined mark.toList (parts.map String.toList))

/-- A word character is an ASCII letter, an ASCII digit or the underscore. -/
def isWordChar (c : Char) : Bool :=
  c.isAlphanum || c == '_'

/-- Whether the characters are one or more ASCII digits. -/
def isDigits (cs : List Char) : Bool :=
  !cs.isEmpty && cs.all Char.isDigit

/-- The number that a run of decimal digits writes. -/
def digitsValue (cs : List Char) : Nat :=
  cs.foldl (fun value c => 10 * value + (c.toNat - '0'.toNat)) 0

example : lines "a\r\nb\r\r\nc\r".toList = ["a".toList, "b\r".toList, "c\r".toList] := by decide

end DocMend.Text
