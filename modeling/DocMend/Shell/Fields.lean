import DocMend.Shell.Pattern
/-!
Fields. The text that a word expands to consists of segments: some are cut at separators, others are
not. White space among the separators counts once however much of it there is; any other separator
ends a field of its own.
-/

set_option autoImplicit false
set_option relaxedAutoImplicit false

namespace DocMend.Shell

/-- A segment of an expanded word. The null character stands between the parameters of a segment
that holds all of them. -/
inductive Segment where
  /-- Text that is not cut. -/
  | fixed (text : PatternText)
  /-- A quotation mark: it makes a word even of an empty text. -/
  | mark
  /-- Text that is cut at separators. -/
  | fields (text : PatternText)
  /-- Text that is cut between parameters only. -/
  | strict (text : PatternText)
deriving DecidableEq, Repr

/-- A character or a quotation mark of a field. -/
abbrev FieldItem := Option (Char × Bool)

/-- The state of cutting. -/
structure Cutting where
  separators : Octets
  /-- How many fields are still cut off; none stands for any number. -/
  limit : Option Nat := none
  fields : List (List FieldItem) := []
  current : List FieldItem := []
  afterSpace : Bool := false
  strict : Bool := false
  afterStrict : Bool := false
  /-- Where the last field ends if nothing but separators follows. -/
  cutAt : Option Nat := none

namespace Cutting

/-- Adds an item to the field at hand. -/
def keep (c : Cutting) (item : FieldItem) : Cutting :=
  { c with current := item :: c.current }

/-- Takes a character of a segment that is cut. -/
def take (c : Cutting) (item : Char × Bool) : Cutting :=
  let d := item.1
  let isSeparator := d == '\x00' || !c.strict && c.separators.contains d
  let isWhite := isSeparator && (d == '\x00' || Octets.isGap d)
  if c.limit = some 0 then
    let c' := c.keep (some item)
    if isWhite then { c' with cutAt := some (c.cutAt.getD c.current.length) }
    else
      { c' with
        cutAt := if isSeparator && c.afterSpace then c.cutAt else none, afterSpace := false }
  else if c.afterSpace then
    if isWhite then { c with current := [] }
    else if isSeparator then { c with current := [], afterSpace := false }
    else { c with current := [some item], afterSpace := false }
  else if isSeparator then
    let c := { c with afterSpace := if c.afterStrict || c.strict then c.afterSpace else isWhite }
    if c.current.isEmpty && c.afterSpace then { c with afterSpace := false }
    else
      match c.limit with
      | some 1 => { c.keep (some item) with limit := some 0, cutAt := some c.current.length }
      | limit =>
        { c with
          fields := c.current.reverse :: c.fields, current := [],
          limit := limit.map fun n => n - 1 }
  else { c.keep (some item) with afterSpace := false }

/-- Takes a segment. -/
def segment (c : Cutting) : Segment → Cutting
  | .fixed text => text.foldl (fun c item => c.keep (some item)) c
  | .mark => c.keep none
  | .fields text =>
    text.foldl take { c with afterStrict := c.strict, strict := false, afterSpace := false }
  | .strict text =>
    text.foldl take { c with afterStrict := c.strict, strict := true, afterSpace := false }

/-- The fields in the end. -/
def finish (c : Cutting) : List (List FieldItem) :=
  let current := match c.cutAt with
    | some n => c.current.reverse.take n
    | none => c.current.reverse
  let fields := if current.isEmpty && !c.strict then c.fields else current :: c.fields
  fields.reverse

end Cutting

/-- The fields of segments. -/
def fieldsOf (separators : Octets) (limit : Option Nat) (segments : List Segment) :
    List PatternText :=
  let cutting := segments.foldl Cutting.segment { separators, limit }
  cutting.finish.map fun field => field.filterMap id

/-- The text of segments that are not cut. -/
def textOf (segments : List Segment) : PatternText :=
  segments.flatMap fun segment => match segment with
    | .fixed text => text
    | .mark => []
    | .fields text => text
    | .strict text => text

end DocMend.Shell
