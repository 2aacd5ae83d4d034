import DocMend.Diagnostic.Basic
import DocMend.Text.Blank
/-!
Which remedy an issue calls for. The shapes of messages are tried in a fixed order and the first
that fits decides; a message that fits none has no remedy.
-/

set_option autoImplicit false
set_option relaxedAutoImplicit false

namespace DocMend

/-- The shapes of messages that can be mended. -/
inductive Shape where
  | genericParam
  | missingReturn
  | missingComment
deriving DecidableEq, Repr

namespace Shape

/-- The name of a shape. -/
def name : Shape → String
  | genericParam => "generic-param"
  | missingReturn => "missing-return"
  | missingComment => "missing-comment"

/-- The label of a shape in reports. -/
def label : Shape → String
  | genericParam => "GenericParam"
  | missingReturn => "MissingReturn"
  | missingComment => "MissingMethodComment"

/-- The order in which shapes are tried. -/
def order : List Shape := [genericParam, missingReturn, missingComment]

/-- The label of an optional shape. -/
def labelOf : Option Shape → String
  | some shape => shape.label
  | none => "Unknown"

end Shape

/-- What mends an issue: a tag for a named type parameter, a tag for the returned value, or a new
comment block. -/
inductive Remedy where
  | parameterTag (name : String)
  | returnTag
  | commentBlock
deriving DecidableEq, Repr

namespace Remedy

/-- The shape of the messages that call for a remedy. -/
def shape : Remedy → Shape
  | parameterTag _ => .genericParam
  | returnTag => .missingReturn
  | commentBlock => .missingComment

/-- The remedy for a message of a given shape, if the message fits. Packages are never mended, and a
type parameter needs a name that is not blank. -/
def ofShape? (message : String) : Shape → Option Remedy
  | .genericParam =>
    match Diagnostic.parameterText? message.toList with
    | some found =>
      let name := Text.trim found
      if name.isEmpty then none else some (parameterTag (String.ofList name))
    | none => none
  | .missingReturn => if Text.contains message "no @return" then some returnTag else none
  | .missingComment =>
    if Text.contains message "no comment" ∧ ¬ Text.contains message "package" then
      some commentBlock
    else none

/-- The remedy for a message. -/
def forMessage? (message : String) : Option Remedy :=
  Shape.order.findSome? (ofShape? message)

/-- The shape of a message. -/
def shapeOf? (message : String) : Option Shape :=
  (forMessage? message).map shape

end Remedy

end DocMend
