import DocMend.Commit.Basic
import DocMend.Json.Basic
import DocMend.Text.Lowercase
import DocMend.Text.Search
/-!
References to issues in the subject of a commit: a number after a hash mark, with or without
brackets around both, or any other text in brackets.

Categories of commits. A commit belongs to the first category whose sign stands in its subject or
one of whose words does, in any case of letters.
-/

set_option autoImplicit false
set_option relaxedAutoImplicit false

namespace DocMend.Commit

/-- The digits after a hash mark, where the text starts with a hash mark and a digit. -/
def hashNumber? : List Char → Option (List Char)
  | '#' :: rest =>
    let digits := rest.takeWhile Char.isDigit
    if digits.isEmpty then none else some digits
  | _ => none

/-- The numbers written as a hash mark and digits between brackets. -/
def bracketedNumbers : List Char → List (List Char)
  | [] => []
  | c :: cs =>
    let here := if c = '[' then
        match hashNumber? cs with
        | some digits =>
          match cs.drop (digits.length + 1) with
          | ']' :: _ => [digits]
          | _ => []
        | none => []
      else []
    here ++ bracketedNumbers cs

/-- The numbers written as a hash mark and digits. -/
def numbers : List Char → List (List Char)
  | [] => []
  | c :: cs => (hashNumber? (c :: cs)).toList ++ numbers cs

/-- The texts between brackets, from left to right. A text holds no closing bracket and is not
empty; the search goes on behind the closing bracket, `skip` characters further on. -/
def bracketTextsAfter : Nat → List Char → List (List Char)
  | _, [] => []
  | skip + 1, _ :: cs => bracketTextsAfter skip cs
  | 0, c :: cs =>
    if c = '[' then
      match cs.takeWhile (· ≠ ']'), cs.dropWhile (· ≠ ']') with
      | d :: text, _ :: _ => (d :: text) :: bracketTextsAfter (text.length + 2) cs
      | _, _ => bracketTextsAfter 0 cs
    else bracketTextsAfter 0 cs

/-- The texts between brackets. -/
def bracketTexts (cs : List Char) : List (List Char) :=
  bracketTextsAfter 0 cs

/-- A reference without the hash mark before its number. -/
def bareNumber (reference : List Char) : List Char :=
  match reference with
  | '#' :: rest => if Text.isDigits rest then rest else reference
  | _ => reference

/-- The references in a subject, each once: bracketed numbers, then numbers, then bracket texts. -/
def references (subject : String) : List String :=
  let cs := subject.toList
  let found := (bracketedNumbers cs ++ numbers cs ++ bracketTexts cs).map bareNumber
  ((found.filter fun reference => !reference.isEmpty).map String.ofList).eraseDups

end DocMend.Commit

namespace DocMend

/-- A category: its sign and its name. -/
structure Category where
  emoji : String
  name : String
deriving DecidableEq, Repr

namespace Category

/-- Categories with the words that mark a subject, in the order in which they are tried. -/
def rules : List (Category × List String) :=
  [(⟨"🧪", "Tests & Validation"⟩, ["test", "spec", "validation"]),
   (⟨"✅", "Features & Implementation"⟩, ["implement", "add", "feature"]),
   (⟨"🔥", "Major Features"⟩, ["major", "milestone", "revolutionary"]),
   (⟨"📚", "Documentation"⟩, ["docs", "documentation", "readme"]),
   (⟨"🔒", "Security & Dependencies"⟩, ["security", "upgrade", "vulnerability"]),
   (⟨"🏗️", "Infrastructure"⟩, ["infrastructure", "build", "ci"]),
   (⟨"🐛", "Bug Fixes"⟩, ["fix", "bug", "issue"]),
   (⟨"🚀", "Performance & Optimization"⟩, ["performance", "optimize", "improve"]),
   (⟨"📝", "Content Updates"⟩, ["update", "modify", "change"])]

/-- The category of the commits that no rule takes. -/
def other : Category := ⟨"📋", "Other Changes"⟩

/-- The order in which categories are shown. -/
def displayOrder : List String :=
  ["Major Features",
   "Features & Implementation",
   "Tests & Validation",
   "Bug Fixes",
   "Documentation",
   "Security & Dependencies",
   "Performance & Optimization",
   "Infrastructure",
   "Content Updates",
   "Other Changes"]

/-- Whether a rule takes a subject, of which `lower` is the lower-case form. -/
def takes (rule : Category × List String) (subject lower : String) : Bool :=
  Text.contains subject rule.1.emoji || rule.2.any (Text.contains lower)

/-- The category of a subject. -/
def ofSubject (subject : String) : Category :=
  let lower := Text.lowered subject
  match rules.find? fun rule => takes rule subject lower with
  | some rule => rule.1
  | none => other

/-- The sign of a named category. -/
def emojiOf (name : String) : String :=
  match (rules.map Prod.fst ++ [other]).find? fun category => category.name = name with
  | some category => category.emoji
  | none => other.emoji

end Category

/-- A commit with its category and its references. -/
structure Entry where
  commit : Commit
  category : Category
  references : List String
deriving DecidableEq, Repr

namespace Entry

/-- The entry of a commit. -/
def ofCommit (commit : Commit) : Entry :=
  ⟨commit, Category.ofSubject commit.subject, Commit.references commit.subject⟩

/-- Puts an entry behind the others of its category; a category that is new goes behind all others. -/
def join (groups : List (String × List Entry)) (entry : Entry) : List (String × List Entry) :=
  let earlier := (groups.lookup entry.category.name).getD []
  setEntry groups entry.category.name (earlier ++ [entry])

/-- Entries by the name of their category, categories in the order of their first entry. -/
def grouped (entries : List Entry) : List (String × List Entry) :=
  entries.foldl join []

end Entry

end DocMend
