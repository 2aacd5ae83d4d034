import DocMend.Commit.Category
import DocMend.Text.Utf16
/-!
Release notes in Markdown: a head that names the release, one section for each category with
commits, notes for milestones, and a link to the repository.
-/

set_option autoImplicit false
set_option relaxedAutoImplicit false

namespace DocMend.Release

/-- The kinds of releases. -/
inductive Kind where
  | stable
  | milestone
  | development
deriving DecidableEq, Repr

/-- The word for a kind of release. -/
def Kind.word : Kind → String
  | stable => "stable"
  | milestone => "milestone"
  | development => "development"

/-- Whether a tag is three numbers with points between them. -/
def isVersion (tag : String) : Bool :=
  match Text.pieces '.' tag.toList with
  | [major, minor, patch] => Text.isDigits major && Text.isDigits minor && Text.isDigits patch
  | _ => false

/-- The kind of release that a tag names. -/
def Kind.ofTag (tag : String) : Kind :=
  if isVersion tag then stable
  else if Text.contains tag "milestone" then milestone
  else if Text.beginsWith tag "v" then stable
  else development

/-- What the notes say of the release besides its commits. -/
structure Details where
  project : String
  tag : String
  repository : String
  revision : String
  buildDate : String
  range : String
deriving DecidableEq, Repr

/-- The address of a repository. -/
def address (repository : String) : String :=
  "https://github.com/" ++ repository

/-- The link to a reference: a number is linked to its issue. -/
def referenceLink (repository reference : String) : String :=
  if Text.isDigits reference.toList then
    "[#" ++ reference ++ "](" ++ address repository ++ "/issues/" ++ reference ++ ")"
  else "[" ++ reference ++ "]"

/-- The link to a commit. -/
def commitLink (repository hash : String) : String :=
  "[" ++ hash ++ "](" ++ address repository ++ "/commit/" ++ hash ++ ")"

/-- The bullet of a commit. -/
def bullet (repository : String) (entry : Entry) : String :=
  let links := entry.references.map (referenceLink repository)
  let issues := if links.isEmpty then "" else " (" ++ Text.joinedBy ", " links ++ ")"
  "- " ++ entry.commit.subject ++ " (" ++ commitLink repository entry.commit.hash ++ ")" ++ issues

/-- A string without the blanks at its end. -/
def withoutTrailingBlanks (s : String) : String :=
  String.ofList (Text.trimEnd s.toList)

/-- The title of the sections. -/
def changesTitle : String := "## What's Changed"

/-- The head of the notes. -/
def head (count : Nat) (details : Details) : List String :=
  let short := String.ofList (Text.takeUnits 8 details.revision.toList)
  ["# " ++ details.project ++ " " ++ details.tag,
   "",
   "> **Release Type:** " ++ (Kind.ofTag details.tag).word ++ "  ",
   "> **Build Date:** " ++ details.buildDate ++ "  ",
   "> **Commit:** [" ++ short ++ "](" ++ address details.repository ++ "/commit/" ++
     details.revision ++ ")  ",
   withoutTrailingBlanks
     ("> **Changes:** " ++ toString count ++ " commits " ++ details.range),
   "",
   changesTitle,
   ""]

/-- The heading of a section. -/
def heading (name : String) : String :=
  "### " ++ Category.emojiOf name ++ " " ++ name

/-- The section of a category; a category without a group has none. -/
def section? (repository : String) (groups : List (String × List Entry)) (name : String) :
    List String :=
  match groups.lookup name with
  | none => []
  | some group => [heading name, ""] ++ group.map (bullet repository) ++ [""]

/-- All sections, in the order of display. -/
def sections (repository : String) (entries : List Entry) : List String :=
  let groups := Entry.grouped entries
  Category.displayOrder.flatMap (section? repository groups)

/-- What a milestone release says of itself. -/
def milestoneNotes : List String :=
  ["## 🎯 Milestone Information",
   "",
   "This is a milestone release; it may include experimental features.",
   "",
   "**Migration Guide:**",
   "1. **Update the artifact:** replace the previous release",
   "2. **Review configuration:** check the documentation for changed settings",
   "3. **Test thoroughly:** milestone releases may change behaviour",
   ""]

/-- The lines of the notes. -/
def noteLines (entries : List Entry) (details : Details) : List String :=
  head entries.length details ++ sections details.repository entries ++
    (if Kind.ofTag details.tag = .milestone then milestoneNotes else []) ++
    ["---", "",
     "🔗 **Repository:** [" ++ details.repository ++ "](" ++ address details.repository ++ ")"]

/-- The notes of a release. -/
def notes (entries : List Entry) (details : Details) : String :=
  Text.joinedBy "\n" (noteLines entries details) ++ "\n"

/-- The notes of a release whose commits a log gives. -/
def notesOfLog (log : String) (details : Details) : String :=
  notes ((Commit.readLog log).map Entry.ofCommit) details

end DocMend.Release
