import DocMend.Json.Writer
import DocMend.Text.Blank
import DocMend.Text.Search
/-!
Commits as a log prints them: five fields with bars between them, where the subject may hold bars of
its own.

The command line that asks for a log: newest commits first, without merges. A revision range goes in
as a JSON string, which the shell reads as a word in double quotes.
-/

set_option autoImplicit false
set_option relaxedAutoImplicit false

namespace DocMend

/-- One commit. -/
structure Commit where
  hash : String
  subject : String
  author : String
  email : String
  date : String
deriving DecidableEq, Repr

namespace Commit

/-- The log format that prints the five fields. -/
def logFormat : String := "%h|%s|%an|%ae|%ad"

/-- A commit on one line of a log. -/
def line (commit : Commit) : String :=
  Text.joinedBy "|" [commit.hash, commit.subject, commit.author, commit.email, commit.date]

/-- The commit of five or more fields: the first is the hash, the last three are author, email and
date, and the subject is all between. -/
def ofFields? (fields : List (List Char)) : Option Commit :=
  match fields with
  | [] => none
  | hash :: rest =>
    match rest.reverse with
    | date :: email :: author :: part :: parts =>
      if hash.isEmpty then none
      else some ⟨String.ofList hash, String.ofList (Text.joined ['|'] (part :: parts).reverse),
        String.ofList author, String.ofList email, String.ofList date⟩
    | _ => none

/-- The commit that a line of a log writes. -/
def readLine? (line : String) : Option Commit :=
  ofFields? (Text.pieces '|' (Text.trim line.toList))

/-- The commits of a log, in its order. -/
def readLog (text : String) : List Commit :=
  ((Text.lines text.toList).filter fun line => !(Text.trim line).isEmpty).filterMap fun line =>
    readLine? (String.ofList line)

end Commit

end DocMend

namespace DocMend.Commit

/-- The command line for the log of a revision range, or of everything. -/
def logCommand (range : Option String) : String :=
  let word := match range with
    | some range => " " ++ String.ofList (Json.quoted range)
    | none => ""
  "git log" ++ word ++ " --pretty=format:'" ++ logFormat ++ "' --date=short --no-merges"

end DocMend.Commit
