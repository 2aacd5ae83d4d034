import DocMend.Commit.Basic
import DocMend.Proofs.Text.Pieces
import DocMend.Proofs.Text.Trim
/-!
Commits that a log writes. A line writes a commit exactly if it has, blanks at its ends aside, the fields of the
commit with bars between them, where only the subject has bars of its own: the first field and the last three
are cut off, and whatever stands between is the subject. A log gives back the commits that its lines write, in
their order, whichever way the lines end and whatever other lines stand between.
-/

set_option autoImplicit false
set_option relaxedAutoImplicit false

namespace DocMend.Commit

variable {commit : Commit}

/-- A commit that a line can write: it has a hash, and no field around the subject has a bar. -/
structure Writable (commit : Commit) : Prop where
  hashed : commit.hash ≠ ""
  hash : '|' ∉ commit.hash.toList
  author : '|' ∉ commit.author.toList
  email : '|' ∉ commit.email.toList
  date : '|' ∉ commit.date.toList

theorem line_toList (commit : Commit) : commit.line.toList =
    commit.hash.toList ++ '|' :: (commit.subject.toList ++ '|' :: (commit.author.toList ++
      '|' :: (commit.email.toList ++ '|' :: commit.date.toList))) := by
  simp [line, Text.joinedBy, Text.joined]

/-- Fields are those of a commit if the subject is what stands between the first and the last three. -/
theorem ofFields?_eq_some_iff {fields : List (List Char)} :
    ofFields? fields = some commit ↔ commit.hash ≠ "" ∧ ∃ parts ≠ [],
      Text.joined ['|'] parts = commit.subject.toList ∧
      fields = commit.hash.toList ::
        (parts ++ [commit.author.toList, commit.email.toList, commit.date.toList]) := by
  constructor
  · intro found
    unfold ofFields? at found
    split at found
    · exact absurd found (by simp)
    · rename_i hash rest
      split at found
      · rename_i date email author part parts backwards
        split at found
        · exact absurd found (by simp)
        · rename_i filled
          obtain rfl := Option.some.inj found
          have forwards := congrArg List.reverse backwards
          rw [List.reverse_reverse] at forwards
          refine ⟨by simpa using filled, (part :: parts).reverse, by simp, by simp, ?_⟩
          simp [forwards]
      · exact absurd found (by simp)
  · rintro ⟨hashed, parts, filled, subject, rfl⟩
    cases backwards : parts.reverse with
    | nil => exact absurd (List.reverse_eq_nil_iff.mp backwards) filled
    | cons part more =>
      have forwards := congrArg List.reverse backwards
      rw [List.reverse_reverse] at forwards
      simp [ofFields?, backwards, ← forwards, subject, hashed]

/-- A line writes the commit whose fields stand on it with bars between, blanks at the ends of the line
aside. -/
theorem readLine?_eq_some_iff {line : String} :
    readLine? line = some commit ↔ commit.Writable ∧ Text.trimmed line = commit.line := by
  rw [readLine?, ofFields?_eq_some_iff, ← String.toList_inj, line_toList, Text.trimmed, String.toList_ofList]
  constructor
  · rintro ⟨hashed, parts, filled, subject, cut⟩
    have free : ∀ part ∈ Text.pieces '|' (Text.trim line.toList), '|' ∉ part :=
      fun part => Text.not_mem_of_mem_pieces
    have whole := Text.joined_pieces '|' (Text.trim line.toList)
    rw [cut] at free whole
    refine ⟨⟨hashed, ?_, ?_, ?_, ?_⟩, ?_⟩
    · exact free _ (by simp)
    · exact free _ (by simp)
    · exact free _ (by simp)
    · exact free _ (by simp)
    · rw [← whole, Text.joined, Text.joined_append _ filled (by simp), subject]
      · simp [Text.joined]
      · simp
  · rintro ⟨⟨hashed, hash, author, email, date⟩, whole⟩
    refine ⟨hashed, Text.pieces '|' commit.subject.toList, Text.pieces_ne_nil _ _,
      Text.joined_pieces _ _, ?_⟩
    rw [whole, Text.pieces_append hash, Text.pieces_append_mark, Text.pieces_append author,
      Text.pieces_append email, Text.pieces_of_not_mem date]

/-- A commit whose line stands in a log as it is: no field has a line feed, and the line has no blanks at its
ends. -/
structure Printable (commit : Commit) : Prop extends Writable commit where
  feedless : ∀ field ∈ [commit.hash, commit.subject, commit.author, commit.email, commit.date],
    '\n' ∉ field.toList
  start : ∀ c ∈ commit.hash.toList.head?, Text.isBlank c = false
  stop : ∀ c ∈ commit.date.toList.getLast?, Text.isBlank c = false

theorem Printable.feed_not_mem_line (printable : commit.Printable) : '\n' ∉ commit.line.toList := by
  have feedless := printable.feedless
  rw [line_toList]
  simp_all

/-- The line of a commit is read as the commit. -/
theorem Printable.readLine?_line (printable : commit.Printable) : readLine? commit.line = some commit := by
  refine readLine?_eq_some_iff.mpr ⟨printable.toWritable, ?_⟩
  have hashed : commit.hash.toList ≠ [] := by simpa using printable.hashed
  have trimmed : Text.trim commit.line.toList = commit.line.toList := by
    refine Text.trim_eq_self_iff.mpr ⟨fun c first => printable.start c ?_, fun c last => ?_⟩
    · rwa [line_toList, List.head?_append_of_ne_nil _ hashed] at first
    · -- the line ends with its date, or with the bar before it
      rw [line_toList] at last
      cases date : commit.date.toList.getLast? with
      | none =>
        obtain rfl : c = '|' := by simpa [List.getLast?_append, List.getLast?_cons, date] using last.symm
        decide
      | some d =>
        obtain rfl : c = d := by simpa [List.getLast?_append, List.getLast?_cons, date] using last.symm
        exact printable.stop c date
  rw [Text.trimmed, trimmed, String.ofList_toList]

/-- A line of a log and the commits that stand on it: one commit, or none on a blank line or on one that writes
no commit. -/
inductive Entered : List Commit → List Char → Prop
  | commit {commit : Commit} (printable : commit.Printable) : Entered [commit] commit.line.toList
  | blank {line : List Char} (blank : ∀ c ∈ line, Text.isBlank c = true) (feedless : '\n' ∉ line) :
      Entered [] line
  | other {line : List Char} (unread : readLine? (String.ofList line) = none) (feedless : '\n' ∉ line) :
      Entered [] line

/-- A text of lines with their commits. A line ends in a line feed, alone or with a carriage return before it. -/
inductive Logged : List Commit → List Char → Prop
  | last {commits : List Commit} {line : List Char} (entered : Entered commits line) : Logged commits line
  | line {commits more : List Commit} {line ending rest : List Char} (entered : Entered commits line)
      (ends : ending = ['\n'] ∨ ending = ['\r', '\n']) (logged : Logged more rest) :
      Logged (commits ++ more) (line ++ (ending ++ rest))

/-- What a line is read as, given by its characters. -/
private def readChars? (line : List Char) : Option Commit :=
  readLine? (String.ofList line)

private theorem readChars?_eq (line : List Char) :
    readChars? line = ofFields? (Text.pieces '|' (Text.trim line)) := by
  rw [readChars?, readLine?, String.toList_ofList]

private theorem readChars?_of_trim_nil {line : List Char} (empty : Text.trim line = []) :
    readChars? line = none := by
  rw [readChars?_eq, empty]
  rfl

private theorem readChars?_return (line : List Char) : readChars? (line ++ ['\r']) = readChars? line := by
  rw [readChars?_eq, readChars?_eq, Text.trim_append_blank (List.all_eq_true.mp (by decide))]

/-- Blank lines write no commits, so nothing is lost where they are left out. -/
theorem readLog_eq_filterMap (text : String) :
    readLog text = (Text.lines text.toList).filterMap fun line => readLine? (String.ofList line) := by
  rw [readLog, List.filterMap_filter]
  refine List.filterMap_congr fun line _ => ?_
  split
  · rfl
  · rename_i blank
    exact (readChars?_of_trim_nil (by simpa using blank)).symm

private theorem filterMap_lines_entered {commits : List Commit} {line : List Char}
    (entered : Entered commits line) : (Text.lines line).filterMap readChars? = commits := by
  cases entered with
  | @commit commit printable =>
    have found : readChars? commit.line.toList = some commit := by
      rw [readChars?, String.ofList_toList, printable.readLine?_line]
    rw [Text.lines_of_not_mem printable.feed_not_mem_line]
    simp [found]
  | blank blank feedless =>
    have empty : Text.trim ([] ++ line) = [] := Text.trim_append_blank blank
    rw [List.nil_append] at empty
    rw [Text.lines_of_not_mem feedless]
    simp [readChars?_of_trim_nil empty]
  | other unread feedless =>
    rw [Text.lines_of_not_mem feedless]
    simp [readChars?, unread]

/-- A log is read as the commits that stand on its lines. -/
theorem readLog_of_logged {commits : List Commit} {text : String} (logged : Logged commits text.toList) :
    readLog text = commits := by
  rw [readLog_eq_filterMap]
  show (Text.lines text.toList).filterMap readChars? = commits
  generalize text.toList = cs at logged ⊢
  induction logged with
  | last entered => exact filterMap_lines_entered entered
  | line entered ends logged ih =>
    rw [Text.filterMap_lines_append_ending readChars?_return _ _ ends, filterMap_lines_entered entered, ih]

/-- A line is read as a commit exactly if it writes the commit: its fields with bars between, with blanks at
most around them, where bars in a field other than the subject and an empty hash are out of the question. A log
is read as the commits on its lines, in their order. -/
theorem commits_read_as_written :
    (∀ (line : String) (commit : Commit), readLine? line = some commit ↔
      '|' ∉ commit.hash.toList ∧ '|' ∉ commit.author.toList ∧ '|' ∉ commit.email.toList ∧
        '|' ∉ commit.date.toList ∧ commit.hash ≠ "" ∧
        Text.trimmed line = commit.hash ++ "|" ++ commit.subject ++ "|" ++ commit.author ++ "|" ++
          commit.email ++ "|" ++ commit.date) ∧
    ∀ (commits : List Commit) (text : String), Logged commits text.toList → readLog text = commits := by
  refine ⟨fun line commit => ?_, fun commits text logged => readLog_of_logged logged⟩
  have written : commit.line = commit.hash ++ "|" ++ commit.subject ++ "|" ++ commit.author ++ "|" ++
      commit.email ++ "|" ++ commit.date := by
    rw [← String.toList_inj, line_toList]
    simp
  rw [readLine?_eq_some_iff, written]
  constructor
  · rintro ⟨writable, whole⟩
    exact ⟨writable.hash, writable.author, writable.email, writable.date, writable.hashed, whole⟩
  · rintro ⟨hash, author, email, date, hashed, whole⟩
    exact ⟨⟨hashed, hash, author, email, date⟩, whole⟩

/-- A subject with bars at both ends between empty fields, an empty subject, a blank line and a line with too
few fields, with both kinds of line ends. -/
theorem commits_read_as_written_bars :
    let first : Commit := ⟨"a1", "|Fix | it|", "", "j@e.x", ""⟩
    let second : Commit := ⟨"b2", "", "Jo", "", "2024-01-02"⟩
    let log := "a1||Fix | it|||j@e.x|\r\n \t\nc3|no|commit\r\nb2||Jo||2024-01-02\n"
    readLine? " a1||Fix | it|||j@e.x|\t" = some first ∧
      Logged [first, second] log.toList ∧ readLog log = [first, second] := by
  intro first second log
  have one : first.Printable :=
    { hashed := by decide, hash := by decide, author := by decide, email := by decide, date := by decide
      feedless := by simp [first]
      start := by simp [first, Text.isBlank]
      stop := by simp [first] }
  have two : second.Printable :=
    { hashed := by decide, hash := by decide, author := by decide, email := by decide, date := by decide
      feedless := by simp [second]
      start := by simp [second, Text.isBlank]
      stop := by simp [second, Text.isBlank] }
  have whole : log.toList = first.line.toList ++ (['\r', '\n'] ++ ([' ', '\t'] ++ (['\n'] ++
      ("c3|no|commit".toList ++ (['\r', '\n'] ++ (second.line.toList ++ (['\n'] ++ []))))))) := by
    decide +kernel
  have logged : Logged [first, second] log.toList := by
    rw [whole]
    refine .line (.commit one) (Or.inr rfl) (.line (.blank ?_ (by decide)) (Or.inl rfl)
      (.line (.other (by decide +kernel) (by decide)) (Or.inr rfl)
        (.line (.commit two) (Or.inl rfl) (.last (.blank ?_ (by decide))))))
    · exact List.all_eq_true.mp (by decide)
    · exact List.all_eq_true.mp (by decide)
  obtain ⟨lines, logs⟩ := commits_read_as_written
  refine ⟨(lines _ _).mpr ?_, logged, logs _ _ logged⟩
  decide +kernel

end DocMend.Commit
