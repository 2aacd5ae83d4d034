import DocMend.Text.Search
import Mathlib.Data.List.Basic
/-!
Cutting at marks and at line ends. A text is cut at its first mark into a piece without marks and the pieces
of what follows.

Lines. At a line feed the lines of the two parts are put side by side, but for a carriage return before the
feed, which is taken into the line end. What is read from every line on its own, whatever carriage return
the line ends in, is then read part by part and does not depend on the spelling of line ends.
-/

set_option autoImplicit false
set_option relaxedAutoImplicit false

namespace DocMend.Text

section Pieces

variable {mark : Char} {cs part rest front back first second : List Char}

/-- A mark that is not in the front part of a text stands in the back part. -/
theorem exists_of_not_mem_front (free : mark ∉ front) (whole : front ++ back = first ++ mark :: second) :
    ∃ start, first = front ++ start ∧ back = start ++ mark :: second := by
  rcases List.append_eq_append_iff.mp whole with cut | ⟨more, rfl, tail⟩
  · exact cut
  · cases more with
    | nil => exact ⟨[], by rw [List.append_nil, List.append_nil], tail.symm⟩
    | cons c more =>
      obtain rfl := (List.cons.inj tail).1
      exact absurd (List.mem_append_right first List.mem_cons_self) free

/-- A mark that is not in the back part of a text stands in the front part. -/
theorem exists_of_not_mem_back (free : mark ∉ back) (whole : front ++ back = first ++ mark :: second) :
    ∃ rest, front = first ++ mark :: rest ∧ second = rest ++ back := by
  rcases List.append_eq_append_iff.mp whole with ⟨more, -, rfl⟩ | ⟨more, rfl, tail⟩
  · exact absurd (List.mem_append_right more List.mem_cons_self) free
  · cases more with
    | nil =>
      obtain rfl : mark :: second = back := tail
      exact absurd List.mem_cons_self free
    | cons c more =>
      obtain ⟨rfl, rest⟩ := List.cons.inj tail
      exact ⟨more, rfl, rest⟩

theorem pieces_of_not_mem (free : mark ∉ part) : pieces mark part = [part] := by
  induction part with
  | nil => rfl
  | cons c part ih =>
    obtain ⟨other, free⟩ := not_or.mp (List.mem_cons.not.mp free)
    rw [pieces, if_neg (Ne.symm other), ih free]

/-- At a mark the pieces of the two parts are put side by side. -/
theorem pieces_append_mark (mark : Char) (first second : List Char) :
    pieces mark (first ++ mark :: second) = pieces mark first ++ pieces mark second := by
  induction first with
  | nil =>
    show pieces mark (mark :: second) = [] :: pieces mark second
    rw [pieces, if_pos rfl]
  | cons c first ih =>
    rw [List.cons_append, pieces, pieces, ih]
    split
    · rfl
    · cases cut : pieces mark first with
      | nil => exact absurd cut (pieces_ne_nil mark first)
      | cons piece rest => rfl

/-- The first piece ends at the first mark. -/
theorem pieces_append (free : mark ∉ part) :
    pieces mark (part ++ mark :: rest) = part :: pieces mark rest := by
  rw [pieces_append_mark, pieces_of_not_mem free, List.singleton_append]

theorem joined_append {first second : List (List Char)} (mark : List Char) (filled : first ≠ [])
    (more : second ≠ []) :
    joined mark (first ++ second) = joined mark first ++ mark ++ joined mark second := by
  induction first with
  | nil => exact absurd rfl filled
  | cons piece rest ih =>
    cases rest with
    | nil =>
      show joined mark (piece :: second) = piece ++ mark ++ joined mark second
      rw [joined]
      exact more
    | cons next rest =>
      have inner := ih (List.cons_ne_nil next rest)
      rw [List.cons_append, joined, joined, inner]
      · simp only [List.append_assoc]
      · exact List.cons_ne_nil _ _
      · exact List.cons_ne_nil _ _

theorem not_mem_of_mem_pieces (mem : part ∈ pieces mark cs) : mark ∉ part := by
  induction cs generalizing part with
  | nil =>
    obtain rfl := List.mem_singleton.mp mem
    exact List.not_mem_nil
  | cons c cs ih =>
    rw [pieces] at mem
    split at mem
    · rcases List.mem_cons.mp mem with rfl | later
      · exact List.not_mem_nil
      · exact ih later
    · rename_i other
      cases found : pieces mark cs with
      | nil => exact absurd found (pieces_ne_nil mark cs)
      | cons first more =>
        rw [found] at mem ih
        rcases List.mem_cons.mp mem with rfl | later
        · exact List.not_mem_cons_of_ne_of_not_mem (Ne.symm other) (ih List.mem_cons_self)
        · exact ih (List.mem_cons_of_mem _ later)

/-- Several pieces are those of a text with a mark. -/
theorem eq_of_pieces_eq_cons {next : List Char} {more : List (List Char)}
    (cut : pieces mark cs = part :: next :: more) :
    ∃ rest, mark ∉ part ∧ cs = part ++ mark :: rest ∧ pieces mark rest = next :: more := by
  have free : mark ∉ part := not_mem_of_mem_pieces (cut ▸ List.mem_cons_self)
  have whole := joined_pieces mark cs
  rw [cut, joined, List.append_assoc, List.singleton_append] at whole
  · refine ⟨joined [mark] (next :: more), free, whole.symm, ?_⟩
    rw [← whole, pieces_append free] at cut
    exact (List.cons.inj cut).2
  · exact List.cons_ne_nil next more

theorem takeWhile_mark (free : mark ∉ part) : (part ++ mark :: rest).takeWhile (· ≠ mark) = part := by
  have inside : ∀ c ∈ part, decide (c ≠ mark) = true := fun c mem =>
    decide_eq_true fun same => free (same ▸ mem)
  rw [List.takeWhile_append_of_pos inside, List.takeWhile_cons_of_neg (by simp), List.append_nil]

theorem dropWhile_mark (free : mark ∉ part) :
    (part ++ mark :: rest).dropWhile (· ≠ mark) = mark :: rest := by
  have inside : ∀ c ∈ part, decide (c ≠ mark) = true := fun c mem =>
    decide_eq_true fun same => free (same ▸ mem)
  rw [List.dropWhile_append_of_pos inside, List.dropWhile_cons_of_neg (by simp)]

/-- What is left behind the characters other than a mark begins with the mark. -/
theorem eq_of_dropWhile_mark {c : Char} (cut : cs.dropWhile (· ≠ mark) = c :: rest) :
    mark ∉ cs.takeWhile (· ≠ mark) ∧ cs = cs.takeWhile (· ≠ mark) ++ mark :: rest := by
  have stop := List.head?_dropWhile_not (· ≠ mark) cs
  rw [cut] at stop
  obtain rfl : c = mark := by simpa using stop
  have whole : cs.takeWhile (· ≠ c) ++ cs.dropWhile (· ≠ c) = cs := List.takeWhile_append_dropWhile
  refine ⟨fun mem => by simpa using List.all_eq_true.mp List.all_takeWhile _ mem, ?_⟩
  rw [← cut, whole]

end Pieces

theorem lines_ne_nil (cs : List Char) : lines cs ≠ [] := by
  fun_cases lines cs <;> simp_all

/-- A character that does not end a line stands at the beginning of the first line. -/
theorem lines_cons {c : Char} {cs line : List Char} {rest : List (List Char)} (other : c ≠ '\n')
    (unpaired : ∀ more, c = '\r' → cs ≠ '\n' :: more) (cut : lines cs = line :: rest) :
    lines (c :: cs) = (c :: line) :: rest := by
  rw [lines, cut]
  · exact other
  · exact unpaired

/-- The last line of a text and what is left of it when a line feed follows: a carriage return at its end
goes to the line end. -/
theorem lines_append_feed (first second : List Char) : ∃ before last kept,
    lines first = before ++ [last] ∧ lines (first ++ '\n' :: second) = before ++ kept :: lines second ∧
      (last = kept ∨ last = kept ++ ['\r']) := by
  fun_induction lines first with
  | case1 => exact ⟨[], [], [], rfl, rfl, Or.inl rfl⟩
  | case2 cs ih =>
    obtain ⟨before, last, kept, cut, joined, ends⟩ := ih
    exact ⟨[] :: before, last, kept, by rw [cut]; rfl, by rw [List.cons_append, lines, joined]; rfl, ends⟩
  | case3 cs ih =>
    obtain ⟨before, last, kept, cut, joined, ends⟩ := ih
    exact ⟨[] :: before, last, kept, by rw [cut]; rfl,
      by rw [List.cons_append, List.cons_append, lines, joined]; rfl, ends⟩
  | case4 c cs notFeed notPair none ih => exact absurd none (lines_ne_nil cs)
  | case5 c cs notFeed notPair line rest some ih =>
    obtain ⟨before, last, kept, cut, joined, ends⟩ := ih
    by_cases paired : c = '\r' ∧ cs = []
    · -- the feed turns the return into a part of the line end
      obtain ⟨rfl, rfl⟩ := paired
      obtain ⟨rfl, rfl⟩ := List.cons.inj some
      exact ⟨[], ['\r'], [], rfl, rfl, Or.inr rfl⟩
    · have unpaired : ∀ more, c = '\r' → cs ++ '\n' :: second ≠ '\n' :: more := by
        rintro more rfl same
        cases cs with
        | nil => exact paired ⟨rfl, rfl⟩
        | cons d cs => exact notPair cs rfl (by rw [(List.cons.inj same).1])
      rw [some] at cut
      cases before with
      | nil =>
        obtain ⟨rfl, rfl⟩ := List.cons.inj cut
        refine ⟨[], c :: line, c :: kept, rfl, lines_cons notFeed unpaired joined, ?_⟩
        exact ends.imp (congrArg _) (congrArg _)
      | cons top before =>
        obtain ⟨rfl, rfl⟩ := List.cons.inj cut
        exact ⟨(c :: line) :: before, last, kept, rfl, lines_cons notFeed unpaired joined, ends⟩

/-- A carriage return at the end of a text stands at the end of its last line. -/
theorem lines_append_return (cs : List Char) : ∃ before last,
    lines cs = before ++ [last] ∧ lines (cs ++ ['\r']) = before ++ [last ++ ['\r']] := by
  fun_induction lines cs with
  | case1 => exact ⟨[], [], rfl, rfl⟩
  | case2 cs ih =>
    obtain ⟨before, last, cut, joined⟩ := ih
    exact ⟨[] :: before, last, by rw [cut]; rfl, by rw [List.cons_append, lines, joined]; rfl⟩
  | case3 cs ih =>
    obtain ⟨before, last, cut, joined⟩ := ih
    exact ⟨[] :: before, last, by rw [cut]; rfl,
      by rw [List.cons_append, List.cons_append, lines, joined]; rfl⟩
  | case4 c cs notFeed notPair none ih => exact absurd none (lines_ne_nil cs)
  | case5 c cs notFeed notPair line rest some ih =>
    obtain ⟨before, last, cut, joined⟩ := ih
    have unpaired : ∀ more, c = '\r' → cs ++ ['\r'] ≠ '\n' :: more := by
      rintro more rfl same
      cases cs with
      | nil => exact absurd (List.cons.inj same).1 (by decide)
      | cons d cs => exact notPair cs rfl (by rw [(List.cons.inj same).1])
    rw [some] at cut
    cases before with
    | nil =>
      obtain ⟨rfl, rfl⟩ := List.cons.inj cut
      exact ⟨[], c :: line, rfl, lines_cons notFeed unpaired joined⟩
    | cons top before =>
      obtain ⟨rfl, rfl⟩ := List.cons.inj cut
      exact ⟨(c :: line) :: before, last, rfl, lines_cons notFeed unpaired joined⟩

theorem lines_feedless {cs line : List Char} (member : line ∈ lines cs) : '\n' ∉ line := by
  fun_induction lines cs generalizing line with
  | case1 => simp_all
  | case2 cs ih =>
    rcases List.mem_cons.mp member with rfl | later
    · exact List.not_mem_nil
    · exact ih later
  | case3 cs ih =>
    rcases List.mem_cons.mp member with rfl | later
    · exact List.not_mem_nil
    · exact ih later
  | case4 c cs notFeed notPair none ih =>
    obtain rfl := List.mem_singleton.mp member
    simpa using fun h : '\n' = c => notFeed h.symm
  | case5 c cs notFeed notPair first rest some ih =>
    rw [some] at ih
    rcases List.mem_cons.mp member with rfl | later
    · intro feed
      rcases List.mem_cons.mp feed with h | h
      · exact notFeed h.symm
      · exact ih List.mem_cons_self h
    · exact ih (List.mem_cons_of_mem _ later)

theorem lines_of_not_mem {line : List Char} (feedless : '\n' ∉ line) : lines line = [line] := by
  induction line with
  | nil => rfl
  | cons c line ih =>
    obtain ⟨other, feedless⟩ := not_or.mp (List.mem_cons.not.mp feedless)
    refine lines_cons (Ne.symm other) (fun more _ same => feedless ?_) (ih feedless)
    rw [same]
    exact List.mem_cons_self

/-- A text with other line ends: some line feeds have got a carriage return before them. -/
inductive Respelled : List Char → List Char → Prop
  | nil : Respelled [] []
  | same (c : Char) {cs ds : List Char} (rest : Respelled cs ds) : Respelled (c :: cs) (c :: ds)
  | feed {cs ds : List Char} (rest : Respelled cs ds) : Respelled ('\n' :: cs) ('\r' :: '\n' :: ds)

/-- A text with one more line: with a line end of its own before one of the lines or behind the last line
end, or behind a last line that gets a line end. -/
inductive LineInserted (line : List Char) : List Char → List Char → Prop
  | before {first second ending : List Char} (boundary : first = [] ∨ first.getLast? = some '\n')
      (ends : ending = ['\n'] ∨ ending = ['\r', '\n']) :
      LineInserted line (first ++ second) (first ++ (line ++ (ending ++ second)))
  | last {first ending : List Char} (ends : ending = ['\n'] ∨ ending = ['\r', '\n']) :
      LineInserted line first (first ++ (ending ++ line))

section Reading

variable {α : Type} {read : List Char → Option α}
  (blind : ∀ line, read (line ++ ['\r']) = read line) (first second : List Char)

include blind

/-- What is read from lines is read from the lines before a feed and from those behind it. -/
theorem filterMap_lines_append : (lines (first ++ '\n' :: second)).filterMap read =
    (lines first).filterMap read ++ (lines second).filterMap read := by
  obtain ⟨before, last, kept, cut, joined, ends⟩ := lines_append_feed first second
  have same : read last = read kept := by
    rcases ends with rfl | rfl
    · rfl
    · exact blind kept
  rw [cut, joined, List.filterMap_append, List.filterMap_append, List.append_assoc]
  congr 1
  rw [List.filterMap_cons, List.filterMap_cons, same]
  cases read kept <;> rfl

theorem filterMap_lines_append_return : (lines (first ++ ['\r'])).filterMap read =
    (lines first).filterMap read := by
  obtain ⟨before, last, cut, joined⟩ := lines_append_return first
  rw [cut, joined, List.filterMap_append, List.filterMap_append, List.filterMap_cons,
    List.filterMap_cons, blind last]

/-- What is read from lines is read whichever way they end. -/
theorem filterMap_lines_append_ending {ending : List Char} (ends : ending = ['\n'] ∨ ending = ['\r', '\n']) :
    (lines (first ++ (ending ++ second))).filterMap read =
      (lines first).filterMap read ++ (lines second).filterMap read := by
  rcases ends with rfl | rfl
  · exact filterMap_lines_append blind first second
  · have feed := filterMap_lines_append blind (first ++ ['\r']) second
    rwa [filterMap_lines_append_return blind, List.append_assoc] at feed

theorem filterMap_lines_respelled {cs ds : List Char} (respelled : Respelled cs ds) :
    (lines ds).filterMap read = (lines cs).filterMap read := by
  -- the text in front of the rest that is respelled grows with every character that stays
  suffices front : ∀ first,
      (lines (first ++ ds)).filterMap read = (lines (first ++ cs)).filterMap read from front []
  induction respelled with
  | nil => exact fun _ => rfl
  | same c rest ih =>
    intro first
    have longer := ih (first ++ [c])
    rwa [List.append_assoc, List.append_assoc, List.singleton_append, List.singleton_append] at longer
  | @feed cs ds rest ih =>
    intro first
    have plain := filterMap_lines_append_ending blind first cs (Or.inl rfl)
    have paired := filterMap_lines_append_ending blind first ds (Or.inr rfl)
    rw [List.cons_append, List.nil_append] at plain
    rw [List.cons_append, List.cons_append, List.nil_append] at paired
    rw [plain, paired]
    exact congrArg _ (ih [])

theorem filterMap_lines_inserted {line cs ds : List Char} (feedless : '\n' ∉ line) (silent : read line = none)
    (inserted : LineInserted line cs ds) : (lines ds).filterMap read = (lines cs).filterMap read := by
  have nothing : (lines line).filterMap read = [] := by
    rw [lines_of_not_mem feedless, List.filterMap_cons, silent, List.filterMap_nil]
  cases inserted with
  | @before first second ending boundary ends =>
    have own : (lines (line ++ (ending ++ second))).filterMap read = (lines second).filterMap read := by
      rw [filterMap_lines_append_ending blind _ _ ends, nothing, List.nil_append]
    rcases boundary with rfl | ended
    · exact own
    · obtain ⟨start, rfl⟩ := List.getLast?_eq_some_iff.mp ended
      rw [List.append_assoc, List.append_assoc, filterMap_lines_append_ending blind _ _ (Or.inl rfl),
        filterMap_lines_append_ending blind _ _ (Or.inl rfl), own]
  | last ends => rw [filterMap_lines_append_ending blind _ _ ends, nothing, List.append_nil]

end Reading

end DocMend.Text
