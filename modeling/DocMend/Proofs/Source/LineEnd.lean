import DocMend.Proofs.Source.Splice
/-!
The terminators of raw lines: how a terminator is read off again where it was put behind a text, and
which terminator lines get that are inserted into a source.

The line ends of a whole file. Lines that are inserted above its last line follow what all the others
have, and the last line stays as it is.
-/

set_option autoImplicit false
set_option relaxedAutoImplicit false

namespace DocMend

namespace Line

theorem terminatorChars_feed (body : List Char) : terminatorChars (body ++ ['\n']) ≠ [] := by
  induction body with
  | nil => simp [terminatorChars]
  | cons c cs ih =>
    by_cases pair : c = '\r' ∧ cs = []
    · obtain ⟨rfl, rfl⟩ := pair
      simp [terminatorChars]
    · rw [List.cons_append, terminatorChars]
      · exact ih
      · intro _ ended
        simp at ended
      · intro ret ended
        exact pair ⟨ret, by simpa using ended⟩

/-- A text that does not end in a line feed has no terminator. -/
private theorem terminatorChars_of_getLast? {cs : List Char} (last : cs.getLast? ≠ some '\n') :
    terminatorChars cs = [] := by
  fun_induction terminatorChars cs with
  | case1 => rfl
  | case2 => exact absurd rfl last
  | case3 => exact absurd rfl last
  | case4 c cs notFeed notPair ih =>
    refine ih fun feed => last ?_
    rw [List.getLast?_cons, feed, Option.getD_some]

theorem terminatorChars_feedless {cs : List Char} (feedless : '\n' ∉ cs) : terminatorChars cs = [] :=
  terminatorChars_of_getLast? fun last => feedless (List.mem_of_getLast? last)

private theorem terminatorChars_append {body ending : List Char}
    (ends : ending = ['\n'] ∨ ending = ['\r', '\n'])
    (apart : ending = ['\n'] → body.getLast? ≠ some '\r') :
    terminatorChars (body ++ ending) = ending := by
  induction body with
  | nil => rcases ends with rfl | rfl <;> rfl
  | cons c cs ih =>
    have later : ending = ['\n'] → cs.getLast? ≠ some '\r' := by
      intro feed last
      exact apart feed (by rw [List.getLast?_cons, last, Option.getD_some])
    have rest := ih later
    rw [List.cons_append, terminatorChars, rest]
    · intro feed ended
      rcases ends with rfl | rfl <;> simp at ended
    · intro ret ended
      rcases ends with rfl | rfl
      · obtain rfl : cs = [] := by simpa using ended
        exact apart rfl (by rw [ret]; rfl)
      · have short := congrArg List.length ended
        simp at short

theorem isOpen_feedless {raw : String} (feedless : '\n' ∉ raw.toList) : isOpen raw = true := by
  rw [isOpen, terminatorChars_feedless feedless]
  rfl

theorem isOpen_ended {raw : String} {body : List Char} (shape : raw.toList = body ++ ['\n']) :
    isOpen raw = false := by
  rw [isOpen, shape, List.isEmpty_eq_false_iff]
  exact terminatorChars_feed body

/-- The terminator of a text with a terminator behind it is that terminator. Only a carriage return at
the end of the text would be taken for a part of it. -/
theorem terminator_append {body ending : String} (ends : ending = "\n" ∨ ending = "\r\n")
    (apart : ending = "\n" → body.toList.getLast? ≠ some '\r') :
    terminator (body ++ ending) = ending := by
  have chars : terminatorChars (body.toList ++ ending.toList) = ending.toList := by
    refine terminatorChars_append ?_ fun feed => ?_
    · rcases ends with rfl | rfl
      · exact Or.inl rfl
      · exact Or.inr rfl
    · exact apart (String.toList_injective feed)
  rw [terminator, String.toList_append, chars, String.ofList_toList]

theorem content_append {body ending : String} (ends : ending = "\n" ∨ ending = "\r\n")
    (apart : ending = "\n" → body.toList.getLast? ≠ some '\r') :
    content (body ++ ending) = body := by
  have chars := congrArg String.toList (terminator_append ends apart)
  rw [terminator, String.toList_ofList] at chars
  have whole := content_append_terminator (body ++ ending).toList
  rw [chars, String.toList_append] at whole
  rw [content, String.toList_append, List.append_cancel_right whole, String.ofList_toList]

/-- What a raw line ends in: a carriage return and a line feed, a line feed alone, or nothing of that. -/
inductive EndsIn : String → String → Prop
  | pair (body : String) : EndsIn (body ++ "\r\n") "\r\n"
  | feed (body : String) (apart : body.toList.getLast? ≠ some '\r') : EndsIn (body ++ "\n") "\n"
  | none {raw : String} (last : raw.toList.getLast? ≠ some '\n') : EndsIn raw ""

/-- The terminator of a raw line is what it ends in. -/
theorem endsIn_iff {raw ending : String} : EndsIn raw ending ↔ terminator raw = ending := by
  constructor
  · rintro (body | ⟨body, apart⟩ | last)
    · exact terminator_append (Or.inr rfl) fun same => absurd same (by decide)
    · exact terminator_append (Or.inl rfl) fun _ => apart
    · rw [terminator, terminatorChars_of_getLast? last]
  · rintro rfl
    by_cases last : raw.toList.getLast? = some '\n'
    · obtain ⟨cs, whole⟩ := List.getLast?_eq_some_iff.mp last
      by_cases returned : cs.getLast? = some '\r'
      · obtain ⟨body, rfl⟩ := List.getLast?_eq_some_iff.mp returned
        obtain rfl : raw = String.ofList body ++ "\r\n" := String.toList_injective (by simp [whole])
        rw [terminator_append (Or.inr rfl) fun same => absurd same (by decide)]
        exact .pair _
      · obtain rfl : raw = String.ofList cs ++ "\n" := String.toList_injective (by simp [whole])
        have apart : (String.ofList cs).toList.getLast? ≠ some '\r' := by rwa [String.toList_ofList]
        rw [terminator_append (Or.inl rfl) fun _ => apart]
        exact .feed _ apart
    · rw [terminator, terminatorChars_of_getLast? last]
      exact .none last

instance (raw ending : String) : Decidable (EndsIn raw ending) :=
  decidable_of_iff _ endsIn_iff.symm

end Line

namespace Source

variable {source : Source}

theorem firstTerminator?_cons (raw : String) (rest : List String) :
    firstTerminator? (raw :: rest) =
      if (Line.terminator raw).isEmpty then firstTerminator? rest
      else some (Line.terminator raw) := by
  simp only [firstTerminator?, List.map_cons, List.find?_cons]
  cases (Line.terminator raw).isEmpty <;> rfl

/-- Lines put in before a terminated line get its terminator. -/
theorem terminatorFor_of_terminated {index : Nat} {raw : String} (found : source.lines[index]? = some raw)
    (filled : Line.terminator raw ≠ "") : source.terminatorFor index = Line.terminator raw := by
  have own : ((source.lines[index]?).map Line.terminator).getD "" = Line.terminator raw := by
    rw [found, Option.map_some, Option.getD_some]
  rw [terminatorFor, own, if_neg (by rwa [String.isEmpty_iff])]

/-- Every line before another one is terminated. -/
theorem Cut.terminator_ne (cut : source.Cut) {index : Nat} (before : index + 1 < source.lines.length)
    {raw : String} (found : source.lines[index]? = some raw) : Line.terminator raw ≠ "" := by
  obtain ⟨body, -, line⟩ := Line.Cut.ended_of_not_last cut (n := index) (by simpa using before)
  have shape : raw.toList = body ++ ['\n'] := by
    rw [List.getElem?_map, found] at line
    exact Option.some.inj line
  intro empty
  rw [Line.terminator, shape, String.ofList_eq_empty_iff] at empty
  exact Line.terminatorChars_feed body empty

/-- A plain line that was put in has the terminator that it was given. -/
theorem terminator_ended {body : String} (returnless : '\r' ∉ body.toList) (source : Source) (index : Nat) :
    Line.terminator (body ++ source.terminatorFor index) = source.terminatorFor index :=
  Line.terminator_append (source.terminatorFor_cases index) fun _ last =>
    returnless (List.mem_of_getLast? last)

/-- All terminated lines end in a carriage return and a line feed, and there is such a line. -/
def Returned (source : Source) : Prop :=
  (∃ raw ∈ source.lines, Line.terminator raw ≠ "") ∧
    ∀ raw ∈ source.lines, Line.terminator raw ≠ "" → Line.terminator raw = "\r\n"

instance (source : Source) : Decidable source.Returned :=
  inferInstanceAs (Decidable (_ ∧ _))

/-- No line ends in a carriage return and a line feed. -/
def Returnless (source : Source) : Prop :=
  ∀ raw ∈ source.lines, Line.terminator raw ≠ "\r\n"

instance (source : Source) : Decidable source.Returnless :=
  inferInstanceAs (Decidable (∀ raw ∈ source.lines, _))

theorem Returned.terminatorFor_eq (returned : source.Returned) (index : Nat) :
    source.terminatorFor index = "\r\n" := by
  obtain ⟨⟨raw, mem, filled⟩, all⟩ := returned
  rcases source.terminatorFor_mem index with ⟨other, there, ended, same⟩ | ⟨none, -⟩
  · rw [same, all other there ended]
  · exact absurd (none raw mem) filled

theorem Returnless.terminatorFor_eq (returnless : source.Returnless) (index : Nat) :
    source.terminatorFor index = "\n" := by
  rcases source.terminatorFor_mem index with ⟨raw, mem, ended, same⟩ | ⟨-, feed⟩
  · rw [same]
    exact ((terminator_cases raw).resolve_left ended).resolve_right (returnless raw mem)
  · exact feed

/-- What a newer source has kept of the line ends of an older one: line ends of one kind only, and the
last line, terminated or not. -/
structure SameEnds (before after : Source) : Prop where
  returned : before.Returned → after.Returned
  returnless : before.Returnless → after.Returnless
  last : after.lines.getLast? = before.lines.getLast?

theorem SameEnds.refl (source : Source) : SameEnds source source :=
  ⟨id, id, rfl⟩

theorem SameEnds.trans {first second third : Source} (before : SameEnds first second)
    (after : SameEnds second third) : SameEnds first third :=
  ⟨after.returned ∘ before.returned, after.returnless ∘ before.returnless,
    after.last.trans before.last⟩

private theorem mem_splice {index : Nat} (inside : index < source.lines.length) (added : List String)
    {raw : String} : raw ∈ (source.splice index added).lines ↔
      raw ∈ source.lines ∨ ∃ line ∈ added, line ++ source.terminatorFor index = raw := by
  have parts : raw ∈ source.lines ↔
      raw ∈ source.lines.take index ∨ raw ∈ source.lines.drop index := by
    rw [← List.mem_append, List.take_append_drop]
  rw [splice_inside source inside, List.mem_append, List.mem_append, ended, List.mem_map, parts]
  exact or_right_comm

/-- Lines that are put in above the last line follow the line ends of the file, unless one of them ends
in a carriage return itself. -/
theorem SameEnds.splice {index : Nat} (inside : index < source.lines.length) {added : List String}
    (apart : ∀ line ∈ added, line.toList.getLast? ≠ some '\r') :
    source.SameEnds (source.splice index added) where
  returned := by
    intro returned
    have style := returned.terminatorFor_eq index
    obtain ⟨⟨raw, mem, filled⟩, all⟩ := returned
    refine ⟨⟨raw, (mem_splice inside added).mpr (Or.inl mem), filled⟩, fun other there ended => ?_⟩
    rcases (mem_splice inside added).mp there with old | ⟨line, new, rfl⟩
    · exact all other old ended
    · rw [style]
      exact Line.terminator_append (Or.inr rfl) fun _ => apart line new
  returnless := by
    intro returnless raw there
    rcases (mem_splice inside added).mp there with old | ⟨line, new, rfl⟩
    · exact returnless raw old
    · rw [returnless.terminatorFor_eq index,
        Line.terminator_append (Or.inl rfl) fun _ => apart line new]
      decide
  last := by
    have behind : (source.lines.drop index).getLast? = source.lines.getLast? := by
      rw [List.getLast?_drop, if_neg (by omega)]
    have filled : source.lines.getLast? ≠ none := by
      rw [Ne, List.getLast?_eq_none_iff]
      rintro empty
      rw [empty] at inside
      exact absurd inside (Nat.not_lt_zero index)
    rw [splice_inside source inside, List.getLast?_append, behind]
    cases present : source.lines.getLast? with
    | none => exact absurd present filled
    | some raw => rfl

end Source

end DocMend
