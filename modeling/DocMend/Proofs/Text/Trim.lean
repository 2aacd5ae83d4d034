import DocMend.Text.Blank
import Mathlib.Data.List.DropRight
/-!
Trimming. A text is what trimming leaves of it with blanks around; what has no blanks at its own ends is
left alone, and stays where it is when the text around it is trimmed.
-/

set_option autoImplicit false
set_option relaxedAutoImplicit false

namespace DocMend.Text

variable {cs part before after : List Char} {c : Char}

theorem trimStart_cons_of_not_blank (inked : isBlank c = false) : trimStart (c :: cs) = c :: cs := by
  rw [trimStart, List.dropWhile_cons, if_neg (by simp [inked])]

theorem trimStart_blank_append (blank : ∀ c ∈ before, isBlank c = true) :
    trimStart (before ++ cs) = trimStart cs := by
  rw [trimStart, List.dropWhile_append_of_pos blank, trimStart]

theorem exists_trimStart (cs : List Char) :
    ∃ before, (∀ c ∈ before, isBlank c = true) ∧ cs = before ++ trimStart cs :=
  ⟨cs.takeWhile isBlank, fun _ mem => List.all_eq_true.mp List.all_takeWhile _ mem,
    List.takeWhile_append_dropWhile.symm⟩

theorem trimStart_head (cs : List Char) : ∀ c ∈ (trimStart cs).head?, isBlank c = false := by
  intro c first
  have stopped := List.head?_dropWhile_not isBlank cs
  rw [trimStart] at first
  rw [Option.mem_def.mp first] at stopped
  simpa using stopped

theorem trimStart_eq_self_iff : trimStart cs = cs ↔ ∀ c ∈ cs.head?, isBlank c = false := by
  refine ⟨fun same => same ▸ trimStart_head cs, fun inked => ?_⟩
  cases cs with
  | nil => rfl
  | cons c cs => exact trimStart_cons_of_not_blank (inked c rfl)

theorem trimEnd_eq (cs : List Char) : trimEnd cs = (trimStart cs.reverse).reverse := rfl

theorem trimEnd_eq_self_iff : trimEnd cs = cs ↔ ∀ c ∈ cs.getLast?, isBlank c = false := by
  rw [trimEnd_eq, ← List.reverse_inj, List.reverse_reverse, trimStart_eq_self_iff,
    List.head?_reverse]

theorem trimEnd_append_blank (blank : ∀ c ∈ after, isBlank c = true) :
    trimEnd (cs ++ after) = trimEnd cs := by
  have backwards : ∀ c ∈ after.reverse, isBlank c = true := fun c mem =>
    blank c (List.mem_reverse.mp mem)
  rw [trimEnd_eq, List.reverse_append, trimStart_blank_append backwards, ← trimEnd_eq]

theorem exists_trimEnd (cs : List Char) :
    ∃ after, (∀ c ∈ after, isBlank c = true) ∧ cs = trimEnd cs ++ after := by
  obtain ⟨before, blank, whole⟩ := exists_trimStart cs.reverse
  refine ⟨before.reverse, fun c mem => blank c (List.mem_reverse.mp mem), ?_⟩
  rw [trimEnd_eq, ← List.reverse_append, ← whole, List.reverse_reverse]

/-- A text that trimming leaves alone begins and ends without blanks. -/
theorem trim_eq_self_iff : trim cs = cs ↔
    (∀ c ∈ cs.head?, isBlank c = false) ∧ ∀ c ∈ cs.getLast?, isBlank c = false := by
  rw [← trimStart_eq_self_iff, ← trimEnd_eq_self_iff, trim]
  constructor
  · intro same
    obtain ⟨before, -, whole⟩ := exists_trimStart cs
    obtain ⟨after, -, shorter⟩ := exists_trimEnd (trimStart cs)
    have size := congrArg List.length whole
    have smaller := congrArg List.length shorter
    rw [List.length_append] at size smaller
    rw [same] at smaller
    have nothing : before = [] := List.length_eq_zero_iff.mp (by omega)
    have start : trimStart cs = cs := by
      rw [nothing, List.nil_append] at whole
      exact whole.symm
    exact ⟨start, by rwa [start] at same⟩
  · rintro ⟨start, stop⟩
    rw [start, stop]

/-- A text is its trimming with blanks around. -/
theorem exists_trim (cs : List Char) : ∃ before after, (∀ c ∈ before, isBlank c = true) ∧
    (∀ c ∈ after, isBlank c = true) ∧ cs = before ++ (trim cs ++ after) := by
  obtain ⟨before, first, whole⟩ := exists_trimStart cs
  obtain ⟨after, last, shorter⟩ := exists_trimEnd (trimStart cs)
  exact ⟨before, after, first, last, by rw [trim, ← shorter, ← whole]⟩

/-- Trimming does not reach beyond a character that is no blank. -/
theorem trimStart_append (start : ∀ c ∈ part.head?, isBlank c = false) :
    trimStart (cs ++ part) = trimStart cs ++ part := by
  induction cs with
  | nil => exact trimStart_eq_self_iff.mpr start
  | cons c cs ih =>
    cases blank : isBlank c with
    | true =>
      have one : ∀ d ∈ [c], isBlank d = true := by simpa using blank
      rw [← List.singleton_append, List.append_assoc, trimStart_blank_append one,
        trimStart_blank_append one, ih]
    | false =>
      rw [List.cons_append, trimStart_cons_of_not_blank blank, trimStart_cons_of_not_blank blank,
        List.cons_append]

theorem trimEnd_append (stop : ∀ c ∈ part.getLast?, isBlank c = false) :
    trimEnd (part ++ cs) = part ++ trimEnd cs := by
  have start : ∀ c ∈ part.reverse.head?, isBlank c = false := by rwa [List.head?_reverse]
  rw [trimEnd_eq, List.reverse_append, trimStart_append start, List.reverse_append,
    List.reverse_reverse, ← trimEnd_eq]

theorem trimStart_append_of_ne_nil (filled : trimStart cs ≠ []) :
    trimStart (cs ++ after) = trimStart cs ++ after := by
  have some : ¬(cs.dropWhile isBlank).isEmpty = true := by simpa [trimStart] using filled
  rw [trimStart, List.dropWhile_append, if_neg some, trimStart]

theorem trimStart_append_of_nil (blank : ∀ c ∈ after, isBlank c = true) (empty : trimStart cs = []) :
    trimStart (cs ++ after) = [] :=
  List.dropWhile_eq_nil_iff.mpr (List.forall_mem_append.mpr ⟨List.dropWhile_eq_nil_iff.mp empty, blank⟩)

theorem trim_append_blank (blank : ∀ c ∈ after, isBlank c = true) :
    trim (cs ++ after) = trim cs := by
  by_cases all : trimStart cs = []
  · rw [trim, trimStart_append_of_nil blank all, trim, all]
  · rw [trim, trimStart_append_of_ne_nil all, trimEnd_append_blank blank, trim]

theorem trim_blank_append (blank : ∀ c ∈ before, isBlank c = true) :
    trim (before ++ cs) = trim cs := by
  rw [trim, trimStart_blank_append blank, trim]

theorem trim_trim (cs : List Char) : trim (trim cs) = trim cs := by
  obtain ⟨before, after, first, last, whole⟩ := exists_trim cs
  have same := congrArg trim whole
  rw [trim_blank_append first, trim_append_blank last] at same
  exact same.symm

theorem mem_of_mem_trimStart (mem : c ∈ trimStart cs) : c ∈ cs :=
  (List.dropWhile_suffix _).subset mem

theorem mem_of_mem_trim (mem : c ∈ trim cs) : c ∈ cs := by
  have inner : c ∈ (trimStart cs).reverse :=
    (List.dropWhile_suffix _).subset (List.mem_reverse.mp mem)
  exact mem_of_mem_trimStart (List.mem_reverse.mp inner)

theorem mem_trim (mem : c ∈ cs) (inked : isBlank c = false) : c ∈ trim cs := by
  obtain ⟨before, after, first, last, whole⟩ := exists_trim cs
  rw [whole] at mem
  rcases List.mem_append.mp mem with inside | inside
  · exact absurd (first c inside) (by simp [inked])
  · rcases List.mem_append.mp inside with inside | inside
    · exact inside
    · exact absurd (last c inside) (by simp [inked])

/-- Trimming stays outside a part of a text that has no blanks at its ends. -/
theorem trim_append (kept : trim part = part) (filled : part ≠ []) (before after : List Char) :
    trim (before ++ (part ++ after)) = trimStart before ++ (part ++ trimEnd after) := by
  obtain ⟨start, stop⟩ := trim_eq_self_iff.mp kept
  have first : ∀ c ∈ (part ++ after).head?, isBlank c = false := by
    rwa [List.head?_append_of_ne_nil part filled]
  have last : ∀ c ∈ (trimStart before ++ part).getLast?, isBlank c = false := by
    rwa [List.getLast?_append_of_ne_nil _ filled]
  rw [trim, trimStart_append first, ← List.append_assoc, trimEnd_append last, List.append_assoc]

theorem infix_trim (kept : trim part = part) (filled : part ≠ []) (inside : part <:+: cs) :
    part <:+: trim cs := by
  obtain ⟨before, after, rfl⟩ := inside
  rw [List.append_assoc, trim_append kept filled]
  exact List.infix_append' _ _ _

theorem suffix_trim (kept : trim part = part) (filled : part ≠ []) (suffix : part <:+ cs) :
    part <:+ trim cs := by
  obtain ⟨before, rfl⟩ := suffix
  have trimmed := trim_append kept filled before []
  rw [List.append_nil, show trimEnd [] = [] from rfl, List.append_nil] at trimmed
  rw [trimmed]
  exact List.suffix_append _ _

end DocMend.Text
