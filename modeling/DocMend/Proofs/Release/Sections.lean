import DocMend.Commit.Category
import DocMend.Release.Notes
import Mathlib.Data.List.Induction
import Mathlib.Data.List.Perm.Basic
/-!
What release notes list. Grouping puts every entry into the group of its category and keeps their order,
and every category that a subject can have is shown, once. Between the head of the notes and their last
lines stand the sections of the categories with commits, in the order of display, and the bullets in these
sections are those of all commits of the log.
-/

set_option autoImplicit false
set_option relaxedAutoImplicit false

namespace DocMend

namespace Category

theorem nodup_displayOrder : displayOrder.Nodup := by
  decide

private theorem rules_shown : ∀ rule ∈ rules, rule.1.name ∈ displayOrder := by
  decide

/-- Every subject has a category that is shown. -/
theorem name_ofSubject_mem (subject : String) : (ofSubject subject).name ∈ displayOrder := by
  simp only [ofSubject]
  split
  · rename_i rule found
    exact rules_shown rule (List.mem_of_find?_eq_some found)
  · decide

end Category

namespace Entry

/-- The entries of a named category, in order. -/
def inCategory (entries : List Entry) (name : String) : List Entry :=
  entries.filter fun entry => entry.category.name = name

/-- What is found under a name after one more entry: the entry stands behind the earlier ones of its own
category, and the other categories stay. -/
theorem lookup_join (groups : List (String × List Entry)) (entry : Entry) (name : String) :
    (join groups entry).lookup name =
      if entry.category.name = name then some ((groups.lookup name).getD [] ++ [entry])
      else groups.lookup name := by
  by_cases here : entry.category.name = name
  · subst here
    rw [if_pos rfl, join, lookup_setEntry_same]
  · rw [if_neg here, join, lookup_setEntry_other _ (Ne.symm here)]

/-- The group of a category holds its entries in order; a category without entries has no group. -/
theorem lookup_grouped (entries : List Entry) (name : String) :
    (grouped entries).lookup name =
      if inCategory entries name = [] then none else some (inCategory entries name) := by
  -- entries are joined from the left, so the last one is the newest
  induction entries using List.reverseRecOn with
  | nil => rfl
  | append_singleton entries entry ih =>
    have folded : grouped (entries ++ [entry]) = join (grouped entries) entry := by
      simp [grouped]
    rw [folded, lookup_join, ih]
    by_cases here : entry.category.name = name
    · have more : inCategory (entries ++ [entry]) name = inCategory entries name ++ [entry] := by
        simp [inCategory, here]
      have filled : inCategory entries name ++ [entry] ≠ [] := by simp
      rw [if_pos here, more, if_neg filled]
      by_cases first : inCategory entries name = []
      · rw [if_pos first, first]
        rfl
      · rw [if_neg first]
        rfl
    · have same : inCategory (entries ++ [entry]) name = inCategory entries name := by
        simp [inCategory, here]
      rw [if_neg here, same]

end Entry

namespace Commit

/-- The commits of a named category, in order. -/
def inCategory (commits : List Commit) (name : String) : List Commit :=
  commits.filter fun commit => (Category.ofSubject commit.subject).name = name

theorem inCategory_map_ofCommit (commits : List Commit) (name : String) :
    Entry.inCategory (commits.map Entry.ofCommit) name =
      (inCategory commits name).map Entry.ofCommit :=
  List.filter_map

/-- The commits of different names, one name after another, are the commits with these names. -/
theorem flatMap_inCategory_perm {names : List String} (distinct : names.Nodup)
    (commits : List Commit)
    (named : ∀ commit ∈ commits, (Category.ofSubject commit.subject).name ∈ names) :
    (names.flatMap (inCategory commits)).Perm commits := by
  induction names generalizing commits with
  | nil =>
    have none : commits = [] := List.eq_nil_iff_forall_not_mem.mpr fun commit mem =>
      absurd (named commit mem) List.not_mem_nil
    rw [none]
    exact .nil
  | cons name names ih =>
    obtain ⟨fresh, distinct⟩ := List.nodup_cons.mp distinct
    let others := commits.filter fun commit => ¬(Category.ofSubject commit.subject).name = name
    have rest : names.flatMap (inCategory commits) = names.flatMap (inCategory others) := by
      refine List.flatMap_congr fun other mem => ?_
      have differ : other ≠ name := fun same => fresh (same ▸ mem)
      rw [inCategory, inCategory, List.filter_filter]
      refine List.filter_congr fun commit _ => ?_
      by_cases here : (Category.ofSubject commit.subject).name = other <;> simp [here, differ]
    have covered : ∀ commit ∈ others, (Category.ofSubject commit.subject).name ∈ names := by
      intro commit mem
      obtain ⟨member, differ⟩ := List.mem_filter.mp mem
      exact (List.mem_cons.mp (named commit member)).resolve_left (by simpa using differ)
    have parts : (inCategory commits name ++ others).Perm commits := by
      have halves := List.filter_append_perm
        (fun commit => decide ((Category.ofSubject commit.subject).name = name)) commits
      simpa [inCategory, others] using halves
    rw [List.flatMap_cons, rest]
    exact ((ih distinct others covered).append_left _).trans parts

end Commit

end DocMend

namespace DocMend.Release

/-- The bullets of the commits of a category, in the order of the log. -/
def bulletsOf (repository : String) (commits : List Commit) (name : String) : List String :=
  (Commit.inCategory commits name).map fun commit => bullet repository (Entry.ofCommit commit)

/-- The categories with commits, in the order of display. -/
def shown (commits : List Commit) : List String :=
  Category.displayOrder.filter fun name => Commit.inCategory commits name ≠ []

/-- The last lines of the notes: what a milestone says of itself, and the link to the repository. -/
def closing (details : Details) : List String :=
  (if Kind.ofTag details.tag = .milestone then milestoneNotes else []) ++
    ["---", "",
     "🔗 **Repository:** [" ++ details.repository ++ "](" ++ address details.repository ++ ")"]

/-- The section of a category: a heading and the bullets of its commits, or nothing at all. -/
theorem section?_grouped (repository : String) (commits : List Commit) (name : String) :
    Release.section? repository (Entry.grouped (commits.map Entry.ofCommit)) name =
      if Commit.inCategory commits name = [] then []
      else [heading name, ""] ++ bulletsOf repository commits name ++ [""] := by
  rw [section?, Entry.lookup_grouped, Commit.inCategory_map_ofCommit]
  by_cases empty : Commit.inCategory commits name = []
  · rw [if_pos empty, if_pos (by rw [empty, List.map_nil])]
  · rw [if_neg empty, if_neg (by simpa using empty)]
    simp only [bulletsOf, List.map_map, Function.comp_def]

/-- Sections are those of the categories with commits. -/
theorem sections_map_ofCommit (repository : String) (commits : List Commit) :
    sections repository (commits.map Entry.ofCommit) =
      (shown commits).flatMap fun name =>
        [heading name, ""] ++ bulletsOf repository commits name ++ [""] := by
  simp only [sections, shown]
  induction Category.displayOrder with
  | nil => rfl
  | cons name names ih =>
    rw [List.flatMap_cons, ih, section?_grouped]
    by_cases empty : Commit.inCategory commits name = [] <;> simp [empty]

/-- A category is shown exactly if it has commits. -/
theorem mem_shown {commits : List Commit} {name : String} :
    name ∈ shown commits ↔ Commit.inCategory commits name ≠ [] := by
  rw [shown, List.mem_filter, decide_eq_true_eq, and_iff_right_of_imp]
  intro filled
  obtain ⟨commit, mem⟩ := List.exists_mem_of_ne_nil _ filled
  have named : (Category.ofSubject commit.subject).name = name :=
    of_decide_eq_true (List.mem_filter.mp mem).2
  exact named ▸ Category.name_ofSubject_mem commit.subject

/-- The commits of the categories shown are all commits. -/
theorem flatMap_shown_perm (commits : List Commit) :
    ((shown commits).flatMap (Commit.inCategory commits)).Perm commits := by
  refine Commit.flatMap_inCategory_perm (Category.nodup_displayOrder.filter _) commits ?_
  intro commit mem
  exact mem_shown.mpr (List.ne_nil_of_mem (List.mem_filter.mpr ⟨mem, decide_eq_true rfl⟩))

private theorem nodup_headings : (Category.displayOrder.map heading).Nodup := by
  decide

/-- Notes are a head, one section for each category with commits, in the order of display, and the last
lines. A section is a heading with the bullets of exactly the commits of its category, in the order of the
log, so no section is empty, no heading comes twice, and every commit of the log is listed exactly as
often as it stands there. The head counts these bullets. -/
theorem notes_list_commits (log : String) (details : Details) :
    let commits := Commit.readLog log
    let bullets := (shown commits).flatMap (bulletsOf details.repository commits)
    notesOfLog log details =
      Text.joinedBy "\n"
        (head bullets.length details ++
          (shown commits).flatMap (fun name =>
            [heading name, ""] ++ bulletsOf details.repository commits name ++ [""]) ++
          closing details) ++ "\n" ∧
    (∃ opening, head bullets.length details = opening ++
      [withoutTrailingBlanks
        ("> **Changes:** " ++ toString bullets.length ++ " commits " ++ details.range),
        "", "## What's Changed", ""]) ∧
    ((shown commits).flatMap (Commit.inCategory commits)).Perm commits ∧
    bullets.Perm (commits.map fun commit => bullet details.repository (Entry.ofCommit commit)) ∧
    bullets.length = commits.length ∧
    ((shown commits).map heading).Nodup ∧
    ∀ name, name ∈ shown commits ↔ bulletsOf details.repository commits name ≠ [] := by
  intro commits bullets
  have all := flatMap_shown_perm commits
  have listed : bullets.Perm
      (commits.map fun commit => bullet details.repository (Entry.ofCommit commit)) := by
    have same := all.map fun commit => bullet details.repository (Entry.ofCommit commit)
    rwa [List.map_flatMap] at same
  have count : bullets.length = commits.length := by
    rw [listed.length_eq, List.length_map]
  refine ⟨?_, ⟨(head bullets.length details).take 5, rfl⟩, all, listed, count, ?_, fun name => ?_⟩
  · have entries : (commits.map Entry.ofCommit).length = bullets.length := by
      rw [List.length_map, count]
    rw [notesOfLog, notes, noteLines, entries, sections_map_ofCommit, closing]
    simp only [List.append_assoc]
    rfl
  · exact nodup_headings.sublist (List.filter_sublist.map heading)
  · rw [mem_shown, bulletsOf, Ne, Ne, List.map_eq_nil_iff]

-- Two fixes with a feature between them: their bullets come together, behind the feature.
example :
    let commits := Commit.readLog "a|Fix b|J|e|d\nb|Add c|J|e|d\nc|Fix d|J|e|d"
    (shown commits).map (fun name => (name, bulletsOf "o/r" commits name)) =
      [("Features & Implementation", ["- Add c ([b](https://github.com/o/r/commit/b))"]),
       ("Bug Fixes",
        ["- Fix b ([a](https://github.com/o/r/commit/a))",
         "- Fix d ([c](https://github.com/o/r/commit/c))"])] := by
  decide +kernel

end DocMend.Release
