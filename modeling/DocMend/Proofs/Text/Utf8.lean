import DocMend.Text.Utf8
/-!
Writing a text as UTF-8 and reading it again. Reading gives the text back, and a line feed among the
bytes stands for a line feed of the text, so bytes can be cut behind line feeds as the text can.
-/

set_option autoImplicit false
set_option relaxedAutoImplicit false

namespace DocMend.Text.Utf8

private theorem decodeAfter_step {pending next : Option Pending} {b : UInt8} {read : List Char}
    (step : advance pending b = (read, next)) (before : List Char) (bytes : List UInt8) :
    decodeAfter before pending (b :: bytes) = decodeAfter (read.reverse ++ before) next bytes := by
  cases pending <;> simp only [decodeAfter, step]

/-- The first byte of a sequence of two. -/
private theorem advance_two : ∀ bits < 0x20, 2 ≤ bits →
    advance none (UInt8.ofNat (bits + 0xC0)) = ([], some ⟨bits, 1, 0x80, 0xBF⟩) := by
  decide

/-- The first byte of a sequence of three. -/
private theorem advance_three : ∀ bits < 0x10, advance none (UInt8.ofNat (bits + 0xE0)) =
    ([], some ⟨bits, 2, if bits = 0 then 0xA0 else 0x80, if bits = 0xD then 0x9F else 0xBF⟩) := by
  decide

/-- The first byte of a sequence of four. -/
private theorem advance_four : ∀ bits < 5, advance none (UInt8.ofNat (bits + 0xF0)) =
    ([], some ⟨bits, 3, if bits = 0 then 0x90 else 0x80, if bits = 4 then 0x8F else 0xBF⟩) := by
  decide

section Tail

variable {before bits : Nat} {low high : UInt8} (small : bits < 0x40)
  (above : low.toNat ≤ bits + 0x80) (below : bits + 0x80 ≤ high.toNat)

include small above below

private theorem tail_fits : (UInt8.ofNat (bits + 0x80)).toNat = bits + 0x80 ∧
    low ≤ UInt8.ofNat (bits + 0x80) ∧ UInt8.ofNat (bits + 0x80) ≤ high := by
  have value : (UInt8.ofNat (bits + 0x80)).toNat = bits + 0x80 := by
    rw [UInt8.toNat_ofNat']
    omega
  rw [UInt8.le_iff_toNat_le, UInt8.le_iff_toNat_le, value]
  exact ⟨rfl, above, below⟩

/-- The last six bits of a sequence. -/
private theorem advance_last : advance (some ⟨before, 1, low, high⟩) (UInt8.ofNat (bits + 0x80)) =
    ([Char.ofNat (before * 0x40 + bits)], none) := by
  obtain ⟨value, fits⟩ := tail_fits small above below
  simp only [advance, if_pos fits, value, Nat.add_sub_cancel, if_pos (Nat.le_refl 1)]

/-- Six bits of a sequence that goes on. -/
private theorem advance_more (missing : Nat) :
    advance (some ⟨before, missing + 2, low, high⟩) (UInt8.ofNat (bits + 0x80)) =
      ([], some ⟨before * 0x40 + bits, missing + 1, 0x80, 0xBF⟩) := by
  obtain ⟨value, fits⟩ := tail_fits small above below
  have more : ¬missing + 2 ≤ 1 := by omega
  simp only [advance, if_pos fits, value, Nat.add_sub_cancel, if_neg more]
  rfl

end Tail

section Character

variable (before : List Char) (bytes : List UInt8) {v : Nat}

private theorem decodeAfter_one (small : v ≤ 0x7F) :
    decodeAfter before none (UInt8.ofNat v :: bytes) =
      decodeAfter (Char.ofNat v :: before) none bytes := by
  have value : (UInt8.ofNat v).toNat = v := by
    rw [UInt8.toNat_ofNat']
    omega
  have below : v < 0x80 := by omega
  have first : advance none (UInt8.ofNat v) = ([Char.ofNat v], none) := by
    simp only [advance, start, value, if_pos below]
  exact decodeAfter_step first before bytes

private theorem decodeAfter_two (low : 0x7F < v) (high : v ≤ 0x7FF) :
    decodeAfter before none (UInt8.ofNat (v / 64 % 0x20 + 0xC0) ::
        UInt8.ofNat (v % 0x40 + 0x80) :: bytes) =
      decodeAfter (Char.ofNat v :: before) none bytes := by
  have lead : v / 64 % 0x20 = v / 64 := by omega
  have whole : v / 64 * 0x40 + v % 0x40 = v := by omega
  have first := advance_two (v / 64) (by omega) (by omega)
  have second : advance (some ⟨v / 64, 1, 0x80, 0xBF⟩) (UInt8.ofNat (v % 0x40 + 0x80)) = _ :=
    advance_last (Nat.mod_lt _ (by decide)) (show 0x80 ≤ _ by omega) (show _ ≤ 0xBF by omega)
  rw [lead, decodeAfter_step first, decodeAfter_step second, whole]
  rfl

private theorem decodeAfter_three (low : 0x7FF < v) (high : v ≤ 0xFFFF)
    (valid : v < 0xD800 ∨ 0xDFFF < v) :
    decodeAfter before none (UInt8.ofNat (v / 4096 % 0x10 + 0xE0) ::
        UInt8.ofNat (v / 64 % 0x40 + 0x80) :: UInt8.ofNat (v % 0x40 + 0x80) :: bytes) =
      decodeAfter (Char.ofNat v :: before) none bytes := by
  have lead : v / 4096 % 0x10 = v / 4096 := by omega
  have whole : (v / 4096 * 0x40 + v / 64 % 0x40) * 0x40 + v % 0x40 = v := by omega
  have first := advance_three (v / 4096) (by omega)
  -- the range of the second byte keeps out long forms of small numbers and surrogates
  have second := @advance_more (v / 4096) _ _ _ (Nat.mod_lt (v / 64) (show 0x40 > 0 by decide))
    (show (if v / 4096 = 0 then 0xA0 else 0x80 : UInt8).toNat ≤ _ by
      split
      · exact (show 0xA0 ≤ _ by omega)
      · exact (show 0x80 ≤ _ by omega))
    (show _ ≤ (if v / 4096 = 0xD then 0x9F else 0xBF : UInt8).toNat by
      split
      · exact (show _ ≤ 0x9F by omega)
      · exact (show _ ≤ 0xBF by omega)) 0
  have third : advance (some ⟨v / 4096 * 0x40 + v / 64 % 0x40, 1, 0x80, 0xBF⟩)
      (UInt8.ofNat (v % 0x40 + 0x80)) = _ :=
    advance_last (Nat.mod_lt _ (by decide)) (show 0x80 ≤ _ by omega) (show _ ≤ 0xBF by omega)
  rw [lead, decodeAfter_step first, decodeAfter_step second, decodeAfter_step third, whole]
  rfl

private theorem decodeAfter_four (low : 0xFFFF < v) (high : v < 0x110000) :
    decodeAfter before none (UInt8.ofNat (v / 262144 % 0x08 + 0xF0) ::
        UInt8.ofNat (v / 4096 % 0x40 + 0x80) :: UInt8.ofNat (v / 64 % 0x40 + 0x80) ::
          UInt8.ofNat (v % 0x40 + 0x80) :: bytes) =
      decodeAfter (Char.ofNat v :: before) none bytes := by
  have lead : v / 262144 % 0x08 = v / 262144 := by omega
  have whole : ((v / 262144 * 0x40 + v / 4096 % 0x40) * 0x40 + v / 64 % 0x40) * 0x40 + v % 0x40 =
      v := by omega
  have first := advance_four (v / 262144) (by omega)
  -- the range of the second byte keeps out long forms and numbers beyond the last code point
  have second := @advance_more (v / 262144) _ _ _
    (Nat.mod_lt (v / 4096) (show 0x40 > 0 by decide))
    (show (if v / 262144 = 0 then 0x90 else 0x80 : UInt8).toNat ≤ _ by
      split
      · exact (show 0x90 ≤ _ by omega)
      · exact (show 0x80 ≤ _ by omega))
    (show _ ≤ (if v / 262144 = 4 then 0x8F else 0xBF : UInt8).toNat by
      split
      · exact (show _ ≤ 0x8F by omega)
      · exact (show _ ≤ 0xBF by omega)) 1
  have third : advance (some ⟨v / 262144 * 0x40 + v / 4096 % 0x40, 2, 0x80, 0xBF⟩)
      (UInt8.ofNat (v / 64 % 0x40 + 0x80)) = _ :=
    advance_more (Nat.mod_lt _ (by decide)) (show 0x80 ≤ _ by omega) (show _ ≤ 0xBF by omega) 0
  have fourth : advance
      (some ⟨(v / 262144 * 0x40 + v / 4096 % 0x40) * 0x40 + v / 64 % 0x40, 1, 0x80, 0xBF⟩)
      (UInt8.ofNat (v % 0x40 + 0x80)) = _ :=
    advance_last (Nat.mod_lt _ (by decide)) (show 0x80 ≤ _ by omega) (show _ ≤ 0xBF by omega)
  rw [lead, decodeAfter_step first, decodeAfter_step second, decodeAfter_step third,
    decodeAfter_step fourth, whole]
  rfl

/-- The bytes of one character are read as that character. -/
private theorem decodeAfter_utf8EncodeChar (c : Char) :
    decodeAfter before none (String.utf8EncodeChar c ++ bytes) =
      decodeAfter (c :: before) none bytes := by
  have valid : c.val.toNat < 0xD800 ∨ 0xDFFF < c.val.toNat ∧ c.val.toNat < 0x110000 := c.valid
  have same : Char.ofNat c.val.toNat = c := Char.ofNat_toNat c
  simp only [String.utf8EncodeChar]
  generalize c.val.toNat = v at valid same
  subst same
  split
  · exact decodeAfter_one before bytes ‹_›
  split
  · exact decodeAfter_two before bytes (by omega) ‹_›
  split
  · exact decodeAfter_three before bytes (by omega) ‹_› (by omega)
  · exact decodeAfter_four before bytes (by omega) (by omega)

end Character

private theorem decodeAfter_encode (before cs : List Char) :
    decodeAfter before none (encode cs) = before.reverse ++ cs := by
  induction cs generalizing before with
  | nil => exact (List.append_nil _).symm
  | cons c cs ih =>
    rw [encode, List.flatMap_cons, decodeAfter_utf8EncodeChar]
    rw [encode] at ih
    rw [ih, List.reverse_cons, List.append_assoc, List.singleton_append]

/-- Reading what was written for a text gives the text. -/
@[simp] theorem decode_encode (cs : List Char) : decode (encode cs) = cs :=
  decodeAfter_encode [] cs

/-- Bytes are well formed when some text is written that way. -/
theorem isWellFormed_iff (bytes : List UInt8) :
    isWellFormed bytes = true ↔ ∃ cs, encode cs = bytes := by
  rw [isWellFormed, beq_iff_eq]
  constructor
  · exact fun same => ⟨_, same⟩
  · rintro ⟨cs, rfl⟩
    rw [decode_encode]

theorem encode_append (first second : List Char) :
    encode (first ++ second) = encode first ++ encode second :=
  List.flatMap_append

/-- Bytes with nothing behind their last line feed. -/
def Ended (bytes : List UInt8) : Prop :=
  bytes = [] ∨ ∃ body, bytes = body ++ [0x0A]

/-- A character is written as one byte below 128, or as bytes from 128 on only. -/
theorem ascii_or_high (c : Char) :
    (String.utf8EncodeChar c = [UInt8.ofNat c.val.toNat] ∧ c.val.toNat < 0x80) ∨
      ∀ b ∈ String.utf8EncodeChar c, 0x80 ≤ b.toNat := by
  simp only [String.utf8EncodeChar]
  generalize c.val.toNat = v
  split
  · exact Or.inl ⟨rfl, by omega⟩
  refine Or.inr fun b mem => ?_
  split at mem
  · simp only [List.mem_cons, List.not_mem_nil, or_false] at mem
    rcases mem with rfl | rfl <;> rw [UInt8.toNat_ofNat'] <;> omega
  split at mem
  · simp only [List.mem_cons, List.not_mem_nil, or_false] at mem
    rcases mem with rfl | rfl | rfl <;> rw [UInt8.toNat_ofNat'] <;> omega
  · simp only [List.mem_cons, List.not_mem_nil, or_false] at mem
    rcases mem with rfl | rfl | rfl | rfl <;> rw [UInt8.toNat_ofNat'] <;> omega

/-- The byte of a line feed stands for a line feed only. -/
theorem eq_feed_of_mem {c : Char} (mem : 0x0A ∈ String.utf8EncodeChar c) : c = '\n' := by
  rcases ascii_or_high c with ⟨single, below⟩ | high
  · rw [single] at mem
    have value := congrArg UInt8.toNat (List.mem_singleton.mp mem)
    rw [UInt8.toNat_ofNat', Nat.mod_eq_of_lt (by omega)] at value
    have same : Char.ofNat c.val.toNat = c := Char.ofNat_toNat c
    rw [← same, ← value]
    rfl
  · exact absurd (high _ mem) (by decide)

/-- What is written with nothing behind its last line feed has nothing behind its last line feed. -/
theorem ended_encode {cs : List Char} (ended : cs = [] ∨ ∃ body, cs = body ++ ['\n']) :
    Ended (encode cs) := by
  rcases ended with rfl | ⟨body, rfl⟩
  · exact Or.inl rfl
  · exact Or.inr ⟨encode body, encode_append body ['\n']⟩

theorem encode_cons (c : Char) (cs : List Char) :
    encode (c :: cs) = String.utf8EncodeChar c ++ encode cs :=
  List.flatMap_cons

private theorem Ended.tail {first second : List UInt8} (ended : Ended (first ++ second)) :
    Ended second := by
  rcases ended with none | ⟨body, whole⟩
  · exact Or.inl (List.append_eq_nil_iff.mp none).2
  · rcases List.append_eq_append_iff.mp whole with ⟨middle, -, last⟩ | ⟨middle, -, last⟩
    · exact Or.inr ⟨middle, last⟩
    · cases middle with
      | nil => exact Or.inr ⟨[], last.symm⟩
      | cons b middle =>
        have rest : middle ++ second = [] := (List.cons_eq_cons.mp last).2.symm
        exact Or.inl (List.append_eq_nil_iff.mp rest).2

/-- Where the bytes of a text are cut behind a line feed, the text can be cut. -/
theorem encode_eq_append {cs : List Char} {first second : List UInt8} (ended : Ended first)
    (whole : encode cs = first ++ second) :
    ∃ before after, cs = before ++ after ∧ encode before = first ∧ encode after = second := by
  induction cs generalizing first with
  | nil =>
    obtain ⟨rfl, rfl⟩ := List.append_eq_nil_iff.mp whole.symm
    exact ⟨[], [], rfl, rfl, rfl⟩
  | cons c cs ih =>
    rw [encode_cons] at whole
    rcases List.append_eq_append_iff.mp whole with ⟨middle, rfl, rest⟩ | ⟨middle, head, rest⟩
    · -- the cut is behind the first character
      obtain ⟨before, after, rfl, inMiddle, behind⟩ := ih ended.tail rest
      exact ⟨c :: before, after, rfl, by rw [encode_cons, inMiddle], behind⟩
    · rcases ended with rfl | ⟨body, rfl⟩
      · exact ⟨[], c :: cs, rfl, rfl, by rw [encode_cons, head, rest, List.nil_append]⟩
      · -- a line feed within the first character is all of it
        obtain rfl : c = '\n' := eq_feed_of_mem (head ▸ by simp)
        have size := congrArg List.length head
        have one : (String.utf8EncodeChar '\n').length = 1 := rfl
        simp only [one, List.length_append, List.length_singleton] at size
        obtain rfl : body = [] := List.length_eq_zero_iff.mp (by omega)
        obtain rfl : middle = [] := List.length_eq_zero_iff.mp (by omega)
        exact ⟨['\n'], cs, rfl, rfl, rest.symm⟩

theorem isWellFormed_encode (cs : List Char) : isWellFormed (encode cs) = true :=
  (isWellFormed_iff _).mpr ⟨cs, rfl⟩

/-- Bytes that are cut behind a line feed are well formed when both parts are. -/
theorem isWellFormed_append {first second : List UInt8} (ended : Ended first) :
    isWellFormed (first ++ second) = true ↔
      isWellFormed first = true ∧ isWellFormed second = true := by
  constructor
  · intro whole
    obtain ⟨cs, same⟩ := (isWellFormed_iff _).mp whole
    obtain ⟨before, after, -, rfl, rfl⟩ := encode_eq_append ended same
    exact ⟨isWellFormed_encode before, isWellFormed_encode after⟩
  · rintro ⟨left, right⟩
    obtain ⟨before, rfl⟩ := (isWellFormed_iff _).mp left
    obtain ⟨after, rfl⟩ := (isWellFormed_iff _).mp right
    rw [← encode_append]
    exact isWellFormed_encode (before ++ after)

private theorem length_start (b : UInt8) :
    (start b).1.length + (start b).2.toList.length ≤ 1 := by
  simp only [start]
  repeat' split
  all_goals simp

private theorem length_advance (pending : Option Pending) (b : UInt8) :
    (advance pending b).1.length + (advance pending b).2.toList.length ≤
      1 + pending.toList.length := by
  have first := length_start b
  cases pending with
  | none => exact first
  | some pending =>
    simp only [advance]
    split
    · split
      · simp
      · simp
    · simp only [List.length_cons, Option.toList_some]
      omega

private theorem length_decodeAfter (before : List Char) (pending : Option Pending)
    (bytes : List UInt8) :
    (decodeAfter before pending bytes).length ≤
      before.length + pending.toList.length + bytes.length := by
  induction bytes generalizing before pending with
  | nil => cases pending <;> simp [decodeAfter]
  | cons b bytes ih =>
    have step := length_advance pending b
    have rest := ih ((advance pending b).1.reverse ++ before) (advance pending b).2
    rw [decodeAfter_step (Prod.eta (advance pending b)).symm]
    simp only [List.length_append, List.length_reverse, List.length_cons] at rest ⊢
    omega

/-- A text has at most as many characters as bytes. -/
theorem length_decode_le (bytes : List UInt8) : (decode bytes).length ≤ bytes.length := by
  have whole := length_decodeAfter [] none bytes
  rwa [List.length_nil, Option.toList_none, List.length_nil, Nat.zero_add] at whole

end DocMend.Text.Utf8
