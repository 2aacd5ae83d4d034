import DocMend.Json.Writer
import DocMend.Proofs.Text.Utf8
import DocMend.Shell.Octets
/-!
Texts between double quotation marks, by the rules of the POSIX shell. A backslash escapes a dollar sign,
a backquote, a quotation mark, another backslash and a line end; before any other character it stands for
itself. A dollar sign or a backquote that is not escaped begins an expansion.

A JSON string is such a text. It escapes quotation marks and backslashes as the shell does, but it leaves
dollar signs and backquotes alone, and its escapes of control characters are plain text for the shell.
-/

set_option autoImplicit false
set_option relaxedAutoImplicit false

namespace DocMend.Shell

/-- What holds of all characters of a list is told by these characters. -/
instance (priority := high) decidableForallMem (p : Char → Prop) [DecidablePred p] (cs : List Char) :
    Decidable (∀ c ∈ cs, p c) :=
  List.decidableBAll p cs

namespace Octets

theorem ofText_append (first second : String) :
    ofText (first ++ second) = ofText first ++ ofText second := by
  simp only [ofText, String.toList_append, Text.Utf8.encode_append, ofBytes, List.map_append]

theorem toNat_ofNat : ∀ n < 256, (Char.ofNat n).toNat = n := by
  decide +kernel

theorem toBytes_ofBytes (bytes : List UInt8) : toBytes (ofBytes bytes) = bytes := by
  rw [toBytes, ofBytes, List.map_map]
  refine (List.map_congr_left fun b _ => ?_).trans (List.map_id bytes)
  simp only [Function.comp_apply, toNat_ofNat b.toNat b.toNat_lt, UInt8.ofNat_toNat, id]

/-- The bytes of a text are those of that text. -/
theorem toText_ofText (text : String) : toText (ofText text) = text := by
  rw [toText, ofText, toBytes_ofBytes, Text.Utf8.decode_encode, String.ofList_toList]

/-- The bytes of some characters. -/
def ofChars (cs : List Char) : Octets :=
  ofBytes (Text.Utf8.encode cs)

theorem ofText_eq (text : String) : ofText text = ofChars text.toList :=
  rfl

theorem ofChars_append (first second : List Char) :
    ofChars (first ++ second) = ofChars first ++ ofChars second := by
  simp only [ofChars, Text.Utf8.encode_append, ofBytes, List.map_append]

theorem ofChars_cons (c : Char) (cs : List Char) : ofChars (c :: cs) = ofChars [c] ++ ofChars cs :=
  ofChars_append [c] cs

/-- A character of ASCII is its own byte. -/
theorem ofChars_singleton {c : Char} (ascii : c.toNat < 128) : ofChars [c] = [c] := by
  have low : c.val.toNat ≤ 127 := Nat.le_of_lt_succ ascii
  have byte : c.val.toNat < 2 ^ 8 := Nat.lt_of_le_of_lt low (by decide)
  rw [ofChars, Text.Utf8.encode, List.flatMap_singleton, String.utf8EncodeChar, if_pos low, ofBytes,
    List.map_singleton, UInt8.toNat_ofNat', Nat.mod_eq_of_lt byte]
  exact congrArg ([·]) (Char.ofNat_toNat c)

/-- All bytes of a character beyond ASCII are beyond ASCII. -/
theorem high_of_mem_ofChars {c d : Char} (high : 128 ≤ c.toNat) (mem : d ∈ ofChars [c]) :
    128 ≤ d.toNat := by
  rw [ofChars, Text.Utf8.encode, List.flatMap_singleton] at mem
  obtain ⟨b, written, rfl⟩ := List.mem_map.mp mem
  rw [toNat_ofNat b.toNat b.toNat_lt]
  rcases Text.Utf8.ascii_or_high c with ⟨-, low⟩ | all
  · exact absurd high (Nat.not_le.mpr low)
  · exact all b written

theorem ofChars_ascii {cs : List Char} (ascii : ∀ c ∈ cs, c.toNat < 128) : ofChars cs = cs := by
  induction cs with
  | nil => rfl
  | cons c cs ih =>
    rw [ofChars_cons, ih fun d mem => ascii d (by simp [mem]), ofChars_singleton (ascii c (by simp)),
      List.singleton_append]

theorem ofChars_inj {first second : List Char} (same : ofChars first = ofChars second) :
    first = second := by
  have bytes := congrArg toBytes same
  rw [ofChars, ofChars, toBytes_ofBytes, toBytes_ofBytes] at bytes
  rw [← Text.Utf8.decode_encode first, bytes, Text.Utf8.decode_encode]

/-- Characters that are no control characters have no bytes that are. -/
theorem visible_ofChars {cs : List Char} (visible : ∀ c ∈ cs, 0x20 ≤ c.toNat) :
    ∀ d ∈ ofChars cs, 0x20 ≤ d.toNat := by
  induction cs with
  | nil => exact fun _ mem => nomatch mem
  | cons c cs ih =>
    rw [List.forall_mem_cons] at visible
    rw [ofChars_cons, List.forall_mem_append]
    refine ⟨fun d mem => ?_, ih visible.2⟩
    by_cases ascii : c.toNat < 128
    · rw [ofChars_singleton ascii, List.mem_singleton] at mem
      exact mem ▸ visible.1
    · exact Nat.le_trans (by decide) (high_of_mem_ofChars (Nat.le_of_not_lt ascii) mem)

end Octets

/-- What a text comes to that is read from behind an opening quotation mark: a text up to the closing one
and what follows, an expansion, or no end. -/
inductive Quotation where
  | closed (text after : Octets)
  | expands
  | unclosed
deriving DecidableEq, Repr

namespace Quotation

/-- Puts a text before one that was read. -/
def prepend (before : Octets) : Quotation → Quotation
  | closed text after => closed (before ++ text) after
  | expands => expands
  | unclosed => unclosed

/-- Reads a text from behind an opening quotation mark. -/
def read : Octets → Quotation
  | [] => unclosed
  | ['\\'] => unclosed
  | '\\' :: c :: rest =>
    if c = '\n' then read rest
    else if c = '$' ∨ c = '\x60' ∨ c = '"' ∨ c = '\\' then (read rest).prepend [c]
    else (read rest).prepend ['\\', c]
  | c :: rest =>
    if c = '"' then closed [] rest
    else if c = '$' ∨ c = '\x60' then expands
    else (read rest).prepend [c]

/-- Whether a character stands for itself between quotation marks, whatever follows it. -/
def IsPlain (c : Char) : Prop :=
  c ≠ '"' ∧ c ≠ '\\' ∧ c ≠ '$' ∧ c ≠ '\x60'

instance (c : Char) : Decidable (IsPlain c) :=
  inferInstanceAs (Decidable (_ ∧ _))

theorem isPlain_of_high {c : Char} (high : 128 ≤ c.toNat) : IsPlain c := by
  have differ {d : Char} (low : d.toNat < 128) : c ≠ d := by
    rintro rfl
    omega
  exact ⟨differ (by decide), differ (by decide), differ (by decide), differ (by decide)⟩

theorem prepend_prepend (first second : Octets) (quotation : Quotation) :
    (quotation.prepend second).prepend first = quotation.prepend (first ++ second) := by
  cases quotation with
  | closed text after => rw [prepend, prepend, prepend, List.append_assoc]
  | expands => rfl
  | unclosed => rfl

theorem prepend_nil (quotation : Quotation) : quotation.prepend [] = quotation := by
  cases quotation <;> rfl

/-- A text that was put together with what is before it. -/
theorem eq_closed_of_prepend {before text after : Octets} {quotation : Quotation}
    (closed : quotation.prepend before = .closed text after) :
    ∃ rest, quotation = .closed rest after ∧ text = before ++ rest := by
  cases quotation with
  | closed rest behind =>
    obtain ⟨rfl, rfl⟩ := Quotation.closed.inj closed
    exact ⟨rest, rfl, rfl⟩
  | expands => exact nomatch closed
  | unclosed => exact nomatch closed

theorem read_plain {c : Char} (plain : IsPlain c) (rest : Octets) :
    read (c :: rest) = (read rest).prepend [c] := by
  obtain ⟨quote, slash, dollar, backquote⟩ := plain
  rw [read]
  · simp [quote, dollar, backquote]
  · exact fun same => absurd same slash
  · exact fun _ _ same => absurd same slash

/-- Plain characters are read as they stand. -/
theorem read_plain_append {cs : Octets} (plain : ∀ c ∈ cs, IsPlain c) (rest : Octets) :
    read (cs ++ rest) = (read rest).prepend cs := by
  induction cs with
  | nil => rw [List.nil_append, prepend_nil]
  | cons c cs ih =>
    rw [List.cons_append, read_plain (plain c (by simp)), ih fun d mem => plain d (by simp [mem]),
      prepend_prepend, List.singleton_append]

/-- How a character is spelled that was written in a JSON string and read between quotation marks: a
control character as its escape. -/
def spelled (c : Char) : List Char :=
  if c.toNat < 0x20 then Json.escaped c else [c]

/-- The escape of a control character is a backslash before characters that are plain. -/
theorem escaped_control : ∀ n < 0x20,
    Json.escaped (Char.ofNat n) = '\\' :: (Json.escaped (Char.ofNat n)).tail ∧
    (Json.escaped (Char.ofNat n)).tail ≠ [] ∧
    ∀ c ∈ (Json.escaped (Char.ofNat n)).tail, IsPlain c ∧ c ≠ '\n' ∧ c.toNat < 128 := by
  decide +kernel

/-- A backslash before a plain character is read as it stands, unless a line ends there. -/
theorem read_slash_plain {c : Char} (plain : IsPlain c) (inLine : c ≠ '\n') (rest : Octets) :
    read ('\\' :: c :: rest) = (read rest).prepend ['\\', c] := by
  obtain ⟨quote, slash, dollar, backquote⟩ := plain
  rw [read]
  simp [inLine, quote, slash, dollar, backquote]

theorem escaped_self {c : Char} (quote : c ≠ '"') (slash : c ≠ '\\') (control : ¬c.toNat < 0x20) :
    Json.escaped c = [c] := by
  have differ {d : Char} (low : d.toNat < 0x20) : c ≠ d := by
    rintro rfl
    exact control low
  rw [Json.escaped, if_neg quote, if_neg slash, if_neg (differ (by decide)), if_neg (differ (by decide)),
    if_neg (differ (by decide)), if_neg (differ (by decide)), if_neg (differ (by decide)),
    if_neg control]

/-- A JSON string has no control characters. -/
theorem escaped_visible (c : Char) : ∀ d ∈ Json.escaped c, 0x20 ≤ d.toNat := by
  have control : ∀ n < 0x20, ∀ d ∈ Json.escaped (Char.ofNat n), 0x20 ≤ d.toNat := by
    decide +kernel
  by_cases low : c.toNat < 0x20
  · rw [← Char.ofNat_toNat c]
    exact control c.toNat low
  by_cases quote : c = '"'
  · subst quote
    decide
  by_cases slash : c = '\\'
  · subst slash
    decide
  rw [escaped_self quote slash low]
  exact fun d mem => List.mem_singleton.mp mem ▸ Nat.le_of_not_lt low

/-- What one character of a JSON string is read as: a dollar sign or a backquote begins an expansion,
and every other one is read as it is spelled. -/
theorem read_escaped (c : Char) (rest : Octets) :
    read (Octets.ofChars (Json.escaped c) ++ rest) =
      if c = '$' ∨ c = '\x60' then expands
      else (read rest).prepend (Octets.ofChars (spelled c)) := by
  by_cases control : c.toNat < 0x20
  · have ordinary : ¬(c = '$' ∨ c = '\x60') := by
      rintro (rfl | rfl) <;> exact absurd control (by decide)
    obtain ⟨slash, more, plain⟩ := escaped_control c.toNat control
    rw [Char.ofNat_toNat] at slash more plain
    have ascii : ∀ d ∈ Json.escaped c, d.toNat < 128 := by
      rw [slash]
      rintro d (_ | ⟨_, mem⟩)
      · decide
      · exact (plain d mem).2.2
    rw [if_neg ordinary, spelled, if_pos control, Octets.ofChars_ascii ascii]
    cases tail : (Json.escaped c).tail with
    | nil => exact absurd tail more
    | cons d cs =>
      rw [slash, tail]
      rw [tail] at plain
      have first := plain d (by simp)
      rw [List.cons_append, List.cons_append, read_slash_plain first.1 first.2.1,
        read_plain_append fun e mem => (plain e (by simp [mem])).1, prepend_prepend]
      rfl
  · rw [spelled, if_neg control]
    by_cases quote : c = '"'
    · subst quote
      rfl
    by_cases slash : c = '\\'
    · subst slash
      rfl
    rw [escaped_self quote slash control]
    by_cases begins : c = '$' ∨ c = '\x60'
    · rw [if_pos begins]
      rcases begins with rfl | rfl <;> rfl
    · rw [if_neg begins]
      have plain : IsPlain c :=
        ⟨quote, slash, fun same => begins (.inl same), fun same => begins (.inr same)⟩
      refine read_plain_append (fun d mem => ?_) rest
      by_cases ascii : c.toNat < 128
      · rw [Octets.ofChars_singleton ascii, List.mem_singleton] at mem
        exact mem ▸ plain
      · exact isPlain_of_high (Octets.high_of_mem_ofChars (Nat.le_of_not_lt ascii) mem)

/-- What a JSON string is read as, from behind its opening quotation mark: an expansion begins exactly
where it has a dollar sign or a backquote. -/
theorem read_string (cs : List Char) (rest : Octets) :
    read (Octets.ofChars (cs.flatMap Json.escaped) ++ '"' :: rest) =
      if '$' ∈ cs ∨ '\x60' ∈ cs then expands
      else closed (Octets.ofChars (cs.flatMap spelled)) rest := by
  induction cs with
  | nil => rfl
  | cons c cs ih =>
    rw [List.flatMap_cons, List.flatMap_cons, Octets.ofChars_append, List.append_assoc, read_escaped,
      ih, Octets.ofChars_append]
    by_cases first : c = '$' ∨ c = '\x60'
    · have here : '$' ∈ c :: cs ∨ '\x60' ∈ c :: cs := by
        rcases first with rfl | rfl <;> simp
      rw [if_pos first, if_pos here]
    · have later : ('$' ∈ c :: cs ∨ '\x60' ∈ c :: cs) ↔ '$' ∈ cs ∨ '\x60' ∈ cs := by
        rw [not_or] at first
        simp [Ne.symm first.1, Ne.symm first.2]
      simp only [if_neg first, later]
      split
      · rfl
      · rfl

theorem length_le_spelled (cs : List Char) : cs.length ≤ (cs.flatMap spelled).length := by
  induction cs with
  | nil => exact Nat.zero_le _
  | cons c cs ih =>
    have first : 1 ≤ (spelled c).length := by
      rw [spelled]
      split
      · rename_i control
        have slash := (escaped_control c.toNat control).1
        rw [Char.ofNat_toNat] at slash
        rw [slash]
        exact Nat.succ_pos _
      · exact Nat.le_refl 1
    rw [List.flatMap_cons, List.length_append, List.length_cons]
    omega

/-- A text is spelled as it is exactly if it has no control characters. -/
theorem spelled_eq_self_iff (cs : List Char) :
    cs.flatMap spelled = cs ↔ ∀ c ∈ cs, 0x20 ≤ c.toNat := by
  induction cs with
  | nil => simp
  | cons c cs ih =>
    rw [List.flatMap_cons, List.forall_mem_cons]
    by_cases control : c.toNat < 0x20
    · obtain ⟨slash, more, -⟩ := escaped_control c.toNat control
      rw [Char.ofNat_toNat] at slash more
      refine iff_of_false (fun same => ?_) fun all => Nat.not_le.mpr control all.1
      have longer := congrArg List.length same
      have rest := length_le_spelled cs
      have some := List.length_pos_iff.mpr more
      rw [spelled, if_pos control, slash, List.length_append, List.length_cons, List.length_cons]
        at longer
      omega
    · rw [spelled, if_neg control, List.singleton_append, List.cons_inj_right, ih]
      exact (and_iff_right (Nat.le_of_not_lt control)).symm

end Quotation

end DocMend.Shell
