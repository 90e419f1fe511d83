import Mathlib
import Timeline.Proofs.DecimalText
import Timeline.Proofs.Extraction
/-!
# Reading the fields of a unit

A grammar reads a unit field by field: it skips spaces and tabs, then hands the
rest to the field's matcher. This module says what each matcher takes from a
text of the expected shape, and assembles the record of a whole unit from that.

* Blanks. `skipInlineBlanks` drops spaces (`skipInlineBlanks_replicate`) and
  stops at anything else (`skipInlineBlanks_of_head`), such as a numeral
  (`skipInlineBlanks_toDigits`).
* Matchers. A run of ASCII digits or letters ended by the text or by another
  character is taken whole (`apply_digits`, `apply_alpha`), and so is the
  numeral of a number that fits in 64 bits (`apply_integer_toDigits`) and a
  number padded to its width (`apply_digits_padded`); a
  literal is taken when it is there (`apply_literal`, `apply_literal_char`,
  `apply_skip_literal_char`);
  `until` takes the text before the first delimiter (`apply_until`); `rest`
  takes everything (`apply_rest`).
* Units. `FieldsRead` lists what each field of a grammar takes, in order, and
  `applyFields_of_fieldsRead` gives the record of a unit so read.
* Times. A component of a time that the record holds, of the right kind and in
  range, is taken out of it (`run_takeBounded_of_get?`, `run_takeWord_of_get?`,
  `run_takeMonth_of_str`).
-/

namespace Timeline

/-! ## Blanks before a field -/

@[simp] theorem skipInlineBlanks_space (cs : List Char) :
    skipInlineBlanks (' ' :: cs) = skipInlineBlanks cs := by
  simp [skipInlineBlanks]

theorem skipInlineBlanks_replicate (n : Nat) (cs : List Char) :
    skipInlineBlanks (List.replicate n ' ' ++ cs) = skipInlineBlanks cs := by
  induction n with
  | zero => rfl
  | succ n ih => rw [List.replicate_succ, List.cons_append, skipInlineBlanks_space, ih]

/-- Skipping stops at a character that is neither a space nor a tab. -/
theorem skipInlineBlanks_of_head {cs : List Char} (h : ∀ c ∈ cs.head?, c ≠ ' ' ∧ c ≠ '\t') :
    skipInlineBlanks cs = cs := by
  cases cs with
  | nil => rfl
  | cons c cs =>
    obtain ⟨hs, ht⟩ := h c rfl
    simp [skipInlineBlanks, hs, ht]

/-- Skipping stops at the numeral of a number. -/
theorem skipInlineBlanks_toDigits (n : Nat) (rest : List Char) :
    skipInlineBlanks (Nat.toDigits 10 n ++ rest) = Nat.toDigits 10 n ++ rest := by
  obtain ⟨d, ds, hd⟩ := List.exists_cons_of_ne_nil (Nat.toDigits_ne_nil (n := n) (b := 10))
  have hdigit : d.isDigit = true := Nat.isDigit_of_mem_toDigits (by decide) (by decide) (hd ▸ List.mem_cons_self)
  apply skipInlineBlanks_of_head
  rw [hd, List.cons_append, List.head?_cons]
  rintro c hc
  cases hc
  constructor <;> rintro rfl <;> simp at hdigit

/-! ## Matchers -/

/-- A run of characters that pass a test, no longer than a bound, ended by the
bound or by a character that fails the test, is what a bounded run takes. -/
theorem takeWhile_take_append {p : Char → Bool} {ws rest : List Char} {hi : Nat}
    (hw : ∀ c ∈ ws, p c = true) (hhi : ws.length ≤ hi)
    (hstop : ws.length = hi ∨ ∀ c ∈ rest.head?, p c = false) :
    ((ws ++ rest).take hi).takeWhile p = ws := by
  rw [List.take_append, List.take_of_length_le hhi, List.takeWhile_append_of_pos hw]
  rcases hstop with h | h
  · simp [h]
  · cases rest with
    | nil => simp
    | cons c rest =>
      cases hk : hi - ws.length with
      | zero => simp
      | succ k => simp [h c rfl]

theorem apply_digits {ds rest : List Char} {lo hi : Nat} (hd : ∀ c ∈ ds, c.isDigit = true)
    (hne : ds ≠ []) (hlo : lo ≤ ds.length) (hhi : ds.length ≤ hi)
    (hstop : ds.length = hi ∨ ∀ c ∈ rest.head?, c.isDigit = false)
    (hfit : (Nat.ofDigitChars 10 ds 0 : Int) ≤ Number.int64Max) :
    (Matcher.digits lo hi).apply (ds ++ rest) = .ok (.int (Nat.ofDigitChars 10 ds 0), rest) := by
  have hrun : ((ds ++ rest).take hi).takeWhile isAsciiDigit = ds :=
    takeWhile_take_append hd hhi hstop
  simp only [Matcher.apply, hrun, Text.readInt64?_of_digits hne hd hfit, List.drop_left]
  rw [if_neg (by omega)]

/-- An ASCII digit is a decimal digit. -/
theorem isDecimalDigit_of_isDigit {c : Char} (h : c.isDigit = true) : Text.Unicode.isDecimalDigit c = true := by
  have := Text.toNat_of_isDigit h
  rw [Text.Unicode.isDecimalDigit, if_pos (by omega), h]

/-- A number padded to `w` digits, `w` from 1 to 18, is read whole by a field
of exactly `w` digits. -/
theorem apply_digits_padded {w n : Nat} (hw : 0 < w) (hw18 : w ≤ 18) (hn : n < 10 ^ w) (rest : List Char) :
    (Matcher.digits w w).apply ((Text.padded w n).toList ++ rest) = .ok (.int n, rest) := by
  have hlen := Text.length_padded hw hn
  have hpow : 10 ^ w ≤ 10 ^ 18 := Nat.pow_le_pow_right (by decide) hw18
  have h : (Matcher.digits w w).apply ((Text.padded w n).toList ++ rest) =
      .ok (.int (Nat.ofDigitChars 10 (Text.padded w n).toList 0), rest) :=
    apply_digits (fun c hc => Text.isDigit_of_mem_padded hc) (List.ne_nil_of_length_pos (by omega))
      (by omega) (by omega) (.inl hlen)
      (by rw [Text.ofDigitChars_padded]; simp only [Number.int64Max]; omega)
  rwa [Text.ofDigitChars_padded] at h

/-- A decimal numeral is made of ASCII digits. -/
theorem isDigit_of_mem_toDigits_ten {n : Nat} {c : Char} (h : c ∈ Nat.toDigits 10 n) : c.isDigit = true :=
  Nat.isDigit_of_mem_toDigits (by decide) (by decide) h

/-- A character that is no digit is in no decimal numeral. -/
theorem not_mem_toDigits_ten_of_not_isDigit {x : Char} (hx : x.isDigit = false) {n : Nat} :
    x ∉ Nat.toDigits 10 n := fun h => by
  rw [isDigit_of_mem_toDigits_ten h] at hx
  cases hx

/-- Nor is it among padded digits. -/
theorem not_mem_padded_of_not_isDigit {x : Char} (hx : x.isDigit = false) {w n : Nat} :
    x ∉ (Text.padded w n).toList := fun h => by
  rw [Text.isDigit_of_mem_padded h] at hx
  cases hx

/-- The numeral of a number that fits in 64 bits, ended by the text or by a
character that is no digit, is read whole as the number. -/
theorem apply_integer_toDigits_of_head {n : Nat} (hn : (n : Int) ≤ Number.int64Max) {rest : List Char}
    (hrest : ∀ x ∈ rest.head?, x.isDigit = false) :
    Matcher.integer.apply (Nat.toDigits 10 n ++ rest) = .ok (.int n, rest) := by
  have hlen : (Nat.toDigits 10 n).length ≤ 19 :=
    (Nat.length_toDigits_le_iff (by decide) (by decide)).mpr (by simp only [Number.int64Max] at hn; omega)
  have hfit : (Nat.ofDigitChars 10 (Nat.toDigits 10 n) 0 : Int) ≤ Number.int64Max := by
    rw [Nat.ofDigitChars_ten_toDigits]
    exact hn
  have h : (Matcher.digits 1 wordMax).apply (Nat.toDigits 10 n ++ rest) = _ :=
    apply_digits (fun c hc => isDigit_of_mem_toDigits_ten hc) Nat.toDigits_ne_nil
      (List.length_pos_iff.mpr Nat.toDigits_ne_nil) (by simp only [wordMax]; omega) (.inr hrest) hfit
  rwa [Nat.ofDigitChars_ten_toDigits] at h

/-- The numeral of a number that fits in 64 bits, ended by a character that is
no digit, is read whole as the number. -/
theorem apply_integer_toDigits {n : Nat} (hn : (n : Int) ≤ Number.int64Max) {x : Char}
    (hx : x.isDigit = false) (rest : List Char) :
    Matcher.integer.apply (Nat.toDigits 10 n ++ x :: rest) = .ok (.int n, x :: rest) :=
  apply_integer_toDigits_of_head hn fun c hc => by cases hc; exact hx

theorem apply_alpha {ws rest : List Char} {lo hi : Nat} (hw : ∀ c ∈ ws, c.isAlpha = true)
    (hlo : lo ≤ ws.length) (hhi : ws.length ≤ hi)
    (hstop : ws.length = hi ∨ ∀ c ∈ rest.head?, c.isAlpha = false) :
    (Matcher.alpha lo hi).apply (ws ++ rest) = .ok (.str (String.ofList ws), rest) := by
  have hrun : ((ws ++ rest).take hi).takeWhile isAsciiAlpha = ws :=
    takeWhile_take_append hw hhi hstop
  simp only [Matcher.apply, hrun, List.drop_left]
  rw [if_neg (by omega)]

theorem apply_literal (t : String) (rest : List Char) :
    (Matcher.literal t).apply (t.toList ++ rest) = .ok (.str t, rest) := by
  simp [Matcher.apply, List.isPrefixOf_iff_prefix, String.length_toList]

/-- A literal of one character is taken when that character comes next. -/
theorem apply_literal_char {t : String} {x : Char} (ht : t.toList = [x]) (rest : List Char) :
    (Matcher.literal t).apply (x :: rest) = .ok (.str t, rest) := by
  have h := apply_literal t rest
  rwa [ht, List.singleton_append] at h

/-- Nor is a blank skipped before it, when the character is none. -/
theorem apply_skip_literal_char {t : String} {x : Char} (ht : t.toList = [x]) (hx : x ≠ ' ' ∧ x ≠ '\t')
    (rest : List Char) : (Matcher.literal t).apply (skipInlineBlanks (x :: rest)) = .ok (.str t, rest) := by
  rw [skipInlineBlanks_of_head (by simpa using hx)]
  exact apply_literal_char ht rest

/-- The first occurrence of a one-character delimiter is after the text before it. -/
theorem findText_singleton {x : Char} {f : List Char} (rest : List Char) (hf : x ∉ f) :
    findText [x] (f ++ x :: rest) = some f.length := by
  induction f with
  | nil => simp [findText]
  | cons c f ih =>
    have hc : x ≠ c := fun h => hf (h ▸ List.mem_cons_self)
    rw [List.cons_append, findText, ih (fun h => hf (List.mem_cons_of_mem _ h))]
    simp [hc]

theorem apply_until {d : String} {x : Char} (hd : d.toList = [x]) {f : List Char} (rest : List Char)
    (hf : x ∉ f) (hne : f ≠ []) :
    (Matcher.until d).apply (f ++ x :: rest) = .ok (.str (String.ofList f), x :: rest) := by
  obtain ⟨c, cs, rfl⟩ := List.exists_cons_of_ne_nil hne
  simp only [Matcher.apply, hd, findText_singleton rest hf, List.length_cons]
  simp

theorem apply_rest (allowEmpty : Bool) (input : List Char) (h : allowEmpty = true ∨ input ≠ []) :
    (Matcher.rest allowEmpty).apply input = .ok (.str (String.ofList input), []) := by
  rcases h with rfl | h
  · simp [Matcher.apply]
  · simp [Matcher.apply, h]

/-! ## Reading a unit -/

/-- What the fields of a grammar take from a text, in order: each field's matcher
reads what is left after the blanks, and the record gets its value unless it
is suppressed. `FieldsRead fields input record final rest` reads `input` into
`record`, giving `final` and leaving `rest`. -/
inductive FieldsRead : List FieldSpec → List Char → Record → Record → List Char → Prop
  | nil (input : List Char) (record : Record) : FieldsRead [] input record record input
  | cons {f : FieldSpec} {fs : List FieldSpec} {input after rest : List Char} {v : FieldValue}
      {record final : Record}
      (hf : f.matcher.apply (skipInlineBlanks input) = .ok (v, after))
      (hfs : FieldsRead fs after (if f.suppress then record else record.insert f.name v) final rest) :
      FieldsRead (f :: fs) input record final rest

theorem readFields_of_fieldsRead {fields : List FieldSpec} {input rest : List Char}
    {record final : Record} (h : FieldsRead fields input record final rest) (offset : Nat) :
    ∃ offset', readFields fields input offset record = .ok (final, rest, offset') := by
  induction h generalizing offset with
  | nil input record => exact ⟨offset, rfl⟩
  | cons hf _ ih =>
    obtain ⟨offset', h⟩ := ih _
    refine ⟨offset', ?_⟩
    rw [readFields]
    simp only [hf]
    exact h

/-- A unit whose fields read to `record`, leaving only white space, has that record. -/
theorem applyFields_of_fieldsRead {fields : List FieldSpec} {unit : String} {rest : List Char}
    {record : Record} (h : FieldsRead fields unit.toList NameMap.empty record rest)
    (hrest : Text.isBlank (String.ofList rest) = true) :
    applyFields fields unit = .ok record := by
  obtain ⟨offset, hread⟩ := readFields_of_fieldsRead h 0
  simp [applyFields, hread, hrest, bind, Except.bind, pure, Except.pure]

/-! ## Taking the components of a time -/

section Components

variable {time c : String} {r : Record}

theorem run_takeBounded_of_get? {n lo hi : Int} (h : r.get? c = some (.int n)) (hb : lo ≤ n ∧ n ≤ hi) :
    (takeBounded time c lo hi).run r = .ok (n, r.erase c) := by
  have hint : (takeInt time c).run r = .ok (n, r.erase c) := by rw [run_takeInt, h]
  unfold takeBounded
  rw [run_bind_of_ok hint, if_pos hb]
  rfl

theorem run_takeWord_of_get? {n : Int} (h : r.get? c = some (.int n)) (hb : 0 ≤ n ∧ n ≤ 4294967295) :
    (takeWord time c).run r = .ok (n.toNat, r.erase c) := by
  unfold takeWord
  rw [StateT.run_map, run_takeBounded_of_get? h hb]
  rfl

theorem run_takeMonth_of_str {s : String} (h : r.get? c = some (.str s)) :
    (takeMonth time c).run r = .ok (.name s, r.erase c) := by
  rw [run_takeMonth, h]

end Components

end Timeline
