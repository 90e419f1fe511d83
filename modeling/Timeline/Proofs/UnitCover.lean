import Mathlib
import Timeline.Proofs.MatcherSpans
/-!
# A grammar covers its unit

A grammar reads a unit field by field and never backtracks: before each field
it skips the spaces and tabs at the cursor, then the field's matcher takes its
span. This module describes a successful read without running it, and shows
that the offsets a read reports are character boundaries of the unit.

* Blanks. `skipInlineBlanks` drops exactly the run of spaces and tabs at the
  start (`skipInlineBlanks_split`).
* Offsets. `utf8Length` counts the bytes of characters as a text does
  (`utf8Length_eq_utf8ByteSize`). A read keeps its offset at the byte length of
  what it has passed over, also where it fails (`readFields_ok_offset`,
  `readFields_error_offset`), so every offset it reports is a character
  boundary of the unit (`isValid_of_utf8Length`).
* Cover. `FieldsCover fields text values rest` splits `text` into, for each
  field, the maximal run of blanks before it and the span its matcher takes
  (`Matcher.Takes`), followed by `rest`. A read that succeeds covers what it
  read (`readFields_covers`).
* Records. `lastValue` is the value of the last recorded field of a name. The
  record of a read holds exactly these values (`readFields_covers`).

The main statement, `Grammar.apply_covers_unit`, says that every failure of
`Grammar.apply` names a character boundary of the unit as its offset, and that
a unit it reads is covered by the grammar's fields up to white space, with a
record that maps each recorded name to the value of the last field of that name
and holds no other name.
-/

namespace Timeline

/-! ## Blanks and offsets -/

/-- The spaces and tabs at the start, which a grammar skips before a field. -/
def inlineBlanks (cs : List Char) : List Char :=
  cs.takeWhile fun c => c == ' ' || c == '\t'

/-- The blanks skipped before a field are the maximal run of spaces and tabs at
the start. -/
theorem skipInlineBlanks_split (cs : List Char) :
    cs = inlineBlanks cs ++ skipInlineBlanks cs ∧ (∀ c ∈ inlineBlanks cs, c = ' ' ∨ c = '\t') ∧
      ∀ c ∈ (skipInlineBlanks cs).head?, c ≠ ' ' ∧ c ≠ '\t' := by
  refine ⟨List.takeWhile_append_dropWhile.symm, fun c hc => by simpa using List.mem_takeWhile_imp hc,
    fun c hc => ?_⟩
  have hstop := List.head?_dropWhile_not (fun c => c == ' ' || c == '\t') cs
  rw [show (cs.dropWhile fun c => c == ' ' || c == '\t').head? = some c from hc] at hstop
  simpa using hstop

/-- A field read from `rest` passes over the blanks and then the span its
matcher takes. -/
theorem rest_eq_of_field {rest span after : List Char} (hspan : skipInlineBlanks rest = span ++ after) :
    rest = inlineBlanks rest ++ span ++ after := by
  rw [List.append_assoc, ← hspan]
  exact (skipInlineBlanks_split rest).1

theorem utf8Length_append (a b : List Char) : utf8Length (a ++ b) = utf8Length a + utf8Length b := by
  induction a with
  | nil => simp [utf8Length]
  | cons c a ih =>
    simp only [utf8Length, List.cons_append, List.foldr_cons] at ih ⊢
    rw [ih, Nat.add_assoc]

/-- `utf8Length` counts the bytes of characters as a text does. -/
theorem utf8Length_eq_utf8ByteSize (cs : List Char) : utf8Length cs = (String.ofList cs).utf8ByteSize := by
  induction cs with
  | nil => rfl
  | cons c cs ih =>
    rw [show c :: cs = [c] ++ cs from rfl, utf8Length_append, ih, String.ofList_append,
      String.utf8ByteSize_append]
    simp [utf8Length, String.utf8ByteSize_singleton]

/-- The byte length of a start of a unit is a character boundary of the unit. -/
theorem isValid_of_utf8Length {u : String} {pre suf : List Char} (h : u.toList = pre ++ suf) :
    (⟨utf8Length pre⟩ : String.Pos.Raw).IsValid u := by
  refine String.Pos.Raw.isValid_iff_exists_append.mpr ⟨String.ofList pre, String.ofList suf, ?_, ?_⟩
  · rw [← String.ofList_append, ← h, String.ofList_toList]
  · rw [utf8Length_eq_utf8ByteSize]
    rfl

/-- A field read from `rest` at `offset` is tried at the offset after the blanks. -/
theorem offset_after_blanks (rest : List Char) (offset : Nat) :
    offset + utf8Length rest - utf8Length (skipInlineBlanks rest) = offset + utf8Length (inlineBlanks rest) := by
  have h := congrArg utf8Length (skipInlineBlanks_split rest).1
  rw [utf8Length_append] at h
  omega

/-- The next field is read at the offset after the blanks and the span. -/
theorem offset_after_field {rest span after : List Char} (offset : Nat)
    (hspan : skipInlineBlanks rest = span ++ after) :
    offset + utf8Length rest - utf8Length (skipInlineBlanks rest) + utf8Length (skipInlineBlanks rest) -
      utf8Length after = offset + utf8Length (inlineBlanks rest ++ span) := by
  rw [offset_after_blanks, hspan, utf8Length_append, utf8Length_append]
  omega

/-- A read that succeeds has passed over a start of what it was given, and its
offset has moved by the bytes of that start. -/
theorem readFields_ok_offset {fields : List FieldSpec} {rest rest' : List Char} {offset offset' : Nat}
    {record record' : Record} (h : readFields fields rest offset record = .ok (record', rest', offset')) :
    ∃ pre, rest = pre ++ rest' ∧ offset' = offset + utf8Length pre := by
  induction fields generalizing rest offset record with
  | nil =>
    cases h
    exact ⟨[], rfl, rfl⟩
  | cons f fs ih =>
    rw [readFields] at h
    split at h
    · cases h
    · rename_i v after hf
      obtain ⟨span, hspan, -⟩ := Matcher.takes_of_apply_eq_ok hf
      obtain ⟨pre, hpre, hoff⟩ := ih h
      refine ⟨inlineBlanks rest ++ span ++ pre, ?_, ?_⟩
      · conv_lhs => rw [rest_eq_of_field hspan, hpre]
        simp
      · rw [hoff, offset_after_field offset hspan, utf8Length_append _ pre]
        omega

/-- A read that fails reports the offset of a start of what it was given. -/
theorem readFields_error_offset {fields : List FieldSpec} {rest : List Char} {offset : Nat}
    {record : Record} {e : MatchError} (h : readFields fields rest offset record = .error e) :
    ∃ pre suf, rest = pre ++ suf ∧ e.offset = offset + utf8Length pre := by
  induction fields generalizing rest offset record with
  | nil => cases h
  | cons f fs ih =>
    rw [readFields] at h
    split at h
    · -- the field's own failure, at the offset after the blanks
      cases h
      exact ⟨_, _, (skipInlineBlanks_split rest).1, offset_after_blanks rest offset⟩
    · rename_i v after hf
      obtain ⟨span, hspan, -⟩ := Matcher.takes_of_apply_eq_ok hf
      obtain ⟨pre, suf, hpre, hoff⟩ := ih h
      refine ⟨inlineBlanks rest ++ span ++ pre, suf, ?_, ?_⟩
      · conv_lhs => rw [rest_eq_of_field hspan, hpre]
        simp
      · rw [hoff, offset_after_field offset hspan, utf8Length_append _ pre]
        omega

/-! ## The cover of a unit -/

/-- How fields cover a text, said without running them: before each field the
maximal run of spaces and tabs, then the span its matcher takes, which gives
the field's value; `rest` is what the last field leaves. -/
inductive FieldsCover : List FieldSpec → List Char → List FieldValue → List Char → Prop
  | nil (rest : List Char) : FieldsCover [] rest [] rest
  | cons {f : FieldSpec} {fs : List FieldSpec} {blanks span after rest : List Char}
      {v : FieldValue} {vs : List FieldValue}
      (hblanks : ∀ c ∈ blanks, c = ' ' ∨ c = '\t')
      (hstart : ∀ c ∈ (span ++ after).head?, c ≠ ' ' ∧ c ≠ '\t')
      (htakes : f.matcher.Takes span after v)
      (hfs : FieldsCover fs after vs rest) :
      FieldsCover (f :: fs) (blanks ++ span ++ after) (v :: vs) rest

/-- The value a record keeps under a name: that of the last field of the name
that is recorded, if there is one. -/
def lastValue (fields : List FieldSpec) (values : List FieldValue) (k : String) : Option FieldValue :=
  (((fields.zip values).filter fun p => !p.1.suppress && p.1.name == k).getLast?).map (·.2)

theorem lastValue_nil (values : List FieldValue) (k : String) : lastValue [] values k = none := rfl

/-- A later field of a name hides an earlier one. -/
theorem lastValue_cons (f : FieldSpec) (fs : List FieldSpec) (v : FieldValue) (vs : List FieldValue)
    (k : String) :
    lastValue (f :: fs) (v :: vs) k =
      (lastValue fs vs k).or (if !f.suppress && f.name == k then some v else none) := by
  unfold lastValue
  rw [List.zip_cons_cons, List.filter_cons]
  split
  · rw [List.getLast?_cons]
    cases (List.filter _ (fs.zip vs)).getLast? <;> simp_all
  · cases (List.filter _ (fs.zip vs)).getLast? <;> simp_all

/-- A read that succeeds covers what it read, and its record holds under each
name the value of the last recorded field of the name, or else what it held
before. -/
theorem readFields_covers {fields : List FieldSpec} {rest rest' : List Char} {offset offset' : Nat}
    {record record' : Record} (h : readFields fields rest offset record = .ok (record', rest', offset')) :
    ∃ values, FieldsCover fields rest values rest' ∧
      ∀ k, record'.get? k = (lastValue fields values k).or (record.get? k) := by
  induction fields generalizing rest offset record with
  | nil =>
    cases h
    exact ⟨[], .nil _, fun k => rfl⟩
  | cons f fs ih =>
    rw [readFields] at h
    split at h
    · cases h
    · rename_i v after hf
      obtain ⟨span, hspan, htakes⟩ := Matcher.takes_of_apply_eq_ok hf
      obtain ⟨vs, hcover, hget⟩ := ih h
      obtain ⟨-, hblanks, hstart⟩ := skipInlineBlanks_split rest
      refine ⟨v :: vs, ?_, fun k => ?_⟩
      · rw [rest_eq_of_field hspan]
        exact .cons hblanks (hspan ▸ hstart) htakes hcover
      · rw [hget, lastValue_cons, Option.or_assoc]
        congr 1
        -- the field writes its value unless it is suppressed
        cases f.suppress <;> by_cases hk : f.name = k <;> simp [hk]

/-! ## Reading a unit -/

theorem applyFields_eq (fields : List FieldSpec) (unit : String) :
    applyFields fields unit =
      match readFields fields unit.toList 0 NameMap.empty with
      | .error e => .error e
      | .ok (record, rest, offset) =>
        if Text.isBlank (String.ofList rest) then .ok record
        else .error ⟨(fields.getLast?.map FieldSpec.label).getD "", offset, .trailingInput⟩ := by
  unfold applyFields
  cases readFields fields unit.toList 0 NameMap.empty <;> rfl

/-- Every failure of a grammar names a character boundary of the unit as its
offset; a unit it reads is covered by its fields up to white space, and the
record maps each recorded name to the value of the last field of that name and
holds no other name. -/
theorem Grammar.apply_covers_unit (g : Grammar) (u : String) :
    (∀ e, g.apply u = .error e → (⟨e.offset⟩ : String.Pos.Raw).IsValid u) ∧
    ∀ record, g.apply u = .ok record →
      ∃ values rest, FieldsCover g.fields u.toList values rest ∧
        (∀ c ∈ rest, Text.Unicode.isWhiteSpace c = true) ∧
        ∀ k, record.get? k = lastValue g.fields values k := by
  unfold Grammar.apply
  rw [applyFields_eq]
  split
  · -- a field failed
    rename_i e' hread
    refine ⟨fun e he => ?_, fun record h => by cases h⟩
    cases he
    obtain ⟨pre, suf, hpre, hoff⟩ := readFields_error_offset hread
    rw [hoff, Nat.zero_add]
    exact isValid_of_utf8Length hpre
  · rename_i record rest offset hread
    obtain ⟨pre, hpre, hoff⟩ := readFields_ok_offset hread
    split
    · -- only white space is left
      rename_i hblank
      refine ⟨fun e he => (by cases he), fun record' h => ?_⟩
      cases h
      obtain ⟨values, hcover, hget⟩ := readFields_covers hread
      refine ⟨values, rest, hcover, ?_, fun k => by simpa using hget k⟩
      simpa [Text.isBlank] using hblank
    · -- leftover input, reported where the fields ended
      refine ⟨fun e he => ?_, fun record' h => by cases h⟩
      cases he
      rw [hoff, Nat.zero_add]
      exact isValid_of_utf8Length hpre

end Timeline
