import Mathlib
import Timeline.Proofs.FieldReading
/-!
# What a matcher takes

A matcher reads one field at the start of what is left of a unit and never looks
back. `Matcher.Takes m span after v` says, without running the matcher, what `m`
takes from `span ++ after`: the span it matches, what it leaves, and the value
it records.

* Runs. A digit or letter field reads `boundedRun`, the longest run of its
  characters that its bound allows (`boundedRun_spec`).
* Delimiters. `findText` finds the first occurrence of a text
  (`findText_eq_some_iff`).
* Matchers. A matcher succeeds exactly on the span `Takes` describes
  (`Matcher.apply_eq_ok_iff`): a successful match splits what is left into the
  span and what follows it, so the cursor only ever moves by whole characters.
* Digit fields. `Matcher.digits_outcome` gives the three outcomes of a digit
  field: a run shorter than the minimum is `expectedDigits`; a run that is empty
  or whose value does not fit in 64 signed bits is `integerOverflow` with its
  text; any other run is read as its value. A field whose minimum is 0 accepts
  an empty run and so reports it as an overflow
  (`empty_digit_run_reports_overflow`).
-/

namespace Timeline

/-- The run a digit or letter field reads: the characters at the start that pass
the test, at most `hi` of them. -/
def boundedRun (p : Char → Bool) (hi : Nat) (input : List Char) : List Char :=
  (input.take hi).takeWhile p

/-- The bounded run is a prefix of the text, passes the test, stays within the
bound, and ends at the bound or before a character that fails the test. -/
theorem boundedRun_spec (p : Char → Bool) (hi : Nat) (input : List Char) :
    input = boundedRun p hi input ++ input.drop (boundedRun p hi input).length ∧
      (∀ c ∈ boundedRun p hi input, p c = true) ∧ (boundedRun p hi input).length ≤ hi ∧
      ((boundedRun p hi input).length = hi ∨
        ∀ c ∈ (input.drop (boundedRun p hi input).length).head?, p c = false) := by
  have hsplit : boundedRun p hi input ++ (input.take hi).dropWhile p ++ input.drop hi = input := by
    rw [boundedRun, List.takeWhile_append_dropWhile, List.take_append_drop]
  have hdrop : input.drop (boundedRun p hi input).length = (input.take hi).dropWhile p ++ input.drop hi := by
    rw [List.append_assoc] at hsplit
    conv_lhs => arg 2; rw [← hsplit]
    exact List.drop_left
  have hlen : (boundedRun p hi input).length ≤ (input.take hi).length :=
    (List.takeWhile_prefix p).length_le
  refine ⟨?split, fun c hc => List.mem_takeWhile_imp hc, ?bound, ?stop⟩
  case split =>
    rw [hdrop, ← List.append_assoc, hsplit]
  case bound =>
    have := List.length_take_le hi input
    omega
  case stop =>
    rw [hdrop]
    -- the run stops at the bound, at the end of the text, or before a failing character
    cases hd : (input.take hi).dropWhile p with
    | nil =>
      have hrun : boundedRun p hi input = input.take hi := by
        rw [← List.append_nil (boundedRun p hi input), ← hd]
        exact List.takeWhile_append_dropWhile
      by_cases hfull : (input.take hi).length = hi
      · exact .inl (hrun ▸ hfull)
      · have hshort : input.length < hi := by rw [List.length_take] at hfull; omega
        right
        simp [List.drop_eq_nil_of_le (Nat.le_of_lt hshort)]
    | cons x rest =>
      have hx := List.head_dropWhile_not p (l := input.take hi) (by simp [hd])
      simp only [hd, List.head_cons] at hx
      exact .inr fun c hc => by simp_all

/-- A run of ASCII digits reads as a 64-bit integer exactly when it is not empty
and its value fits. -/
theorem readInt64?_digits {ds : List Char} (hd : ∀ c ∈ ds, c.isDigit = true) :
    Number.readInt64? (String.ofList ds) =
      if ds ≠ [] ∧ (Nat.ofDigitChars 10 ds 0 : Int) ≤ Number.int64Max then
        some (Nat.ofDigitChars 10 ds 0 : Int)
      else none := by
  by_cases hne : ds = []
  · subst hne
    rfl
  · by_cases hfit : (Nat.ofDigitChars 10 ds 0 : Int) ≤ Number.int64Max
    · rw [if_pos ⟨hne, hfit⟩]
      exact Text.readInt64?_of_digits hne hd hfit
    · rw [if_neg fun h => hfit h.2]
      simpa [Number.readInt64?, Text.readInteger?_of_digits hne hd] using fun _ => not_le.mp hfit

/-- The first occurrence of a text: `findText` finds it at `n` exactly when the
text starts there and at no earlier place. -/
theorem findText_eq_some_iff {needle input : List Char} {n : Nat} :
    findText needle input = some n ↔
      n ≤ input.length ∧ needle <+: input.drop n ∧ ∀ i < n, ¬ needle <+: input.drop i := by
  induction input generalizing n with
  | nil =>
    by_cases h : needle = []
    · subst h
      simp only [findText, List.isEmpty_nil, if_true, Option.some.injEq, List.length_nil,
        List.drop_nil, List.nil_prefix, true_and]
      constructor
      · rintro rfl
        exact ⟨le_refl 0, fun i hi => absurd hi (Nat.not_lt_zero i)⟩
      · rintro ⟨hn, -⟩
        omega
    · simp [findText, h]
  | cons c cs ih =>
    rw [findText]
    by_cases hpre : needle.isPrefixOf (c :: cs) = true
    · -- the text starts here
      rw [if_pos hpre, Option.some.injEq]
      have hpre' := List.isPrefixOf_iff_prefix.mp hpre
      constructor
      · rintro rfl
        exact ⟨Nat.zero_le _, hpre', fun i hi => absurd hi (Nat.not_lt_zero i)⟩
      · rintro ⟨-, -, hfirst⟩
        by_contra hn
        exact hfirst 0 (Nat.pos_of_ne_zero (Ne.symm hn)) hpre'
    · rw [if_neg hpre]
      have hnot : ¬ needle <+: c :: cs := fun h => hpre (List.isPrefixOf_iff_prefix.mpr h)
      cases n with
      | zero =>
        simp only [Option.map_eq_some_iff, List.drop_zero]
        constructor
        · rintro ⟨m, -, hm⟩
          omega
        · rintro ⟨-, h, -⟩
          exact absurd h hnot
      | succ n =>
        simp only [Option.map_eq_some_iff, Nat.add_right_cancel_iff, exists_eq_right, ih,
          List.length_cons, List.drop_succ_cons, Nat.add_le_add_iff_right]
        constructor
        · rintro ⟨hn, hat, hfirst⟩
          refine ⟨hn, hat, fun i hi => ?_⟩
          cases i with
          | zero => exact hnot
          | succ i => exact hfirst i (by omega)
        · rintro ⟨hn, hat, hfirst⟩
          exact ⟨hn, hat, fun i hi => hfirst (i + 1) (by omega)⟩

/-! ## The spans of the matchers -/

/-- What a matcher takes from what is left of a unit, said without running it:
the span it matches, what it leaves after the span, and the value it records. -/
inductive Matcher.Takes : Matcher → List Char → List Char → FieldValue → Prop
  /-- A digit field takes a run of ASCII digits of at least `lo` and at most `hi`
  characters, not empty, ending at the bound or before a character that is no
  digit, whose value fits in 64 signed bits; it records that value. -/
  | digits {lo hi : Nat} {span after : List Char} (hdigits : ∀ c ∈ span, c.isDigit = true)
      (hne : span ≠ []) (hlo : lo ≤ span.length) (hhi : span.length ≤ hi)
      (hend : span.length = hi ∨ ∀ c ∈ after.head?, c.isDigit = false)
      (hfit : (Nat.ofDigitChars 10 span 0 : Int) ≤ Number.int64Max) :
      Takes (.digits lo hi) span after (.int (Nat.ofDigitChars 10 span 0))
  /-- A letter field takes a run of ASCII letters of at least `lo` and at most
  `hi` characters, ending at the bound or before a character that is no letter. -/
  | alpha {lo hi : Nat} {span after : List Char} (hletters : ∀ c ∈ span, c.isAlpha = true)
      (hlo : lo ≤ span.length) (hhi : span.length ≤ hi)
      (hend : span.length = hi ∨ ∀ c ∈ after.head?, c.isAlpha = false) :
      Takes (.alpha lo hi) span after (.str (String.ofList span))
  /-- A literal takes exactly its text. -/
  | literal (t : String) (after : List Char) : Takes (.literal t) t.toList after (.str t)
  /-- `until d` takes the text before the first occurrence of `d`, which must not
  be empty. -/
  | until {d : String} {span after : List Char} (hne : span ≠ []) (hat : d.toList <+: after)
      (hfirst : ∀ i < span.length, ¬ d.toList <+: (span ++ after).drop i) :
      Takes (.until d) span after (.str (String.ofList span))
  /-- `rest` takes everything, which must not be empty unless that is allowed. -/
  | rest {allowEmpty : Bool} {span : List Char} (hempty : allowEmpty = true ∨ span ≠ []) :
      Takes (.rest allowEmpty) span [] (.str (String.ofList span))

theorem Matcher.apply_digits_eq (lo hi : Nat) (input : List Char) :
    (Matcher.digits lo hi).apply input =
      if (boundedRun isAsciiDigit hi input).length < lo then .error (.expectedDigits lo hi)
      else if boundedRun isAsciiDigit hi input ≠ [] ∧
          (Nat.ofDigitChars 10 (boundedRun isAsciiDigit hi input) 0 : Int) ≤ Number.int64Max then
        .ok (.int (Nat.ofDigitChars 10 (boundedRun isAsciiDigit hi input) 0),
          input.drop (boundedRun isAsciiDigit hi input).length)
      else .error (.integerOverflow (String.ofList (boundedRun isAsciiDigit hi input))) := by
  have hd : ∀ c ∈ boundedRun isAsciiDigit hi input, c.isDigit = true :=
    (boundedRun_spec isAsciiDigit hi input).2.1
  simp only [Matcher.apply, ← boundedRun.eq_1, readInt64?_digits hd]
  split_ifs <;> rfl

theorem Matcher.apply_alpha_eq (lo hi : Nat) (input : List Char) :
    (Matcher.alpha lo hi).apply input =
      if (boundedRun isAsciiAlpha hi input).length < lo then .error (.expectedAlpha lo hi)
      else .ok (.str (String.ofList (boundedRun isAsciiAlpha hi input)),
        input.drop (boundedRun isAsciiAlpha hi input).length) := rfl

/-- A matcher reads the span it takes. -/
theorem Matcher.Takes.apply_eq {m : Matcher} {span after : List Char} {v : FieldValue}
    (h : m.Takes span after v) : m.apply (span ++ after) = .ok (v, after) := by
  cases h with
  | digits hdigits hne hlo hhi hend hfit => exact apply_digits hdigits hne hlo hhi hend hfit
  | alpha hletters hlo hhi hend => exact apply_alpha hletters hlo hhi hend
  | literal t after => exact apply_literal t after
  | @«until» d span after hne hat hfirst =>
    have hfind : findText d.toList (span ++ after) = some span.length :=
      findText_eq_some_iff.mpr ⟨by simp, by rwa [List.drop_left], hfirst⟩
    obtain ⟨c, cs, rfl⟩ := List.exists_cons_of_ne_nil hne
    simp only [Matcher.apply, hfind, List.length_cons, List.take_left', List.drop_left']
  | rest hempty => simpa using apply_rest _ _ hempty

/-- A matcher that succeeds takes a span: what is left splits into the span and
what follows it. -/
theorem Matcher.takes_of_apply_eq_ok {m : Matcher} {input after : List Char} {v : FieldValue}
    (h : m.apply input = .ok (v, after)) : ∃ span, input = span ++ after ∧ m.Takes span after v := by
  cases m with
  | digits lo hi =>
    obtain ⟨hsplit, hdigits, hhi, hend⟩ := boundedRun_spec isAsciiDigit hi input
    rw [Matcher.apply_digits_eq] at h
    split_ifs at h with hlo hread
    cases h
    exact ⟨_, hsplit, .digits hdigits hread.1 (by omega) hhi hend hread.2⟩
  | alpha lo hi =>
    obtain ⟨hsplit, hletters, hhi, hend⟩ := boundedRun_spec isAsciiAlpha hi input
    rw [Matcher.apply_alpha_eq] at h
    split_ifs at h with hlo
    cases h
    exact ⟨_, hsplit, .alpha hletters (by omega) hhi hend⟩
  | literal t =>
    simp only [Matcher.apply] at h
    split_ifs at h with hpre
    cases h
    refine ⟨t.toList, ?_, .literal t _⟩
    rw [← String.length_toList]
    exact (List.prefix_iff_eq_append.mp (List.isPrefixOf_iff_prefix.mp hpre)).symm
  | «until» d =>
    simp only [Matcher.apply] at h
    split at h
    · cases h
    · cases h
    · rename_i n hn hfind
      cases h
      obtain ⟨hlen, hat, hfirst⟩ := findText_eq_some_iff.mp hfind
      refine ⟨input.take n, (List.take_append_drop n input).symm, .until ?_ hat ?_⟩
      · intro htake
        rcases List.take_eq_nil_iff.mp htake with h | h
        · exact hn h
        · subst h
          exact hn (Nat.le_zero.mp hlen)
      · intro i hi
        rw [List.take_append_drop]
        exact hfirst i (by simp at hi; omega)
  | rest allowEmpty =>
    simp only [Matcher.apply] at h
    split_ifs at h with hempty
    cases h
    refine ⟨input, (List.append_nil input).symm, .rest ?_⟩
    cases allowEmpty <;> simp_all

/-- A matcher succeeds exactly on the span it takes. -/
theorem Matcher.apply_eq_ok_iff {m : Matcher} {input after : List Char} {v : FieldValue} :
    m.apply input = .ok (v, after) ↔ ∃ span, input = span ++ after ∧ m.Takes span after v :=
  ⟨Matcher.takes_of_apply_eq_ok, fun ⟨_, hinput, ht⟩ => hinput ▸ ht.apply_eq⟩

/-! ## The outcomes of a digit field -/

/-- A digit field fails for too short a run, reports an overflow with the run's
text when the run is empty or its value does not fit in 64 signed bits, and
otherwise reads the run as its value. -/
theorem Matcher.digits_outcome (lo hi : Nat) (input : List Char) :
    let run := boundedRun isAsciiDigit hi input
    ((Matcher.digits lo hi).apply input = .error (.expectedDigits lo hi) ↔ run.length < lo) ∧
    (∀ s, (Matcher.digits lo hi).apply input = .error (.integerOverflow s) ↔
      lo ≤ run.length ∧ (run = [] ∨ Number.int64Max < Nat.ofDigitChars 10 run 0) ∧
        s = String.ofList run) ∧
    (∀ v after, (Matcher.digits lo hi).apply input = .ok (v, after) ↔
      lo ≤ run.length ∧ run ≠ [] ∧ (Nat.ofDigitChars 10 run 0 : Int) ≤ Number.int64Max ∧
        v = .int (Nat.ofDigitChars 10 run 0) ∧ after = input.drop run.length) := by
  dsimp only
  rw [Matcher.apply_digits_eq]
  refine ⟨?short, fun s => ?overflow, fun v after => ?read⟩
  case short =>
    split_ifs with hlo hread
    · exact iff_of_true rfl hlo
    · exact iff_of_false (by simp) hlo
    · exact iff_of_false (by simp) hlo
  case overflow =>
    split_ifs with hlo hread
    · exact iff_of_false (by simp) fun h => absurd h.1 (by omega)
    · refine iff_of_false (by simp) fun h => ?_
      rcases h.2.1 with hempty | hbig
      · exact hread.1 hempty
      · exact absurd hread.2 (not_le.mpr hbig)
    · rw [Except.error.injEq, MatchFailure.integerOverflow.injEq]
      constructor
      · rintro rfl
        refine ⟨by omega, ?_, rfl⟩
        by_cases hne : boundedRun isAsciiDigit hi input = []
        · exact .inl hne
        · exact .inr (not_le.mp fun hfit => hread ⟨hne, hfit⟩)
      · rintro ⟨-, -, rfl⟩
        rfl
  case read =>
    split_ifs with hlo hread
    · exact iff_of_false (by simp) fun h => absurd h.1 (by omega)
    · rw [Except.ok.injEq, Prod.mk.injEq]
      constructor
      · rintro ⟨rfl, rfl⟩
        exact ⟨by omega, hread.1, hread.2, rfl, rfl⟩
      · rintro ⟨-, -, -, rfl, rfl⟩
        exact ⟨rfl, rfl⟩
    · exact iff_of_false (by simp) fun h => hread ⟨h.2.1, h.2.2.1⟩

/-- A digit field of minimum 0 before no digit reports its empty run as an overflow. -/
theorem empty_digit_run_reports_overflow :
    ({ fields := [.named "n" (.digits 0 5)] } : Grammar).apply "" = .error ⟨"n", 0, .integerOverflow ""⟩ := by
  decide

end Timeline
