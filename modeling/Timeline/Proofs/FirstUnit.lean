import Mathlib
import Timeline.Proofs.TextScan
import Timeline.Scan.Detect
import Timeline.Artifact.Builtin
/-!
# Detection agrees with the scan on the first unit

Detection reads the first unit of a text on its own: it looks ahead by offset
instead of handing lines out, within a limit of 64 lines, skips no blank line,
and dates records by the preamble or else by the year 2000. This module shows
that on a text read without a fault, and within that limit, it judges the first
unit as a scan dated by the year 2000 does.

* Line texts hold no line feed (`lineFeed_not_mem_text_splitLines`): the
  decoder makes a line feed only of a line feed byte, and the pieces of a
  text hold none. A unit of one line therefore loses nothing when detection
  drops the line feeds at its end.
* Units that open with a blank line read nothing under the built-in grammars
  (`Grammar.extract_of_opensBlank`, `TextArtifact.firstField_needsMark`): each
  first field needs a colon, a dash or a letter, and after the spaces and tabs
  before it comes white space or nothing.
* Detection over a source that ends cleanly reads its lines by position
  (`LineSource.exec_detectPreamble`, `LineSource.exec_detectGather`): it
  counts the preamble lines, reads the first line after them and gathers the
  unit that a scan reads there (`TextArtifact.detect_of_first_unit`), and it
  rejects a first line or a unit that the scan would not make an event of
  (`TextArtifact.detect_of_first_rejected`, `TextArtifact.detect_of_first_blank`).

The main statement is `TextArtifact.detect_agrees_with_scan`: for the built-in
text artifacts, detection claims a text whose first line passes the anchor
exactly when the first item a scan hands on, for the line after the preamble,
is an event.
-/

namespace Timeline

/-! ## Line texts hold no line feed -/

namespace Text

/-- The decoder makes a line feed only of a line feed byte. -/
theorem eq_ten_of_ofNat_eq_lineFeed {n : Nat} (h : Char.ofNat n = '\n') : n = 10 := by
  unfold Char.ofNat at h
  split at h
  · rename_i hv
    have : (Char.ofNatAux n hv).toNat = n := rfl
    rw [← this, h]
    rfl
  · exact absurd h (by decide)

theorem le_foldl_continuation (acc : Nat) (rest : List UInt8) :
    acc ≤ rest.foldl (fun acc c => acc * 64 + c.toNat % 64) acc := by
  induction rest generalizing acc with
  | nil => exact Nat.le_refl _
  | cons c rest ih =>
    simp only [List.foldl_cons]
    exact Nat.le_trans (by omega) (ih _)

/-- A sequence of more than one byte codes a character past the control
characters: its lead and first continuation byte already give 16 or more. -/
theorem sixteen_le_sequenceValue {b c lo hi : UInt8} {k : Nat} {tail : List UInt8}
    (hshape : sequenceShape b = some (lo, hi, k)) (hc : inByteRange lo hi c = true)
    (htail : tail.length = k - 1) : 16 ≤ sequenceValue b (c :: tail) := by
  unfold sequenceValue
  simp only [List.length_cons, htail, List.foldl_cons]
  refine Nat.le_trans ?_ (le_foldl_continuation _ tail)
  -- one case per row of the table of sequence shapes: the row's own range for the
  -- lead byte, or for the first continuation byte after a lead of value 0, gives the bound
  unfold sequenceShape at hshape
  split_ifs at hshape with h₁ h₂ h₃ h₄ h₅ h₆ h₇ <;> cases hshape
  all_goals
    simp only [inByteRange, Bool.and_eq_true, Bool.or_eq_true, decide_eq_true_eq, beq_iff_eq,
      UInt8.le_iff_toNat_le, ← UInt8.toNat_inj, UInt8.reduceToNat, Nat.reduceSub, Nat.reduceAdd,
      Nat.reduceEqDiff, ↓reduceIte] at *
    omega

theorem decodeOne_ne_lineFeed {b : UInt8} {rest : List UInt8} {ch : Char} {n : Nat}
    (h : decodeOne (b :: rest) = (some ch, n)) (hb : b ≠ lineFeed) : ch ≠ '\n' := by
  intro hch
  rw [decodeOne] at h
  split at h
  · -- one byte codes itself
    simp only [Prod.mk.injEq, Option.some.injEq] at h
    rw [← h.1] at hch
    apply hb
    have := eq_ten_of_ofNat_eq_lineFeed hch
    unfold lineFeed
    exact UInt8.toNat_inj.mp (by simpa using this)
  · split at h
    · cases h
    · rename_i lo hi k hshape
      split at h
      · cases h
      · rename_i c more
        split at h
        · cases h
        · rename_i hc
          dsimp only at h
          split at h
          · cases h
          · rename_i hgood
            simp only [Prod.mk.injEq, Option.some.injEq] at h
            rw [← h.1] at hch
            -- the continuation bytes read are exactly the `k - 1` taken
            have hlen : (more.take (k - 1)).length = k - 1 := by
              have : ((more.take (k - 1)).takeWhile (inByteRange 0x80 0xBF)).length ≤
                  (more.take (k - 1)).length :=
                (List.takeWhile_sublist _).length_le
              have := List.length_take_le (k - 1) more
              omega
            have hc' : inByteRange lo hi c = true := by simpa using hc
            have := sixteen_le_sequenceValue hshape hc' hlen
            have := eq_ten_of_ofNat_eq_lineFeed hch
            omega

/-- Bytes without a line feed decode to characters without one. -/
theorem lineFeed_not_mem_decodeUtf8 {bytes : List UInt8} (h : lineFeed ∉ bytes) :
    '\n' ∉ (decodeUtf8 bytes).1 := by
  induction bytes using decodeUtf8.induct with
  | case1 => simp [decodeUtf8]
  | case2 b rest n cs valid ch hrest hone ih =>
    have htail := ih fun hm => h (List.mem_of_mem_drop hm)
    rw [hrest] at htail
    rw [decodeUtf8]
    simp only [hone, hrest, List.mem_cons, not_or]
    exact ⟨fun hch => decodeOne_ne_lineFeed hone (fun hb => h (hb ▸ List.mem_cons_self)) hch.symm,
      htail⟩
  | case3 b rest n cs valid hrest hone ih =>
    have htail := ih fun hm => h (List.mem_of_mem_drop hm)
    rw [hrest] at htail
    rw [decodeUtf8]
    simp only [hone, hrest, List.mem_cons, not_or]
    exact ⟨by decide, htail⟩

/-- Dropping the line feeds at the end of a text without one changes nothing. -/
theorem dropTrailingLineFeeds_of_not_mem {s : String} (h : '\n' ∉ s.toList) :
    dropTrailingLineFeeds s = s := by
  unfold dropTrailingLineFeeds
  cases hr : s.toList.reverse with
  | nil =>
    have hnil : s.toList = [] := List.reverse_eq_nil_iff.mp hr
    simp only [List.dropWhile_nil, List.reverse_nil]
    rw [← hnil, String.ofList_toList]
  | cons c cs =>
    have hc : c ≠ '\n' := fun hc => h (List.mem_reverse.mp (hr ▸ hc ▸ List.mem_cons_self))
    rw [List.dropWhile_cons_of_neg (by simpa using hc), ← hr, List.reverse_reverse,
      String.ofList_toList]

end Text

theorem lineFeed_not_mem_cutLinesFrom {acc bytes : List UInt8} (hacc : lineFeed ∉ acc) :
    ∀ p ∈ cutLinesFrom acc bytes, lineFeed ∉ p.1 := by
  induction bytes generalizing acc with
  | nil =>
    intro p hp
    unfold cutLinesFrom at hp
    split at hp
    · cases hp
    · simp only [List.mem_singleton] at hp
      subst hp
      simpa using hacc
  | cons b bs ih =>
    intro p hp
    unfold cutLinesFrom at hp
    split at hp
    · rcases List.mem_cons.mp hp with rfl | hp
      · simpa using hacc
      · exact ih (by simp) p hp
    · rename_i hb
      refine ih ?_ p hp
      simp only [List.mem_cons, not_or]
      exact ⟨fun h => hb (by simp [h]), hacc⟩

theorem lineFeed_not_mem_text_pieceLine {number : Nat} {piece : List UInt8 × Bool}
    (h : lineFeed ∉ piece.1) : '\n' ∉ (pieceLine number piece).text.toList := by
  unfold pieceLine
  dsimp only
  rw [String.toList_ofList]
  apply Text.lineFeed_not_mem_decodeUtf8
  -- the body is the piece with at most its last byte, then its first three, dropped
  generalize hcr : (if piece.2 && piece.1.getLast? == some 13 then piece.1.dropLast else piece.1)
    = body
  have hsub : body ⊆ piece.1 := by
    rw [← hcr]
    split
    · exact List.dropLast_subset _
    · exact List.Subset.refl _
  intro hm
  apply h
  split at hm
  · exact hsub (List.mem_of_mem_drop hm)
  · exact hsub hm

theorem lineFeed_not_mem_text_numberLines {first : Nat} {pieces : List (List UInt8 × Bool)}
    (h : ∀ p ∈ pieces, lineFeed ∉ p.1) : ∀ l ∈ numberLines first pieces, '\n' ∉ l.text.toList := by
  induction pieces generalizing first with
  | nil => simp [numberLines]
  | cons p ps ih =>
    intro l hl
    rcases List.mem_cons.mp hl with rfl | hl
    · exact lineFeed_not_mem_text_pieceLine (h p List.mem_cons_self)
    · exact ih (fun q hq => h q (List.mem_cons_of_mem p hq)) l hl

/-- The text of a line of a text holds no line feed. -/
theorem lineFeed_not_mem_text_splitLines {bytes : List UInt8} :
    ∀ l ∈ splitLines bytes, '\n' ∉ l.text.toList :=
  lineFeed_not_mem_text_numberLines (lineFeed_not_mem_cutLinesFrom (by simp))

/-! ## Units that open with a blank line -/

open Text.Unicode in
/-- Whether a unit opens blank: after the spaces and tabs at its start comes
white space or nothing. -/
def OpensBlank (cs : List Char) : Prop :=
  ∀ c ∈ (skipInlineBlanks cs).head?, isWhiteSpace c = true

/-- White space followed by nothing or by a line feed opens blank. -/
theorem opensBlank_append {w r : List Char} (hw : ∀ c ∈ w, Text.Unicode.isWhiteSpace c = true)
    (hr : r = [] ∨ r.head? = some '\n') : OpensBlank (w ++ r) := by
  induction w with
  | nil =>
    intro c hc
    rcases hr with rfl | hr
    · simp [skipInlineBlanks] at hc
    · obtain ⟨r', rfl⟩ : ∃ r', r = '\n' :: r' := by
        cases r with
        | nil => cases hr
        | cons x r' => simp only [List.head?_cons, Option.some.injEq] at hr; exact ⟨r', by rw [hr]⟩
      simp only [skipInlineBlanks, List.nil_append, List.dropWhile_cons] at hc
      simp only [show ('\n' == ' ' || '\n' == '\t') = false from rfl, Bool.false_eq_true,
        if_false, List.head?_cons, Option.mem_def, Option.some.injEq] at hc
      subst hc
      rfl
  | cons x w ih =>
    have hw' : ∀ c ∈ w, Text.Unicode.isWhiteSpace c = true := fun c hc => hw c (List.mem_cons_of_mem x hc)
    intro c hc
    simp only [skipInlineBlanks, List.cons_append, List.dropWhile_cons] at hc
    split at hc
    · exact ih hw' c hc
    · simp only [List.head?_cons, Option.mem_def, Option.some.injEq] at hc
      exact hc ▸ hw x List.mem_cons_self

/-- What opens a text also opens every text it starts with. -/
theorem OpensBlank.of_isPrefix {pre cs : List Char} (hpre : pre <+: cs) (h : OpensBlank cs) :
    OpensBlank pre := by
  induction pre generalizing cs with
  | nil => simp [OpensBlank, skipInlineBlanks]
  | cons x pre ih =>
    obtain ⟨cs', rfl, hpre'⟩ : ∃ cs', cs = x :: cs' ∧ pre <+: cs' := by
      obtain ⟨t, rfl⟩ := hpre
      exact ⟨pre ++ t, rfl, List.prefix_append pre t⟩
    intro c hc
    unfold OpensBlank at h
    unfold skipInlineBlanks at h hc
    rw [List.dropWhile_cons] at h hc
    split at hc
    · rename_i hx
      rw [if_pos hx] at h
      exact ih hpre' h c hc
    · rename_i hx
      rw [if_neg hx] at h
      exact h c hc

theorem isPrefix_toList_dropTrailingLineFeeds (s : String) :
    (Text.dropTrailingLineFeeds s).toList <+: s.toList := by
  unfold Text.dropTrailingLineFeeds
  rw [String.toList_ofList]
  have hsuffix : s.toList.reverse.dropWhile (· == '\n') <:+ s.toList.reverse :=
    List.dropWhile_suffix _
  have := List.reverse_prefix.mpr hsuffix
  rwa [List.reverse_reverse] at this

/-- A unit whose first line is white space opens blank, whatever lines follow
it and whichever line feeds are dropped at its end. -/
theorem opensBlank_unit {t : String} (ht : ∀ c ∈ t.toList, Text.Unicode.isWhiteSpace c = true)
    (more : List String) :
    OpensBlank (Text.dropTrailingLineFeeds ("\n".intercalate (t :: more))).toList := by
  refine OpensBlank.of_isPrefix (isPrefix_toList_dropTrailingLineFeeds _) ?_
  cases more with
  | nil =>
    rw [String.intercalate_singleton, ← List.append_nil t.toList]
    exact opensBlank_append ht (.inl rfl)
  | cons m more =>
    rw [String.intercalate_cons_of_ne_nil (List.cons_ne_nil m more), String.toList_append,
      String.toList_append, List.append_assoc]
    exact opensBlank_append ht (.inr rfl)

open Text.Unicode in
theorem isAsciiAlpha_of_isWhiteSpace {c : Char} (h : isWhiteSpace c = true) :
    isAsciiAlpha c = false := by
  simp only [isWhiteSpace, inRanges_iff, whiteSpaceRanges, List.mem_cons, List.not_mem_nil,
    or_false] at h
  simp only [isAsciiAlpha, Char.isAlpha, Char.isUpper, Char.isLower, Bool.or_eq_false_iff,
    Bool.and_eq_false_iff, decide_eq_false_iff_not, UInt32.le_iff_toNat_le, Char.toNat_val]
  obtain ⟨r, hr, hlo, hhi⟩ := h
  rcases hr with rfl | rfl | rfl | rfl | rfl | rfl | rfl | rfl | rfl | rfl <;> simp_all <;> omega

open Text.Unicode in
/-- A matcher that reads nothing from an input that is empty or opens with
white space. -/
def Matcher.NeedsMark (m : Matcher) : Prop :=
  ∀ input : List Char, (∀ c ∈ input.head?, isWhiteSpace c = true) → ∃ e, m.apply input = .error e

open Text.Unicode in
theorem Matcher.needsMark_literal {t : String} (c : Char) {cs : List Char}
    (ht : t.toList = c :: cs) (hc : isWhiteSpace c = false) : (Matcher.literal t).NeedsMark := by
  intro input hin
  have hnotStart : t.toList.isPrefixOf input = false := by
    rw [ht]
    cases input with
    | nil => rfl
    | cons x xs =>
      have hx : isWhiteSpace x = true := hin x rfl
      have hne : c ≠ x := fun h => by rw [h, hx] at hc; cases hc
      simp [List.isPrefixOf, hne]
  exact ⟨.expectedLiteral t, by simp [Matcher.apply, hnotStart]⟩

theorem Matcher.needsMark_alpha {lo hi : Nat} (hlo : 0 < lo) : (Matcher.alpha lo hi).NeedsMark := by
  intro input hin
  have hrun : ((input.take hi).takeWhile isAsciiAlpha).length = 0 := by
    cases hi with
    | zero => simp
    | succ hi =>
      cases input with
      | nil => simp
      | cons x xs =>
        simp [isAsciiAlpha_of_isWhiteSpace (hin x rfl)]
  exact ⟨.expectedAlpha lo hi, by simp [Matcher.apply, hrun, hlo]⟩

/-- A grammar whose first field needs a mark reads nothing from a unit that
opens blank. -/
theorem Grammar.extract_of_opensBlank {g : Grammar} {f : FieldSpec} {fs : List FieldSpec}
    (hg : g.fields = f :: fs) (hf : f.matcher.NeedsMark) {unit : String}
    (hunit : OpensBlank unit.toList) (year : Option Int) :
    ∃ e, g.extract unit year = .error e := by
  obtain ⟨reason, hreason⟩ := hf _ hunit
  have hread : ∃ e, readFields g.fields unit.toList 0 NameMap.empty = .error e := by
    rw [hg, readFields]
    simp only [hreason]
    exact ⟨_, rfl⟩
  obtain ⟨e, he⟩ := hread
  exact ⟨.mismatch e, by simp [Grammar.extract, Grammar.apply, applyFields, he, Except.mapError,
    bind, Except.bind]⟩

/-- The first field of each built-in text artifact needs a mark: a colon, a dash
or a letter. -/
theorem TextArtifact.firstField_needsMark {a : TextArtifact} (ha : a ∈ Registry.builtin.textArtifacts) :
    ∃ f fs, a.grammar.fields = f :: fs ∧ f.matcher.NeedsMark := by
  have hmem : a ∈ [Builtin.zshExtendedHistory, Builtin.vsftpdLog, Builtin.fishHistory,
      Builtin.googleLog] := ha
  simp only [List.mem_cons, List.not_mem_nil, or_false] at hmem
  rcases hmem with rfl | rfl | rfl | rfl
  · exact ⟨_, _, rfl, Matcher.needsMark_literal ':' rfl (by decide)⟩
  · exact ⟨_, _, rfl, Matcher.needsMark_alpha (by decide)⟩
  · exact ⟨_, _, rfl, Matcher.needsMark_literal '-' rfl (by decide)⟩
  · exact ⟨_, _, rfl, Matcher.needsMark_alpha (by decide)⟩

/-! ## Detection over a source that ends cleanly -/

/-- Looking ahead at a source that ends cleanly shows its line at that position,
if it has one. -/
theorem LineSource.exec_lookAt {s : LineSource} (hs : s.EndsCleanly) (k : Nat) :
    (LineSource.access.lookAt k).exec s = (.ok s.pending[k]?, s) := by
  rw [LineReading.exec_lookAt, show LineSource.access.peek s k = (s.peek k, s) from rfl]
  unfold LineSource.peek LineSource.afterEnd
  rcases hs with hs | hs <;> cases s.pending[k]? <;> simp [hs]

/-- An element at a position, and what follows it. -/
theorem drop_eq_cons_of_getElem? {α : Type} {ls : List α} {i : Nat} {l : α} (h : ls[i]? = some l) :
    ls.drop i = l :: ls.drop (i + 1) := by
  obtain ⟨hlt, hget⟩ := List.getElem?_eq_some_iff.mp h
  rw [List.drop_eq_getElem_cons hlt, hget]

/-- Counting preamble lines over a source that ends cleanly counts the preamble
lines among the `fuel` lines from `index` on, and takes the year they give. -/
theorem LineSource.exec_detectPreamble {s : LineSource} (hs : s.EndsCleanly) (p : Preamble)
    (fuel index : Nat) (year : Option Int) :
    (detectPreamble LineSource.access p fuel index year).exec s =
      (.ok (index + (((s.pending.drop index).take fuel).takeWhile p.takes).length,
        p.yearOf year ((s.pending.drop index).take fuel)), s) := by
  induction fuel generalizing index year with
  | zero => simp [detectPreamble, LineReading.exec_pure, Preamble.yearOf]
  | succ fuel ih =>
    rw [detectPreamble, LineReading.exec_bind, LineSource.exec_lookAt hs]
    cases hline : s.pending[index]? with
    | none =>
      have hdrop : s.pending.drop index = [] := by
        simpa [List.getElem?_eq_none_iff] using hline
      simp [hdrop, LineReading.exec_pure, Preamble.yearOf]
    | some line =>
      rw [drop_eq_cons_of_getElem? hline, List.take_succ_cons]
      dsimp only
      cases hc : p.classify line.text with
      | none =>
        have ht : ¬p.takes line = true := by simp [Preamble.takes, hc]
        simp [LineReading.exec_pure, List.takeWhile_cons_of_neg ht, Preamble.yearOf_of_not_takes _ hc]
      | some found =>
        have ht : p.takes line = true := by simp [Preamble.takes, hc]
        rw [ih, List.takeWhile_cons_of_pos ht, Preamble.yearOf_cons _ hc, List.length_cons,
          Nat.add_right_comm, Nat.add_assoc]

/-- Gathering over a source that ends cleanly takes the lines that continue the
unit among the `fuel` lines from `offset` on. -/
theorem LineSource.exec_detectGather {s : LineSource} (hs : s.EndsCleanly) (b : Pattern)
    (fuel offset : Nat) (text : String) :
    (detectGather LineSource.access b fuel offset text).exec s =
      (.ok ("\n".intercalate
        (text :: (((s.pending.drop offset).take fuel).takeWhile (continuesUnit b)).map (·.text))), s) := by
  induction fuel generalizing offset text with
  | zero => simp [detectGather, LineReading.exec_pure]
  | succ fuel ih =>
    rw [detectGather, LineReading.exec_bind, LineSource.exec_lookAt hs]
    cases hline : s.pending[offset]? with
    | none =>
      have hdrop : s.pending.drop offset = [] := by
        simpa [List.getElem?_eq_none_iff] using hline
      simp [hdrop, LineReading.exec_pure]
    | some line =>
      rw [drop_eq_cons_of_getElem? hline, List.take_succ_cons]
      dsimp only
      cases hc : continuesUnit b line with
      | false =>
        have hstop : (line.validUtf8 && !b.isMatch line.text) = false := hc
        simp [hstop, List.takeWhile_cons_of_neg, hc, LineReading.exec_pure]
      | true =>
        have hgo : (line.validUtf8 && !b.isMatch line.text) = true := hc
        rw [if_pos hgo, ih, List.takeWhile_cons_of_pos hc]
        simp [String.append_assoc]

/-! ## The first unit after the preamble -/

namespace TextArtifact

theorem preambleLines_append_afterPreamble (a : TextArtifact) (ls : List Line) :
    a.preambleLines ls ++ a.afterPreamble ls = ls := by
  unfold preambleLines afterPreamble
  split <;> simp

/-- Lines after the preamble are lines of the text: it has a first line. -/
theorem ne_nil_of_afterPreamble_ne_nil (a : TextArtifact) {ls : List Line}
    (h : a.afterPreamble ls ≠ []) : ls ≠ [] := by
  intro hnil
  subst hnil
  exact h (List.append_eq_nil_iff.mp (a.preambleLines_append_afterPreamble [])).2

theorem getElem?_length_preambleLines (a : TextArtifact) (ls : List Line) :
    ls[(a.preambleLines ls).length]? = (a.afterPreamble ls).head? :=
  calc ls[(a.preambleLines ls).length]?
    _ = (a.preambleLines ls ++ a.afterPreamble ls)[(a.preambleLines ls).length]? := by
      rw [a.preambleLines_append_afterPreamble]
    _ = (a.afterPreamble ls).head? := by
      rw [List.getElem?_append_right (Nat.le_refl _), Nat.sub_self, List.head?_eq_getElem?]

theorem drop_length_preambleLines_succ (a : TextArtifact) (ls : List Line) :
    ls.drop ((a.preambleLines ls).length + 1) = (a.afterPreamble ls).tail :=
  calc ls.drop ((a.preambleLines ls).length + 1)
    _ = (a.preambleLines ls ++ a.afterPreamble ls).drop ((a.preambleLines ls).length + 1) := by
      rw [a.preambleLines_append_afterPreamble]
    _ = (a.afterPreamble ls).tail := by
      rw [← List.drop_drop, List.drop_left, List.drop_one]

/-- The year that detection finds in the preamble, or else the fallback year, is
the year a scan dated by the fallback year takes. -/
theorem preambleYear_none_or (a : TextArtifact) (year : Option Int) (ls : List Line) :
    (a.preambleYear none ls).or year = a.preambleYear year ls := by
  unfold preambleYear Preamble.yearOf
  split <;> simp

/-- Within the limit, detection counts the preamble lines of a source that ends
cleanly and takes the year they give. -/
theorem exec_detectLead (a : TextArtifact) {s : LineSource} (hs : s.EndsCleanly)
    (hlt : (a.preambleLines s.pending).length < maxDetectLines) :
    (a.detectLead LineSource.access).exec s =
      (.ok ((a.preambleLines s.pending).length, a.preambleYear none s.pending), s) := by
  unfold detectLead
  cases hp : a.preamble with
  | none => simp [preambleLines, preambleYear, hp, LineReading.exec_pure]
  | some p =>
    have hlt' : (s.pending.takeWhile p.takes).length ≤ maxDetectLines := by
      simp only [preambleLines, hp] at hlt
      omega
    -- the limit cuts no preamble line
    have htake : (s.pending.take maxDetectLines).takeWhile p.takes = s.pending.takeWhile p.takes := by
      rw [← List.take_takeWhile, List.take_of_length_le hlt']
    simp only [LineSource.exec_detectPreamble hs, List.drop_zero, Nat.zero_add, htake,
      preambleLines, preambleYear, hp, Preamble.yearOf]

/-- Under a lookahead boundary, within the limit, detection gathers the unit that
starts at line `index` of a source that ends cleanly as a scan does. -/
theorem exec_detectUnitText_lookahead (a : TextArtifact) {s : LineSource} (hs : s.EndsCleanly)
    {b : Pattern} (hb : a.grammar.boundary = .lookahead b) (index : Nat) (line : Line)
    (hlt : index + 1 + ((s.pending.drop (index + 1)).takeWhile (continuesUnit b)).length ≤
      maxDetectLines) :
    (a.detectUnitText LineSource.access index line).exec s =
      (.ok ("\n".intercalate
        (line.text :: ((s.pending.drop (index + 1)).takeWhile (continuesUnit b)).map (·.text))), s) := by
  have htake : ((s.pending.drop (index + 1)).take (maxDetectLines - (index + 1))).takeWhile
      (continuesUnit b) = (s.pending.drop (index + 1)).takeWhile (continuesUnit b) := by
    rw [← List.take_takeWhile, List.take_of_length_le (by omega)]
  simp only [detectUnitText, hb, LineSource.exec_detectGather hs, htake]

/-- Over a source that ends cleanly, detection judges a valid first line at
`index` by the unit text it reads. -/
theorem exec_detectUnitAt (a : TextArtifact) {s : LineSource} (hs : s.EndsCleanly) {index : Nat}
    {line : Line} (hline : s.pending[index]? = some line) (hv : line.validUtf8 = true)
    {text : String} (htext : (a.detectUnitText LineSource.access index line).exec s = (.ok text, s))
    (year : Option Int) :
    ((a.detectUnitAt LineSource.access index year).exec s).1 =
      .ok (match a.grammar.extract (Text.dropTrailingLineFeeds text) (year.or (some detectFallbackYear)) with
        | .error _ => false
        | .ok record => (a.emission.toEvent a.name (.line line.number) record a.hints).toBool) := by
  simp only [detectUnitAt, LineReading.exec_bind, LineSource.exec_lookAt hs, hline, hv, htext,
    Bool.not_true, Bool.false_eq_true, if_false]
  cases a.grammar.extract (Text.dropTrailingLineFeeds text) (year.or (some detectFallbackYear)) <;> rfl

/-- Whether a valid unit gives an event: its text reads and its record makes one. -/
theorem isSome_event?_outcome (a : TextArtifact) (year : Option Int) {u : TextUnit}
    (hv : u.validUtf8 = true) :
    (a.outcome year u).event?.isSome =
      match a.grammar.extract u.text year with
      | .error _ => false
      | .ok record => (a.emission.toEvent a.name (.line u.line) record a.hints).toBool := by
  simp only [outcome, hv, Bool.not_true, Bool.false_eq_true, if_false]
  cases a.grammar.extract u.text year with
  | error e => rfl
  | ok record =>
    dsimp only
    cases a.emission.toEvent a.name (.line u.line) record a.hints <;> rfl

/-- A first line that is valid UTF-8 and matches the anchor leaves detection to
the first line after the preamble, when the preamble is within the limit. -/
theorem detect_eq_detectUnitAt (a : TextArtifact) {s : LineSource} (hs : s.EndsCleanly)
    {first : Line} (hfirst : s.pending[0]? = some first) (hv : first.validUtf8 = true)
    (hm : a.anchor.isMatch first.text = true)
    (hlt : (a.preambleLines s.pending).length < maxDetectLines) :
    a.detect s =
      ((a.detectUnitAt LineSource.access (a.preambleLines s.pending).length
        (a.preambleYear none s.pending)).exec s).1 := by
  simp only [detect, detectWith, LineReading.exec_bind, LineSource.exec_lookAt hs, hfirst, hv, hm,
    Bool.not_true, Bool.or_self, Bool.false_eq_true, if_false, a.exec_detectLead hs hlt]

/-- Over a source that ends cleanly, whose lines hold no line feed and whose
first line passes the anchor, detection judges a unit that starts right after
the preamble and ends within the limit as a scan dated by the fallback year
does: it claims the source exactly when that unit gives an event. -/
theorem detect_of_first_unit (a : TextArtifact) {s : LineSource} (hs : s.EndsCleanly)
    {first : Line} (hfirst : s.pending[0]? = some first) (hv : first.validUtf8 = true)
    (hm : a.anchor.isMatch first.text = true) (hlf : ∀ l ∈ s.pending, '\n' ∉ l.text.toList)
    {lines : List Line} {u : TextUnit} {rest : List Span}
    (hspans : a.spans (a.afterPreamble s.pending) = .unit lines u :: rest)
    (hbound : (a.preambleLines s.pending).length + lines.length < maxDetectLines) :
    a.detect s = .ok (a.outcome (a.preambleYear (some detectFallbackYear) s.pending) u).event?.isSome := by
  obtain ⟨line, more, hafter⟩ : ∃ line more, a.afterPreamble s.pending = line :: more := by
    cases h : a.afterPreamble s.pending with
    | nil => rw [h, spans] at hspans; cases hspans
    | cons line more => exact ⟨line, more, rfl⟩
  have hline : s.pending[(a.preambleLines s.pending).length]? = some line := by
    rw [getElem?_length_preambleLines, hafter]; rfl
  have hdrop : s.pending.drop ((a.preambleLines s.pending).length + 1) = more := by
    rw [drop_length_preambleLines_succ, hafter]; rfl
  have hyear := a.preambleYear_none_or (some detectFallbackYear) s.pending
  rw [a.detect_eq_detectUnitAt hs hfirst hv hm (by omega)]
  rw [hafter, spans] at hspans
  -- the first span is a unit: its line is not blank
  split at hspans
  · cases hspans
  split at hspans
  case isTrue hinvalid =>
    -- a line that is not valid UTF-8 gives a warning, and detection rejects it
    simp only [List.cons.injEq, Span.unit.injEq] at hspans
    obtain ⟨⟨-, rfl⟩, -⟩ := hspans
    simp only [Bool.not_eq_true'] at hinvalid
    simp [detectUnitAt, LineReading.exec_bind, LineSource.exec_lookAt hs, hline, hinvalid,
      LineReading.exec_pure, outcome, Handed.event?]
  case isFalse hvalid =>
    have hvalid' : line.validUtf8 = true := by simpa using hvalid
    split at hspans
    case h_1 hb =>
      -- one line is the unit; it holds no line feed to drop
      simp only [List.cons.injEq, Span.unit.injEq] at hspans
      obtain ⟨⟨-, rfl⟩, -⟩ := hspans
      have hnolf := hlf line (List.mem_of_getElem? hline)
      have htext : (a.detectUnitText LineSource.access (a.preambleLines s.pending).length line).exec s =
          (.ok line.text, s) := by
        simp [detectUnitText, hb, LineReading.exec_pure]
      rw [a.exec_detectUnitAt hs hline hvalid' htext,
        a.isSome_event?_outcome _ rfl, Text.dropTrailingLineFeeds_of_not_mem hnolf, hyear]
    case h_2 b hb =>
      -- the unit takes the lines that continue it, all within the limit
      simp only [List.cons.injEq, Span.unit.injEq] at hspans
      obtain ⟨⟨rfl, rfl⟩, -⟩ := hspans
      simp only [List.length_cons] at hbound
      have htext := a.exec_detectUnitText_lookahead hs hb _ line (by rw [hdrop]; omega)
      rw [hdrop] at htext
      rw [a.exec_detectUnitAt hs hline hvalid' htext, a.isSome_event?_outcome _ rfl, hyear]

/-- A first line that is not valid UTF-8 or misses the anchor makes detection
reject the source. -/
theorem detect_of_first_rejected (a : TextArtifact) {s : LineSource} (hs : s.EndsCleanly)
    {first : Line} (hfirst : s.pending[0]? = some first)
    (hrejected : (first.validUtf8 && a.anchor.isMatch first.text) = false) :
    a.detect s = .ok false := by
  have hnot : (!first.validUtf8 || !a.anchor.isMatch first.text) = true := by
    cases hv : first.validUtf8 <;> simp_all
  simp only [detect, detectWith, LineReading.exec_bind, LineSource.exec_lookAt hs, hfirst, hnot,
    if_true]
  rfl

/-- Detection claims a source only when its first line is valid and passes the
anchor. -/
theorem first_passes_of_detect (a : TextArtifact) {s : LineSource} (hs : s.EndsCleanly)
    {first : Line} (hfirst : s.pending[0]? = some first) (hdetect : a.detect s = .ok true) :
    first.validUtf8 = true ∧ a.anchor.isMatch first.text = true := by
  cases hp : (first.validUtf8 && a.anchor.isMatch first.text)
  case false =>
    rw [a.detect_of_first_rejected hs hfirst hp] at hdetect
    cases hdetect
  case true => exact Bool.and_eq_true_iff.mp hp

/-- A blank first line after the preamble makes detection reject the source
when the grammar's first field needs a mark: the unit read there opens blank. -/
theorem detect_of_first_blank (a : TextArtifact)
    (hmark : ∃ f fs, a.grammar.fields = f :: fs ∧ f.matcher.NeedsMark) {s : LineSource}
    (hs : s.EndsCleanly) {first : Line} (hfirst : s.pending[0]? = some first)
    (hv : first.validUtf8 = true) (hm : a.anchor.isMatch first.text = true)
    {line : Line} {more : List Line} (hafter : a.afterPreamble s.pending = line :: more)
    (hblank : line.isBlank = true) (hlt : (a.preambleLines s.pending).length < maxDetectLines) :
    a.detect s = .ok false := by
  obtain ⟨f, fs, hg, hf⟩ := hmark
  have hline : s.pending[(a.preambleLines s.pending).length]? = some line := by
    rw [getElem?_length_preambleLines, hafter]; rfl
  have hvalid : line.validUtf8 = true := by
    simp only [Line.isBlank, Bool.and_eq_true] at hblank
    exact hblank.1
  have hws : ∀ c ∈ line.text.toList, Text.Unicode.isWhiteSpace c = true := by
    simpa [Line.isBlank, Text.isBlank, hvalid] using hblank
  -- whatever detection gathers, the unit opens with the blank line
  obtain ⟨texts, htext⟩ : ∃ texts : List String,
      (a.detectUnitText LineSource.access (a.preambleLines s.pending).length line).exec s =
        (.ok ("\n".intercalate (line.text :: texts)), s) := by
    cases hb : a.grammar.boundary with
    | line => exact ⟨[], by simp [detectUnitText, hb, LineReading.exec_pure]⟩
    | lookahead b =>
      refine ⟨(((s.pending.drop ((a.preambleLines s.pending).length + 1)).take
        (maxDetectLines - ((a.preambleLines s.pending).length + 1))).takeWhile
          (continuesUnit b)).map (·.text), ?_⟩
      simp only [detectUnitText, hb, LineSource.exec_detectGather hs]
  obtain ⟨e, he⟩ := Grammar.extract_of_opensBlank hg hf (opensBlank_unit hws texts)
    ((a.preambleYear none s.pending).or (some detectFallbackYear))
  rw [a.detect_eq_detectUnitAt hs hfirst hv hm hlt, a.exec_detectUnitAt hs hline hvalid htext, he]

/-- A line that is not blank starts a unit at its own line. -/
theorem spans_cons_of_not_blank (a : TextArtifact) {line : Line} (more : List Line)
    (hb : line.isBlank = false) :
    ∃ lines u rest, a.spans (line :: more) = .unit lines u :: rest ∧ u.line = line.number := by
  rw [spans]
  simp only [hb, Bool.false_eq_true, if_false]
  split
  · exact ⟨_, _, _, rfl, rfl⟩
  · split <;> exact ⟨_, _, _, rfl, rfl⟩

end TextArtifact

/-! ## Detection and the scan of a text -/

/-- An item that is an event. -/
theorem Handed.exists_eq_event_of_isSome {h : Handed} (hs : h.event?.isSome = true) :
    ∃ e, h = .event e := by
  cases h with
  | event e => exact ⟨e, rfl⟩
  | warning w => cases hs

/-- For a built-in text artifact and a text read without a fault, whose preamble
and first unit together span fewer lines than detection looks ahead, detection
and a scan dated by the fallback year agree on the first unit after the
preamble. The scan hands its sink `items`, in order. When detection claims the
text and a line follows the preamble, the first item is an event located at that
line. Conversely, when the first line is valid UTF-8 and matches the anchor, the
line after the preamble is not blank and the first item is an event, detection
claims the text. -/
theorem TextArtifact.detect_agrees_with_scan (a : TextArtifact)
    (ha : a ∈ Registry.builtin.textArtifacts) (bytes : List UInt8)
    (hbound : ∀ sp ∈ (a.spans (a.afterPreamble (splitLines bytes))).head?,
      (a.preambleLines (splitLines bytes)).length + sp.lines.length < maxDetectLines) :
    let items := (a.segment (splitLines bytes)).map
      (a.outcome (a.preambleYear (some detectFallbackYear) (splitLines bytes)))
    a.scanInto (some detectFallbackYear) (LineSource.ofBytes bytes) {} =
        (.ok (({} : Stats).tallyAll items), ({} : Collected).handAll items) ∧
      (a.detect (LineSource.ofBytes bytes) = .ok true → a.afterPreamble (splitLines bytes) ≠ [] →
        ∃ l e, (a.afterPreamble (splitLines bytes)).head? = some l ∧
          items.head? = some (.event e) ∧ e.location = .line l.number) ∧
      (∀ first l e, (splitLines bytes).head? = some first → first.validUtf8 = true →
        a.anchor.isMatch first.text = true → (a.afterPreamble (splitLines bytes)).head? = some l →
        l.isBlank = false → items.head? = some (.event e) →
        a.detect (LineSource.ofBytes bytes) = .ok true) := by
  intro items
  have hs : (LineSource.ofBytes bytes).EndsCleanly := Or.inl rfl
  have hpending : (LineSource.ofBytes bytes).pending = splitLines bytes := rfl
  have hlf : ∀ l ∈ (LineSource.ofBytes bytes).pending, '\n' ∉ l.text.toList :=
    lineFeed_not_mem_text_splitLines
  -- a line that is not blank after the preamble starts the first unit, whose
  -- outcome is the first item
  have hfirstUnit : ∀ {l more}, a.afterPreamble (splitLines bytes) = l :: more → l.isBlank = false →
      ∃ lines u rest, a.spans (a.afterPreamble (splitLines bytes)) = .unit lines u :: rest ∧
        u.line = l.number ∧ items.head? = some (a.outcome
          (a.preambleYear (some detectFallbackYear) (splitLines bytes)) u) := by
    intro l more hafter hb
    obtain ⟨lines, u, rest, hspans, hline⟩ := a.spans_cons_of_not_blank more hb
    rw [← hafter] at hspans
    refine ⟨lines, u, rest, hspans, hline, ?_⟩
    simp [items, segment, hspans, Span.unit?]
  refine ⟨?scan, ?claimed, ?event⟩
  case scan => exact a.scanInto_of_endsCleanly _ {} hs
  case claimed =>
    intro hdetect hne
    obtain ⟨l, more, hafter⟩ := List.exists_cons_of_ne_nil hne
    -- the text has a first line, and detection passed it
    obtain ⟨first, others, hls⟩ := List.exists_cons_of_ne_nil (a.ne_nil_of_afterPreamble_ne_nil hne)
    have hfirst : (splitLines bytes)[0]? = some first := by rw [hls]; rfl
    obtain ⟨hv, hm⟩ := a.first_passes_of_detect hs hfirst hdetect
    cases hb : l.isBlank
    case true =>
      -- a blank line after the preamble fails the grammar, so detection rejects
      have hlt := hbound (.blank l) (by simp [hafter, spans, hb])
      simp only [Span.lines, List.length_singleton] at hlt
      rw [a.detect_of_first_blank (a.firstField_needsMark ha) hs hfirst hv hm hafter hb
        (by rw [hpending]; omega)] at hdetect
      cases hdetect
    case false =>
      obtain ⟨lines, u, rest, hspans, hline, hhead⟩ := hfirstUnit hafter hb
      have hlt := hbound (.unit lines u) (by simp [hspans])
      rw [a.detect_of_first_unit hs hfirst hv hm hlf hspans hlt, hpending] at hdetect
      -- the first unit gives an event, located at its line
      obtain ⟨e, he⟩ := Handed.exists_eq_event_of_isSome (Except.ok.inj hdetect)
      have hloc := (a.handsOn_outcome (a.preambleYear (some detectFallbackYear) (splitLines bytes)) u).location
      rw [he] at hloc hhead
      exact ⟨l, e, by rw [hafter]; rfl, hhead, by rw [← hline]; exact hloc⟩
  case event =>
    intro first l e hfirst hv hm hl hb hitem
    obtain ⟨more, hafter⟩ := List.head?_eq_some_iff.mp hl
    obtain ⟨lines, u, rest, hspans, -, hhead⟩ := hfirstUnit hafter hb
    have hlt := hbound (.unit lines u) (by simp [hspans])
    have he : a.outcome (a.preambleYear (some detectFallbackYear) (splitLines bytes)) u = .event e :=
      Option.some.inj (hhead.symm.trans hitem)
    rw [a.detect_of_first_unit hs (by rwa [← List.head?_eq_getElem?]) hv hm hlf hspans hlt, hpending,
      he]
    rfl

/-- The bytes of one zsh history entry: `: 1:0;ls` and a line feed. -/
def zshOneEntry : List UInt8 := [58, 32, 49, 58, 48, 59, 108, 115, 10]

/-- On one zsh history entry, detection agrees with the scan. -/
theorem zsh_history_detect_agrees_with_scan :
    Builtin.zshExtendedHistory ∈ Registry.builtin.textArtifacts ∧
    (∀ sp ∈ (Builtin.zshExtendedHistory.spans
        (Builtin.zshExtendedHistory.afterPreamble (splitLines zshOneEntry))).head?,
      (Builtin.zshExtendedHistory.preambleLines (splitLines zshOneEntry)).length +
        sp.lines.length < maxDetectLines) ∧
    let items := (Builtin.zshExtendedHistory.segment (splitLines zshOneEntry)).map
      (Builtin.zshExtendedHistory.outcome (Builtin.zshExtendedHistory.preambleYear
        (some detectFallbackYear) (splitLines zshOneEntry)))
    Builtin.zshExtendedHistory.scanInto (some detectFallbackYear) (LineSource.ofBytes zshOneEntry) {} =
        (.ok (({} : Stats).tallyAll items), ({} : Collected).handAll items) ∧
      (Builtin.zshExtendedHistory.detect (LineSource.ofBytes zshOneEntry) = .ok true →
        Builtin.zshExtendedHistory.afterPreamble (splitLines zshOneEntry) ≠ [] →
        ∃ l e, (Builtin.zshExtendedHistory.afterPreamble (splitLines zshOneEntry)).head? = some l ∧
          items.head? = some (.event e) ∧ e.location = .line l.number) ∧
      (∀ first l e, (splitLines zshOneEntry).head? = some first →
        first.validUtf8 = true → Builtin.zshExtendedHistory.anchor.isMatch first.text = true →
        (Builtin.zshExtendedHistory.afterPreamble (splitLines zshOneEntry)).head? = some l →
        l.isBlank = false → items.head? = some (.event e) →
        Builtin.zshExtendedHistory.detect (LineSource.ofBytes zshOneEntry) = .ok true) :=
  have hmem : Builtin.zshExtendedHistory ∈ Registry.builtin.textArtifacts := List.mem_cons_self
  have hbound : ∀ sp ∈ (Builtin.zshExtendedHistory.spans
      (Builtin.zshExtendedHistory.afterPreamble (splitLines zshOneEntry))).head?,
      (Builtin.zshExtendedHistory.preambleLines (splitLines zshOneEntry)).length +
        sp.lines.length < maxDetectLines := by
    decide +kernel
  ⟨hmem, hbound, TextArtifact.detect_agrees_with_scan _ hmem _ hbound⟩

end Timeline
