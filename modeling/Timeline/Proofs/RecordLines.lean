import Mathlib
import Timeline.Proofs.FirstUnit
import Timeline.Proofs.JoinedLines
/-!
# Records written over several lines

A log whose records may span lines opens each record with a line that a
pattern recognises, and a record runs up to the next such line. This module
reads a text of such records, each ended by a line feed, back through the
scanner's splitter and through the reference splitter of units
(`TextArtifact.segment`).

* `linesOf` cuts a text at its line feeds, and `lineCount` counts its lines.
* `IsRecord b r`: the first line of `r` is not blank and `b` matches it, `b`
  matches none of its later lines, and `r` does not end with a line feed.
* `spans_records`: under the lookahead boundary `b`, the lines of such records
  make one unit per record, each at its first line (`recordUnits`;
  `recordUnits_eq_zipIdx` gives the line numbers in closed form).
* `splitLines_records`: records each ended by a line feed are read as their
  lines, numbered from 1; `segment_records` puts the two together.
* `segment_preamble_records`: behind lines that the preamble takes, the units
  are still the records, and the year that dates them is the preamble's.
-/

namespace Timeline

/-! ## Lines of a text -/

section SplitOn

variable {α : Type} [BEq α]

/-- A list cut at a separator falls into one piece more than it has separators. -/
theorem length_splitOn (x : α) (xs : List α) : (xs.splitOn x).length = xs.count x + 1 := by
  induction xs with
  | nil => simp
  | cons c xs ih =>
    rw [List.splitOn_cons_eq_if_modifyHead, List.count_cons]
    split <;> simp_all

variable [LawfulBEq α]

/-- A piece of a list cut at a separator holds no separator, and only elements
of the list. -/
theorem not_mem_of_mem_splitOn {x : α} {xs l : List α} (h : l ∈ xs.splitOn x) :
    x ∉ l ∧ l ⊆ xs := by
  induction xs generalizing l with
  | nil =>
    simp only [List.splitOn_nil, List.mem_singleton] at h
    subst h
    simp
  | cons c xs ih =>
    rw [List.splitOn_cons_eq_if_modifyHead] at h
    split at h
    · rcases List.mem_cons.mp h with rfl | h
      · simp
      · exact ⟨(ih h).1, List.Subset.trans (ih h).2 (List.subset_cons_self c xs)⟩
    · rename_i hc
      obtain ⟨p, ps, hps⟩ := List.exists_cons_of_ne_nil (List.splitOn_ne_nil x xs)
      rw [hps, List.modifyHead_cons] at h
      rcases List.mem_cons.mp h with rfl | h
      · -- the first piece grows by the element in front, which is no separator
        have hp := ih (hps ▸ List.mem_cons_self)
        have hcx : c ≠ x := fun hcx => hc (by simp [hcx])
        exact ⟨by simp [hp.1, Ne.symm hcx], List.cons_subset_cons c hp.2⟩
      · have hq := ih (hps ▸ List.mem_cons_of_mem _ h)
        exact ⟨hq.1, List.Subset.trans hq.2 (List.subset_cons_self c xs)⟩

/-- A piece without separators in front of a list joins its first piece. -/
theorem splitOn_append_of_not_mem {x : α} {pre : List α} (h : x ∉ pre) (xs : List α) :
    (pre ++ xs).splitOn x = (xs.splitOn x).modifyHead (pre ++ ·) := by
  induction pre with
  | nil => exact (congrFun List.modifyHead_id _).symm
  | cons c pre ih =>
    have hc : (c == x) = false := by
      simpa using fun hcx : c = x => h (hcx ▸ List.mem_cons_self)
    rw [List.cons_append, List.splitOn_cons_eq_if_modifyHead, if_neg (by simp [hc]),
      ih (fun h' => h (List.mem_cons_of_mem _ h')), List.modifyHead_modifyHead]
    rfl

end SplitOn

/-- The lines of a text: its characters cut at each line feed. -/
def linesOf (s : String) : List String :=
  (s.toList.splitOn '\n').map String.ofList

/-- The number of lines a text takes: one more than its line feeds. -/
def lineCount (s : String) : Nat :=
  s.toList.count '\n' + 1

theorem length_linesOf (s : String) : (linesOf s).length = lineCount s := by
  simp [linesOf, lineCount, length_splitOn]

theorem exists_linesOf (s : String) : ∃ l rest, linesOf s = l :: rest := by
  obtain ⟨p, ps, h⟩ := List.exists_cons_of_ne_nil (List.splitOn_ne_nil '\n' s.toList)
  exact ⟨_, _, by rw [linesOf, h, List.map_cons]⟩

/-- A line of a text holds no line feed, and only characters of the text. -/
theorem lineFeed_not_mem_of_mem_linesOf {s l : String} (h : l ∈ linesOf s) :
    '\n' ∉ l.toList ∧ l.toList ⊆ s.toList := by
  obtain ⟨p, hp, rfl⟩ := List.mem_map.mp h
  simpa using not_mem_of_mem_splitOn hp

/-- A text without line feeds in front of another joins its first line. -/
theorem linesOf_append {pre s l : String} {rest : List String} (h : '\n' ∉ pre.toList)
    (hs : linesOf s = l :: rest) : linesOf (pre ++ s) = (pre ++ l) :: rest := by
  obtain ⟨p, ps, hp⟩ := List.exists_cons_of_ne_nil (List.splitOn_ne_nil '\n' s.toList)
  rw [linesOf, hp, List.map_cons, List.cons.injEq] at hs
  rw [linesOf, String.toList_append, splitOn_append_of_not_mem h, hp, List.modifyHead_cons,
    List.map_cons, hs.2, ← hs.1, String.ofList_append, String.ofList_toList]

/-- A text is its lines joined by line feeds. -/
theorem intercalate_linesOf (s : String) : "\n".intercalate (linesOf s) = s := by
  have hsep : "\n".toList = ['\n'] := rfl
  rw [← String.toList_inj, String.toList_intercalate, linesOf, List.map_map, hsep]
  simp [Function.comp_def, List.intercalate_splitOn]

/-- Dropping the line feeds at the end of a text that does not end with one
changes nothing. -/
theorem Text.dropTrailingLineFeeds_of_getLast? {s : String} (h : s.toList.getLast? ≠ some '\n') :
    Text.dropTrailingLineFeeds s = s := by
  unfold Text.dropTrailingLineFeeds
  rw [← List.head?_reverse] at h
  cases hr : s.toList.reverse with
  | nil =>
    rw [List.dropWhile_nil, List.reverse_nil, ← List.reverse_eq_nil_iff.mp hr, String.ofList_toList]
  | cons c cs =>
    have hc : c ≠ '\n' := fun hc => h (by rw [hr, hc]; rfl)
    rw [List.dropWhile_cons_of_neg (by simpa using hc), ← hr, List.reverse_reverse,
      String.ofList_toList]

/-- Lines each ended by a line feed are their texts joined by line feeds, with
one more at the end. -/
theorem flatMap_lineFeed {ls : List (List Char)} (h : ls ≠ []) :
    ls.flatMap (· ++ ['\n']) = ['\n'].intercalate ls ++ ['\n'] := by
  obtain ⟨init, last, rfl⟩ := (List.eq_nil_or_concat ls).resolve_left h
  simp only [List.concat_eq_append, intercalate_lineFeed, List.flatMap_append, List.flatMap_singleton,
    List.append_assoc]

/-- Lines without line feeds, joined by line feeds, are the lines of the text
they make. -/
theorem linesOf_intercalate {ls : List String} (h : ∀ l ∈ ls, '\n' ∉ l.toList) (hne : ls ≠ []) :
    linesOf ("\n".intercalate ls) = ls := by
  have hsep : "\n".toList = ['\n'] := rfl
  have hsplit : (['\n'].intercalate (ls.map String.toList)).splitOn '\n' = ls.map String.toList :=
    List.splitOn_intercalate '\n' (by simpa using h) (by simpa using hne)
  rw [linesOf, String.toList_intercalate, hsep, hsplit, List.map_map]
  simp [Function.comp_def]

/-- A text without line feeds is one line. -/
theorem linesOf_of_lineFeed_not_mem {s : String} (h : '\n' ∉ s.toList) : linesOf s = [s] := by
  simpa using @linesOf_intercalate [s] (by simpa using h) (by simp)

/-- A character of lines joined by line feeds is a line feed or a character of a line. -/
theorem mem_intercalate_lineFeed {x : Char} {ls : List String} (h : x ∈ ("\n".intercalate ls).toList) :
    x = '\n' ∨ ∃ l ∈ ls, x ∈ l.toList := by
  induction ls with
  | nil => simp at h
  | cons l ls ih =>
    cases ls with
    | nil => exact .inr ⟨l, List.mem_singleton_self l, by simpa using h⟩
    | cons l' ls =>
      rw [String.intercalate_cons_cons, String.toList_append, String.toList_append, List.mem_append,
        List.mem_append] at h
      rcases h with (h | h) | h
      · exact .inr ⟨l, List.mem_cons_self, h⟩
      · exact .inl (by simpa using h)
      · rcases ih h with h | ⟨t, ht, hx⟩
        · exact .inl h
        · exact .inr ⟨t, List.mem_cons_of_mem _ ht, hx⟩

/-- Lines joined by line feeds end as their last line does, when it is not empty. -/
theorem getLast?_intercalate_lineFeed {ls : List String} {l : String} (h : ls.getLast? = some l)
    (hl : l.toList ≠ []) : ("\n".intercalate ls).toList.getLast? = l.toList.getLast? := by
  have hsep : "\n".toList = ['\n'] := rfl
  obtain ⟨init, rfl⟩ := List.getLast?_eq_some_iff.mp h
  rw [String.toList_intercalate, hsep, List.map_append, List.map_singleton, intercalate_lineFeed,
    List.getLast?_append_of_ne_nil _ hl]

/-- Lines each ended by a line feed are the lines joined by line feeds, with one
more at the end. -/
theorem join_map_lineFeed {ls : List String} (hne : ls ≠ []) :
    String.join (ls.map (· ++ "\n")) = "\n".intercalate ls ++ "\n" := by
  have hsep : "\n".toList = ['\n'] := rfl
  rw [← String.toList_inj, String.toList_append, String.toList_intercalate, String.toList_join, hsep,
    ← flatMap_lineFeed (by simpa using hne), List.flatMap_map, List.flatMap_map]
  simp [String.toList_append, hsep]

/-! ## Records -/

/-- A text that the lookahead boundary `b` reads as one record: its first line
is not blank and `b` matches it, `b` matches none of its later lines, and it
does not end with a line feed. -/
structure IsRecord (b : Pattern) (r : String) : Prop where
  opens : ∀ l ∈ (linesOf r).head?, Text.isBlank l = false ∧ b.isMatch l = true
  continues : ∀ l ∈ (linesOf r).tail, b.isMatch l = false
  last : r.toList.getLast? ≠ some '\n'

/-- The units that records make, each at its first line, the first record at
line `first`. -/
def recordUnits (first : Nat) : List String → List TextUnit
  | [] => []
  | r :: rs => ⟨first, r, true⟩ :: recordUnits (first + lineCount r) rs

/-- Each record opens on the line after the lines of the records before it. -/
theorem recordUnits_eq_zipIdx (first : Nat) (rs : List String) :
    recordUnits first rs =
      rs.zipIdx.map fun p => ⟨first + ((rs.take p.2).map lineCount).sum, p.1, true⟩ := by
  induction rs generalizing first with
  | nil => rfl
  | cons r rs ih =>
    rw [recordUnits, ih, List.zipIdx_cons', List.map_cons, List.map_map]
    simp [Function.comp_def, Nat.add_assoc]

theorem map_text_textLines (n : Nat) (ts : List String) : (textLines n ts).map Line.text = ts := by
  induction ts generalizing n with
  | nil => rfl
  | cons t ts ih => simp [textLines, ih]

variable {b : Pattern}

theorem continuesUnit_textLines {ts : List String} (h : ∀ t ∈ ts, b.isMatch t = false) (n : Nat) :
    ∀ l ∈ textLines n ts, continuesUnit b l = true := by
  induction ts generalizing n with
  | nil => simp [textLines]
  | cons t ts ih =>
    intro l hl
    rcases List.mem_cons.mp hl with rfl | hl
    · simp [continuesUnit, h t List.mem_cons_self]
    · exact ih (fun t' ht' => h t' (List.mem_cons_of_mem _ ht')) (n + 1) l hl

/-- The first line of the next record stops a unit. -/
theorem head?_textLines_records {rs : List String} (h : ∀ r ∈ rs, IsRecord b r) (n : Nat) :
    ∀ l ∈ (textLines n (rs.flatMap linesOf)).head?, continuesUnit b l = false := by
  cases rs with
  | nil => simp [textLines]
  | cons r rs =>
    obtain ⟨l, rest, hl⟩ := exists_linesOf r
    have hopen := (h r List.mem_cons_self).opens l (by simp [hl])
    simp [hl, textLines, continuesUnit, hopen.2]

/-- A unit that takes the lines that continue it, and stops at a line that does not. -/
theorem takeWhile_dropWhile_append {p : Line → Bool} {xs ys : List Line} (hx : ∀ x ∈ xs, p x = true)
    (hy : ∀ y ∈ ys.head?, p y = false) :
    (xs ++ ys).takeWhile p = xs ∧ (xs ++ ys).dropWhile p = ys := by
  rw [List.takeWhile_append_of_pos hx, List.dropWhile_append_of_pos hx]
  cases ys with
  | nil => simp
  | cons y ys => simp [hy y rfl]

namespace TextArtifact

variable {a : TextArtifact}

/-- Under a lookahead boundary, the lines of records make one unit per record,
each at its first line and with the record's text. -/
theorem spans_records (hb : a.grammar.boundary = .lookahead b) (n : Nat) (rs : List String)
    (hrec : ∀ r ∈ rs, IsRecord b r) :
    (a.spans (textLines n (rs.flatMap linesOf))).filterMap Span.unit? = recordUnits n rs := by
  induction rs generalizing n with
  | nil => simp [textLines, spans, recordUnits]
  | cons r rs ih =>
    have hr := hrec r List.mem_cons_self
    have hrs : ∀ r ∈ rs, IsRecord b r := fun r' h => hrec r' (List.mem_cons_of_mem _ h)
    obtain ⟨l, rest, hl⟩ := exists_linesOf r
    have hopen := hr.opens l (by simp [hl])
    have hcont : ∀ t ∈ rest, b.isMatch t = false := fun t ht => hr.continues t (by rw [hl]; exact ht)
    -- the record's later lines continue its unit, and the next record's first line stops it
    obtain ⟨htake, hdrop⟩ := takeWhile_dropWhile_append (continuesUnit_textLines hcont (n + 1))
      (head?_textLines_records hrs (n + 1 + rest.length))
    have htext : Text.dropTrailingLineFeeds
        ("\n".intercalate (l :: (textLines (n + 1) rest).map Line.text)) = r := by
      rw [map_text_textLines, ← hl, intercalate_linesOf, Text.dropTrailingLineFeeds_of_getLast? hr.last]
    have hlen : n + 1 + rest.length = n + lineCount r := by
      rw [← length_linesOf, hl, List.length_cons]
      omega
    rw [List.flatMap_cons, hl, List.cons_append, textLines, textLines_append, spans]
    simp only [Line.isBlank, hopen.1, Bool.and_false, Bool.false_eq_true, if_false, Bool.not_true, hb,
      htake, hdrop, htext, List.filterMap_cons, Span.unit?]
    rw [hlen, ih _ hrs, recordUnits]

end TextArtifact

/-! ## Records each ended by a line feed -/

/-- Records each ended by a line feed are read as their lines, numbered from 1,
when none of their lines ends with a carriage return and the text does not
open with a byte order mark. -/
theorem splitLines_records (rs : List String)
    (hcr : ∀ r ∈ rs, ∀ l ∈ linesOf r, l.toList.getLast? ≠ some '\r')
    (hbom : ∀ r ∈ rs.head?, r.toList.head? ≠ some '\uFEFF') :
    splitLines (String.join (rs.map (· ++ "\n"))).toUTF8.toList = textLines 1 (rs.flatMap linesOf) := by
  have hsep : "\n".toList = ['\n'] := rfl
  -- each record is its lines, each ended by a line feed
  have hchars : (String.join (rs.map (· ++ "\n"))).toList =
      (rs.flatMap fun (r : String) => r.toList.splitOn '\n').flatMap (· ++ ['\n']) ++ [] := by
    rw [String.toList_join, List.flatMap_map, List.append_nil, List.flatMap_assoc]
    refine List.flatMap_congr fun r _ => ?_
    rw [String.toList_append, hsep, flatMap_lineFeed (List.splitOn_ne_nil _ _), List.intercalate_splitOn]
  have hinit : ∀ l ∈ rs.flatMap fun (r : String) => r.toList.splitOn '\n', '\n' ∉ l := by
    intro l hl
    obtain ⟨r, -, hl⟩ := List.mem_flatMap.mp hl
    exact (not_mem_of_mem_splitOn hl).1
  have hhead : ((rs.flatMap fun (r : String) => r.toList.splitOn '\n').flatMap (· ++ ['\n']) ++ []).head? ≠
      some '\uFEFF' := by
    rw [← hchars, String.toList_join]
    cases rs with
    | nil => simp
    | cons r rs =>
      have h := hbom r rfl
      simp only [List.map_cons, List.flatMap_cons, String.toList_append, hsep]
      cases hr : r.toList with
      | nil => simp
      | cons c cs => simpa [hr] using h
  rw [toList_toUTF8, hchars, splitLines_encoded _ _ hinit List.not_mem_nil hhead, if_pos rfl,
    List.append_nil, List.map_flatMap]
  -- the lines of a record keep their carriage returns, none ending one
  congr 1
  refine List.flatMap_congr fun r hr => List.map_congr_left fun l hl => ?_
  have hkeep : dropFinalCR l = l :=
    dropFinalCR_of_getLast? (by simpa using hcr r hr (String.ofList l) (List.mem_map_of_mem hl))
  simp [hkeep]

/-- Lines without line feeds, then records, each ended by a line feed, are read
as those lines numbered from 1 and the lines of the records after them. -/
theorem splitLines_lines_records (hs rs : List String) (hhs : ∀ h ∈ hs, '\n' ∉ h.toList ∧ '\r' ∉ h.toList)
    (hcr : ∀ r ∈ rs, ∀ l ∈ linesOf r, l.toList.getLast? ≠ some '\r')
    (hbom : ∀ r ∈ (hs ++ rs).head?, r.toList.head? ≠ some '\uFEFF') :
    splitLines (String.join ((hs ++ rs).map (· ++ "\n"))).toUTF8.toList =
      textLines 1 hs ++ textLines (1 + hs.length) (rs.flatMap linesOf) := by
  have hone : ∀ h ∈ hs, linesOf h = [h] := fun h hh => linesOf_of_lineFeed_not_mem (hhs h hh).1
  have hall : ∀ r ∈ hs ++ rs, ∀ l ∈ linesOf r, l.toList.getLast? ≠ some '\r' := by
    intro r hr l hl
    rcases List.mem_append.mp hr with hr | hr
    · rw [hone r hr, List.mem_singleton] at hl
      rw [hl]
      exact fun h => (hhs r hr).2 (List.mem_of_getLast? h)
    · exact hcr r hr l hl
  have hflat : hs.flatMap linesOf = hs := by
    rw [List.flatMap_congr hone, List.flatMap_singleton']
  rw [splitLines_records (hs ++ rs) hall hbom, List.flatMap_append, textLines_append, hflat]

namespace TextArtifact

variable {a : TextArtifact}

/-- The units of records each ended by a line feed, under a lookahead boundary
and without a preamble, are the records, each at its first line. -/
theorem segment_records (hp : a.preamble = none) (hb : a.grammar.boundary = .lookahead b)
    (rs : List String) (hrec : ∀ r ∈ rs, IsRecord b r) (hcr : ∀ r ∈ rs, '\r' ∉ r.toList)
    (hbom : ∀ r ∈ rs.head?, r.toList.head? ≠ some '\uFEFF') :
    a.segment (splitLines (String.join (rs.map (· ++ "\n"))).toUTF8.toList) = recordUnits 1 rs := by
  have hlines : ∀ r ∈ rs, ∀ l ∈ linesOf r, l.toList.getLast? ≠ some '\r' := fun r hr l hl h =>
    hcr r hr ((lineFeed_not_mem_of_mem_linesOf hl).2 (List.mem_of_getLast? h))
  rw [splitLines_records rs hlines hbom, segment, afterPreamble, hp]
  exact spans_records hb 1 rs hrec

/-- Lines that the preamble takes, in front of records each ended by a line
feed whose first line it does not take: under a lookahead boundary the units
are the records, each at its first line after the preamble, and the year that
dates them is that of the last preamble line that carries one. -/
theorem segment_preamble_records {p : Preamble} (hp : a.preamble = some p)
    (hb : a.grammar.boundary = .lookahead b) (year : Option Int) (hs rs : List String)
    (hhs : ∀ h ∈ hs, '\n' ∉ h.toList ∧ '\r' ∉ h.toList ∧ (p.classify h).isSome)
    (hrec : ∀ r ∈ rs, IsRecord b r) (hcr : ∀ r ∈ rs, ∀ l ∈ linesOf r, l.toList.getLast? ≠ some '\r')
    (hfirst : ∀ r ∈ rs.head?, ∀ l ∈ (linesOf r).head?, p.classify l = none)
    (hbom : ∀ r ∈ (hs ++ rs).head?, r.toList.head? ≠ some '\uFEFF') :
    a.segment (splitLines (String.join ((hs ++ rs).map (· ++ "\n"))).toUTF8.toList) =
        recordUnits (1 + hs.length) rs ∧
      a.preambleYear year (splitLines (String.join ((hs ++ rs).map (· ++ "\n"))).toUTF8.toList) =
        ((hs.filterMap fun h => (p.classify h).join).getLast?).or year := by
  rw [splitLines_lines_records hs rs (fun h hh => ⟨(hhs h hh).1, (hhs h hh).2.1⟩) hcr hbom]
  -- the preamble takes its lines and stops at the first line of the records
  have htake : ∀ l ∈ textLines 1 hs, p.takes l = true := by
    intro l hl
    have hmem : l.text ∈ hs := by
      rw [← map_text_textLines 1 hs]
      exact List.mem_map_of_mem hl
    simpa [Preamble.takes] using (hhs l.text hmem).2.2
  have hstop : ∀ l ∈ (textLines (1 + hs.length) (rs.flatMap linesOf)).head?, p.takes l = false := by
    cases rs with
    | nil => simp [textLines]
    | cons r rs =>
      obtain ⟨l, rest, hl⟩ := exists_linesOf r
      simp [hl, textLines, Preamble.takes, hfirst r rfl l (by simp [hl])]
  obtain ⟨htw, hdw⟩ := takeWhile_dropWhile_append htake hstop
  refine ⟨?_, ?_⟩
  · simp only [segment, afterPreamble, hp, hdw]
    exact spans_records hb _ rs hrec
  · have hfilter : (textLines 1 hs).filterMap (fun l => (p.classify l.text).join) =
        hs.filterMap fun h => (p.classify h).join := by
      conv_rhs => rw [← map_text_textLines 1 hs]
      rw [List.filterMap_map]
      rfl
    simp only [preambleYear, hp, Preamble.yearOf, htw, hfilter]

/-- A scan of a source that ends cleanly, each of whose units makes an event,
succeeds and hands on those events, in order, and no warning. -/
theorem scan_of_makesEvent (year : Option Int) {s : LineSource} (hs : s.EndsCleanly)
    {events : List Event}
    (h : List.Forall₂ (a.MakesEvent (a.preambleYear year s.pending)) (a.segment s.pending) events) :
    ∃ scan, a.scan year s = .ok scan ∧ scan.collected.events.toList = events ∧
      scan.collected.warnings = #[] ∧ scan.stats = ⟨events.length, events.length, 0⟩ := by
  -- every unit is handed on as its event
  have hitems := map_outcome_of_makesEvent h
  have hev : (events.map Handed.event).filterMap Handed.event? = events := by
    simp [List.filterMap_map, Function.comp_def, Handed.event?]
  have hwarn : (events.map Handed.event).filterMap Handed.warning? = [] := by
    simp [List.filterMap_map, Function.comp_def, Handed.warning?]
  refine ⟨_, by rw [scan, scanInto_of_endsCleanly a year {} hs, hitems], ?_, ?_, ?_⟩
  · simpa [hev] using handAll_events {} (events.map .event)
  · have := handAll_warnings {} (events.map .event)
    rw [hwarn] at this
    exact Array.toList_eq_nil_iff.mp this
  · rw [tallyAll_eq, hev, hwarn]
    simp

end TextArtifact

end Timeline
