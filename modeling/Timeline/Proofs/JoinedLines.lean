import Mathlib
import Timeline.Proofs.EncodedText
import Timeline.Proofs.LineUnits
/-!
# Texts written one line at a time

A log that a program writes one line at a time is its lines joined by line
feeds. This module reads such a text back through the scanner's splitter and,
for an artifact whose units are single lines and that has no preamble, through
the reference splitter of units (`TextArtifact.segment`).

* `segment_textLines`: under a line boundary and without a preamble, every
  line that is not blank is a unit of its own, at its number and with its text.
* `segment_intercalate`: the units of lines joined by line feeds are the
  written lines that are not blank, each at its place in the text, when those
  lines carry no carriage return.
-/

namespace Timeline

/-! ## Lines joined by line feeds -/

theorem intercalate_lineFeed (init : List (List Char)) (last : List Char) :
    ['\n'].intercalate (init ++ [last]) = init.flatMap (· ++ ['\n']) ++ last := by
  induction init with
  | nil => simp
  | cons l init ih =>
    cases init with
    | nil => simp [List.intercalate]
    | cons l' init => simp_all [List.intercalate_cons_cons]

/-- Lines joined by line feeds open with the first line, or with a line feed
after an empty first line. -/
theorem head?_intercalate_lineFeed {t : List Char} (ts : List (List Char)) {c : Char}
    (h : (['\n'].intercalate (t :: ts)).head? = some c) : t.head? = some c ∨ (t = [] ∧ c = '\n') := by
  cases t with
  | cons d t =>
    left
    simpa using h
  | nil =>
    right
    refine ⟨rfl, ?_⟩
    cases ts with
    | nil => simp at h
    | cons t' ts => simpa using h.symm

/-! ## Carriage returns -/

/-- A line that does not end with a carriage return keeps the ones it has. -/
theorem dropFinalCR_of_getLast? {cs : List Char} (h : cs.getLast? ≠ some '\r') : dropFinalCR cs = cs := by
  unfold dropFinalCR
  rw [if_neg h]

theorem dropFinalCR_of_not_mem {cs : List Char} (h : '\r' ∉ cs) : dropFinalCR cs = cs :=
  dropFinalCR_of_getLast? fun hlast => h (List.mem_of_getLast? hlast)

/-- A blank line stays blank without its carriage return. -/
theorem isBlank_dropFinalCR {cs : List Char} (h : Text.isBlank (String.ofList cs) = true) :
    Text.isBlank (String.ofList (dropFinalCR cs)) = true := by
  unfold dropFinalCR
  split
  · simp only [Text.isBlank, String.toList_ofList, List.all_eq_true] at h ⊢
    exact fun c hc => h c (List.dropLast_subset cs hc)
  · exact h

/-- The lines that are not blank, paired with their numbers. -/
theorem filter_zipIdx_map {f : String → String} (n : Nat) (ts : List String)
    (hf : ∀ t ∈ ts, Text.isBlank (f t) = Text.isBlank t ∧ (Text.isBlank t = false → f t = t)) :
    ((ts.map f).zipIdx n).filter (fun p => !Text.isBlank p.1) =
      (ts.zipIdx n).filter (fun p => !Text.isBlank p.1) := by
  induction ts generalizing n with
  | nil => rfl
  | cons t ts ih =>
    obtain ⟨hblank, hsame⟩ := hf t List.mem_cons_self
    have hrest := ih (n + 1) (fun t' h => hf t' (List.mem_cons_of_mem _ h))
    simp only [List.map_cons, List.zipIdx_cons, List.filter_cons, hblank, hrest]
    cases hb : Text.isBlank t with
    | true => rfl
    | false => rw [hsame hb]

/-! ## Units of single lines -/

namespace TextArtifact

variable {a : TextArtifact}

/-- Under a line boundary, every line that is not blank is a unit of its own. -/
theorem spans_textLines (hb : a.grammar.boundary = .line) (n : Nat) (ts : List String) :
    (a.spans (textLines n ts)).filterMap Span.unit? =
      ((ts.zipIdx n).filter fun p => !Text.isBlank p.1).map fun p => ⟨p.2, p.1, true⟩ := by
  induction ts generalizing n with
  | nil => simp [textLines, spans]
  | cons t ts ih =>
    rw [textLines, spans]
    cases hblank : Text.isBlank t with
    | true => simp [Line.isBlank, hblank, List.filterMap_cons, Span.unit?, ih]
    | false => simp [Line.isBlank, hblank, hb, Span.unit?, ih]

theorem segment_textLines (hp : a.preamble = none) (hb : a.grammar.boundary = .line) (n : Nat)
    (ts : List String) :
    a.segment (textLines n ts) =
      ((ts.zipIdx n).filter fun p => !Text.isBlank p.1).map fun p => ⟨p.2, p.1, true⟩ := by
  rw [segment, afterPreamble, hp]
  exact spans_textLines hb n ts

/-- The units of lines joined by line feeds, under a line boundary and without a
preamble, are the lines that are not blank, each at its place in the text: when
those lines carry no line feed and no carriage return, and the text does not
open with a byte order mark. -/
theorem segment_intercalate (hp : a.preamble = none) (hb : a.grammar.boundary = .line)
    (ts : List String) (hlf : ∀ t ∈ ts, '\n' ∉ t.toList)
    (hcr : ∀ t ∈ ts, Text.isBlank t = false → '\r' ∉ t.toList)
    (hbom : ("\n".intercalate ts).toList.head? ≠ some '\uFEFF') :
    a.segment (splitLines ("\n".intercalate ts).toUTF8.toList) =
      ((ts.zipIdx 1).filter fun p => !Text.isBlank p.1).map fun p => ⟨p.2, p.1, true⟩ := by
  rcases List.eq_nil_or_concat ts with rfl | ⟨init, last, rfl⟩
  · simp [segment, afterPreamble, hp, spans, splitLines, cutLines, cutLinesFrom, numberLines]
  simp only [List.concat_eq_append] at hlf hcr hbom ⊢
  have hsep : "\n".toList = ['\n'] := rfl
  -- the text is the encoding of the written lines, each but the last ended by a line feed
  have hchars : ("\n".intercalate (init ++ [last])).toUTF8.toList =
      ((init.map String.toList).flatMap (· ++ ['\n']) ++ last.toList).flatMap String.utf8EncodeChar := by
    rw [toList_toUTF8, String.toList_intercalate, hsep, List.map_append, List.map_singleton,
      intercalate_lineFeed]
  have hinit : ∀ l ∈ init.map String.toList, '\n' ∉ l := by
    simp only [List.mem_map]
    rintro l ⟨t, ht, rfl⟩
    exact hlf t (List.mem_append_left _ ht)
  have hbom' : ((init.map String.toList).flatMap (· ++ ['\n']) ++ last.toList).head? ≠ some '\uFEFF' := by
    rwa [String.toList_intercalate, hsep, List.map_append, List.map_singleton,
      intercalate_lineFeed] at hbom
  rw [hchars, splitLines_encoded _ _ hinit (hlf last (by simp)) hbom', segment_textLines hp hb,
    List.zipIdx_append, List.filter_append, List.zipIdx_append, List.filter_append, List.map_map]
  -- the written lines but the last lose only the carriage returns of blank lines
  have hfirst := filter_zipIdx_map (f := String.ofList ∘ dropFinalCR ∘ String.toList) 1 init
    fun t ht => by
      cases hblank : Text.isBlank t with
      | true =>
        refine ⟨isBlank_dropFinalCR (by simpa using hblank), fun h => by cases h⟩
      | false =>
        have hkeep : dropFinalCR t.toList = t.toList :=
          dropFinalCR_of_not_mem (hcr t (List.mem_append_left _ ht) hblank)
        simp [hkeep, hblank]
  -- an empty last line is not counted, and would have been blank
  have hlast : ∀ k, ((if last.toList = [] then [] else [String.ofList last.toList]).zipIdx k).filter
      (fun p => !Text.isBlank p.1) = ([last].zipIdx k).filter (fun p => !Text.isBlank p.1) := by
    intro k
    split
    · rename_i hempty
      simp [Text.isBlank, hempty]
    · simp
  rw [List.length_map, hlast, ← hfirst]
  rfl

end TextArtifact

end Timeline
