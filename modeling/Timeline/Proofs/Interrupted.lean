import Mathlib.Data.List.TakeWhile
import Timeline.Proofs.TextScan
import Timeline.Artifact.Builtin
/-!
# Scans of interrupted sources

A reader may deliver the first bytes of a text and then fail every read. Its
source holds the complete lines of what was delivered, and then the fault
(`LineSource.ofBytes` with an `Interruption`). This module compares the scan of
such a source with the scan of the text cut just after its last line feed.

* Cutting. `throughLastLineFeed` cuts a text after its last line feed, and
  `ofBytes_interrupted` shows that the interrupted source holds exactly the
  lines of the cut text.
* Reads against a clean end. `LineSource.clean` is a source with the same lines
  whose data ends after them. `ReadsLikeClean` relates one read from a source to
  the read from its clean twin: a read fails only with the source's fault, finds
  no unit only where the data ends cleanly, and a unit it finds is the clean
  twin's. So the units read are a prefix of the clean twin's
  (`readUnits_prefix_clean`), and an I/O fault stops the reading
  (`readUnits_fault`).
* Scans. A scan of a source whose other end went away is the scan of its lines
  (`scanInto_of_endsCleanly`); one whose reads fail with an I/O error hands on
  the items of a prefix of the units and fails with the error
  (`scanInto_of_io`).

The main statement, `scanInto_interrupted`, puts these together for a text
delivered up to some byte: a closed source scans exactly as the cut text, and an
I/O fault loses at most the units from the one in progress on.
-/

namespace Timeline

/-! ## Cutting a text after its last line feed -/

/-- A text cut just after its last line feed; empty when it has none. -/
def throughLastLineFeed (bytes : List UInt8) : List UInt8 :=
  (bytes.reverse.dropWhile (· != lineFeed)).reverse

/-- The pieces of a text without a line feed are all incomplete. -/
theorem filter_cutLinesFrom_of_no_lineFeed (acc : List UInt8) {tail : List UInt8}
    (htail : ∀ b ∈ tail, b ≠ lineFeed) : (cutLinesFrom acc tail).filter (·.2) = [] := by
  induction tail generalizing acc with
  | nil =>
    rw [cutLinesFrom]
    split <;> simp
  | cons b tail ih =>
    have hb : (b == lineFeed) = false := by simpa using htail b List.mem_cons_self
    rw [cutLinesFrom, hb]
    exact ih (b :: acc) fun b' hb' => htail b' (List.mem_cons_of_mem _ hb')

/-- Cutting at a line feed: what follows it is cut on its own. -/
theorem cutLinesFrom_append_lineFeed (acc : List UInt8) (p ys : List UInt8) :
    cutLinesFrom acc (p ++ lineFeed :: ys) =
      cutLinesFrom acc (p ++ [lineFeed]) ++ cutLinesFrom [] ys := by
  induction p generalizing acc with
  | nil => simp [cutLinesFrom]
  | cons b p ih =>
    simp only [List.cons_append, cutLinesFrom]
    split
    · rw [ih, List.cons_append]
    · exact ih (b :: acc)

/-- The pieces of a text that ends with a line feed are all complete. -/
theorem filter_cutLinesFrom_lineFeed (acc : List UInt8) (p : List UInt8) :
    (cutLinesFrom acc (p ++ [lineFeed])).filter (·.2) = cutLinesFrom acc (p ++ [lineFeed]) := by
  induction p generalizing acc with
  | nil => simp [cutLinesFrom]
  | cons b p ih =>
    simp only [List.cons_append, cutLinesFrom]
    split
    · simp [ih]
    · exact ih (b :: acc)

/-- The complete lines of a text are the lines of the text cut after its last
line feed. -/
theorem cutLines_throughLastLineFeed (bytes : List UInt8) :
    cutLines (throughLastLineFeed bytes) = (cutLines bytes).filter (·.2) := by
  -- the text is what comes up to its last line feed, then a tail without one
  set tail := (bytes.reverse.takeWhile (· != lineFeed)).reverse
  have hsplit : bytes = throughLastLineFeed bytes ++ tail := by
    rw [throughLastLineFeed, ← List.reverse_append, List.takeWhile_append_dropWhile,
      List.reverse_reverse]
  have htail : ∀ b ∈ tail, b ≠ lineFeed := fun b hb => by
    simpa using List.mem_takeWhile_imp (List.mem_reverse.mp hb)
  cases hdw : bytes.reverse.dropWhile (· != lineFeed) with
  | nil =>
    have hcut : throughLastLineFeed bytes = [] := by simp [throughLastLineFeed, hdw]
    rw [hcut] at hsplit ⊢
    rw [List.nil_append] at hsplit
    rw [hsplit]
    unfold cutLines
    rw [filter_cutLinesFrom_of_no_lineFeed [] htail]
    rfl
  | cons d rest =>
    -- the cut ends with the last line feed
    have hd : d = lineFeed := by
      have := List.head_dropWhile_not (· != lineFeed) (l := bytes.reverse) (by simp [hdw])
      simpa [hdw] using this
    have hcut : throughLastLineFeed bytes = rest.reverse ++ [lineFeed] := by
      simp [throughLastLineFeed, hdw, hd]
    rw [hcut] at hsplit ⊢
    rw [hsplit, List.append_assoc, List.singleton_append]
    unfold cutLines
    rw [cutLinesFrom_append_lineFeed [] rest.reverse tail, List.filter_append,
      filter_cutLinesFrom_lineFeed, filter_cutLinesFrom_of_no_lineFeed [] htail, List.append_nil]

/-- An interrupted source holds the lines of the delivered text cut after its
last line feed, then its fault. -/
theorem ofBytes_interrupted {bytes : List UInt8} {n : Nat} (failure : ReadFailure)
    (hn : n ≤ bytes.length) :
    LineSource.ofBytes bytes (some ⟨n, failure⟩) =
      { pending := splitLines (throughLastLineFeed (bytes.take n)),
        failure := some failure.toSourceError } := by
  simp [LineSource.ofBytes, hn, splitLines, cutLines_throughLastLineFeed]

/-! ## Reads against a clean end -/

namespace LineSource

/-- The same pending lines, with the data ending after them. -/
def clean (s : LineSource) : LineSource := { s with failure := none }

theorem endsCleanly_clean (s : LineSource) : s.clean.EndsCleanly := Or.inl rfl

/-- A look fails only with the source's fault. -/
theorem failure_of_look_eq_error {s : LineSource} {e : SourceError} (h : s.look = .error e) :
    s.failure = some e := by
  cases hp : s.pending with
  | cons l ls => rw [look_of_cons hp] at h; cases h
  | nil =>
    cases hf : s.failure with
    | none => simp [look, peek, afterEnd, hp, hf] at h
    | some e' =>
      by_cases hc : e' = .closed
      · simp [look, peek, afterEnd, hp, hf, hc] at h
      · simp [look, peek, afterEnd, hp, hf, hc] at h
        rw [h]

/-- Looking past the end without a failure means the data ends cleanly. -/
theorem endsCleanly_of_look_eq_ok {s : LineSource} (hp : s.pending = []) {x : Option Line}
    (h : s.look = .ok x) : s.EndsCleanly := by
  cases hf : s.failure with
  | none => exact .inl hf
  | some e =>
    by_cases hc : e = .closed
    · exact .inr (hc ▸ hf)
    · simp [look, peek, afterEnd, hp, hf, hc] at h

end LineSource

/-- One read from a source against the read from its clean twin: it fails only
with the source's fault, finds no unit only where the data ends cleanly, and a
unit it finds is the clean twin's, with the source after it keeping the
fault. -/
structure TextArtifact.ReadsLikeClean (a : TextArtifact) (s : LineSource) : Prop where
  fault : ∀ e, a.readUnit s = .error e → s.failure = some e
  endsCleanly : a.readUnit s = .ok none → s.EndsCleanly
  unit : ∀ u t, a.readUnit s = .ok (some (u, t)) →
    a.readUnit s.clean = .ok (some (u, t.clean)) ∧ t.failure = s.failure

namespace TextArtifact.ReadsLikeClean

variable {a : TextArtifact} {s : LineSource}

theorem of_error {e : SourceError} (h : a.readUnit s = .error e) (hf : s.failure = some e) :
    a.ReadsLikeClean s where
  fault e' h' := by rw [h] at h'; cases h'; exact hf
  endsCleanly h' := by rw [h] at h'; cases h'
  unit _ _ h' := by rw [h] at h'; cases h'

theorem of_none (h : a.readUnit s = .ok none) (hs : s.EndsCleanly) : a.ReadsLikeClean s where
  fault _ h' := by rw [h] at h'; cases h'
  endsCleanly _ := hs
  unit _ _ h' := by rw [h] at h'; cases h'

theorem of_unit {u : TextUnit} {t : LineSource} (h : a.readUnit s = .ok (some (u, t)))
    (hc : a.readUnit s.clean = .ok (some (u, t.clean))) (hf : t.failure = s.failure) :
    a.ReadsLikeClean s where
  fault _ h' := by rw [h] at h'; cases h'
  endsCleanly h' := by rw [h] at h'; cases h'
  unit _ _ h' := by
    rw [h] at h'
    cases h'
    exact ⟨hc, hf⟩

end TextArtifact.ReadsLikeClean

/-- Every read from a source reads like the read from its clean twin. -/
theorem TextArtifact.readsLikeClean (a : TextArtifact) (s : LineSource) : a.ReadsLikeClean s := by
  -- induction over the blank lines a read skips before a unit starts
  suffices ∀ (ls : List Line) (s : LineSource), s.pending = ls → a.ReadsLikeClean s from
    this _ s rfl
  intro ls
  induction ls with
  | nil =>
    intro s hs
    have hread := a.readUnit_of_nil hs
    cases hlook : s.look with
    | error e =>
      rw [hlook] at hread
      have hf := LineSource.failure_of_look_eq_error hlook
      exact .of_error hread hf
    | ok x =>
      rw [hlook] at hread
      exact .of_none hread (LineSource.endsCleanly_of_look_eq_ok hs hlook)
  | cons l rest ih =>
    intro s hs
    cases hb : l.isBlank with
    | true =>
      -- a blank line is skipped by the source and by its clean twin alike
      have hread := a.readUnit_of_blank hs hb
      have hclean := a.readUnit_of_blank (s := s.clean) hs hb
      obtain ⟨hfault, hends, hunit⟩ := ih { s with pending := rest } rfl
      refine ⟨fun e h => hfault e (hread ▸ h), fun h => hends (hread ▸ h), fun u t h => ?_⟩
      rw [hclean]
      exact hunit u t (hread ▸ h)
    | false =>
      have hread := a.readUnit_of_start hs hb
      have hclean := a.readUnit_of_start (s := s.clean) hs hb
      cases hv : l.validUtf8 with
      | false =>
        simp only [hv, Bool.not_false, ↓reduceIte] at hread hclean
        exact .of_unit hread hclean rfl
      | true =>
        simp only [hv, Bool.not_true, Bool.false_eq_true, ↓reduceIte] at hread hclean
        cases hbd : a.grammar.boundary with
        | line =>
          simp only [hbd] at hread hclean
          exact .of_unit hread hclean rfl
        | lookahead b =>
          -- the unit looks at the line after it: the fault may strike there
          simp only [hbd] at hread hclean
          cases hlook : ({ s with pending := rest.dropWhile (continuesUnit b) } : LineSource).look with
          | error e =>
            rw [hlook] at hread
            have hf := LineSource.failure_of_look_eq_error hlook
            exact .of_error hread hf
          | ok x =>
            rw [hlook] at hread
            refine .of_unit hread ?_ rfl
            rw [hclean]
            exact LineSource.look_map_of_endsCleanly (Or.inl rfl) _

/-- The units read from a source are a prefix of those read from its clean twin. -/
theorem TextArtifact.readUnits_prefix_clean (a : TextArtifact) (s : LineSource) :
    (a.readUnits s).1.IsPrefix (a.readUnits s.clean).1 := by
  induction s using TextArtifact.readUnits.induct a with
  | case1 s e h =>
    rw [a.readUnits_of_error h]
    exact List.nil_prefix
  | case2 s h =>
    rw [a.readUnits_of_none h]
    exact List.nil_prefix
  | case3 s u t h _ ih =>
    obtain ⟨hclean, -⟩ := (a.readsLikeClean s).unit u t h
    rw [a.readUnits_of_some h, a.readUnits_of_some hclean]
    exact List.cons_prefix_cons.mpr ⟨rfl, ih⟩

/-- Reading from a source whose reads past its lines fail with an I/O error
stops with that error. -/
theorem TextArtifact.readUnits_fault (a : TextArtifact) {s : LineSource} {m : String}
    (hs : s.failure = some (.io m)) : (a.readUnits s).2 = some (.io m) := by
  induction s using TextArtifact.readUnits.induct a with
  | case1 s e h =>
    rw [a.readUnits_of_error h]
    have := (a.readsLikeClean s).fault e h
    rw [hs] at this
    rw [this]
  | case2 s h =>
    rcases (a.readsLikeClean s).endsCleanly h with hf | hf <;> rw [hs] at hf <;> cases hf
  | case3 s u t h _ ih =>
    obtain ⟨-, hf⟩ := (a.readsLikeClean s).unit u t h
    rw [a.readUnits_of_some h]
    exact ih (hf.trans hs)

/-- Skipping the preamble fails only with the source's fault; otherwise it skips
the preamble lines. -/
theorem TextArtifact.consumePreamble_eq_or (a : TextArtifact) (year : Option Int)
    (s : LineSource) :
    (∃ e, s.failure = some e ∧ a.consumePreamble year s = .error e) ∨
      a.consumePreamble year s =
        .ok (a.preambleYear year s.pending, { s with pending := a.afterPreamble s.pending }) := by
  cases hp : a.preamble with
  | none => exact .inr (by simp [consumePreamble, preambleYear, afterPreamble, hp])
  | some p =>
    simp only [consumePreamble, preambleYear, afterPreamble, hp]
    rw [skipPreamble_eq]
    cases hlook : (s.skipWhile p.takes).look with
    | error e =>
      have hf := LineSource.failure_of_look_eq_error hlook
      exact .inl ⟨e, hf, rfl⟩
    | ok x => exact .inr rfl

/-! ## Scans of faulty sources -/

/-- A scan of a source whose reads past its lines fail with an I/O error hands
on the items of a prefix of the units of its lines and fails with the error. -/
theorem TextArtifact.scanInto_of_io (a : TextArtifact) (year : Option Int) {s : LineSource}
    {m : String} (hs : s.failure = some (.io m)) :
    ∃ k, a.scanInto year s {} = (.error (.io m), ({} : Collected).handAll
      (((a.segment s.pending).map (a.outcome (a.preambleYear year s.pending))).take k)) := by
  rw [scanInto_eq]
  rcases a.consumePreamble_eq_or year s with ⟨e, he, hpre⟩ | hpre
  · -- the preamble ran to the end of the lines: nothing was handed on
    rw [hs] at he
    cases he
    refine ⟨0, ?_⟩
    rw [hpre]
    rfl
  · rw [hpre]
    dsimp only
    have hs' : ({ s with pending := a.afterPreamble s.pending } : LineSource).failure =
        some (.io m) := hs
    have hclean : (a.readUnits ({ s with pending := a.afterPreamble s.pending } : LineSource).clean).1
        = a.segment s.pending := by
      rw [a.readUnits_of_endsCleanly (LineSource.endsCleanly_clean _)]
      rfl
    refine ⟨(a.readUnits { s with pending := a.afterPreamble s.pending }).1.length, ?_⟩
    rw [a.readUnits_fault hs']
    dsimp only
    rw [← List.map_take, ← hclean, ← List.prefix_iff_eq_take.mp (a.readUnits_prefix_clean _)]

/-! ## Interrupted texts -/

/-- A text delivered up to byte `n`, after which every read fails. The
fault-free scan of the text cut after its last delivered line feed succeeds.
When the other end went away (a broken pipe or a lost connection) the scan is
exactly that scan; after any other read failure the scan fails with an I/O
error, having handed on a prefix of that scan's items. -/
theorem TextArtifact.scanInto_interrupted (a : TextArtifact) (year : Option Int)
    (bytes : List UInt8) (n : Nat) (hn : n ≤ bytes.length) :
    ∃ items, a.scanInto year (LineSource.ofBytes (throughLastLineFeed (bytes.take n))) {} =
        (.ok (({} : Stats).tallyAll items), ({} : Collected).handAll items) ∧
      a.scanInto year (LineSource.ofBytes bytes (some ⟨n, .brokenPipe⟩)) {} =
        a.scanInto year (LineSource.ofBytes (throughLastLineFeed (bytes.take n))) {} ∧
      a.scanInto year (LineSource.ofBytes bytes (some ⟨n, .notConnected⟩)) {} =
        a.scanInto year (LineSource.ofBytes (throughLastLineFeed (bytes.take n))) {} ∧
      ∀ message, ∃ k,
        a.scanInto year (LineSource.ofBytes bytes (some ⟨n, .other message⟩)) {} =
          (.error (.io message), ({} : Collected).handAll (items.take k)) := by
  -- every interrupted source holds the lines of the cut text
  have hclean := a.scanInto_of_endsCleanly year {}
    (s := LineSource.ofBytes (throughLastLineFeed (bytes.take n))) (Or.inl rfl)
  have hclosed : ∀ f : ReadFailure, f.toSourceError = .closed →
      a.scanInto year (LineSource.ofBytes bytes (some ⟨n, f⟩)) {} =
        a.scanInto year (LineSource.ofBytes (throughLastLineFeed (bytes.take n))) {} := by
    intro f hf
    rw [ofBytes_interrupted f hn, hclean,
      a.scanInto_of_endsCleanly year {} (Or.inr (by rw [hf]))]
    rfl
  refine ⟨_, hclean, hclosed _ rfl, hclosed _ rfl, fun message => ?_⟩
  rw [ofBytes_interrupted _ hn]
  exact a.scanInto_of_io year rfl

theorem zsh_history_scan_interrupted :
    9 ≤ [58, 32, 49, 58, 48, 59, 108, 115, 10, 58].length ∧
    ∃ items, Builtin.zshExtendedHistory.scanInto none (LineSource.ofBytes
          (throughLastLineFeed (List.take 9 [58, 32, 49, 58, 48, 59, 108, 115, 10, 58]))) {} =
        (.ok (({} : Stats).tallyAll items), ({} : Collected).handAll items) ∧
      Builtin.zshExtendedHistory.scanInto none (LineSource.ofBytes
          [58, 32, 49, 58, 48, 59, 108, 115, 10, 58] (some ⟨9, .brokenPipe⟩)) {} =
        Builtin.zshExtendedHistory.scanInto none (LineSource.ofBytes
          (throughLastLineFeed (List.take 9 [58, 32, 49, 58, 48, 59, 108, 115, 10, 58]))) {} ∧
      Builtin.zshExtendedHistory.scanInto none (LineSource.ofBytes
          [58, 32, 49, 58, 48, 59, 108, 115, 10, 58] (some ⟨9, .notConnected⟩)) {} =
        Builtin.zshExtendedHistory.scanInto none (LineSource.ofBytes
          (throughLastLineFeed (List.take 9 [58, 32, 49, 58, 48, 59, 108, 115, 10, 58]))) {} ∧
      ∀ message, ∃ k, Builtin.zshExtendedHistory.scanInto none (LineSource.ofBytes
          [58, 32, 49, 58, 48, 59, 108, 115, 10, 58] (some ⟨9, .other message⟩)) {} =
        (.error (.io message), ({} : Collected).handAll (items.take k)) :=
  ⟨by decide, Builtin.zshExtendedHistory.scanInto_interrupted none _ 9 (by decide)⟩

end Timeline
