import Mathlib
import Timeline.Scan.Detect
import Timeline.Artifact.Logs
/-!
# How far detection looks ahead

Detection reads a source through `LineAccess` and asks only for lines ahead
(`peek`). `LineAccess.recording` is an access that also keeps, in order, the
requests made of it, so that a statement can speak of every offset detection
asks for.

* Requests below a bound. `PeeksBelow n x post` says that, through a recording
  access, the reading `x` adds only peeks at offsets below `n` to the record,
  and that every result it gives satisfies `post`. It holds of results and of
  binds (`PeeksBelow.pure`, `PeeksBelow.bind`), of one look ahead
  (`lookAt_peeksBelow`), and of the loops of detection by induction on their
  fuel (`detectPreamble_peeksBelow`, `detectGather_peeksBelow`).
* The bound. The preamble loop stops at index 64, and the first unit is looked
  for at the index where it stopped; so detection only peeks, and never past
  offset 64 (`TextArtifact.detectWith_peeks_le`): it reads at most 65 lines.
* The bound is reached. Behind 64 preamble lines detection asks for line 0, for
  the 64 preamble lines, and then for the line at offset 64, the 65th
  (`TextArtifact.detectWith_requests_of_preamble`). A Google log header of 64
  lines whose next read fails shows it: detection fails with that read's error
  (`googleLog_detection_reads_line_65`).
-/

namespace Timeline

open Builtin

section Recording

variable {σ : Type}

/-- An access that also keeps, in order, the requests made of it. -/
def LineAccess.recording (acc : LineAccess σ) : LineAccess (σ × List LineRequest) where
  next s := ((acc.next s.1).1, ((acc.next s.1).2, s.2 ++ [.next]))
  peek s k := ((acc.peek s.1 k).1, ((acc.peek s.1 k).2, s.2 ++ [.peek k]))

/-- Looking ahead through a recording access keeps the peek and answers as the access does. -/
theorem exec_recording_lookAt (acc : LineAccess σ) (k : Nat) (s : σ) (log : List LineRequest) :
    ((acc.recording.lookAt k).exec (s, log)).2.2 = log ++ [.peek k] ∧
      ((acc.recording.lookAt k).exec (s, log)).1 = ((acc.lookAt k).exec s).1 := by
  rw [LineReading.exec_lookAt, LineReading.exec_lookAt]
  simp only [LineAccess.recording]
  rcases acc.peek s k with ⟨(_ | _ | _) | _, s'⟩ <;> exact ⟨rfl, rfl⟩

/-- Through a recording access, `x` adds only peeks at offsets below `n` to the
record, and every result it gives satisfies `post`. -/
def PeeksBelow {α : Type} (n : Nat) (x : LineReading (σ × List LineRequest) α) (post : α → Prop) :
    Prop :=
  ∀ s log, ∃ offsets : List Nat,
    ((x.exec (s, log)).2.2 = log ++ offsets.map .peek ∧ ∀ k ∈ offsets, k < n) ∧
      ∀ a, (x.exec (s, log)).1 = .ok a → post a

variable {n : Nat}

theorem PeeksBelow.pure {α : Type} {post : α → Prop} (a : α) (h : post a) :
    PeeksBelow (σ := σ) n (pure a) post :=
  fun _ log => ⟨[], ⟨(List.append_nil log).symm, nofun⟩, fun _ he => by cases he; exact h⟩

theorem PeeksBelow.mono {α : Type} {x : LineReading (σ × List LineRequest) α} {post post' : α → Prop}
    {n' : Nat} (hx : PeeksBelow n x post) (hn : n ≤ n') (h : ∀ a, post a → post' a) :
    PeeksBelow n' x post' := fun s log =>
  let ⟨offsets, ⟨hlog, hbound⟩, hpost⟩ := hx s log
  ⟨offsets, ⟨hlog, fun k hk => Nat.lt_of_lt_of_le (hbound k hk) hn⟩, fun a ha => h a (hpost a ha)⟩

/-- A reading that peeks below `n`, then a reading that does from every result
it gives, peek below `n`. -/
theorem PeeksBelow.bind {α β : Type} {x : LineReading (σ × List LineRequest) α}
    {f : α → LineReading (σ × List LineRequest) β} {P : α → Prop} {Q : β → Prop}
    (hx : PeeksBelow n x P) (hf : ∀ a, P a → PeeksBelow n (f a) Q) : PeeksBelow n (x >>= f) Q := by
  intro s log
  obtain ⟨offsets, ⟨hlog, hbound⟩, hpost⟩ := hx s log
  rw [LineReading.exec_bind]
  generalize x.exec (s, log) = r at hlog hpost
  obtain ⟨res, s', log'⟩ := r
  dsimp only at hlog hpost
  subst hlog
  cases res with
  | error e => exact ⟨offsets, ⟨rfl, hbound⟩, fun _ h => by cases h⟩
  | ok a =>
    obtain ⟨offsets', ⟨hlog', hbound'⟩, hpost'⟩ := hf a (hpost a rfl) s' (log ++ offsets.map .peek)
    refine ⟨offsets ++ offsets', ⟨by rw [hlog', List.map_append, List.append_assoc], fun k hk => ?_⟩,
      hpost'⟩
    rcases List.mem_append.mp hk with h | h
    exacts [hbound k h, hbound' k h]

theorem lookAt_peeksBelow (acc : LineAccess σ) {k : Nat} (hk : k < n) :
    PeeksBelow n (acc.recording.lookAt k) (fun _ => True) := fun s log =>
  ⟨[k], ⟨(exec_recording_lookAt acc k s log).1, by simpa using hk⟩, fun _ _ => trivial⟩

end Recording

/-! ## The bound -/

section Bound

variable {σ : Type} (acc : LineAccess σ)

/-- The preamble loop peeks only at the indices it runs over, and stops at most
where its fuel ends. -/
theorem detectPreamble_peeksBelow (p : Preamble) {n : Nat} (fuel index : Nat) (year : Option Int)
    (h : index + fuel ≤ n) :
    PeeksBelow n (detectPreamble acc.recording p fuel index year) (fun r => r.1 ≤ index + fuel) := by
  induction fuel generalizing index year with
  | zero => exact .pure _ (by simp)
  | succ fuel ih =>
    rw [detectPreamble]
    refine (lookAt_peeksBelow acc (by omega)).bind fun line _ => ?_
    rcases line with _ | line
    · exact .pure _ (by simp)
    · dsimp only
      split
      · exact .pure _ (by simp)
      · exact (ih (index + 1) _ (by omega)).mono le_rfl fun r hr => by omega

/-- Gathering a unit peeks only at the offsets its fuel reaches. -/
theorem detectGather_peeksBelow (b : Pattern) {n : Nat} (fuel offset : Nat) (text : String)
    (h : offset + fuel ≤ n) :
    PeeksBelow n (detectGather acc.recording b fuel offset text) (fun _ => True) := by
  induction fuel generalizing offset text with
  | zero => exact .pure _ trivial
  | succ fuel ih =>
    rw [detectGather]
    refine (lookAt_peeksBelow acc (by omega)).bind fun next _ => ?_
    rcases next with _ | next
    · exact .pure _ trivial
    · dsimp only
      split
      · exact ih _ _ (by omega)
      · exact .pure _ trivial

theorem detectLead_peeksBelow (a : TextArtifact) :
    PeeksBelow maxDetectLines (a.detectLead acc.recording) (fun r => r.1 ≤ maxDetectLines) := by
  unfold TextArtifact.detectLead
  split
  · exact detectPreamble_peeksBelow acc _ _ _ _ le_rfl
  · exact .pure _ (by simp [maxDetectLines])

/-- The unit at an index up to the limit is looked for at that index and
gathered below the limit. -/
theorem detectUnitAt_peeksBelow (a : TextArtifact) {index : Nat} (year : Option Int)
    (h : index ≤ maxDetectLines) :
    PeeksBelow (maxDetectLines + 1) (a.detectUnitAt acc.recording index year) (fun _ => True) := by
  unfold TextArtifact.detectUnitAt
  refine (lookAt_peeksBelow acc (by omega)).bind fun line _ => ?_
  rcases line with _ | line
  · exact .pure _ trivial
  · dsimp only
    split
    · exact .pure _ trivial
    · refine PeeksBelow.bind (P := fun _ => True) ?_ fun unit _ => by split <;> exact .pure _ trivial
      unfold TextArtifact.detectUnitText
      split
      · exact .pure _ trivial
      · exact detectGather_peeksBelow acc _ _ _ _ (by omega)

/-- Detection only peeks, and never further ahead than offset 64: it reads at
most 65 lines. -/
theorem TextArtifact.detectWith_peeks_le (a : TextArtifact) (s : σ) :
    ∃ offsets : List Nat, ((a.detectWith acc.recording).exec (s, [])).2.2 = offsets.map .peek ∧
      ∀ k ∈ offsets, k ≤ maxDetectLines := by
  have h : PeeksBelow (maxDetectLines + 1) (a.detectWith acc.recording) (fun _ => True) := by
    unfold TextArtifact.detectWith
    refine (lookAt_peeksBelow acc (by decide)).bind fun first _ => ?_
    rcases first with _ | first
    · exact .pure _ trivial
    · dsimp only
      split
      · exact .pure _ trivial
      · exact ((detectLead_peeksBelow acc a).mono (Nat.le_succ _) fun r hr => hr).bind fun r hr =>
          detectUnitAt_peeksBelow acc a r.2 hr
  obtain ⟨offsets, ⟨hlog, hbound⟩, -⟩ := h s []
  exact ⟨offsets, hlog.trans (List.nil_append _), fun k hk => Nat.le_of_lt_succ (hbound k hk)⟩

end Bound

/-! ## The bound is reached -/

section Reached

variable {src : LineSource}

theorem exec_recording_lookAt_source (k : Nat) (log : List LineRequest) :
    (LineSource.access.recording.lookAt k).exec (src, log) =
      (((LineSource.access.lookAt k).exec src).1, (src, log ++ [.peek k])) := by
  rw [LineReading.exec_lookAt, LineReading.exec_lookAt]
  simp only [LineAccess.recording, LineSource.access]
  rcases src.peek k with (_ | _ | _) | _ <;> rfl

/-- Over a line source whose lines from `index` on are preamble lines, the
preamble loop runs out its fuel, peeking at each of those lines in turn. -/
theorem exec_detectPreamble_of_preamble (p : Preamble) (fuel index : Nat) (year : Option Int)
    (log : List LineRequest)
    (hpre : ∀ k, index ≤ k → k < index + fuel → ∃ l, src.pending[k]? = some l ∧ (p.classify l.text).isSome) :
    ∃ year', (detectPreamble LineSource.access.recording p fuel index year).exec (src, log) =
      (.ok (index + fuel, year'), (src, log ++ (List.range' index fuel).map .peek)) := by
  induction fuel generalizing index year log with
  | zero => exact ⟨year, by simp [detectPreamble, LineReading.exec_pure]⟩
  | succ fuel ih =>
    obtain ⟨l, hl, hclass⟩ := hpre index le_rfl (by omega)
    obtain ⟨found, hfound⟩ := Option.isSome_iff_exists.mp hclass
    obtain ⟨year', hrest⟩ := ih (index + 1) (found.or year) (log ++ [.peek index])
      fun k hk hk' => hpre k (by omega) (by omega)
    refine ⟨year', ?_⟩
    rw [detectPreamble, LineReading.exec_bind, exec_recording_lookAt_source]
    have hlook : ((LineSource.access.lookAt index).exec src).1 = .ok (some l) := by
      simp [LineReading.exec_lookAt, LineSource.access, LineSource.peek, hl]
    rw [hlook]
    simp only [hfound, hrest]
    simp only [List.range'_succ, List.map_cons, List.append_assoc, List.singleton_append,
      Nat.add_right_comm index 1 fuel]
    rfl

/-- A unit whose first line is at offset 64 is that line alone: no fuel is left
to gather more. -/
theorem detectUnitText_limit {σ : Type} (acc : LineAccess σ) (a : TextArtifact) (line : Line) :
    a.detectUnitText acc maxDetectLines line = pure line.text := by
  unfold TextArtifact.detectUnitText
  split <;> rfl

/-- Whatever it finds at offset 64, the unit detection looks for there asks for
nothing more. -/
theorem exec_detectUnitAt_limit (a : TextArtifact) (year : Option Int) (log : List LineRequest) :
    ((a.detectUnitAt LineSource.access.recording maxDetectLines year).exec (src, log)).2.2 =
      log ++ [.peek maxDetectLines] := by
  unfold TextArtifact.detectUnitAt
  rw [LineReading.exec_bind, exec_recording_lookAt_source]
  rcases ((LineSource.access.lookAt maxDetectLines).exec src).1 with _ | _ | line
  · rfl
  · rfl
  · dsimp only
    split
    · rfl
    · rw [detectUnitText_limit, LineReading.exec_bind, LineReading.exec_pure]
      dsimp only
      split <;> rfl

/-- Where the line at an offset cannot be read, and not because the source
closed, looking for a unit there fails with the read's error. -/
theorem exec_detectUnitAt_of_error (a : TextArtifact) {k : Nat} (year : Option Int)
    (log : List LineRequest) {e : SourceError} (he : src.peek k = .error e) (hclosed : e ≠ .closed) :
    ((a.detectUnitAt LineSource.access.recording k year).exec (src, log)).1 = .error e := by
  have hlook : ((LineSource.access.lookAt k).exec src).1 = .error e := by
    rw [LineReading.exec_lookAt]
    simp only [LineSource.access, he]
    cases e <;> simp_all
  unfold TextArtifact.detectUnitAt
  rw [LineReading.exec_bind, exec_recording_lookAt_source, hlook]

/-- Behind 64 preamble lines, detection asks for line 0 to check the anchor and
for the 64 preamble lines, and then looks for the first unit at offset 64. -/
theorem TextArtifact.exec_detectWith_of_preamble {a : TextArtifact} {p : Preamble}
    (hp : a.preamble = some p) {first : Line} (hfirst : src.pending.head? = some first)
    (hv : first.validUtf8 = true) (hm : a.anchor.isMatch first.text = true)
    (hpre : ∀ k < maxDetectLines, ∃ l, src.pending[k]? = some l ∧ (p.classify l.text).isSome) :
    ∃ year, (a.detectWith LineSource.access.recording).exec (src, []) =
      (a.detectUnitAt LineSource.access.recording maxDetectLines year).exec
        (src, .peek 0 :: (List.range maxDetectLines).map .peek) := by
  obtain ⟨year, hlead⟩ := exec_detectPreamble_of_preamble p maxDetectLines 0 none
    [.peek 0] fun k _ hk => hpre k hk
  have hlook : ((LineSource.access.lookAt 0).exec src).1 = .ok (some first) := by
    simp [LineReading.exec_lookAt, LineSource.access, LineSource.peek, ← List.head?_eq_getElem?, hfirst]
  refine ⟨year, ?_⟩
  unfold TextArtifact.detectWith
  rw [LineReading.exec_bind, exec_recording_lookAt_source, hlook]
  simp only [hv, hm, Bool.not_true, Bool.or_false, Bool.false_eq_true, if_false, List.nil_append]
  rw [LineReading.exec_bind]
  unfold TextArtifact.detectLead
  simp only [hp, hlead, Nat.zero_add, List.range_eq_range', List.singleton_append]

/-- Behind 64 preamble lines, detection asks for line 0 to check the anchor,
then for the 64 preamble lines, then for the line at offset 64. -/
theorem TextArtifact.detectWith_requests_of_preamble {a : TextArtifact} {p : Preamble}
    (hp : a.preamble = some p) {first : Line} (hfirst : src.pending.head? = some first)
    (hv : first.validUtf8 = true) (hm : a.anchor.isMatch first.text = true)
    (hpre : ∀ k < maxDetectLines, ∃ l, src.pending[k]? = some l ∧ (p.classify l.text).isSome) :
    ((a.detectWith LineSource.access.recording).exec (src, [])).2.2 =
      .peek 0 :: (List.range (maxDetectLines + 1)).map .peek := by
  obtain ⟨year, hrun⟩ := TextArtifact.exec_detectWith_of_preamble hp hfirst hv hm hpre
  rw [hrun, exec_detectUnitAt_limit]
  simp [List.range_succ]

end Reached

/-- A Google log header of 64 lines whose next read fails: detection asks for
the line at offset 64, the 65th, and so fails with the read's error. -/
theorem googleLog_detection_reads_line_65 :
    let src : LineSource :=
      ⟨(("Log file created at: 2016/01/01 00:00:00" :: List.replicate 63 "Running on machine: h").zipIdx
          1).map fun (text, number) => ⟨number, text, true⟩, some (.io "injected fault")⟩
    LineRequest.peek maxDetectLines ∈ ((googleLog.detectWith LineSource.access.recording).exec (src, [])).2.2 ∧
      ((googleLog.detectWith LineSource.access.recording).exec (src, [])).1 = .error (.io "injected fault") := by
  intro src
  have hpre : ∀ k < maxDetectLines, ∃ l, src.pending[k]? = some l ∧
      ((googleLog.preamble.get rfl).classify l.text).isSome := by
    intro k hk
    cases k with
    | zero => exact ⟨_, rfl, by decide⟩
    | succ k =>
      refine ⟨⟨1 + (k + 1), "Running on machine: h", true⟩, ?_, by dsimp only; decide⟩
      simp only [maxDetectLines] at hk
      simp only [src, List.getElem?_map, List.getElem?_zipIdx, List.getElem?_cons_succ,
        List.getElem?_replicate, if_pos (show k < 63 by omega), Option.map_some]
  obtain ⟨year, hrun⟩ := TextArtifact.exec_detectWith_of_preamble (a := googleLog) rfl rfl rfl
    (by decide) hpre
  rw [hrun, exec_detectUnitAt_limit]
  exact ⟨by simp [maxDetectLines], exec_detectUnitAt_of_error _ _ _ rfl nofun⟩

end Timeline
