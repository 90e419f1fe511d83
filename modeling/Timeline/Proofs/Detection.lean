import Timeline.Proofs.BufferedLines
import Timeline.Scan.Detect
/-!
# Detection only looks ahead

Detection reads a source through any sequential access (`LineAccess`), but it
only looks ahead. This module shows that it therefore sees no more of a source
than the lines it holds, and leaves them as they were, whatever the source
does while it looks: a reader that fills its buffer as it looks ahead, or
fails part way.

* Readings that only look ahead. `LooksAhead view x y` says that a reading
  `x` through sources of type `σ` has the outcome that `y` has from their views
  (as line sources), and that both leave the view as it was. Results and binds
  keep it (`LooksAhead.pure`, `LooksAhead.bind`), and so does looking ahead
  through an access that answers as the view (`PeeksAs`, `lookAt_looksAhead`).
* Detection. Counting the preamble, reading the first unit and detection as a
  whole only look ahead (`detectLead_looksAhead`, `detectUnitAt_looksAhead`,
  `detectWith_looksAhead`). Through a reader of
  lines, detection gives the result of detection on the lines it holds and
  leaves them (`TextLines.exec_detectWith`).

The main statement, `TextArtifact.detections_keep_reader`, says that any
number of detections, made one after another over one reader of a text (the
whole of it, or its first bytes before a fault), each give the result they give
on a fresh reader, and leave a reader that answers every sequence of requests
as a fresh one: a scan after them is the scan of the text, and the next line
handed out is the first.
-/

namespace Timeline

/-! ## Readings that only look ahead -/

section LooksAhead

variable {σ : Type} (view : σ → LineSource)

/-- A reading through sources of type `σ` only looks ahead, as `y` does through
their views: it has the outcome that `y` has from the view, and both leave the
view as it was. -/
def LooksAhead {α : Type} (x : LineReading σ α) (y : LineReading LineSource α) : Prop :=
  ∀ s, (x.exec s).1 = (y.exec (view s)).1 ∧ view (x.exec s).2 = view s ∧
    (y.exec (view s)).2 = view s

/-- Access whose every look ahead answers as the view does and leaves the view
as it was. -/
def LineAccess.PeeksAs (acc : LineAccess σ) : Prop :=
  ∀ s k, (acc.peek s k).1 = (view s).peek k ∧ view (acc.peek s k).2 = view s

variable {view}

theorem LooksAhead.pure {α : Type} (a : α) : LooksAhead view (pure a) (pure a) :=
  fun _ => ⟨rfl, rfl, rfl⟩

/-- Two readings that only look ahead, one after the other, only look ahead. -/
theorem LooksAhead.bind {α β : Type} {x : LineReading σ α} {y : LineReading LineSource α}
    {f : α → LineReading σ β} {g : α → LineReading LineSource β}
    (hx : LooksAhead view x y) (hf : ∀ a, LooksAhead view (f a) (g a)) :
    LooksAhead view (x >>= f) (y >>= g) := by
  intro s
  obtain ⟨hres, hview, hkeep⟩ := hx s
  rw [LineReading.exec_bind, LineReading.exec_bind]
  generalize x.exec s = r at hres hview
  generalize y.exec (view s) = r' at hres hkeep
  obtain ⟨res, s'⟩ := r
  obtain ⟨res', L⟩ := r'
  dsimp only at hres hview hkeep
  subst hres hkeep
  cases res with
  | error e => exact ⟨rfl, hview, rfl⟩
  | ok a =>
    -- the second reading starts from a source with the same view
    obtain ⟨h₁, h₂, h₃⟩ := hf a s'
    rw [hview] at h₁ h₂ h₃
    exact ⟨h₁, h₂, h₃⟩

/-- Looking ahead through an access that answers as the view only looks ahead. -/
theorem lookAt_looksAhead {acc : LineAccess σ} (hacc : acc.PeeksAs view) (k : Nat) :
    LooksAhead view (acc.lookAt k) (LineSource.access.lookAt k) := by
  intro s
  obtain ⟨hres, hview⟩ := hacc s k
  rw [LineReading.exec_lookAt, LineReading.exec_lookAt]
  generalize acc.peek s k = p at hres hview
  obtain ⟨r, s'⟩ := p
  dsimp only at hres hview
  have hpeek : LineSource.access.peek (view s) k = (r, view s) := by rw [hres]; rfl
  rw [hpeek]
  rcases r with (_ | _) | _ <;> simp [hview]

/-! ## Detection -/

theorem detectPreamble_looksAhead {acc : LineAccess σ} (hacc : acc.PeeksAs view) (p : Preamble)
    (fuel index : Nat) (year : Option Int) :
    LooksAhead view (detectPreamble acc p fuel index year)
      (detectPreamble LineSource.access p fuel index year) := by
  induction fuel generalizing index year with
  | zero => exact .pure _
  | succ fuel ih =>
    rw [detectPreamble, detectPreamble]
    refine (lookAt_looksAhead hacc index).bind fun line => ?_
    rcases line with _ | line
    · exact .pure _
    · dsimp only
      split
      · exact .pure _
      · exact ih _ _

theorem detectGather_looksAhead {acc : LineAccess σ} (hacc : acc.PeeksAs view) (b : Pattern)
    (fuel offset : Nat) (text : String) :
    LooksAhead view (detectGather acc b fuel offset text)
      (detectGather LineSource.access b fuel offset text) := by
  induction fuel generalizing offset text with
  | zero => exact .pure _
  | succ fuel ih =>
    rw [detectGather, detectGather]
    refine (lookAt_looksAhead hacc offset).bind fun next => ?_
    rcases next with _ | next
    · exact .pure _
    · dsimp only
      split
      · exact ih _ _
      · exact .pure _

theorem detectLead_looksAhead {acc : LineAccess σ} (hacc : acc.PeeksAs view) (a : TextArtifact) :
    LooksAhead view (a.detectLead acc) (a.detectLead LineSource.access) := by
  unfold TextArtifact.detectLead
  split
  · exact detectPreamble_looksAhead hacc _ _ _ _
  · exact .pure _

theorem detectUnitText_looksAhead {acc : LineAccess σ} (hacc : acc.PeeksAs view) (a : TextArtifact)
    (index : Nat) (line : Line) :
    LooksAhead view (a.detectUnitText acc index line) (a.detectUnitText LineSource.access index line) := by
  unfold TextArtifact.detectUnitText
  split
  · exact .pure _
  · exact detectGather_looksAhead hacc _ _ _ _

theorem detectUnitAt_looksAhead {acc : LineAccess σ} (hacc : acc.PeeksAs view) (a : TextArtifact)
    (index : Nat) (year : Option Int) :
    LooksAhead view (a.detectUnitAt acc index year) (a.detectUnitAt LineSource.access index year) := by
  unfold TextArtifact.detectUnitAt
  refine (lookAt_looksAhead hacc index).bind fun line => ?_
  rcases line with _ | line
  · exact .pure _
  · dsimp only
    split
    · exact .pure _
    · exact (detectUnitText_looksAhead hacc a index line).bind fun unit => by split <;> exact .pure _

/-- Detection through an access that answers as the view only looks ahead. -/
theorem detectWith_looksAhead {acc : LineAccess σ} (hacc : acc.PeeksAs view) (a : TextArtifact) :
    LooksAhead view (a.detectWith acc) (a.detectWith LineSource.access) := by
  unfold TextArtifact.detectWith
  refine (lookAt_looksAhead hacc 0).bind fun first => ?_
  rcases first with _ | first
  · exact .pure _
  · dsimp only
    split
    · exact .pure _
    · refine (detectLead_looksAhead hacc a).bind fun ⟨index, year⟩ => ?_
      exact detectUnitAt_looksAhead hacc a index year

end LooksAhead

/-! ## Detection through a reader of lines -/

namespace TextLines

/-- A reader's looks ahead answer as its view does. -/
theorem access_peeksAs : access.PeeksAs view := fun t k => t.peekLine_view k

/-- Detection through a reader gives the result of detection on the lines it
holds, and leaves them as they were. -/
theorem exec_detectWith (a : TextArtifact) (t : TextLines) :
    ((a.detectWith access).exec t).1 = a.detect t.view ∧
      ((a.detectWith access).exec t).2.view = t.view :=
  let h := detectWith_looksAhead access_peeksAs a t
  ⟨h.1, h.2.1⟩

/-- Detections one after another over one reader each give the result of
detection on the lines it holds, and leave them as they were. -/
theorem run_mapM_detectWith (as : List TextArtifact) (t : TextLines) :
    ((as.mapM fun (a : TextArtifact) => (a.detectWith access).run).run t).1 = as.map (fun a => a.detect t.view) ∧
      ((as.mapM fun (a : TextArtifact) => (a.detectWith access).run).run t).2.view = t.view := by
  induction as generalizing t with
  | nil => exact ⟨rfl, rfl⟩
  | cons a as ih =>
    obtain ⟨hres, hview⟩ := exec_detectWith a t
    obtain ⟨ih₁, ih₂⟩ := ih ((a.detectWith access).exec t).2
    rw [hview] at ih₁ ih₂
    simp only [List.mapM_cons, StateT.run_bind, List.map_cons]
    exact ⟨by rw [← hres, ← ih₁]; rfl, ih₂⟩

end TextLines

/-- Any number of detections, one after another over one reader of a text (the
whole of it, or its first bytes before a fault), leave the reader as a fresh
one: each gives the result it gives on a fresh reader; the reader left answers
every sequence of requests as a fresh reader does, and a scan of it is the scan
of a fresh reader; the next line it hands out is the text's first (with no
fault, the head of `splitLines bytes`, numbered 1). -/
theorem TextArtifact.detections_keep_reader (as : List TextArtifact) (bytes : List UInt8)
    (cut : Option Interruption) :
    let fresh := TextLines.ofBytes bytes cut
    let calls := (as.mapM fun (a : TextArtifact) => (a.detectWith TextLines.access).run).run fresh
    calls.1 = as.map (fun a => ((a.detectWith TextLines.access).exec fresh).1) ∧
      (∀ rs, TextLines.access.serve calls.2 rs = TextLines.access.serve fresh rs) ∧
      (∀ (a : TextArtifact) (year : Option Int) (sink : Collected),
        a.scanInto year calls.2.view sink = a.scanInto year fresh.view sink) ∧
      calls.2.nextLine.1 = (LineSource.ofBytes bytes cut).next.1 := by
  intro fresh calls
  obtain ⟨hres, hview⟩ := TextLines.run_mapM_detectWith as fresh
  refine ⟨?results, ?serve, ?scan, ?next⟩
  case results =>
    rw [hres]
    exact List.map_congr_left fun a _ => (TextLines.exec_detectWith a fresh).1.symm
  case serve =>
    intro rs
    rw [TextLines.serve_view, TextLines.serve_view, hview]
  case scan =>
    intro a year sink
    rw [hview]
  case next =>
    rw [(TextLines.nextLine_view calls.2).1, hview, TextLines.view_ofBytes]

end Timeline
