import Mathlib
import Timeline.Cli.Commands
import Timeline.Proofs.Detection
import Timeline.Proofs.Selection
import Timeline.Proofs.FieldReading
/-!
# The scan command

`scanFiles` scans each of a list of files and reports them in the order given.
Each file's outcome is that of `scanFile` on its own path, so the report does
not depend on the order in which the scans are made or finish.

* What claims a file. Detection through one reader of a text file answers, for
  each text artifact, as on the file's lines from the start
  (`exec_detections`), so a file's claimants are the artifacts of its kind
  whose detectors answer yes, in registry order (`claimants_eq_of_text`,
  `claimants_eq_of_database`; when every detector answers, `claimants_of_text`
  and `claimants_of_database`), and every one of them reads the file's kind
  (`reads_of_claimants`).
* One file. A text file over the size limit is skipped before anything claims
  it (`scanFile_of_tooLarge`); otherwise the first claimant scans it as if it
  had been named (`scanFile_first_claimant`), a file nothing claims is
  reported so (`scanFile_unclaimed`), and a named artifact of the wrong kind
  fails that file (`scanFile_wrong_kind`).
* One line per event. The JSON of an event holds no line feed, strings
  escaping theirs (`eventLine_one_line`).
* The report. Adding a file's outcome appends its event lines and its line of
  diagnostics (`ScanResult.add_eq`); `scan_reports_in_input_order` gathers the
  whole command.
-/

namespace Timeline

open Time

/-! ## Results of monadic steps -/

@[simp] theorem Except.ok_bind {ε α β : Type} (x : α) (f : α → Except ε β) : (Except.ok x >>= f) = f x := rfl

@[simp] theorem Except.error_bind {ε α β : Type} (e : ε) (f : α → Except ε β) :
    (Except.error e >>= f) = Except.error e := rfl

/-- A step that succeeds after its failure is renamed succeeded as it was. -/
theorem Except.ok_of_mapError_eq_ok {ε ε' α : Type} {g : ε → ε'} {x : Except ε α} {b : α}
    (h : x.mapError g = .ok b) : x = .ok b := by
  cases x with
  | error e => cases h
  | ok a => cases h; rfl

theorem Except.exists_of_map_eq_ok {ε α β : Type} {f : α → β} {x : Except ε α} {b : β}
    (h : f <$> x = .ok b) : ∃ a, x = .ok a ∧ b = f a := by
  cases x with
  | error e => cases h
  | ok a => cases h; exact ⟨a, rfl, rfl⟩

theorem Except.toOption_mapError {ε ε' α : Type} (g : ε → ε') (x : Except ε α) :
    (x.mapError g).toOption = x.toOption := by
  cases x <;> rfl

theorem LineReading.exec_map {σ α β : Type} (f : α → β) (x : LineReading σ α) (s : σ) :
    (f <$> x).exec s = ((x.exec s).1.map f, (x.exec s).2) := by
  simp only [LineReading.exec, ExceptT.run_map]
  rfl

/-- Keeping the items a test claims, under a name, keeps the names of the
items it claims. -/
theorem filterMapM_claimed {m : Type → Type} [Monad m] [LawfulMonad m] {α γ : Type}
    (p : α → m Bool) (h : α → γ) (as : List α) :
    as.filterMapM (fun a => do let b ← p a; pure (if b then some (h a) else none)) =
      List.map h <$> as.filterMapM (fun a => do let b ← p a; pure (if b then some a else none)) := by
  induction as with
  | nil => simp
  | cons a as ih =>
    simp only [List.filterMapM_cons, ih, bind_assoc, pure_bind, map_bind]
    congr 1
    funext b
    cases b <;> simp

/-- When the test answers for every item, keeping the items it claims is the
filter of its yeses. -/
theorem filterMapM_of_answers {ε α : Type} (claims : α → Except ε Bool) (as : List α)
    (hall : ∀ a ∈ as, ∃ x, claims a = .ok x) :
    as.filterMapM (fun a => do let b ← claims a; pure (if b then some a else none)) =
      .ok (as.filter fun a => (claims a).toOption = some true) := by
  induction as with
  | nil => rfl
  | cons a as ih =>
    obtain ⟨x, hx⟩ := hall a List.mem_cons_self
    rw [List.filterMapM_cons, ih fun b hb => hall b (List.mem_cons_of_mem a hb)]
    cases x <;> simp [hx, Except.toOption]

/-! ## What claims a file -/

/-- Detections one after another through one reader of a text file each
answer as on the file's lines from the start: detection only looks ahead and
leaves the lines as they were. -/
theorem exec_detections (as : List TextArtifact) (t : TextLines) :
    ((as.filterMapM (fun a => do
        let b ← a.detectWith TextLines.access
        pure (if b then some a else none)) : LineReading TextLines (List TextArtifact)).exec t).1 =
      as.filterMapM (fun a => do let b ← a.detect t.view; pure (if b then some a else none)) := by
  -- on the artifacts, for every reader: each detection leaves one that answers as before
  induction as generalizing t with
  | nil => rfl
  | cons a as ih =>
    obtain ⟨hres, hview⟩ := TextLines.exec_detectWith a t
    rw [List.filterMapM_cons, List.filterMapM_cons, bind_assoc, LineReading.exec_bind]
    rcases hx : (a.detectWith TextLines.access).exec t with ⟨res, t'⟩
    rw [hx] at hres hview
    dsimp only at hres hview ⊢
    subst hres
    cases a.detect t.view with
    | error e => rfl
    | ok b =>
      cases b with
      | false =>
        simp only [pure_bind, Except.ok_bind, Bool.false_eq_true, ↓reduceIte]
        rw [ih t', hview]
      | true =>
        -- the rest runs from the reader the detection left
        simp only [pure_bind, Except.ok_bind, ↓reduceIte, LineReading.exec_bind]
        have hrest := ih t'
        rw [hview] at hrest
        rcases hy : (List.filterMapM (fun a => do
            let b ← a.detectWith TextLines.access
            pure (if b then some a else none)) as : LineReading TextLines (List TextArtifact)).exec t'
          with ⟨res, t''⟩
        rw [hy] at hrest ⊢
        dsimp only at hrest
        rw [← hrest]
        cases res <;> rfl

/-- The claimants of a text file: the text artifacts, in registry order, whose
detectors claim the file's lines, each asked from the first line. -/
theorem claimants_eq_of_text {r : Registry} {fs : Files} {path : String} {lines : TextLines}
    (hk : evidenceKind fs path = .ok .text) (ho : openText fs path = .ok lines) :
    claimants r fs path =
      (List.map Artifact.text <$> r.textArtifacts.filterMapM
          (fun (a : TextArtifact) => do let b ← a.detect lines.view; pure (if b then some a else none))).mapError
        fun e => (Failure.ofSource e).within ("failed to read " ++ path) := by
  unfold claimants
  rw [hk, Except.ok_bind]
  dsimp only
  rw [ho, Except.ok_bind, filterMapM_claimed (h := Artifact.text), LineReading.exec_map, exec_detections]
  rfl

/-- The claimants of a database: the row artifacts, in registry order, whose
detectors claim its rows. -/
theorem claimants_eq_of_database {r : Registry} {fs : Files} {path : String} {source : RowSource}
    (hk : evidenceKind fs path = .ok .database) (ho : openRows fs path = .ok source) :
    claimants r fs path =
      List.map Artifact.rows <$> r.rowArtifacts.filterMapM (fun (a : RowArtifact) => do
        let b ← (a.detect source).mapError fun e => (Failure.ofSource e).within ("failed to inspect " ++ path)
        pure (if b then some a else none)) := by
  unfold claimants
  rw [hk, Except.ok_bind]
  dsimp only
  rw [ho, Except.ok_bind, filterMapM_claimed (h := Artifact.rows)]

/-- The claimants of a text file whose detectors all answer: those that answer yes. -/
theorem claimants_of_text {r : Registry} {fs : Files} {path : String} {lines : TextLines}
    (hk : evidenceKind fs path = .ok .text) (ho : openText fs path = .ok lines)
    (hall : ∀ a ∈ r.textArtifacts, ∃ x, a.detect lines.view = .ok x) :
    claimants r fs path = .ok ((r.textArtifacts.filter fun a => (a.detect lines.view).toOption = some true).map .text) := by
  rw [claimants_eq_of_text hk ho, filterMapM_of_answers _ _ hall]
  rfl

/-- The claimants of a database whose detectors all answer: those that answer yes. -/
theorem claimants_of_database {r : Registry} {fs : Files} {path : String} {source : RowSource}
    (hk : evidenceKind fs path = .ok .database) (ho : openRows fs path = .ok source)
    (hall : ∀ a ∈ r.rowArtifacts, ∃ x, a.detect source = .ok x) :
    claimants r fs path = .ok ((r.rowArtifacts.filter fun a => (a.detect source).toOption = some true).map .rows) := by
  rw [claimants_eq_of_database hk ho, filterMapM_of_answers _ _ fun a ha => ?_]
  · simp [Except.toOption_mapError]
  · obtain ⟨x, hx⟩ := hall a ha
    exact ⟨x, by rw [hx]; rfl⟩

/-- Whatever claims a file reads its kind. -/
theorem reads_of_claimants {r : Registry} {fs : Files} {path : String} {k : EvidenceKind}
    {cs : List Artifact} (hk : evidenceKind fs path = .ok k) (hc : claimants r fs path = .ok cs) :
    ∀ a ∈ cs, k.reads a = true := by
  cases k with
  | text =>
    cases ho : openText fs path with
    | error e => simp [claimants, hk, ho] at hc
    | ok lines =>
      rw [claimants_eq_of_text hk ho] at hc
      obtain ⟨ys, -, rfl⟩ := Except.exists_of_map_eq_ok (Except.ok_of_mapError_eq_ok hc)
      simp [EvidenceKind.reads]
  | database =>
    cases ho : openRows fs path with
    | error e => simp [claimants, hk, ho] at hc
    | ok source =>
      rw [claimants_eq_of_database hk ho] at hc
      obtain ⟨ys, -, rfl⟩ := Except.exists_of_map_eq_ok hc
      simp [EvidenceKind.reads]

/-! ## One file -/

/-- The size limit lets a file of kind `k` through: a database, or a text file
no longer than the limit. -/
def ScanOptions.Admits (opts : ScanOptions) (fs : Files) (path : String) (k : EvidenceKind) : Prop :=
  k = .text → ∃ n, fs.size path = .ok n ∧ n ≤ opts.maxTextFileSize

/-- A text file over the size limit is skipped, whatever would claim it and
whatever artifact is named. -/
theorem scanFile_of_tooLarge {r : Registry} {fs : Files} {path : String} {forced : Option Artifact}
    {opts : ScanOptions} {n : Nat} (hk : evidenceKind fs path = .ok .text)
    (hs : fs.size path = .ok n) (hn : opts.maxTextFileSize < n) :
    scanFile r fs path forced opts = .ok (.tooLarge n) := by
  simp [scanFile, hk, hs, hn, Except.mapError, pure, Except.pure]

/-- Without a named artifact, a file is scanned as if its first claimant had
been named. -/
theorem scanFile_first_claimant {r : Registry} {fs : Files} {path : String} {opts : ScanOptions}
    {k : EvidenceKind} {a : Artifact} {rest : List Artifact} (hk : evidenceKind fs path = .ok k)
    (hc : claimants r fs path = .ok (a :: rest)) :
    scanFile r fs path none opts = scanFile r fs path (some a) opts := by
  have hread := reads_of_claimants hk hc a List.mem_cons_self
  simp [scanFile, hk, hc, hread]

/-- A file let through that nothing claims is reported unclaimed. -/
theorem scanFile_unclaimed {r : Registry} {fs : Files} {path : String} {opts : ScanOptions}
    {k : EvidenceKind} (hk : evidenceKind fs path = .ok k) (hadm : opts.Admits fs path k)
    (hc : claimants r fs path = .ok []) : scanFile r fs path none opts = .ok .unclaimed := by
  cases k with
  | text =>
    obtain ⟨n, hs, hn⟩ := hadm rfl
    simp [scanFile, hk, hc, hs, Nat.not_lt.mpr hn, Except.mapError, pure, Except.pure]
  | database => simp [scanFile, hk, hc, pure, Except.pure]

/-- A named artifact that does not read a file's kind fails that file, once the
size limit lets it through. -/
theorem scanFile_wrong_kind {r : Registry} {fs : Files} {path : String} {opts : ScanOptions}
    {k : EvidenceKind} {a : Artifact} (hk : evidenceKind fs path = .ok k) (hadm : opts.Admits fs path k)
    (hread : k.reads a = false) :
    scanFile r fs path (some a) opts =
      .error ⟨"parser `" ++ a.name ++ "` does not read " ++ k.display ++ " files", []⟩ := by
  cases k with
  | text =>
    obtain ⟨n, hs, hn⟩ := hadm rfl
    simp [scanFile, hk, hs, hread, Nat.not_lt.mpr hn, Except.mapError, throw, throwThe, MonadExceptOf.throw]
  | database => simp [scanFile, hk, hread, throw, throwThe, MonadExceptOf.throw]

/-! ## One line per event -/

namespace Json

/-- An escaped character is no line feed: the line feed itself is written `\n`. -/
theorem lineFeed_not_mem_escapeChar (c : Char) : '\n' ∉ escapeChar c := by
  have hhex : ∀ n < 32, '\n' ∉ Nat.toDigits 16 n := by decide
  unfold escapeChar
  split_ifs with h1 h2 h3 h4 h5 h6 h7 hcontrol
  -- the short escapes: a backslash and a letter
  any_goals decide
  -- the other control characters by their code
  · simp [hhex _ hcontrol]
  -- every other character stands for itself
  · simpa [eq_comm] using h3

theorem lineFeed_not_mem_quoted (s : String) : '\n' ∉ (quoted s).toList := by
  simp [quoted, lineFeed_not_mem_escapeChar]

/-- Members whose values hold no line feed are written without one. -/
theorem lineFeed_not_mem_renderMembers :
    ∀ {ms : List (String × Json)}, (∀ m ∈ ms, '\n' ∉ (render m.2).toList) → '\n' ∉ (renderMembers ms).toList
  | [], _ => by simp [renderMembers]
  | [(k, v)], h => by
    have hv := h (k, v) List.mem_cons_self
    simp only [renderMembers, String.toList_append, List.mem_append, not_or]
    exact ⟨⟨lineFeed_not_mem_quoted k, by decide⟩, hv⟩
  | (k, v) :: m :: ms, h => by
    have hv := h (k, v) List.mem_cons_self
    have hms := lineFeed_not_mem_renderMembers fun x hx => h x (List.mem_cons_of_mem _ hx)
    simp only [renderMembers, String.toList_append, List.mem_append, not_or]
    exact ⟨⟨⟨⟨lineFeed_not_mem_quoted k, by decide⟩, hv⟩, by decide⟩, hms⟩

theorem lineFeed_not_mem_render_obj {ms : List (String × Json)} (h : ∀ m ∈ ms, '\n' ∉ (render m.2).toList) :
    '\n' ∉ (render (.obj ms)).toList := by
  simp only [render, String.toList_append, List.mem_append, not_or]
  exact ⟨⟨by decide, lineFeed_not_mem_renderMembers h⟩, by decide⟩

theorem lineFeed_not_mem_render_str (s : String) : '\n' ∉ (render (.str s)).toList := by
  simpa [render] using lineFeed_not_mem_quoted s

theorem lineFeed_not_mem_render_int (n : Int) : '\n' ∉ (render (.int n)).toList := by
  simp only [render, Text.decimal]
  split <;> simp [Text.natDigits, not_mem_toDigits_ten_of_not_isDigit (x := '\n') rfl]

theorem lineFeed_not_mem_render_bool (b : Bool) : '\n' ∉ (render (.bool b)).toList := by
  cases b <;> decide

end Json

theorem AttributeValue.lineFeed_not_mem_render (v : AttributeValue) : '\n' ∉ v.toJson.render.toList := by
  cases v with
  | unset => decide
  | str s => exact Json.lineFeed_not_mem_render_str s
  | int n => exact Json.lineFeed_not_mem_render_int n
  | bool b => exact Json.lineFeed_not_mem_render_bool b
  | timestamp t =>
    refine Json.lineFeed_not_mem_render_obj ?_
    simp [Json.lineFeed_not_mem_render_str, Json.lineFeed_not_mem_render_int, Json.lineFeed_not_mem_render_bool]

theorem Location.lineFeed_not_mem_render (l : Location) : '\n' ∉ l.toJson.render.toList := by
  cases l <;>
    exact Json.lineFeed_not_mem_render_obj (by simp [Json.lineFeed_not_mem_render_str, Json.lineFeed_not_mem_render_int])

/-- The output line of an event is one line: its JSON, which holds no line
feed, and the line feed that ends it. -/
theorem eventLine_one_line (path : String) (e : Event) :
    ∃ line, eventLine path e = line ++ "\n" ∧ '\n' ∉ line.toList := by
  -- the attributes are an object of their own, each value a line
  have hattrs : '\n' ∉ (Json.obj (e.attributes.entries.map fun x => (x.1, x.2.toJson))).render.toList :=
    Json.lineFeed_not_mem_render_obj (by
      simp only [List.mem_map]
      rintro _ ⟨⟨k, v⟩, -, rfl⟩
      exact v.lineFeed_not_mem_render)
  refine ⟨_, rfl, Json.lineFeed_not_mem_render_obj ?_⟩
  simp [Event.members, Json.lineFeed_not_mem_render_str, Location.lineFeed_not_mem_render, hattrs]

/-! ## The report -/

/-- The events a file's scan found, in the order of its sink; none for a file
that was not scanned. -/
def fileEvents : Except Failure FileOutcome → List Event
  | .ok (.scanned _ collected _) => collected.events.toList
  | _ => []

/-- What the diagnostics say of a file after its path: its artifact and the
counts of its scan, that nothing claims it, that it was skipped for its size,
or why it failed. -/
def diagnosticNote (limit : Nat) : Except Failure FileOutcome → String
  | .ok (.scanned artifact _ stats) => artifact ++ ": " ++ toString stats.units ++ " units, " ++
      toString stats.events ++ " events, " ++ toString stats.warnings ++ " warnings"
  | .ok .unclaimed => "no parser claims this file"
  | .ok (.tooLarge size) => "skipped, " ++ toString size ++ " bytes exceeds the " ++ toString limit ++ " byte limit"
  | .error f => "failed: " ++ f.inline

/-- Adding a file's outcome appends the lines of its events, one line of
diagnostics, and counts the file if it failed. -/
theorem ScanResult.add_eq (acc : ScanResult) (limit : Nat) (path : String) (o : Except Failure FileOutcome) :
    acc.add limit path o =
      { failed := acc.failed + (if o.isOk then 0 else 1)
        out := acc.out ++ String.join ((fileEvents o).map (eventLine path))
        diagnostics := acc.diagnostics ++ (path ++ ": " ++ diagnosticNote limit o ++ "\n") } := by
  -- the written lines split after the path's colon
  have hfailed : ∀ x : String, ": failed: " ++ x = ": " ++ ("failed: " ++ x) := fun x => by
    rw [← String.append_assoc]; rfl
  have hskipped : ∀ x : String, ": skipped, " ++ x = ": " ++ ("skipped, " ++ x) := fun x => by
    rw [← String.append_assoc]; rfl
  rcases o with f | ⟨artifact, collected, stats⟩ | _ | size <;>
    simp [ScanResult.add, fileEvents, diagnosticNote, Except.isOk, Except.toBool, String.append_assoc, hfailed,
      hskipped]

/-- Files added one after another: the output and the diagnostics are those of
each file, in order, and the failures are counted. -/
theorem foldl_add (limit : Nat) (outcome : String → Except Failure FileOutcome) (paths : List String)
    (acc : ScanResult) :
    paths.foldl (fun acc p => acc.add limit p (outcome p)) acc =
      { failed := acc.failed + paths.countP (fun p => !(outcome p).isOk)
        out := acc.out ++ String.join (paths.flatMap fun p => (fileEvents (outcome p)).map (eventLine p))
        diagnostics := acc.diagnostics ++
          String.join (paths.map fun p => p ++ ": " ++ diagnosticNote limit (outcome p) ++ "\n") } := by
  induction paths generalizing acc with
  | nil => simp
  | cons p ps ih =>
    rw [List.foldl_cons, ih, ScanResult.add_eq]
    simp only [List.countP_cons, List.flatMap_cons, List.map_cons, String.join_cons, String.join_append,
      String.append_assoc]
    cases (outcome p).isOk
    · simp
      omega
    · simp

/-- With no artifact named, or one the registry holds, the scan reports each
file from its own outcome, in the order given. -/
theorem scanFiles_of_known {r : Registry} {fs : Files} {paths : List String} {opts : ScanOptions}
    (hparser : ∀ name ∈ opts.parser, name ∈ r.names) :
    let outcome := fun p => scanFile r fs p (opts.parser.bind r.get?) opts
    scanFiles r fs paths opts = .ok
      { failed := paths.countP fun p => !(outcome p).isOk
        out := String.join (paths.flatMap fun p => (fileEvents (outcome p)).map (eventLine p))
        diagnostics := String.join (paths.map fun p =>
          p ++ ": " ++ diagnosticNote opts.maxTextFileSize (outcome p) ++ "\n") } := by
  intro outcome
  cases hp : opts.parser with
  | none => simp [scanFiles, hp, foldl_add, outcome, pure, Except.pure]
  | some name =>
    obtain ⟨a, ha⟩ := Option.isSome_iff_exists.mp
      ((Registry.get?_isSome_iff r name).mpr (hparser name (by simp [hp])))
    simp [scanFiles, hp, ha, foldl_add, outcome, pure, Except.pure]

/-- The scan command. With no artifact named, or one the registry holds, it
writes the events of each file scanned, in the order given and each file's in
the order of its scan, one JSON line apiece that carries the file's path; one
line of diagnostics per file, in the order given; and counts the files that
failed. A file is scanned with the first artifact of the registry whose
detector claims it, a text file over the size limit is skipped before any
detector looks at it, and a named artifact of the wrong kind fails that file
alone. -/
theorem scan_reports_in_input_order (r : Registry) (fs : Files) (paths : List String) (opts : ScanOptions) :
    let outcome := fun p => scanFile r fs p (opts.parser.bind r.get?) opts
    ((∀ name ∈ opts.parser, name ∈ r.names) →
      scanFiles r fs paths opts = .ok
        { failed := paths.countP fun p => !(outcome p).isOk
          out := String.join (paths.flatMap fun p => (fileEvents (outcome p)).map (eventLine p))
          diagnostics := String.join (paths.map fun p =>
            p ++ ": " ++ diagnosticNote opts.maxTextFileSize (outcome p) ++ "\n") }) ∧
    (∀ p e, ∃ line, eventLine p e = line ++ "\n" ∧ '\n' ∉ line.toList) ∧
    (∀ p k a rest, evidenceKind fs p = .ok k → claimants r fs p = .ok (a :: rest) →
      scanFile r fs p none opts = scanFile r fs p (some a) opts) ∧
    (∀ p lines, evidenceKind fs p = .ok .text → openText fs p = .ok lines →
      (∀ a ∈ r.textArtifacts, ∃ x, a.detect lines.view = .ok x) →
      claimants r fs p = .ok ((r.textArtifacts.filter fun a => (a.detect lines.view).toOption = some true).map .text)) ∧
    (∀ p source, evidenceKind fs p = .ok .database → openRows fs p = .ok source →
      (∀ a ∈ r.rowArtifacts, ∃ x, a.detect source = .ok x) →
      claimants r fs p = .ok ((r.rowArtifacts.filter fun a => (a.detect source).toOption = some true).map .rows)) ∧
    (∀ p k, evidenceKind fs p = .ok k → opts.Admits fs p k → claimants r fs p = .ok [] →
      scanFile r fs p none opts = .ok .unclaimed) ∧
    (∀ p n forced, evidenceKind fs p = .ok .text → fs.size p = .ok n → opts.maxTextFileSize < n →
      scanFile r fs p forced opts = .ok (.tooLarge n)) ∧
    (∀ p k a, evidenceKind fs p = .ok k → opts.Admits fs p k → k.reads a = false →
      scanFile r fs p (some a) opts =
        .error ⟨"parser `" ++ a.name ++ "` does not read " ++ k.display ++ " files", []⟩) :=
  ⟨scanFiles_of_known, eventLine_one_line, fun _ _ _ _ hk hc => scanFile_first_claimant hk hc,
    fun _ _ hk ho hall => claimants_of_text hk ho hall, fun _ _ hk ho hall => claimants_of_database hk ho hall,
    fun _ _ hk hadm hc => scanFile_unclaimed hk hadm hc, fun _ _ _ hk hs hn => scanFile_of_tooLarge hk hs hn,
    fun _ _ _ hk hadm hread => scanFile_wrong_kind hk hadm hread⟩

end Timeline
