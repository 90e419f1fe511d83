import Mathlib.Data.List.Nodup
import Timeline.Artifact.Builtin
/-!
# Building a registry and selecting artifacts by name

`Registry.make?` accepts artifacts one at a time, and the registry it builds
carries the fact that their names are pairwise distinct.

* One step accepts an artifact exactly when its name is new and its
  declaration passes (`accept_eq_ok_iff`); so all steps succeed exactly when
  the names are distinct and every declaration passes
  (`of_foldlM_accept_eq_ok`, `exists_foldlM_accept_eq_ok`), and then the
  registry holds the artifacts in order (`make?_eq_ok_iff`).
* The built-in artifacts make the built-in registry (`make?_builtin`).

`Registry.select` narrows a registry to the artifacts a list of names asks
for. Its laws:

* a lookup finds a name exactly when the registry has it (`get?_isSome_iff`,
  `get?_isNone_iff`), so no name of a list is unknown exactly when all are
  known (`find?_unknown_eq_none_iff`);
* no names keeps the registry as it is (`select_nil`);
* the selection fails exactly at the first name, in list order, that the
  registry does not know (`select_eq_error_iff`);
* otherwise the result is the subsequence of the registry's artifacts whose
  names are asked for, each once however often it is named
  (`select_eq_ok_iff`);
* selecting again with names that were all asked for before is selecting from
  the whole registry (`select_select`), so selection is idempotent
  (`select_idem`), and the result finds exactly the names asked for
  (`get?_select_isSome_iff`).

`select_keeps_named_in_order` gathers them.
-/

namespace Timeline.Registry

/-! ## Building a registry -/

/-- Artifacts whose names are distinct and new, and whose declarations pass, are
accepted one after another. -/
theorem exists_foldlM_accept_eq_ok {artifacts : List Artifact} {seen : List String}
    (hnodup : (artifacts.map (·.name)).Nodup) (hfresh : ∀ a ∈ artifacts, a.name ∉ seen)
    (hvalid : ∀ a ∈ artifacts, a.validate = .ok ()) :
    ∃ out, artifacts.foldlM accept seen = .ok out := by
  induction artifacts generalizing seen with
  | nil => exact ⟨seen, rfl⟩
  | cons a rest ih =>
    obtain ⟨hfirst, hnodup⟩ := List.nodup_cons.mp hnodup
    have haccept : accept seen a = .ok (a.name :: seen) :=
      accept_eq_ok_iff.mpr ⟨hfresh a List.mem_cons_self, hvalid a List.mem_cons_self, rfl⟩
    -- once this name is seen, the later ones are still new
    have hfresh' : ∀ b ∈ rest, b.name ∉ a.name :: seen := by
      intro b hb hs
      rcases List.mem_cons.mp hs with hs | hs
      · exact hfirst (List.mem_map.mpr ⟨b, hb, hs⟩)
      · exact hfresh b (List.mem_cons_of_mem _ hb) hs
    obtain ⟨out, hrest⟩ := ih hnodup hfresh' fun b hb => hvalid b (List.mem_cons_of_mem _ hb)
    exact ⟨out, by rw [List.foldlM_cons, haccept]; exact hrest⟩

/-- A registry is built from artifacts exactly when their names are distinct and
every declaration passes; it holds them in their order. -/
theorem make?_eq_ok_iff {artifacts : List Artifact} {r : Registry} :
    make? artifacts = .ok r ↔
      r.artifacts = artifacts ∧ (artifacts.map (·.name)).Nodup ∧ ∀ a ∈ artifacts, a.validate = .ok () := by
  unfold make?
  split
  · rename_i out h
    obtain ⟨hnodup, -, hvalid⟩ := of_foldlM_accept_eq_ok h
    constructor
    · rintro ⟨⟩
      exact ⟨rfl, hnodup, hvalid⟩
    · rintro ⟨hr, -⟩
      exact congrArg Except.ok (Registry.ext hr.symm)
  · rename_i e h
    simp only [reduceCtorEq, false_iff, not_and]
    intro _ hnodup hvalid
    obtain ⟨out, hout⟩ := exists_foldlM_accept_eq_ok hnodup (fun _ _ => List.not_mem_nil) hvalid
    rw [h] at hout
    cases hout

/-- The built-in artifacts pass every check and make the built-in registry. -/
theorem make?_builtin : make? builtinArtifacts = .ok Registry.builtin := by
  have hvalid : ∀ a ∈ builtinArtifacts, a.validate.isOk = true := by decide
  refine make?_eq_ok_iff.mpr ⟨rfl, Registry.builtin.names_nodup, fun a ha => ?_⟩
  -- a check that passes has nothing to give but `()`
  cases hv : a.validate with
  | error e => simpa [hv, Except.isOk, Except.toBool] using hvalid a ha
  | ok u => rfl

/-! ## Selecting artifacts -/

@[simp] theorem restrict_artifacts (r : Registry) (ns : List String) :
    (r.restrict ns).artifacts = r.artifacts.filter (fun a => ns.contains a.name) := rfl

/-- A name is in the registry when one of its artifacts has it. -/
theorem mem_names {r : Registry} {n : String} : n ∈ r.names ↔ ∃ a ∈ r.artifacts, a.name = n := by
  simp [names]

/-- Looking up a name finds an artifact exactly when the registry has the name. -/
theorem get?_isSome_iff (r : Registry) (n : String) : (r.get? n).isSome ↔ n ∈ r.names := by
  simp [get?, mem_names, List.find?_isSome]

/-- Looking up a name finds nothing exactly when the registry lacks the name. -/
theorem get?_isNone_iff (r : Registry) (n : String) : (r.get? n).isNone = true ↔ n ∉ r.names := by
  rw [← get?_isSome_iff]
  cases r.get? n <;> simp

/-- No name of a list is unknown exactly when the registry has every one. -/
theorem find?_unknown_eq_none_iff {r : Registry} {ns : List String} :
    ns.find? (fun n => (r.get? n).isNone) = none ↔ ∀ n ∈ ns, n ∈ r.names := by
  simp only [List.find?_eq_none, get?_isNone_iff, not_not]

/-- Selecting no names keeps the whole registry. -/
theorem select_nil (r : Registry) : r.select [] = .ok r := rfl

/-- When every name asked for is known, the selection keeps the artifacts whose
names are asked for, in registry order. -/
theorem select_of_known {r : Registry} {ns : List String} (hns : ns ≠ [])
    (hk : ∀ n ∈ ns, n ∈ r.names) :
    r.select ns = .ok (r.restrict ns) := by
  simp [select, List.isEmpty_eq_false_iff.mpr hns, find?_unknown_eq_none_iff.mpr hk]

/-- A selection fails exactly at the first unknown name. -/
theorem select_eq_error_iff (r : Registry) (ns : List String) (e : RegistryError) :
    r.select ns = .error e ↔
      ∃ pre n post, ns = pre ++ n :: post ∧ (∀ m ∈ pre, m ∈ r.names) ∧ n ∉ r.names ∧
        e = .unknownArtifact n := by
  by_cases hns : ns = []
  · subst hns; simp [select_nil]
  cases hf : ns.find? (fun n => (r.get? n).isNone) with
  | none =>
    have hk := find?_unknown_eq_none_iff.mp hf
    rw [select_of_known hns hk]
    simp only [reduceCtorEq, false_iff, not_exists, not_and]
    intro pre n post hsplit _ hn
    exact absurd (hk n (by simp [hsplit])) hn
  | some n =>
    obtain ⟨hn, pre, post, hsplit, hpre⟩ := List.find?_eq_some_iff_append.mp hf
    simp only [select, List.isEmpty_eq_false_iff.mpr hns, hf, Bool.false_eq_true, ↓reduceIte,
      Except.error.injEq]
    constructor
    · rintro rfl
      refine ⟨pre, n, post, hsplit, fun m hm => ?_, (get?_isNone_iff r n).mp hn, rfl⟩
      have := hpre m hm
      by_contra h
      simp [(get?_isNone_iff r m).mpr h] at this
    · rintro ⟨pre', n', post', hsplit', hpre', hn', rfl⟩
      have hf' : ns.find? (fun n => (r.get? n).isNone) = some n' := by
        refine List.find?_eq_some_iff_append.mpr ⟨(get?_isNone_iff r n').mpr hn', pre', post', hsplit', ?_⟩
        intro m hm
        have := (get?_isNone_iff r m).not.mpr (not_not.mpr (hpre' m hm))
        simpa [Option.isSome_iff_ne_none] using this
      rw [hf] at hf'
      cases hf'
      rfl

/-- A sublist of a list without repeats is fixed by which of the list's members it keeps. -/
theorem eq_filter_of_sublist {α : Type} {l s : List α} (p : α → Bool) (hl : l.Nodup)
    (hs : s.Sublist l) (hm : ∀ a ∈ l, a ∈ s ↔ p a = true) : s = l.filter p := by
  induction l generalizing s with
  | nil => simpa using hs
  | cons x xs ih =>
    have hx : x ∉ xs := (List.nodup_cons.mp hl).1
    have hxs : xs.Nodup := (List.nodup_cons.mp hl).2
    cases hs with
    | cons _ hs' =>
      have hpx : p x = false := by
        have := (hm x (by simp)).not.mp (fun h => hx (hs'.subset h))
        simpa using this
      rw [List.filter_cons_of_neg (by simp [hpx])]
      exact ih hxs hs' fun a ha => hm a (by simp [ha])
    | cons_cons _ hs' =>
      rename_i s'
      have hpx : p x = true := (hm x (by simp)).mp (by simp)
      rw [List.filter_cons_of_pos hpx]
      congr 1
      refine ih hxs hs' fun a ha => ?_
      have hax : a ≠ x := fun h => hx (h ▸ ha)
      rw [← hm a (by simp [ha])]
      simp [hax]

/-- A selection that succeeds knows every name it was asked for. -/
theorem mem_names_of_select_eq_ok {r r2 : Registry} {ns : List String}
    (h : r.select ns = .ok r2) : ∀ n ∈ ns, n ∈ r.names := by
  cases hf : ns.find? (fun n => (r.get? n).isNone) with
  | none => exact find?_unknown_eq_none_iff.mp hf
  | some m =>
    -- an unknown name makes the list non-empty and the selection fail
    have hns : ns ≠ [] := by
      rintro rfl
      cases hf
    simp [select, List.isEmpty_eq_false_iff.mpr hns, hf] at h

/-- A selection of some names succeeds exactly when every name is known, and then
it keeps, in registry order, the artifacts whose names are asked for. -/
theorem select_eq_ok_iff {r r2 : Registry} {ns : List String} (hns : ns ≠ []) :
    r.select ns = .ok r2 ↔
      (∀ n ∈ ns, n ∈ r.names) ∧ r2.artifacts.Sublist r.artifacts ∧
        ∀ a ∈ r.artifacts, (a ∈ r2.artifacts ↔ a.name ∈ ns) := by
  by_cases hk : ∀ n ∈ ns, n ∈ r.names
  · rw [select_of_known hns hk]
    constructor
    · rintro ⟨⟩
      exact ⟨hk, List.filter_sublist, fun a ha => by simp [ha]⟩
    · rintro ⟨-, hsub, hmem⟩
      have := eq_filter_of_sublist (fun a => ns.contains a.name) (List.Nodup.of_map _ r.names_nodup)
        hsub (fun a ha => by simpa using hmem a ha)
      exact congrArg Except.ok (Registry.ext this.symm)
  · simp only [hk, false_and, iff_false]
    exact fun h => hk (mem_names_of_select_eq_ok h)

/-- Selecting, from a selection, names that were all asked for before is selecting
them from the whole registry. -/
theorem select_select {r r2 : Registry} {ns ms : List String} (h : r.select ns = .ok r2)
    (hms : ms ≠ []) (hsub : ∀ m ∈ ms, m ∈ ns) : r2.select ms = r.select ms := by
  have hns : ns ≠ [] := by
    rintro rfl
    obtain ⟨m, hm⟩ := List.exists_mem_of_ne_nil ms hms
    exact absurd (hsub m hm) (by simp)
  have hk := mem_names_of_select_eq_ok h
  rw [select_of_known hns hk] at h
  cases h
  have hkr : ∀ m ∈ ms, m ∈ r.names := fun m hm => hk m (hsub m hm)
  have hk2 : ∀ m ∈ ms, m ∈ (r.restrict ns).names := by
    intro m hm
    obtain ⟨a, ha, rfl⟩ := mem_names.mp (hkr m hm)
    exact mem_names.mpr ⟨a, by simpa [ha] using hsub _ hm, rfl⟩
  rw [select_of_known hms hk2, select_of_known hms hkr]
  refine congrArg Except.ok (Registry.ext ?_)
  rw [restrict_artifacts, restrict_artifacts, restrict_artifacts, List.filter_filter]
  refine List.filter_congr fun a _ => ?_
  cases hm : ms.contains a.name
  · simp
  · have : a.name ∈ ns := hsub _ (by simpa using hm)
    simp [this]

/-- Selecting the same names twice is selecting them once. -/
theorem select_idem {r r2 : Registry} {ns : List String} (h : r.select ns = .ok r2) :
    r2.select ns = .ok r2 := by
  by_cases hns : ns = []
  · subst hns; exact select_nil r2
  · rw [select_select h hns fun _ hm => hm, h]

/-- A selection of some names finds exactly those names. -/
theorem get?_select_isSome_iff {r r2 : Registry} {ns : List String} (h : r.select ns = .ok r2)
    (hns : ns ≠ []) (n : String) : (r2.get? n).isSome ↔ n ∈ ns := by
  have hk := mem_names_of_select_eq_ok h
  rw [select_of_known hns hk] at h
  cases h
  rw [get?_isSome_iff, mem_names]
  constructor
  · rintro ⟨a, ha, rfl⟩
    simpa using (List.mem_filter.mp ha).2
  · intro hn
    obtain ⟨a, ha, rfl⟩ := mem_names.mp (hk _ hn)
    exact ⟨a, List.mem_filter.mpr ⟨ha, by simpa using hn⟩, rfl⟩

/-- Selection is an order-preserving filter that refuses the first unknown name. -/
theorem select_keeps_named_in_order (r : Registry) (ns : List String) :
    r.select [] = .ok r ∧
    (∀ e, r.select ns = .error e ↔
      ∃ pre n post, ns = pre ++ n :: post ∧ (∀ m ∈ pre, m ∈ r.names) ∧ n ∉ r.names ∧
        e = .unknownArtifact n) ∧
    (ns ≠ [] → ∀ r2, r.select ns = .ok r2 ↔
      (∀ n ∈ ns, n ∈ r.names) ∧ r2.artifacts.Sublist r.artifacts ∧
        ∀ a ∈ r.artifacts, (a ∈ r2.artifacts ↔ a.name ∈ ns)) ∧
    ∀ r2, r.select ns = .ok r2 →
      r2.names.Nodup ∧ r2.select ns = .ok r2 ∧
      (∀ ms, ms ≠ [] → (∀ m ∈ ms, m ∈ ns) → r2.select ms = r.select ms) ∧
      (ns ≠ [] → ∀ n, (r2.get? n).isSome ↔ n ∈ ns) :=
  ⟨select_nil r, select_eq_error_iff r ns, fun hns _ => select_eq_ok_iff hns,
    fun r2 h => ⟨r2.names_nodup, select_idem h, fun _ hms hsub => select_select h hms hsub,
      fun hns n => get?_select_isSome_iff h hns n⟩⟩

/-- Mac Notes and the vsftpd log, Mac Notes named twice. -/
def notesAndFtpLog : List String := ["mac_notes", "vsftpd", "mac_notes"]

/-- Selecting Mac Notes and the vsftpd log, one of them twice, from the built-in
registry. -/
theorem builtin_select_notes_and_ftp_log :
    Registry.builtin.select [] = .ok Registry.builtin ∧
    (∀ e, Registry.builtin.select notesAndFtpLog = .error e ↔
      ∃ pre n post, notesAndFtpLog = pre ++ n :: post ∧
        (∀ m ∈ pre, m ∈ Registry.builtin.names) ∧ n ∉ Registry.builtin.names ∧
        e = .unknownArtifact n) ∧
    (notesAndFtpLog ≠ [] → ∀ r2, Registry.builtin.select notesAndFtpLog = .ok r2 ↔
        (∀ n ∈ notesAndFtpLog, n ∈ Registry.builtin.names) ∧
        r2.artifacts.Sublist Registry.builtin.artifacts ∧
        ∀ a ∈ Registry.builtin.artifacts, (a ∈ r2.artifacts ↔ a.name ∈ notesAndFtpLog)) ∧
    ∀ r2, Registry.builtin.select notesAndFtpLog = .ok r2 →
      r2.names.Nodup ∧ r2.select notesAndFtpLog = .ok r2 ∧
      (∀ ms, ms ≠ [] → (∀ m ∈ ms, m ∈ notesAndFtpLog) → r2.select ms = Registry.builtin.select ms) ∧
      (notesAndFtpLog ≠ [] → ∀ n, (r2.get? n).isSome ↔ n ∈ notesAndFtpLog) :=
  select_keeps_named_in_order Registry.builtin notesAndFtpLog

end Timeline.Registry
