import Mathlib.Data.List.Perm.Basic
import Timeline.Artifact.Builtin
/-!
# Validation predicts extraction

Building a registry checks each text artifact's declaration (`TextArtifact.validate`).
Among other things it computes, with `availableAfterTimes`, the names a record
holds once its times are assembled: the recorded fields, less the components
each time takes, plus the name of each time, in the order of the times. This
module shows that this computation is exact for every unit the grammar reads.

* Taking components. `Takes cs act` says that an assembly step takes the
  components `cs` out of the record: from a record that holds each once, it
  never fails for a missing component, and when it succeeds, none of them held
  a time and the record is left without them. It is closed under `pure`,
  `throw`, `>>=` and `<$>` (`takes_bind`, ...) and under reordering
  (`Takes.perm`), and each time's assembly takes its layout's components
  (`takes_assemble`).
* Validation. `availableAfterTimes_cons_eq_ok` unfolds the check of the times,
  one time at a time; `validate_eq_ok` gives what a valid declaration
  guarantees.
* The fields. The record of `Grammar.apply` holds exactly the recorded fields
  (`get?_apply_isSome`).
* The times. `Fits` is the invariant of time assembly against the available
  names, kept by each time (`Fits.assembleInto`) and so by all of them
  (`foldlM_assembleInto`).
* Events. An event made from a record that holds every field its attributes
  read has no unset attribute (`Emission.ne_unset_of_toEvent`).

The main statement, `extract_matches_validation`, says that for a valid text
artifact extraction never reports a missing component, and that the record of
a unit holds exactly the available names: the times as times and every other
name as the fields gave it. Every attribute then reads a field that is there,
so no event of the artifact has an unset attribute.
-/

namespace Timeline

/-! ## Taking components out of a record -/

/-- An assembly step takes the components `cs` out of the record. From a record
that holds each of them, all different, it fails for another reason than a
missing component, or succeeds; when it succeeds, none of them held a time and
the record is left without them. -/
structure Takes {α : Type} (cs : List String) (act : Assembly α) : Prop where
  not_missing : ∀ r : Record, cs.Nodup → (∀ c ∈ cs, (r.get? c).isSome) →
    ∀ time c, act.run r ≠ .error (.missingComponent time c)
  not_time : ∀ r x r', act.run r = .ok (x, r') →
    ∀ c ∈ cs, ∀ raw, r.get? c ≠ some (.time raw)
  get?_of_ok : ∀ r x r', act.run r = .ok (x, r') →
    ∀ k, r'.get? k = if k ∈ cs then none else r.get? k

section Takes

variable {α β : Type} {cs ds : List String}

theorem run_bind_of_error {act : Assembly α} {f : α → Assembly β} {r : Record}
    {e : ExtractError} (h : act.run r = .error e) : (act >>= f).run r = .error e := by
  rw [StateT.run_bind, h]
  rfl

theorem run_bind_of_ok {act : Assembly α} {f : α → Assembly β} {r r₁ : Record} {x : α}
    (h : act.run r = .ok (x, r₁)) : (act >>= f).run r = (f x).run r₁ := by
  rw [StateT.run_bind, h]
  rfl

/-- A bound step that succeeds ran both its parts. -/
theorem run_bind_eq_ok {act : Assembly α} {f : α → Assembly β} {r r₂ : Record} {y : β}
    (h : (act >>= f).run r = .ok (y, r₂)) :
    ∃ x r₁, act.run r = .ok (x, r₁) ∧ (f x).run r₁ = .ok (y, r₂) := by
  cases h₁ : act.run r with
  | error e => rw [run_bind_of_error h₁] at h; cases h
  | ok p =>
    obtain ⟨x, r₁⟩ := p
    exact ⟨x, r₁, rfl, by rwa [run_bind_of_ok h₁] at h⟩

theorem takes_pure (x : α) : Takes [] (pure x : Assembly α) where
  not_missing r _ _ time c := by
    rw [show (pure x : Assembly α).run r = .ok (x, r) from rfl]
    exact nofun
  not_time _ _ _ _ c hc := absurd hc List.not_mem_nil
  get?_of_ok r x' r' h k := by
    rw [show (pure x : Assembly α).run r = .ok (x, r) from rfl] at h
    cases h
    simp

theorem takes_throw (e : ExtractError) (he : ∀ time c, e ≠ .missingComponent time c) :
    Takes [] (throw e : Assembly α) where
  not_missing r _ _ time c := by
    rw [show (throw e : Assembly α).run r = .error e from rfl]
    exact fun h => he time c (Except.error.inj h)
  not_time _ _ _ _ c hc := absurd hc List.not_mem_nil
  get?_of_ok r x r' h := by
    rw [show (throw e : Assembly α).run r = .error e from rfl] at h
    cases h

/-- Two steps in a row take the components of both. -/
theorem takes_bind {act : Assembly α} {f : α → Assembly β} (ha : Takes cs act)
    (hf : ∀ x, Takes ds (f x)) : Takes (cs ++ ds) (act >>= f) where
  not_missing r hnd hall time c := by
    obtain ⟨hcs, hds, hdisj⟩ := List.nodup_append.mp hnd
    cases h : act.run r with
    | error e =>
      rw [run_bind_of_error h]
      intro he
      have he' : e = .missingComponent time c := Except.error.inj he
      exact ha.not_missing r hcs (fun c hc => hall c (List.mem_append_left _ hc)) time c
        (he' ▸ h)
    | ok p =>
      -- the second step finds its components: the first took only its own
      rw [run_bind_of_ok h]
      refine (hf p.1).not_missing p.2 hds (fun d hd => ?_) time c
      rw [ha.get?_of_ok r p.1 p.2 h d, if_neg (fun hdc => hdisj d hdc d hd rfl)]
      exact hall d (List.mem_append_right _ hd)
  not_time r y r₂ h c hc raw := by
    obtain ⟨x, r₁, h₁, h₂⟩ := run_bind_eq_ok h
    by_cases hcs : c ∈ cs
    · exact ha.not_time r x r₁ h₁ c hcs raw
    · have hds : c ∈ ds := (List.mem_append.mp hc).resolve_left hcs
      have := (hf x).not_time r₁ y r₂ h₂ c hds raw
      rwa [ha.get?_of_ok r x r₁ h₁ c, if_neg hcs] at this
  get?_of_ok r y r₂ h k := by
    obtain ⟨x, r₁, h₁, h₂⟩ := run_bind_eq_ok h
    rw [(hf x).get?_of_ok r₁ y r₂ h₂ k, ha.get?_of_ok r x r₁ h₁ k]
    by_cases hd : k ∈ ds <;> by_cases hc : k ∈ cs <;> simp [hd, hc]

theorem takes_map {act : Assembly α} (g : α → β) (ha : Takes cs act) :
    Takes cs (g <$> act) := by
  rw [map_eq_pure_bind]
  simpa using takes_bind ha fun x => takes_pure (g x)

/-- What a step takes does not depend on the order the components are listed in. -/
theorem Takes.perm {act : Assembly α} (hp : cs.Perm ds) (h : Takes cs act) : Takes ds act where
  not_missing r hnd hall :=
    h.not_missing r (hp.nodup_iff.mpr hnd) fun c hc => hall c (hp.mem_iff.mp hc)
  not_time r x r' hrun c hc := h.not_time r x r' hrun c (hp.mem_iff.mpr hc)
  get?_of_ok r x r' hrun k := by
    rw [h.get?_of_ok r x r' hrun k]
    simp only [hp.mem_iff]

end Takes

/-! ## Assembling a time -/

theorem run_takeInt (time c : String) (r : Record) :
    (takeInt time c).run r =
      match r.get? c with
      | some (.int n) => .ok (n, r.erase c)
      | some _ => .error (.invalidComponent time c)
      | none => .error (.missingComponent time c) := by
  show (match r.get? c with
    | some (.int n) => pure n
    | some _ => throw (.invalidComponent time c)
    | none => throw (.missingComponent time c) : Assembly Int).run (r.erase c) = _
  split <;> rfl

theorem run_takeMonth (time c : String) (r : Record) :
    (takeMonth time c).run r =
      match r.get? c with
      | some (.int n) =>
        if 0 ≤ n ∧ n ≤ 4294967295 then .ok (.number n.toNat, r.erase c)
        else .error (.invalidComponent time c)
      | some (.str s) => .ok (.name s, r.erase c)
      | some _ => .error (.invalidComponent time c)
      | none => .error (.missingComponent time c) := by
  show (match r.get? c with
    | some (.int n) =>
      if 0 ≤ n ∧ n ≤ 4294967295 then pure (.number n.toNat)
      else throw (.invalidComponent time c)
    | some (.str s) => pure (.name s)
    | some _ => throw (.invalidComponent time c)
    | none => throw (.missingComponent time c) : Assembly Time.MonthRef).run (r.erase c) = _
  split
  · split <;> rfl
  all_goals rfl

/-- The record a component was taken from, read at any name. -/
theorem get?_erase_eq_ite (r : Record) (c k : String) :
    (r.erase c).get? k = if k ∈ [c] then none else r.get? k := by
  by_cases hk : k = c
  · subst hk
    simp
  · simp [hk, Ne.symm hk]

theorem takes_takeInt (time c : String) : Takes [c] (takeInt time c) where
  not_missing r _ hall t c' := by
    obtain ⟨v, hv⟩ := Option.isSome_iff_exists.mp (hall c (List.mem_singleton_self c))
    rw [run_takeInt, hv]
    cases v <;> exact nofun
  not_time r x r' h c' hc raw hraw := by
    rw [List.mem_singleton.mp hc] at hraw
    rw [run_takeInt, hraw] at h
    cases h
  get?_of_ok r x r' h k := by
    rw [run_takeInt] at h
    split at h
    · cases h
      exact get?_erase_eq_ite r c k
    all_goals cases h

theorem takes_takeMonth (time c : String) : Takes [c] (takeMonth time c) where
  not_missing r _ hall t c' := by
    obtain ⟨v, hv⟩ := Option.isSome_iff_exists.mp (hall c (List.mem_singleton_self c))
    rw [run_takeMonth, hv]
    cases v with
    | int n =>
      dsimp only
      split <;> exact nofun
    | _ => exact nofun
  not_time r x r' h c' hc raw hraw := by
    rw [List.mem_singleton.mp hc] at hraw
    rw [run_takeMonth, hraw] at h
    cases h
  get?_of_ok r x r' h k := by
    rw [run_takeMonth] at h
    split at h
    · split at h
      · cases h
        exact get?_erase_eq_ite r c k
      · cases h
    · cases h
      exact get?_erase_eq_ite r c k
    all_goals cases h

theorem takes_takeBounded (time c : String) (lo hi : Int) :
    Takes [c] (takeBounded time c lo hi) := by
  have hcheck : ∀ n : Int, Takes []
      (if lo ≤ n ∧ n ≤ hi then pure n else throw (.invalidComponent time c) : Assembly Int) := by
    intro n
    split
    · exact takes_pure n
    · exact takes_throw _ nofun
  unfold takeBounded
  simpa using takes_bind (takes_takeInt time c) hcheck

theorem takes_takeWord (time c : String) : Takes [c] (takeWord time c) :=
  takes_map _ (takes_takeBounded time c 0 4294967295)

theorem takes_takeYear (l : TupleLayout) (time : String) (scanYear : Option Int) :
    Takes l.year.field?.toList (l.takeYear time scanYear) := by
  unfold TupleLayout.takeYear
  cases l.year with
  | field f => exact takes_takeBounded _ _ _ _
  | scan =>
    cases scanYear with
    | some y => exact takes_pure y
    | none => exact takes_throw _ nofun

theorem takes_takeFraction (l : TupleLayout) (time : String) :
    Takes (l.fraction.map (·.field)).toList (l.takeFraction time) := by
  unfold TupleLayout.takeFraction
  cases l.fraction with
  | some f => exact takes_map _ (takes_takeWord _ _)
  | none => exact takes_pure none

/-- A time takes the components of its layout. -/
theorem takes_assemble (t : TimeField) (scanYear : Option Int) :
    Takes t.layout.components (t.assemble scanYear) := by
  unfold TimeField.assemble
  cases t.layout with
  | epochSeconds f => exact takes_map _ (takes_takeInt _ _)
  | epochMillis f => exact takes_map _ (takes_takeInt _ _)
  | tuple l =>
    refine Takes.perm ?_ (takes_bind (takes_takeYear l _ _) fun year =>
      takes_bind (takes_takeMonth _ _) fun month => takes_bind (takes_takeFraction l _) fun fraction =>
      takes_bind (takes_takeWord _ _) fun day => takes_bind (takes_takeWord _ _) fun hour =>
      takes_bind (takes_takeWord _ _) fun minute => takes_bind (takes_takeWord _ _) fun second =>
      takes_pure _)
    -- the fraction is taken before the clock, and listed after it
    simp only [TimeLayout.components, List.append_assoc, List.cons_append, List.nil_append,
      List.append_nil]
    exact List.Perm.append_left _ (List.Perm.cons _ List.perm_append_comm)

theorem assembleInto_eq (t : TimeField) (scanYear : Option Int) (r : Record) :
    t.assembleInto scanYear r =
      ((t.assemble scanYear).run r).map fun p => p.2.insert t.name (.time p.1) := by
  unfold TimeField.assembleInto
  cases (t.assemble scanYear).run r <;> rfl

/-! ## What validation counts as available -/

/-- A step that succeeds was given a value to continue with. -/
theorem exists_of_bind_eq_ok {ε α β : Type} {x : Except ε α} {f : α → Except ε β} {b : β}
    (h : x >>= f = .ok b) : ∃ a, x = .ok a ∧ f a = .ok b := by
  cases x with
  | error e => cases h
  | ok a => exact ⟨a, rfl, h⟩

/-- Names removed one by one, each of which must be there: they are all
different and were all there, and what is left is the rest. -/
theorem foldlM_remove_eq_ok {ε : Type} {f : List String → String → Except ε (List String)}
    (hf : ∀ avail c r, f avail c = .ok r → c ∈ avail ∧ r = avail.filter (· != c)) :
    ∀ {cs avail rest : List String}, cs.foldlM f avail = .ok rest →
      cs.Nodup ∧ (∀ c ∈ cs, c ∈ avail) ∧ ∀ k, k ∈ rest ↔ k ∈ avail ∧ k ∉ cs
  | [], avail, rest, h => by
    cases h
    simp
  | c :: cs, avail, rest, h => by
    rw [List.foldlM_cons] at h
    obtain ⟨r, hc, h⟩ := exists_of_bind_eq_ok h
    obtain ⟨hmem, rfl⟩ := hf avail c r hc
    obtain ⟨hnd, hsub, hrest⟩ := foldlM_remove_eq_ok hf h
    -- the later names were there after `c` was removed, so they differ from it
    have hne : ∀ c' ∈ cs, c' ≠ c := fun c' hc' => by
      simpa using (List.mem_filter.mp (hsub c' hc')).2
    refine ⟨List.nodup_cons.mpr ⟨fun h => hne c h rfl, hnd⟩, fun c' hc' => ?_, fun k => ?_⟩
    · rcases List.mem_cons.mp hc' with rfl | hc'
      · exact hmem
      · exact (List.mem_filter.mp (hsub c' hc')).1
    · simp [hrest, List.mem_filter, not_or, and_assoc]

/-- The check of one time: its components are available and all different, and
what is available to the next times is the rest and the time's name. -/
theorem availableAfterTimes_cons_eq_ok {artifact : String} {avail final : List String}
    {t : TimeField} {ts : List TimeField}
    (h : availableAfterTimes artifact avail (t :: ts) = .ok final) :
    ∃ rest, t.layout.components.Nodup ∧ (∀ c ∈ t.layout.components, c ∈ avail) ∧
      (∀ k, k ∈ rest ↔ k ∈ avail ∧ k ∉ t.layout.components) ∧
      availableAfterTimes artifact (t.name :: rest) ts = .ok final := by
  rw [availableAfterTimes] at h
  obtain ⟨rest, hfold, hnext⟩ := exists_of_bind_eq_ok h
  obtain ⟨hnd, hsub, hrest⟩ := foldlM_remove_eq_ok (fun avail c r hr => by
    split at hr
    · rename_i hc
      exact ⟨by simpa using hc, (Except.ok.inj hr).symm⟩
    · cases hr) hfold
  exact ⟨rest, hnd, hsub, hrest, hnext⟩

theorem checkAttributes_eq_ok {artifact : String} {emission : Emission} {available : List String}
    (h : checkAttributes artifact emission available = .ok ()) :
    ∀ spec ∈ emission.attributes, spec.field ∈ available := by
  unfold checkAttributes at h
  split at h
  · cases h
  · intro spec hspec
    have := List.find?_eq_none.mp ‹_› spec hspec
    simpa using this

/-- A valid declaration makes its times' check succeed, and every attribute
reads an available name. -/
theorem validate_eq_ok {a : TextArtifact} (h : a.validate = .ok ()) :
    ∃ available, availableAfterTimes a.name a.grammar.captured a.grammar.times = .ok available ∧
      ∀ spec ∈ a.emission.attributes, spec.field ∈ available := by
  unfold TextArtifact.validate at h
  obtain ⟨_, _, h⟩ := exists_of_bind_eq_ok h
  obtain ⟨available, havail, hattrs⟩ := exists_of_bind_eq_ok h
  exact ⟨available, havail, checkAttributes_eq_ok hattrs⟩

/-! ## The fields of a unit -/

theorem readFields_get?_isSome {fields : List FieldSpec} {rest : List Char} {offset : Nat}
    {record r : Record} {rest' : List Char} {offset' : Nat}
    (h : readFields fields rest offset record = .ok (r, rest', offset')) (k : String) :
    (r.get? k).isSome ↔
      (record.get? k).isSome ∨ k ∈ (fields.filter (!·.suppress)).map (·.name) := by
  induction fields generalizing rest offset record with
  | nil =>
    cases h
    simp
  | cons f fs ih =>
    rw [readFields] at h
    split at h
    · cases h
    · rw [ih h]
      -- the field is recorded under its name unless it is suppressed
      by_cases hs : f.suppress
      · simp [hs]
      · by_cases hk : f.name = k
        · simp [hs, hk]
        · simp [hs, hk, Ne.symm hk]

/-- The record of a unit holds exactly the names of the recorded fields. -/
theorem get?_apply_isSome {g : Grammar} {unit : String} {r : Record} (h : g.apply unit = .ok r)
    (k : String) : (r.get? k).isSome ↔ k ∈ g.captured := by
  unfold Grammar.apply applyFields at h
  obtain ⟨⟨record, rest, offset⟩, hread, h⟩ := exists_of_bind_eq_ok h
  dsimp only at h
  by_cases hb : Text.isBlank (String.ofList rest) = true
  · rw [if_pos hb] at h
    cases h
    simpa [Grammar.captured] using readFields_get?_isSome hread k
  · rw [if_neg hb] at h
    cases h

theorem extract_eq_ok {g : Grammar} {unit : String} {scanYear : Option Int} {record : Record}
    (h : g.extract unit scanYear = .ok record) :
    ∃ fields, g.apply unit = .ok fields ∧
      g.times.foldlM (fun r t => t.assembleInto scanYear r) fields = .ok record := by
  unfold Grammar.extract at h
  obtain ⟨fields, happ, h⟩ := exists_of_bind_eq_ok h
  cases hr : g.apply unit with
  | error e => rw [hr] at happ; cases happ
  | ok fields' =>
    rw [hr] at happ
    cases happ
    exact ⟨fields, rfl, h⟩

theorem extract_of_apply_ok {g : Grammar} {unit : String} {scanYear : Option Int} {fields : Record}
    (h : g.apply unit = .ok fields) :
    g.extract unit scanYear = g.times.foldlM (fun r t => t.assembleInto scanYear r) fields := by
  unfold Grammar.extract
  rw [h]
  rfl

theorem extract_of_apply_error {g : Grammar} {unit : String} {scanYear : Option Int}
    {e : MatchError} (h : g.apply unit = .error e) :
    g.extract unit scanYear = .error (.mismatch e) := by
  unfold Grammar.extract
  rw [h]
  rfl

/-! ## The times of a unit -/

/-- The record of a unit while its times are assembled, against the names that
validation counts as available: it holds exactly those names, the times
assembled so far as times, and every other name as the fields gave it. -/
structure Fits (fields : Record) (done : List TimeField) (available : List String) (r : Record) :
    Prop where
  isSome_iff : ∀ k, (r.get? k).isSome ↔ k ∈ available
  time : ∀ t ∈ done, ∃ raw, r.get? t.name = some (.time raw)
  field : ∀ k, k ∉ done.map (·.name) → r.get? k = none ∨ r.get? k = fields.get? k

/-- Before any time, the record of the fields fits the recorded fields. -/
theorem Fits.init {g : Grammar} {unit : String} {fields : Record} (h : g.apply unit = .ok fields) :
    Fits fields [] g.captured fields where
  isSome_iff := get?_apply_isSome h
  time := nofun
  field _ _ := .inr rfl

/-- Assembling a time whose components are available keeps the record fitting:
it fails for another reason than a missing component, or the time's
components give way to its name. -/
theorem Fits.assembleInto {fields : Record} {done : List TimeField} {available : List String}
    {r : Record} (hfit : Fits fields done available r) {t : TimeField} {rest : List String}
    (hnd : t.layout.components.Nodup) (hsub : ∀ c ∈ t.layout.components, c ∈ available)
    (hrest : ∀ k, k ∈ rest ↔ k ∈ available ∧ k ∉ t.layout.components) (scanYear : Option Int) :
    (∀ time c, t.assembleInto scanYear r ≠ .error (.missingComponent time c)) ∧
      ∀ r'', t.assembleInto scanYear r = .ok r'' →
        Fits fields (done ++ [t]) (t.name :: rest) r'' := by
  have htakes := takes_assemble t scanYear
  rw [assembleInto_eq]
  cases hrun : (t.assemble scanYear).run r with
  | error e =>
    refine ⟨fun time c he => ?_, fun r'' h => by cases h⟩
    have he' : e = .missingComponent time c := Except.error.inj he
    exact htakes.not_missing r hnd (fun c hc => (hfit.isSome_iff c).mpr (hsub c hc)) time c
      (he' ▸ hrun)
  | ok p =>
    obtain ⟨raw, r'⟩ := p
    refine ⟨fun time c => nofun, fun r'' h => ?_⟩
    cases h
    have hget := htakes.get?_of_ok r raw r' hrun
    have hnotime := htakes.not_time r raw r' hrun
    refine ⟨fun k => ?_, fun t' ht' => ?_, fun k hk => ?_⟩
    · -- the time's name, or an available name that is not one of its components
      by_cases hk : t.name = k
      · simp [hk]
      · simp [hk, hget, hrest, Ne.symm hk]
        by_cases hc : k ∈ t.layout.components <;> simp [hc, hfit.isSome_iff]
    · rcases List.mem_append.mp ht' with ht' | ht'
      · -- an earlier time holds a time, so no component was taken from its name
        by_cases hk : t.name = t'.name
        · exact ⟨raw, by simp [hk]⟩
        · obtain ⟨raw', hraw'⟩ := hfit.time t' ht'
          have hc : t'.name ∉ t.layout.components := fun hc => hnotime _ hc raw' hraw'
          exact ⟨raw', by simp [hk, hget, hc, hraw']⟩
      · rw [List.mem_singleton.mp ht']
        exact ⟨raw, by simp⟩
    · have hk' : t.name ≠ k := fun h => hk (by simp [h])
      have hdone : k ∉ done.map (·.name) := fun h => hk (by simp_all)
      rw [NameMap.get?_insert, if_neg hk', hget k]
      split
      · exact .inl rfl
      · exact hfit.field k hdone

/-- Assembling the times one after another keeps the record fitting, up to the
names available after the last time. -/
theorem foldlM_assembleInto {fields : Record} {scanYear : Option Int} {artifact : String} :
    ∀ {ts done : List TimeField} {available final : List String} {r : Record},
      Fits fields done available r → availableAfterTimes artifact available ts = .ok final →
      (∀ time c, ts.foldlM (fun r t => t.assembleInto scanYear r) r ≠
        .error (.missingComponent time c)) ∧
      ∀ r', ts.foldlM (fun r t => t.assembleInto scanYear r) r = .ok r' →
        Fits fields (done ++ ts) final r'
  | [], done, available, final, r, hfit, havail => by
    cases havail
    refine ⟨fun time c => nofun, fun r' h => ?_⟩
    cases h
    simpa using hfit
  | t :: ts, done, available, final, r, hfit, havail => by
    obtain ⟨rest, hnd, hsub, hrest, hnext⟩ := availableAfterTimes_cons_eq_ok havail
    obtain ⟨hstep, hfit'⟩ := hfit.assembleInto hnd hsub hrest scanYear
    refine ⟨fun time c h => ?_, fun r' h => ?_⟩
    · rw [List.foldlM_cons] at h
      cases h₁ : t.assembleInto scanYear r with
      | error e =>
        rw [h₁] at h
        exact hstep time c (h₁.trans h)
      | ok r₁ =>
        rw [h₁] at h
        exact (foldlM_assembleInto (hfit' r₁ h₁) hnext).1 time c h
    · rw [List.foldlM_cons] at h
      obtain ⟨r₁, h₁, h⟩ := exists_of_bind_eq_ok h
      simpa using (foldlM_assembleInto (hfit' r₁ h₁) hnext).2 r' h

/-! ## Events -/

/-- An attribute read from a field that is there is set. -/
theorem AttributeSpec.value_ne_unset {spec : AttributeSpec} {hints : Time.TimeHints}
    {record : Record} {v : AttributeValue} (hfield : (record.get? spec.field).isSome)
    (h : spec.value hints record = .ok v) : v ≠ .unset := by
  unfold AttributeSpec.value at h
  split at h
  · simp_all
  · cases h
    exact nofun
  · cases h
    exact nofun
  · cases h
    exact nofun
  · -- a time is set once it normalizes
    split at h
    · cases h
      exact nofun
    · cases h

/-- Reading attributes one after another into a map keeps every entry set, when
each attribute read is set. -/
theorem foldlM_insert_ne_unset {specs : List AttributeSpec}
    {f : NameMap AttributeValue → AttributeSpec → Except EmitError (NameMap AttributeValue)}
    (hf : ∀ m spec m', spec ∈ specs → f m spec = .ok m' →
      ∃ v, v ≠ .unset ∧ m' = m.insert spec.name v) :
    ∀ {m m' : NameMap AttributeValue}, (∀ e ∈ m.entries, e.2 ≠ .unset) →
      specs.foldlM f m = .ok m' → ∀ e ∈ m'.entries, e.2 ≠ .unset := by
  induction specs with
  | nil =>
    intro m m' hm h
    cases h
    exact hm
  | cons spec specs ih =>
    intro m m' hm h
    rw [List.foldlM_cons] at h
    obtain ⟨m₁, h₁, h⟩ := exists_of_bind_eq_ok h
    obtain ⟨v, hv, rfl⟩ := hf m spec m₁ List.mem_cons_self h₁
    refine ih (fun m spec m' hspec => hf m spec m' (List.mem_cons_of_mem _ hspec)) ?_ h
    intro e he
    rcases NameMap.mem_entries_insert he with he | rfl
    · exact hm e he
    · exact hv

/-- An event made from a record that holds every field its attributes read has
no unset attribute. -/
theorem Emission.ne_unset_of_toEvent {schema : Emission} {artifact : String}
    {location : Location} {record : Record} {hints : Time.TimeHints} {e : Event}
    (hfields : ∀ spec ∈ schema.attributes, (record.get? spec.field).isSome)
    (h : schema.toEvent artifact location record hints = .ok e) :
    ∀ entry ∈ e.attributes.entries, entry.2 ≠ .unset := by
  unfold Emission.toEvent at h
  obtain ⟨attributes, hfold, hevent⟩ := exists_of_bind_eq_ok h
  cases hevent
  refine foldlM_insert_ne_unset (fun m spec m' hspec hm' => ?_)
    (fun e he => absurd he List.not_mem_nil) hfold
  obtain ⟨v, hv, hm⟩ := exists_of_bind_eq_ok hm'
  exact ⟨v, AttributeSpec.value_ne_unset (hfields spec hspec) hv, (Except.ok.inj hm).symm⟩

/-! ## Validation predicts extraction -/

/-- For a text artifact whose declaration is valid, extraction never reports a
missing component. The record of every unit it reads holds exactly the names
that validation counts as available: each time as a time, and every other name
as the fields gave it. Every attribute reads a field that is there, so no event
of the artifact has an unset attribute. -/
theorem extract_matches_validation (a : TextArtifact) (hv : a.validate = .ok ()) (unit : String)
    (year : Option Int) :
    ∃ available, availableAfterTimes a.name a.grammar.captured a.grammar.times = .ok available ∧
      (∀ time component,
        a.grammar.extract unit year ≠ .error (.missingComponent time component)) ∧
      ∀ record, a.grammar.extract unit year = .ok record →
        (∀ k, k ∈ record.keys ↔ k ∈ available) ∧
        (∃ fields, a.grammar.apply unit = .ok fields ∧
          ∀ k ∈ record.keys, k ∉ a.grammar.times.map (·.name) →
            record.get? k = fields.get? k) ∧
        (∀ t ∈ a.grammar.times, ∃ raw, record.get? t.name = some (.time raw)) ∧
        (∀ spec ∈ a.emission.attributes, spec.field ∈ record.keys) ∧
        ∀ location e, a.emission.toEvent a.name location record a.hints = .ok e →
          ∀ entry ∈ e.attributes.entries, entry.2 ≠ .unset := by
  obtain ⟨available, havail, hattrs⟩ := validate_eq_ok hv
  refine ⟨available, havail, fun time component hx => ?_, fun record hrec => ?_⟩
  · -- the fields fail with a mismatch, or the times run on the record of the fields
    cases happ : a.grammar.apply unit with
    | error e =>
      rw [extract_of_apply_error happ] at hx
      cases hx
    | ok fields =>
      rw [extract_of_apply_ok happ] at hx
      exact (foldlM_assembleInto (Fits.init happ) havail).1 time component hx
  · obtain ⟨fields, happ, htimes⟩ := extract_eq_ok hrec
    have hfit := (foldlM_assembleInto (Fits.init happ) havail).2 record htimes
    have hkeys : ∀ k, k ∈ record.keys ↔ k ∈ available := fun k => by
      rw [NameMap.mem_keys, hfit.isSome_iff]
    have hread : ∀ spec ∈ a.emission.attributes, spec.field ∈ record.keys :=
      fun spec hspec => (hkeys _).mpr (hattrs spec hspec)
    refine ⟨hkeys, ⟨fields, happ, fun k hk hnt => ?_⟩, fun t ht => hfit.time t (by simpa using ht),
      hread, fun location e he => ?_⟩
    · -- a name that is not a time's is there as the fields gave it
      rcases hfit.field k (by simpa using hnt) with hnone | hsame
      · rw [NameMap.mem_keys, hnone] at hk
        cases hk
      · exact hsame
    · exact Emission.ne_unset_of_toEvent
        (fun spec hspec => (NameMap.mem_keys _ _).mp (hread spec hspec)) he

theorem zsh_history_extraction_matches_validation :
    Builtin.zshExtendedHistory.validate = .ok () ∧
    ∃ available, availableAfterTimes Builtin.zshExtendedHistory.name
        Builtin.zshExtendedHistory.grammar.captured Builtin.zshExtendedHistory.grammar.times =
        .ok available ∧
      (∀ time component, Builtin.zshExtendedHistory.grammar.extract ": 1700000000:5;ls" none ≠
        .error (.missingComponent time component)) ∧
      ∀ record,
        Builtin.zshExtendedHistory.grammar.extract ": 1700000000:5;ls" none = .ok record →
        (∀ k, k ∈ record.keys ↔ k ∈ available) ∧
        (∃ fields, Builtin.zshExtendedHistory.grammar.apply ": 1700000000:5;ls" = .ok fields ∧
          ∀ k ∈ record.keys, k ∉ Builtin.zshExtendedHistory.grammar.times.map (·.name) →
            record.get? k = fields.get? k) ∧
        (∀ t ∈ Builtin.zshExtendedHistory.grammar.times, ∃ raw,
          record.get? t.name = some (.time raw)) ∧
        (∀ spec ∈ Builtin.zshExtendedHistory.emission.attributes, spec.field ∈ record.keys) ∧
        ∀ location e, Builtin.zshExtendedHistory.emission.toEvent Builtin.zshExtendedHistory.name
            location record Builtin.zshExtendedHistory.hints = .ok e →
          ∀ entry ∈ e.attributes.entries, entry.2 ≠ .unset :=
  ⟨rfl, extract_matches_validation _ rfl _ _⟩

end Timeline
