import Mathlib
import Timeline.Pattern.Match
/-!
# What the pattern engine matches

`Pattern.run` looks for the ways a pattern matches by backtracking, and hands
each one to its continuation until one is accepted. `Pattern.Spans input p i j`
says, without the search, that `p` can match the characters of `input` from
position `i` to position `j`.

* Soundness. Every match the engine hands on spans its pattern (`run_sound`):
  so the end of a match found from a position spans the pattern from there
  (`matchFrom_sound`), and a pattern that matches a text spans part of it
  (`isMatch_sound`).
* Reading spans back. A span of a sequence, an alternative, a character or
  the start of the text gives its parts (`spans_seq_iff`, `spans_alt_iff`,
  `spans_char_iff`, `spans_start_iff`), a span of a repeated class gives a
  piece of the text that the class accepts, no longer than the bound
  (`Spans.rep_cls`, `Spans.rep_cls_le`, `exists_segment`), and a fixed text
  spans only where it stands (`prefix_of_spans_seq_text`); a pattern that
  spans nothing hands nothing on (`run_eq_none_of_not_spans`).
* Runs of characters. A class repeated over the characters that it accepts
  hands the end of the run on when it takes exactly as many as it may
  (`repeatSteps_cls`, and `run_rep_cls_of_drop` at a piece of a text); with
  this and the equations of the other constructors (`run_char`, `run_cls`,
  `run_start`, `run_alt_of_eq_some`, `run_alt_of_eq_none`, `run_seqs_cons`)
  a match of a pattern on a given text is computed, and a match from the
  start of a text is the first one found in it (`search_of_matchFrom_zero`,
  `isMatch_of_matchFrom_zero`).
-/

namespace Timeline.Pattern

/-- `Spans input p i j`: the pattern `p` can match the characters of `input`
from position `i` to position `j`. A repetition may stop once it needs no more
matches, or match its pattern once and go on with one match fewer needed and
allowed. -/
inductive Spans (input : Array Char) : Pattern → Nat → Nat → Prop
  | empty (i : Nat) : Spans input .empty i i
  | char {c : Char} {i : Nat} (h : input[i]? = some c) : Spans input (.char c) i (i + 1)
  | cls {cl : CharClass} {c : Char} {i : Nat} (h : input[i]? = some c) (hc : cl.accepts c = true) :
      Spans input (.cls cl) i (i + 1)
  | start : Spans input .start 0 0
  | finish : Spans input .finish input.size input.size
  | seq {p q : Pattern} {i j k : Nat} (hp : Spans input p i j) (hq : Spans input q j k) :
      Spans input (.seq p q) i k
  | altLeft {p q : Pattern} {i j : Nat} (hp : Spans input p i j) : Spans input (.alt p q) i j
  | altRight {p q : Pattern} {i j : Nat} (hq : Spans input q i j) : Spans input (.alt p q) i j
  | repStop {p : Pattern} {hi : Option Nat} (i : Nat) : Spans input (.rep p 0 hi) i i
  | repStep {p : Pattern} {lo : Nat} {hi : Option Nat} {i j k : Nat} (hhi : hi ≠ some 0)
      (hp : Spans input p i j) (hrest : Spans input (.rep p (lo - 1) (hi.map (· - 1))) j k) :
      Spans input (.rep p lo hi) i k
  | group {name : String} {p : Pattern} {i j : Nat} (hp : Spans input p i j) :
      Spans input (.group name p) i j

variable {input : Array Char}

/-! ## Soundness -/

/-- A repetition of sound steps is sound: whatever it hands on spans the
repetition. The induction is on the fuel, one step at a time. -/
theorem repeatSteps_sound {p : Pattern} {step : Nat → Groups → Continuation → Option MatchEnd}
    (hstep : ∀ pos groups k m, step pos groups k = some m →
      ∃ j gs, Spans input p pos j ∧ k j gs = some m) :
    ∀ fuel lo hi pos groups k m, repeatSteps step fuel lo hi pos groups k = some m →
      ∃ j gs, Spans input (.rep p lo hi) pos j ∧ k j gs = some m := by
  intro fuel
  induction fuel with
  | zero => intro lo hi pos groups k m h; simp [repeatSteps] at h
  | succ fuel ih =>
    intro lo hi pos groups k m h
    simp only [repeatSteps] at h
    split at h
    · -- one more match of the pattern, then the rest of the repetition
      rename_i m' hmore
      cases h
      split at hmore
      · cases hmore
      · rename_i hhi
        obtain ⟨j, gs, hp, hk⟩ := hstep _ _ _ _ hmore
        split at hk
        · cases hk
        · obtain ⟨j', gs', hrest, hk'⟩ := ih _ _ _ _ _ _ hk
          exact ⟨j', gs', .repStep (by simpa using hhi) hp hrest, hk'⟩
    · -- the repetition stops here
      split at h
      · rename_i hlo
        have hlo : lo = 0 := by simpa using hlo
        subst hlo
        exact ⟨pos, groups, .repStop pos, h⟩
      · cases h

/-- Every match the engine hands on spans its pattern. -/
theorem run_sound (p : Pattern) :
    ∀ pos groups k m, p.run input pos groups k = some m →
      ∃ j gs, Spans input p pos j ∧ k j gs = some m := by
  induction p with
  | empty => intro pos groups k m h; exact ⟨pos, groups, .empty pos, h⟩
  | char c =>
    intro pos groups k m h
    simp only [run] at h
    split at h
    · rename_i hc
      exact ⟨pos + 1, groups, .char (by simpa using hc), h⟩
    · cases h
  | cls cl =>
    intro pos groups k m h
    simp only [run] at h
    split at h
    · rename_i c hc
      split at h
      · rename_i hacc
        exact ⟨pos + 1, groups, .cls hc hacc, h⟩
      · cases h
    · cases h
  | start =>
    intro pos groups k m h
    simp only [run] at h
    split at h
    · rename_i hpos
      have hpos : pos = 0 := by simpa using hpos
      subst hpos
      exact ⟨0, groups, .start, h⟩
    · cases h
  | finish =>
    intro pos groups k m h
    simp only [run] at h
    split at h
    · rename_i hpos
      have hpos : pos = input.size := by simpa using hpos
      subst hpos
      exact ⟨input.size, groups, .finish, h⟩
    · cases h
  | seq p q ihp ihq =>
    intro pos groups k m h
    obtain ⟨j, gs, hp, hq⟩ := ihp _ _ _ _ h
    obtain ⟨j', gs', hq, hk⟩ := ihq _ _ _ _ hq
    exact ⟨j', gs', .seq hp hq, hk⟩
  | alt p q ihp ihq =>
    intro pos groups k m h
    simp only [run] at h
    split at h
    · rename_i m' hp
      cases h
      obtain ⟨j, gs, hp, hk⟩ := ihp _ _ _ _ hp
      exact ⟨j, gs, .altLeft hp, hk⟩
    · obtain ⟨j, gs, hq, hk⟩ := ihq _ _ _ _ h
      exact ⟨j, gs, .altRight hq, hk⟩
  | rep p lo hi ih => exact repeatSteps_sound ih _ lo hi
  | group name p ih =>
    intro pos groups k m h
    obtain ⟨j, gs, hp, hk⟩ := ih _ _ _ _ h
    exact ⟨j, _, .group hp, hk⟩

/-- A match found from a position spans the pattern from there to its end. -/
theorem matchFrom_sound {p : Pattern} {pos : Nat} {m : MatchEnd} (h : p.matchFrom input pos = some m) :
    Spans input p pos m.1 := by
  obtain ⟨j, gs, hp, hk⟩ := run_sound p pos [] _ m h
  cases hk
  exact hp

/-- A pattern that matches a text spans some of its characters. -/
theorem isMatch_sound {p : Pattern} {s : String} (h : p.isMatch s = true) :
    ∃ i j, Spans s.toList.toArray p i j := by
  obtain ⟨r, hr⟩ := Option.isSome_iff_exists.mp h
  obtain ⟨start, _, hfound⟩ := List.exists_of_findSome?_eq_some hr
  obtain ⟨m, hm, -⟩ := Option.map_eq_some_iff.mp hfound
  exact ⟨start, m.1, matchFrom_sound hm⟩

/-! ## Reading spans back -/

theorem spans_seq_iff {p q : Pattern} {i k : Nat} :
    Spans input (.seq p q) i k ↔ ∃ j, Spans input p i j ∧ Spans input q j k := by
  constructor
  · intro h
    cases h with
    | seq hp hq => exact ⟨_, hp, hq⟩
  · rintro ⟨j, hp, hq⟩
    exact .seq hp hq

theorem spans_char_iff {c : Char} {i j : Nat} :
    Spans input (.char c) i j ↔ input[i]? = some c ∧ j = i + 1 := by
  constructor
  · intro h
    cases h with
    | char h => exact ⟨h, rfl⟩
  · rintro ⟨h, rfl⟩
    exact .char h

theorem spans_alt_iff {p q : Pattern} {i j : Nat} :
    Spans input (.alt p q) i j ↔ Spans input p i j ∨ Spans input q i j := by
  constructor
  · intro h
    cases h with
    | altLeft hp => exact .inl hp
    | altRight hq => exact .inr hq
  · rintro (hp | hq)
    · exact .altLeft hp
    · exact .altRight hq

theorem spans_cls_iff {cl : CharClass} {i j : Nat} :
    Spans input (.cls cl) i j ↔ (∃ c, input[i]? = some c ∧ cl.accepts c = true) ∧ j = i + 1 := by
  constructor
  · intro h
    cases h with
    | cls h hc => exact ⟨⟨_, h, hc⟩, rfl⟩
  · rintro ⟨⟨c, h, hc⟩, rfl⟩
    exact .cls h hc

theorem spans_start_iff {i j : Nat} : Spans input .start i j ↔ i = 0 ∧ j = 0 := by
  constructor
  · intro h
    cases h
    exact ⟨rfl, rfl⟩
  · rintro ⟨rfl, rfl⟩
    exact .start

/-- A class repeated from `i` to `j` spans at least as many characters as it
needs, each accepted by the class. -/
theorem Spans.rep_cls {q : Pattern} {i j : Nat} (h : Spans input q i j) :
    ∀ {cl : CharClass} {lo : Nat} {hi : Option Nat}, q = .rep (.cls cl) lo hi →
      i + lo ≤ j ∧ ∀ k, i ≤ k → k < j → ∃ c, input[k]? = some c ∧ cl.accepts c = true := by
  induction h with
  | repStop i =>
    intro cl lo hi hq
    cases hq
    exact ⟨by omega, fun k h1 h2 => absurd h2 (by omega)⟩
  | repStep hhi hp hrest _ ih =>
    intro cl lo hi hq
    cases hq
    cases hp with
    | cls hc hacc =>
      obtain ⟨hlen, hall⟩ := ih rfl
      refine ⟨by omega, fun k h1 h2 => ?_⟩
      rcases Nat.eq_or_lt_of_le h1 with rfl | h1
      · exact ⟨_, hc, hacc⟩
      · exact hall k (by omega) h2
  | _ => intro cl lo hi hq; cases hq

/-- A class repeated at most `n` times spans at most `n` characters. The
induction is on the span, the bound going down by one with each match. -/
theorem Spans.rep_cls_le {q : Pattern} {i j : Nat} (h : Spans input q i j) :
    ∀ {cl : CharClass} {lo n : Nat}, q = .rep (.cls cl) lo (some n) → j ≤ i + n := by
  induction h with
  | repStop i => intro cl lo n hq; omega
  | repStep hhi hp hrest _ ih =>
    intro cl lo n hq
    cases hq
    cases hp
    have hn : n ≠ 0 := fun h => hhi (by rw [h])
    have := ih (n := n - 1) rfl
    omega
  | _ => intro cl lo n hq; cases hq

/-- Characters at the positions from `i` to `j` that all have a property are a
piece of the text between its parts before `i` and from `j`. -/
theorem exists_segment {cs : List Char} {P : Char → Prop} {i j : Nat} (hij : i ≤ j)
    (h : ∀ k, i ≤ k → k < j → ∃ c, cs[k]? = some c ∧ P c) :
    ∃ seg, cs.drop i = seg ++ cs.drop j ∧ seg.length = j - i ∧ ∀ c ∈ seg, P c := by
  have hlen : j = i ∨ j ≤ cs.length := by
    rcases Nat.eq_or_lt_of_le hij with rfl | hlt
    · exact .inl rfl
    · obtain ⟨c, hc, -⟩ := h (j - 1) (by omega) (by omega)
      have := (List.getElem?_eq_some_iff.mp hc).1
      omega
  refine ⟨(cs.drop i).take (j - i), ?_, ?_, ?_⟩
  · conv => lhs; rw [← List.take_append_drop (j - i) (cs.drop i)]
    rw [List.drop_drop, Nat.add_sub_cancel' hij]
  · simp only [List.length_take, List.length_drop]
    omega
  · intro c hc
    obtain ⟨k, hk⟩ := List.mem_iff_getElem?.mp hc
    have hk' : k < j - i := by
      by_contra hge
      simp [hge] at hk
    rw [List.getElem?_take, if_pos hk', List.getElem?_drop] at hk
    obtain ⟨c', hc', hP⟩ := h (i + k) (by omega) (by omega)
    rw [hc'] at hk
    cases hk
    exact hP

/-- A class repeated exactly `n` times spans a piece of `n` characters that it accepts. -/
theorem Spans.exists_times_cls {cs : List Char} {cl : CharClass} {n i j : Nat}
    (h : Spans cs.toArray (.rep (.cls cl) n (some n)) i j) :
    ∃ seg, cs.drop i = seg ++ cs.drop j ∧ seg.length = n ∧ ∀ c ∈ seg, cl.accepts c = true := by
  obtain ⟨hlo, hall⟩ := h.rep_cls rfl
  have hhi := h.rep_cls_le rfl
  obtain ⟨seg, hseg, hlen, hacc⟩ := @exists_segment cs (fun c => cl.accepts c = true) i j (by omega)
    fun k hk1 hk2 => by simpa only [List.getElem?_toArray] using hall k hk1 hk2
  exact ⟨seg, hseg, by omega, hacc⟩

/-! ## Matching given characters -/

theorem run_char {c : Char} {pos : Nat} (h : input[pos]? = some c) (groups : Groups)
    (k : Continuation) : (Pattern.char c).run input pos groups k = k (pos + 1) groups := by
  simp [run, h]

theorem run_cls {cl : CharClass} {c : Char} {pos : Nat} (h : input[pos]? = some c)
    (hc : cl.accepts c = true) (groups : Groups) (k : Continuation) :
    (Pattern.cls cl).run input pos groups k = k (pos + 1) groups := by
  simp [run, h, hc]

theorem run_start (groups : Groups) (k : Continuation) :
    Pattern.start.run input 0 groups k = k 0 groups := by
  simp [run]

theorem run_alt_of_eq_some {p q : Pattern} {pos : Nat} {groups : Groups} {k : Continuation} {m : MatchEnd}
    (h : p.run input pos groups k = some m) : (p.alt q).run input pos groups k = some m := by
  rw [run, h]

theorem run_alt_of_eq_none {p q : Pattern} {pos : Nat} {groups : Groups} {k : Continuation}
    (h : p.run input pos groups k = none) : (p.alt q).run input pos groups k = q.run input pos groups k := by
  rw [run, h]

theorem run_seqs_cons (p : Pattern) {ps : List Pattern} (hps : ps ≠ []) (pos : Nat) (groups : Groups)
    (k : Continuation) :
    (seqs (p :: ps)).run input pos groups k =
      p.run input pos groups fun pos' groups' => (seqs ps).run input pos' groups' k := by
  obtain ⟨q, qs, rfl⟩ := List.exists_cons_of_ne_nil hps
  rfl

/-- A class repeated from `pos` over `n` characters that it accepts hands on
the end of the run when it may take no more: when `n` is its bound, or when
it has no bound and the character after the run is not accepted. The
induction is on `n`, with the needed and the allowed counts going down. -/
theorem repeatSteps_cls {cl : CharClass} {m : MatchEnd} :
    ∀ (n fuel lo : Nat) (hi : Option Nat) (pos : Nat) (groups : Groups) (k : Continuation),
      n < fuel → lo ≤ n →
      (∀ i < n, ∃ c, input[pos + i]? = some c ∧ cl.accepts c = true) →
      (hi = some n ∨ (hi = none ∧ ∀ c, input[pos + n]? = some c → cl.accepts c = false)) →
      k (pos + n) groups = some m →
      repeatSteps (fun pos groups k => (Pattern.cls cl).run input pos groups k) fuel lo hi pos groups k =
        some m := by
  intro n
  induction n with
  | zero =>
    intro fuel lo hi pos groups k hfuel hlo hrun hstop hk
    obtain ⟨fuel, rfl⟩ : ∃ f, fuel = f + 1 := ⟨fuel - 1, by omega⟩
    have hlo : lo = 0 := by omega
    subst hlo
    -- no step is taken: the bound is reached or the next character is refused
    have hmore : (if hi == some 0 then none else (Pattern.cls cl).run input pos groups
        fun pos' groups' => if (pos' == pos && (0 == 0)) = true then none
          else repeatSteps (fun pos groups k => (Pattern.cls cl).run input pos groups k) fuel (0 - 1)
            (hi.map (· - 1)) pos' groups' k) = none := by
      rcases hstop with rfl | ⟨rfl, hrefuse⟩
      · rfl
      · simp only [reduceCtorEq, beq_iff_eq, if_false, run]
        cases hc : input[pos]? with
        | none => rfl
        | some c => simp [hrefuse c (by simpa using hc)]
    simp only [repeatSteps]
    rw [hmore]
    simpa using hk
  | succ n ih =>
    intro fuel lo hi pos groups k hfuel hlo hrun hstop hk
    obtain ⟨fuel, rfl⟩ : ∃ f, fuel = f + 1 := ⟨fuel - 1, by omega⟩
    obtain ⟨c, hc, hacc⟩ := hrun 0 (by omega)
    have hhi : (hi == some 0) = false := by
      rcases hstop with rfl | ⟨rfl, -⟩ <;> simp
    -- the rest of the run, from the next position, with one match fewer
    have hrest : repeatSteps (fun pos groups k => (Pattern.cls cl).run input pos groups k) fuel (lo - 1)
        (hi.map (· - 1)) (pos + 1) groups k = some m := by
      refine ih fuel (lo - 1) _ (pos + 1) groups k (by omega) (by omega) (fun i hi => ?_) ?_ ?_
      · simpa [Nat.add_assoc, Nat.add_comm 1] using hrun (i + 1) (by omega)
      · rcases hstop with rfl | ⟨rfl, hrefuse⟩
        · left; rfl
        · right; exact ⟨rfl, fun c hc => hrefuse c (by simpa [Nat.add_assoc, Nat.add_comm 1] using hc)⟩
      · simpa [Nat.add_assoc, Nat.add_comm 1] using hk
    simp only [repeatSteps, hhi, Bool.false_eq_true, if_false]
    rw [run_cls (by simpa using hc) hacc]
    simp [hrest]

/-! ## Matching pieces of a text -/

/-- What is left of a text after a piece of it. -/
theorem drop_add_length {cs seg post : List Char} {pos : Nat} (h : cs.drop pos = seg ++ post) :
    cs.drop (pos + seg.length) = post := by
  rw [← List.drop_drop, h, List.drop_left]

theorem drop_succ_of_cons {cs post : List Char} {c : Char} {pos : Nat} (h : cs.drop pos = c :: post) :
    cs.drop (pos + 1) = post := by
  simpa using @drop_add_length _ [c] _ _ (by simpa using h)

theorem run_char_of_drop {cs post : List Char} {c : Char} {pos : Nat} (h : cs.drop pos = c :: post)
    (groups : Groups) (k : Continuation) :
    (Pattern.char c).run cs.toArray pos groups k = k (pos + 1) groups :=
  run_char (by rw [List.getElem?_toArray, ← List.head?_drop, h]; rfl) groups k

theorem run_cls_of_drop {cl : CharClass} {cs post : List Char} {c : Char} {pos : Nat}
    (h : cs.drop pos = c :: post) (hc : cl.accepts c = true) (groups : Groups) (k : Continuation) :
    (Pattern.cls cl).run cs.toArray pos groups k = k (pos + 1) groups :=
  run_cls (by rw [List.getElem?_toArray, ← List.head?_drop, h]; rfl) hc groups k

/-- A class repeated over a piece of a text that it accepts hands on the end of
the piece, when it takes exactly as many as it may. -/
theorem run_rep_cls_of_drop {cl : CharClass} {cs seg post : List Char} {pos lo : Nat} {hi : Option Nat}
    {groups : Groups} {k : Continuation} {m : MatchEnd} (hdrop : cs.drop pos = seg ++ post)
    (hseg : ∀ c ∈ seg, cl.accepts c = true) (hlo : lo ≤ seg.length)
    (hstop : hi = some seg.length ∨ (hi = none ∧ ∀ c ∈ post.head?, cl.accepts c = false))
    (hk : k (pos + seg.length) groups = some m) :
    (Pattern.rep (.cls cl) lo hi).run cs.toArray pos groups k = some m := by
  have hget : ∀ i, cs.toArray[pos + i]? = (seg ++ post)[i]? := fun i => by
    rw [List.getElem?_toArray, ← hdrop, List.getElem?_drop]
  have hlen : seg.length ≤ cs.length := by
    have := congrArg List.length hdrop
    simp only [List.length_drop, List.length_append] at this
    omega
  refine repeatSteps_cls seg.length _ lo hi _ groups k (by simp; omega) hlo (fun i hi => ?_) ?_ hk
  · refine ⟨seg[i], ?_, hseg _ (List.getElem_mem _)⟩
    rw [hget, List.getElem?_append_left hi, List.getElem?_eq_getElem hi]
  · rcases hstop with rfl | ⟨rfl, hrefuse⟩
    · exact .inl rfl
    · refine .inr ⟨rfl, fun c hc => hrefuse c ?_⟩
      rw [hget, List.getElem?_append_right (Nat.le_refl _), Nat.sub_self, ← List.head?_eq_getElem?] at hc
      exact hc

/-- A pattern that matches from the start of a text is found there first. -/
theorem search_of_matchFrom_zero {p : Pattern} {s : String} {m : MatchEnd}
    (h : p.matchFrom s.toList.toArray 0 = some m) : p.search s = some (0, m) := by
  simp only [search, List.range_succ_eq_map, List.findSome?_cons, h, Option.map_some]

/-- A pattern that matches from the start of a text matches it. -/
theorem isMatch_of_matchFrom_zero {p : Pattern} {s : String} {m : MatchEnd}
    (h : p.matchFrom s.toList.toArray 0 = some m) : p.isMatch s = true := by
  simp only [isMatch, search_of_matchFrom_zero h, Option.isSome_some]

/-- A pattern that spans nothing from a position hands nothing on from there. -/
theorem run_eq_none_of_not_spans {p : Pattern} {pos : Nat} (h : ∀ j, ¬Spans input p pos j)
    (groups : Groups) (k : Continuation) : p.run input pos groups k = none := by
  cases hrun : p.run input pos groups k with
  | none => rfl
  | some m =>
    obtain ⟨j, -, hp, -⟩ := run_sound p pos groups k m hrun
    exact absurd hp (h j)

/-! ## Fixed texts -/

/-- A fixed text spans exactly its own characters. The induction is on the
text, a single character being a pattern of its own. -/
theorem spans_chars {ws : List Char} {i j : Nat} (h : Spans input (seqs (ws.map .char)) i j) :
    input.toList.drop i = ws ++ input.toList.drop j := by
  induction ws generalizing i with
  | nil =>
    cases h
    rfl
  | cons w ws ih =>
    -- the first character, then the rest of the text
    have hfirst : ∀ {k}, Spans input (.char w) i k → input.toList.drop i = w :: input.toList.drop k := by
      intro k hk
      obtain ⟨hw, rfl⟩ := spans_char_iff.mp hk
      rw [← Array.getElem?_toList] at hw
      obtain ⟨hlt, hget⟩ := List.getElem?_eq_some_iff.mp hw
      rw [List.drop_eq_getElem_cons hlt, hget]
    cases ws with
    | nil => exact hfirst h
    | cons w' ws' =>
      obtain ⟨k, hk, hrest⟩ := spans_seq_iff.mp h
      rw [hfirst hk, ih hrest]
      rfl

/-- A fixed text runs over its own characters and hands on the position after them. -/
theorem run_chars_of_drop {cs post ws : List Char} {pos : Nat} (h : cs.drop pos = ws ++ post)
    (groups : Groups) (k : Continuation) :
    (seqs (ws.map .char)).run cs.toArray pos groups k = k (pos + ws.length) groups := by
  induction ws generalizing pos with
  | nil => rfl
  | cons w ws ih =>
    have hw : cs.drop pos = w :: (ws ++ post) := h
    cases ws with
    | nil => exact run_char_of_drop hw groups k
    | cons w' ws' =>
      rw [List.map_cons, run_seqs_cons _ (by simp), run_char_of_drop hw,
        ih (drop_succ_of_cons hw)]
      simp [Nat.add_assoc, Nat.add_comm 1]

/-- A fixed text and what follows it span only where the text stands. -/
theorem prefix_of_spans_seq_text {t : String} {q : Pattern} {i j : Nat}
    (h : Spans input (.seq (text t) q) i j) : t.toList <+: input.toList.drop i := by
  obtain ⟨k, ht, -⟩ := spans_seq_iff.mp h
  exact ⟨_, (spans_chars ht).symm⟩

/-- A pattern that is the start of the text and then a fixed text matches
exactly the texts that open with it. -/
theorem isMatch_start_text_iff (t s : String) :
    (seqs [.start, text t]).isMatch s = true ↔ t.toList <+: s.toList := by
  constructor
  · intro h
    obtain ⟨i, j, hspan⟩ := isMatch_sound h
    obtain ⟨p0, h0, ht⟩ := spans_seq_iff.mp hspan
    obtain ⟨rfl, rfl⟩ := spans_start_iff.mp h0
    have hdrop := spans_chars ht
    simp only [List.drop_zero] at hdrop
    exact ⟨_, hdrop.symm⟩
  · rintro ⟨post, hpost⟩
    apply @isMatch_of_matchFrom_zero _ _ (t.toList.length, [])
    have hdrop : s.toList.drop 0 = t.toList ++ post := by simpa using hpost.symm
    show (Pattern.start.seq (text t)).run _ 0 [] _ = _
    rw [run, run_start, text, run_chars_of_drop hdrop]
    simp

end Timeline.Pattern
