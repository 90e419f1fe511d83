import Mathlib
import Timeline.Text.Markup
/-!
# Decoding character entities in one pass

`decodeEntities` decodes the entities of a markup text by six replacements in a row, `&amp;`
last. This module shows that the chain is the decoder that reads the text once, from left to
right, and writes each entity's character in its place (`decodeOnce`): a character that one
replacement writes is never read by a later one, so `&amp;lt;` gives `&lt;` and not `<`. The
chain therefore undoes the escaping of markup.

An `Entity` is a name between `&` and `;` with neither of the two in the name, so the text of an
entity holds its only `&` first and its only `;` last. Occurrences of two entities can then not
overlap, and at most one entity starts at any place (`Entity.text_eq_of_prefixes`). Two facts
about tables of entities carry the proofs:

* `replaceAll_decodeOnce`: one more replacement after a one-pass decode is the one-pass decode
  with one more entity, when the characters decoded so far do not occur in the new entity's
  text; by induction over the table, `decodeChain_eq_decodeOnce`;
* `encodeChain_eq_flatMap`: a chain of escaping replacements writes each character on its own,
  when no text written holds a character that is escaped later.

Main statement: `decodeEntities_single_pass`.
-/

namespace Timeline.Text

/-! ## Replacing every occurrence -/

section ReplaceAll

variable {p r : List Char}

@[simp] theorem replaceAll_nil : replaceAll p r [] = [] := by
  rw [replaceAll]

theorem replaceAll_of_prefix_of_ne_nil {cs : List Char} (hp : p ≠ []) (h : p <+: cs) :
    replaceAll p r cs = r ++ replaceAll p r (cs.drop p.length) := by
  cases cs with
  | nil => exact absurd (List.prefix_nil.1 h) hp
  | cons c rest => rw [replaceAll, dif_pos ⟨hp, List.isPrefixOf_iff_prefix.2 h⟩]

theorem replaceAll_cons_of_not_prefix_cons {c : Char} {rest : List Char} (h : ¬p <+: c :: rest) :
    replaceAll p r (c :: rest) = c :: replaceAll p r rest := by
  rw [replaceAll, dif_neg]
  rintro ⟨-, hp⟩
  exact h (List.isPrefixOf_iff_prefix.1 hp)

/-- A pattern of one character is replaced character by character. -/
theorem replaceAll_singleton (a : Char) (cs : List Char) :
    replaceAll [a] r cs = cs.flatMap fun c => if c = a then r else [c] := by
  induction cs with
  | nil => simp
  | cons c rest ih =>
    by_cases hc : c = a
    · rw [replaceAll_of_prefix_of_ne_nil (List.cons_ne_nil a []) (by simp [hc])]
      simp [hc, ih]
    · rw [replaceAll_cons_of_not_prefix_cons (by simp [Ne.symm hc])]
      simp [hc, ih]

theorem replaceAll_singleton_flatMap (a : Char) (g : Char → List Char) (cs : List Char) :
    replaceAll [a] r (cs.flatMap g) = cs.flatMap fun c => replaceAll [a] r (g c) := by
  simp only [replaceAll_singleton, List.flatMap_assoc]

theorem replaceAll_singleton_of_not_mem {a : Char} {cs : List Char} (h : a ∉ cs) :
    replaceAll [a] r cs = cs := by
  induction cs with
  | nil => simp
  | cons c rest ih =>
    rw [List.mem_cons, not_or] at h
    rw [replaceAll_cons_of_not_prefix_cons (by simpa using h.1), ih h.2]

end ReplaceAll

/-! ## Entities -/

/-- A character entity: `&`, a name and `;`, standing for one character. The name holds no `&`
and no `;`. -/
structure Entity where
  name : List Char
  char : Char
  amp_not_mem : '&' ∉ name
  semi_not_mem : ';' ∉ name

/-- A list closed by a mark that starts another list closed by the same mark is that list, when
the mark does not occur in the other list before its end. -/
theorem eq_of_prefix_append_singleton {α : Type} {l₁ l₂ : List α} {a : α} (ha : a ∉ l₂)
    (h : l₁ ++ [a] <+: l₂ ++ [a]) : l₁ = l₂ := by
  induction l₁ generalizing l₂ with
  | nil =>
    cases l₂ with
    | nil => rfl
    | cons b l₂ =>
      obtain ⟨rfl, -⟩ := List.cons_prefix_cons.1 h
      exact absurd List.mem_cons_self ha
  | cons x l₁ ih =>
    cases l₂ with
    | nil => simpa using (List.cons_prefix_cons.1 h).2
    | cons y l₂ =>
      obtain ⟨rfl, hrest⟩ := List.cons_prefix_cons.1 h
      rw [ih (fun h' => ha (List.mem_cons_of_mem x h')) hrest]

namespace Entity

/-- The text `&name;` of an entity. -/
def text (e : Entity) : List Char := '&' :: (e.name ++ [';'])

@[simp] theorem length_text (e : Entity) : e.text.length = e.name.length + 2 := by
  simp [text]

theorem text_ne_nil (e : Entity) : e.text ≠ [] := List.cons_ne_nil _ _

theorem amp_mem_text (e : Entity) : '&' ∈ e.text := List.mem_cons_self

theorem text_prefix_cons {e : Entity} {c : Char} {cs : List Char} :
    e.text <+: c :: cs ↔ c = '&' ∧ e.name ++ [';'] <+: cs := by
  rw [text, List.cons_prefix_cons, eq_comm]

/-- An entity whose text starts another's has that entity's name, as no name holds a `;`. -/
theorem name_eq_of_prefix_text {e f : Entity} (h : e.text <+: f.text) : e.name = f.name :=
  eq_of_prefix_append_singleton f.semi_not_mem (List.cons_prefix_cons.1 h).2

/-- At most one entity text starts a text. -/
theorem text_eq_of_prefixes {e f : Entity} {cs : List Char} (he : e.text <+: cs)
    (hf : f.text <+: cs) : e.text = f.text := by
  rcases List.prefix_or_prefix_of_prefix he hf with h | h
  · rw [text, text, name_eq_of_prefix_text h]
  · rw [text, text, name_eq_of_prefix_text h]

end Entity

/-! ## Decoding in one pass -/

/-- The first entity of a table whose text starts a text. -/
def entityAt (es : List Entity) (cs : List Char) : Option Entity :=
  es.find? fun e => e.text.isPrefixOf cs

/-- Decodes the entities of a table in one pass from left to right: where an entity's text
starts, its character is written and reading goes on after the text, so nothing written is read
again. -/
def decodeOnce (es : List Entity) : List Char → List Char
  | [] => []
  | c :: rest =>
    match entityAt es (c :: rest) with
    | some e => e.char :: decodeOnce es ((c :: rest).drop e.text.length)
    | none => c :: decodeOnce es rest
termination_by cs => cs.length
decreasing_by
  · simp only [List.length_drop, List.length_cons, Entity.length_text]
    omega
  · simp

section Tables

variable {es T : List Entity} {e f : Entity} {c : Char} {cs : List Char}

theorem mem_of_entityAt (h : entityAt es cs = some e) : e ∈ es :=
  List.mem_of_find?_eq_some h

theorem prefix_of_entityAt (h : entityAt es cs = some e) : e.text <+: cs := by
  unfold entityAt at h
  have hp := List.find?_some h
  exact List.isPrefixOf_iff_prefix.1 hp

/-- Where the texts of a table differ, the entity read at a place is the one whose text starts
there, whatever the order of the table. -/
theorem entityAt_eq_some_iff (hn : (es.map Entity.text).Nodup) :
    entityAt es cs = some e ↔ e ∈ es ∧ e.text <+: cs := by
  refine ⟨fun h => ⟨mem_of_entityAt h, prefix_of_entityAt h⟩, fun ⟨he, hp⟩ => ?_⟩
  cases h : entityAt es cs with
  | none =>
    exact absurd (List.isPrefixOf_iff_prefix.2 hp) (List.find?_eq_none.1 h e he)
  | some f =>
    have hfe : f.text = e.text := Entity.text_eq_of_prefixes (prefix_of_entityAt h) hp
    rw [List.inj_on_of_nodup_map hn (mem_of_entityAt h) he hfe]

theorem entityAt_cons_of_ne (hc : c ≠ '&') : entityAt es (c :: cs) = none :=
  List.find?_eq_none.2 fun _ _ h =>
    hc (Entity.text_prefix_cons.1 (List.isPrefixOf_iff_prefix.1 h)).1

theorem entityAt_append (U : List Entity) :
    entityAt (T ++ U) cs = (entityAt T cs).or (entityAt U cs) :=
  List.find?_append

theorem entityAt_singleton : entityAt [e] cs = if e.text <+: cs then some e else none := by
  simp [entityAt, List.find?_singleton, List.isPrefixOf_iff_prefix]

@[simp] theorem decodeOnce_nil : decodeOnce es [] = [] := by
  rw [decodeOnce]

theorem decodeOnce_of_entityAt (h : entityAt es cs = some e) :
    decodeOnce es cs = e.char :: decodeOnce es (cs.drop e.text.length) := by
  cases cs with
  | nil => exact absurd (List.prefix_nil.1 (prefix_of_entityAt h)) e.text_ne_nil
  | cons c rest => rw [decodeOnce, h]

theorem decodeOnce_cons_of_entityAt_none (h : entityAt es (c :: cs) = none) :
    decodeOnce es (c :: cs) = c :: decodeOnce es cs := by
  rw [decodeOnce, h]

theorem decodeOnce_cons_of_ne (hc : c ≠ '&') : decodeOnce es (c :: cs) = c :: decodeOnce es cs :=
  decodeOnce_cons_of_entityAt_none (entityAt_cons_of_ne hc)

/-- Text without `&` is read as it stands. -/
theorem decodeOnce_append_of_amp_not_mem {u : List Char} (h : '&' ∉ u) (cs : List Char) :
    decodeOnce es (u ++ cs) = u ++ decodeOnce es cs := by
  induction u with
  | nil => rfl
  | cons d u ih =>
    rw [List.mem_cons, not_or] at h
    rw [List.cons_append, decodeOnce_cons_of_ne (Ne.symm h.1), ih h.2, List.cons_append]

theorem decodeOnce_text_append (he : e ∈ es) (hn : (es.map Entity.text).Nodup)
    (cs : List Char) : decodeOnce es (e.text ++ cs) = e.char :: decodeOnce es cs := by
  have h : entityAt es (e.text ++ cs) = some e :=
    (entityAt_eq_some_iff hn).2 ⟨he, List.prefix_append _ _⟩
  rw [decodeOnce_of_entityAt h, List.drop_left]

/-- A table with no entities reads every text as it stands. -/
theorem decodeOnce_no_entities (cs : List Char) : decodeOnce [] cs = cs := by
  induction cs with
  | nil => simp
  | cons c cs ih => rw [decodeOnce_cons_of_entityAt_none rfl, ih]

/-- A text that holds none of the characters a table decodes starts the decoded text only where
it starts the text itself. -/
theorem prefix_of_prefix_decodeOnce {t : List Char} (ht : ∀ f ∈ es, f.char ∉ t)
    (h : t <+: decodeOnce es cs) : t <+: cs := by
  induction cs using decodeOnce.induct es generalizing t with
  | case1 => simpa using h
  | case2 c rest e he ih =>
    rw [decodeOnce_of_entityAt he] at h
    cases t with
    | nil => exact List.nil_prefix
    | cons d t =>
      -- the decoded text starts with the character of `e`, which `t` does not hold
      obtain ⟨rfl, -⟩ := List.cons_prefix_cons.1 h
      exact absurd List.mem_cons_self (ht e (mem_of_entityAt he))
  | case3 c rest hnone ih =>
    rw [decodeOnce_cons_of_entityAt_none hnone] at h
    cases t with
    | nil => exact List.nil_prefix
    | cons d t =>
      obtain ⟨rfl, hrest⟩ := List.cons_prefix_cons.1 h
      have ht' : ∀ f ∈ es, f.char ∉ t := fun f hf hmem => ht f hf (List.mem_cons_of_mem _ hmem)
      exact List.cons_prefix_cons.2 ⟨rfl, ih ht' hrest⟩

/-- Where no entity of a table starts at an entity's text, the text is read as it stands: no
entity starts inside it, as it holds no `&` after its first character. -/
theorem decodeOnce_text_append_of_entityAt_none (h : entityAt es (e.text ++ cs) = none) :
    decodeOnce es (e.text ++ cs) = e.text ++ decodeOnce es cs := by
  simp only [Entity.text, List.cons_append] at h ⊢
  rw [decodeOnce_cons_of_entityAt_none h,
    decodeOnce_append_of_amp_not_mem (by simpa using e.amp_not_mem)]

/-- An entity that does not start a text does not start it once the rest is decoded, by a table
whose characters its text does not hold. -/
theorem not_prefix_cons_decodeOnce (hT : ∀ f ∈ es, f.char ∉ e.text) (h : ¬e.text <+: c :: cs) :
    ¬e.text <+: c :: decodeOnce es cs := by
  intro hp
  obtain ⟨hc, hp⟩ := Entity.text_prefix_cons.1 hp
  have ht : ∀ f ∈ es, f.char ∉ e.name ++ [';'] :=
    fun f hf hmem => hT f hf (List.mem_cons_of_mem _ hmem)
  exact h (Entity.text_prefix_cons.2 ⟨hc, prefix_of_prefix_decodeOnce ht hp⟩)

/-- One more replacement after a one-pass decode is the one-pass decode with one more entity,
when the characters decoded so far do not occur in the new entity's text. -/
theorem replaceAll_decodeOnce (hT : ∀ f ∈ T, f.char ∉ e.text) (cs : List Char) :
    replaceAll e.text [e.char] (decodeOnce T cs) = decodeOnce (T ++ [e]) cs := by
  induction cs using decodeOnce.induct (T ++ [e]) with
  | case1 => simp
  | case2 c rest g hg ih =>
    rw [decodeOnce_of_entityAt hg, ← ih]
    rw [entityAt_append] at hg
    cases hT' : entityAt T (c :: rest) with
    | some f =>
      -- an entity of `T` starts here; its character is no `&`, so `e` does not start at it
      rw [hT', Option.some_or, Option.some_inj] at hg
      subst hg
      have hne : f.char ≠ '&' := fun h => hT f (mem_of_entityAt hT') (h ▸ e.amp_mem_text)
      rw [decodeOnce_of_entityAt hT',
        replaceAll_cons_of_not_prefix_cons (fun h => hne (Entity.text_prefix_cons.1 h).1)]
    | none =>
      -- `e` starts here and no entity of `T` does: its text stands in the partly decoded text
      rw [hT', Option.none_or, entityAt_singleton] at hg
      split_ifs at hg with hp
      cases hg
      obtain ⟨z, hz⟩ := hp
      rw [← hz] at hT' ⊢
      rw [decodeOnce_text_append_of_entityAt_none hT',
        replaceAll_of_prefix_of_ne_nil e.text_ne_nil (List.prefix_append _ _), List.drop_left,
        List.drop_left, List.singleton_append]
  | case3 c rest hnone ih =>
    -- neither an entity of `T` nor `e` starts here, nor does `e` once the rest is decoded
    rw [decodeOnce_cons_of_entityAt_none hnone, ← ih]
    rw [entityAt_append, Option.or_eq_none_iff, entityAt_singleton] at hnone
    obtain ⟨hT', he⟩ := hnone
    have hnp : ¬e.text <+: c :: rest := by simpa using he
    rw [decodeOnce_cons_of_entityAt_none hT',
      replaceAll_cons_of_not_prefix_cons (not_prefix_cons_decodeOnce hT hnp)]

/-! ## Chains of replacements -/

/-- Decodes the entities of a table by one replacement each, in table order. -/
def decodeChain (es : List Entity) (cs : List Char) : List Char :=
  es.foldl (fun acc e => replaceAll e.text [e.char] acc) cs

/-- Writes the characters of a table's entities as their texts by one replacement each, in table
order. -/
def encodeChain (es : List Entity) (cs : List Char) : List Char :=
  es.foldl (fun acc e => replaceAll [e.char] e.text acc) cs

/-- A character written as the text of the first entity of a table that stands for it, or as
itself. -/
def encodeChar (es : List Entity) (c : Char) : List Char :=
  ((es.find? (·.char = c)).map Entity.text).getD [c]

theorem decodeChain_append_singleton :
    decodeChain (T ++ [e]) cs = replaceAll e.text [e.char] (decodeChain T cs) := by
  simp [decodeChain]

theorem encodeChain_append_singleton :
    encodeChain (T ++ [e]) cs = replaceAll [e.char] e.text (encodeChain T cs) := by
  simp [encodeChain]

/-- The chain of replacements decodes in one pass when no entity's text holds a character that
an earlier entity decodes. The induction runs over the table from its end, one replacement at a
time (`replaceAll_decodeOnce`). -/
theorem decodeChain_eq_decodeOnce (h : es.Pairwise fun f e => f.char ∉ e.text)
    (cs : List Char) : decodeChain es cs = decodeOnce es cs := by
  induction es using List.reverseRecOn with
  | nil => rw [decodeOnce_no_entities]; rfl
  | append_singleton T e ih =>
    rw [List.pairwise_append] at h
    have hT : ∀ f ∈ T, f.char ∉ e.text := fun f hf => h.2.2 f hf e (List.mem_singleton_self e)
    rw [decodeChain_append_singleton, ih h.1, replaceAll_decodeOnce hT]

/-- One more escaping replacement writes each character as the larger table does, when it finds
its character in no text written so far. -/
theorem replaceAll_encodeChar (hT : ∀ f ∈ T, e.char ∉ f.text) (c : Char) :
    replaceAll [e.char] e.text (encodeChar T c) = encodeChar (T ++ [e]) c := by
  cases h : T.find? (·.char = c) with
  | some f =>
    rw [encodeChar, encodeChar, List.find?_append, h, Option.some_or, Option.map_some,
      Option.getD_some, replaceAll_singleton_of_not_mem (hT f (List.mem_of_find?_eq_some h))]
  | none =>
    rw [encodeChar, encodeChar, List.find?_append, h, Option.none_or, List.find?_singleton,
      replaceAll_singleton]
    by_cases hc : c = e.char
    · simp [hc]
    · simp [hc, Ne.symm hc]

/-- The chain of escaping replacements writes each character on its own, when no text written
holds a character that a later entry escapes. -/
theorem encodeChain_eq_flatMap (h : es.Pairwise fun f e => e.char ∉ f.text) (cs : List Char) :
    encodeChain es cs = cs.flatMap (encodeChar es) := by
  induction es using List.reverseRecOn with
  | nil => exact (List.flatMap_singleton' cs).symm
  | append_singleton T e ih =>
    rw [List.pairwise_append] at h
    have hT : ∀ f ∈ T, e.char ∉ f.text := fun f hf => h.2.2 f hf e (List.mem_singleton_self e)
    rw [encodeChain_append_singleton, ih h.1, replaceAll_singleton_flatMap]
    simp only [replaceAll_encodeChar hT]

section RoundTrip

variable {E : List Entity}

/-- A character written by an escaping table is read back by a decoding table that knows every
entity it writes and escapes `&`. -/
theorem decodeOnce_encodeChar_append (hsub : E ⊆ es) (hn : (es.map Entity.text).Nodup)
    (hamp : ∃ a ∈ E, a.char = '&') (c : Char) (cs : List Char) :
    decodeOnce es (encodeChar E c ++ cs) = c :: decodeOnce es cs := by
  cases h : E.find? (·.char = c) with
  | some e =>
    have hc : e.char = c := by simpa using List.find?_some h
    rw [encodeChar, h, Option.map_some, Option.getD_some,
      decodeOnce_text_append (hsub (List.mem_of_find?_eq_some h)) hn, hc]
  | none =>
    -- a character with no entity in the table is no `&`
    have hc : c ≠ '&' := by
      obtain ⟨a, ha, hac⟩ := hamp
      rintro rfl
      exact List.find?_eq_none.1 h a ha (by simp [hac])
    rw [encodeChar, h, Option.map_none, Option.getD_none, List.singleton_append,
      decodeOnce_cons_of_ne hc]

theorem decodeOnce_flatMap_encodeChar (hsub : E ⊆ es) (hn : (es.map Entity.text).Nodup)
    (hamp : ∃ a ∈ E, a.char = '&') (cs : List Char) :
    decodeOnce es (cs.flatMap (encodeChar E)) = cs := by
  induction cs with
  | nil => simp
  | cons c cs ih => rw [List.flatMap_cons, decodeOnce_encodeChar_append hsub hn hamp, ih]

end RoundTrip

end Tables

/-! ## The entities of markup -/

namespace Entity

/-- `&nbsp;`, a space. -/
def nbsp : Entity := ⟨"nbsp".toList, ' ', by decide, by decide⟩

/-- `&lt;`, `<`. -/
def lt : Entity := ⟨"lt".toList, '<', by decide, by decide⟩

/-- `&gt;`, `>`. -/
def gt : Entity := ⟨"gt".toList, '>', by decide, by decide⟩

/-- `&quot;`, `"`. -/
def quot : Entity := ⟨"quot".toList, '"', by decide, by decide⟩

/-- `&#39;`, an apostrophe. -/
def apos : Entity := ⟨"#39".toList, '\'', by decide, by decide⟩

/-- `&amp;`, `&`. -/
def amp : Entity := ⟨"amp".toList, '&', by decide, by decide⟩

end Entity

/-- The entities that `decodeEntities` decodes, in its order. -/
def markupEntities : List Entity := [.nbsp, .lt, .gt, .quot, .apos, .amp]

/-- The entities that markup is escaped with, `&` first. -/
def escapedEntities : List Entity := [.amp, .lt, .gt, .quot, .apos]

/-- Escapes markup: `&` as `&amp;`, then `<`, `>`, `"` and the apostrophe as `&lt;`, `&gt;`,
`&quot;` and `&#39;`. -/
def escapeMarkup (cs : List Char) : List Char :=
  encodeChain escapedEntities cs

theorem decodeEntities_eq_decodeChain (cs : List Char) :
    decodeEntities cs = decodeChain markupEntities cs :=
  rfl

/-- The characters decoded before `&amp;` (a space, `<`, `>`, `"`, an apostrophe) occur in no
entity text, and `&` is decoded last. -/
theorem markupEntities_decoded_apart :
    markupEntities.Pairwise fun f e => f.char ∉ e.text := by
  decide

/-- No text of an escaping replacement holds a character that a later one escapes: `&` goes
first. -/
theorem escapedEntities_written_apart :
    escapedEntities.Pairwise fun f e => e.char ∉ f.text := by
  decide

theorem markupEntities_texts_nodup : (markupEntities.map Entity.text).Nodup := by
  decide

/-- The six replacements in a row of `decodeEntities` are the decoder that reads a text once from
left to right, so no character that one of them writes is decoded again; in particular they
undo the escaping of markup. -/
theorem decodeEntities_single_pass :
    (∀ s, decodeEntities (escapeMarkup s) = s) ∧
      ∀ x, decodeEntities x = decodeOnce markupEntities x := by
  have hpass : ∀ x, decodeEntities x = decodeOnce markupEntities x := fun x => by
    rw [decodeEntities_eq_decodeChain, decodeChain_eq_decodeOnce markupEntities_decoded_apart]
  refine ⟨fun s => ?_, hpass⟩
  have hsub : escapedEntities ⊆ markupEntities := by
    simp [escapedEntities, markupEntities, List.subset_def]
  rw [hpass, escapeMarkup, encodeChain_eq_flatMap escapedEntities_written_apart]
  exact decodeOnce_flatMap_encodeChar hsub markupEntities_texts_nodup
    ⟨.amp, by simp [escapedEntities], rfl⟩ s

end Timeline.Text
