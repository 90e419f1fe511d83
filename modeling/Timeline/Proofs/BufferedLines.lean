import Mathlib.Data.List.TakeWhile
import Timeline.Line.Reader
/-!
# What a buffered reader of lines hands out

`TextLines` reads lines from a reader on demand and keeps those it looks
ahead at in a buffer. `TextLines.view` is what it still holds as a
`LineSource`: the buffered lines, then the lines of the bytes not yet read.
This module shows that every request is answered as the view answers it, so
that the buffer, the line counter and the end-of-data flag are invisible.

* Reading. A reader's bytes either hold a line feed or not
  (`ByteReader.lineFeed_cases`); `readUntilLineFeed` takes the first line of
  them in both cases, and `readLine_next` shows that reading a line hands out
  the first unread line, or what follows the unread lines when none is left
  (`readLine_of_unread_cons`, `readLine_of_unread_nil`).
* The buffer. `nextLine_view` and `peekLine_view` show that handing out a
  line and looking ahead answer as the view does; looking ahead only moves
  lines from the reader to the buffer (`fill_view`).
* Requests. `serve_view` gives the answers to any sequence of requests, and
  `LineSource.getElem?_serve` computes them for a source whose data ends after
  its lines: each request is answered with the line as far ahead of the lines
  handed out before it as it looks.

The main statement, `TextLines.serve_ofBytes`, says that a reader of a text
that is read without faults answers every sequence of requests as the list of
the lines of the text does: the successive lines handed out are the lines of
the text in order, and then none; looking `k` lines ahead shows the line that
the `k + 1`-th following hand-out gives, and changes no later answer.
-/

namespace Timeline

/-! ## Cutting the bytes of one line -/

/-- Bytes without a line feed go into the piece under way. -/
theorem cutLinesFrom_append_of_no_lineFeed (acc : List UInt8) {p : List UInt8} (ys : List UInt8)
    (h : ∀ b ∈ p, b ≠ lineFeed) : cutLinesFrom acc (p ++ ys) = cutLinesFrom (p.reverse ++ acc) ys := by
  induction p generalizing acc with
  | nil => rfl
  | cons b p ih =>
    have hb : (b == lineFeed) = false := by simpa using h b List.mem_cons_self
    rw [List.cons_append, cutLinesFrom, hb, if_neg (by simp),
      ih (b :: acc) fun b' hb' => h b' (List.mem_cons_of_mem _ hb')]
    simp

/-- Bytes up to their first line feed are the first piece, a complete one. -/
theorem cutLines_append_lineFeed {p : List UInt8} (after : List UInt8) (h : ∀ b ∈ p, b ≠ lineFeed) :
    cutLines (p ++ lineFeed :: after) = (p, true) :: cutLines after := by
  rw [cutLines, cutLinesFrom_append_of_no_lineFeed [] _ h]
  simp [cutLinesFrom, cutLines]

/-- Bytes without a line feed are one incomplete piece, or none when empty. -/
theorem cutLines_of_no_lineFeed {bytes : List UInt8} (h : ∀ b ∈ bytes, b ≠ lineFeed) :
    cutLines bytes = if bytes = [] then [] else [(bytes, false)] := by
  have := cutLinesFrom_append_of_no_lineFeed [] [] h
  rw [List.append_nil] at this
  rw [cutLines, this, cutLinesFrom]
  simp

/-- The line read as bytes that end with a line feed is that of the complete piece before it. -/
theorem Line.ofRead_lineFeed (number : Nat) (p : List UInt8) :
    Line.ofRead number (p ++ [lineFeed]) = pieceLine number (p, true) := by
  simp [Line.ofRead]

/-- The line read as bytes without a line feed is that of an incomplete piece. -/
theorem Line.ofRead_of_no_lineFeed (number : Nat) {bytes : List UInt8} (h : ∀ b ∈ bytes, b ≠ lineFeed) :
    Line.ofRead number bytes = pieceLine number (bytes, false) := by
  have hlast : bytes.getLast? ≠ some lineFeed := fun hl => h _ (List.mem_of_getLast? hl) rfl
  simp [Line.ofRead, hlast]

/-! ## Reading from the reader -/

namespace ByteReader

/-- The bytes of a reader hold a line feed, or not. -/
theorem lineFeed_cases (bytes : List UInt8) :
    (∃ p after, (∀ b ∈ p, b ≠ lineFeed) ∧ bytes = p ++ lineFeed :: after) ∨
      ∀ b ∈ bytes, b ≠ lineFeed := by
  cases h : bytes.dropWhile (· != lineFeed) with
  | nil =>
    right
    intro b hb
    simpa using List.dropWhile_eq_nil_iff.mp h b hb
  | cons d after =>
    left
    have hd : d = lineFeed := by
      simpa [h] using List.head_dropWhile_not (· != lineFeed) (l := bytes) (by simp [h])
    refine ⟨bytes.takeWhile (· != lineFeed), after, fun b hb => ?_, ?_⟩
    · simpa using List.mem_takeWhile_imp hb
    · rw [hd] at h
      rw [← h, List.takeWhile_append_dropWhile]

theorem readUntilLineFeed_of_lineFeed {r : ByteReader} {p after : List UInt8}
    (hp : ∀ b ∈ p, b ≠ lineFeed) (h : r.bytes = p ++ lineFeed :: after) :
    r.readUntilLineFeed = (.ok (p ++ [lineFeed]), { r with bytes := after }) := by
  have hpos : ∀ b ∈ p, (b != lineFeed) = true := fun b hb => by simpa using hp b hb
  simp [readUntilLineFeed, h, List.dropWhile_append_of_pos hpos, List.takeWhile_append_of_pos hpos]

theorem readUntilLineFeed_of_no_lineFeed {r : ByteReader} (h : ∀ b ∈ r.bytes, b ≠ lineFeed) :
    r.readUntilLineFeed =
      ((match r.failure with | none => .ok r.bytes | some f => .error f), { r with bytes := [] }) := by
  have hnil : r.bytes.dropWhile (· != lineFeed) = [] :=
    List.dropWhile_eq_nil_iff.mpr fun b hb => by simpa using h b hb
  unfold readUntilLineFeed
  rw [hnil]
  cases r.failure <;> rfl

/-- The lines of a reader whose bytes hold a line feed: the line up to it, then
those of the bytes after it. -/
theorem lines_of_lineFeed {r : ByteReader} {p after : List UInt8} (hp : ∀ b ∈ p, b ≠ lineFeed)
    (h : r.bytes = p ++ lineFeed :: after) (first : Nat) :
    r.lines first = Line.ofRead first (p ++ [lineFeed]) :: { r with bytes := after }.lines (first + 1) := by
  unfold lines
  rw [h, cutLines_append_lineFeed after hp, Line.ofRead_lineFeed]
  cases r.failure <;> simp [numberLines]

/-- A reader whose bytes hold no line feed holds at most one line, and none
when a failure follows the bytes. -/
theorem lines_of_no_lineFeed {r : ByteReader} (h : ∀ b ∈ r.bytes, b ≠ lineFeed) (first : Nat) :
    r.lines first =
      match r.failure with
      | none => if r.bytes = [] then [] else [Line.ofRead first r.bytes]
      | some _ => [] := by
  unfold lines
  rw [cutLines_of_no_lineFeed h, Line.ofRead_of_no_lineFeed first h]
  cases r.failure <;> by_cases hb : r.bytes = [] <;> simp [hb, numberLines]

/-- A reader with no bytes left holds no line. -/
@[simp] theorem lines_of_bytes_nil (f : Option ReadFailure) (first : Nat) :
    ({ bytes := [], failure := f } : ByteReader).lines first = [] := by
  cases f <;> rfl

end ByteReader

namespace TextLines

/-- The unread lines of a reader and what follows them, as a source. -/
def unreadSource (t : TextLines) : LineSource := ⟨t.unread, t.failure⟩

/-- Reading a line hands out the first unread line, or, when none is left, what
follows the unread lines; the buffer stays as it was. -/
theorem readLine_next (t : TextLines) :
    t.readLine.1 = t.unreadSource.next.1 ∧ t.readLine.2.unreadSource = t.unreadSource.next.2 ∧
      t.readLine.2.buffered = t.buffered := by
  cases hx : t.exhausted
  case true =>
    simp [readLine, unreadSource, unread, failure, hx, LineSource.next, LineSource.afterEnd]
  case false =>
    rcases ByteReader.lineFeed_cases t.reader.bytes with ⟨p, after, hp, hb⟩ | hno
    case inl =>
      -- a line ended by a line feed: it is handed out and numbered
      have hread := ByteReader.readUntilLineFeed_of_lineFeed hp hb
      have hlines := ByteReader.lines_of_lineFeed hp hb (t.lineNumber + 1)
      simp [readLine, hx, hread, unreadSource, unread, failure, hlines, LineSource.next]
    case inr =>
      have hread := ByteReader.readUntilLineFeed_of_no_lineFeed hno
      have hlines := ByteReader.lines_of_no_lineFeed hno (t.lineNumber + 1)
      cases hf : t.reader.failure
      case some f =>
        -- the read fails, and so does every read after it
        simp only [hf] at hread hlines
        simp [readLine, hx, hread, hf, unreadSource, unread, failure, hlines, LineSource.next,
          LineSource.afterEnd]
      case none =>
        simp only [hf] at hread hlines
        by_cases hempty : t.reader.bytes = []
        · -- nothing is left: the data ends here
          simp [readLine, hx, hread, hf, hempty, unreadSource, unread, failure, hlines,
            LineSource.next, LineSource.afterEnd]
        · -- the last line has no line feed
          obtain ⟨b, bs, hcons⟩ := List.exists_cons_of_ne_nil hempty
          rw [hcons] at hread hlines
          simp [readLine, hx, hread, hf, unreadSource, unread, failure, hlines, LineSource.next]

/-- When a line is unread, reading hands it out and leaves the rest unread. -/
theorem readLine_of_unread_cons {t : TextLines} {l : Line} {rest : List Line} (h : t.unread = l :: rest) :
    ∃ t', t.readLine = (.ok (some l), t') ∧ t'.unread = rest ∧ t'.failure = t.failure ∧
      t'.buffered = t.buffered := by
  obtain ⟨hres, hrest, hbuf⟩ := t.readLine_next
  have hsource : t.unreadSource = ⟨l :: rest, t.failure⟩ := by simp [unreadSource, h]
  rw [hsource] at hres hrest
  refine ⟨t.readLine.2, Prod.ext hres rfl, ?_, ?_, hbuf⟩
  · simpa [unreadSource, LineSource.next] using congrArg LineSource.pending hrest
  · simpa [unreadSource, LineSource.next] using congrArg LineSource.failure hrest

/-- When no line is unread, reading gives what follows the lines and leaves the
view as it was. -/
theorem readLine_of_unread_nil {t : TextLines} (h : t.unread = []) :
    ∃ t', t.readLine = (LineSource.afterEnd ⟨[], t.failure⟩, t') ∧ t'.view = t.view ∧
      t'.buffered = t.buffered := by
  obtain ⟨hres, hrest, hbuf⟩ := t.readLine_next
  have hsource : t.unreadSource = ⟨[], t.failure⟩ := by simp [unreadSource, h]
  rw [hsource] at hres hrest
  refine ⟨t.readLine.2, Prod.ext hres rfl, ?_, hbuf⟩
  have hu : t.readLine.2.unread = [] := by
    simpa [unreadSource, LineSource.next] using congrArg LineSource.pending hrest
  have hf : t.readLine.2.failure = t.failure := by
    simpa [unreadSource, LineSource.next] using congrArg LineSource.failure hrest
  simp [view, hu, hf, hbuf, h]

@[simp] theorem unread_setBuffered (t : TextLines) (b : List Line) :
    ({ t with buffered := b } : TextLines).unread = t.unread := rfl

@[simp] theorem failure_setBuffered (t : TextLines) (b : List Line) :
    ({ t with buffered := b } : TextLines).failure = t.failure := rfl

/-- Handing out a line answers as the view does and leaves the view of what
follows. -/
theorem nextLine_view (t : TextLines) :
    t.nextLine.1 = t.view.next.1 ∧ t.nextLine.2.view = t.view.next.2 := by
  cases hb : t.buffered with
  | cons l rest => simp [nextLine, view, hb, LineSource.next, unread, failure]
  | nil =>
    -- with an empty buffer a line is read, and the view is what is unread
    have hnext : t.nextLine = t.readLine := by simp [nextLine, hb]
    rw [hnext]
    cases hu : t.unread with
    | cons l rest =>
      obtain ⟨t', hr, hu', hf', hb'⟩ := readLine_of_unread_cons hu
      simp [hr, view, hb, hu, hu', hf', hb', LineSource.next]
    | nil =>
      obtain ⟨t', hr, hv, -⟩ := readLine_of_unread_nil hu
      have hempty : t.view = ⟨[], t.failure⟩ := by simp [view, hb, hu]
      simp only [hr]
      rw [hv, hempty]
      exact ⟨rfl, rfl⟩

/-- Reading `count` lines into the buffer moves the next unread lines there and
leaves the view as it was. It succeeds when the view holds that many lines, and
otherwise gives what follows them. -/
theorem fill_view (count : Nat) (t : TextLines) :
    (t.fill count).2.view = t.view ∧
      (t.fill count).2.buffered = t.view.pending.take (t.buffered.length + count) ∧
      (t.fill count).1 =
        if t.buffered.length + count ≤ t.view.pending.length then .ok true
        else match t.failure with
          | none => .ok false
          | some e => .error e := by
  induction count generalizing t with
  | zero => simp [fill, view]
  | succ n ih =>
    cases hu : t.unread with
    | cons l rest =>
      -- the first unread line goes into the buffer, and the rest follows it
      obtain ⟨t', hr, hu', hf', hb'⟩ := readLine_of_unread_cons hu
      have hv : ({ t' with buffered := t'.buffered ++ [l] } : TextLines).view = t.view := by
        simp [view, hu, hu', hf', hb']
      obtain ⟨ih₁, ih₂, ih₃⟩ := ih { t' with buffered := t'.buffered ++ [l] }
      have hlen : t'.buffered.length + 1 + n = t.buffered.length + (n + 1) := by rw [hb']; omega
      simp only [hv, List.length_append, List.length_singleton, hlen] at ih₁ ih₂ ih₃
      simp only [fill, hr]
      refine ⟨ih₁, ih₂, ?_⟩
      rw [ih₃, failure_setBuffered, hf']
    | nil =>
      -- no line is left: the reading stops with what follows the lines
      obtain ⟨t', hr, hv, hb'⟩ := readLine_of_unread_nil hu
      have hpending : t.view.pending = t.buffered := by simp [view, hu]
      have htake : t.buffered.take (t.buffered.length + (n + 1)) = t.buffered :=
        List.take_of_length_le (by omega)
      simp only [fill, hr]
      cases t.failure <;> simp [LineSource.afterEnd, hv, hb', hpending, htake]

/-- Looking ahead answers as the view does and leaves the view as it was. -/
theorem peekLine_view (t : TextLines) (offset : Nat) :
    (t.peekLine offset).1 = t.view.peek offset ∧ (t.peekLine offset).2.view = t.view := by
  obtain ⟨hview, hbuf, hres⟩ := fill_view (offset + 1 - t.buffered.length) t
  have hlen : t.buffered.length ≤ t.view.pending.length := by simp [view]
  generalize hf : t.fill (offset + 1 - t.buffered.length) = r at hview hbuf hres
  obtain ⟨res, t'⟩ := r
  dsimp only at hview hbuf hres
  by_cases hc : t.buffered.length + (offset + 1 - t.buffered.length) ≤ t.view.pending.length
  · -- the buffer now holds the line looked at
    rw [if_pos hc] at hres
    have hlt : offset < t.view.pending.length := by omega
    subst hres
    simp only [peekLine, hf]
    refine ⟨?_, hview⟩
    rw [hbuf, List.getElem?_take_of_lt (by omega), LineSource.peek, List.getElem?_eq_getElem hlt]
  · -- the lines end before it
    rw [if_neg hc] at hres
    have hnone : t.view.pending[offset]? = none := List.getElem?_eq_none (by omega)
    have hpeek' : t.view.peek offset = t.view.afterEnd := by rw [LineSource.peek, hnone]
    rw [hpeek']
    cases hfl : t.failure with
    | none =>
      rw [hfl] at hres
      subst hres
      simp only [peekLine, hf]
      exact ⟨by simp [LineSource.afterEnd, view, hfl], hview⟩
    | some e =>
      rw [hfl] at hres
      subst hres
      simp only [peekLine, hf]
      exact ⟨by simp [LineSource.afterEnd, view, hfl], hview⟩

/-- A reader answers any requests as its view does. -/
theorem serve_view (t : TextLines) (rs : List LineRequest) :
    access.serve t rs = LineSource.access.serve t.view rs := by
  induction rs generalizing t with
  | nil => rfl
  | cons r rs ih =>
    cases r with
    | next =>
      obtain ⟨hres, hrest⟩ := t.nextLine_view
      show t.nextLine.1 :: access.serve t.nextLine.2 rs =
        t.view.next.1 :: LineSource.access.serve t.view.next.2 rs
      rw [hres, ih, hrest]
    | peek k =>
      obtain ⟨hres, hrest⟩ := t.peekLine_view k
      show (t.peekLine k).1 :: access.serve (t.peekLine k).2 rs =
        t.view.peek k :: LineSource.access.serve t.view rs
      rw [hres, ih, hrest]

/-- A reader of a text holds the lines of the text, or of the delivered part
of it when an interruption falls within it. -/
theorem view_ofBytes (bytes : List UInt8) (cut : Option Interruption) :
    (ofBytes bytes cut).view = LineSource.ofBytes bytes cut := by
  cases cut with
  | none => simp [ofBytes, view, unread, failure, ByteReader.ofBytes, ByteReader.lines,
      LineSource.ofBytes, splitLines]
  | some c =>
    by_cases hc : c.after ≤ bytes.length
    · simp [ofBytes, view, unread, failure, ByteReader.ofBytes, ByteReader.lines, LineSource.ofBytes, hc]
    · simp [ofBytes, view, unread, failure, ByteReader.ofBytes, ByteReader.lines, LineSource.ofBytes, hc,
        splitLines]

end TextLines

/-! ## Answers of a source whose data ends after its lines -/

namespace LineSource

@[simp] theorem access_next (s : LineSource) : access.next s = s.next := rfl

@[simp] theorem access_peek (s : LineSource) (k : Nat) : access.peek s k = (s.peek k, s) := rfl

theorem next_of_failure_none {s : LineSource} (hs : s.failure = none) :
    s.next = (.ok s.pending[0]?, { s with pending := s.pending.tail }) := by
  cases hp : s.pending with
  | nil =>
    cases s
    simp_all [next, afterEnd]
  | cons l rest => simp [next, hp]

theorem peek_of_failure_none {s : LineSource} (hs : s.failure = none) (k : Nat) :
    s.peek k = .ok s.pending[k]? := by
  unfold peek
  cases s.pending[k]? <;> simp [afterEnd, hs]

/-- A source whose data ends after its lines answers each request with the line
as far ahead of the lines handed out before it as the request looks. -/
theorem getElem?_serve {s : LineSource} (hs : s.failure = none) (rs : List LineRequest) (i : Nat) :
    (access.serve s rs)[i]? =
      rs[i]?.map fun r => .ok (s.pending[(rs.take i).count .next + r.ahead]?) := by
  induction rs generalizing s i with
  | nil => simp [LineAccess.serve]
  | cons r rs ih =>
    cases r with
    | next =>
      have hnext := next_of_failure_none hs
      cases i with
      | zero => simp [LineAccess.serve, hnext, LineRequest.ahead]
      | succ j =>
        -- the lines after the one handed out are the tail of the lines
        have ih' := ih (s := { s with pending := s.pending.tail }) hs j
        simp only [LineAccess.serve, access_next, hnext, List.getElem?_cons_succ, ih',
          List.take_succ_cons, List.count_cons_self, List.getElem?_tail]
        congr 1
        funext r
        congr 2
        omega
    | peek k =>
      have hpeek := peek_of_failure_none hs k
      cases i with
      | zero => simp [LineAccess.serve, hpeek, LineRequest.ahead]
      | succ j =>
        simp only [LineAccess.serve, access_peek, hpeek, List.getElem?_cons_succ, ih hs j,
          List.take_succ_cons]
        simp

end LineSource

/-! ## A reader of a text -/

/-- A reader of a text read without faults answers every sequence of requests
as the lines of the text do: each request is answered with the line of the text
that lies as far ahead of the lines handed out before it as the request looks,
and with none past the last line. So the lines handed out are those of the text
in order, then none; looking `k` lines ahead shows the line that the `k + 1`-th
following hand-out gives; and looking ahead changes no later answer. -/
theorem TextLines.serve_ofBytes (bytes : List UInt8) (rs : List LineRequest) :
    TextLines.access.serve (.ofBytes bytes) rs =
      rs.zipIdx.map fun (r, i) => .ok ((splitLines bytes)[(rs.take i).count .next + r.ahead]?) := by
  rw [serve_view, view_ofBytes]
  apply List.ext_getElem?
  intro i
  rw [LineSource.getElem?_serve rfl, List.getElem?_map, List.getElem?_zipIdx]
  cases rs[i]? <;> simp [LineSource.ofBytes]

end Timeline
