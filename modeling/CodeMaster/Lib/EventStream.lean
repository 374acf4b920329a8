import Mathlib.Data.List.Basic
import Mathlib.Data.List.Infix

/-!
# `CodeMaster.Lib.EventStream`: the `text/event-stream` format

`parse` is the reader of the format, as a browser runs it on what has arrived so far. A line ends
with a line feed, a carriage return or both. A line is a field, a comment (it starts with a colon),
or empty, which dispatches the event that the fields before it have built up. An event without data
is dropped, and so is one whose empty line has not arrived. The fields `id` and `retry` do not bear
on the type and the data of an event, and are skipped like unknown fields.

A writer sends `Chunk`s: comments and messages. `parse_chunksText` is the round trip. `parse_append`
says that what is read from a part of the text stays, so a reader of any part of it has the first
messages (`parse_of_isPrefix`).
-/

set_option autoImplicit false

namespace EventStream

/-! ### The reader -/

/-- The character ends a line. -/
def isLineEnd (c : Char) : Bool := c = '\n' || c = '\r'

/-- The complete lines of a text, after the characters `line` of the first of them. -/
def linesFrom : List Char → List Char → List (List Char)
  | _, [] => []
  | line, '\n' :: cs => line :: linesFrom [] cs
  | line, '\r' :: '\n' :: cs => line :: linesFrom [] cs
  | line, '\r' :: cs => line :: linesFrom [] cs
  | line, c :: cs => linesFrom (line ++ [c]) cs

/-- An event as the reader hands it over. -/
structure ServerEvent where
  type : List Char
  data : List Char
  deriving DecidableEq, Repr

/-- The buffers of the reader, and the events that it has dispatched. -/
structure Reader where
  eventType : List Char := []
  data : List Char := []
  dispatched : List ServerEvent := []
  deriving DecidableEq, Repr

/-- An empty line. -/
def Reader.dispatch (r : Reader) : Reader :=
  if r.data = [] then { dispatched := r.dispatched }
  else
    { dispatched := r.dispatched ++
        [{ type := if r.eventType = [] then "message".toList else r.eventType
           -- Every line of data has put a line feed at its end.
           data := r.data.dropLast }] }

/-- The value of a field, without a space in front. -/
def fieldValue (afterName : List Char) : List Char :=
  match afterName.drop 1 with
  | ' ' :: value => value
  | value => value

/-- A line that is a field. -/
def Reader.field (r : Reader) (line : List Char) : Reader :=
  let name := line.takeWhile (· ≠ ':')
  let value := fieldValue (line.dropWhile (· ≠ ':'))
  if name = "event".toList then { r with eventType := value }
  else if name = "data".toList then { r with data := r.data ++ value ++ ['\n'] }
  else r

/-- One line. -/
def Reader.line (r : Reader) : List Char → Reader
  | [] => r.dispatch
  | ':' :: _ => r
  | line => r.field line

/-- The events of a text. -/
def parse (text : List Char) : List ServerEvent :=
  ((linesFrom [] text).foldl Reader.line {}).dispatched

/-! ### The writer -/

/-- What a writer sends at once. -/
inductive Chunk where
  | comment (text : List Char)
  | message (event : Option (List Char)) (data : List Char)
  deriving DecidableEq, Repr

namespace Chunk

/-- The text of a chunk. -/
def text : Chunk → List Char
  | .comment words => ": ".toList ++ words ++ "\n\n".toList
  | .message none data => "data: ".toList ++ data ++ "\n\n".toList
  | .message (some event) data =>
    "event: ".toList ++ event ++ "\n".toList ++ "data: ".toList ++ data ++ "\n\n".toList

/-- The event that a reader makes of a chunk. -/
def event? : Chunk → Option ServerEvent
  | .comment _ => none
  | .message event data =>
    some { type := if event.getD [] = [] then "message".toList else event.getD [], data }

/-- No text of the chunk has a line end. -/
def OneLine : Chunk → Prop
  | .comment words => ∀ c ∈ words, isLineEnd c = false
  | .message event data =>
    (∀ c ∈ event.getD [], isLineEnd c = false) ∧ ∀ c ∈ data, isLineEnd c = false

end Chunk

/-- The text of a stream. -/
def chunksText (chunks : List Chunk) : List Char := chunks.flatMap Chunk.text

/-! ### The round trip -/

/-- The lines of a chunk. -/
def Chunk.lines : Chunk → List (List Char)
  | .comment words => [':' :: ' ' :: words, []]
  | .message none data => ["data: ".toList ++ data, []]
  | .message (some event) data => ["event: ".toList ++ event, "data: ".toList ++ data, []]

/-- A line without line ends is read up to its line feed. -/
theorem linesFrom_append {line l : List Char} (hl : ∀ c ∈ l, isLineEnd c = false)
    (rest : List Char) : linesFrom line (l ++ '\n' :: rest) = (line ++ l) :: linesFrom [] rest := by
  induction l generalizing line with
  | nil => simp [linesFrom]
  | cons c l ih =>
    have hc := hl c List.mem_cons_self
    simp only [isLineEnd, Bool.or_eq_false_iff, decide_eq_false_iff_not] at hc
    rw [List.cons_append, linesFrom]
    · rw [ih fun c hc => hl c (List.mem_cons_of_mem _ hc)]
      simp
    all_goals grind

/-- The lines of a text that was put together from lines. -/
theorem linesFrom_lines (lines : List (List Char))
    (hlines : ∀ l ∈ lines, ∀ c ∈ l, isLineEnd c = false) (rest : List Char) :
    linesFrom [] (lines.flatMap (· ++ ['\n']) ++ rest) = lines ++ linesFrom [] rest := by
  induction lines with
  | nil => rfl
  | cons l lines ih =>
    have htail := ih fun l hl => hlines l (List.mem_cons_of_mem _ hl)
    simp only [List.flatMap_cons, List.append_assoc, List.cons_append, List.nil_append]
    rw [linesFrom_append (hlines l List.mem_cons_self), List.nil_append, htail]

/-- The text of a chunk is its lines. -/
theorem Chunk.text_eq_lines (chunk : Chunk) : chunk.text = chunk.lines.flatMap (· ++ ['\n']) := by
  have hend : "\n\n".toList = ['\n', '\n'] := by decide
  cases chunk with
  | comment words =>
    show ": ".toList ++ words ++ "\n\n".toList = _
    simp [Chunk.lines, hend]
  | message event data =>
    cases event with
    | none =>
      show "data: ".toList ++ data ++ "\n\n".toList = _
      simp [Chunk.lines, hend]
    | some event =>
      show "event: ".toList ++ event ++ "\n".toList ++ "data: ".toList ++ data ++ "\n\n".toList = _
      simp [Chunk.lines, hend]

/-- A text without a line end, as a condition that can be computed. -/
theorem isLineEnd_of_all {text : List Char} (h : (text.all fun c => !isLineEnd c) = true) :
    ∀ c ∈ text, isLineEnd c = false := by
  simpa using h

/-- No line of a chunk is broken by its data. -/
theorem Chunk.OneLine.lines {chunk : Chunk} (h : chunk.OneLine) :
    ∀ l ∈ chunk.lines, ∀ c ∈ l, isLineEnd c = false := by
  have hevent : ∀ c ∈ "event: ".toList, isLineEnd c = false :=
    isLineEnd_of_all (by decide)
  have hdata : ∀ c ∈ "data: ".toList, isLineEnd c = false :=
    isLineEnd_of_all (by decide)
  have hcolon : ∀ c ∈ [':', ' '], isLineEnd c = false :=
    isLineEnd_of_all (by decide)
  have hempty : ∀ l ∈ [([] : List Char)], ∀ c ∈ l, isLineEnd c = false := by simp
  match chunk, h with
  | .comment words, h =>
    exact List.forall_mem_cons.mpr ⟨List.forall_mem_append.mpr ⟨hcolon, h⟩, hempty⟩
  | .message none data, h =>
    exact List.forall_mem_cons.mpr ⟨List.forall_mem_append.mpr ⟨hdata, h.2⟩, hempty⟩
  | .message (some event) data, h =>
    refine List.forall_mem_cons.mpr ⟨List.forall_mem_append.mpr ⟨hevent, h.1⟩, ?_⟩
    exact List.forall_mem_cons.mpr ⟨List.forall_mem_append.mpr ⟨hdata, h.2⟩, hempty⟩

/-- A field of the writer is read as it was written. -/
theorem line_event (r : Reader) (event : List Char) :
    r.line ("event: ".toList ++ event) = { r with eventType := event } := by
  simp [Reader.line, Reader.field, fieldValue]

/-- A `data` line adds to the data of the event. -/
theorem line_data (r : Reader) (data : List Char) :
    r.line ("data: ".toList ++ data) = { r with data := r.data ++ data ++ ['\n'] } := by
  simp [Reader.line, Reader.field, fieldValue]

/-- The empty line after one line of data. -/
theorem dispatch_data (eventType data : List Char) (dispatched : List ServerEvent) :
    ({ eventType, data := [] ++ data ++ ['\n'], dispatched } : Reader).dispatch
      = { dispatched := dispatched ++
            [{ type := if eventType = [] then "message".toList else eventType, data }] } := by
  have hdata : [] ++ data ++ ['\n'] ≠ [] := List.append_ne_nil_of_right_ne_nil _ (by simp)
  rw [Reader.dispatch, if_neg hdata, List.dropLast_concat, List.nil_append]

/-- Between two chunks the buffers of the reader are empty. -/
theorem foldl_lines (chunk : Chunk) (dispatched : List ServerEvent) :
    chunk.lines.foldl Reader.line { dispatched }
      = { dispatched := dispatched ++ chunk.event?.toList } := by
  match chunk with
  | .comment words =>
    show ({ dispatched } : Reader).dispatch = { dispatched := dispatched ++ [] }
    simp [Reader.dispatch]
  | .message none data =>
    show (Reader.line { dispatched } ("data: ".toList ++ data)).dispatch = _
    rw [line_data, dispatch_data]
    rfl
  | .message (some event) data =>
    show (Reader.line (Reader.line { dispatched } ("event: ".toList ++ event))
      ("data: ".toList ++ data)).dispatch = _
    rw [line_event, line_data, dispatch_data]
    rfl

/-- After the chunks, the reader goes on with empty buffers. -/
theorem foldl_chunks (chunks : List Chunk) (dispatched : List ServerEvent) :
    (chunks.flatMap Chunk.lines).foldl Reader.line { dispatched }
      = { dispatched := dispatched ++ chunks.filterMap Chunk.event? } := by
  induction chunks generalizing dispatched with
  | nil => simp
  | cons chunk chunks ih =>
    rw [List.flatMap_cons, List.foldl_append, foldl_lines, ih, List.append_assoc]
    cases h : chunk.event? <;> simp [h]

/-- **The round trip**: a reader of the chunks gets their messages, in order, and nothing else. -/
theorem parse_chunksText {chunks : List Chunk} (h : ∀ chunk ∈ chunks, chunk.OneLine) :
    parse (chunksText chunks) = chunks.filterMap Chunk.event? := by
  have hlines : ∀ l ∈ chunks.flatMap Chunk.lines, ∀ c ∈ l, isLineEnd c = false := by
    intro l hl
    obtain ⟨chunk, hchunk, hl⟩ := List.mem_flatMap.mp hl
    exact (h chunk hchunk).lines l hl
  have htext : chunksText chunks = (chunks.flatMap Chunk.lines).flatMap (· ++ ['\n']) := by
    rw [List.flatMap_assoc]
    exact List.flatMap_congr fun chunk _ => chunk.text_eq_lines
  have hread := linesFrom_lines _ hlines []
  rw [List.append_nil] at hread
  have hnil : linesFrom [] [] = [] := rfl
  rw [parse, htext, hread, hnil, List.append_nil, foldl_chunks]
  simp

/-! ### A part of the text -/

/-- The lines of a part are the first lines. -/
theorem linesFrom_isPrefix (text rest : List Char) (line : List Char) :
    linesFrom line text <+: linesFrom line (text ++ rest) := by
  fun_induction linesFrom line text with
  | case1 line => exact List.nil_prefix
  | case2 line cs ih => simpa [linesFrom] using ih
  | case3 line cs ih => simpa [linesFrom] using ih
  | case4 line cs hcs ih =>
    cases cs with
    | nil =>
      -- A line feed after it belongs to the same line end.
      cases rest with
      | nil => simp [linesFrom]
      | cons c rest =>
        by_cases hc : c = '\n'
        · subst hc
          simp [linesFrom]
        · simp [linesFrom, hc]
    | cons c cs =>
      have hc : c ≠ '\n' := fun hc => hcs cs (hc ▸ rfl)
      have hstep : linesFrom line ('\r' :: c :: cs ++ rest)
          = line :: linesFrom [] (c :: cs ++ rest) := by
        simp [linesFrom, hc]
      rw [hstep]
      exact List.cons_prefix_cons.mpr ⟨rfl, ih⟩
  | case5 line c cs hn hrn hr ih =>
    have hstep : linesFrom line (c :: cs ++ rest) = linesFrom (line ++ [c]) (cs ++ rest) := by
      rw [List.cons_append, linesFrom] <;> grind
    rw [hstep]
    exact ih

/-- The end of an event leaves the events before it. -/
theorem dispatched_isPrefix_dispatch (r : Reader) : r.dispatched <+: r.dispatch.dispatched := by
  unfold Reader.dispatch
  split
  · exact List.prefix_rfl
  · exact List.prefix_append _ _

/-- A field dispatches nothing. -/
theorem dispatched_field (r : Reader) (line : List Char) :
    (r.field line).dispatched = r.dispatched := by
  unfold Reader.field
  dsimp only
  split
  · rfl
  · split <;> rfl

/-- A line leaves the events before it. -/
theorem dispatched_isPrefix_line (r : Reader) (l : List Char) :
    r.dispatched <+: (r.line l).dispatched := by
  unfold Reader.line
  split
  · exact dispatched_isPrefix_dispatch r
  · exact List.prefix_rfl
  · rw [dispatched_field]

/-- What a reader has dispatched stays. -/
theorem dispatched_isPrefix_foldl (r : Reader) (lines : List (List Char)) :
    r.dispatched <+: (lines.foldl Reader.line r).dispatched := by
  induction lines generalizing r with
  | nil => exact List.prefix_rfl
  | cons l lines ih => exact (dispatched_isPrefix_line r l).trans (ih _)

/-- **What is read stays**: the rest of a text adds events at the end. -/
theorem parse_append (text rest : List Char) : parse text <+: parse (text ++ rest) := by
  obtain ⟨lines, hlines⟩ := linesFrom_isPrefix text rest []
  rw [parse, parse, ← hlines, List.foldl_append]
  exact dispatched_isPrefix_foldl _ lines

/-- A reader of a part of the text has the first messages. -/
theorem parse_of_isPrefix {chunks : List Chunk} (h : ∀ chunk ∈ chunks, chunk.OneLine)
    {text : List Char} (htext : text <+: chunksText chunks) :
    parse text <+: chunks.filterMap Chunk.event? := by
  obtain ⟨rest, hrest⟩ := htext
  rw [← parse_chunksText h, ← hrest]
  exact parse_append text rest

end EventStream
