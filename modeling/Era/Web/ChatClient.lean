import Era.Lib.Frames
import Era.Lib.Utf8

/-!
# The chat client

`streamChat` reads the response of a chat chunk by chunk: bytes are decoded, the text is cut at
blank lines, and what the data lines of a frame hold is parsed and handled.  Chunks end anywhere,
also within a character.
-/

namespace Era.Web

open Era.Lib Era.Lib.Utf8

/-- The field of a line that is read. -/
def dataField : List Char := "data: ".toList

/-- Text that ends at blank lines. -/
def blankLines : Framing Char (List Char) := endedBy '\n' ['\n']

structure ChatClient (Json : Type*) where
  decoder : TextDecoder
  buffer : List Char
  handled : List Json

/-- The client of a response of which nothing has been read. -/
def ChatClient.opened {Json : Type*} : ChatClient Json := ⟨.fresh, [], []⟩

section Reading

variable {Json : Type*} (parse : List Char → Option Json)

/-- A line of a frame; a malformed one is ignored. -/
def readLine (line : List Char) : Option Json :=
  if dataField.isPrefixOf line then parse (line.drop dataField.length) else none

def readFrame (frame : List Char) : List Json := (frame.splitOn '\n').filterMap (readLine parse)

/-- One round of the loop of `streamChat`. -/
def ChatClient.readChunk (client : ChatClient Json) (chunk : List UInt8) : ChatClient Json :=
  let decoded := client.decoder.decodeChunk chunk
  let scanned := blankLines.scan (client.buffer ++ decoded.2)
  { decoder := decoded.1
    buffer := scanned.2
    handled := client.handled ++ scanned.1.flatMap (readFrame parse) }

/-- The client after chunks of a response. -/
def ChatClient.after (chunks : List (List UInt8)) : ChatClient Json :=
  chunks.foldl (ChatClient.readChunk parse) .opened

variable {parse}

theorem ChatClient.after_concat (chunks : List (List UInt8)) (chunk : List UInt8) :
    ChatClient.after parse (chunks ++ [chunk]) =
      (ChatClient.after parse chunks).readChunk parse chunk :=
  List.foldl_append

/-- A client is a decoder and a reader of frames behind it. -/
theorem foldl_readChunk (client : ChatClient Json) (chunks : List (List UInt8)) :
    chunks.foldl (ChatClient.readChunk parse) client =
      { decoder := textDecoder.stateAfter client.decoder chunks
        buffer := blankLines.reader.stateAfter client.buffer
          (textDecoder.outputs client.decoder chunks)
        handled := client.handled ++
          (blankLines.reader.outputs client.buffer
            (textDecoder.outputs client.decoder chunks)).flatten.flatMap (readFrame parse) } := by
  induction chunks generalizing client with
  | nil => simp
  | cons chunk chunks ih =>
      rw [List.foldl_cons, ih]
      simp only [Machine.outputs, Machine.stateAfter_cons, List.flatten_cons, List.flatMap_append,
        ← List.append_assoc]
      rfl

/-- What has been handled depends on the bytes that were read, not on how they were cut. -/
theorem ChatClient.handled_eq_scan (chunks : List (List UInt8)) :
    (ChatClient.after parse chunks).handled =
      (blankLines.scan (TextDecoder.withoutMark (decode .start chunks.flatten))).1.flatMap
        (readFrame parse) := by
  have settled : blankLines.next [] = none := rfl
  have frames := congrArg Prod.snd
    (Framing.reader_eq_scan [] settled (textDecoder.outputs .fresh chunks))
  dsimp only at frames
  rw [List.nil_append, flatten_outputs_fresh] at frames
  rw [ChatClient.after, foldl_readChunk]
  exact congrArg (List.flatMap (readFrame parse)) frames

end Reading

/-! ## Responses of the service -/

section Response

variable {Event Json : Type*} (dump : Event → List Char) {parse : List Char → Option Json}

/-- The frame of an event. -/
def sseFrame (event : Event) : List Char := dataField ++ dump event

/-- The body that `_sse` makes of events. -/
def sse (events : List Event) : List Char :=
  (events.map (sseFrame dump)).flatMap (· ++ ['\n', '\n'])

@[simp] theorem sse_nil : sse dump [] = [] := rfl

theorem sse_append (events others : List Event) :
    sse dump (events ++ others) = sse dump events ++ sse dump others := by
  simp [sse]

variable {dump} (oneLine : ∀ event, '\n' ∉ dump event)

include oneLine

theorem newline_not_mem_sseFrame (event : Event) : '\n' ∉ sseFrame dump event := by
  intro member
  obtain field | text := List.mem_append.mp member
  · revert field
    decide
  · exact oneLine event text

theorem readFrame_sseFrame (event : Event) :
    readFrame parse (sseFrame dump event) = (parse (dump event)).toList := by
  have line : (sseFrame dump event).splitOn '\n' = [sseFrame dump event] := by
    rw [List.splitOn_eq_splitOnP]
    refine List.splitOnP_eq_singleton fun char member => beq_false_of_ne ?_
    rintro rfl
    exact newline_not_mem_sseFrame oneLine event member
  have field : dataField.isPrefixOf (sseFrame dump event) = true :=
    List.isPrefixOf_iff_prefix.mpr (List.prefix_append _ _)
  have text : readLine parse (sseFrame dump event) = parse (dump event) := by
    rw [readLine, if_pos field, sseFrame, List.drop_left]
  rw [readFrame, line, List.filterMap_cons, text]
  cases parse (dump event) <;> rfl

theorem scan_sse (events : List Event) :
    blankLines.scan (sse dump events) = (events.map (sseFrame dump), []) := by
  have clean : ∀ frame ∈ events.map (sseFrame dump), '\n' ∉ frame := by
    intro frame member
    obtain ⟨event, _, rfl⟩ := List.mem_map.mp member
    exact newline_not_mem_sseFrame oneLine event
  have whole : blankLines.scan (sse dump events ++ []) =
      (events.map (sseFrame dump) ++ (blankLines.scan []).1, (blankLines.scan []).2) :=
    scan_endedBy clean []
  rw [List.append_nil] at whole
  rw [whole, Framing.scan_of_none (rfl : blankLines.next [] = none), List.append_nil]

/-- All frames of a response are handled. -/
theorem flatMap_readFrame (events : List Event) :
    (events.map (sseFrame dump)).flatMap (readFrame parse) =
      events.filterMap fun event => parse (dump event) := by
  induction events with
  | nil => rfl
  | cons event events ih =>
      rw [List.map_cons, List.flatMap_cons, readFrame_sseFrame oneLine, ih, List.filterMap_cons]
      cases parse (dump event) <;> rfl

omit oneLine in
/-- A response does not start with a byte order mark. -/
theorem withoutMark_prefix_sse {events : List Event} {text : List Char}
    (first : text <+: sse dump events) : TextDecoder.withoutMark text = text := by
  cases text with
  | nil => rfl
  | cons char text =>
      cases events with
      | nil => exact absurd (List.prefix_nil.mp first) (List.cons_ne_nil _ _)
      | cons event events =>
          obtain ⟨rest, whole⟩ := first
          have same : char = 'd' := (List.cons.inj whole).1
          exact if_neg (by rw [same]; decide)

/-- From a first part of a response, in any chunks, the first of its events are handled. -/
theorem ChatClient.handled_prefix {events : List Event} {chunks : List (List UInt8)}
    (first : chunks.flatten <+: encode (sse dump events)) :
    (ChatClient.after parse chunks).handled <+:
      events.filterMap fun event => parse (dump event) := by
  have text := decode_prefix first
  have frames : (blankLines.scan (decode .start chunks.flatten)).1 <+:
      (blankLines.scan (sse dump events)).1 :=
    Framing.scan_prefix text
  rw [scan_sse oneLine] at frames
  rw [ChatClient.handled_eq_scan, withoutMark_prefix_sse text, ← flatMap_readFrame oneLine]
  exact frames.flatMap _

/-- From a whole response, in any chunks, all of its events are handled. -/
theorem ChatClient.handled_whole {events : List Event} {chunks : List (List UInt8)}
    (whole : chunks.flatten = encode (sse dump events)) :
    (ChatClient.after parse chunks).handled = events.filterMap fun event => parse (dump event) := by
  rw [ChatClient.handled_eq_scan, whole, decode_encode,
    withoutMark_prefix_sse (List.prefix_refl (sse dump events)), scan_sse oneLine,
    flatMap_readFrame oneLine]

end Response

end Era.Web
