import Mathlib.Data.List.Infix
import Era.Lib.Machine

/-!
# Decoding UTF-8 as it arrives

The decoder of the web's encoding standard reads one byte at a time.  A byte that fits nowhere is
answered with a replacement character, and a byte that breaks a sequence off is read again as the
first byte of the next one.  Its answers do not depend on how the bytes are cut into chunks, and
it reads encoded text back, from any part of the text's bytes a first part of the text.
-/

namespace Era.Lib.Utf8

/-- The bytes of a text. -/
def encode (text : List Char) : List UInt8 := text.flatMap String.utf8EncodeChar

@[simp] theorem encode_nil : encode [] = [] := rfl

@[simp] theorem encode_append (text other : List Char) :
    encode (text ++ other) = encode text ++ encode other :=
  List.flatMap_append

theorem encode_cons (char : Char) (text : List Char) :
    encode (char :: text) = String.utf8EncodeChar char ++ encode text := rfl

/-- What the decoder has read of a sequence that is not complete: its code point so far, how many
continuation bytes it has seen of those it needs, and the range of the next one. -/
structure Decoder where
  codePoint : ℕ
  seen : ℕ
  needed : ℕ
  lower : ℕ
  upper : ℕ
  deriving DecidableEq, Repr

namespace Decoder

/-- Between two characters. -/
def start : Decoder := ⟨0, 0, 0, 0x80, 0xBF⟩

/-- U+FFFD. -/
def replacement : Char := '\uFFFD'

/-- Reads the first byte of a sequence. -/
def readFirst (byte : ℕ) : Decoder × List Char :=
  if byte ≤ 0x7F then (start, [Char.ofNat byte])
  else if 0xC2 ≤ byte ∧ byte ≤ 0xDF then
    ({ codePoint := byte % 0x20, seen := 0, needed := 1, lower := 0x80, upper := 0xBF }, [])
  else if 0xE0 ≤ byte ∧ byte ≤ 0xEF then
    -- no overlong sequence and no surrogate
    ({  codePoint := byte % 0x10, seen := 0, needed := 2
        lower := if byte = 0xE0 then 0xA0 else 0x80
        upper := if byte = 0xED then 0x9F else 0xBF }, [])
  else if 0xF0 ≤ byte ∧ byte ≤ 0xF4 then
    -- no overlong sequence and nothing above the last code point
    ({  codePoint := byte % 8, seen := 0, needed := 3
        lower := if byte = 0xF0 then 0x90 else 0x80
        upper := if byte = 0xF4 then 0x8F else 0xBF }, [])
  else (start, [replacement])

/-- Reads one byte: the characters that it completes. -/
def read (decoder : Decoder) (byte : ℕ) : Decoder × List Char :=
  if decoder.needed = 0 then readFirst byte
  else if decoder.lower ≤ byte ∧ byte ≤ decoder.upper then
    let codePoint := decoder.codePoint * 0x40 + byte % 0x40
    if decoder.seen + 1 = decoder.needed then (start, [Char.ofNat codePoint])
    else
      ({ decoder with
          codePoint := codePoint, seen := decoder.seen + 1, lower := 0x80, upper := 0xBF }, [])
  else
    ((readFirst byte).1, replacement :: (readFirst byte).2)

end Decoder

/-- The decoder, one byte an input. -/
def decoder : Machine Decoder UInt8 (List Char) := ⟨fun state byte => state.read byte.toNat⟩

/-- The characters that a chunk of bytes completes. -/
def decode (state : Decoder) (bytes : List UInt8) : List Char :=
  (decoder.outputs state bytes).flatten

@[simp] theorem decode_nil (state : Decoder) : decode state [] = [] := rfl

theorem decode_cons (state : Decoder) (byte : UInt8) (bytes : List UInt8) :
    decode state (byte :: bytes) =
      (state.read byte.toNat).2 ++ decode (state.read byte.toNat).1 bytes := rfl

theorem stateAfter_cons (state : Decoder) (byte : UInt8) (bytes : List UInt8) :
    decoder.stateAfter state (byte :: bytes) =
      decoder.stateAfter (state.read byte.toNat).1 bytes := rfl

/-- How the bytes are cut does not matter. -/
theorem decode_append (state : Decoder) (bytes later : List UInt8) :
    decode state (bytes ++ later) =
      decode state bytes ++ decode (decoder.stateAfter state bytes) later := by
  rw [decode, Machine.outputs_append, List.flatten_append]
  rfl

/-! ## Encoded text -/

namespace Decoder

theorem read_one {byte : ℕ} (high : byte ≤ 0x7F) :
    start.read byte = (start, [Char.ofNat byte]) :=
  if_pos high

theorem read_two {byte : ℕ} (low : 0xC2 ≤ byte) (high : byte ≤ 0xDF) :
    start.read byte = (⟨byte % 0x20, 0, 1, 0x80, 0xBF⟩, []) := by
  change readFirst byte = _
  rw [readFirst, if_neg (by omega), if_pos ⟨low, high⟩]

theorem read_three {byte : ℕ} (low : 0xE0 ≤ byte) (high : byte ≤ 0xEF) :
    start.read byte =
      (⟨byte % 0x10, 0, 2, if byte = 0xE0 then 0xA0 else 0x80,
        if byte = 0xED then 0x9F else 0xBF⟩, []) := by
  change readFirst byte = _
  rw [readFirst, if_neg (by omega), if_neg (by omega), if_pos ⟨low, high⟩]

theorem read_four {byte : ℕ} (low : 0xF0 ≤ byte) (high : byte ≤ 0xF4) :
    start.read byte =
      (⟨byte % 8, 0, 3, if byte = 0xF0 then 0x90 else 0x80,
        if byte = 0xF4 then 0x8F else 0xBF⟩, []) := by
  change readFirst byte = _
  rw [readFirst, if_neg (by omega), if_neg (by omega), if_neg (by omega), if_pos ⟨low, high⟩]

theorem read_last {codePoint seen lower upper byte : ℕ} (low : lower ≤ byte)
    (high : byte ≤ upper) :
    read ⟨codePoint, seen, seen + 1, lower, upper⟩ byte =
      (start, [Char.ofNat (codePoint * 0x40 + byte % 0x40)]) := by
  rw [read, if_neg (Nat.succ_ne_zero seen), if_pos ⟨low, high⟩]
  exact if_pos rfl

theorem read_more {codePoint seen needed lower upper byte : ℕ} (more : seen + 1 < needed)
    (low : lower ≤ byte) (high : byte ≤ upper) :
    read ⟨codePoint, seen, needed, lower, upper⟩ byte =
      (⟨codePoint * 0x40 + byte % 0x40, seen + 1, needed, 0x80, 0xBF⟩, []) := by
  have needs : needed ≠ 0 := by omega
  rw [read, if_neg needs, if_pos ⟨low, high⟩]
  exact if_neg more.ne

end Decoder

/-- The bytes complete one character. -/
def Completes (state : Decoder) (bytes : List UInt8) (char : Char) : Prop :=
  decoder.stateAfter state bytes = .start ∧ decode state bytes = [char]

section Completes

variable {state next : Decoder} {number : ℕ} {bytes : List UInt8} {char : Char}

theorem Completes.last (byte : number < 256) (read : state.read number = (.start, [char])) :
    Completes state [UInt8.ofNat number] char := by
  have same : (UInt8.ofNat number).toNat = number := UInt8.toNat_ofNat_of_lt byte
  rw [Completes, decode_cons, stateAfter_cons, same, read]
  exact ⟨rfl, rfl⟩

theorem Completes.cons (byte : number < 256) (read : state.read number = (next, []))
    (completes : Completes next bytes char) :
    Completes state (UInt8.ofNat number :: bytes) char := by
  have same : (UInt8.ofNat number).toNat = number := UInt8.toNat_ofNat_of_lt byte
  rw [Completes, decode_cons, stateAfter_cons, same, read]
  exact completes

end Completes

/-- The bytes of a character complete it. -/
theorem completes_utf8EncodeChar (char : Char) :
    Completes .start (String.utf8EncodeChar char) char := by
  have valid : char.val.toNat < 0xD800 ∨ 0xDFFF < char.val.toNat ∧ char.val.toNat < 0x110000 :=
    char.valid
  have same : Char.ofNat char.val.toNat = char := Char.ofNat_toNat char
  unfold String.utf8EncodeChar
  generalize char.val.toNat = number at valid same
  dsimp only
  split_ifs with one two three
  · refine .last (by omega) ?_
    rw [Decoder.read_one one, same]
  · have point : (number / 64 % 32 + 192) % 32 * 64 + (number % 64 + 128) % 64 = number := by
      omega
    refine .cons (by omega) (Decoder.read_two (by omega) (by omega)) (.last (by omega) ?_)
    rw [Decoder.read_last (by omega) (by omega), point, same]
  · have point : ((number / 4096 % 16 + 224) % 16 * 64 + (number / 64 % 64 + 128) % 64) * 64 +
        (number % 64 + 128) % 64 = number := by
      omega
    refine .cons (by omega) (Decoder.read_three (by omega) (by omega)) ?_
    refine .cons (by omega) (Decoder.read_more (by omega) (by split_ifs <;> omega)
      (by split_ifs <;> omega)) (.last (by omega) ?_)
    rw [Decoder.read_last (by omega) (by omega), point, same]
  · have point : (((number / 262144 % 8 + 240) % 8 * 64 + (number / 4096 % 64 + 128) % 64) * 64 +
        (number / 64 % 64 + 128) % 64) * 64 + (number % 64 + 128) % 64 = number := by
      omega
    refine .cons (by omega) (Decoder.read_four (by omega) (by omega)) ?_
    refine .cons (by omega) (Decoder.read_more (by omega) (by split_ifs <;> omega)
      (by split_ifs <;> omega)) ?_
    refine .cons (by omega) (Decoder.read_more (by omega) (by omega) (by omega))
      (.last (by omega) ?_)
    rw [Decoder.read_last (by omega) (by omega), point, same]

/-- An encoded text is decoded to itself, and leaves the decoder between two characters. -/
theorem decode_encode_append (text : List Char) (later : List UInt8) :
    decode .start (encode text ++ later) = text ++ decode .start later := by
  induction text with
  | nil => rfl
  | cons char text ih =>
      obtain ⟨state, decoded⟩ := completes_utf8EncodeChar char
      rw [encode_cons, List.append_assoc, decode_append, state, decoded, ih]
      rfl

@[simp] theorem decode_encode (text : List Char) : decode .start (encode text) = text := by
  simpa using decode_encode_append text []

/-- The first bytes of a text are decoded to a first part of the text. -/
theorem decode_prefix {bytes : List UInt8} {text : List Char} (first : bytes <+: encode text) :
    decode .start bytes <+: text := by
  obtain ⟨later, whole⟩ := first
  have decoded := decode_encode text
  rw [← whole, decode_append] at decoded
  exact ⟨_, decoded⟩

/-! ## The decoder of a stream -/

/-- A decoder that leaves out a byte order mark in front of the text. -/
structure TextDecoder where
  state : Decoder
  markSeen : Bool
  deriving DecidableEq, Repr

namespace TextDecoder

/-- Nothing has been read. -/
def fresh : TextDecoder := ⟨.start, false⟩

/-- U+FEFF. -/
def mark : Char := '\uFEFF'

/-- A text without the mark that it may start with. -/
def withoutMark : List Char → List Char
  | [] => []
  | char :: text => if char = mark then text else char :: text

/-- Decodes one chunk of a stream. -/
def decodeChunk (decoder : TextDecoder) (chunk : List UInt8) : TextDecoder × List Char :=
  let text := decode decoder.state chunk
  ({ state := Utf8.decoder.stateAfter decoder.state chunk
     markSeen := decoder.markSeen || !text.isEmpty },
    if decoder.markSeen then text else withoutMark text)

end TextDecoder

/-- The decoder of a stream, one chunk an input. -/
def textDecoder : Machine TextDecoder (List UInt8) (List Char) := ⟨TextDecoder.decodeChunk⟩

theorem flatten_outputs_textDecoder (decoder : TextDecoder) (chunks : List (List UInt8)) :
    (textDecoder.outputs decoder chunks).flatten =
      if decoder.markSeen then decode decoder.state chunks.flatten
      else TextDecoder.withoutMark (decode decoder.state chunks.flatten) := by
  induction chunks generalizing decoder with
  | nil => cases decoder.markSeen <;> rfl
  | cons chunk chunks ih =>
      have later := ih (decoder.decodeChunk chunk).1
      change (decoder.decodeChunk chunk).2 ++
        (textDecoder.outputs (decoder.decodeChunk chunk).1 chunks).flatten = _
      rw [later, List.flatten_cons, decode_append]
      cases seen : decoder.markSeen with
      | true => simp [TextDecoder.decodeChunk, seen]
      | false =>
          cases text : decode decoder.state chunk with
          | nil => simp [TextDecoder.decodeChunk, seen, text, TextDecoder.withoutMark]
          | cons char rest =>
              simp only [TextDecoder.decodeChunk, seen, text, TextDecoder.withoutMark,
                Bool.false_or, List.isEmpty_cons, Bool.not_false, if_true, Bool.false_eq_true,
                if_false, List.cons_append]
              split_ifs <;> rfl

/-- However a stream is cut into chunks, it is decoded as a whole. -/
theorem flatten_outputs_fresh (chunks : List (List UInt8)) :
    (textDecoder.outputs .fresh chunks).flatten =
      TextDecoder.withoutMark (decode .start chunks.flatten) :=
  flatten_outputs_textDecoder .fresh chunks

end Era.Lib.Utf8
