import Lidify.Wire.MessageParser
/-
**`MessageParser` reads back every well-formed encoding and rejects every truncated one.**

A message is a list of `WireField`s, each carrying its own range: `u8`, `u32` and `u64` below
`2 ^ 8`, `2 ^ 32` and `2 ^ 64`, strings whose UTF-8 encoding is shorter than `2 ^ 32` bytes, and
raw byte spans. `encodeFields` is the reference encoding: little-endian integers, a `u32` byte
length before each string's UTF-8 bytes, raw spans verbatim. `readAll` makes each field's call in
order and stops at the first that throws, as a caller that aborts the message does. A field is
`decodable` when the string `toString` builds for it fits V8's `kMaxLength`: a string of at most
`kMaxLength` UTF-8 bytes, a raw span of at most `kMaxLength / 2` bytes.

* `field_call_of_encoded` / `field_call_of_truncated` — one field: if its whole encoding follows the
  cursor and it is decodable, its call returns its value and moves past it; if the buffer ends
  inside it, its call throws `Buffer underflow`.
* `readAll_encodeFields` and `readAll_truncated` — by induction on the fields.
* `messageParser_decodes_encoding` — for decodable fields, over `encoding ++ rest` every value comes
  back and the cursor ends at the encoding's length; over a strict prefix the fields wholly inside
  come back and the next call throws `Buffer underflow`.
* `readAll_long_raw_span` — a raw span of more than `kMaxLength / 2` bytes throws
  `ERR_STRING_TOO_LONG` instead.
-/

namespace Lidify.Wire

/-- One field of a message, with the range the format allows. -/
inductive WireField
  | u8 (value : Nat) (small : value < 2 ^ 8)
  | u32 (value : Nat) (small : value < 2 ^ 32)
  | u64 (value : Nat) (small : value < 2 ^ 64)
  | str (value : String) (short : (utf8Encode value).length < 2 ^ 32)
  | raw (bytes : List UInt8)

/-- The reference encoding of one field. -/
def WireField.encode : WireField → List UInt8
  | .u8 value _ => leBytes 1 value
  | .u32 value _ => leBytes 4 value
  | .u64 value _ => leBytes 8 value
  | .str value _ => leBytes 4 (utf8Encode value).length ++ utf8Encode value
  | .raw bytes => bytes

/-- The reference encoding of a message. -/
def encodeFields (fields : List WireField) : List UInt8 := fields.flatMap WireField.encode

/-- The call that reads a field. -/
def WireField.read : WireField → Read
  | .u8 .. => .int8
  | .u32 .. => .int32
  | .u64 .. => .int64
  | .str .. => .str
  | .raw bytes => .rawHexStr bytes.length

/-- What reading a field should return; a raw span comes back as its lowercase hex. -/
def WireField.value : WireField → Value
  | .u8 value _ => .number value
  | .u32 value _ => .number value
  | .u64 value _ => .bigint value
  | .str value _ => .string value
  | .raw bytes => .string (lowerHex bytes)

/-- The string `toString` builds for the field fits `kMaxLength`. -/
def WireField.decodable : WireField → Bool
  | .str value _ => (utf8Encode value).length ≤ kMaxLength
  | .raw bytes => 2 * bytes.length ≤ kMaxLength
  | _ => true

/-- The calls in order, stopping at the first that throws: the values, the error, the parser. -/
def readAll (parser : MessageParser) : List Read → List Value × Option JsError × MessageParser
  | [] => ([], none, parser)
  | read :: reads =>
    match read.call parser with
    | (after, .ok value) =>
      let rest := readAll after reads
      (value :: rest.1, rest.2.1, rest.2.2)
    | (after, .error thrown) => ([], some thrown, after)

/-- The bytes after the cursor. -/
def MessageParser.remaining (parser : MessageParser) : List UInt8 :=
  parser.data.drop parser.pointer

theorem length_remaining (parser : MessageParser) :
    parser.remaining.length = parser.data.length - parser.pointer := List.length_drop _ _

/-! ## One field -/

section Field

variable {parser : MessageParser} (inside : parser.pointer ≤ parser.data.length)
include inside


omit inside in
/-- The bytes the cursor is followed by, read through `Buffer.slice`. -/
theorem slice_of_remaining {bytes rest : List UInt8} (following : parser.remaining = bytes ++ rest) :
    parser.data.slice parser.pointer (parser.pointer + bytes.length) = bytes := by
  rw [Buffer.slice, Nat.add_sub_cancel_left]
  exact (congrArg (List.take bytes.length) following).trans (List.take_left' rfl)

theorem fits_of_remaining {bytes rest : List UInt8} (following : parser.remaining = bytes ++ rest) :
    parser.pointer + bytes.length ≤ parser.data.length := by
  have := congrArg List.length following
  rw [length_remaining, List.length_append] at this
  omega

omit inside in
/-- Moving the cursor past the bytes it was followed by. -/
theorem remaining_advance {bytes rest : List UInt8} (following : parser.remaining = bytes ++ rest) :
    ({ parser with pointer := parser.pointer + bytes.length } : MessageParser).remaining = rest := by
  simp only [MessageParser.remaining] at following ⊢
  rw [← List.drop_drop, following, List.drop_left]

omit inside in
/-- A `readFixed` call with room for its width and a successful read. -/
theorem readFixed_of_fits {α : Type} {width : Nat} {what : String}
    {read : Buffer → Nat → Except JsError α} {value : α}
    (fits : parser.pointer + width ≤ parser.data.length)
    (readOk : read parser.data parser.pointer = .ok value) :
    MessageParser.readFixed width what read parser = (⟨parser.data, parser.pointer + width⟩, .ok value) := by
  simp [MessageParser.readFixed, Nat.not_lt.mpr fits, readOk]

/-- A little-endian read of the bytes of an in-range value returns it. -/
theorem readLE_leBytes {width value : Nat} (small : value < 256 ^ width) {rest : List UInt8}
    (following : parser.remaining = leBytes width value ++ rest) :
    parser.data.readLE width parser.pointer = .ok value := by
  have fits := fits_of_remaining inside following
  have slice := slice_of_remaining following
  rw [length_leBytes] at fits slice
  simp [Buffer.readLE, Nat.not_lt.mpr fits, slice, leValue_leBytes_of_lt small]

/-- **A decodable field whose whole encoding follows the cursor is read back.** -/
theorem field_call_of_encoded (field : WireField) (decodable : field.decodable = true)
    {rest : List UInt8} (following : parser.remaining = field.encode ++ rest) :
    field.read.call parser = (⟨parser.data, parser.pointer + field.encode.length⟩, .ok field.value) := by
  have fits := fits_of_remaining inside following
  cases field with
  | u8 value small =>
    simp only [WireField.encode, length_leBytes] at following fits ⊢
    simp [WireField.read, Read.call, MessageParser.int8, Buffer.readUInt8, WireField.value,
      readFixed_of_fits fits (readLE_leBytes inside small following), Except.map]
  | u32 value small =>
    simp only [WireField.encode, length_leBytes] at following fits ⊢
    simp [WireField.read, Read.call, MessageParser.int32, Buffer.readUInt32LE, WireField.value,
      readFixed_of_fits fits (readLE_leBytes inside small following), Except.map]
  | u64 value small =>
    simp only [WireField.encode, length_leBytes] at following fits ⊢
    simp [WireField.read, Read.call, MessageParser.int64, Buffer.readBigUInt64LE, WireField.value,
      readFixed_of_fits fits (readLE_leBytes inside small following), Except.map]
  | str value short =>
    simp only [WireField.encode, List.append_assoc] at following
    simp only [WireField.encode, List.length_append, length_leBytes] at fits ⊢
    have lengthOk := readLE_leBytes inside
      (show (utf8Encode value).length < 256 ^ 4 from Nat.lt_of_lt_of_eq short rfl) following
    have payload := remaining_advance following
    rw [length_leBytes] at payload
    have prefixFits : ¬ parser.data.length < parser.pointer + 4 := by omega
    have payloadFits : ¬ parser.data.length < parser.pointer + (4 + (utf8Encode value).length) := by
      omega
    have slice : parser.data.slice (parser.pointer + 4) (parser.pointer + (4 + (utf8Encode value).length))
        = utf8Encode value := by
      rw [← Nat.add_assoc]
      exact slice_of_remaining payload
    have fitsString : ¬ kMaxLength < (utf8Encode value).length := by
      simpa [WireField.decodable] using decodable
    simp [WireField.read, Read.call, MessageParser.str, Buffer.readUInt32LE, lengthOk,
      prefixFits, payloadFits, Buffer.toStringUtf8, slice, fitsString, utf8Decode_utf8Encode,
      WireField.value, Except.map, Nat.add_assoc]
  | raw bytes =>
    simp only [WireField.encode] at following fits ⊢
    have fitsHex : ¬ kMaxLength < 2 * bytes.length := by simpa [WireField.decodable] using decodable
    simp [WireField.read, Read.call, MessageParser.rawHexStr, MessageParser.readFixed,
      Nat.not_lt.mpr fits, Buffer.toStringHex, slice_of_remaining following, fitsHex,
      toHex_eq_lowerHex, WireField.value, Except.map]

omit inside in
/-- The length prefix `str` reads when the buffer holds at least a string's 4-byte prefix. -/
theorem declaredLength_of_prefix {value : String} {short : (utf8Encode value).length < 2 ^ 32}
    (truncated : parser.remaining = (WireField.str value short).encode.take parser.remaining.length)
    (long : 4 ≤ parser.remaining.length) :
    declaredLength parser = (utf8Encode value).length := by
  have firstFour : parser.remaining.take 4 = leBytes 4 (utf8Encode value).length := by
    rw [truncated, List.take_take, Nat.min_eq_left long, WireField.encode]
    exact List.take_left' (length_leBytes 4 _)
  rw [declaredLength, Buffer.slice, Nat.add_sub_cancel_left]
  exact (congrArg leValue firstFour).trans
    (leValue_leBytes_of_lt (Nat.lt_of_lt_of_eq short rfl))

omit inside in
/-- A field the buffer ends inside needs more than the buffer has left. -/
theorem remaining_lt_width (field : WireField)
    (truncated : parser.remaining = field.encode.take parser.remaining.length)
    (short : parser.remaining.length < field.encode.length) :
    parser.remaining.length < field.read.width parser := by
  cases field with
  | str value small =>
    by_cases long : 4 ≤ parser.remaining.length
    · rw [WireField.read, Read.width, declaredLength_of_prefix truncated long]
      simpa [WireField.encode] using short
    · simp only [WireField.read, Read.width]
      omega
  | _ => simpa [WireField.encode, WireField.read, Read.width] using short

/-- **A field the buffer ends inside throws `Buffer underflow`.** -/
theorem field_call_of_truncated (field : WireField)
    (truncated : parser.remaining = field.encode.take parser.remaining.length)
    (short : parser.remaining.length < field.encode.length) :
    ∃ thrown, (field.read.call parser).2 = .error thrown ∧ thrown.IsUnderflow := by
  have spec := call_spec inside field.read
  have needed := remaining_lt_width field truncated short
  rw [length_remaining] at needed
  cases outcome : (field.read.call parser).2 with
  | error thrown =>
    refine ⟨thrown, rfl, (spec.errors thrown outcome).resolve_right ?_⟩
    rintro ⟨-, -, fits⟩
    omega
  | ok value =>
    have advanced := spec.advanced value outcome
    have fits := spec.in_bounds
    omega

end Field

/-! ## Whole messages -/

@[simp] theorem encodeFields_cons (field : WireField) (fields : List WireField) :
    encodeFields (field :: fields) = field.encode ++ encodeFields fields := rfl

/-- A call that returned lets `readAll` go on from where it left the cursor. -/
theorem readAll_cons_of_ok {parser after : MessageParser} {read : Read} {reads : List Read}
    {value : Value} (returned : read.call parser = (after, .ok value)) :
    readAll parser (read :: reads) =
      (value :: (readAll after reads).1, (readAll after reads).2.1, (readAll after reads).2.2) := by
  rw [readAll, returned]

/-- A call that threw ends `readAll` with its error. -/
theorem readAll_cons_of_error {parser : MessageParser} {read : Read} {reads : List Read}
    {thrown : JsError} (failed : (read.call parser).2 = .error thrown) :
    readAll parser (read :: reads) = ([], some thrown, (read.call parser).1) := by
  rcases call : read.call parser with ⟨after, outcome⟩
  rw [call] at failed
  subst failed
  rw [readAll, call]

/-- **Every field of an encoding is read back**, and the cursor ends after the encoding. -/
theorem readAll_encodeFields : ∀ (fields : List WireField) {parser : MessageParser}
    {rest : List UInt8}, (∀ field ∈ fields, field.decodable = true) →
    parser.pointer ≤ parser.data.length → parser.remaining = encodeFields fields ++ rest →
    readAll parser (fields.map WireField.read) =
      (fields.map WireField.value, none, ⟨parser.data, parser.pointer + (encodeFields fields).length⟩)
  | [], _, _, _, _, _ => by simp [readAll, encodeFields]
  | field :: fields, parser, rest, decodable, inside, following => by
    rw [encodeFields_cons, List.append_assoc] at following
    have advanced := remaining_advance following
    have inside' := fits_of_remaining inside following
    rw [List.map_cons, readAll_cons_of_ok
        (field_call_of_encoded inside field (decodable field (List.mem_cons_self _ _)) following),
      readAll_encodeFields fields (fun other member => decodable other (List.mem_cons_of_mem _ member))
        inside' advanced]
    simp [Nat.add_assoc]

/-- **Over a strict prefix of an encoding**, the fields wholly inside it are read back and the
next call throws `Buffer underflow`. -/
theorem readAll_truncated : ∀ (fields : List WireField) {parser : MessageParser},
    (∀ field ∈ fields, field.decodable = true) → parser.pointer ≤ parser.data.length →
    parser.remaining = (encodeFields fields).take parser.remaining.length →
    parser.remaining.length < (encodeFields fields).length →
    ∃ pre field post, fields = pre ++ field :: post ∧
      (encodeFields pre).length ≤ parser.remaining.length ∧
      parser.remaining.length < (encodeFields pre).length + field.encode.length ∧
      (readAll parser (fields.map WireField.read)).1 = pre.map WireField.value ∧
      ∃ thrown, (readAll parser (fields.map WireField.read)).2.1 = some thrown ∧ thrown.IsUnderflow
  | [], _, _, _, _, short => absurd short (by simp [encodeFields])
  | field :: fields, parser, decodable, inside, truncated, short => by
    rw [encodeFields_cons, List.take_append_eq_append_take] at truncated
    rw [encodeFields_cons, List.length_append] at short
    by_cases whole : field.encode.length ≤ parser.remaining.length
    · rw [List.take_of_length_le whole] at truncated
      have advanced := remaining_advance truncated
      have inside' := fits_of_remaining inside truncated
      have restLength := congrArg List.length truncated
      rw [List.length_append, List.length_take] at restLength
      have returned := field_call_of_encoded inside field (decodable field (List.mem_cons_self _ _))
        truncated
      obtain ⟨pre, broken, post, split, low, high, values, thrown, failed, underflowed⟩ :=
        readAll_truncated fields (fun other member => decodable other (List.mem_cons_of_mem _ member))
          inside' (by rw [advanced, List.length_take]; congr 1; omega)
          (by rw [advanced, List.length_take]; omega)
      rw [advanced, List.length_take] at low high
      refine ⟨field :: pre, broken, post, by rw [split]; rfl, by simp; omega, by simp; omega, ?_,
        thrown, ?_, underflowed⟩
      · rw [List.map_cons, readAll_cons_of_ok returned, values]
        rfl
      · rw [List.map_cons, readAll_cons_of_ok returned]
        exact failed
    · have cut : parser.remaining = field.encode.take parser.remaining.length := by
        rwa [Nat.sub_eq_zero_of_le (by omega), List.take_zero, List.append_nil] at truncated
      obtain ⟨thrown, failed, underflowed⟩ :=
        field_call_of_truncated inside field cut (by omega)
      refine ⟨[], field, fields, rfl, by simp [encodeFields], by simp [encodeFields]; omega, ?_,
        thrown, ?_, underflowed⟩ <;>
        simp only [List.map_cons, List.map_nil, readAll_cons_of_error failed]

/-- **`MessageParser` decodes every well-formed encoding of decodable fields and rejects every
truncated one.** Over `encodeFields fields ++ rest` the calls return every field's value and leave
the cursor at the end of the encoding. Over any strict prefix of the encoding, cut inside the field
`broken`, the calls return the values of the fields before it, and `broken`'s call throws
`Buffer underflow`. -/
theorem messageParser_decodes_encoding (fields : List WireField) (rest : List UInt8)
    (decodable : ∀ field ∈ fields, field.decodable = true) :
    readAll ⟨encodeFields fields ++ rest, 0⟩ (fields.map WireField.read) =
        (fields.map WireField.value, none,
          ⟨encodeFields fields ++ rest, (encodeFields fields).length⟩) ∧
      ∀ cut < (encodeFields fields).length, ∃ pre broken post, fields = pre ++ broken :: post ∧
        (encodeFields pre).length ≤ cut ∧ cut < (encodeFields pre).length + broken.encode.length ∧
        (readAll ⟨(encodeFields fields).take cut, 0⟩ (fields.map WireField.read)).1 =
          pre.map WireField.value ∧
        ∃ thrown, (readAll ⟨(encodeFields fields).take cut, 0⟩
          (fields.map WireField.read)).2.1 = some thrown ∧ thrown.IsUnderflow := by
  have whole := readAll_encodeFields fields decodable (Nat.zero_le _)
    (show (⟨encodeFields fields ++ rest, 0⟩ : MessageParser).remaining = _ ++ rest from
      List.drop_zero _)
  refine ⟨by simpa using whole, fun cut strict => ?_⟩
  have cutLength : ((encodeFields fields).take cut).length = cut := by simp; omega
  have truncated := readAll_truncated fields decodable
    (show (⟨(encodeFields fields).take cut, 0⟩ : MessageParser).pointer ≤ _ from Nat.zero_le _)
    (by simp [MessageParser.remaining, cutLength])
    (by simpa [MessageParser.remaining, cutLength] using strict)
  simpa [MessageParser.remaining, cutLength] using truncated

/-- A byte, a two-byte string and a raw span. -/
def sampleFields : List WireField := [.u8 7 (by decide), .str "hé" (by decide), .raw [0xAB, 0x01]]

theorem messageParser_decodes_encoding_sample :
    (∀ field ∈ sampleFields, field.decodable = true) ∧
      readAll ⟨encodeFields sampleFields ++ [], 0⟩ (sampleFields.map WireField.read) =
          (sampleFields.map WireField.value, none,
            ⟨encodeFields sampleFields ++ [], (encodeFields sampleFields).length⟩) ∧
        ∀ cut < (encodeFields sampleFields).length, ∃ pre broken post,
          sampleFields = pre ++ broken :: post ∧ (encodeFields pre).length ≤ cut ∧
          cut < (encodeFields pre).length + broken.encode.length ∧
          (readAll ⟨(encodeFields sampleFields).take cut, 0⟩ (sampleFields.map WireField.read)).1 =
            pre.map WireField.value ∧
          ∃ thrown, (readAll ⟨(encodeFields sampleFields).take cut, 0⟩
            (sampleFields.map WireField.read)).2.1 = some thrown ∧ thrown.IsUnderflow :=
  have decodable : ∀ field ∈ sampleFields, field.decodable = true := by decide
  ⟨decodable, messageParser_decodes_encoding sampleFields [] decodable⟩

/-- **A raw span whose hex would pass `kMaxLength` is not read back**: its `rawHexStr` throws
`ERR_STRING_TOO_LONG`, with the cursor where it was. -/
theorem readAll_long_raw_span (bytes : List UInt8) (long : kMaxLength < 2 * bytes.length) :
    readAll ⟨encodeFields [.raw bytes], 0⟩ ([WireField.raw bytes].map WireField.read) =
      ([], some stringTooLong, ⟨encodeFields [.raw bytes], 0⟩) := by
  have fits : (⟨encodeFields [.raw bytes], 0⟩ : MessageParser).pointer + bytes.length ≤
      (⟨encodeFields [.raw bytes], 0⟩ : MessageParser).data.length := by
    simp [encodeFields, WireField.encode]
  have call := rawHexStr_of_tooLong fits long
  have failed : ((Read.rawHexStr bytes.length).call ⟨encodeFields [.raw bytes], 0⟩).2 =
      .error stringTooLong := by
    simp only [Read.call, call]
    rfl
  rw [List.map_cons, List.map_nil, WireField.read, readAll_cons_of_error failed]
  simp only [Read.call, call]

/-- A message of one raw span of 268,435,445 zero bytes. -/
theorem messageParser_long_raw_span_throws :
    readAll ⟨encodeFields [.raw (List.replicate 268435445 0)], 0⟩
        ([WireField.raw (List.replicate 268435445 0)].map WireField.read) =
      ([], some stringTooLong, ⟨encodeFields [.raw (List.replicate 268435445 0)], 0⟩) :=
  readAll_long_raw_span _ (by rw [List.length_replicate]; decide)

end Lidify.Wire
