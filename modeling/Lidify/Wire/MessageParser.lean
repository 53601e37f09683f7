import Lidify.Wire.Bytes
/-
**`MessageParser`: a cursor over a `Buffer` that never leaves it.**

The parser keeps the buffer and a `pointer`. `int8`, `int32` and `int64` check
`pointer + width > data.length`, read, and advance; `rawHexStr(size)` does the same with
`toString('hex')`; these four are one definition, `readFixed`, at their own width, message and
read. `str` checks for the 4-byte length, reads it, advances past it, and only then checks for the
payload, so a `str` that fails on its payload has already moved the cursor by 4.

A call returns the parser after it and what it returned or threw (`Except JsError`). The `Buffer`
reads throw Node's `RangeError` past the end; `toString` clamps its range, and throws
`ERR_STRING_TOO_LONG` when the string it would build passes V8's `String::kMaxLength`.

* `readFixed_spec`, `str_spec` — one call from a cursor inside the buffer: the cursor stays inside,
  an error is the parser's own `Buffer underflow` or, for a read that fits but whose string would
  be too long (`Read.tooLong`), `ERR_STRING_TOO_LONG`; a success advances by the call's width, and
  a failed `readFixed` call leaves the cursor where it was.
* `messageParser_cursor_in_bounds` — hence for any buffer and any sequence of calls, continuing
  after calls that throw, every call satisfies all of this.
* `rawHexStr_of_tooLong` — a `rawHexStr(size)` that fits, with `2 * size > kMaxLength`, throws
  `ERR_STRING_TOO_LONG`.
-/

namespace Lidify.Wire

/-- A Node `Buffer`. -/
abbrev Buffer := List UInt8

/-- What a call throws: an `Error` with its message, a `Buffer` read's `RangeError`, or an `Error`
Node's native layer throws with its `code`. -/
inductive JsError
  | error (message : String)
  | rangeError (code : String)
  | nodeError (code : String)
  deriving DecidableEq, Repr

/-- V8's `String::kMaxLength` on 64-bit builds (`buffer.constants.MAX_STRING_LENGTH`). -/
def kMaxLength : Nat := 2 ^ 29 - 24

/-- What `toString` throws for a string longer than `kMaxLength`. -/
def stringTooLong : JsError := .nodeError "ERR_STRING_TOO_LONG"

/-- The bytes from `start` up to `stop`, clamped to the buffer as `toString` clamps them. -/
def Buffer.slice (data : Buffer) (start stop : Nat) : List UInt8 :=
  (data.drop start).take (stop - start)

/-- A little-endian read of `width` bytes at `offset`; past the end, Node throws `RangeError`. -/
def Buffer.readLE (width : Nat) (data : Buffer) (offset : Nat) : Except JsError Nat :=
  if offset + width > data.length then .error (.rangeError "ERR_OUT_OF_RANGE")
  else .ok (leValue (data.slice offset (offset + width)))

/-- `buf.readUInt8(offset)`. -/
def Buffer.readUInt8 : Buffer → Nat → Except JsError Nat := Buffer.readLE 1

/-- `buf.readUInt32LE(offset)`. -/
def Buffer.readUInt32LE : Buffer → Nat → Except JsError Nat := Buffer.readLE 4

/-- `buf.readBigUInt64LE(offset)`. -/
def Buffer.readBigUInt64LE : Buffer → Nat → Except JsError Nat := Buffer.readLE 8

/-- `buf.toString('utf8', start, stop)`: V8's `NewFromUtf8` refuses more than `kMaxLength` bytes. -/
def Buffer.toStringUtf8 (data : Buffer) (start stop : Nat) : Except JsError String :=
  if (data.slice start stop).length > kMaxLength then .error stringTooLong
  else .ok ⟨utf8Decode (data.slice start stop)⟩

/-- `buf.toString('hex', start, stop)`: two characters per byte, at most `kMaxLength` of them. -/
def Buffer.toStringHex (data : Buffer) (start stop : Nat) : Except JsError String :=
  if 2 * (data.slice start stop).length > kMaxLength then .error stringTooLong
  else .ok (toHex (data.slice start stop))

/-- The parser: the buffer and the cursor. -/
structure MessageParser where
  data : Buffer
  pointer : Nat
  deriving DecidableEq, Repr

/-- `new Error('Buffer underflow: cannot read ' + what)`. -/
def underflow (what : String) : JsError := .error ("Buffer underflow: cannot read " ++ what)

/-- One of the parser's own underflow errors. -/
def JsError.IsUnderflow (thrown : JsError) : Prop := ∃ what, thrown = underflow what

namespace MessageParser

/-- The shape of `int8`, `int32`, `int64` and `rawHexStr`: check, read at the cursor, advance. -/
def readFixed {α : Type} (width : Nat) (what : String) (read : Buffer → Nat → Except JsError α)
    (parser : MessageParser) : MessageParser × Except JsError α :=
  if parser.pointer + width > parser.data.length then (parser, .error (underflow what))
  else match read parser.data parser.pointer with
    | .ok value => ({ parser with pointer := parser.pointer + width }, .ok value)
    | .error thrown => (parser, .error thrown)

/-- `int8()`. -/
def int8 (parser : MessageParser) : MessageParser × Except JsError Nat :=
  readFixed 1 "int8" Buffer.readUInt8 parser

/-- `int32()`. -/
def int32 (parser : MessageParser) : MessageParser × Except JsError Nat :=
  readFixed 4 "int32" Buffer.readUInt32LE parser

/-- `int64()`. -/
def int64 (parser : MessageParser) : MessageParser × Except JsError Nat :=
  readFixed 8 "int64" Buffer.readBigUInt64LE parser

/-- `rawHexStr(size)`. -/
def rawHexStr (parser : MessageParser) (size : Nat) : MessageParser × Except JsError String :=
  readFixed size "raw hex string" (fun data offset => data.toStringHex offset (offset + size)) parser

/-- `str()`: the length prefix, then the payload. -/
def str (parser : MessageParser) : MessageParser × Except JsError String :=
  if parser.pointer + 4 > parser.data.length then (parser, .error (underflow "string length"))
  else match parser.data.readUInt32LE parser.pointer with
    | .error thrown => (parser, .error thrown)
    | .ok size =>
      let advanced := { parser with pointer := parser.pointer + 4 }
      if advanced.pointer + size > advanced.data.length then
        (advanced, .error (underflow "string data"))
      else match advanced.data.toStringUtf8 advanced.pointer (advanced.pointer + size) with
        | .ok text => ({ advanced with pointer := advanced.pointer + size }, .ok text)
        | .error thrown => (advanced, .error thrown)

end MessageParser

/-! ## One call -/

/-- What one call from `before` did, given the width a success consumes and when its string would
be too long. -/
structure CallSpec {α : Type} (before : MessageParser) (width : Nat) (tooLong : Prop)
    (call : MessageParser × Except JsError α) : Prop where
  data_eq : call.1.data = before.data
  in_bounds : call.1.pointer ≤ before.data.length
  errors : ∀ thrown, call.2 = .error thrown → thrown.IsUnderflow ∨
    (thrown = stringTooLong ∧ tooLong ∧ before.pointer + width ≤ before.data.length)
  advanced : ∀ value, call.2 = .ok value → call.1.pointer = before.pointer + width

/-- Where the bytes are there, a `Buffer` read at this width throws only `ERR_STRING_TOO_LONG`,
and only when `tooLong` holds. -/
def ReadsInBounds {α : Type} (width : Nat) (tooLong : Prop)
    (read : Buffer → Nat → Except JsError α) : Prop :=
  ∀ data offset, offset + width ≤ data.length → ∀ thrown, read data offset = .error thrown →
    thrown = stringTooLong ∧ tooLong

theorem length_slice {data : Buffer} {offset width : Nat} (fits : offset + width ≤ data.length) :
    (data.slice offset (offset + width)).length = width := by
  simp only [Buffer.slice, List.length_take, List.length_drop, Nat.add_sub_cancel_left]
  omega

theorem readLE_inBounds (width : Nat) : ReadsInBounds width False (Buffer.readLE width) :=
  fun data offset fits _ failed => by simp [Buffer.readLE, Nat.not_lt.mpr fits] at failed

theorem toStringHex_inBounds (size : Nat) : ReadsInBounds size (kMaxLength < 2 * size)
    (fun data offset => data.toStringHex offset (offset + size)) := by
  intro data offset fits thrown failed
  simp only [Buffer.toStringHex, length_slice fits] at failed
  split at failed
  case isTrue long => exact ⟨(Except.error.inj failed).symm, long⟩
  case isFalse => cases failed

section Fixed

variable {α : Type} {width : Nat} {tooLong : Prop} {what : String}
  {read : Buffer → Nat → Except JsError α} {before : MessageParser}

/-- **The family lemma**: a `readFixed` call from a cursor inside the buffer. -/
theorem readFixed_spec (inBounds : ReadsInBounds width tooLong read)
    (inside : before.pointer ≤ before.data.length) :
    CallSpec before width tooLong (MessageParser.readFixed width what read before) := by
  unfold MessageParser.readFixed
  split
  case isTrue short => exact ⟨rfl, inside,
    fun _ thrown => .inl ⟨what, (Except.error.inj thrown).symm⟩, fun _ returned => by cases returned⟩
  case isFalse fits =>
    have fits : before.pointer + width ≤ before.data.length := by omega
    cases readOk : read before.data before.pointer with
    | ok value => exact ⟨rfl, (by simp only; omega), fun _ thrown => (by cases thrown),
        fun _ _ => rfl⟩
    | error thrown =>
      obtain ⟨tooLongError, long⟩ := inBounds _ _ fits thrown readOk
      exact ⟨rfl, inside, fun _ failed => .inr ⟨(Except.error.inj failed) ▸ tooLongError, long, fits⟩,
        fun _ returned => by cases returned⟩

/-- A failed `readFixed` call leaves the cursor where it was. -/
theorem readFixed_pointer_of_error {thrown : JsError}
    (failed : (MessageParser.readFixed width what read before).2 = .error thrown) :
    (MessageParser.readFixed width what read before).1 = before := by
  unfold MessageParser.readFixed at failed ⊢
  split
  · rfl
  · split
    · simp_all
    · rfl

end Fixed

/-- **A `rawHexStr` whose span is there but whose hex would pass `kMaxLength` throws
`ERR_STRING_TOO_LONG`**, leaving the cursor where it was. -/
theorem rawHexStr_of_tooLong {parser : MessageParser} {size : Nat}
    (fits : parser.pointer + size ≤ parser.data.length) (long : kMaxLength < 2 * size) :
    parser.rawHexStr size = (parser, .error stringTooLong) := by
  simp [MessageParser.rawHexStr, MessageParser.readFixed, Nat.not_lt.mpr fits, Buffer.toStringHex,
    length_slice fits, long]

/-- The length `str` reads from its 4-byte prefix. -/
def declaredLength (parser : MessageParser) : Nat :=
  leValue (parser.data.slice parser.pointer (parser.pointer + 4))

/-- **`str` from a cursor inside the buffer**, consuming `4 + declaredLength` on success. -/
theorem str_spec {before : MessageParser} (inside : before.pointer ≤ before.data.length) :
    CallSpec before (4 + declaredLength before) (kMaxLength < declaredLength before) before.str := by
  unfold MessageParser.str
  split
  case isTrue short => exact ⟨rfl, inside, fun _ thrown => .inl ⟨_, (Except.error.inj thrown).symm⟩,
    fun _ returned => by cases returned⟩
  case isFalse fits =>
    have readOk : before.data.readUInt32LE before.pointer = .ok (declaredLength before) := by
      simp [Buffer.readUInt32LE, Buffer.readLE, declaredLength, Nat.not_lt.mp fits]
    rw [readOk]
    dsimp only
    split
    case isTrue short => exact ⟨rfl, (by simp only; omega),
      fun _ thrown => .inl ⟨_, (Except.error.inj thrown).symm⟩, fun _ returned => by cases returned⟩
    case isFalse fitsPayload =>
      have payload : before.pointer + 4 + declaredLength before ≤ before.data.length := by omega
      unfold Buffer.toStringUtf8
      rw [length_slice payload]
      by_cases long : kMaxLength < declaredLength before
      · rw [if_pos long]
        exact ⟨rfl, (by simp only; omega), fun _ thrown => .inr
          ⟨(Except.error.inj thrown).symm, long, by omega⟩, fun _ returned => by cases returned⟩
      · rw [if_neg long]
        exact ⟨rfl, (by simp only; omega), fun _ thrown => (by cases thrown),
          fun _ _ => by simp only; omega⟩

/-! ## Any sequence of calls -/

/-- What a call returns: a `number`, a `bigint`, or a `string`. -/
inductive Value
  | number (value : Nat)
  | bigint (value : Nat)
  | string (value : String)
  deriving DecidableEq, Repr

/-- A call on the parser. -/
inductive Read
  | int8
  | int32
  | int64
  | str
  | rawHexStr (size : Nat)
  deriving DecidableEq, Repr

/-- Make the call. -/
def Read.call (parser : MessageParser) : Read → MessageParser × Except JsError Value
  | .int8 => (parser.int8.1, parser.int8.2.map .number)
  | .int32 => (parser.int32.1, parser.int32.2.map .number)
  | .int64 => (parser.int64.1, parser.int64.2.map .bigint)
  | .str => (parser.str.1, parser.str.2.map .string)
  | .rawHexStr size => ((parser.rawHexStr size).1, (parser.rawHexStr size).2.map .string)

/-- When a call's `toString` would build a string longer than `kMaxLength`: the hex of `size`
bytes, or a declared length of more than `kMaxLength` bytes of UTF-8. -/
def Read.tooLong (parser : MessageParser) : Read → Prop
  | .rawHexStr size => kMaxLength < 2 * size
  | .str => kMaxLength < declaredLength parser
  | _ => False

/-- How far a successful call moves the cursor: `1`, `4`, `8`, `4 + declared length`, `size`. -/
def Read.width (parser : MessageParser) : Read → Nat
  | .int8 => 1
  | .int32 => 4
  | .int64 => 8
  | .str => 4 + declaredLength parser
  | .rawHexStr size => size

/-- Calls made one after another, each whatever the one before it threw. -/
def callAll (parser : MessageParser) : List Read → MessageParser
  | [] => parser
  | read :: reads => callAll (read.call parser).1 reads

theorem CallSpec.map {α β : Type} {before : MessageParser} {width : Nat} {tooLong : Prop}
    {call : MessageParser × Except JsError α} (spec : CallSpec before width tooLong call)
    (f : α → β) : CallSpec before width tooLong (call.1, call.2.map f) where
  data_eq := spec.data_eq
  in_bounds := spec.in_bounds
  errors thrown failed := spec.errors thrown (by
    cases outcome : call.2 <;> simp_all [Except.map])
  advanced value succeeded := by
    cases outcome : call.2 with
    | error thrown => simp [outcome, Except.map] at succeeded
    | ok returned => exact spec.advanced returned outcome

/-- **Every call from a cursor inside the buffer** meets its `CallSpec`. -/
theorem call_spec {before : MessageParser} (inside : before.pointer ≤ before.data.length)
    (read : Read) : CallSpec before (read.width before) (read.tooLong before) (read.call before) := by
  cases read with
  | int8 => exact (readFixed_spec (readLE_inBounds 1) inside).map _
  | int32 => exact (readFixed_spec (readLE_inBounds 4) inside).map _
  | int64 => exact (readFixed_spec (readLE_inBounds 8) inside).map _
  | str => exact (str_spec inside).map _
  | rawHexStr size => exact (readFixed_spec (toStringHex_inBounds size) inside).map _

theorem except_map_eq_error {ε α β : Type} {outcome : Except ε α} {f : α → β} {thrown : ε}
    (failed : outcome.map f = .error thrown) : outcome = .error thrown := by
  cases outcome <;> simp_all [Except.map]

/-- A failed call other than `str` leaves the cursor where it was. -/
theorem call_pointer_of_error {before : MessageParser} {read : Read} (notStr : read ≠ .str)
    {thrown : JsError} (failed : (read.call before).2 = .error thrown) :
    (read.call before).1 = before := by
  cases read with
  | str => exact absurd rfl notStr
  | int8 | int32 | int64 | rawHexStr =>
    simp only [Read.call, MessageParser.int8, MessageParser.int32, MessageParser.int64,
      MessageParser.rawHexStr] at failed ⊢
    exact readFixed_pointer_of_error (except_map_eq_error failed)

/-- Calls from a cursor inside the buffer keep the buffer and keep the cursor inside. -/
theorem callAll_inside {parser : MessageParser} (inside : parser.pointer ≤ parser.data.length) :
    ∀ reads, (callAll parser reads).data = parser.data ∧
      (callAll parser reads).pointer ≤ parser.data.length
  | [] => ⟨rfl, inside⟩
  | read :: reads => by
    have spec := call_spec inside read
    have next := @callAll_inside (read.call parser).1
      (by rw [spec.data_eq]; exact spec.in_bounds) reads
    rw [spec.data_eq] at next
    exact next

/-- **The cursor stays in bounds on any input.** On any buffer, after any sequence of calls
(continuing after calls that throw), the cursor is inside the buffer, and the next call keeps it
there; it throws the parser's own underflow error, or `ERR_STRING_TOO_LONG` when its bytes are
there but its string would pass `kMaxLength`, and never a `RangeError`; it advances by exactly its
width when it succeeds, and — unless it is `str`, which may fail after consuming the length prefix
— leaves the cursor where it was when it fails. -/
theorem messageParser_cursor_in_bounds (data : Buffer) (earlier : List Read) (read : Read) :
    (callAll ⟨data, 0⟩ earlier).data = data ∧ (callAll ⟨data, 0⟩ earlier).pointer ≤ data.length ∧
      CallSpec (callAll ⟨data, 0⟩ earlier) (read.width (callAll ⟨data, 0⟩ earlier))
        (read.tooLong (callAll ⟨data, 0⟩ earlier)) (read.call (callAll ⟨data, 0⟩ earlier)) ∧
      (read ≠ .str → ∀ thrown, (read.call (callAll ⟨data, 0⟩ earlier)).2 = .error thrown →
        (read.call (callAll ⟨data, 0⟩ earlier)).1 = callAll ⟨data, 0⟩ earlier) := by
  obtain ⟨sameData, inside⟩ := @callAll_inside ⟨data, 0⟩ (Nat.zero_le _) earlier
  refine ⟨sameData, inside, call_spec (by rw [sameData]; exact inside) read,
    fun notStr _ failed => call_pointer_of_error notStr failed⟩

/-- A `rawHexStr(268435445)` over a buffer of that many bytes throws `ERR_STRING_TOO_LONG`, not
`Buffer underflow`. -/
theorem rawHexStr_throws_stringTooLong :
    (Read.rawHexStr 268435445).call ⟨List.replicate 268435445 0, 0⟩ =
      (⟨List.replicate 268435445 0, 0⟩, .error stringTooLong) := by
  rw [Read.call, rawHexStr_of_tooLong
    (Nat.le_of_eq (by rw [List.length_replicate, Nat.zero_add])) (by decide)]
  rfl

end Lidify.Wire
