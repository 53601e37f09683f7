import Mathlib.Tactic.Common
import Mathlib.Data.Nat.Defs
import Mathlib.Algebra.Group.Nat.Basic
/-
**The byte-level reads `MessageParser` relies on: little-endian integers, UTF-8 text, hex.**

`MessageParser` (`workers/__tests__/dataCleanup.test.ts`) reads a Node `Buffer` with
`readUInt8`, `readUInt32LE`, `readBigUInt64LE` and `toString('utf8' | 'hex', start, end)`. A buffer
is a list of bytes; the integer reads are `leValue` of the bytes they cover (and throw Node's
`RangeError` past the end); `toString` clamps its range to the buffer and never throws.

* `leValue_leBytes` — `width` little-endian bytes of `n` read back as `n % 256 ^ width`.
* `utf8Decode` — Node's UTF-8 decoder, the Encoding Standard's machine (`utf8Step`): the
  well-formed sequences of Unicode's Table 3-7, and one `U+FFFD` per maximal subpart of an
  ill-formed one. `utf8Decode_utf8Encode` — every string reads back.
* `toHex` — two hex digits per byte; `toHex_eq_lowerHex` — they are the lowercase digits
  (`lowerHex`, read off the alphabet `0123456789abcdef`), high nibble first.
-/

namespace Lidify.Wire

/-! ## Little-endian integers -/

/-- The `width` little-endian bytes of `n`; bits above `8 * width` are dropped. -/
def leBytes : Nat → Nat → List UInt8
  | 0, _ => []
  | width + 1, n => UInt8.ofNat (n % 256) :: leBytes width (n / 256)

/-- The number whose little-endian bytes these are. -/
def leValue : List UInt8 → Nat
  | [] => 0
  | byte :: bytes => byte.toNat + 256 * leValue bytes

@[simp] theorem length_leBytes (width n : Nat) : (leBytes width n).length = width := by
  induction width generalizing n with
  | zero => rfl
  | succ width ih => simp [leBytes, ih]

theorem toNat_ofNat_mod_256 (n : Nat) : (UInt8.ofNat (n % 256)).toNat = n % 256 :=
  UInt8.toNat_ofNat_of_lt (Nat.mod_lt _ (by decide))

/-- **Little-endian round trip.** -/
theorem leValue_leBytes (width n : Nat) : leValue (leBytes width n) = n % 256 ^ width := by
  induction width generalizing n with
  | zero => simp [leBytes, leValue, Nat.mod_one]
  | succ width ih =>
    rw [leBytes, leValue, ih, toNat_ofNat_mod_256, Nat.pow_succ', Nat.mod_mul]

theorem leValue_leBytes_of_lt {width n : Nat} (small : n < 256 ^ width) :
    leValue (leBytes width n) = n := by
  rw [leValue_leBytes, Nat.mod_eq_of_lt small]

/-! ## UTF-8 -/

/-- The UTF-8 bytes of one scalar value. -/
def utf8EncodeChar (char : Char) : List UInt8 :=
  let n := char.toNat
  if n < 0x80 then [UInt8.ofNat n]
  else if n < 0x800 then [UInt8.ofNat (0xC0 + n / 64), UInt8.ofNat (0x80 + n % 64)]
  else if n < 0x10000 then
    [UInt8.ofNat (0xE0 + n / 4096), UInt8.ofNat (0x80 + n / 64 % 64), UInt8.ofNat (0x80 + n % 64)]
  else
    [UInt8.ofNat (0xF0 + n / 262144), UInt8.ofNat (0x80 + n / 4096 % 64),
      UInt8.ofNat (0x80 + n / 64 % 64), UInt8.ofNat (0x80 + n % 64)]

/-- The UTF-8 bytes of a string (`Buffer.from(s, 'utf8')`). -/
def utf8Encode (text : String) : List UInt8 := text.data.flatMap utf8EncodeChar

/-- What Node's UTF-8 decoder (the Encoding Standard's) holds between bytes: the code point read
so far, the continuation bytes still needed, and the range the next one must fall in. -/
structure Utf8State where
  codePoint : Nat
  needed : Nat
  lower : Nat
  upper : Nat
  deriving DecidableEq, Repr

/-- Between sequences. -/
def Utf8State.initial : Utf8State := ⟨0, 0, 0x80, 0xBF⟩

/-- `U+FFFD`, what the decoder puts for each maximal subpart of an ill-formed sequence. -/
def replacementChar : Char := Char.ofNat 0xFFFD

/-- A byte read between sequences: an ASCII character, the lead byte of a sequence (the bits it
carries, the continuation bytes it needs, and the range of the next one, narrowed after `E0`,
`ED`, `F0` and `F4` so that no overlong form, surrogate or code point past `U+10FFFF` is read),
or a byte no sequence starts with. -/
def utf8Lead (byte : Nat) : List Char × Utf8State :=
  if byte ≤ 0x7F then ([Char.ofNat byte], .initial)
  else if 0xC2 ≤ byte ∧ byte ≤ 0xDF then ([], ⟨byte - 0xC0, 1, 0x80, 0xBF⟩)
  else if 0xE0 ≤ byte ∧ byte ≤ 0xEF then
    ([], ⟨byte - 0xE0, 2, if byte = 0xE0 then 0xA0 else 0x80, if byte = 0xED then 0x9F else 0xBF⟩)
  else if 0xF0 ≤ byte ∧ byte ≤ 0xF4 then
    ([], ⟨byte - 0xF0, 3, if byte = 0xF0 then 0x90 else 0x80, if byte = 0xF4 then 0x8F else 0xBF⟩)
  else ([replacementChar], .initial)

/-- One byte. Inside a sequence, a byte outside the range it needs ends the sequence with one
`U+FFFD` and is read again as a lead byte; one inside adds its six bits. -/
def utf8Step (state : Utf8State) (byte : Nat) : List Char × Utf8State :=
  if state.needed = 0 then utf8Lead byte
  else if byte < state.lower ∨ state.upper < byte then
    (replacementChar :: (utf8Lead byte).1, (utf8Lead byte).2)
  else if state.needed = 1 then ([Char.ofNat (state.codePoint * 64 + (byte - 0x80))], .initial)
  else ([], ⟨state.codePoint * 64 + (byte - 0x80), state.needed - 1, 0x80, 0xBF⟩)

/-- The decoder from a state over the bytes left; a sequence the end cuts gives one `U+FFFD`. -/
def utf8DecodeFrom : Utf8State → List UInt8 → List Char
  | state, [] => if state.needed = 0 then [] else [replacementChar]
  | state, byte :: rest =>
    (utf8Step state byte.toNat).1 ++ utf8DecodeFrom (utf8Step state byte.toNat).2 rest

/-- Node's `toString('utf8')` on the given bytes. -/
def utf8Decode (bytes : List UInt8) : List Char := utf8DecodeFrom .initial bytes

theorem utf8DecodeFrom_cons (state : Utf8State) (byte : UInt8) (rest : List UInt8) :
    utf8DecodeFrom state (byte :: rest) =
      (utf8Step state byte.toNat).1 ++ utf8DecodeFrom (utf8Step state byte.toNat).2 rest := rfl

theorem utf8Step_initial (byte : Nat) : utf8Step .initial byte = utf8Lead byte := rfl

theorem utf8Lead_two {byte : Nat} (low : 0xC2 ≤ byte) (high : byte ≤ 0xDF) :
    utf8Lead byte = ([], ⟨byte - 0xC0, 1, 0x80, 0xBF⟩) := by
  rw [utf8Lead, if_neg (by omega), if_pos ⟨low, high⟩]

theorem utf8Lead_three {byte : Nat} (low : 0xE0 ≤ byte) (high : byte ≤ 0xEF) :
    utf8Lead byte = ([], ⟨byte - 0xE0, 2, if byte = 0xE0 then 0xA0 else 0x80,
      if byte = 0xED then 0x9F else 0xBF⟩) := by
  rw [utf8Lead, if_neg (by omega), if_neg (by omega), if_pos ⟨low, high⟩]

theorem utf8Lead_four {byte : Nat} (low : 0xF0 ≤ byte) (high : byte ≤ 0xF4) :
    utf8Lead byte = ([], ⟨byte - 0xF0, 3, if byte = 0xF0 then 0x90 else 0x80,
      if byte = 0xF4 then 0x8F else 0xBF⟩) := by
  rw [utf8Lead, if_neg (by omega), if_neg (by omega), if_neg (by omega), if_pos ⟨low, high⟩]

theorem toNat_ofNat_of_lt {n : Nat} (small : n < 256) : (UInt8.ofNat n).toNat = n :=
  UInt8.toNat_ofNat_of_lt small

/-- A scalar value is a valid character code. -/
theorem isValidChar_toNat (char : Char) : char.toNat.isValidChar := char.valid

/-- The continuation byte that carries six bits. -/
theorem continuation_toNat (bits : Nat) :
    (UInt8.ofNat (0x80 + bits % 64)).toNat = 0x80 + bits % 64 :=
  toNat_ofNat_of_lt (by omega)

/-! ### The steps an encoded scalar value takes the decoder through -/

theorem utf8DecodeFrom_ascii {n : Nat} (ascii : n < 0x80) (rest : List UInt8) :
    utf8DecodeFrom .initial (UInt8.ofNat n :: rest) = Char.ofNat n :: utf8DecodeFrom .initial rest := by
  rw [utf8DecodeFrom_cons, toNat_ofNat_of_lt (by omega), utf8Step_initial, utf8Lead,
    if_pos (by omega)]
  rfl

theorem utf8DecodeFrom_lead_two {n : Nat} (low : 0x80 ≤ n) (high : n < 0x800) (rest : List UInt8) :
    utf8DecodeFrom .initial (UInt8.ofNat (0xC0 + n / 64) :: rest) =
      utf8DecodeFrom ⟨n / 64, 1, 0x80, 0xBF⟩ rest := by
  rw [utf8DecodeFrom_cons, toNat_ofNat_of_lt (by omega), utf8Step_initial,
    utf8Lead_two (by omega) (by omega), Nat.add_sub_cancel_left]
  rfl

/-- The lead byte of a three-byte sequence and the byte after it, which the narrowed range
admits because `n` is neither overlong nor a surrogate. -/
theorem utf8DecodeFrom_lead_three {n : Nat} (low : 0x800 ≤ n) (high : n < 0x10000)
    (scalar : n < 0xD800 ∨ 0xDFFF < n) (rest : List UInt8) :
    utf8DecodeFrom .initial
        (UInt8.ofNat (0xE0 + n / 4096) :: UInt8.ofNat (0x80 + n / 64 % 64) :: rest) =
      utf8DecodeFrom ⟨n / 64, 1, 0x80, 0xBF⟩ rest := by
  have within : ¬(0x80 + n / 64 % 64 < (if 0xE0 + n / 4096 = 0xE0 then 0xA0 else 0x80) ∨
      (if 0xE0 + n / 4096 = 0xED then 0x9F else 0xBF) < 0x80 + n / 64 % 64) := by
    split_ifs <;> omega
  rw [utf8DecodeFrom_cons, toNat_ofNat_of_lt (by omega), utf8Step_initial,
    utf8Lead_three (by omega) (by omega), List.nil_append, utf8DecodeFrom_cons, continuation_toNat,
    utf8Step, if_neg (by simp), if_neg within, if_neg (by simp), List.nil_append]
  have codePoint : (0xE0 + n / 4096 - 0xE0) * 64 + (0x80 + n / 64 % 64 - 0x80) = n / 64 := by omega
  exact congrArg (fun codePoint => utf8DecodeFrom ⟨codePoint, 1, 0x80, 0xBF⟩ rest) codePoint

/-- The lead byte of a four-byte sequence and the byte after it, which the narrowed range admits
because `n` is neither overlong nor past `U+10FFFF`. -/
theorem utf8DecodeFrom_lead_four {n : Nat} (low : 0x10000 ≤ n) (high : n < 0x110000)
    (rest : List UInt8) :
    utf8DecodeFrom .initial
        (UInt8.ofNat (0xF0 + n / 262144) :: UInt8.ofNat (0x80 + n / 4096 % 64) :: rest) =
      utf8DecodeFrom ⟨n / 4096, 2, 0x80, 0xBF⟩ rest := by
  have within : ¬(0x80 + n / 4096 % 64 < (if 0xF0 + n / 262144 = 0xF0 then 0x90 else 0x80) ∨
      (if 0xF0 + n / 262144 = 0xF4 then 0x8F else 0xBF) < 0x80 + n / 4096 % 64) := by
    split_ifs <;> omega
  rw [utf8DecodeFrom_cons, toNat_ofNat_of_lt (by omega), utf8Step_initial,
    utf8Lead_four (by omega) (by omega), List.nil_append, utf8DecodeFrom_cons, continuation_toNat,
    utf8Step, if_neg (by simp), if_neg within, if_neg (by simp), List.nil_append]
  have codePoint : (0xF0 + n / 262144 - 0xF0) * 64 + (0x80 + n / 4096 % 64 - 0x80) = n / 4096 := by
    omega
  exact congrArg (fun codePoint => utf8DecodeFrom ⟨codePoint, 2, 0x80, 0xBF⟩ rest) codePoint

/-- A continuation byte in the middle of a sequence adds its six bits. -/
theorem utf8DecodeFrom_continue (codePoint bits : Nat) (rest : List UInt8) :
    utf8DecodeFrom ⟨codePoint, 2, 0x80, 0xBF⟩ (UInt8.ofNat (0x80 + bits % 64) :: rest) =
      utf8DecodeFrom ⟨codePoint * 64 + bits % 64, 1, 0x80, 0xBF⟩ rest := by
  rw [utf8DecodeFrom_cons, continuation_toNat, utf8Step, if_neg (by simp), if_neg (by dsimp only; omega),
    if_neg (by simp), Nat.add_sub_cancel_left]
  rfl

/-- The last continuation byte of a sequence gives the character. -/
theorem utf8DecodeFrom_last (codePoint bits : Nat) (rest : List UInt8) :
    utf8DecodeFrom ⟨codePoint, 1, 0x80, 0xBF⟩ (UInt8.ofNat (0x80 + bits % 64) :: rest) =
      Char.ofNat (codePoint * 64 + bits % 64) :: utf8DecodeFrom .initial rest := by
  rw [utf8DecodeFrom_cons, continuation_toNat, utf8Step, if_neg (by simp), if_neg (by dsimp only; omega),
    if_pos rfl, Nat.add_sub_cancel_left]
  rfl

/-- **One encoded scalar value decodes to itself**, leaving the decoder between sequences. -/
theorem utf8DecodeFrom_utf8EncodeChar (char : Char) (rest : List UInt8) :
    utf8DecodeFrom .initial (utf8EncodeChar char ++ rest) = char :: utf8DecodeFrom .initial rest := by
  have valid := isValidChar_toNat char
  simp only [Nat.isValidChar] at valid
  unfold utf8EncodeChar
  dsimp only
  split_ifs with one two three
  · rw [List.singleton_append, utf8DecodeFrom_ascii one, Char.ofNat_toNat]
  · rw [List.cons_append, List.singleton_append, utf8DecodeFrom_lead_two (by omega) two,
      utf8DecodeFrom_last, Nat.div_add_mod', Char.ofNat_toNat]
  · rw [List.cons_append, List.cons_append, List.singleton_append,
      utf8DecodeFrom_lead_three (by omega) three (by omega), utf8DecodeFrom_last, Nat.div_add_mod',
      Char.ofNat_toNat]
  · have middle : char.toNat / 4096 * 64 + char.toNat / 64 % 64 = char.toNat / 64 := by omega
    rw [List.cons_append, List.cons_append, List.cons_append, List.singleton_append,
      utf8DecodeFrom_lead_four (by omega) (by omega), utf8DecodeFrom_continue, middle,
      utf8DecodeFrom_last, Nat.div_add_mod', Char.ofNat_toNat]

/-- **UTF-8 round trip**, for the characters of a string followed by any bytes. -/
theorem utf8Decode_flatMap (chars : List Char) (rest : List UInt8) :
    utf8DecodeFrom .initial (chars.flatMap utf8EncodeChar ++ rest) =
      chars ++ utf8DecodeFrom .initial rest := by
  induction chars with
  | nil => rfl
  | cons char chars ih =>
    rw [List.flatMap_cons, List.append_assoc, utf8DecodeFrom_utf8EncodeChar, ih, List.cons_append]

theorem utf8Decode_utf8Encode (text : String) : utf8Decode (utf8Encode text) = text.data := by
  simpa [utf8Decode, utf8DecodeFrom, Utf8State.initial] using utf8Decode_flatMap text.data []

-- `E0` then a byte below `A0`: one `U+FFFD` for the lead byte, and the byte is read again; a
-- four-byte sequence the end cuts after three: one `U+FFFD` for the three.
example : utf8Decode [0xE0, 0x80, 0x41] = [replacementChar, replacementChar, 'A'] := by decide
example : utf8Decode [0xF0, 0x9F, 0x98] = [replacementChar] := by decide

/-! ## Hex -/

/-- One lowercase hex digit. -/
def hexDigit (digit : Nat) : Char :=
  if digit < 10 then Char.ofNat (0x30 + digit) else Char.ofNat (0x57 + digit)

/-- Node's `toString('hex')`: two lowercase digits per byte, high nibble first. -/
def toHex (bytes : List UInt8) : String :=
  ⟨bytes.flatMap fun byte => [hexDigit (byte.toNat / 16), hexDigit (byte.toNat % 16)]⟩

/-- The lowercase hex alphabet. -/
def lowerHexDigits : List Char := "0123456789abcdef".data

/-- A byte span in lowercase hex: each byte as the digit of its high nibble, then of its low one. -/
def lowerHex (bytes : List UInt8) : String :=
  ⟨bytes.flatMap fun byte =>
    [lowerHexDigits.getD (byte.toNat / 16) '0', lowerHexDigits.getD (byte.toNat % 16) '0']⟩

/-- Each of the sixteen digits `hexDigit` computes is the alphabet's. -/
theorem hexDigit_eq_getD {digit : Nat} (small : digit < 16) :
    hexDigit digit = lowerHexDigits.getD digit '0' := by
  have every : ∀ d ∈ List.range 16, hexDigit d = lowerHexDigits.getD d '0' := by decide
  exact every digit (List.mem_range.mpr small)

/-- **`toString('hex')` writes lowercase hex.** -/
theorem toHex_eq_lowerHex (bytes : List UInt8) : toHex bytes = lowerHex bytes := by
  have high : ∀ byte : UInt8, byte.toNat / 16 < 16 := fun byte => by
    have := byte.toNat_lt_size
    simp only [UInt8.size] at this
    omega
  simp only [toHex, lowerHex, hexDigit_eq_getD (high _),
    hexDigit_eq_getD (Nat.mod_lt _ (by decide : 16 > 0))]

end Lidify.Wire
