import ParityGames.Text.Quoted
import Mathlib

/-!
# Quoted labels read back

A label is a byte text.  Writing it as a double-quoted literal decodes the
bytes as UTF-8 into pieces (characters and stray bytes) and escapes each piece;
reading the literal turns each escape back into bytes.  The main statement,
`unquote_quoteBytes`, says that reading gives back exactly the bytes that were
written, for every byte text.

Two facts carry it.  Decoding loses no byte: every piece stands for the bytes
it was decoded from (`decode_bytes`), which for a character is its UTF-8
encoding (`decodeOne_spec`).  And every escape reads back as the bytes of its
piece (`readUnit_escapePiece`), whatever follows it.
-/

namespace ParityGames

namespace Text

/-! ## The bytes of a text -/

theorem toList_loop (bs : ByteArray) (i : Nat) (r : List UInt8) :
    ByteArray.toList.loop bs i r = r.reverse ++ bs.data.toList.drop i := by
  fun_induction ByteArray.toList.loop bs i r with
  | case1 i r inside ih =>
    have inList : i < bs.data.toList.length := by simpa using inside
    rw [ih, List.drop_eq_getElem_cons (l := bs.data.toList) inList]
    simp [ByteArray.get!, inside]
  | case2 i r outside =>
    rw [List.drop_eq_nil_of_le (by simpa using Nat.le_of_not_lt outside), List.append_nil]

theorem toList_eq_data (bs : ByteArray) : bs.toList = bs.data.toList := by
  simp [ByteArray.toList, toList_loop]

/-- The bytes of a one-character text are the character's UTF-8 encoding. -/
theorem utf8Bytes_singleton (c : Char) : utf8Bytes (String.singleton c) = String.utf8EncodeChar c := by
  rw [utf8Bytes, String.toUTF8_eq_toByteArray, String.toByteArray_singleton, List.utf8Encode_singleton,
    toList_eq_data, List.toList_data_toByteArray]

/-! ## Decoding loses no byte -/

/-- The bytes a piece stands for. -/
def Piece.bytes : Piece → List UInt8
  | .char c => String.utf8EncodeChar c
  | .stray b => [b]

theorem Piece.bytes_ne_nil (p : Piece) : p.bytes ≠ [] := by
  cases p with
  | char c => exact String.utf8EncodeChar_ne_nil
  | stray b => simp [Piece.bytes]

theorem toNat_ofNat_of_valid {n : Nat} (valid : n.isValidChar) : (Char.ofNat n).toNat = n := by
  simp [Char.ofNat, valid, Char.ofNatAux, Char.toNat]

/-- The low `k` bits of a byte under a marker above them. -/
theorem marked_bits {k : Nat} (small : k ≤ 8) (x m : Nat) :
    (x % 256 &&& 2 ^ k - 1) ||| 2 ^ k * m = 2 ^ k * m + x % 2 ^ k := by
  have dvd : 2 ^ k ∣ 256 := Nat.pow_dvd_pow 2 small
  rw [Nat.and_two_pow_sub_one_eq_mod, Nat.mod_mod_of_dvd x dvd, Nat.or_comm,
    ← Nat.two_pow_add_eq_or_of_lt (Nat.mod_lt _ (Nat.two_pow_pos k))]

/-- A byte of an encoding: `k` payload bits under the marker `2 ^ k * m`. -/
theorem encoded_byte {x : UInt32} {mask marker b : UInt8} {k m : Nat} (small : k ≤ 8)
    (maskBits : mask.toNat = 2 ^ k - 1) (markerBits : marker.toNat = 2 ^ k * m)
    (bits : 2 ^ k * m + x.toNat % 2 ^ k = b.toNat) : x.toUInt8 &&& mask ||| marker = b := by
  apply UInt8.toNat_inj.1
  rw [UInt8.toNat_or, UInt8.toNat_and, UInt32.toNat_toUInt8, maskBits, markerBits, marked_bits small]
  exact bits

/-- The same for the payload bits above the lowest `s`. -/
theorem encoded_shifted_byte {x sh : UInt32} {mask marker b : UInt8} {k m s : Nat} (small : k ≤ 8)
    (maskBits : mask.toNat = 2 ^ k - 1) (markerBits : marker.toNat = 2 ^ k * m)
    (shift : sh.toNat = s) (inWord : s < 32) (bits : 2 ^ k * m + x.toNat / 2 ^ s % 2 ^ k = b.toNat) :
    (x >>> sh).toUInt8 &&& mask ||| marker = b := by
  apply encoded_byte small maskBits markerBits
  rw [UInt32.toNat_shiftRight, shift, Nat.mod_eq_of_lt inWord, Nat.shiftRight_eq_div_pow]
  exact bits

theorem isCont_iff {b : UInt8} : isCont b = true ↔ 0x80 ≤ b.toNat ∧ b.toNat ≤ 0xBF := by
  simp [isCont, UInt8.le_iff_toNat_le]

theorem encode_one {b0 : UInt8} (ascii : b0 < 0x80) :
    String.utf8EncodeChar (Char.ofNat b0.toNat) = [b0] := by
  have low : b0.toNat < 128 := UInt8.lt_iff_toNat_lt.1 ascii
  have val : (Char.ofNat b0.toNat).val.toNat = b0.toNat :=
    toNat_ofNat_of_valid (by unfold Nat.isValidChar; omega)
  rw [String.utf8EncodeChar_eq_singleton (Char.utf8Size_eq_one_iff.2 ?size)]
  case size =>
    simp only [UInt32.le_iff_toNat_le, UInt32.reduceToNat, val]
    omega
  simp only [List.cons.injEq, and_true]
  apply UInt8.toNat_inj.1
  rw [UInt32.toNat_toUInt8, val]
  omega

theorem encode_two {b0 b1 : UInt8} (lead : 0xC2 ≤ b0.toNat ∧ b0.toNat ≤ 0xDF)
    (second : 0x80 ≤ b1.toNat ∧ b1.toNat ≤ 0xBF) :
    String.utf8EncodeChar (Char.ofNat ((b0.toNat % 32) * 64 + contBits b1)) = [b0, b1] := by
  have val : (Char.ofNat ((b0.toNat % 32) * 64 + contBits b1)).val.toNat =
      (b0.toNat % 32) * 64 + b1.toNat % 64 :=
    toNat_ofNat_of_valid (by unfold Nat.isValidChar contBits; omega)
  rw [String.utf8EncodeChar_eq_cons_cons (Char.utf8Size_eq_two_iff.2 ⟨?low, ?high⟩)]
  case low | high =>
    simp only [UInt32.lt_iff_toNat_lt, UInt32.le_iff_toNat_le, UInt32.reduceToNat, val]
    omega
  simp only [List.cons.injEq, and_true]
  constructor
  · apply encoded_shifted_byte (k := 5) (m := 6) (s := 6) (by decide) rfl rfl rfl (by decide)
    rw [val]
    omega
  · apply encoded_byte (k := 6) (m := 2) (by decide) rfl rfl
    rw [val]
    omega

/-- What the guard of a three-byte sequence checks: continuation bytes, no
overlong form after `E0` and no surrogate after `ED`. -/
theorem three_guard {b0 b1 b2 : UInt8}
    (guard : (decide (b1 ≥ (if (b0 == 0xE0) = true then 0xA0 else 0x80)) &&
      decide (b1 ≤ (if (b0 == 0xED) = true then 0x9F else 0xBF)) && isCont b2) = true) :
    (0x80 ≤ b1.toNat ∧ b1.toNat ≤ 0xBF) ∧ (b0.toNat = 0xE0 → 0xA0 ≤ b1.toNat) ∧
      (b0.toNat = 0xED → b1.toNat ≤ 0x9F) ∧ (0x80 ≤ b2.toNat ∧ b2.toNat ≤ 0xBF) := by
  simp only [Bool.and_eq_true, decide_eq_true_eq, isCont_iff] at guard
  obtain ⟨⟨low, high⟩, third⟩ := guard
  refine ⟨?_, ?_, ?_, third⟩
  all_goals
    split at low <;> split at high <;> simp_all [UInt8.le_iff_toNat_le, ← UInt8.toNat_inj] <;> omega

theorem encode_three {b0 b1 b2 : UInt8} (lead : 0xE0 ≤ b0.toNat ∧ b0.toNat ≤ 0xEF)
    (second : 0x80 ≤ b1.toNat ∧ b1.toNat ≤ 0xBF) (overlong : b0.toNat = 0xE0 → 0xA0 ≤ b1.toNat)
    (surrogate : b0.toNat = 0xED → b1.toNat ≤ 0x9F) (third : 0x80 ≤ b2.toNat ∧ b2.toNat ≤ 0xBF) :
    String.utf8EncodeChar (Char.ofNat ((b0.toNat % 16) * 4096 + contBits b1 * 64 + contBits b2)) =
      [b0, b1, b2] := by
  have val : (Char.ofNat ((b0.toNat % 16) * 4096 + contBits b1 * 64 + contBits b2)).val.toNat =
      (b0.toNat % 16) * 4096 + b1.toNat % 64 * 64 + b2.toNat % 64 :=
    toNat_ofNat_of_valid (by unfold Nat.isValidChar contBits; omega)
  rw [String.utf8EncodeChar_eq_cons_cons_cons (Char.utf8Size_eq_three_iff.2 ⟨?low, ?high⟩)]
  case low | high =>
    simp only [UInt32.lt_iff_toNat_lt, UInt32.le_iff_toNat_le, UInt32.reduceToNat, val]
    omega
  simp only [List.cons.injEq, and_true]
  refine ⟨?_, ?_, ?_⟩
  · apply encoded_shifted_byte (k := 4) (m := 14) (s := 12) (by decide) rfl rfl rfl (by decide)
    rw [val]
    omega
  · apply encoded_shifted_byte (k := 6) (m := 2) (s := 6) (by decide) rfl rfl rfl (by decide)
    rw [val]
    omega
  · apply encoded_byte (k := 6) (m := 2) (by decide) rfl rfl
    rw [val]
    omega

/-- What the guard of a four-byte sequence checks: continuation bytes, no
overlong form after `F0` and nothing beyond `U+10FFFF` after `F4`. -/
theorem four_guard {b0 b1 b2 b3 : UInt8}
    (guard : (decide (b1 ≥ (if (b0 == 0xF0) = true then 0x90 else 0x80)) &&
      decide (b1 ≤ (if (b0 == 0xF4) = true then 0x8F else 0xBF)) && isCont b2 && isCont b3) = true) :
    (0x80 ≤ b1.toNat ∧ b1.toNat ≤ 0xBF) ∧ (b0.toNat = 0xF0 → 0x90 ≤ b1.toNat) ∧
      (b0.toNat = 0xF4 → b1.toNat ≤ 0x8F) ∧ (0x80 ≤ b2.toNat ∧ b2.toNat ≤ 0xBF) ∧
      (0x80 ≤ b3.toNat ∧ b3.toNat ≤ 0xBF) := by
  simp only [Bool.and_eq_true, decide_eq_true_eq, isCont_iff] at guard
  obtain ⟨⟨⟨low, high⟩, third⟩, fourth⟩ := guard
  refine ⟨?_, ?_, ?_, third, fourth⟩
  all_goals
    split at low <;> split at high <;> simp_all [UInt8.le_iff_toNat_le, ← UInt8.toNat_inj] <;> omega

theorem encode_four {b0 b1 b2 b3 : UInt8} (lead : 0xF0 ≤ b0.toNat ∧ b0.toNat ≤ 0xF4)
    (second : 0x80 ≤ b1.toNat ∧ b1.toNat ≤ 0xBF) (overlong : b0.toNat = 0xF0 → 0x90 ≤ b1.toNat)
    (beyond : b0.toNat = 0xF4 → b1.toNat ≤ 0x8F) (third : 0x80 ≤ b2.toNat ∧ b2.toNat ≤ 0xBF)
    (fourth : 0x80 ≤ b3.toNat ∧ b3.toNat ≤ 0xBF) :
    String.utf8EncodeChar (Char.ofNat ((b0.toNat % 8) * 262144 + contBits b1 * 4096 +
      contBits b2 * 64 + contBits b3)) = [b0, b1, b2, b3] := by
  have val : (Char.ofNat ((b0.toNat % 8) * 262144 + contBits b1 * 4096 + contBits b2 * 64 +
      contBits b3)).val.toNat =
      (b0.toNat % 8) * 262144 + b1.toNat % 64 * 4096 + b2.toNat % 64 * 64 + b3.toNat % 64 :=
    toNat_ofNat_of_valid (by unfold Nat.isValidChar contBits; omega)
  rw [String.utf8EncodeChar_eq_cons_cons_cons_cons (Char.utf8Size_eq_four_iff.2 ?low)]
  case low =>
    simp only [UInt32.lt_iff_toNat_lt, UInt32.reduceToNat, val]
    omega
  simp only [List.cons.injEq, and_true]
  refine ⟨?_, ?_, ?_, ?_⟩
  · apply encoded_shifted_byte (k := 3) (m := 30) (s := 18) (by decide) rfl rfl rfl (by decide)
    rw [val]
    omega
  · apply encoded_shifted_byte (k := 6) (m := 2) (s := 12) (by decide) rfl rfl rfl (by decide)
    rw [val]
    omega
  · apply encoded_shifted_byte (k := 6) (m := 2) (s := 6) (by decide) rfl rfl rfl (by decide)
    rw [val]
    omega
  · apply encoded_byte (k := 6) (m := 2) (by decide) rfl rfl
    rw [val]
    omega

theorem lead_bounds {b0 lo hi : UInt8} (lead : (decide (b0 ≥ lo) && decide (b0 ≤ hi)) = true) :
    lo.toNat ≤ b0.toNat ∧ b0.toNat ≤ hi.toNat := by
  simpa [UInt8.le_iff_toNat_le] using lead

/-- One decoded piece is a prefix of the bytes: a stray byte stands for
itself, a character for its UTF-8 encoding. -/
theorem decodeOne_spec {bs rest : List UInt8} {p : Piece} :
    decodeOne bs = some (p, rest) → bs = p.bytes ++ rest := by
  fun_cases decodeOne bs
  all_goals intro decoded
  case case1 => cases decoded
  case case2 b0 rest0 ascii =>
    obtain ⟨rfl, rfl⟩ := Prod.mk.inj (Option.some.inj decoded)
    rw [Piece.bytes, encode_one ascii, List.singleton_append]
  case case3 b0 _ b1 rest1 lead second =>
    obtain ⟨rfl, rfl⟩ := Prod.mk.inj (Option.some.inj decoded)
    rw [Piece.bytes, encode_two (lead_bounds lead) (isCont_iff.1 second)]
    rfl
  case case5 b0 _ b1 _ lead lo hi b2 rest2 guard =>
    obtain ⟨rfl, rfl⟩ := Prod.mk.inj (Option.some.inj decoded)
    obtain ⟨second, overlong, surrogate, third⟩ := three_guard guard
    rw [Piece.bytes, encode_three (lead_bounds lead) second overlong surrogate third]
    rfl
  case case8 b0 _ b1 _ _ lead lo hi b2 b3 rest3 guard =>
    obtain ⟨rfl, rfl⟩ := Prod.mk.inj (Option.some.inj decoded)
    obtain ⟨second, overlong, beyond, third, fourth⟩ := four_guard guard
    rw [Piece.bytes, encode_four (lead_bounds lead) second overlong beyond third fourth]
    rfl
  -- every other outcome is the first byte as a stray byte
  all_goals
    obtain ⟨rfl, rfl⟩ := Prod.mk.inj (Option.some.inj decoded)
    rfl

theorem decodeOne_isSome {bs : List UInt8} (nonempty : bs ≠ []) : (decodeOne bs).isSome = true := by
  fun_cases decodeOne bs
  case case1 => exact absurd rfl nonempty
  all_goals rfl

/-- Decoding with enough fuel gives pieces that stand for all the bytes. -/
theorem decodeWithin_bytes (fuel : Nat) (bs : List UInt8) (enough : bs.length ≤ fuel) :
    (decodeWithin fuel bs).flatMap Piece.bytes = bs := by
  induction fuel generalizing bs with
  | zero => simp_all [decodeWithin]
  | succ fuel ih =>
    cases bs with
    | nil => simp [decodeWithin, decodeOne]
    | cons b bs =>
      obtain ⟨⟨p, rest⟩, decoded⟩ := Option.isSome_iff_exists.1 (decodeOne_isSome (List.cons_ne_nil b bs))
      have split := decodeOne_spec decoded
      have shorter : rest.length ≤ fuel := by
        have := congrArg List.length split
        have := List.length_pos_of_ne_nil p.bytes_ne_nil
        simp only [List.length_cons, List.length_append] at *
        omega
      rw [decodeWithin, decoded, List.flatMap_cons, ih rest shorter, split]

/-- Decoding loses no byte. -/
theorem decode_bytes (bs : List UInt8) : (decode bs).flatMap Piece.bytes = bs :=
  decodeWithin_bytes bs.length bs le_rfl

/-! ## Escapes read back -/

theorem hexValue_hexDigit : ∀ d < 16, hexValue (hexDigit d) = some d := by decide

theorem hexDigits_succ (n k : Nat) :
    hexDigits n (k + 1) = hexDigit (n / 16 ^ k % 16) :: hexDigits n k := by
  simp [hexDigits, List.range_succ, Nat.pow_eq]

/-- Hex digits written for `n` read back as `n` modulo the width. -/
theorem readHex_hexDigits (n k : Nat) (rest : List Char) (acc : Nat) :
    readHex k (hexDigits n k ++ rest) acc = some (acc * 16 ^ k + n % 16 ^ k, rest) := by
  induction k generalizing acc with
  | zero => simp [hexDigits, readHex, Nat.mod_one]
  | succ k ih =>
    rw [hexDigits_succ, List.cons_append, readHex,
      hexValue_hexDigit _ (Nat.mod_lt _ (by decide)), Option.bind_some, ih, Nat.mod_pow_succ]
    congr 2
    rw [Nat.pow_succ]
    ring

/-- A character that is no quote, newline or backslash reads as itself. -/
theorem readUnit_plain {c : Char} (rest : List Char) (quote : c ≠ '"') (newline : c ≠ '\n')
    (backslash : c ≠ '\\') : readUnit (c :: rest) = some (utf8Bytes (String.singleton c), rest) := by
  unfold readUnit
  split <;> simp_all

theorem readUnit_hexByte {n : Nat} (rest : List Char) (small : n < 256) :
    readUnit ('\\' :: 'x' :: (hexDigits n 2 ++ rest)) = some ([n.toUInt8], rest) := by
  have whole : n % 16 ^ 2 = n := Nat.mod_eq_of_lt small
  simp only [readUnit, readHex_hexDigits, Nat.zero_mul, Nat.zero_add, whole, Option.map_some]

/-- A `u` or `U` escape reads back as the UTF-8 bytes of its code point. -/
theorem readUnit_unicode {n k : Nat} {u : Char} (rest : List Char)
    (form : (u = 'u' ∧ k = 4) ∨ (u = 'U' ∧ k = 8)) (small : n < 16 ^ k) :
    readUnit ('\\' :: u :: (hexDigits n k ++ rest)) =
      if isScalar n then some (utf8Bytes (String.singleton (Char.ofNat n)), rest) else none := by
  have whole : n % 16 ^ k = n := Nat.mod_eq_of_lt small
  rcases form with ⟨rfl, rfl⟩ | ⟨rfl, rfl⟩ <;>
    simp only [readUnit, readHex_hexDigits, Nat.zero_mul, Nat.zero_add, whole, Option.bind_some]

theorem isScalar_toNat (c : Char) : isScalar c.toNat = true := by
  have valid : c.toNat.isValidChar := c.valid
  unfold Nat.isValidChar at valid
  simp only [isScalar, Bool.or_eq_true, decide_eq_true_eq, Bool.and_eq_true, gt_iff_lt]
  omega

theorem isPrintable_newline : isPrintable '\n' = false := by decide +kernel

/-- Every escape of a character reads back as its UTF-8 bytes, whatever follows. -/
theorem readUnit_escapeChar (c : Char) (rest : List Char) :
    readUnit (escapeChar c ++ rest) = some (String.utf8EncodeChar c, rest) := by
  unfold escapeChar
  split
  · next special =>
    simp only [Bool.or_eq_true, beq_iff_eq] at special
    rcases special with rfl | rfl <;> rfl
  · next notSpecial =>
    simp only [Bool.or_eq_true, beq_iff_eq, not_or] at notSpecial
    split
    · next printable =>
      have newline : c ≠ '\n' := by
        rintro rfl
        rw [isPrintable_newline] at printable
        contradiction
      rw [List.singleton_append, readUnit_plain rest notSpecial.1 newline notSpecial.2,
        utf8Bytes_singleton]
    · split
      case h_8 =>
        have bound : c.toNat < 0x110000 := by
          have valid : c.toNat.isValidChar := c.valid
          unfold Nat.isValidChar at valid
          omega
        have unicode : utf8Bytes (String.singleton (Char.ofNat c.toNat)) = String.utf8EncodeChar c := by
          rw [Char.ofNat_toNat, utf8Bytes_singleton]
        dsimp only
        split
        · next control =>
          have small : c.toNat < 128 := by simp at control; omega
          have byte : c.toNat.toUInt8.toNat = c.toNat := by simp; omega
          have ascii : c.toNat.toUInt8 < 0x80 := UInt8.lt_iff_toNat_lt.2 (by rw [byte]; exact small)
          rw [List.cons_append, List.cons_append, readUnit_hexByte rest (by omega), ← encode_one ascii,
            byte, Char.ofNat_toNat]
        · split
          · next _ below =>
            rw [List.cons_append, List.cons_append, readUnit_unicode rest (.inl ⟨rfl, rfl⟩) below,
              if_pos (isScalar_toNat c), unicode]
          · rw [List.cons_append, List.cons_append, readUnit_unicode rest (.inr ⟨rfl, rfl⟩) (by omega),
              if_pos (isScalar_toNat c), unicode]
      -- the seven control characters with a letter escape
      all_goals rfl

theorem readUnit_escapePiece (p : Piece) (rest : List Char) :
    readUnit (escapePiece p ++ rest) = some (p.bytes, rest) := by
  cases p with
  | char c => exact readUnit_escapeChar c rest
  | stray b =>
    have byte : b.toNat.toUInt8 = b := UInt8.toNat_inj.1 (by simp)
    rw [escapePiece, List.cons_append, List.cons_append, readUnit_hexByte rest b.toNat_lt, byte]
    rfl

/-- An escape is never empty: it reads as a unit. -/
theorem escapePiece_ne_nil (p : Piece) : escapePiece p ≠ [] := by
  intro empty
  have unit := readUnit_escapePiece p []
  rw [empty] at unit
  cases unit

theorem length_le_flatMap_escapePiece (ps : List Piece) :
    ps.length ≤ (ps.flatMap escapePiece).length := by
  induction ps with
  | nil => simp
  | cons p ps ih =>
    have := List.length_pos_of_ne_nil (escapePiece_ne_nil p)
    simp only [List.flatMap_cons, List.length_append, List.length_cons]
    omega

/-- A body that starts with a unit reads on after it. -/
theorem readBody_of_readUnit {cs rest : List Char} {bs : List UInt8} (fuel : Nat) (acc : List UInt8)
    (unit : readUnit cs = some (bs, rest)) : readBody (fuel + 1) cs acc = readBody fuel rest (acc ++ bs) := by
  match cs, unit with
  | c :: more, unit =>
    -- a unit never starts with a quote
    have notQuote : c ≠ '"' := by
      rintro rfl
      cases unit
    rw [readBody]
    split
    case h_1 _ stuck =>
      rw [unit] at stuck
      cases stuck
    case h_2 _ _ _ read =>
      rw [unit] at read
      cases read
      rfl
    case x_4 =>
      intro _ quote
      exact notQuote (List.head_eq_of_cons_eq quote)
    case x_5 => exact List.cons_ne_nil c more

/-- The escapes of pieces followed by a closing quote read back as the bytes
of the pieces; reading stops after the quote. -/
theorem readBody_escapes (ps : List Piece) (rest : List Char) (acc : List UInt8) {fuel : Nat}
    (enough : ps.length < fuel) :
    readBody fuel (ps.flatMap escapePiece ++ '"' :: rest) acc =
      some (acc ++ ps.flatMap Piece.bytes, rest) := by
  obtain ⟨fuel, rfl⟩ : ∃ f, fuel = f + 1 := ⟨fuel - 1, by omega⟩
  induction ps generalizing acc fuel with
  | nil => simp [readBody]
  | cons p ps ih =>
    have more : ps.length < fuel := by simp at enough; omega
    rw [List.flatMap_cons, List.append_assoc,
      readBody_of_readUnit fuel acc (readUnit_escapePiece p _)]
    obtain ⟨fuel, rfl⟩ : ∃ f, fuel = f + 1 := ⟨fuel - 1, by omega⟩
    rw [ih (acc ++ p.bytes) fuel more, List.flatMap_cons, List.append_assoc]

theorem unquote_quotePieces (ps : List Piece) :
    unquote (quotePieces ps) = some (ps.flatMap Piece.bytes) := by
  have enough : ps.length < (ps.flatMap escapePiece ++ ['"']).length + 1 := by
    have := length_le_flatMap_escapePiece ps
    simp only [List.length_append, List.length_singleton]
    omega
  unfold unquote quotePieces
  simp only [String.toList_ofList, readBody_escapes ps [] [] enough, List.nil_append]

/-- Reading a quoted byte text gives back every byte. -/
theorem unquote_quoteBytes (bs : List UInt8) : unquote (quoteBytes bs) = some bs := by
  rw [quoteBytes, unquote_quotePieces, decode_bytes]

/-! ## The shape of a literal -/

theorem toList_quoteBytes (bs : List UInt8) :
    (quoteBytes bs).toList = '"' :: ((decode bs).flatMap escapePiece ++ ['"']) := by
  rw [quoteBytes, quotePieces, String.toList_ofList]

theorem toNat_ofNat_cases (n : Nat) : (Char.ofNat n).toNat = n ∨ (Char.ofNat n).toNat = 0 := by
  by_cases valid : n.isValidChar
  · exact .inl (toNat_ofNat_of_valid valid)
  · right
    simp [Char.ofNat, valid]

theorem hexDigit_ne_newline (d : Nat) : hexDigit d ≠ '\n' := by
  intro newline
  have code : (hexDigit d).toNat = 10 := by rw [newline]; rfl
  unfold hexDigit at code
  split at code
  · rcases toNat_ofNat_cases (48 + d) with same | zero <;> omega
  · rcases toNat_ofNat_cases (87 + d) with same | zero <;> omega

theorem newline_not_mem_escapeChar (c : Char) : '\n' ∉ escapeChar c := by
  unfold escapeChar
  split
  · next special =>
    simp only [Bool.or_eq_true, beq_iff_eq] at special
    rcases special with rfl | rfl <;> decide
  · split
    · next printable =>
      rintro (_ | ⟨_, _ | _⟩)
      rw [isPrintable_newline] at printable
      contradiction
    · split
      case h_8 =>
        dsimp only
        split <;> (try split) <;> simp [hexDigits, hexDigit_ne_newline]
      all_goals decide

/-- A quoted literal is on one line. -/
theorem newline_not_mem_quoteBytes (bs : List UInt8) : '\n' ∉ (quoteBytes bs).toList := by
  rw [toList_quoteBytes]
  simp only [List.mem_cons, List.mem_append, List.mem_flatMap, List.not_mem_nil, or_false]
  rintro (quote | ⟨p, _, mem⟩ | quote)
  · cases quote
  · cases p with
    | char c => exact newline_not_mem_escapeChar c mem
    | stray b => simp [escapePiece, hexDigits, hexDigit_ne_newline] at mem
  · cases quote

end Text

end ParityGames
