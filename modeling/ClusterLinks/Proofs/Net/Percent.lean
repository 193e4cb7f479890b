import ClusterLinks.Text.Percent
import Mathlib.Tactic.SplitIfs

/-!
# Escapes that are read back

What is encoded is read back as if it had not been encoded, as long as encoding keeps escapes as
they are. A text without escapes is read as itself. From a text with escapes fewer bytes are read
than are in it.
-/

namespace ClusterLinks.Percent

/-! ## Bytes -/

/-- The UTF-8 bytes of a text. -/
def bytes (text : List Char) : List UInt8 :=
  text.flatMap String.utf8EncodeChar

@[simp] theorem bytes_nil : bytes [] = [] := rfl

@[simp] theorem bytes_cons (c : Char) (text : List Char) :
    bytes (c :: text) = String.utf8EncodeChar c ++ bytes text := rfl

@[simp] theorem bytes_append (text text' : List Char) :
    bytes (text ++ text') = bytes text ++ bytes text' :=
  List.flatMap_append

theorem utf8EncodeChar_of_lt {c : Char} (isAscii : c.toNat < 128) :
    String.utf8EncodeChar c = [UInt8.ofNat c.toNat] := by
  have small : c.val.toNat ≤ 127 := Nat.le_of_lt_succ isAscii
  simp only [String.utf8EncodeChar, if_pos small]
  rfl

/-- A character outside ASCII has no byte in common with ASCII. -/
theorem le_of_mem_utf8EncodeChar {c : Char} (isForeign : 128 ≤ c.toNat) {byte : UInt8}
    (member : byte ∈ String.utf8EncodeChar c) : 128 ≤ byte.toNat := by
  have large : ¬ c.val.toNat ≤ 127 := Nat.not_le.mpr isForeign
  simp only [String.utf8EncodeChar, if_neg large] at member
  split_ifs at member <;>
    simp only [List.mem_cons, List.not_mem_nil, or_false] at member <;>
    rcases member with rfl | rfl | rfl | rfl <;>
    rw [UInt8.toNat_ofNat'] <;>
    omega

theorem utf8EncodeChar_percent : String.utf8EncodeChar '%' = [37] := by
  decide

theorem ne_of_mem_utf8EncodeChar {c : Char} (different : c ≠ '%') {byte : UInt8}
    (member : byte ∈ String.utf8EncodeChar c) : byte ≠ 37 := by
  rintro rfl
  by_cases isAscii : c.toNat < 128
  · rw [utf8EncodeChar_of_lt isAscii, List.mem_singleton] at member
    have code := congrArg UInt8.toNat member
    rw [UInt8.toNat_ofNat', Nat.mod_eq_of_lt (by omega)] at code
    exact different (Char.toNat_inj.mp code.symm)
  · exact absurd (le_of_mem_utf8EncodeChar (Nat.not_lt.mp isAscii) member) (by decide)

theorem utf8EncodeChar_ne_nil (c : Char) : String.utf8EncodeChar c ≠ [] := by
  intro none
  have length := String.length_utf8EncodeChar c
  rw [none] at length
  exact absurd length.symm (Nat.ne_of_gt c.utf8Size_pos)

/-- Which text some bytes are. -/
theorem fromUTF8?_eq_some_iff {encoded : List UInt8} {text : String} :
    String.fromUTF8? (ByteArray.mk encoded.toArray) = some text ↔ encoded = bytes text.toList := by
  have array : ByteArray.mk encoded.toArray = encoded.toByteArray :=
    ByteArray.ext List.data_toByteArray.symm
  have written : (bytes text.toList).toByteArray = text.toByteArray := String.utf8Encode_toList
  have same : encoded.toByteArray = text.toByteArray ↔ encoded = bytes text.toList := by
    rw [← written]
    refine ⟨fun same => ?_, fun same => congrArg List.toByteArray same⟩
    have data := congrArg ByteArray.data same
    rw [List.data_toByteArray, List.data_toByteArray] at data
    exact List.toArray_inj data
  rw [array, ← same, String.fromUTF8?]
  split
  · rw [Option.some_inj, ← String.toByteArray_inj]
    rfl
  · next invalid =>
      refine iff_of_false (by simp) fun same => invalid ?_
      rw [same]
      exact text.isValidUTF8

theorem decodeText?_eq_some_iff {encoded : List Char} {text : String} :
    decodeText? encoded = some text ↔ decode (bytes encoded) = bytes text.toList :=
  fromUTF8?_eq_some_iff

/-! ## Hexadecimal digits -/

def isHexDigit (c : Char) : Bool :=
  c.isDigit || ('a' ≤ c && c ≤ 'f') || ('A' ≤ c && c ≤ 'F')

theorem isHexDigit_iff {c : Char} : isHexDigit c = true ↔
    48 ≤ c.toNat ∧ c.toNat ≤ 57 ∨ 97 ≤ c.toNat ∧ c.toNat ≤ 102 ∨ 65 ≤ c.toNat ∧ c.toNat ≤ 70 := by
  simp only [isHexDigit, Char.isDigit, Bool.or_eq_true, Bool.and_eq_true, decide_eq_true_eq,
    Char.le_def, UInt32.le_iff_toNat_le, ge_iff_le, or_assoc]
  exact Iff.rfl

theorem isSome_hexValue?_iff {byte : UInt8} : (hexValue? byte).isSome = true ↔
    48 ≤ byte.toNat ∧ byte.toNat ≤ 57 ∨ 97 ≤ byte.toNat ∧ byte.toNat ≤ 102 ∨
      65 ≤ byte.toNat ∧ byte.toNat ≤ 70 := by
  unfold hexValue?
  grind

/-- Whether a text begins with two hexadecimal digits. -/
def beginsHex : List Char → Bool
  | high :: low :: _ => isHexDigit high && isHexDigit low
  | _ => false

/-- Whether bytes begin with two hexadecimal digits. -/
def beginsHexBytes : List UInt8 → Bool
  | high :: low :: _ => (hexValue? high).isSome && (hexValue? low).isSome
  | _ => false

/-- The first byte of a character is a hexadecimal digit if the character is one, and then there is
no other byte. -/
theorem utf8EncodeChar_cases (c : Char) : ∃ first others,
    String.utf8EncodeChar c = first :: others ∧ (hexValue? first).isSome = isHexDigit c ∧
      (isHexDigit c = true → others = []) := by
  by_cases isAscii : c.toNat < 128
  · refine ⟨_, [], utf8EncodeChar_of_lt isAscii, ?_, fun _ => rfl⟩
    rw [Bool.eq_iff_iff, isHexDigit_iff, isSome_hexValue?_iff, UInt8.toNat_ofNat',
      Nat.mod_eq_of_lt (by omega)]
  · obtain ⟨first, others, written⟩ := List.exists_cons_of_ne_nil (utf8EncodeChar_ne_nil c)
    have large : 128 ≤ first.toNat :=
      le_of_mem_utf8EncodeChar (Nat.not_lt.mp isAscii) (by simp [written])
    have isNone : isHexDigit c = false := by
      rw [← Bool.not_eq_true, isHexDigit_iff]
      omega
    refine ⟨first, others, written, ?_, by simp [isNone]⟩
    rw [isNone, ← Bool.not_eq_true, isSome_hexValue?_iff]
    omega

theorem beginsHexBytes_cons (byte : UInt8) (rest : List UInt8) :
    beginsHexBytes (byte :: rest) = true ↔ (hexValue? byte).isSome = true ∧
      ∃ low others, rest = low :: others ∧ (hexValue? low).isSome = true := by
  cases rest <;> simp [beginsHexBytes]

theorem beginsHex_cons (c : Char) (rest : List Char) :
    beginsHex (c :: rest) = true ↔ isHexDigit c = true ∧
      ∃ low others, rest = low :: others ∧ isHexDigit low = true := by
  cases rest <;> simp [beginsHex]

theorem beginsHexBytes_bytes (text : List Char) : beginsHexBytes (bytes text) = beginsHex text := by
  cases text with
  | nil => rfl
  | cons high text =>
      obtain ⟨first, others, written, isHex, alone⟩ := utf8EncodeChar_cases high
      rw [Bool.eq_iff_iff, bytes_cons, written, List.cons_append, beginsHexBytes_cons, isHex,
        beginsHex_cons]
      refine and_congr_right fun isHigh => ?_
      rw [alone isHigh, List.nil_append]
      cases text with
      | nil => simp
      | cons low text =>
          obtain ⟨second, others, written, isHex, -⟩ := utf8EncodeChar_cases low
          simp [written, isHex]

theorem utf8EncodeChar_of_isHexDigit {c : Char} (isHex : isHexDigit c = true) :
    String.utf8EncodeChar c = [UInt8.ofNat c.toNat] ∧
      (hexValue? (UInt8.ofNat c.toNat)).isSome = true := by
  have code := isHexDigit_iff.mp isHex
  refine ⟨utf8EncodeChar_of_lt (by omega), ?_⟩
  rwa [isSome_hexValue?_iff, UInt8.toNat_ofNat', Nat.mod_eq_of_lt (by omega)]

theorem exists_of_beginsHex {text : List Char} (begins : beginsHex text = true) :
    ∃ high low others, text = high :: low :: others ∧ isHexDigit high = true ∧
      isHexDigit low = true := by
  match text, begins with
  | high :: low :: others, begins =>
      exact ⟨high, low, others, rfl, by simpa [beginsHex] using begins⟩

theorem isHexDigit_percent : isHexDigit '%' = false := by
  decide

theorem beginsHex_of_not {c : Char} (isNone : isHexDigit c = false) (text : List Char) :
    beginsHex (c :: text) = false := by
  cases text <;> simp [beginsHex, isNone]

/-! ## Reading -/

theorem decode_cons_of_ne {byte : UInt8} (different : byte ≠ 37) (rest : List UInt8) :
    decode (byte :: rest) = byte :: decode rest := by
  rcases rest with _ | ⟨high, _ | ⟨low, rest⟩⟩ <;> simp [decode, different]

theorem decode_append_of_ne {front : List UInt8} (different : ∀ byte ∈ front, byte ≠ 37)
    (rest : List UInt8) : decode (front ++ rest) = front ++ decode rest := by
  induction front with
  | nil => rfl
  | cons byte front ih =>
      rw [List.forall_mem_cons] at different
      rw [List.cons_append, decode_cons_of_ne different.1, ih different.2, List.cons_append]

/-- A percent sign without two digits behind it stands for itself. -/
theorem decode_percent_of_not {rest : List UInt8} (begins : beginsHexBytes rest = false) :
    decode (37 :: rest) = 37 :: decode rest := by
  rcases rest with _ | ⟨high, _ | ⟨low, rest⟩⟩
  · rfl
  · rfl
  · simp only [beginsHexBytes, Bool.and_eq_false_iff] at begins
    rw [decode]
    grind

/-- With two digits behind it, it stands for a byte. -/
theorem exists_decode_percent {high low : UInt8} (isHigh : (hexValue? high).isSome = true)
    (isLow : (hexValue? low).isSome = true) :
    ∃ byte, ∀ rest, decode (37 :: high :: low :: rest) = byte :: decode rest := by
  obtain ⟨first, found⟩ := Option.isSome_iff_exists.mp isHigh
  obtain ⟨second, found'⟩ := Option.isSome_iff_exists.mp isLow
  exact ⟨UInt8.ofNat (first * 16 + second), fun rest => by simp only [decode, found, found']⟩

/-- No more bytes are read than are there. -/
theorem length_decode_le (encoded : List UInt8) : (decode encoded).length ≤ encoded.length := by
  fun_induction decode encoded <;> grind

theorem hexValue?_hexDigit : ∀ digit < 16,
    hexValue? (UInt8.ofNat (hexDigit digit).toNat) = some digit := by
  decide

theorem toNat_hexDigit_lt : ∀ digit < 16, (hexDigit digit).toNat < 128 := by
  decide

/-- An escape is read as its byte. -/
theorem decode_bytes_escape (byte : UInt8) (rest : List UInt8) :
    decode (bytes (escape byte) ++ rest) = byte :: decode rest := by
  have size := byte.toNat_lt
  have high : byte.toNat / 16 < 16 := by omega
  have low : byte.toNat % 16 < 16 := by omega
  have written : bytes (escape byte) = [37, UInt8.ofNat (hexDigit (byte.toNat / 16)).toNat,
      UInt8.ofNat (hexDigit (byte.toNat % 16)).toNat] := by
    simp only [escape, bytes_cons, bytes_nil, utf8EncodeChar_of_lt (toNat_hexDigit_lt _ high),
      utf8EncodeChar_of_lt (toNat_hexDigit_lt _ low), List.append_nil]
    rfl
  have value : UInt8.ofNat (byte.toNat / 16 * 16 + byte.toNat % 16) = byte := by
    rw [Nat.div_add_mod', UInt8.ofNat_toNat]
  simp only [written, List.cons_append, List.nil_append, decode, hexValue?_hexDigit _ high,
    hexValue?_hexDigit _ low, value]

theorem decode_bytes_escapes (front rest : List UInt8) :
    decode (bytes (front.flatMap escape) ++ rest) = front ++ decode rest := by
  induction front with
  | nil => rfl
  | cons byte front ih =>
      rw [List.flatMap_cons, bytes_append, List.append_assoc, decode_bytes_escape, ih,
        List.cons_append]

theorem slash_not_mem_escape (byte : UInt8) : '/' ∉ escape byte := by
  have size := byte.toNat_lt
  have digits : ∀ digit < 16, '/' ≠ hexDigit digit := by decide
  have high := digits (byte.toNat / 16) (by omega)
  have low := digits (byte.toNat % 16) (by omega)
  simp [escape, high, low]

/-! ## What is encoded -/

/-- Nothing outside ASCII is kept, but everything that an escape is made of. -/
structure KeepsEscapes (keep : Char → Bool) : Prop where
  isAscii : ∀ c, keep c = true → c.toNat < 128
  percent : keep '%' = true
  digits : ∀ c, isHexDigit c = true → keep c = true

section Encoding

variable {keep : Char → Bool} (keeps : KeepsEscapes keep)

theorem encode_cons (keep : Char → Bool) (c : Char) (text : List Char) :
    encode keep (c :: text) = encodeChar keep c ++ encode keep text := rfl

theorem encodeChar_of_not {c : Char} (dropped : keep c = false) :
    ∃ rest, encodeChar keep c = '%' :: rest := by
  obtain ⟨first, others, written⟩ := List.exists_cons_of_ne_nil (utf8EncodeChar_ne_nil c)
  rw [encodeChar, dropped, written]
  exact ⟨_, rfl⟩

include keeps

theorem isHexDigit_of_not {c : Char} (dropped : keep c = false) : isHexDigit c = false := by
  cases isHex : isHexDigit c with
  | true => exact absurd (keeps.digits c isHex) (by simp [dropped])
  | false => rfl

/-- What is encoded begins with a digit if it did before. -/
theorem exists_hex_encode (text : List Char) :
    (∃ first others, encode keep text = first :: others ∧ isHexDigit first = true) ↔
      ∃ first others, text = first :: others ∧ isHexDigit first = true := by
  cases text with
  | nil => rfl
  | cons c text =>
      cases kept : keep c with
      | true => simp [encode_cons, encodeChar, kept]
      | false =>
          obtain ⟨rest, written⟩ := encodeChar_of_not kept
          simp [encode_cons, written, isHexDigit_of_not keeps kept, isHexDigit_percent]

theorem beginsHex_encode (text : List Char) : beginsHex (encode keep text) = beginsHex text := by
  cases text with
  | nil => rfl
  | cons c text =>
      cases kept : keep c with
      | true =>
          rw [Bool.eq_iff_iff, encode_cons, encodeChar, if_pos kept, List.singleton_append,
            beginsHex_cons, beginsHex_cons, exists_hex_encode keeps]
      | false =>
          obtain ⟨rest, written⟩ := encodeChar_of_not kept
          rw [encode_cons, written, List.cons_append, beginsHex_of_not isHexDigit_percent,
            beginsHex_of_not (isHexDigit_of_not keeps kept)]

/-- Escapes are read the same, whether they were there before or not. -/
theorem decode_bytes_encode (text : List Char) :
    decode (bytes (encode keep text)) = decode (bytes text) := by
  -- An escape is three characters long, so the induction is on the length.
  induction size : text.length using Nat.strongRecOn generalizing text with
  | _ size ih =>
    subst size
    cases text with
    | nil => rfl
    | cons c rest =>
      have same (text : List Char) (shorter : text.length ≤ rest.length) :
          decode (bytes (encode keep text)) = decode (bytes text) :=
        ih _ (Nat.lt_succ_of_le shorter) text rfl
      by_cases isPercent : c = '%'
      · subst isPercent
        cases begins : beginsHex rest with
        | false =>
            have begins' := beginsHex_encode keeps rest
            rw [begins] at begins'
            rw [encode_cons, encodeChar, if_pos keeps.percent, List.singleton_append, bytes_cons,
              bytes_cons, utf8EncodeChar_percent, List.singleton_append, List.singleton_append,
              decode_percent_of_not (by rw [beginsHexBytes_bytes, begins']),
              decode_percent_of_not (by rw [beginsHexBytes_bytes, begins]),
              same rest (Nat.le_refl _)]
        | true =>
            obtain ⟨high, low, others, rfl, isHigh, isLow⟩ := exists_of_beginsHex begins
            obtain ⟨byte, reads⟩ := exists_decode_percent (utf8EncodeChar_of_isHexDigit isHigh).2
              (utf8EncodeChar_of_isHexDigit isLow).2
            have same := same others (by simp only [List.length_cons]; omega)
            simp only [encode_cons, encodeChar, keeps.percent, keeps.digits _ isHigh,
              keeps.digits _ isLow, if_true, List.singleton_append, bytes_cons,
              utf8EncodeChar_percent, (utf8EncodeChar_of_isHexDigit isHigh).1,
              (utf8EncodeChar_of_isHexDigit isLow).1, reads, same]
      · have plain : ∀ byte ∈ String.utf8EncodeChar c, byte ≠ 37 :=
          fun byte => ne_of_mem_utf8EncodeChar isPercent
        rw [encode_cons, bytes_append, bytes_cons, decode_append_of_ne plain,
          ← same rest (Nat.le_refl _), encodeChar]
        split
        · rw [bytes_cons, bytes_nil, List.append_nil, decode_append_of_ne plain]
        · rw [decode_bytes_escapes]

theorem decodeText?_encode (text : List Char) :
    decodeText? (encode keep text) = decodeText? text := by
  refine Option.ext fun read => ?_
  rw [decodeText?_eq_some_iff, decodeText?_eq_some_iff, decode_bytes_encode keeps]

end Encoding

/-! ## Texts without escapes -/

/-- Whether there is a percent sign with two hexadecimal digits behind it. -/
def hasEscape : List Char → Bool
  | [] => false
  | c :: rest => (c == '%' && beginsHex rest) || hasEscape rest

theorem decode_bytes_of_not {text : List Char} (plain : hasEscape text = false) :
    decode (bytes text) = bytes text := by
  induction text with
  | nil => rfl
  | cons c rest ih =>
      rw [hasEscape, Bool.or_eq_false_iff] at plain
      rw [bytes_cons]
      by_cases isPercent : c = '%'
      · subst isPercent
        rw [utf8EncodeChar_percent, List.singleton_append, decode_percent_of_not, ih plain.2]
        rw [beginsHexBytes_bytes]
        simpa using plain.1
      · rw [decode_append_of_ne fun byte => ne_of_mem_utf8EncodeChar isPercent, ih plain.2]

/-- An escape is longer than what it stands for. -/
theorem length_decode_bytes_lt {text : List Char} (escaped : hasEscape text = true) :
    (decode (bytes text)).length < (bytes text).length := by
  induction text with
  | nil => cases escaped
  | cons c rest ih =>
      rw [hasEscape, Bool.or_eq_true] at escaped
      by_cases isPercent : c = '%'
      · subst isPercent
        rw [bytes_cons, utf8EncodeChar_percent, List.singleton_append]
        cases begins : beginsHex rest with
        | false =>
            rw [decode_percent_of_not (by rw [beginsHexBytes_bytes, begins])]
            exact Nat.succ_lt_succ (ih (by simpa [begins] using escaped))
        | true =>
            obtain ⟨high, low, others, rfl, isHigh, isLow⟩ := exists_of_beginsHex begins
            have ⟨isByte, isHex⟩ := utf8EncodeChar_of_isHexDigit isHigh
            have ⟨isByte', isHex'⟩ := utf8EncodeChar_of_isHexDigit isLow
            obtain ⟨byte, reads⟩ := exists_decode_percent isHex isHex'
            have size := length_decode_le (bytes others)
            simp only [bytes_cons, isByte, isByte', List.singleton_append, reads, List.length_cons]
            omega
      · rw [bytes_cons, decode_append_of_ne fun byte => ne_of_mem_utf8EncodeChar isPercent,
          List.length_append, List.length_append]
        exact Nat.add_lt_add_left (ih (by simpa [isPercent] using escaped)) _

theorem decodeText?_of_not {text : String} (plain : hasEscape text.toList = false) :
    decodeText? text.toList = some text :=
  decodeText?_eq_some_iff.mpr (decode_bytes_of_not plain)

end ClusterLinks.Percent
