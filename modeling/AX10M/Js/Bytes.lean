/-
  Bytes as texts: UTF-8, base64 as `Buffer` writes and reads it, and form bodies
  (`application/x-www-form-urlencoded`) as `URLSearchParams` writes them.

  The reader of base64 skips what is not in the alphabet, padding included, and drops bits that make
  no byte; the reader of form bodies is that of the URL standard, which cuts the text at `&`, and
  each part at its first `=`.  They read what was written (`decode_encode`,
  `decodeTexts_encodeTexts`).
-/
import Mathlib.Data.List.Basic
import Mathlib.Data.Nat.Notation

/-! ## UTF-8 -/

namespace Js

/-- The bytes of a text. -/
def utf8 (text : String) : List UInt8 := text.toUTF8.data.toList

/-- The text of bytes that are one. -/
def ofUtf8 (bytes : List UInt8) : Option String := String.fromUTF8? ⟨bytes.toArray⟩

theorem ofUtf8_utf8 (text : String) : ofUtf8 (utf8 text) = some text := by
  have hbytes : (⟨(utf8 text).toArray⟩ : ByteArray) = text.toUTF8 := by simp [utf8]
  rw [ofUtf8, hbytes]
  exact dif_pos text.isValidUTF8

theorem utf8_of_ofUtf8 {bytes : List UInt8} {text : String} (h : ofUtf8 bytes = some text) :
    utf8 text = bytes := by
  unfold ofUtf8 String.fromUTF8? at h
  split_ifs at h with hvalid
  obtain rfl := Option.some.inj h
  simp [utf8, String.fromUTF8]

end Js

/-! ## Base64 -/

namespace Js.Base64

/-! ### Bytes and digits -/

/-- The digits of bytes, six bits each. -/
def digits : List UInt8 → List ℕ
  | a :: b :: c :: rest =>
    a.toNat / 4 :: (a.toNat % 4 * 16 + b.toNat / 16) :: (b.toNat % 16 * 4 + c.toNat / 64) ::
      c.toNat % 64 :: digits rest
  | [a, b] => [a.toNat / 4, a.toNat % 4 * 16 + b.toNat / 16, b.toNat % 16 * 4]
  | [a] => [a.toNat / 4, a.toNat % 4 * 16]
  | [] => []

/-- The bytes of digits. -/
def bytes : List ℕ → List UInt8
  | w :: x :: y :: z :: rest =>
    .ofNat (w * 4 + x / 16) :: .ofNat (x % 16 * 16 + y / 4) :: .ofNat (y % 4 * 64 + z) :: bytes rest
  | [w, x, y] => [.ofNat (w * 4 + x / 16), .ofNat (x % 16 * 16 + y / 4)]
  | [w, x] => [.ofNat (w * 4 + x / 16)]
  | _ => []

theorem ofNat_eq {n : ℕ} {b : UInt8} (h : n = b.toNat) : UInt8.ofNat n = b := by
  rw [h, UInt8.ofNat_toNat]

theorem bytes_digits (bs : List UInt8) : bytes (digits bs) = bs := by
  fun_induction digits bs with
  | case1 a b c rest ih =>
    have hb := b.toNat_lt
    have hc := c.toNat_lt
    rw [bytes, ih, ofNat_eq (b := a) (by omega), ofNat_eq (b := b) (by omega),
      ofNat_eq (b := c) (by omega)]
  | case2 a b =>
    have hb := b.toNat_lt
    rw [bytes, ofNat_eq (b := a) (by omega), ofNat_eq (b := b) (by omega)]
  | case3 a => rw [bytes, ofNat_eq (b := a) (by omega)]
  | case4 => rfl

theorem digits_lt (bs : List UInt8) : ∀ n ∈ digits bs, n < 64 := by
  fun_induction digits bs with
  | case1 a b c rest ih =>
    have ha := a.toNat_lt
    have hb := b.toNat_lt
    have hc := c.toNat_lt
    simp only [List.mem_cons, forall_eq_or_imp]
    exact ⟨by omega, by omega, by omega, by omega, ih⟩
  | case2 a b =>
    have ha := a.toNat_lt
    have hb := b.toNat_lt
    simp only [List.mem_cons, forall_eq_or_imp, List.not_mem_nil, false_implies, implies_true,
      and_true]
    exact ⟨by omega, by omega, by omega⟩
  | case3 a =>
    have ha := a.toNat_lt
    simp only [List.mem_cons, forall_eq_or_imp, List.not_mem_nil, false_implies, implies_true,
      and_true]
    exact ⟨by omega, by omega⟩
  | case4 => simp

/-! ### Texts -/

/-- The character of a digit. -/
def digitChar (n : ℕ) : Char :=
  if n < 26 then .ofNat (n + 65)
  else if n < 52 then .ofNat (n + 71)
  else if n < 62 then .ofNat (n - 4)
  else if n = 62 then '+'
  else '/'

/-- The digit of a character, of the alphabet or of the one for URLs. -/
def digit? (c : Char) : Option ℕ :=
  if 'A' ≤ c ∧ c ≤ 'Z' then some (c.toNat - 65)
  else if 'a' ≤ c ∧ c ≤ 'z' then some (c.toNat - 71)
  else if '0' ≤ c ∧ c ≤ '9' then some (c.toNat + 4)
  else if c = '+' ∨ c = '-' then some 62
  else if c = '/' ∨ c = '_' then some 63
  else none

theorem digit?_digitChar : ∀ n < 64, digit? (digitChar n) = some n := by decide

/-- Padding up to a multiple of four. -/
def padding (n : ℕ) : List Char := List.replicate ((4 - n % 4) % 4) '='

/-- `buffer.toString('base64')`. -/
def encode (bs : List UInt8) : String :=
  String.ofList ((digits bs).map digitChar ++ padding (digits bs).length)

/-- `Buffer.from(text, 'base64')`. -/
def decode (text : String) : List UInt8 := bytes (text.toList.filterMap digit?)

theorem decode_encode (bs : List UInt8) : decode (encode bs) = bs := by
  have hpadding : (padding (digits bs).length).filterMap digit? = [] := by
    refine List.filterMap_eq_nil_iff.2 fun c hc => ?_
    rw [List.eq_of_mem_replicate hc]
    rfl
  have hdigits : ((digits bs).map digitChar).filterMap digit? = digits bs := by
    rw [List.filterMap_map]
    conv_rhs => rw [← List.filterMap_some (l := digits bs)]
    exact List.filterMap_congr fun n hn => digit?_digitChar n (digits_lt bs n hn)
  rw [decode, encode, String.toList_ofList, List.filterMap_append, hpadding, hdigits,
    List.append_nil, bytes_digits]

end Js.Base64

/-! ## Form bodies -/

namespace Js.FormUrl

/-! ### Parts of a body -/

def hexDigit (n : ℕ) : Char := if n < 10 then .ofNat (n + 48) else .ofNat (n + 55)

def hexDigit? (c : Char) : Option ℕ :=
  if '0' ≤ c ∧ c ≤ '9' then some (c.toNat - 48)
  else if 'A' ≤ c ∧ c ≤ 'F' then some (c.toNat - 55)
  else if 'a' ≤ c ∧ c ≤ 'f' then some (c.toNat - 87)
  else none

/-- Characters that are written as they are. -/
def isPlain (c : Char) : Bool := c.isAlphanum || c = '*' || c = '-' || c = '.' || c = '_'

def encodeByte (b : UInt8) : List Char :=
  if b = 32 then ['+']
  else if b < 128 ∧ isPlain (.ofNat b.toNat) then [.ofNat b.toNat]
  else ['%', hexDigit (b.toNat / 16), hexDigit (b.toNat % 16)]

/-- The bytes of a part of the text. -/
def decodeBytes : List Char → List UInt8
  | [] => []
  | '+' :: cs => 32 :: decodeBytes cs
  | '%' :: x :: y :: cs =>
    match hexDigit? x, hexDigit? y with
    | some m, some n => .ofNat (16 * m + n) :: decodeBytes cs
    | _, _ => 37 :: decodeBytes (x :: y :: cs)
  | c :: cs => String.utf8EncodeChar c ++ decodeBytes cs

theorem hexDigit?_hexDigit : ∀ n < 16, hexDigit? (hexDigit n) = some n := by decide

/-- Marks of the format are neither digits nor written as they are. -/
theorem hexDigit_ne : ∀ n < 16, hexDigit n ≠ '&' ∧ hexDigit n ≠ '=' := by decide

theorem isPlain_ne {c : Char} (h : isPlain c = true) : c ≠ '&' ∧ c ≠ '=' ∧ c ≠ '+' ∧ c ≠ '%' := by
  refine ⟨?_, ?_, ?_, ?_⟩ <;>
  · rintro rfl
    revert h
    decide

theorem not_mem_encodeByte (b : UInt8) : '&' ∉ encodeByte b ∧ '=' ∉ encodeByte b := by
  have hb := b.toNat_lt
  have hhigh := hexDigit_ne (b.toNat / 16) (by omega)
  have hlow := hexDigit_ne (b.toNat % 16) (by omega)
  unfold encodeByte
  split_ifs with hspace hplain
  · decide
  · have hne := isPlain_ne hplain.2
    simp [hne.1.symm, hne.2.1.symm]
  · simp [hhigh.1.symm, hhigh.2.symm, hlow.1.symm, hlow.2.symm]

theorem decodeBytes_plain {c : Char} (h : isPlain c = true) (cs : List Char) :
    decodeBytes (c :: cs) = String.utf8EncodeChar c ++ decodeBytes cs := by
  obtain ⟨-, -, hplus, hpercent⟩ := isPlain_ne h
  rw [decodeBytes]
  · exact hplus
  · intro x y cs' hc
    exact absurd hc hpercent

theorem utf8EncodeChar_ascii : ∀ n < 128, String.utf8EncodeChar (.ofNat n) = [.ofNat n] := by
  decide

theorem utf8EncodeChar_ofNat {b : UInt8} (h : b < 128) :
    String.utf8EncodeChar (.ofNat b.toNat) = [b] := by
  rw [utf8EncodeChar_ascii b.toNat (UInt8.lt_iff_toNat_lt.1 h), UInt8.ofNat_toNat]

theorem decodeBytes_encodeByte (b : UInt8) (cs : List Char) :
    decodeBytes (encodeByte b ++ cs) = b :: decodeBytes cs := by
  have hb := b.toNat_lt
  unfold encodeByte
  split_ifs with hspace hplain
  · rw [hspace]
    rfl
  · rw [List.singleton_append, decodeBytes_plain hplain.2, utf8EncodeChar_ofNat hplain.1]
    rfl
  · simp only [List.cons_append, List.nil_append, decodeBytes,
      hexDigit?_hexDigit (b.toNat / 16) (by omega), hexDigit?_hexDigit (b.toNat % 16) (by omega)]
    rw [Nat.div_add_mod, UInt8.ofNat_toNat]

/-- Bytes are read back. -/
theorem decodeBytes_encode (bs : List UInt8) : decodeBytes (bs.flatMap encodeByte) = bs := by
  induction bs with
  | nil => rfl
  | cons b bs ih => rw [List.flatMap_cons, decodeBytes_encodeByte, ih]

theorem not_mem_encode (bs : List UInt8) :
    '&' ∉ bs.flatMap encodeByte ∧ '=' ∉ bs.flatMap encodeByte := by
  constructor
  · intro h
    obtain ⟨b, -, hb⟩ := List.mem_flatMap.1 h
    exact (not_mem_encodeByte b).1 hb
  · intro h
    obtain ⟨b, -, hb⟩ := List.mem_flatMap.1 h
    exact (not_mem_encodeByte b).2 hb

/-! ### Fields -/

/-- A field: its name and its value. -/
abbrev Field := List UInt8 × List UInt8

def encodeField (f : Field) : List Char :=
  f.1.flatMap encodeByte ++ '=' :: f.2.flatMap encodeByte

/-- The fields, with `&` between them. -/
def encode : List Field → List Char
  | [] => []
  | [f] => encodeField f
  | f :: fs => encodeField f ++ '&' :: encode fs

def decodeField (cs : List Char) : Field :=
  (decodeBytes (cs.takeWhile (· ≠ '=')), decodeBytes ((cs.dropWhile (· ≠ '=')).drop 1))

/-- The fields of a text. -/
def decode (cs : List Char) : List Field :=
  ((cs.splitOn '&').filter (· ≠ [])).map decodeField

theorem decodeField_encodeField (f : Field) : decodeField (encodeField f) = f := by
  have hname : ∀ c ∈ f.1.flatMap encodeByte, c ≠ '=' := by
    rintro c hc rfl
    exact (not_mem_encode f.1).2 hc
  have htake : (encodeField f).takeWhile (· ≠ '=') = f.1.flatMap encodeByte := by
    rw [encodeField, List.takeWhile_append_of_pos (by simpa using hname)]
    simp
  have hdrop : (encodeField f).dropWhile (· ≠ '=') = '=' :: f.2.flatMap encodeByte := by
    rw [encodeField, List.dropWhile_append_of_pos (by simpa using hname)]
    simp
  rw [decodeField, htake, hdrop, List.drop_one, List.tail_cons, decodeBytes_encode,
    decodeBytes_encode]

theorem not_mem_encodeField (f : Field) : '&' ∉ encodeField f := by
  simp [encodeField, (not_mem_encode f.1).1, (not_mem_encode f.2).1]

theorem encodeField_ne_nil (f : Field) : encodeField f ≠ [] := by simp [encodeField]

/-- Fields that were written are read back. -/
theorem decode_encode (fs : List Field) : decode (encode fs) = fs := by
  fun_induction encode fs with
  | case1 => rfl
  | case2 f => simp [decode, List.splitOn_eq_singleton (not_mem_encodeField f), encodeField_ne_nil,
      decodeField_encodeField]
  | case3 f fs _ ih =>
    rw [decode, List.splitOn_append_cons_self_of_not_mem (not_mem_encodeField f),
      List.filter_cons_of_pos (by simp [encodeField_ne_nil]), List.map_cons, decodeField_encodeField]
    exact congrArg (f :: ·) ih

/-- `new URLSearchParams(fields).toString()`. -/
def encodeTexts (fields : List (String × String)) : String :=
  String.ofList (encode (fields.map fun f => (utf8 f.1, utf8 f.2)))

/-- The fields of a body, if all are texts. -/
def decodeTexts (body : String) : Option (List (String × String)) :=
  (decode body.toList).mapM fun f => return (← ofUtf8 f.1, ← ofUtf8 f.2)

theorem decodeTexts_encodeTexts (fields : List (String × String)) :
    decodeTexts (encodeTexts fields) = some fields := by
  rw [decodeTexts, encodeTexts, String.toList_ofList, decode_encode]
  induction fields with
  | nil => rfl
  | cons f fields ih =>
    rw [List.map_cons, List.mapM_cons, ih, ofUtf8_utf8, ofUtf8_utf8]
    rfl

end Js.FormUrl
