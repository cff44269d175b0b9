/-
  Credentials at rest (`crypto.ts` of `@ax10m/persistence`).

  A text is stored as `base64(iv ‖ tag ‖ ciphertext)`.  The cipher is a parameter, with what is known
  of it (`Gcm.Lawful`).  `decrypt_encryptCredentials`: a blob that was encrypted under a key comes
  back; `encrypt_of_decryptCredentials`: under that key no other bytes give a text.
-/
import AX10M.Js.Bytes

namespace AX10M

open Js

/-- AES-256-GCM with tags of 16 bytes: `encrypt key iv plaintext` is a ciphertext and its tag. -/
structure Gcm where
  encrypt : List UInt8 → List UInt8 → List UInt8 → List UInt8 × List UInt8
  /-- `none` if the tag is not the ciphertext's -/
  decrypt : List UInt8 → List UInt8 → List UInt8 → List UInt8 → Option (List UInt8)

/-- Lengths of the nonce, the tag and the key. -/
def ivLen : ℕ := 12

def tagLen : ℕ := 16

def keyLen : ℕ := 32

/-- What the cipher does under keys and nonces of its lengths. -/
structure Gcm.Lawful (gcm : Gcm) : Prop where
  tag_length : ∀ key iv plaintext, (gcm.encrypt key iv plaintext).2.length = tagLen
  /-- a tag of full length is accepted for what was encrypted, and for nothing else -/
  decrypt_iff : ∀ key iv tag ct plaintext, key.length = keyLen → iv.length = ivLen →
    tag.length = tagLen →
    (gcm.decrypt key iv tag ct = some plaintext ↔ gcm.encrypt key iv plaintext = (ct, tag))

def assertKey (key : List UInt8) : Except String Unit :=
  if key.length ≠ keyLen then .error s!"encryption key must be 32 bytes; got {key.length}" else .ok ()

/-- `/[0-9a-fA-F]/`. -/
def isHexDigit (c : Char) : Bool := c.isDigit || ('a' ≤ c && c ≤ 'f') || ('A' ≤ c && c ≤ 'F')

def hexValue (c : Char) : ℕ :=
  if c.isDigit then c.toNat - '0'.toNat
  else if 'a' ≤ c then c.toNat - 'a'.toNat + 10
  else c.toNat - 'A'.toNat + 10

/-- `Buffer.from(text, 'hex')`, of pairs of digits. -/
def ofHex : List Char → List UInt8
  | a :: b :: rest => .ofNat (hexValue a * 16 + hexValue b) :: ofHex rest
  | _ => []

def malformedKey : String :=
  "AX10M_ENCRYPTION_KEY must be 64 hex chars (a 256-bit key). Generate with generateKeyHex()."

/-- Encrypt a text, with a nonce that was drawn. -/
def encryptCredentials (gcm : Gcm) (iv : List UInt8) (plaintext : String) (key : List UInt8) :
    Except String String := do
  assertKey key
  let (ct, tag) := gcm.encrypt key iv (utf8 plaintext)
  return Base64.encode (iv ++ tag ++ ct)

/-- Decrypt a blob. -/
def decryptCredentials (gcm : Gcm) (blob : String) (key : List UInt8) : Except String String := do
  assertKey key
  let buf := Base64.decode blob
  let iv := buf.take ivLen
  let tag := (buf.drop ivLen).take tagLen
  let ct := buf.drop (ivLen + tagLen)
  match (gcm.decrypt key iv tag ct).bind ofUtf8 with
  | some plaintext => return plaintext
  | none => throw "Unsupported state or unable to authenticate data"

/-- The key of the environment. -/
def loadKeyFromEnv (hex : Option String) : Except String (List UInt8) :=
  match hex with
  | some hex =>
    if hex.toList.length = 64 ∧ hex.toList.all isHexDigit then .ok (ofHex hex.toList)
    else .error malformedKey
  | none => .error malformedKey

/-! ## Blobs -/

variable {gcm : Gcm} {key iv : List UInt8}

theorem assertKey_eq_ok : assertKey key = .ok () ↔ key.length = keyLen := by
  unfold assertKey
  split_ifs with h
  · simp [h]
  · simpa using h

theorem length_ofHex (cs : List Char) : (ofHex cs).length = cs.length / 2 := by
  fun_induction ofHex cs with
  | case1 a b rest ih =>
    rw [List.length_cons, ih, List.length_cons, List.length_cons]
    omega
  | case2 cs h =>
    rcases cs with _ | ⟨a, _ | ⟨b, rest⟩⟩
    · rfl
    · simp
    · exact absurd rfl (h a b rest)

/-- A key of the environment is one for the cipher. -/
theorem length_of_loadKeyFromEnv {hex : Option String} (h : loadKeyFromEnv hex = .ok key) :
    key.length = keyLen := by
  cases hex with
  | none => cases h
  | some hex =>
    unfold loadKeyFromEnv at h
    simp only at h
    split_ifs at h with hhex
    obtain rfl := Except.ok.inj h
    rw [length_ofHex, hhex.1]
    rfl

/-- The parts of a blob. -/
theorem parts_append {tag : List UInt8} (hiv : iv.length = ivLen) (htag : tag.length = tagLen)
    (ct : List UInt8) :
    (iv ++ tag ++ ct).take ivLen = iv ∧ ((iv ++ tag ++ ct).drop ivLen).take tagLen = tag ∧
      (iv ++ tag ++ ct).drop (ivLen + tagLen) = ct := by
  refine ⟨?_, ?_, ?_⟩
  · rw [List.append_assoc, ← hiv, List.take_left]
  · rw [List.append_assoc, ← hiv, List.drop_left, ← htag, List.take_left]
  · rw [← hiv, ← htag, ← List.length_append, List.drop_left]

theorem encryptCredentials_eq (hkey : key.length = keyLen) (plaintext : String) :
    encryptCredentials gcm iv plaintext key = .ok (Base64.encode
      (iv ++ (gcm.encrypt key iv (utf8 plaintext)).2 ++
        (gcm.encrypt key iv (utf8 plaintext)).1)) := by
  rw [encryptCredentials, assertKey_eq_ok.2 hkey]
  rfl

theorem decryptCredentials_eq (hkey : key.length = keyLen) {blob plaintext : String} :
    decryptCredentials gcm blob key = .ok plaintext ↔
      (gcm.decrypt key ((Base64.decode blob).take ivLen)
        (((Base64.decode blob).drop ivLen).take tagLen)
        ((Base64.decode blob).drop (ivLen + tagLen))).bind ofUtf8 = some plaintext := by
  simp only [decryptCredentials, assertKey_eq_ok.2 hkey, bind, Except.bind]
  cases (gcm.decrypt key ((Base64.decode blob).take ivLen)
    (((Base64.decode blob).drop ivLen).take tagLen)
    ((Base64.decode blob).drop (ivLen + tagLen))).bind ofUtf8 with
  | some p => simp [pure, Except.pure]
  | none => simp [throw, throwThe, MonadExceptOf.throw]

/-- A blob that was encrypted comes back. -/
theorem decrypt_encryptCredentials (hgcm : gcm.Lawful) (hkey : key.length = keyLen)
    (hiv : iv.length = ivLen) (plaintext : String) :
    ∃ blob, encryptCredentials gcm iv plaintext key = .ok blob ∧
      decryptCredentials gcm blob key = .ok plaintext := by
  refine ⟨_, encryptCredentials_eq hkey plaintext, ?_⟩
  have htag := hgcm.tag_length key iv (utf8 plaintext)
  obtain ⟨h₁, h₂, h₃⟩ := parts_append hiv htag (gcm.encrypt key iv (utf8 plaintext)).1
  rw [decryptCredentials_eq hkey, Base64.decode_encode, h₁, h₂, h₃,
    (hgcm.decrypt_iff key iv _ _ (utf8 plaintext) hkey hiv htag).2 rfl, Option.bind_some,
    ofUtf8_utf8]

/-- A blob with a whole tag gives a text only if its bytes are those of the text, encrypted. -/
theorem encrypt_of_decryptCredentials (hgcm : gcm.Lawful) {blob plaintext : String}
    (hlength : ivLen + tagLen ≤ (Base64.decode blob).length)
    (h : decryptCredentials gcm blob key = .ok plaintext) :
    ∃ iv blob', iv.length = ivLen ∧ encryptCredentials gcm iv plaintext key = .ok blob' ∧
      Base64.decode blob' = Base64.decode blob := by
  have hkey : key.length = keyLen := by
    by_contra hne
    rw [decryptCredentials, assertKey, if_pos hne] at h
    cases h
  rw [decryptCredentials_eq hkey] at h
  obtain ⟨bytes, hbytes, htext⟩ := Option.bind_eq_some_iff.1 h
  have hiv : ((Base64.decode blob).take ivLen).length = ivLen := by
    rw [List.length_take]
    omega
  have htag : (((Base64.decode blob).drop ivLen).take tagLen).length = tagLen := by
    rw [List.length_take, List.length_drop]
    omega
  rw [hgcm.decrypt_iff key _ _ _ _ hkey hiv htag] at hbytes
  refine ⟨_, _, hiv, encryptCredentials_eq hkey plaintext, ?_⟩
  rw [Base64.decode_encode, utf8_of_ofUtf8 htext, hbytes, ← List.drop_drop, List.append_assoc,
    List.take_append_drop, List.take_append_drop]

end AX10M
