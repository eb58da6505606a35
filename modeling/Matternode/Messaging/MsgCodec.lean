/-
  File:      Matternode/Messaging/MsgCodec.lean
  Subject:   MsgCodec: the nonce of a frame, and frames encrypted and decrypted.

  The cipher is a parameter (`Aead`). A frame decrypts with the header it carries, so the size of
  the header and the nonce are read from the encrypted frame too.

  * `headerSize`, `getNonce`, `encrypt`, `decrypt`;
  * `getNonce_header` -- a nonce depends on the header of its frame only;
  * `decrypt_encrypt` -- a frame at least as long as its header decrypts to itself;
  * `encrypt_decrypt` -- what decrypts encrypts to the frame it came from;
  * `encrypt_decrypt_inverse` -- the two together.
-/
import Matternode.Base.Aead
import Matternode.Js.Buffer

namespace Matternode.Messaging.MsgCodec

open Base Js

def msgFlagsSrcPresent : Nat := 0x04
def msgFlagsDstPresent : Nat := 0x01
def msgFlagsDstGroup : Nat := 0x02

/-- MsgCodec.NODE_ID_ANY. -/
def nodeIdAny : Nat := 0xFFFFFFFFFFFFFFFF

/-- `msg[0] & bit`, as a truth value; a frame without bytes has no bits. -/
def hasFlag (msg : Bytes) (bit : Nat) : Bool := (msg.headD 0).toNat &&& bit ≠ 0

/-- The header of a frame as `encrypt` and `decrypt` count it. -/
def headerSize (msg : Bytes) : Nat :=
  8 + (if hasFlag msg msgFlagsSrcPresent then 8 else 0)
    + (if hasFlag msg msgFlagsDstPresent then 8 else 0)
    + (if hasFlag msg msgFlagsDstGroup then 2 else 0)

/-- `Buffer.concat([a, b], 13)`. -/
def concat13 (a b : Bytes) : Bytes := (a ++ b ++ bufferAlloc 13).take 13

def getNonce (msg : Bytes) (srcNode : Nat := 0) : Bytes :=
  let src := if hasFlag msg msgFlagsSrcPresent then subarray msg 8 16 else toLE 8 srcNode
  concat13 (subarray msg 3 8) src

def encrypt (A : Aead) (msg key : Bytes) : Bytes :=
  let nonce := getNonce msg
  let aad := subarray msg 0 (headerSize msg)
  let pay := subarrayFrom msg (headerSize msg)
  aad ++ (A.lock key nonce aad pay).1 ++ (A.lock key nonce aad pay).2

/-- `none` is the null a failed authentication answers. -/
def decrypt (A : Aead) (msg key : Bytes) : Option Bytes :=
  let nonce := getNonce msg
  let aad := subarray msg 0 (headerSize msg)
  let enc := subarray msg (headerSize msg) ((msg.length : Int) - 16)
  let mic := subarrayFrom msg ((msg.length : Int) - 16)
  (A.unlock key nonce aad enc mic).map (aad ++ ·)

/-! ## What the header decides -/

/-- The header announces eight bytes at least. -/
theorem headerSize_ge (msg : Bytes) : 8 ≤ headerSize msg := by
  unfold headerSize
  omega

theorem hasFlag_append {msg : Bytes} (h : 0 < msg.length) (rest : Bytes) (bit : Nat) :
    hasFlag (msg ++ rest) bit = hasFlag msg bit := by
  cases msg with
  | nil => cases h
  | cons b bs => rfl

theorem headerSize_append {msg : Bytes} (h : 0 < msg.length) (rest : Bytes) :
    headerSize (msg ++ rest) = headerSize msg := by
  unfold headerSize
  simp only [hasFlag_append h]

/-- A range within the first part of a frame. -/
theorem subarray_append_left {a b : Bytes} {start stop : Nat} (h : stop ≤ a.length) :
    subarray (a ++ b) start stop = subarray a start stop := by
  rw [subarray_nat, subarray_nat, List.take_append_of_le_length h]

/-- **A nonce depends on the header only.** -/
theorem getNonce_header {hdr : Bytes} (h : hdr.length = headerSize hdr) (rest : Bytes)
    (srcNode : Nat) : getNonce (hdr ++ rest) srcNode = getNonce hdr srcNode := by
  have hge := headerSize_ge hdr
  have hpos : 0 < hdr.length := by omega
  have h8 : subarray (hdr ++ rest) (3 : Nat) (8 : Nat) = subarray hdr (3 : Nat) (8 : Nat) :=
    subarray_append_left (by omega)
  unfold getNonce
  rw [hasFlag_append hpos]
  by_cases hs : hasFlag hdr msgFlagsSrcPresent = true
  · have h16 : subarray (hdr ++ rest) (8 : Nat) (16 : Nat) = subarray hdr (8 : Nat) (16 : Nat) := by
      apply subarray_append_left
      rw [h]
      unfold headerSize
      rw [if_pos hs]
      omega
    simp only [if_pos hs]
    exact congrArg₂ concat13 h8 h16
  · simp only [if_neg hs]
    exact congrArg₂ concat13 h8 rfl

/-- A frame that holds its header splits at it. -/
theorem header_split {msg : Bytes} (h : headerSize msg ≤ msg.length) :
    ∃ hdr pay, msg = hdr ++ pay ∧ hdr.length = headerSize hdr ∧ headerSize msg = headerSize hdr := by
  have hge := headerSize_ge msg
  have hlen : (msg.take (headerSize msg)).length = headerSize msg := by
    rw [List.length_take, Nat.min_eq_left h]
  have hsize : headerSize msg = headerSize (msg.take (headerSize msg)) := by
    have hpos : 0 < (msg.take (headerSize msg)).length := by omega
    have happ := headerSize_append hpos (msg.drop (headerSize msg))
    rwa [List.take_append_drop] at happ
  exact ⟨msg.take (headerSize msg), msg.drop (headerSize msg),
    (List.take_append_drop ..).symm, by rw [← hsize, hlen], hsize⟩

/-- `encrypt` of a frame split at its header. -/
theorem encrypt_split (A : Aead) {hdr : Bytes} (h : hdr.length = headerSize hdr)
    (pay key : Bytes) :
    encrypt A (hdr ++ pay) key =
      hdr ++ (A.lock key (getNonce hdr) hdr pay).1 ++ (A.lock key (getNonce hdr) hdr pay).2 := by
  have hge := headerSize_ge hdr
  have hsize := headerSize_append (show 0 < hdr.length by omega) pay
  have haad : subarray (hdr ++ pay) ((0 : Nat) : Int) (headerSize hdr : Nat) = hdr := by
    rw [subarray_nat, ← h, List.take_left, List.drop_zero]
  have hpay : subarrayFrom (hdr ++ pay) (headerSize hdr : Nat) = pay := by
    rw [subarrayFrom_nat, ← h, List.drop_left]
  unfold encrypt
  simp only [hsize, getNonce_header h, hpay]
  rw [show subarray (hdr ++ pay) 0 (headerSize hdr : Nat) = hdr from haad]

/-- `decrypt` of a frame split at its header and its tag. -/
theorem decrypt_split (A : Aead) {hdr tag : Bytes} (h : hdr.length = headerSize hdr)
    (htag : tag.length = 16) (cipher key : Bytes) :
    decrypt A (hdr ++ cipher ++ tag) key =
      (A.unlock key (getNonce hdr) hdr cipher tag).map (hdr ++ ·) := by
  have hge := headerSize_ge hdr
  have hsize : headerSize (hdr ++ cipher ++ tag) = headerSize hdr := by
    rw [List.append_assoc]
    exact headerSize_append (by omega) _
  have hnonce : getNonce (hdr ++ cipher ++ tag) 0 = getNonce hdr := by
    rw [List.append_assoc]
    exact getNonce_header h _ 0
  have hlen : (((hdr ++ cipher ++ tag).length : Nat) : Int) - 16 = (hdr ++ cipher).length := by
    rw [show (hdr ++ cipher ++ tag).length = (hdr ++ cipher).length + tag.length from
      List.length_append, htag]
    omega
  have haad : subarray (hdr ++ cipher ++ tag) ((0 : Nat) : Int) (headerSize hdr : Nat) = hdr := by
    rw [subarray_nat, List.append_assoc, ← h, List.take_left, List.drop_zero]
  have henc : subarray (hdr ++ cipher ++ tag) (headerSize hdr : Nat)
      ((hdr ++ cipher).length : Nat) = cipher := by
    rw [subarray_nat, List.take_left, ← h, List.drop_left]
  have hmic : subarrayFrom (hdr ++ cipher ++ tag) ((hdr ++ cipher).length : Nat) = tag := by
    rw [subarrayFrom_nat, List.drop_left]
  unfold decrypt
  simp only [hsize, hnonce, hlen, henc, hmic]
  rw [show subarray (hdr ++ cipher ++ tag) 0 (headerSize hdr : Nat) = hdr from haad]

/-- A frame without room for a tag is refused. -/
theorem decrypt_of_short {A : Aead} (hA : A.TagSized) {msg : Bytes} (h : msg.length < 16)
    (key : Bytes) : decrypt A msg key = none := by
  have hmic : (subarrayFrom msg ((msg.length : Int) - 16)).length ≠ 16 := by
    have hle := length_subarrayFrom_le msg ((msg.length : Int) - 16)
    omega
  unfold decrypt
  simp only [hA _ _ _ _ _ hmic]
  rfl

/-- What decrypts keeps the first eight bytes. -/
theorem length_of_decrypt {A : Aead} {msg key plain : Bytes} (hlen : 8 ≤ msg.length)
    (h : decrypt A msg key = some plain) : 8 ≤ plain.length := by
  have hge := headerSize_ge msg
  obtain ⟨pay, -, rfl⟩ := Option.map_eq_some_iff.mp h
  rw [List.length_append, show subarray msg 0 (headerSize msg) =
    subarray msg ((0 : Nat) : Int) (headerSize msg) from rfl, subarray_nat, List.drop_zero,
    List.length_take]
  omega

/-- **A frame at least as long as its header decrypts to itself.** -/
theorem decrypt_encrypt {A : Aead} (hA : A.Correct) {msg : Bytes}
    (h : headerSize msg ≤ msg.length) (key : Bytes) :
    decrypt A (encrypt A msg key) key = some msg := by
  obtain ⟨hdr, pay, rfl, hhdr, -⟩ := header_split h
  rw [encrypt_split A hhdr, decrypt_split A hhdr (hA.length_tag ..), hA.unlock_lock]
  rfl

/-- Under another key it does not decrypt. -/
theorem decrypt_encrypt_other {A : Aead} (hA : A.Correct) (hsep : A.KeysSeparate) {msg : Bytes}
    (h : headerSize msg ≤ msg.length) {key key' : Bytes} (hk : key.length = 16)
    (hk' : key'.length = 16) (hne : key ≠ key') :
    decrypt A (encrypt A msg key) key' = none := by
  obtain ⟨hdr, pay, rfl, hhdr, -⟩ := header_split h
  rw [encrypt_split A hhdr, decrypt_split A hhdr (hA.length_tag ..), hsep _ _ _ _ _ hk hk' hne]
  rfl

/-- A frame that holds its header and a tag splits at both. -/
theorem frame_split {frame : Bytes} (h : headerSize frame + 16 ≤ frame.length) :
    ∃ hdr cipher tag, frame = hdr ++ cipher ++ tag ∧ hdr.length = headerSize hdr ∧
      tag.length = 16 := by
  have hle : headerSize frame ≤ frame.length := by omega
  obtain ⟨hdr, rest, rfl, hhdr, hsize⟩ := header_split hle
  rw [hsize, ← hhdr, List.length_append] at h
  have hrest : 16 ≤ rest.length := by omega
  refine ⟨hdr, rest.take (rest.length - 16), rest.drop (rest.length - 16), ?_, hhdr, ?_⟩
  · rw [List.append_assoc, List.take_append_drop]
  · rw [List.length_drop]
    omega

/-- **What decrypts encrypts to the frame it came from.** -/
theorem encrypt_decrypt {A : Aead} (hA : A.Determined) {frame plain key : Bytes}
    (h : headerSize frame + 16 ≤ frame.length) (hdec : decrypt A frame key = some plain) :
    encrypt A plain key = frame := by
  obtain ⟨hdr, cipher, tag, rfl, hhdr, htag⟩ := frame_split h
  rw [decrypt_split A hhdr htag] at hdec
  obtain ⟨pay, hopen, rfl⟩ := Option.map_eq_some_iff.mp hdec
  have hlock := hA key (getNonce hdr) hdr cipher tag pay hopen
  rw [encrypt_split A hhdr, hlock]

/-- **Encryption and decryption are inverse** on frames that hold what their flags announce. -/
theorem encrypt_decrypt_inverse {A : Aead} (hA : A.Correct) (hdet : A.Determined) (key : Bytes) :
    (∀ msg, headerSize msg ≤ msg.length → decrypt A (encrypt A msg key) key = some msg) ∧
      ∀ frame plain, headerSize frame + 16 ≤ frame.length → decrypt A frame key = some plain →
        encrypt A plain key = frame := by
  constructor
  · intro msg hlen
    exact decrypt_encrypt hA hlen key
  · intro frame plain hlen hdec
    exact encrypt_decrypt hdet hlen hdec

/-- A header with a source, a node and a group, and a frame of it. -/
theorem encrypt_decrypt_inverse_allFlags :
    let hdr : Bytes := 0x07 :: List.replicate 25 1
    let tag : Bytes := List.replicate 16 9
    decrypt Aead.keyTag (encrypt Aead.keyTag (hdr ++ [2, 3]) tag) tag = some (hdr ++ [2, 3]) ∧
      encrypt Aead.keyTag (hdr ++ [2, 3]) tag = hdr ++ [2, 3] ++ tag := by
  intro hdr tag
  have hboth := encrypt_decrypt_inverse Aead.keyTag_correct Aead.keyTag_determined tag
  exact ⟨hboth.1 _ (by decide), hboth.2 _ _ (by decide) (by decide)⟩

end Matternode.Messaging.MsgCodec
