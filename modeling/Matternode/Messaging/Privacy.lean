/-
  File:      Matternode/Messaging/Privacy.lean
  Subject:   Message.encrypt and privacy: the header hidden under the tag of its own frame.

  The sender encrypts a message, then hides its header from the counter up to the payload. The
  receiver computes the range and the privacy nonce again, from a frame in which the range still is
  hidden. What they are computed from stands outside it: the first four bytes and the last sixteen.

  * `Crypto.privacyEncrypt` -- a keystream over its input, by key, nonce and position;
  * `nonce`, `privacyNonce`, `encrypt`, `decrypt`, `privacyEncrypt`, `privacyDecrypt`;
  * `Alike` -- messages that agree in their first four bytes, and what they then agree in;
  * `obfuscate_split` -- what hiding and showing come to;
  * `privacy_roundTrip` -- the four steps of sender and receiver.
-/
import Matternode.Messaging.Message

namespace Matternode.Messaging

open Base Js

/-! ## 1. Definitions -/

namespace Crypto

/-- The keystream of the cipher, by key, nonce and position. -/
abbrev Keystream := (key nonce : Bytes) → Nat → UInt8

/-- Crypto.PrivacyEncrypt. -/
def privacyEncrypt (ks : Keystream) (symmetricKey plaintext nonce : Bytes) : Bytes :=
  xorStream (ks symmetricKey nonce) plaintext

/-- Crypto.CRYPTO_AEAD_MIC_LENGTH_BYTES. -/
def aeadMicLengthBytes : Nat := 16

end Crypto

namespace Message

def messageHeaderCleartextSize : Nat := 4

def pflag (m : Message) : Except JsError Bool := do
  return (← m.securityFlags) &&& 0x80 ≠ 0

def mic (m : Message) : Except JsError Bytes :=
  match m.encrypted with
  | none => .error .typeError
  | some enc => .ok (subarray enc ((enc.length : Int) - Crypto.aeadMicLengthBytes) enc.length)

/-- `get Nonce()`. -/
def nonce (m : Message) : Except JsError Bytes := do
  let sourceNodeId ← m.sourceNodeId
  let sourceNodeId := if sourceNodeId = MsgCodec.nodeIdAny then 0 else sourceNodeId
  return MsgCodec.getNonce m.buffer sourceNodeId

def micFragmentSize : Nat := 11

/-- `get PrivacyNonce()`. -/
def privacyNonce (m : Message) : Except JsError Bytes := do
  let sessionId ← m.sessionId
  let mic ← m.mic
  let micFragment := subarray mic (Crypto.aeadMicLengthBytes - micFragmentSize : Nat)
    Crypto.aeadMicLengthBytes
  let privacyNonce ← writeUInt16BE (bufferAlloc (micFragmentSize + 2)) (.nat sessionId) 0
  fill privacyNonce micFragment 2

/-- `encrypt(key, apply)`: the answer, and the message. -/
def encrypt (A : Aead) (key : Bytes) (m : Message) (apply : Bool := true) :
    Except JsError (Option Bytes × Message) := do
  if ← m.isUnencrypted then return (none, m)
  let buf := MsgCodec.encrypt A m.buffer key
  return (some buf, if apply then { m with encrypted := some buf } else m)

/-- `decrypt(key, apply)`. -/
def decrypt (A : Aead) (key : Bytes) (m : Message) (apply : Bool := true) :
    Except JsError (Option Bytes × Message) := do
  if ← m.isUnencrypted then return (none, m)
  match m.encrypted with
  | none => throw .typeError
  | some buf =>
    match MsgCodec.decrypt A buf key with
    | none => return (none, m)
    | some dmsg => return (some dmsg, if apply then { m with buffer := dmsg } else m)

/-- The frame with the keystream over the range from the counter up to the payload. -/
def obfuscate (ks : Crypto.Keystream) (privacyKey : Bytes) (m : Message) : Except JsError Bytes := do
  let offsetEnd ← m.payloadOffset
  match m.encrypted with
  | none => throw .typeError
  | some enc =>
    let text := subarray enc messageHeaderCleartextSize offsetEnd
    let header := Crypto.privacyEncrypt ks privacyKey text (← m.privacyNonce)
    return subarray enc 0 messageHeaderCleartextSize ++ header ++ subarrayFrom enc offsetEnd

/-- `privacyEncrypt(privacyKey, apply)`. -/
def privacyEncrypt (ks : Crypto.Keystream) (privacyKey : Bytes) (m : Message)
    (apply : Bool := true) : Except JsError (Option Bytes × Message) := do
  if !(← m.pflag) then return (m.encrypted, m)
  let privateMessage ← m.obfuscate ks privacyKey
  return (some privateMessage, if apply then { m with encrypted := some privateMessage } else m)

/-- `privacyDecrypt(privacyKey, apply)`: the buffer is replaced too, for the nonce. -/
def privacyDecrypt (ks : Crypto.Keystream) (privacyKey : Bytes) (m : Message)
    (apply : Bool := true) : Except JsError (Option Bytes × Message) := do
  if !(← m.pflag) then return (m.encrypted, m)
  let plainMessage ← m.obfuscate ks privacyKey
  return (some plainMessage,
    if apply then { m with encrypted := some plainMessage, buffer := plainMessage } else m)

/-! ## 2. What the first four bytes decide -/

/-- Messages that agree in what their first four bytes say. -/
structure Alike (m m' : Message) : Prop where
  messageFlags : m'.messageFlags = m.messageFlags
  sessionId : m'.sessionId = m.sessionId
  securityFlags : m'.securityFlags = m.securityFlags

theorem alike_of_start {m m' : Message} {start rest rest' : Bytes} (hs : start.length = 4)
    (h : m.buffer = start ++ rest) (h' : m'.buffer = start ++ rest') : Alike m m' := by
  have hread {w off : Nat} (hle : off + w ≤ 4) :
      readUIntLE w m'.buffer off = readUIntLE w m.buffer off := by
    rw [h, h', readUIntLE_append_left (by omega), readUIntLE_append_left (by omega)]
  exact ⟨hread (by decide), hread (by decide), hread (by decide)⟩

section Alike

variable {m m' : Message} (h : Alike m m')

include h

theorem alike_sflag : m'.sflag = m.sflag := by
  unfold sflag
  rw [h.messageFlags]

theorem alike_pflag : m'.pflag = m.pflag := by
  unfold pflag
  rw [h.securityFlags]

theorem alike_payloadOffset : m'.payloadOffset = m.payloadOffset := by
  unfold payloadOffset dsiz
  rw [alike_sflag h, h.messageFlags]

theorem alike_isUnencrypted : m'.isUnencrypted = m.isUnencrypted := by
  unfold isUnencrypted sessionType
  rw [h.securityFlags, h.sessionId]

/-- The privacy nonce depends on the session id and on the tag. -/
theorem alike_privacyNonce (hmic : m'.mic = m.mic) : m'.privacyNonce = m.privacyNonce := by
  unfold privacyNonce
  rw [h.sessionId, hmic]

end Alike

/-! ## 3. Headers -/

/-- The flags of a message that has a first byte. -/
theorem messageFlags_eq {m : Message} (h : 0 < m.buffer.length) :
    m.messageFlags = .ok (m.buffer.headD 0).toNat := by
  cases hb : m.buffer with
  | nil =>
    rw [hb] at h
    cases h
  | cons b bs =>
    unfold messageFlags
    rw [hb]
    simp [readUInt8, readUIntLE, readBytes, Except.map, ofLE]

theorem sflag_eq {m : Message} (h : 0 < m.buffer.length) :
    m.sflag = .ok (MsgCodec.hasFlag m.buffer MsgCodec.msgFlagsSrcPresent) := by
  unfold sflag
  rw [messageFlags_eq h]
  rfl

/-- **The payload begins within the header that is authenticated.** The two are counted from the
    same flags; with both bits of the destination set, MsgCodec counts both destinations, and
    `PayloadOffset` none. -/
theorem payloadOffset_le {m : Message} (h : 0 < m.buffer.length) :
    ∃ off, m.payloadOffset = .ok off ∧ 8 ≤ off ∧ off ≤ MsgCodec.headerSize m.buffer := by
  have hdst (b : Nat) : (if b &&& 3 = 1 then 8 else if b &&& 3 = 2 then 2 else 0) ≤
      (if b &&& 1 ≠ 0 then 8 else 0) + (if b &&& 2 ≠ 0 then 2 else 0) := by
    have h1 : b &&& 1 = (b &&& 3) &&& 1 := (Nat.and_assoc b 3 1).symm
    have h2 : b &&& 2 = (b &&& 3) &&& 2 := (Nat.and_assoc b 3 2).symm
    have hlt : b &&& 3 < 4 := Nat.lt_succ_of_le Nat.and_le_right
    rw [h1, h2]
    generalize b &&& 3 = d at hlt
    have hall : ∀ d < 4, (if d = 1 then 8 else if d = 2 then 2 else 0) ≤
        (if d &&& 1 ≠ 0 then 8 else 0) + (if d &&& 2 ≠ 0 then 2 else 0) := by decide
    exact hall d hlt
  have hle := hdst (m.buffer.headD 0).toNat
  unfold payloadOffset dsiz
  rw [sflag_eq h, messageFlags_eq h]
  refine ⟨_, rfl, ?_, ?_⟩
  · unfold messageHeaderMinSize
    omega
  · have hflag (bit size : Nat) : (if MsgCodec.hasFlag m.buffer bit then size else 0) =
        if (m.buffer.headD 0).toNat &&& bit ≠ 0 then size else 0 := by
      simp [MsgCodec.hasFlag]
    unfold MsgCodec.headerSize messageHeaderMinSize
    rw [hflag MsgCodec.msgFlagsDstPresent, hflag MsgCodec.msgFlagsDstGroup]
    unfold MsgCodec.msgFlagsDstPresent MsgCodec.msgFlagsDstGroup
    omega

/-- The encryption nonce is read from the header. -/
theorem nonce_of_header {m : Message} {hdr rest : Bytes} (hm : m.buffer = hdr ++ rest)
    (hhdr : hdr.length = MsgCodec.headerSize hdr) :
    m.nonce = ({ buffer := hdr } : Message).nonce ∧
      ∃ n, ({ buffer := hdr } : Message).nonce = .ok n := by
  have hge := MsgCodec.headerSize_ge hdr
  have hpos : 0 < hdr.length := by omega
  have hmpos : 0 < m.buffer.length := by
    rw [hm, List.length_append]
    omega
  have hs : m.sflag = .ok (MsgCodec.hasFlag hdr MsgCodec.msgFlagsSrcPresent) := by
    rw [sflag_eq hmpos, hm, MsgCodec.hasFlag_append hpos]
  have hs' : ({ buffer := hdr } : Message).sflag =
      .ok (MsgCodec.hasFlag hdr MsgCodec.msgFlagsSrcPresent) := sflag_eq hpos
  have hsource : ∃ id, m.sourceNodeId = .ok id ∧
      ({ buffer := hdr } : Message).sourceNodeId = .ok id := by
    unfold sourceNodeId
    rw [hs, hs']
    by_cases hset : MsgCodec.hasFlag hdr MsgCodec.msgFlagsSrcPresent = true
    · have h16 : 8 + 8 ≤ hdr.length := by
        rw [hhdr]
        unfold MsgCodec.headerSize
        rw [if_pos hset]
        omega
      rw [hset]
      refine ⟨_, ?_, readUIntLE_of_le h16⟩
      show readUIntLE 8 m.buffer 8 = _
      rw [hm, readUIntLE_append_left h16]
      exact readUIntLE_of_le h16
    · rw [Bool.not_eq_true] at hset
      rw [hset]
      exact ⟨_, rfl, rfl⟩
  obtain ⟨id, hid, hid'⟩ := hsource
  unfold nonce
  rw [hid, hid', hm]
  refine ⟨?_, _, rfl⟩
  show Except.ok (MsgCodec.getNonce (hdr ++ rest) _) = Except.ok (MsgCodec.getNonce hdr _)
  rw [MsgCodec.getNonce_header hhdr]

/-! ## 4. Hiding and showing -/

/-- The tag of a frame. -/
theorem mic_of_tag {m : Message} (body : Bytes) {tag : Bytes} (h : m.encrypted = some (body ++ tag))
    (htag : tag.length = 16) : m.mic = .ok tag := by
  have hlen : (((body ++ tag).length : Nat) : Int) - Crypto.aeadMicLengthBytes = body.length := by
    rw [List.length_append, htag]
    unfold Crypto.aeadMicLengthBytes
    omega
  unfold mic
  rw [h]
  dsimp only
  rw [hlen, subarray_nat, List.take_length, List.drop_left]

/-- A message with a session id and a tag has a privacy nonce. -/
theorem privacyNonce_of_tag {m : Message} {sessionId : Nat} {tag : Bytes}
    (hid : m.sessionId = .ok sessionId) (hmic : m.mic = .ok tag) (htag : tag.length = 16) :
    ∃ n, m.privacyNonce = .ok n := by
  have hlt : sessionId < 256 ^ 2 := readUIntLE_lt hid
  have hwrite : ∃ bs, writeUInt16BE (bufferAlloc (micFragmentSize + 2)) (.nat sessionId) 0 =
      .ok bs := by
    have hgt : (Number.int sessionId).gt (256 ^ 2 - 1 : Nat) = false := by
      rw [Number.int_gt, decide_eq_false_iff_not]
      omega
    have hneg : (Number.int sessionId).lt 0 = false := by
      rw [Number.int_lt, decide_eq_false_iff_not]
      omega
    refine ⟨overwrite (bufferAlloc (micFragmentSize + 2)) 0 (toBE 2 sessionId), ?_⟩
    show (if (Number.int sessionId).gt (256 ^ 2 - 1 : Nat) || (Number.int sessionId).lt 0
      then _ else _) = _
    rw [hgt, hneg, Bool.or_false, if_neg (by decide), Number.int_toInteger, Int.toNat_natCast]
    exact writeBytes_of_le (by simp [toBE, micFragmentSize])
  obtain ⟨bs, hbs⟩ := hwrite
  have hfragment : subarray tag (Crypto.aeadMicLengthBytes - micFragmentSize : Nat)
      Crypto.aeadMicLengthBytes ≠ [] := by
    rw [subarray_nat]
    intro hnil
    have hlen := congrArg List.length hnil
    simp [htag, Crypto.aeadMicLengthBytes, micFragmentSize] at hlen
  unfold privacyNonce
  rw [hid, hmic]
  show ∃ n, (writeUInt16BE (bufferAlloc (micFragmentSize + 2)) (.nat sessionId) 0 >>= fun bs =>
    fill bs _ 2) = .ok n
  rw [hbs]
  exact ⟨_, if_neg hfragment⟩

/-- **What the keystream is laid over**: the bytes from the counter up to the payload. -/
theorem obfuscate_split {m : Message} {start mid rest n privacyKey : Bytes} {off : Nat}
    (ks : Crypto.Keystream) (hoff : m.payloadOffset = .ok off)
    (henc : m.encrypted = some (start ++ mid ++ rest)) (hs : start.length = 4)
    (hmid : (start ++ mid).length = off) (hn : m.privacyNonce = .ok n) :
    m.obfuscate ks privacyKey = .ok (start ++ xorStream (ks privacyKey n) mid ++ rest) := by
  have hstart : subarray (start ++ mid ++ rest) ((0 : Nat) : Int) messageHeaderCleartextSize =
      start := by
    rw [subarray_nat, List.append_assoc, messageHeaderCleartextSize, ← hs, List.take_left,
      List.drop_zero]
  have htext : subarray (start ++ mid ++ rest) messageHeaderCleartextSize off = mid := by
    rw [subarray_nat, ← hmid, List.take_left, messageHeaderCleartextSize, ← hs, List.drop_left]
  have hrest : subarrayFrom (start ++ mid ++ rest) off = rest := by
    rw [subarrayFrom_nat, ← hmid, List.drop_left]
  unfold obfuscate
  rw [hoff, henc, hn]
  show Except.ok (subarray (start ++ mid ++ rest) ((0 : Nat) : Int) messageHeaderCleartextSize ++
    Crypto.privacyEncrypt ks privacyKey
      (subarray (start ++ mid ++ rest) messageHeaderCleartextSize off) n ++
    subarrayFrom (start ++ mid ++ rest) off) = _
  rw [hstart, htext, hrest]
  rfl

/-! ## 5. The round trip -/

/-- A header split at its first four bytes and at its payload. -/
theorem start_split {hdr : Bytes} {off : Nat} (h4 : 4 ≤ off) (hle : off ≤ hdr.length) :
    ∃ start mid tail, hdr = start ++ mid ++ tail ∧ start.length = 4 ∧
      (start ++ mid).length = off := by
  refine ⟨hdr.take 4, (hdr.take off).drop 4, hdr.drop off, ?_, ?_, ?_⟩
  · have htake : hdr.take 4 ++ (hdr.take off).drop 4 = hdr.take off := by
      rw [show hdr.take 4 = (hdr.take off).take 4 by rw [List.take_take, Nat.min_eq_left h4],
        List.take_append_drop]
    rw [htake, List.take_append_drop]
  · rw [List.length_take]
    omega
  · rw [List.length_append, List.length_take, List.length_drop, List.length_take]
    omega

/-- **What is encrypted and hidden is shown and decrypted again**: for every message with the P flag
    that is not unencrypted and as long as its header, with the nonces of the sender. -/
theorem privacy_roundTrip {A : Aead} (hA : A.Correct) (ks : Crypto.Keystream)
    (key privacyKey : Bytes) {msg : Message} (hp : msg.pflag = .ok true)
    (hu : msg.isUnencrypted = .ok false)
    (hlen : MsgCodec.headerSize msg.buffer ≤ msg.buffer.length) :
    ∃ secure frame encrypted hidden shown opened,
      msg.encrypt A key = .ok (some secure, encrypted) ∧
      encrypted.privacyEncrypt ks privacyKey = .ok (some frame, hidden) ∧
      let arrived : Message := { buffer := frame, encrypted := some frame }
      arrived.privacyDecrypt ks privacyKey = .ok (some secure, shown) ∧
      shown.decrypt A key = .ok (some msg.buffer, opened) ∧
      opened.buffer = msg.buffer ∧
      (∃ n, encrypted.privacyNonce = .ok n ∧ hidden.privacyNonce = .ok n ∧
        arrived.privacyNonce = .ok n) ∧
      ∃ n, msg.nonce = .ok n ∧ encrypted.nonce = .ok n ∧ hidden.nonce = .ok n ∧
        shown.nonce = .ok n := by
  have hge := MsgCodec.headerSize_ge msg.buffer
  obtain ⟨hdr, pay, hplain, hhdr, hsize⟩ := MsgCodec.header_split hlen
  obtain ⟨off, hoff, h8, hle⟩ := payloadOffset_le (m := msg) (by omega)
  obtain ⟨start, mid, tail, hsplit, hstart, hmid⟩ :=
    start_split (by omega : 4 ≤ off) (by omega : off ≤ hdr.length)
  obtain ⟨sessionId, hid⟩ := sessionId_of_le (m := msg) (by omega)
  -- the frame that is sent, and what of it the privacy step leaves
  generalize hcipher : (A.lock key (MsgCodec.getNonce hdr) hdr pay).1 = cipher
  generalize htageq : (A.lock key (MsgCodec.getNonce hdr) hdr pay).2 = tag
  have htag : tag.length = 16 := htageq ▸ hA.length_tag ..
  have hsecure : MsgCodec.encrypt A msg.buffer key = start ++ mid ++ (tail ++ cipher ++ tag) := by
    rw [hplain, MsgCodec.encrypt_split A hhdr, hcipher, htageq, hsplit]
    simp only [List.append_assoc]
  have hdec := MsgCodec.decrypt_encrypt hA hlen key
  generalize hsec : MsgCodec.encrypt A msg.buffer key = secure at hsecure hdec
  let encrypted : Message := { msg with encrypted := some secure }
  have hmic : encrypted.mic = .ok tag := by
    refine mic_of_tag (start ++ mid ++ (tail ++ cipher)) (congrArg some ?_) htag
    simp only [hsecure, List.append_assoc]
  obtain ⟨n, hn⟩ := privacyNonce_of_tag (m := encrypted) hid hmic htag
  generalize hframe : start ++ xorStream (ks privacyKey n) mid ++ (tail ++ cipher ++ tag) = frame
  have hobfuscate : encrypted.obfuscate ks privacyKey = .ok frame := by
    rw [← hframe]
    exact obfuscate_split ks hoff (congrArg some hsecure) hstart hmid hn
  let hidden : Message := { msg with encrypted := some frame }
  let arrived : Message := { buffer := frame, encrypted := some frame }
  let shown : Message := { arrived with encrypted := some secure, buffer := secure }
  have hbuffer : msg.buffer = start ++ (mid ++ tail ++ pay) := by
    rw [hplain, hsplit]
    simp only [List.append_assoc]
  -- the receiver's range and nonce come from bytes that are as they were
  have harrived : arrived.buffer =
      start ++ (xorStream (ks privacyKey n) mid ++ (tail ++ cipher ++ tag)) := by
    simp only [arrived, ← hframe, List.append_assoc]
  have halike : Alike msg arrived := alike_of_start hstart hbuffer harrived
  have hmicOf (m : Message) (hm : m.encrypted = some frame) : m.mic = .ok tag := by
    refine mic_of_tag (start ++ xorStream (ks privacyKey n) mid ++ (tail ++ cipher)) ?_ htag
    rw [hm, ← hframe]
    simp only [List.append_assoc]
  have hnArrived : arrived.privacyNonce = .ok n := by
    have hm : arrived.mic = encrypted.mic := (hmicOf arrived rfl).trans hmic.symm
    have ha : Alike encrypted arrived := ⟨halike.1, halike.2, halike.3⟩
    exact (alike_privacyNonce ha hm).trans hn
  have hnHidden : hidden.privacyNonce = .ok n := by
    have hm : hidden.mic = encrypted.mic := (hmicOf hidden rfl).trans hmic.symm
    have ha : Alike encrypted hidden := ⟨rfl, rfl, rfl⟩
    exact (alike_privacyNonce ha hm).trans hn
  have hshow : arrived.obfuscate ks privacyKey = .ok secure := by
    have hmid' : (start ++ xorStream (ks privacyKey n) mid).length = off := by
      rw [← hmid, List.length_append, List.length_append, length_xorStream]
    have hoff' : arrived.payloadOffset = .ok off := (alike_payloadOffset halike).trans hoff
    rw [obfuscate_split ks hoff' (congrArg some hframe.symm) hstart hmid' hnArrived,
      xorStream_xorStream, hsecure]
  have hshown : shown.buffer = start ++ (mid ++ (tail ++ cipher ++ tag)) := by
    simp only [shown, hsecure, List.append_assoc]
  have hshownAlike : Alike msg shown := alike_of_start hstart hbuffer hshown
  -- the nonce of the cipher comes from the header
  obtain ⟨hnonce, nonce, hnonce'⟩ := nonce_of_header hplain hhdr
  have hnonceShown : shown.nonce = msg.nonce := by
    have hbuf : shown.buffer = hdr ++ (cipher ++ tag) := by
      show secure = _
      rw [hsecure, hsplit]
      simp only [List.append_assoc]
    rw [(nonce_of_header hbuf hhdr).1, hnonce]
  refine ⟨secure, frame, encrypted, hidden, shown, { shown with buffer := msg.buffer },
    ?_, ?_, ?_, ?_, rfl, ⟨n, hn, hnHidden, hnArrived⟩, nonce, hnonce.trans hnonce',
    hnonce.trans hnonce', hnonce.trans hnonce', hnonceShown.trans (hnonce.trans hnonce')⟩
  · unfold encrypt
    rw [hu, hsec]
    rfl
  · have hpe : encrypted.pflag = .ok true := hp
    unfold privacyEncrypt
    rw [hpe, hobfuscate]
    rfl
  · unfold privacyDecrypt
    rw [alike_pflag halike, hp, hshow]
    rfl
  · unfold decrypt
    rw [alike_isUnencrypted hshownAlike, hu]
    dsimp only [shown, bind, Except.bind]
    rw [hdec]
    rfl

/-- A message with a source, its bits for both destinations set, and the P flag. -/
theorem privacy_roundTrip_allFlags :
    let msg : Message :=
      { buffer := [0x07, 1, 0, 0x80] ++ List.replicate 22 5 ++ [1, 2, 3] }
    ∃ secure frame encrypted hidden shown opened,
      msg.encrypt Aead.keyTag (List.replicate 16 9) = .ok (some secure, encrypted) ∧
      encrypted.privacyEncrypt (fun _ nonce i => nonce.getD i 1) [] = .ok (some frame, hidden) ∧
      let arrived : Message := { buffer := frame, encrypted := some frame }
      arrived.privacyDecrypt (fun _ nonce i => nonce.getD i 1) [] = .ok (some secure, shown) ∧
      shown.decrypt Aead.keyTag (List.replicate 16 9) = .ok (some msg.buffer, opened) ∧
      opened.buffer = msg.buffer ∧
      (∃ n, encrypted.privacyNonce = .ok n ∧ hidden.privacyNonce = .ok n ∧
        arrived.privacyNonce = .ok n) ∧
      ∃ n, msg.nonce = .ok n ∧ encrypted.nonce = .ok n ∧ hidden.nonce = .ok n ∧
        shown.nonce = .ok n :=
  privacy_roundTrip Aead.keyTag_correct _ _ _ (by decide) (by decide) (by decide)

end Message

end Matternode.Messaging
