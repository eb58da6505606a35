/-
  File:      Matternode/Messaging/NodeIds.lean
  Subject:   The node id setters of a message, in either order.

  A setter inserts the bytes of its field the first time, as a flag of the object remembers; for a
  message that was received the flags say that nothing was inserted, though the bytes are there. The
  place of the destination is counted from a source that may not be inserted yet.

  * `setDestinationNodeId_past` -- a first assignment past the end of the bytes throws;
  * `Origin`, `Origin.Made` -- a fresh message, or one made of a received buffer;
  * `SetEitherWay` -- both orders give one buffer, which reads back;
  * `setEitherWay_iff` -- **when they do**.
-/
import Matternode.Messaging.ClearFrames
import Matternode.Messaging.KeyAgreement

namespace Matternode.Messaging

open Base Js

variable {m m' : Message}

/-! ## 1. What the first eight bytes decide -/

section Flags

variable (h : m'.buffer.take 8 = m.buffer.take 8)

include h

theorem messageFlags_of_take : m'.messageFlags = m.messageFlags := by
  have hread (bs : Bytes) : readUInt8 bs 0 = readUInt8 (bs.take 8) 0 := by
    by_cases hlen : 0 < bs.length
    · have hfits : 0 + 1 ≤ (bs.take 8).length := by rw [List.length_take]; omega
      have happ := readUIntLE_append_left (b := bs.drop 8) hfits
      rwa [List.take_append_drop] at happ
    · rw [List.eq_nil_of_length_eq_zero (by omega : bs.length = 0)]
      rfl
  unfold Message.messageFlags
  rw [hread m'.buffer, hread m.buffer, h]

theorem sflag_of_take : m'.sflag = m.sflag := by
  unfold Message.sflag
  rw [messageFlags_of_take h]

theorem dsiz_of_take : m'.dsiz = m.dsiz := by
  unfold Message.dsiz
  rw [messageFlags_of_take h]

theorem destinationOffset_of_take : m'.destinationOffset = m.destinationOffset := by
  unfold Message.destinationOffset
  rw [sflag_of_take h]

theorem payloadOffset_of_take : m'.payloadOffset = m.payloadOffset := by
  unfold Message.payloadOffset
  rw [sflag_of_take h, dsiz_of_take h]

end Flags

/-! ## 2. A first assignment -/

section FirstAssignment

variable {v : JsValue} {id : Nat} {pre rest : Bytes}

/-- No source is announced. -/
theorem setSourceNodeId_none (hs : m.sflag = .ok false) (v : JsValue) :
    m.setSourceNodeId v = .ok m := by
  unfold Message.setSourceNodeId
  rw [hs]
  rfl

/-- No destination is announced. -/
theorem setDestinationNodeId_none {off : Nat} (hz : m.dsiz = .ok 0)
    (hoff : m.destinationOffset = .ok off) (v : JsValue) : m.setDestinationNodeId v = .ok m := by
  unfold Message.setDestinationNodeId
  rw [hoff, hz]
  rfl

/-- **A place past the end**: the bytes are inserted at the end, and the write throws. -/
theorem setDestinationNodeId_past {off : Nat} (hz : m.dsiz = .ok 1)
    (hdest : m.hasDestination = false) (hoff : m.destinationOffset = .ok off)
    (hlen : m.buffer.length < off) (hv : v.toBigInt = .ok (id : Int)) :
    ∃ e, m.setDestinationNodeId v = .error e := by
  have hins : m.insertDestination off 1 =
      .ok { m.insert off messageNodeIdSize with hasDestination := true } := by
    unfold Message.insertDestination
    rw [if_neg (by rw [hdest]; decide)]
    rfl
  have hsize : (m.insert off messageNodeIdSize).buffer.length < off + 8 := by
    show (subarray m.buffer ((0 : Nat) : Int) off ++ bufferAlloc 8 ++ subarrayFrom m.buffer off).length
      < off + 8
    rw [subarray_nat, subarrayFrom_nat, List.length_append, List.length_append, length_bufferAlloc,
      List.drop_zero, List.length_take, List.length_drop]
    omega
  have hwrite : ∃ e, writeBigUInt64LE (m.insert off messageNodeIdSize).buffer id off = .error e := by
    unfold writeBigUInt64LE
    split
    · exact ⟨_, rfl⟩
    · refine ⟨.rangeError, if_neg ?_⟩
      rw [length_toLE]
      omega
  obtain ⟨e, he⟩ := hwrite
  refine ⟨e, ?_⟩
  unfold Message.setDestinationNodeId
  rw [hoff, hz]
  dsimp only [bind, Except.bind]
  rw [if_neg (by decide), hins, hv]
  dsimp only [Message.write, bind, Except.bind]
  rw [if_pos rfl, he]

end FirstAssignment

/-! ## 3. Reading back -/

section Reading

variable {id : Nat} {pre rest : Bytes}

theorem sourceNodeId_written (hs : m.sflag = .ok true) (hm : m.buffer = pre ++ (toLE 8 id ++ rest))
    (hpre : pre.length = 8) (hid : id < 2 ^ 64) : m.sourceNodeId = .ok id := by
  have hread := readUIntLE_at pre (toLE 8 id) rest (hm.trans (List.append_assoc ..).symm)
  rw [length_toLE, ofLE_toLE_of_lt hid, hpre] at hread
  unfold Message.sourceNodeId
  rw [hs]
  exact hread

theorem destinationNodeId_written (hz : m.dsiz = .ok 1)
    (hoff : m.destinationOffset = .ok pre.length) (hm : m.buffer = pre ++ (toLE 8 id ++ rest))
    (hid : id < 2 ^ 64) : m.destinationNodeId = .ok id := by
  have hread := readUIntLE_at pre (toLE 8 id) rest (hm.trans (List.append_assoc ..).symm)
  rw [length_toLE, ofLE_toLE_of_lt hid] at hread
  unfold Message.destinationNodeId
  rw [hz, hoff]
  exact hread

/-- **A group destination is not read.** -/
theorem destinationNodeId_group {off : Nat} (hz : m.dsiz = .ok 2)
    (hoff : m.destinationOffset = .ok off) : m.destinationNodeId = .ok MsgCodec.nodeIdAny := by
  unfold Message.destinationNodeId
  rw [hz, hoff]
  rfl

theorem payload_at {off : Nat} (hoff : m.payloadOffset = .ok off) :
    m.payload = .ok (m.buffer.drop off) := by
  unfold Message.payload
  rw [hoff]
  exact congrArg Except.ok (subarrayFrom_nat ..)

/-- Where destination and payload stand, by the flags. -/
theorem offsets_of_flags {b : Bool} {z : Nat} (hs : m.sflag = .ok b) (hz : m.dsiz = .ok z) :
    m.destinationOffset = .ok (8 + if b then 8 else 0) ∧
      m.payloadOffset = .ok (8 + (if b then 8 else 0) + if z = 1 then 8 else if z = 2 then 2 else 0) := by
  constructor
  · unfold Message.destinationOffset
    rw [hs]
    rfl
  · unfold Message.payloadOffset
    rw [hs, hz]
    rfl

end Reading

/-! ## 4. Lengths -/

section Lengths

theorem length_writeBigUInt64LE {bs buf : Bytes} {n : Int} {off : Nat}
    (h : writeBigUInt64LE bs n off = .ok buf) : buf.length = bs.length := by
  unfold writeBigUInt64LE writeBytes at h
  split at h
  · cases h
  · split at h
    · rename_i hle
      cases h
      exact length_overwrite hle
    · cases h

theorem length_insert (m : Message) (off size : Nat) :
    (m.insert off size).buffer.length = m.buffer.length + size := by
  show (subarray m.buffer ((0 : Nat) : Int) off ++ bufferAlloc size ++ subarrayFrom m.buffer off).length
    = m.buffer.length + size
  rw [subarray_nat, subarrayFrom_nat, List.length_append, List.length_append, length_bufferAlloc,
    List.drop_zero, List.length_take, List.length_drop]
  omega

variable {v : JsValue}

/-- An announced source that is not remembered makes the message longer. -/
theorem length_setSourceNodeId (h : m.setSourceNodeId v = .ok m') :
    m.buffer.length ≤ m'.buffer.length ∧
      (m.sflag = .ok true → m.hasSource = false → m.buffer.length < m'.buffer.length) := by
  obtain ⟨sflag, hs, h⟩ := bind_eq_ok h
  cases sflag with
  | false =>
    cases h
    refine ⟨Nat.le_refl _, fun htrue => ?_⟩
    rw [hs] at htrue
    cases htrue
  | true =>
    obtain ⟨node, -, h⟩ := bind_eq_ok h
    obtain ⟨buf, hbuf, rfl⟩ := write_ok h
    have hlen := length_writeBigUInt64LE hbuf
    cases hsource : m.hasSource with
    | true =>
      rw [hsource] at hlen
      exact ⟨hlen.ge, fun _ hfalse => by cases hfalse⟩
    | false =>
      rw [hsource] at hlen
      have hins := length_insert m messageHeaderMinSize messageNodeIdSize
      have hsize : buf.length = m.buffer.length + 8 := hlen.trans hins
      exact ⟨by show m.buffer.length ≤ buf.length; omega,
        fun _ _ => by show m.buffer.length < buf.length; omega⟩

theorem length_insertDestination {offset dsiz : Nat} (h : m.insertDestination offset dsiz = .ok m') :
    m.buffer.length ≤ m'.buffer.length ∧
      (m.hasDestination = false → m.buffer.length < m'.buffer.length) := by
  unfold Message.insertDestination at h
  cases hdest : m.hasDestination with
  | true =>
    rw [if_pos hdest] at h
    cases h
    exact ⟨Nat.le_refl _, fun hfalse => by cases hfalse⟩
  | false =>
    rw [if_neg (by rw [hdest]; decide)] at h
    have hlt : m.buffer.length < m'.buffer.length := by
      split at h
      · cases h
        exact (Nat.lt_add_of_pos_right (by decide)).trans_eq (length_insert m offset 8).symm
      · split at h
        · cases h
          exact (Nat.lt_add_of_pos_right (by decide)).trans_eq (length_insert m offset 2).symm
        · cases h
    exact ⟨hlt.le, fun _ => hlt⟩

/-- So does an announced destination. -/
theorem length_setDestinationNodeId (h : m.setDestinationNodeId v = .ok m') :
    m.buffer.length ≤ m'.buffer.length ∧
      (m.dsiz ≠ .ok 0 → m.hasDestination = false → m.buffer.length < m'.buffer.length) := by
  obtain ⟨offset, -, h⟩ := bind_eq_ok h
  obtain ⟨dsiz, hdsiz, h⟩ := bind_eq_ok h
  by_cases hzero : dsiz = 0
  · rw [if_pos hzero] at h
    cases h
    refine ⟨Nat.le_refl _, fun hne => ?_⟩
    rw [hdsiz, hzero] at hne
    exact absurd rfl hne
  · rw [if_neg hzero] at h
    obtain ⟨m1, hm1, h⟩ := bind_eq_ok h
    obtain ⟨hle, hlt⟩ := length_insertDestination hm1
    have hsame : m'.buffer.length = m1.buffer.length := by
      split at h
      · obtain ⟨node, -, h⟩ := bind_eq_ok h
        obtain ⟨buf, hbuf, rfl⟩ := write_ok h
        exact length_writeBigUInt64LE hbuf
      · split at h
        · obtain ⟨buf, hbuf, rfl⟩ := write_ok h
          obtain ⟨x, -, hoff, rfl⟩ := writeUIntLE_ok hbuf
          exact length_overwrite (by rw [length_toLE]; exact hoff)
        · cases h
          rfl
    rw [hsame]
    exact ⟨hle, fun _ => hlt⟩

end Lengths

/-! ## 5. Both orders -/

/-- Where a message comes from. -/
inductive Origin where
  | fresh | received

/-- A message that was made, fresh or of a buffer that holds what its flags announce, with the bytes
    of its exchange. -/
def Origin.Made : Origin → Message → Bytes → Prop
  | .fresh, m, exch => m.hasSource = false ∧ m.hasDestination = false ∧ exchangeHeaderMinSize ≤ exch.length ∧
      ∃ hdr : Bytes, hdr.length = messageHeaderMinSize ∧ m.buffer = hdr ++ exch
  | .received, m, exch => m.hasSource = false ∧ m.hasDestination = false ∧ m.payload = .ok exch ∧
      ∃ off, m.payloadOffset = .ok off ∧ off ≤ m.buffer.length

/-- **Both orders answer, with one buffer**; what is announced reads back, and the exchange stands
    behind it. -/
def SetEitherWay (m : Message) (sv dv : JsValue) (s d : Nat) (exch : Bytes) : Prop :=
  ∃ m₁ m₂, (m.setSourceNodeId sv >>= fun m' => m'.setDestinationNodeId dv) = .ok m₁ ∧
    (m.setDestinationNodeId dv >>= fun m' => m'.setSourceNodeId sv) = .ok m₂ ∧
    m₁.buffer = m₂.buffer ∧ (m.sflag = .ok true → m₁.sourceNodeId = .ok s) ∧
    (m.dsiz ≠ .ok 0 → m₁.destinationNodeId = .ok d) ∧ m₁.payload = .ok exch

section Orders

variable {hdr exch : Bytes} {sv dv : JsValue} {s d : Nat}

/-- What the first eight bytes are after the source and the destination. -/
theorem take_source_destination (hlen : 8 ≤ m.buffer.length)
    (h : (m.setSourceNodeId sv >>= fun m' => m'.setDestinationNodeId dv) = .ok m') :
    m'.buffer.take 8 = m.buffer.take 8 := by
  obtain ⟨m0, h0, h⟩ := bind_eq_ok h
  have hlen0 := (length_setSourceNodeId h0).1
  rw [take_setDestinationNodeId (hlen.trans hlen0) h, take_setSourceNodeId hlen h0]

/-- **A message that was received has its fields already**, and grows. -/
theorem not_setEitherWay_received {b : Bool} {z off : Nat} (hs : m.sflag = .ok b)
    (hz : m.dsiz = .ok z) (hann : b = true ∨ z ≠ 0) (hsource : m.hasSource = false)
    (hdest : m.hasDestination = false) (hoff : m.payloadOffset = .ok off)
    (hle : off ≤ m.buffer.length) (hpay : m.payload = .ok exch) :
    ¬ SetEitherWay m sv dv s d exch := by
  rintro ⟨m₁, m₂, h1, -, -, -, -, hpay1⟩
  have h8 : 8 ≤ m.buffer.length := by
    obtain ⟨-, hoff'⟩ := offsets_of_flags hs hz
    rw [hoff] at hoff'
    have heq := Except.ok.inj hoff'
    omega
  have hgrows : m.buffer.length < m₁.buffer.length := by
    obtain ⟨m0, h0, h1⟩ := bind_eq_ok h1
    obtain ⟨hle0, hlt0⟩ := length_setSourceNodeId h0
    obtain ⟨hle1, hlt1⟩ := length_setDestinationNodeId h1
    cases b with
    | true => exact (hlt0 hs hsource).trans_le hle1
    | false =>
      obtain rfl : m = m0 := Except.ok.inj ((setSourceNodeId_none hs sv).symm.trans h0)
      refine hlt1 (fun hzero => ?_) hdest
      rcases hann with hb | hne
      · cases hb
      · exact hne (Except.ok.inj (hz.symm.trans hzero))
  rw [payload_at ((payloadOffset_of_take (take_source_destination h8 h1)).trans hoff)] at hpay1
  rw [payload_at hoff] at hpay
  have hlen := congrArg List.length ((Except.ok.inj hpay1).trans (Except.ok.inj hpay).symm)
  rw [List.length_drop, List.length_drop] at hlen
  omega

/-- **A group destination** is written and never read. -/
theorem not_setEitherWay_group {b : Bool} (hlen : 8 ≤ m.buffer.length) (hs : m.sflag = .ok b)
    (hz : m.dsiz = .ok 2) (hd : d < 2 ^ 16) : ¬ SetEitherWay m sv dv s d exch := by
  rintro ⟨m₁, m₂, h1, -, -, -, hread, -⟩
  have htake := take_source_destination hlen h1
  have hz1 : m₁.dsiz = .ok 2 := (dsiz_of_take htake).trans hz
  have hd1 := hread (by rw [hz]; nofun)
  have hoff := (destinationOffset_of_take htake).trans (offsets_of_flags hs hz).1
  rw [destinationNodeId_group hz1 hoff] at hd1
  have heq : MsgCodec.nodeIdAny = d := Except.ok.inj hd1
  unfold MsgCodec.nodeIdAny at heq
  omega

section Fresh

variable (hm : m.buffer = hdr ++ exch) (hhdr : hdr.length = 8) (hsource : m.hasSource = false)
  (hdest : m.hasDestination = false) (hs64 : s < 2 ^ 64) (hd64 : d < 2 ^ 64)
  (hsv : sv.toBigInt = .ok (s : Int)) (hdv : dv.toBigInt = .ok (d : Int))

include hm hhdr hsource hs64 hsv in
/-- **A source alone** is set in either order. -/
theorem setEitherWay_source (hs : m.sflag = .ok true) (hz : m.dsiz = .ok 0) :
    SetEitherWay m sv dv s d exch := by
  obtain ⟨hdoff, hpoff⟩ := offsets_of_flags hs hz
  obtain ⟨m₁, hset, hbuf⟩ : ∃ m₁, m.setSourceNodeId sv = .ok m₁ ∧
      m₁.buffer = hdr ++ (toLE 8 s ++ exch) :=
    ⟨_, setSourceNodeId_new hs hsource hm hhdr hsv hs64, rfl⟩
  have htake := take_setSourceNodeId (by rw [hm, List.length_append]; omega) hset
  refine ⟨m₁, m₁, ?_, ?_, rfl, fun _ => ?_, fun hne => absurd hz hne, ?_⟩
  · rw [hset]
    exact setDestinationNodeId_none ((dsiz_of_take htake).trans hz)
      ((destinationOffset_of_take htake).trans hdoff) dv
  · rw [setDestinationNodeId_none hz hdoff]
    exact hset
  · exact sourceNodeId_written ((sflag_of_take htake).trans hs) hbuf hhdr hs64
  · rw [payload_at ((payloadOffset_of_take htake).trans hpoff), hbuf, ← List.append_assoc]
    exact congrArg Except.ok (List.drop_left' (by simp [hhdr]))

include hm hhdr hdest hd64 hdv in
/-- **A destination alone** is set in either order. -/
theorem setEitherWay_destination (hs : m.sflag = .ok false) (hz : m.dsiz = .ok 1) :
    SetEitherWay m sv dv s d exch := by
  obtain ⟨hdoff, hpoff⟩ := offsets_of_flags hs hz
  have hoff : m.destinationOffset = .ok hdr.length := by
    rw [hdoff, hhdr]
    rfl
  obtain ⟨m₁, hset, hbuf⟩ : ∃ m₁, m.setDestinationNodeId dv = .ok m₁ ∧
      m₁.buffer = hdr ++ (toLE 8 d ++ exch) :=
    ⟨_, setDestinationNodeId_new hz hdest hm hoff hdv hd64, rfl⟩
  have htake := take_setDestinationNodeId (by rw [hm, List.length_append]; omega) hset
  refine ⟨m₁, m₁, ?_, ?_, rfl, fun htrue => ?_, fun _ => ?_, ?_⟩
  · rw [setSourceNodeId_none hs]
    exact hset
  · rw [hset]
    exact setSourceNodeId_none ((sflag_of_take htake).trans hs) sv
  · rw [hs] at htrue
    cases htrue
  · exact destinationNodeId_written ((dsiz_of_take htake).trans hz)
      ((destinationOffset_of_take htake).trans hoff) hbuf hd64
  · rw [payload_at ((payloadOffset_of_take htake).trans hpoff), hbuf, ← List.append_assoc]
    exact congrArg Except.ok (List.drop_left' (by simp [hhdr]))

include hm hhdr hsource hdest hs64 hd64 hsv hdv in
/-- The source first: both stand before the exchange. -/
theorem source_then_destination (hs : m.sflag = .ok true) (hz : m.dsiz = .ok 1) :
    ∃ m₁, (m.setSourceNodeId sv >>= fun m' => m'.setDestinationNodeId dv) = .ok m₁ ∧
      m₁.buffer = hdr ++ (toLE 8 s ++ (toLE 8 d ++ exch)) := by
  obtain ⟨m0, hset, hbuf, hdest0⟩ : ∃ m0, m.setSourceNodeId sv = .ok m0 ∧
      m0.buffer = (hdr ++ toLE 8 s) ++ exch ∧ m0.hasDestination = m.hasDestination :=
    ⟨_, setSourceNodeId_new hs hsource hm hhdr hsv hs64, (List.append_assoc ..).symm, rfl⟩
  have htake := take_setSourceNodeId (by rw [hm, List.length_append]; omega) hset
  have hoff : m0.destinationOffset = .ok (hdr ++ toLE 8 s).length := by
    rw [destinationOffset_of_take htake, (offsets_of_flags hs hz).1, List.length_append, hhdr,
      length_toLE]
    rfl
  have hlast := setDestinationNodeId_new ((dsiz_of_take htake).trans hz) (hdest0.trans hdest) hbuf
    hoff hdv hd64
  rw [hset]
  exact ⟨_, hlast, List.append_assoc ..⟩

include hhdr hsource hdest hs64 hd64 hsv hdv in
/-- **The destination first**: it comes after the first eight bytes of the exchange, where the
    source is counted for. -/
theorem destination_then_source {front rest : Bytes} (hs : m.sflag = .ok true) (hz : m.dsiz = .ok 1)
    (hm : m.buffer = hdr ++ (front ++ rest)) (hfront : front.length = 8) :
    ∃ m₂, (m.setDestinationNodeId dv >>= fun m' => m'.setSourceNodeId sv) = .ok m₂ ∧
      m₂.buffer = hdr ++ (toLE 8 s ++ (front ++ (toLE 8 d ++ rest))) := by
  have hoff : m.destinationOffset = .ok (hdr ++ front).length := by
    rw [(offsets_of_flags hs hz).1, List.length_append, hhdr, hfront]
    rfl
  have hbuf : m.buffer = (hdr ++ front) ++ rest := by rw [hm, List.append_assoc]
  obtain ⟨m0, hset, hbuf0, hsource0⟩ : ∃ m0, m.setDestinationNodeId dv = .ok m0 ∧
      m0.buffer = hdr ++ (front ++ (toLE 8 d ++ rest)) ∧ m0.hasSource = m.hasSource :=
    ⟨_, setDestinationNodeId_new hz hdest hbuf hoff hdv hd64, List.append_assoc .., rfl⟩
  have htake := take_setDestinationNodeId (by rw [hm, List.length_append]; omega) hset
  have hlast := setSourceNodeId_new ((sflag_of_take htake).trans hs) (hsource0.trans hsource) hbuf0
    hhdr hsv hs64
  rw [hset]
  exact ⟨_, hlast, rfl⟩

include hm hhdr hsource hdest hs64 hd64 hsv hdv in
/-- **With both**, the orders agree exactly when the exchange begins as the destination does. -/
theorem setEitherWay_both_iff (hs : m.sflag = .ok true) (hz : m.dsiz = .ok 1) :
    SetEitherWay m sv dv s d exch ↔ exch.take 8 = toLE 8 d := by
  obtain ⟨hdoff, hpoff⟩ := offsets_of_flags hs hz
  obtain ⟨m₁, h1, hbuf1⟩ :=
    source_then_destination hm hhdr hsource hdest hs64 hd64 hsv hdv hs hz
  constructor
  · rintro ⟨n₁, n₂, hn1, hn2, hsame, -⟩
    obtain rfl : m₁ = n₁ := Except.ok.inj (h1.symm.trans hn1)
    by_cases hlen : 8 ≤ exch.length
    · have hfront : (exch.take 8).length = 8 := by
        rw [List.length_take]
        omega
      obtain ⟨m₂, h2, hbuf2⟩ := destination_then_source hhdr hsource hdest hs64 hd64 hsv hdv hs hz
        (hm.trans (by rw [List.take_append_drop])) hfront
      obtain rfl : m₂ = n₂ := Except.ok.inj (h2.symm.trans hn2)
      rw [hbuf1, hbuf2] at hsame
      have hrest := List.append_cancel_left (List.append_cancel_left hsame)
      exact (List.append_inj_left hrest (by rw [length_toLE, hfront])).symm
    · obtain ⟨e, he⟩ := setDestinationNodeId_past hz hdest hdoff
        (by rw [hm, List.length_append, hhdr]; show 8 + exch.length < 16; omega) hdv
      rw [he] at hn2
      cases hn2
  · intro hfront
    have hlen : (exch.take 8).length = 8 := by rw [hfront, length_toLE]
    obtain ⟨m₂, h2, hbuf2⟩ := destination_then_source hhdr hsource hdest hs64 hd64 hsv hdv hs hz
      (hm.trans (by rw [List.take_append_drop])) hlen
    have htake := take_source_destination (by rw [hm, List.length_append]; omega) h1
    have hpre : m₁.buffer = (hdr ++ toLE 8 s) ++ (toLE 8 d ++ exch) := by
      rw [hbuf1, List.append_assoc]
    refine ⟨m₁, m₂, h1, h2, ?_, fun _ => ?_, fun _ => ?_, ?_⟩
    · have hexch : toLE 8 d ++ exch.drop 8 = exch := by rw [← hfront, List.take_append_drop]
      rw [hbuf1, hbuf2, hfront, hexch]
    · exact sourceNodeId_written ((sflag_of_take htake).trans hs) hbuf1 hhdr hs64
    · refine destinationNodeId_written ((dsiz_of_take htake).trans hz) ?_ hpre hd64
      rw [destinationOffset_of_take htake, hdoff, List.length_append, hhdr, length_toLE]
      rfl
    · rw [payload_at ((payloadOffset_of_take htake).trans hpoff), hpre, ← List.append_assoc]
      exact congrArg Except.ok (List.drop_left' (by simp [hhdr]))

end Fresh

end Orders

/-! ## 6. When the setters work -/

/-- A message whose payload stands somewhere has flags. -/
theorem flags_of_made {o : Origin} {exch : Bytes} (ho : o.Made m exch) :
    8 ≤ m.buffer.length ∧ ∃ b z, m.sflag = .ok b ∧ m.dsiz = .ok z ∧ z < 4 := by
  have hflags (f : Nat) (hf : m.messageFlags = .ok f) :
      ∃ b z, m.sflag = .ok b ∧ m.dsiz = .ok z ∧ z < 4 := by
    refine ⟨decide (f &&& 0x04 ≠ 0), f &&& 0x03, ?_, ?_, Nat.and_lt_two_pow f (by decide : 3 < 2 ^ 2)⟩
    · unfold Message.sflag
      rw [hf]
      rfl
    · unfold Message.dsiz
      rw [hf]
      rfl
  cases o with
  | fresh =>
    obtain ⟨-, -, -, hdr, hhdr, hm⟩ := ho
    unfold messageHeaderMinSize at hhdr
    have hlen : 8 ≤ m.buffer.length := by
      rw [hm, List.length_append]
      omega
    exact ⟨hlen, hflags _ (readUIntLE_of_le (by omega))⟩
  | received =>
    obtain ⟨-, -, -, off, hoff, hle⟩ := ho
    obtain ⟨b, hb, hrest⟩ := bind_eq_ok hoff
    obtain ⟨z, hz, -⟩ := bind_eq_ok hrest
    obtain ⟨f, hf, -⟩ := bind_eq_ok hb
    refine ⟨?_, hflags f hf⟩
    have hoff' := (offsets_of_flags hb hz).2
    rw [hoff] at hoff'
    have heq := Except.ok.inj hoff'
    omega

/-- **The setters work in either order exactly when** the message is fresh, announces no group, and,
    where it announces both, its exchange begins with the bytes of the destination. -/
theorem setEitherWay_iff (o : Origin) (m : Message) (exch : Bytes) (sv dv : JsValue) (s d : Nat)
    (ho : o.Made m exch) (hann : m.sflag = .ok true ∨ m.dsiz = .ok 1 ∨ m.dsiz = .ok 2)
    (hthree : m.dsiz ≠ .ok 3) (hsv : sv.toBigInt = .ok (s : Int)) (hs64 : s < 2 ^ 64)
    (hdv : dv.toBigInt = .ok (d : Int)) (hd64 : d < 2 ^ 64) (hd16 : m.dsiz = .ok 2 → d < 2 ^ 16) :
    SetEitherWay m sv dv s d exch ↔
      o = .fresh ∧ m.dsiz ≠ .ok 2 ∧
        (m.sflag = .ok true → m.dsiz = .ok 1 → exch.take 8 = toLE 8 d) := by
  obtain ⟨hlen, b, z, hs, hz, hz4⟩ := flags_of_made ho
  by_cases htwo : z = 2
  · subst htwo
    refine iff_of_false (not_setEitherWay_group hlen hs hz (hd16 hz)) ?_
    rintro ⟨-, hne, -⟩
    exact hne hz
  have hne : m.dsiz ≠ .ok 2 := by
    rw [hz]
    exact fun heq => htwo (Except.ok.inj heq)
  have hz3 : z ≠ 3 := by
    rintro rfl
    exact hthree hz
  cases o with
  | received =>
    obtain ⟨hsource, hdest, hpay, off, hoff, hle⟩ := ho
    have hann' : b = true ∨ z ≠ 0 := by
      rw [hs, hz] at hann
      rcases hann with hb | hone | htwo'
      · exact Or.inl (Except.ok.inj hb)
      · exact Or.inr (by rw [Except.ok.inj hone]; decide)
      · exact absurd (Except.ok.inj htwo') htwo
    exact iff_of_false (not_setEitherWay_received hs hz hann' hsource hdest hoff hle hpay)
      fun hall => by cases hall.1
  | fresh =>
    obtain ⟨hsource, hdest, -, hdr, hhdr, hm⟩ := ho
    obtain rfl | rfl : z = 0 ∨ z = 1 := by omega
    · cases b with
      | true =>
        refine iff_of_true (setEitherWay_source hm hhdr hsource hs64 hsv hs hz) ⟨rfl, hne, ?_⟩
        intro _ hone
        rw [hz] at hone
        cases hone
      | false =>
        rw [hs, hz] at hann
        rcases hann with h | h | h <;> cases h
    · cases b with
      | true =>
        rw [setEitherWay_both_iff hm hhdr hsource hdest hs64 hd64 hsv hdv hs hz]
        exact ⟨fun hfront => ⟨rfl, hne, fun _ _ => hfront⟩, fun hall => hall.2.2 hs hz⟩
      | false =>
        refine iff_of_true (setEitherWay_destination hm hhdr hdest hd64 hdv hs hz) ⟨rfl, hne, ?_⟩
        intro htrue
        rw [hs] at htrue
        cases htrue

/-- A fresh message that announces a source. -/
theorem setEitherWay_iff_sample :
    SetEitherWay { buffer := 4 :: bufferAlloc 13 } (.bigint 7) (.bigint 9) 7 9 (bufferAlloc 6) ↔
      Origin.fresh = .fresh ∧
        Message.dsiz { buffer := 4 :: bufferAlloc 13 } ≠ .ok 2 ∧
        (Message.sflag { buffer := 4 :: bufferAlloc 13 } = .ok true →
          Message.dsiz { buffer := 4 :: bufferAlloc 13 } = .ok 1 → (bufferAlloc 6).take 8 = toLE 8 9) :=
  setEitherWay_iff .fresh { buffer := 4 :: bufferAlloc 13 } (bufferAlloc 6) (.bigint 7) (.bigint 9) 7 9
    ⟨rfl, rfl, by decide, 4 :: bufferAlloc 7, by decide, by decide⟩ (Or.inl (by decide)) (by decide) rfl
    (by decide) rfl (by decide) (by decide)

/-- **The destination first throws** on a fresh message with both. -/
theorem destination_first_throws :
    Origin.fresh.Made { buffer := 5 :: bufferAlloc 13 } (bufferAlloc 6) ∧
      ¬ SetEitherWay { buffer := 5 :: bufferAlloc 13 } (.bigint 7) (.bigint 9) 7 9 (bufferAlloc 6) := by
  refine ⟨⟨rfl, rfl, by decide, 5 :: bufferAlloc 7, by decide, by decide⟩, ?_⟩
  rintro ⟨m₁, m₂, -, h2, -⟩
  have hthrows : ((Message.setDestinationNodeId { buffer := 5 :: bufferAlloc 13 } (.bigint 9)) >>=
      fun m' => m'.setSourceNodeId (.bigint 7)) = .error .rangeError := by decide
  rw [hthrows] at h2
  cases h2

end Matternode.Messaging
