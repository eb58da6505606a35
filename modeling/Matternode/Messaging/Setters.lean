/-
  File:      Matternode/Messaging/Setters.lean
  Subject:   A message that is built through its setters, and what its getters read then.

  The setters of Sflag and Dsiz share a byte with the version. Each keeps the bits it means to clear
  and clears the others, so what is announced at the end depends on the order of the assignments; all
  later setters find their places by it.

  * `FlagAssignment`, `Toggle`, `Fields`, `Fields.build` -- the assignments, in the order of use;
  * `Fields.ReadsBack` -- every getter returns what was assigned last;
  * `flagsAfter_and_four`, `flagsAfter_and_three` -- what the assignments leave of the flags;
  * `Laid` -- where the parts of the message stand while the later setters work;
  * `fieldsReadBack_iff` -- **when the message reads back**.
-/
import Mathlib.Data.List.Induction
import Mathlib.Data.Nat.Bitwise
import Matternode.Messaging.NodeIds

namespace Matternode.Messaging

open Base Js

/-! ## 1. Building -/

/-- An assignment of 0 or 4 to Sflag, or of 0 or 1 to Dsiz. -/
inductive FlagAssignment where
  | sflag (v : Bool)
  | dsiz (v : Bool)
  deriving DecidableEq, Repr

namespace FlagAssignment

def apply (m : Message) : FlagAssignment → Except JsError Message
  | sflag v => m.setSflag (if v then sourceTypeNodeId else sourceTypeOmit)
  | dsiz v => m.setDsiz (if v then destinationTypeNodeId else destinationTypeOmit)

def isSflag : FlagAssignment → Bool
  | sflag _ => true
  | dsiz _ => false

/-- The value that is assigned last. -/
def lastSflag (as : List FlagAssignment) : Bool :=
  as.foldl (fun last a => match a with | sflag v => v | dsiz _ => last) false

def lastDsiz (as : List FlagAssignment) : Bool :=
  as.foldl (fun last a => match a with | sflag _ => last | dsiz v => v) false

/-- The assignments since the last one of the other field, the last one first. -/
def sinceDsiz (as : List FlagAssignment) : List FlagAssignment :=
  as.reverse.takeWhile fun a => a.isSflag

def sinceSflag (as : List FlagAssignment) : List FlagAssignment :=
  as.reverse.takeWhile fun a => !a.isSflag

end FlagAssignment

/-- An assignment of Iflag, Aflag or Rflag. -/
inductive Toggle where
  | iflag (v : Bool)
  | aflag (v : Bool)
  | rflag (v : Bool)

namespace Toggle

def apply (m : Message) : Toggle → Except JsError Message
  | iflag v => m.setIflag v
  | aflag v => m.setAflag v
  | rflag v => m.setRflag v

/-- Which bit of the exchange flags. -/
def bit : Toggle → Nat
  | iflag _ => 0
  | aflag _ => 1
  | rflag _ => 2

def value : Toggle → Bool
  | iflag v | aflag v | rflag v => v

/-- What a bit is assigned last. -/
def last (i : Nat) (initial : Bool) (ts : List Toggle) : Bool :=
  ts.foldl (fun last t => if t.bit = i then t.value else last) initial

end Toggle

/-- What is assigned to a fresh message. -/
structure Fields where
  messageFlags : UInt8
  assignments : List FlagAssignment
  sourceNodeId : UInt64
  destinationNodeId : UInt64
  exchangeFlags : UInt8
  exchangeId : UInt16
  protocolOpcode : UInt8
  protocolId : UInt16
  toggles : List Toggle
  appPayload : Bytes

namespace Fields

def build (x : Fields) : Except JsError Message := do
  let msg : Message := {}
  let msg ← msg.setMessageFlags (.nat x.messageFlags.toNat)
  let msg ← x.assignments.foldlM FlagAssignment.apply msg
  let msg ← msg.setSourceNodeId (.bigint x.sourceNodeId.toNat)
  let msg ← msg.setDestinationNodeId (.bigint x.destinationNodeId.toNat)
  let msg ← msg.setExchangeFlags (.nat x.exchangeFlags.toNat)
  let msg ← msg.setExchangeId (.nat x.exchangeId.toNat)
  let msg ← msg.setProtocolOpcode (.nat x.protocolOpcode.toNat)
  let msg ← msg.setProtocolId (.nat x.protocolId.toNat)
  let msg ← x.toggles.foldlM Toggle.apply msg
  return msg.setAppPayload x.appPayload

def sflag (x : Fields) : Bool := FlagAssignment.lastSflag x.assignments
def dsiz (x : Fields) : Bool := FlagAssignment.lastDsiz x.assignments

/-- A bit of the exchange flags, as it is assigned last. -/
def flag (x : Fields) (i : Nat) : Bool := Toggle.last i (x.exchangeFlags.toNat.testBit i) x.toggles

end Fields

/-- **Every getter returns what was assigned last.** -/
structure Fields.ReadsBack (x : Fields) (m : Message) : Prop where
  version : m.version = .ok (x.messageFlags.toNat >>> 4)
  sflag : m.sflag = .ok x.sflag
  dsiz : m.dsiz = .ok (if x.dsiz then destinationTypeNodeId else destinationTypeOmit)
  sourceNodeId : m.sourceNodeId =
    .ok (if x.sflag then x.sourceNodeId.toNat else MsgCodec.nodeIdAny)
  destinationNodeId : m.destinationNodeId =
    .ok (if x.dsiz then x.destinationNodeId.toNat else MsgCodec.nodeIdAny)
  exchangeId : m.exchangeId = .ok x.exchangeId.toNat
  protocolOpcode : m.protocolOpcode = .ok x.protocolOpcode.toNat
  protocolId : m.protocolId = .ok x.protocolId.toNat
  iflag : m.iflag = .ok (x.flag 0)
  aflag : m.aflag = .ok (x.flag 1)
  rflag : m.rflag = .ok (x.flag 2)
  sxflag : m.sxflag = .ok (x.exchangeFlags.toNat.testBit 3)
  vflag : m.vflag = .ok (x.exchangeFlags.toNat.testBit 4)
  appPayload : m.appPayload = .ok x.appPayload

/-! ## 2. The message flags -/

namespace FlagAssignment

/-- The flags after an assignment. -/
def flags (f : Nat) : FlagAssignment → Nat
  | sflag v => (f &&& 0x04) ||| (if v then 4 else 0)
  | dsiz v => (f &&& 0x03) ||| (if v then 1 else 0)

theorem flags_lt (f : Nat) (a : FlagAssignment) : a.flags f < 8 := by
  have h4 : f &&& 0x04 < 2 ^ 3 := Nat.and_lt_two_pow f (by decide)
  have h3 : f &&& 0x03 < 2 ^ 3 := Nat.and_lt_two_pow f (by decide)
  cases a with
  | sflag v => exact Nat.or_lt_two_pow h4 (by cases v <;> decide)
  | dsiz v => exact Nat.or_lt_two_pow h3 (by cases v <;> decide)

def flagsAfter (f : Nat) (as : List FlagAssignment) : Nat := as.foldl flags f

theorem flagsAfter_lt {f : Nat} (hf : f < 256) (as : List FlagAssignment) :
    flagsAfter f as < 256 := by
  induction as generalizing f with
  | nil => exact hf
  | cons a as ih => exact ih ((flags_lt f a).trans (by decide))

theorem flagsAfter_append (f : Nat) (as : List FlagAssignment) (a : FlagAssignment) :
    flagsAfter f (as ++ [a]) = a.flags (flagsAfter f as) := List.foldl_append ..

/-- Any assignment clears the version. -/
theorem flagsAfter_lt_eight {as : List FlagAssignment} (h : as ≠ []) (f : Nat) :
    flagsAfter f as < 8 := by
  rw [← List.dropLast_concat_getLast h, flagsAfter_append]
  exact flags_lt ..

/-- **Sflag stays set** as long as Dsiz is not assigned. -/
theorem flagsAfter_and_four {f : Nat} (hf : f &&& 0x07 = 0) (as : List FlagAssignment) :
    flagsAfter f as &&& 0x04 = if sflag true ∈ sinceDsiz as then 4 else 0 := by
  induction as using List.reverseRecOn with
  | nil =>
    show f &&& (0x07 &&& 0x04) = 0
    rw [← Nat.and_assoc, hf, Nat.zero_and]
  | append_singleton as a ih =>
    rw [flagsAfter_append]
    unfold sinceDsiz at ih ⊢
    rw [List.reverse_append]
    cases a with
    | sflag v =>
      show ((flagsAfter f as &&& 0x04) ||| (if v then 4 else 0)) &&& 0x04 =
        if sflag true ∈ sflag v :: as.reverse.takeWhile (fun a => a.isSflag) then 4 else 0
      rw [ih]
      cases v <;> by_cases hmem : sflag true ∈ as.reverse.takeWhile (fun a => a.isSflag) <;>
        simp [hmem]
    | dsiz v =>
      show ((flagsAfter f as &&& 0x03) ||| (if v then 1 else 0)) &&& 0x04 = 0
      rw [Nat.and_or_distrib_right, Nat.and_assoc]
      cases v <;> simp

/-- **Dsiz stays set** as long as Sflag is not assigned. -/
theorem flagsAfter_and_three {f : Nat} (hf : f &&& 0x07 = 0) (as : List FlagAssignment) :
    flagsAfter f as &&& 0x03 = if dsiz true ∈ sinceSflag as then 1 else 0 := by
  induction as using List.reverseRecOn with
  | nil =>
    show f &&& (0x07 &&& 0x03) = 0
    rw [← Nat.and_assoc, hf, Nat.zero_and]
  | append_singleton as a ih =>
    rw [flagsAfter_append]
    unfold sinceSflag at ih ⊢
    rw [List.reverse_append]
    cases a with
    | sflag v =>
      show ((flagsAfter f as &&& 0x04) ||| (if v then 4 else 0)) &&& 0x03 = 0
      rw [Nat.and_or_distrib_right, Nat.and_assoc]
      cases v <;> simp
    | dsiz v =>
      show ((flagsAfter f as &&& 0x03) ||| (if v then 1 else 0)) &&& 0x03 =
        if dsiz true ∈ dsiz v :: as.reverse.takeWhile (fun a => !a.isSflag) then 1 else 0
      rw [ih]
      cases v <;> by_cases hmem : dsiz true ∈ as.reverse.takeWhile (fun a => !a.isSflag) <;>
        simp [hmem]

/-- **The assignments rewrite the flags**, and nothing else. -/
theorem foldlM_apply {m : Message} {f id counter : Nat} {rest : Bytes} (hf : f < 256)
    (hm : m.buffer = header (UInt8.ofNat f) id counter ++ rest) (as : List FlagAssignment) :
    as.foldlM apply m = .ok { m with
      buffer := header (UInt8.ofNat (flagsAfter f as)) id counter ++ rest } := by
  induction as generalizing m f with
  | nil => exact congrArg (fun b => Except.ok { m with buffer := b }) hm
  | cons a as ih =>
    have ha : apply m a = .ok { m with
        buffer := header (UInt8.ofNat (a.flags f)) id counter ++ rest } := by
      have hnat : (UInt8.ofNat f).toNat = f := UInt8.toNat_ofNat_of_lt' hf
      cases a with
      | sflag v =>
        have hset := setSflag_headed hm (if v then sourceTypeNodeId else sourceTypeOmit)
        rw [hnat] at hset
        cases v <;> exact hset
      | dsiz v =>
        have hset := setDsiz_headed hm (if v then destinationTypeNodeId else destinationTypeOmit)
        rw [hnat] at hset
        cases v <;> exact hset
    rw [List.foldlM_cons, ha]
    exact ih ((flags_lt f a).trans (by decide)) rfl

end FlagAssignment

/-! ## 3. Node ids -/

section NodeIds

variable {m : Message} {hdr rest : Bytes} {v : JsValue} {id : Nat}

theorem setSourceNodeId_of_sflag {b : Bool} (hs : m.sflag = .ok b) (hsource : m.hasSource = false)
    (hm : m.buffer = hdr ++ rest) (hhdr : hdr.length = 8) (hv : v.toBigInt = .ok (id : Int))
    (hid : id < 2 ^ 64) :
    ∃ m', m.setSourceNodeId v = .ok m' ∧
      m'.buffer = hdr ++ ((if b then toLE 8 id else []) ++ rest) ∧
      m'.hasDestination = m.hasDestination := by
  cases b with
  | true => exact ⟨_, setSourceNodeId_new hs hsource hm hhdr hv hid, rfl, rfl⟩
  | false => exact ⟨_, setSourceNodeId_none hs v, hm, rfl⟩

theorem setDestinationNodeId_of_dsiz {b : Bool}
    (hz : m.dsiz = .ok (if b then destinationTypeNodeId else destinationTypeOmit))
    (hdest : m.hasDestination = false) (hm : m.buffer = hdr ++ rest)
    (hoff : m.destinationOffset = .ok hdr.length) (hv : v.toBigInt = .ok (id : Int))
    (hid : id < 2 ^ 64) :
    ∃ m', m.setDestinationNodeId v = .ok m' ∧
      m'.buffer = hdr ++ ((if b then toLE 8 id else []) ++ rest) := by
  cases b with
  | true => exact ⟨_, setDestinationNodeId_new hz hdest hm hoff hv hid, rfl⟩
  | false => exact ⟨_, setDestinationNodeId_none hz hoff v, hm⟩

end NodeIds

/-! ## 4. The exchange header -/

/-- The message is `hdr`, an exchange header and a body, and its flags say so. -/
structure Laid (m : Message) (hdr : Bytes) (flags opcode exchangeId protocolId : Nat)
    (body : Bytes) : Prop where
  buffer : m.buffer = hdr ++ (exchangeHeader flags opcode exchangeId protocolId ++ body)
  offset : m.payloadOffset = .ok hdr.length
  length : 8 ≤ hdr.length

namespace Laid

variable {m : Message} {hdr body : Bytes} {flags opcode exchangeId protocolId : Nat}

/-- What stands behind `hdr` may change. -/
theorem take (h : Laid m hdr flags opcode exchangeId protocolId body) {m' : Message} {rest : Bytes}
    (hm : m'.buffer = hdr ++ rest) : m'.buffer.take 8 = m.buffer.take 8 := by
  rw [hm, h.buffer, List.take_append_of_le_length h.length, List.take_append_of_le_length h.length]

theorem rewritten (h : Laid m hdr flags opcode exchangeId protocolId body)
    {flags' opcode' exchangeId' protocolId' : Nat} {body' : Bytes} :
    Laid { m with buffer :=
      hdr ++ (exchangeHeader flags' opcode' exchangeId' protocolId' ++ body') } hdr flags' opcode'
        exchangeId' protocolId' body' :=
  ⟨rfl, (payloadOffset_of_take (h.take rfl)).trans h.offset, h.length⟩

section Setting

variable (h : Laid m hdr flags opcode exchangeId protocolId body) {v : Nat}

include h

theorem setExchangeFlags (hv : v < 256) : ∃ m', m.setExchangeFlags (.nat v) = .ok m' ∧
    Laid m' hdr v opcode exchangeId protocolId body :=
  ⟨_, setExchangeFlags_at h.buffer h.offset hv, h.rewritten⟩

theorem setProtocolOpcode (hv : v < 256) : ∃ m', m.setProtocolOpcode (.nat v) = .ok m' ∧
    Laid m' hdr flags v exchangeId protocolId body :=
  ⟨_, setProtocolOpcode_at h.buffer h.offset hv, h.rewritten⟩

theorem setExchangeId (hv : v < 65536) : ∃ m', m.setExchangeId (.nat v) = .ok m' ∧
    Laid m' hdr flags opcode v protocolId body :=
  ⟨_, setExchangeId_at h.buffer h.offset hv, h.rewritten⟩

theorem setProtocolId (hv : v < 65536) : ∃ m', m.setProtocolId (.nat v) = .ok m' ∧
    Laid m' hdr flags opcode exchangeId v body :=
  ⟨_, setProtocolId_at h.buffer h.offset hv, h.rewritten⟩

theorem setAppPayload (bs : Bytes) :
    Laid (m.setAppPayload bs) hdr flags opcode exchangeId protocolId (body ++ bs) := by
  have hbuf : (m.setAppPayload bs).buffer =
      hdr ++ (exchangeHeader flags opcode exchangeId protocolId ++ (body ++ bs)) := by
    show m.buffer ++ bs = _
    rw [h.buffer, List.append_assoc, List.append_assoc]
  exact ⟨hbuf, (payloadOffset_of_take (h.take hbuf)).trans h.offset, h.length⟩

end Setting

/-- A flag is read as its bit. -/
theorem exchangeFlag (h : Laid m hdr flags opcode exchangeId protocolId body) (hf : flags < 256)
    (i : Nat) : m.exchangeFlag (2 ^ i) = .ok (flags.testBit i) := by
  have hbit : decide (flags &&& 2 ^ i ≠ 0) = flags.testBit i := by
    rw [Nat.and_comm, Nat.two_pow_and]
    cases flags.testBit i <;> simp
  unfold Message.exchangeFlag
  rw [exchangeFlags_eq h.buffer h.offset hf]
  exact congrArg Except.ok hbit

/-- Without an acknowledged counter, the body is what the application sends. -/
theorem appPayload (h : Laid m hdr flags opcode exchangeId protocolId body) (hf : flags < 256)
    (hack : flags.testBit 1 = false) : m.appPayload = .ok body := by
  have hflag : m.aflag = .ok false := (h.exchangeFlag hf 1).trans (congrArg Except.ok hack)
  have hbuf : m.buffer = (hdr ++ exchangeHeader flags opcode exchangeId protocolId) ++ body := by
    rw [h.buffer, List.append_assoc]
  have hlen : hdr.length + (exchangeHeaderMinSize + 0) =
      (hdr ++ exchangeHeader flags opcode exchangeId protocolId).length := by
    rw [List.length_append, length_exchangeHeader]
    rfl
  unfold Message.appPayload
  rw [hflag, h.offset]
  show Except.ok (subarrayFrom m.buffer ((hdr.length + (exchangeHeaderMinSize + 0) : Nat) : Int)) = _
  rw [subarrayFrom_nat, hlen, hbuf, List.drop_left]

end Laid

/-! ## 5. The flags of the exchange -/

namespace Toggle

/-- The exchange flags after an assignment. -/
def flags (f : Nat) (t : Toggle) : Nat :=
  if t.value then f ||| 2 ^ t.bit else f &&& (0xFF ^^^ 2 ^ t.bit)

theorem bit_le (t : Toggle) : t.bit ≤ 2 := by
  cases t <;> simp [bit]

theorem flags_lt {f : Nat} (hf : f < 256) (t : Toggle) : t.flags f < 256 := by
  have hbit : 2 ^ t.bit < 2 ^ 8 := Nat.pow_lt_pow_right (by decide) (by have := t.bit_le; omega)
  unfold flags
  split
  · exact Nat.or_lt_two_pow hf hbit
  · exact Nat.and_lt_two_pow _ (Nat.xor_lt_two_pow (by decide) hbit)

/-- **One bit is assigned**, the others stay. -/
theorem testBit_flags (f : Nat) (t : Toggle) {i : Nat} (hi : i < 8) :
    (t.flags f).testBit i = if t.bit = i then t.value else f.testBit i := by
  have hall : Nat.testBit 0xFF i = true := by
    rw [show 0xFF = 2 ^ 8 - 1 from rfl, Nat.testBit_two_pow_sub_one]
    exact decide_eq_true hi
  unfold flags
  cases hv : t.value with
  | true =>
    rw [if_pos rfl, Nat.testBit_or, Nat.testBit_two_pow]
    by_cases hb : t.bit = i <;> simp [hb]
  | false =>
    rw [if_neg (by decide), Nat.testBit_and, Nat.testBit_xor, Nat.testBit_two_pow, hall]
    by_cases hb : t.bit = i <;> simp [hb]

def flagsAfter (f : Nat) (ts : List Toggle) : Nat := ts.foldl flags f

theorem flagsAfter_lt {f : Nat} (hf : f < 256) (ts : List Toggle) : flagsAfter f ts < 256 := by
  induction ts generalizing f with
  | nil => exact hf
  | cons t ts ih => exact ih (flags_lt hf t)

/-- **A bit is what it was assigned last.** -/
theorem testBit_flagsAfter (f : Nat) (ts : List Toggle) {i : Nat} (hi : i < 8) :
    (flagsAfter f ts).testBit i = last i (f.testBit i) ts := by
  induction ts generalizing f with
  | nil => rfl
  | cons t ts ih =>
    show (flagsAfter (t.flags f) ts).testBit i =
      last i (if t.bit = i then t.value else f.testBit i) ts
    rw [ih, testBit_flags f t hi]

/-- A bit that is not assigned stays. -/
theorem last_eq {i : Nat} (hi : 2 < i) (b : Bool) (ts : List Toggle) : last i b ts = b := by
  induction ts generalizing b with
  | nil => rfl
  | cons t ts ih =>
    have hne : t.bit ≠ i := by
      have := t.bit_le
      omega
    show last i (if t.bit = i then t.value else b) ts = b
    rw [if_neg hne, ih]

theorem foldlM_apply {m : Message} {hdr body : Bytes} {f opcode exchangeId protocolId : Nat}
    (h : Laid m hdr f opcode exchangeId protocolId body) (hf : f < 256) (ts : List Toggle) :
    ∃ m', ts.foldlM apply m = .ok m' ∧
      Laid m' hdr (flagsAfter f ts) opcode exchangeId protocolId body := by
  induction ts generalizing m f with
  | nil => exact ⟨m, rfl, h⟩
  | cons t ts ih =>
    have ht : apply m t = .ok { m with
        buffer := hdr ++ (exchangeHeader (t.flags f) opcode exchangeId protocolId ++ body) } := by
      have hset := setExchangeFlag_at h.buffer h.offset hf (flags_lt hf t)
      cases t <;> exact hset
    rw [List.foldlM_cons, ht]
    exact ih h.rewritten (flags_lt hf t)

end Toggle

/-! ## 6. The message -/

namespace Fields

variable (x : Fields)

/-- The message flags at the end. -/
def flagsSet : Nat := FlagAssignment.flagsAfter x.messageFlags.toNat x.assignments

/-- What is announced at the end: a source, and a destination. -/
def announcesSource : Bool := decide (FlagAssignment.sflag true ∈ FlagAssignment.sinceDsiz x.assignments)

def announcesDestination : Bool :=
  decide (FlagAssignment.dsiz true ∈ FlagAssignment.sinceSflag x.assignments)

/-- The message header and the node ids. -/
def front : Bytes :=
  (header (UInt8.ofNat x.flagsSet) 0 0 ++
    (if x.announcesSource then toLE 8 x.sourceNodeId.toNat else [])) ++
      (if x.announcesDestination then toLE 8 x.destinationNodeId.toNat else [])

/-- The exchange flags at the end. -/
def exchangeFlagsSet : Nat := Toggle.flagsAfter x.exchangeFlags.toNat x.toggles

theorem flagsSet_lt : x.flagsSet < 256 := FlagAssignment.flagsAfter_lt (UInt8.toNat_lt _) _

variable {x}

section Announced

variable {m : Message} {rest : Bytes} (hclear : x.messageFlags.toNat &&& 0x07 = 0)
  (hm : m.buffer = header (UInt8.ofNat x.flagsSet) 0 0 ++ rest)

include hm in
theorem version_of_flagsSet : m.version = .ok (x.flagsSet >>> 4) := by
  unfold Message.version
  rw [headed_messageFlags hm, UInt8.toNat_ofNat_of_lt' x.flagsSet_lt]
  rfl

include hclear hm

theorem sflag_of_flagsSet : m.sflag = .ok x.announcesSource := by
  rw [headed_sflag hm, UInt8.toNat_ofNat_of_lt' x.flagsSet_lt]
  unfold flagsSet announcesSource
  rw [FlagAssignment.flagsAfter_and_four hclear]
  split <;> rename_i hmem <;> simp [hmem]

theorem dsiz_of_flagsSet : m.dsiz =
    .ok (if x.announcesDestination then destinationTypeNodeId else destinationTypeOmit) := by
  rw [headed_dsiz hm, UInt8.toNat_ofNat_of_lt' x.flagsSet_lt]
  unfold flagsSet announcesDestination
  rw [FlagAssignment.flagsAfter_and_three hclear]
  split <;> rename_i hmem <;> simp [hmem, destinationTypeNodeId, destinationTypeOmit]

end Announced

/-- What is announced, and the node ids, stand in front of the exchange header. -/
theorem laid_front {m : Message} (hclear : x.messageFlags.toNat &&& 0x07 = 0)
    (hm : m.buffer = x.front ++ bufferAlloc 6) : Laid m x.front 0 0 0 0 [] := by
  have hhead : m.buffer = header (UInt8.ofNat x.flagsSet) 0 0 ++ ((if x.announcesSource then
      toLE 8 x.sourceNodeId.toNat else []) ++ ((if x.announcesDestination then
        toLE 8 x.destinationNodeId.toNat else []) ++ bufferAlloc 6)) := by
    rw [hm]
    unfold front
    rw [List.append_assoc, List.append_assoc]
  have hlen : x.front.length = 8 + (if x.announcesSource then 8 else 0) +
      (if x.announcesDestination then 8 else 0) := by
    unfold front
    cases x.announcesSource <;> cases x.announcesDestination <;> simp
  obtain ⟨-, hoff⟩ := offsets_of_flags (sflag_of_flagsSet hclear hhead) (dsiz_of_flagsSet hclear hhead)
  refine ⟨hm, ?_, by omega⟩
  rw [hoff, hlen]
  cases x.announcesDestination <;> rfl

/-- The node ids are inserted where they are announced. -/
theorem nodeIds_eq {m : Message} (hclear : x.messageFlags.toNat &&& 0x07 = 0)
    (hm : m.buffer = header (UInt8.ofNat x.flagsSet) 0 0 ++ bufferAlloc 6)
    (hsource : m.hasSource = false) (hdest : m.hasDestination = false) :
    ∃ m₁ m₂, m.setSourceNodeId (.bigint x.sourceNodeId.toNat) = .ok m₁ ∧
      m₁.setDestinationNodeId (.bigint x.destinationNodeId.toNat) = .ok m₂ ∧
      Laid m₂ x.front 0 0 0 0 [] := by
  obtain ⟨m₁, h1, hm1, hdest1⟩ := setSourceNodeId_of_sflag (sflag_of_flagsSet hclear hm) hsource hm
    (length_header ..) (show (JsValue.bigint x.sourceNodeId.toNat).toBigInt = _ from rfl)
    x.sourceNodeId.toNat_lt
  have hdsiz := dsiz_of_flagsSet hclear hm1
  have hoff : m₁.destinationOffset = .ok (header (UInt8.ofNat x.flagsSet) 0 0 ++
      (if x.announcesSource then toLE 8 x.sourceNodeId.toNat else [])).length := by
    rw [(offsets_of_flags (sflag_of_flagsSet hclear hm1) hdsiz).1]
    cases x.announcesSource <;> simp
  rw [← List.append_assoc] at hm1
  obtain ⟨m₂, h2, hm2⟩ := setDestinationNodeId_of_dsiz hdsiz (hdest1.trans hdest) hm1 hoff
    (show (JsValue.bigint x.destinationNodeId.toNat).toBigInt = _ from rfl)
    x.destinationNodeId.toNat_lt
  rw [← List.append_assoc] at hm2
  exact ⟨m₁, m₂, h1, h2, laid_front hclear hm2⟩

/-- **The message that is built**: the header as the assignments leave it, what it announces, and the
    exchange header with the payload behind it. -/
theorem build_eq (hclear : x.messageFlags.toNat &&& 0x07 = 0) :
    ∃ m, x.build = .ok m ∧ Laid m x.front x.exchangeFlagsSet x.protocolOpcode.toNat
      x.exchangeId.toNat x.protocolId.toNat x.appPayload := by
  have hnew : ({} : Message).buffer = header 0 0 0 ++ bufferAlloc 6 := by decide
  have h0 := setMessageFlags_headed hnew (UInt8.toNat_lt x.messageFlags)
  have hassign := FlagAssignment.foldlM_apply (UInt8.toNat_lt x.messageFlags)
    (show Message.buffer {
      buffer := header (UInt8.ofNat x.messageFlags.toNat) 0 0 ++ bufferAlloc 6 } = _ from rfl)
    x.assignments
  obtain ⟨m₁, m₂, h1, h2, hlaid2⟩ := nodeIds_eq hclear
    (show Message.buffer {
      buffer := header (UInt8.ofNat x.flagsSet) 0 0 ++ bufferAlloc 6 } = _ from rfl) rfl rfl
  obtain ⟨m₃, h3, hlaid3⟩ := hlaid2.setExchangeFlags (UInt8.toNat_lt x.exchangeFlags)
  obtain ⟨m₄, h4, hlaid4⟩ := hlaid3.setExchangeId x.exchangeId.toNat_lt
  obtain ⟨m₅, h5, hlaid5⟩ := hlaid4.setProtocolOpcode (UInt8.toNat_lt x.protocolOpcode)
  obtain ⟨m₆, h6, hlaid6⟩ := hlaid5.setProtocolId x.protocolId.toNat_lt
  obtain ⟨m₇, h7, hlaid7⟩ :=
    Toggle.foldlM_apply hlaid6 (UInt8.toNat_lt x.exchangeFlags) x.toggles
  refine ⟨m₇.setAppPayload x.appPayload, ?_, hlaid7.setAppPayload x.appPayload⟩
  unfold build
  show (({} : Message).setMessageFlags (.nat x.messageFlags.toNat) >>= _) = _
  rw [h0]
  dsimp only [bind, Except.bind]
  rw [hassign]
  dsimp only
  unfold flagsSet at h1
  rw [h1]
  dsimp only
  rw [h2]
  dsimp only
  rw [h3]
  dsimp only
  rw [h4]
  dsimp only
  rw [h5]
  dsimp only
  rw [h6]
  dsimp only
  rw [h7]
  rfl

/-! ## 7. Reading back -/

section Reading

variable {m : Message} (hclear : x.messageFlags.toNat &&& 0x07 = 0)
  (h : Laid m x.front x.exchangeFlagsSet x.protocolOpcode.toNat x.exchangeId.toNat
    x.protocolId.toNat x.appPayload)

include h

theorem front_header : ∃ rest, m.buffer = header (UInt8.ofNat x.flagsSet) 0 0 ++ rest := by
  rw [h.buffer]
  unfold front
  exact ⟨_, by rw [List.append_assoc, List.append_assoc]⟩

include hclear

/-- **The source reads as it was assigned**, where it is announced. -/
theorem sourceNodeId_of_laid : m.sourceNodeId =
    .ok (if x.announcesSource then x.sourceNodeId.toNat else MsgCodec.nodeIdAny) := by
  obtain ⟨rest, hm⟩ := front_header h
  have hs := sflag_of_flagsSet hclear hm
  cases hb : x.announcesSource with
  | true =>
    rw [hb] at hs
    have hbuf := h.buffer
    unfold front at hbuf
    rw [hb, if_pos rfl, List.append_assoc, List.append_assoc] at hbuf
    exact sourceNodeId_written hs hbuf (length_header ..) x.sourceNodeId.toNat_lt
  | false =>
    rw [hb] at hs
    unfold Message.sourceNodeId
    rw [hs]
    rfl

/-- So does the destination. -/
theorem destinationNodeId_of_laid : m.destinationNodeId =
    .ok (if x.announcesDestination then x.destinationNodeId.toNat else MsgCodec.nodeIdAny) := by
  obtain ⟨rest, hm⟩ := front_header h
  have hz := dsiz_of_flagsSet hclear hm
  have hoff := (offsets_of_flags (sflag_of_flagsSet hclear hm) hz).1
  cases hb : x.announcesDestination with
  | true =>
    rw [hb] at hz
    have hbuf := h.buffer
    unfold front at hbuf
    rw [hb, if_pos rfl, List.append_assoc] at hbuf
    refine destinationNodeId_written hz ?_ hbuf x.destinationNodeId.toNat_lt
    rw [hoff]
    cases x.announcesSource <;> simp
  | false =>
    rw [hb] at hz
    unfold Message.destinationNodeId
    rw [hz, hoff]
    rfl

end Reading

/-- **What the flags announce is what was assigned last**: no assignment was made, or the version is
    0 and each field is set exactly if it was set since the last assignment of the other. -/
def FlagsKept (x : Fields) : Prop :=
  x.assignments = [] ∨ x.messageFlags.toNat >>> 4 = 0 ∧
    (FlagAssignment.sflag true ∈ FlagAssignment.sinceDsiz x.assignments ↔ x.sflag = true) ∧
    (FlagAssignment.dsiz true ∈ FlagAssignment.sinceSflag x.assignments ↔ x.dsiz = true)

theorem announces_of_flagsKept (hk : x.FlagsKept) :
    x.flagsSet >>> 4 = x.messageFlags.toNat >>> 4 ∧ x.announcesSource = x.sflag ∧
      x.announcesDestination = x.dsiz := by
  unfold announcesSource announcesDestination
  by_cases hnil : x.assignments = []
  · unfold flagsSet sflag dsiz
    rw [hnil]
    exact ⟨rfl, rfl, rfl⟩
  · rcases hk with h | ⟨hversion, hs, hd⟩
    · exact absurd h hnil
    · refine ⟨?_, ?_, ?_⟩
      · have hlt : x.flagsSet < 8 := FlagAssignment.flagsAfter_lt_eight hnil _
        rw [hversion, Nat.shiftRight_eq_div_pow]
        exact Nat.div_eq_of_lt (by omega)
      · rw [Bool.eq_iff_iff, decide_eq_true_iff, hs]
      · rw [Bool.eq_iff_iff, decide_eq_true_iff, hd]

theorem destinationType_inj {a b : Bool} (h : (if a then destinationTypeNodeId else
    destinationTypeOmit) = if b then destinationTypeNodeId else destinationTypeOmit) : a = b := by
  cases a <;> cases b <;> first | rfl | cases h

/-- **A message that is built through its setters reads back exactly when** the flags it was assigned
    last are kept. -/
theorem fieldsReadBack_iff (x : Fields) (hclear : x.messageFlags.toNat &&& 0x07 = 0)
    (hack : x.flag 1 = false) :
    (∃ m, x.build = .ok m ∧ x.ReadsBack m) ↔ x.FlagsKept := by
  obtain ⟨m, hbuild, hlaid⟩ := build_eq hclear
  obtain ⟨rest, hm⟩ := front_header hlaid
  have hversion := version_of_flagsSet hm
  have hs := sflag_of_flagsSet hclear hm
  have hd := dsiz_of_flagsSet hclear hm
  constructor
  · rintro ⟨m', hbuild', hread⟩
    obtain rfl : m = m' := Except.ok.inj (hbuild.symm.trans hbuild')
    by_cases hnil : x.assignments = []
    · exact Or.inl hnil
    · refine Or.inr ⟨?_, ?_, ?_⟩
      · have hlt : x.flagsSet < 8 := FlagAssignment.flagsAfter_lt_eight hnil _
        have heq := Except.ok.inj (hversion.symm.trans hread.version)
        rw [← heq, Nat.shiftRight_eq_div_pow]
        exact Nat.div_eq_of_lt (by omega)
      · have heq := Except.ok.inj (hs.symm.trans hread.sflag)
        rw [← heq]
        exact decide_eq_true_iff.symm
      · have heq := Except.ok.inj (hd.symm.trans hread.dsiz)
        have hsame : x.announcesDestination = x.dsiz := destinationType_inj heq
        rw [← hsame]
        exact decide_eq_true_iff.symm
  · intro hk
    obtain ⟨hv, hsource, hdest⟩ := announces_of_flagsKept hk
    have hlt : x.exchangeFlagsSet < 256 := Toggle.flagsAfter_lt (UInt8.toNat_lt _) _
    have hbit {i : Nat} (hi : i < 8) : x.exchangeFlagsSet.testBit i = x.flag i :=
      Toggle.testBit_flagsAfter _ _ hi
    have hflag {i : Nat} (hi : i < 8) : m.exchangeFlag (2 ^ i) = .ok (x.flag i) :=
      (hlaid.exchangeFlag hlt i).trans (congrArg Except.ok (hbit hi))
    have hinitial {i : Nat} (hi : 2 < i) : x.flag i = x.exchangeFlags.toNat.testBit i :=
      Toggle.last_eq hi _ _
    refine ⟨m, hbuild, ?_⟩
    exact {
      version := by rw [hversion, hv]
      sflag := by rw [hs, hsource]
      dsiz := by rw [hd, hdest]
      sourceNodeId := by rw [sourceNodeId_of_laid hclear hlaid, hsource]
      destinationNodeId := by rw [destinationNodeId_of_laid hclear hlaid, hdest]
      exchangeId := exchangeId_eq hlaid.buffer hlaid.offset x.exchangeId.toNat_lt
      protocolOpcode := protocolOpcode_eq hlaid.buffer hlaid.offset (UInt8.toNat_lt _)
      protocolId := protocolId_eq hlaid.buffer hlaid.offset x.protocolId.toNat_lt
      iflag := hflag (i := 0) (by decide)
      aflag := hflag (i := 1) (by decide)
      rflag := hflag (i := 2) (by decide)
      sxflag := by rw [← hinitial (i := 3) (by decide)]; exact hflag (i := 3) (by decide)
      vflag := by rw [← hinitial (i := 4) (by decide)]; exact hflag (i := 4) (by decide)
      appPayload := hlaid.appPayload hlt ((hbit (by decide)).trans hack) }

/-- A source, and no other flag. -/
def sample : Fields where
  messageFlags := 0
  assignments := [.sflag true]
  sourceNodeId := 1
  destinationNodeId := 2
  exchangeFlags := 0x09
  exchangeId := 3
  protocolOpcode := 4
  protocolId := 5
  toggles := [.rflag true, .iflag false]
  appPayload := [6]

theorem fieldsReadBack_iff_sample :
    (∃ m, sample.build = .ok m ∧ sample.ReadsBack m) ↔ sample.FlagsKept :=
  fieldsReadBack_iff sample (by decide) (by decide)

/-- **The assignment of one field loses the other.** -/
theorem source_lost :
    ¬ ∃ m, Fields.build { sample with assignments := [.sflag true, .dsiz true] } = .ok m ∧
      Fields.ReadsBack { sample with assignments := [.sflag true, .dsiz true] } m := by
  rintro ⟨m, hbuild, hread⟩
  have hs : (Fields.build { sample with assignments := [.sflag true, .dsiz true] } >>=
      Message.sflag) = .ok false := by decide
  rw [hbuild] at hs
  exact absurd (Except.ok.inj (hs.symm.trans hread.sflag)) (by decide)

end Fields

end Matternode.Messaging
