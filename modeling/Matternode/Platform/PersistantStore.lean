/-
  File:      Matternode/Platform/PersistantStore.lean
  Subject:   The configuration store (src/platform/PersistantStore.js): its fields, what it keeps on
             disk, and what a restart makes of it.

  A store holds each parameter in a field and most of them in a LocalStorage, which maps keys to
  texts. `init` reads the fields back and puts defaults where there is nothing.

  * `Setting` -- what a setter is given: text or a number;
  * `Host` -- what is not the store's: pino's levels, PublicFromPrivate, and the digits ECMAScript
    leaves to the implementation;
  * `PersistantStore`, its setters, `setDefaults`, `init`;
  * `Written` -- the storage contents stores leave behind;
  * `Fresh` -- what a store holds right after `init` (`fresh_of_init`);
  * `Opened` -- what holds of a store from then on (`opened_step`);
  * `Steady` -- the fields a restart finds again (`survives_iff`): the setter of the private key
    stores nothing, the port is stored under a key that is never read, and the node number under
    the text it was set with;
  * `steady_step` -- the calls that keep a store steady;
  * `along_survives_iff` -- **the configuration survives a restart all along a run just when every
    call is one of them.**
-/
import Matternode.Base.Machine
import Matternode.Clusters.ExampleCerts
import Matternode.Js.Number
import Matternode.Js.Value
import Mathlib.Logic.Function.Basic
import Mathlib.Data.Nat.Digits.Defs

namespace Matternode.Platform

open Base Js Clusters

/-! ## 1. Settings and the storage -/

/-- What a setter is given. -/
inductive Setting where
  | text (s : String)
  | number (x : Number)
  deriving DecidableEq, Repr

namespace Setting

/-- `String(v)`. -/
def toText : Setting → String
  | .text s => s
  | .number x => x.text

/-- `Number(v)`. -/
def toNumber : Setting → Number
  | .text s => .ofString s.toList
  | .number x => x

/-- `!!v`. -/
def truthy : Setting → Bool
  | .text s => s ≠ ""
  | .number x => x.truthy

end Setting

/-- LocalStorage: the text under each key, if there is one. -/
abbrev LocalStorage := String → Option String

def LocalStorage.empty : LocalStorage := fun _ => none

def LocalStorage.setItem (st : LocalStorage) (key value : String) : LocalStorage :=
  Function.update st key (some value)

@[simp] theorem LocalStorage.setItem_self (st : LocalStorage) (key value : String) :
    st.setItem key value key = some value :=
  Function.update_self ..

theorem LocalStorage.setItem_ne {key key' : String} (h : key' ≠ key) (st : LocalStorage)
    (value : String) : st.setItem key value key' = st key' :=
  Function.update_of_ne h ..

/-! ## 2. The host -/

/-- What the store takes from the host. -/
structure Host where
  /-- `Crypto.PublicFromPrivate`. -/
  publicFromPrivate : Bytes → Except JsError Bytes
  /-- The label pino's `level` has after a value is assigned; nothing where pino throws. -/
  levelLabel : Setting → Option String
  /-- `x.toString(radix)` where ECMAScript leaves the digits to the implementation. -/
  radixText : Number → Nat → String

/-- What pino documents of its levels: one is `info`, a level has a name, and assigning the name of
    a level sets that level. -/
structure Host.NamesLevels (H : Host) : Prop where
  info : H.levelLabel (.text "info") = some "info"
  ne_empty : ∀ v label, H.levelLabel v = some label → label ≠ ""
  again : ∀ v label, H.levelLabel v = some label → H.levelLabel (.text label) = some label

/-- The levels the process has set, of the logger and of the tracer. -/
structure Process where
  loggerLevel : String
  tracerLevel : Setting

/-- What `tracer.level = v` does not throw at: `v == 0 || v == 1`. -/
def tracerAccepts (v : Setting) : Bool := v.toNumber.eqInt 0 || v.toNumber.eqInt 1

/-! ## 3. The store -/

/-- `MsgCodec.DEFAULT_PORT`. -/
def DEFAULT_PORT : Int := 5540

/-- `buffer.toString('hex')`. -/
def hexText (bs : Bytes) : String := String.ofList (toHex bs)

/-- The fields of a store, `none` for null, its storage and the levels of its process. -/
structure PersistantStore where
  nodeid : Option Setting := none
  fabricid : Option Setting := none
  encryptionKey : Option Setting := none
  nodenum : Option Setting := none
  ipPort : Option Setting := none
  logLevel : Option Setting := none
  traceLevel : Option Setting := none
  daPrivateKey : Option Setting := none
  daPublicKey : Option Setting := none
  daCertificat : Option Setting := none
  daCertificate : Option Setting := none
  storage : LocalStorage
  process : Process

/-- The digits of a number in the radix. -/
def radixDigits (radix n : Nat) : List Char :=
  if n = 0 then ['0'] else
    ((Nat.digits radix n).map fun d => Char.ofNat (if d < 10 then 48 + d else 87 + d)).reverse

/-- `v.toString(radix)`; text ignores the radix. -/
def Setting.toStringRadix (H : Host) (radix : Nat) : Setting → String
  | .text s => s
  | .number (.int n) =>
    if n.natAbs ≤ 2 ^ 53 then
      String.ofList ((if n < 0 then ['-'] else []) ++ radixDigits radix n.natAbs)
    else H.radixText (.int n) radix
  | .number x => H.radixText x radix

/-- Prepends zeros up to the length. The length is also the radix the code passes. -/
def formatHex (H : Host) (hex : Setting) (len : Nat) : String :=
  let text := hex.toStringRadix H len
  String.ofList (List.replicate (len - utf16Units text.toList) '0' ++ text.toList)

namespace PersistantStore

/-- `theNode.Store.NodeId = v`, and so on. -/
def setNodeId (H : Host) (s : PersistantStore) (v : Setting) : PersistantStore :=
  let t := formatHex H v 16
  { s with nodeid := some (.text t), storage := s.storage.setItem "nodeid" t }

def setFabricId (H : Host) (s : PersistantStore) (v : Setting) : PersistantStore :=
  let t := formatHex H v 16
  { s with fabricid := some (.text t), storage := s.storage.setItem "fabricid" t }

def setEncryptionKey (H : Host) (s : PersistantStore) (v : Setting) : PersistantStore :=
  let t := formatHex H v 32
  { s with encryptionKey := some (.text t), storage := s.storage.setItem "encryptionKey" t }

def setIpPort (s : PersistantStore) (v : Setting) : PersistantStore :=
  { s with ipPort := some (.number v.toNumber), storage := s.storage.setItem "ipPort" v.toText }

/-- The port that goes with a node number. -/
def portOf (v : Setting) : Number := v.toNumber.addInt DEFAULT_PORT

def setNodeNum (s : PersistantStore) (v : Setting) : PersistantStore :=
  let s := { s with nodenum := some (.number v.toNumber) }
  let s := s.setIpPort (.number (portOf (.number v.toNumber)))
  { s with storage := s.storage.setItem "nodenum" v.toText }

/-- A level pino throws at leaves its level, which is then read back. -/
def setLogLevel (H : Host) (s : PersistantStore) (v : Setting) : PersistantStore :=
  let level := (H.levelLabel v).getD s.process.loggerLevel
  { s with
    process := { s.process with loggerLevel := level }
    logLevel := some (.text level)
    storage := s.storage.setItem "logLevel" level }

def setTraceLevel (s : PersistantStore) (v : Setting) : PersistantStore :=
  let level := if tracerAccepts v then v else s.process.tracerLevel
  { s with
    process := { s.process with tracerLevel := level }
    traceLevel := some level
    storage := s.storage.setItem "traceLevel" level.toText }

/-- `Crypto.PublicFromPrivate(Buffer.from(v, 'hex'))`. -/
def publicOf (H : Host) : Setting → Except JsError Bytes
  | .text t => H.publicFromPrivate (fromHex t.toList)
  | .number _ => .error .typeError

/-- The private key is set before its public key is computed, and neither is stored. -/
def setDaPrivateKey (H : Host) (s : PersistantStore) (v : Setting) :
    Except JsError Unit × PersistantStore :=
  let s := { s with daPrivateKey := some v }
  match publicOf H v with
  | .ok key => (.ok (), { s with daPublicKey := some (.text (hexText key)) })
  | .error e => (.error e, s)

/-- `!this._field`. -/
def missing (field : Option Setting) : Bool := !(field.any Setting.truthy)

/-- `setDefaults`, with the eight random bytes it may draw. -/
def setDefaults (H : Host) (random : Bytes) (s : PersistantStore) :
    Except JsError PersistantStore :=
  let s := if missing s.nodeid then s.setNodeId H (.text (hexText random)) else s
  let s := if missing s.fabricid then s.setFabricId H (.text "0000000000000000") else s
  let s := if missing s.encryptionKey then
    s.setEncryptionKey H (.text "5eded244e5532b3cdc23409dbad052d2") else s
  let s := if missing s.nodenum then s.setNodeNum (.number (.int 0)) else s
  let s := if missing s.ipPort then
    s.setIpPort (.number (portOf (s.nodenum.getD (.number (.int 0))))) else s
  let s := if missing s.logLevel then s.setLogLevel H (.text "info")
    else s.setLogLevel H (s.logLevel.getD (.text ""))
  let s := if missing s.traceLevel then s.setTraceLevel (.number (.int 0))
    else s.setTraceLevel (s.traceLevel.getD (.text ""))
  match if missing s.daPrivateKey then
      s.setDaPrivateKey H (.text (hexText ExampleCerts.TEST_DAC_PRIVKEY)) else (.ok (), s) with
  | (.error e, _) => .error e
  | (.ok (), s) =>
    .ok (if missing s.daCertificate then
      { s with
        daCertificate := some (.text (hexText ExampleCerts.TEST_DAC_CERTIFICATE.bytes)) } else s)

/-- The fields as `init` reads them. The port is read under a key no setter writes, and the
    certificate into a field nothing reads. -/
def load (process : Process) (st : LocalStorage) : PersistantStore where
  nodeid := (st "nodeid").map .text
  fabricid := (st "fabricid").map .text
  encryptionKey := (st "encryptionKey").map .text
  nodenum := (st "nodenum").map .text
  ipPort := (st "udpPort").map .text
  logLevel := (st "logLevel").map .text
  traceLevel := (st "traceLevel").map .text
  daPrivateKey := (st "daPrivateKey").map .text
  daPublicKey := (st "daPublicKey").map .text
  daCertificat := (st "daCertificate").map .text
  storage := st
  process := process

/-- `init`. -/
def init (H : Host) (process : Process) (random : Bytes) (st : LocalStorage) :
    Except JsError PersistantStore :=
  (load process st).setDefaults H random

/-- `mdnsTarget`. -/
def mdnsTarget (s : PersistantStore) : String :=
  (s.fabricid.elim "null" Setting.toText) ++ "-" ++ (s.nodeid.elim "null" Setting.toText)

end PersistantStore

/-- A call of a setter. -/
inductive Call where
  | nodeId (v : Setting)
  | fabricId (v : Setting)
  | encryptionKey (v : Setting)
  | nodeNum (v : Setting)
  | ipPort (v : Setting)
  | logLevel (v : Setting)
  | traceLevel (v : Setting)
  | daPrivateKey (v : Setting)

/-- The store after a call, whether or not the setter threw. -/
def PersistantStore.step (H : Host) (s : PersistantStore) : Call → PersistantStore
  | .nodeId v => s.setNodeId H v
  | .fabricId v => s.setFabricId H v
  | .encryptionKey v => s.setEncryptionKey H v
  | .nodeNum v => s.setNodeNum v
  | .ipPort v => s.setIpPort v
  | .logLevel v => s.setLogLevel H v
  | .traceLevel v => s.setTraceLevel v
  | .daPrivateKey v => (s.setDaPrivateKey H v).2

/-! ## 4. Restarts -/

open PersistantStore

/-- Two fields hold the same, a number and its decimal text identified. -/
def Same (a b : Option Setting) : Prop := a.map Setting.toText = b.map Setting.toText

/-- Every getter returns the same. -/
structure SameGetters (s t : PersistantStore) : Prop where
  nodeId : Same s.nodeid t.nodeid
  fabricId : Same s.fabricid t.fabricid
  encryptionKey : Same s.encryptionKey t.encryptionKey
  nodeNum : Same s.nodenum t.nodenum
  ipPort : Same s.ipPort t.ipPort
  logLevel : Same s.logLevel t.logLevel
  traceLevel : Same s.traceLevel t.traceLevel
  daPrivateKey : Same s.daPrivateKey t.daPrivateKey
  daPublicKey : Same s.daPublicKey t.daPublicKey
  daCertificate : Same s.daCertificate t.daCertificate
  mdnsTarget : s.mdnsTarget = t.mdnsTarget

/-- A fresh store on the storage `s` has written, in whatever process and whatever it draws, returns
    what `s` does. -/
def Survives (H : Host) (s : PersistantStore) : Prop :=
  ∀ process random, ∃ t, PersistantStore.init H process random s.storage = .ok t ∧ SameGetters s t

/-- The contents that stores leave behind, from an empty storage on. -/
inductive Written (H : Host) : LocalStorage → Prop where
  | empty : Written H .empty
  | used {st : LocalStorage} {process : Process} {random : Bytes} {s : PersistantStore}
      (before : Written H st) (opened : PersistantStore.init H process random st = .ok s)
      (calls : List Call) : Written H (run (PersistantStore.step H) s calls).storage

/-! ## 5. What a store holds after `init` -/

/-- What `init` makes of a stored text where the default is the number zero. -/
def loaded (stored : Option String) : Setting :=
  match stored with
  | some t => if t = "" then .number (.int 0) else .text t
  | none => .number (.int 0)

/-- What can be said of every storage a store has written. -/
structure Clean (H : Host) (st : LocalStorage) : Prop where
  udpPort : st "udpPort" = none
  daPrivateKey : st "daPrivateKey" = none
  logLevel : ∀ l, st "logLevel" = some l → H.levelLabel (.text l) = some l
  traceLevel : ∀ t, st "traceLevel" = some t → tracerAccepts (.text t) = true

/-- A field and its key hold one nonempty text. -/
def Holds (field : Option Setting) (st : LocalStorage) (key : String) : Prop :=
  ∃ t, t ≠ "" ∧ field = some (.text t) ∧ st key = some t

/-- What holds of a store from its `init` on. -/
structure Opened (H : Host) (s : PersistantStore) : Prop where
  clean : Clean H s.storage
  key : ∃ key, H.publicFromPrivate ExampleCerts.TEST_DAC_PRIVKEY = .ok key
  nodeid : Holds s.nodeid s.storage "nodeid"
  fabricid : Holds s.fabricid s.storage "fabricid"
  encryptionKey : Holds s.encryptionKey s.storage "encryptionKey"
  logLevel : ∃ l, H.levelLabel (.text l) = some l ∧ s.logLevel = some (.text l) ∧
    s.process.loggerLevel = l ∧ s.storage "logLevel" = some l
  traceLevel : ∃ v, tracerAccepts v = true ∧ s.traceLevel = some v ∧
    s.process.tracerLevel = v ∧ s.storage "traceLevel" = some v.toText
  daCertificate : s.daCertificate = some (.text (hexText ExampleCerts.TEST_DAC_CERTIFICATE.bytes))

/-- A store right after `init` on `st`: what was stored is kept, and the port, the private key and
    the public key are the defaults. -/
structure Fresh (H : Host) (st : LocalStorage) (t : PersistantStore) : Prop
    extends Opened H t where
  nodeid_kept : ∀ x, x ≠ "" → st "nodeid" = some x → t.nodeid = some (.text x)
  fabricid_kept : ∀ x, x ≠ "" → st "fabricid" = some x → t.fabricid = some (.text x)
  encryptionKey_kept : ∀ x, x ≠ "" → st "encryptionKey" = some x →
    t.encryptionKey = some (.text x)
  nodenum : t.nodenum = some (loaded (st "nodenum"))
  nodenum_stored : t.storage "nodenum" = some (loaded (st "nodenum")).toText
  ipPort : t.ipPort = some (.number (portOf (loaded (st "nodenum"))))
  logLevel_kept : ∀ l, st "logLevel" = some l → t.logLevel = some (.text l)
  traceLevel_loaded : t.traceLevel = some (loaded (st "traceLevel"))
  daPrivateKey : t.daPrivateKey = some (.text (hexText ExampleCerts.TEST_DAC_PRIVKEY))
  daPublicKey : ∀ key, H.publicFromPrivate ExampleCerts.TEST_DAC_PRIVKEY = .ok key →
    t.daPublicKey = some (.text (hexText key))

/-- The text of a level the tracer accepts is accepted too. -/
theorem tracerAccepts_toText {v : Setting} (h : tracerAccepts v = true) :
    tracerAccepts (.text v.toText) = true := by
  cases v with
  | text s => exact h
  | number x =>
    have hx : x.eqInt 0 = true ∨ x.eqInt 1 = true := Bool.or_eq_true_iff.mp h
    rcases hx with hx | hx
    · rw [Setting.toText, Number.text_of_eqInt_zero hx]
      simp [tracerAccepts, Setting.toNumber]
    · rw [Setting.toText, Number.text_of_eqInt_one hx]
      simp [tracerAccepts, Setting.toNumber]

theorem formatHex_ne_empty (H : Host) (v : Setting) {len : Nat} (h : 0 < len) :
    formatHex H v len ≠ "" := by
  unfold formatHex
  intro hempty
  simp only [String.ofList_eq_empty_iff, List.append_eq_nil_iff] at hempty
  obtain ⟨hpad, htext⟩ := hempty
  rw [htext] at hpad
  have hlen := congrArg List.length hpad
  simp [utf16Units] at hlen
  omega

/-- A field that was read is set to its default where it is missing; to set it to the text it has
    changes nothing. -/
theorem defaulted (H : Host) (v : Setting) {len : Nat} (hlen : 0 < len)
    (f : String → PersistantStore) {s : PersistantStore} (field : Option Setting)
    (stored : Option String) (hfield : field = stored.map .text)
    (hkeep : ∀ t, stored = some t → f t = s) :
    ∃ a, a ≠ "" ∧ (∀ x, x ≠ "" → stored = some x → a = x) ∧
      (if missing field then f (formatHex H v len) else s) = f a := by
  have hdefault : formatHex H v len ≠ "" := formatHex_ne_empty H v hlen
  subst hfield
  cases stored with
  | none => exact ⟨_, hdefault, fun x _ hx => (by cases hx), rfl⟩
  | some t =>
    by_cases ht : t = ""
    · refine ⟨_, hdefault, fun x hx hxt => ?_, ?_⟩
      · exact absurd ((Option.some.inj hxt).symm.trans ht) hx
      · simp [missing, ht, Setting.truthy]
    · refine ⟨t, ht, fun x _ hxt => Option.some.inj hxt, ?_⟩
      simp [missing, ht, Setting.truthy, hkeep t rfl]

theorem LocalStorage.setItem_eq_self {st : LocalStorage} {key value : String}
    (h : st key = some value) : st.setItem key value = st := by
  unfold LocalStorage.setItem
  rw [← h, Function.update_eq_self]

theorem LocalStorage.setItem_comm {key key' : String} (h : key ≠ key') (st : LocalStorage)
    (value value' : String) :
    (st.setItem key value).setItem key' value' = (st.setItem key' value').setItem key value :=
  Function.update_comm h ..

theorem LocalStorage.setItem_setItem (st : LocalStorage) (key value value' : String) :
    (st.setItem key value).setItem key value' = st.setItem key value' :=
  Function.update_idem ..

/-- The stage of `setDefaults` that looks at the node number and the port. -/
theorem defaulted_port {s t : PersistantStore} (stored : Option String)
    (hnum : s.nodenum = stored.map .text) (hstored : s.storage "nodenum" = stored)
    (hport : s.ipPort = none)
    (ht : t = if missing s.nodenum then s.setNodeNum (.number (.int 0)) else s) :
    (if missing t.ipPort then t.setIpPort (.number (portOf (t.nodenum.getD (.number (.int 0)))))
      else t) =
    { s with
      nodenum := some (loaded stored)
      ipPort := some (.number (portOf (loaded stored)))
      storage := (s.storage.setItem "ipPort" (portOf (loaded stored)).text).setItem "nodenum"
        (loaded stored).toText } := by
  have hdefault : t = s.setNodeNum (.number (.int 0)) → loaded stored = .number (.int 0) →
      (if missing t.ipPort then t.setIpPort (.number (portOf (t.nodenum.getD (.number (.int 0)))))
        else t) =
      { s with
        nodenum := some (loaded stored)
        ipPort := some (.number (portOf (loaded stored)))
        storage := (s.storage.setItem "ipPort" (portOf (loaded stored)).text).setItem "nodenum"
          (loaded stored).toText } := by
    intro htn hn
    have hset : t.setIpPort (.number (portOf (t.nodenum.getD (.number (.int 0))))) = t := by
      subst htn
      simp only [setIpPort, setNodeNum, Option.getD_some, Setting.toNumber, Setting.toText]
      rw [LocalStorage.setItem_comm (by decide), LocalStorage.setItem_setItem,
        LocalStorage.setItem_comm (by decide)]
    rw [hset, ite_self, htn, hn]
    rfl
  cases stored with
  | none =>
    refine hdefault ?_ rfl
    rw [ht, hnum]
    rfl
  | some x =>
    by_cases hx : x = ""
    · refine hdefault ?_ (by simp [loaded, hx])
      rw [ht, hnum, hx]
      rfl
    · have hkeep : t = s := by
        rw [ht, hnum]
        simp [missing, Setting.truthy, hx]
      have hloaded : loaded (some x) = .text x := by simp [loaded, hx]
      rw [hkeep, hport, hnum, hloaded, if_pos (show missing none = true from rfl),
        LocalStorage.setItem_eq_self]
      · simp [setIpPort, Setting.toNumber, Setting.toText, hnum]
      · rw [LocalStorage.setItem_ne (by decide), hstored]
        rfl

/-- The stage that looks at the level of the logger. -/
theorem defaulted_log {H : Host} (hH : H.NamesLevels) {s : PersistantStore}
    (stored : Option String) (hlevel : s.logLevel = stored.map .text)
    (hstored : ∀ l, stored = some l → H.levelLabel (.text l) = some l) :
    ∃ l, H.levelLabel (.text l) = some l ∧ (∀ x, stored = some x → l = x) ∧
      (if missing s.logLevel then s.setLogLevel H (.text "info")
        else s.setLogLevel H (s.logLevel.getD (.text ""))) =
      { s with
        process := { s.process with loggerLevel := l }
        logLevel := some (.text l)
        storage := s.storage.setItem "logLevel" l } := by
  cases stored with
  | none =>
    refine ⟨"info", hH.info, fun x hx => (by cases hx), ?_⟩
    simp [hlevel, missing, setLogLevel, hH.info]
  | some x =>
    have hx : x ≠ "" := hH.ne_empty _ _ (hstored x rfl)
    refine ⟨x, hstored x rfl, fun y hy => (by cases hy; rfl), ?_⟩
    simp [hlevel, missing, Setting.truthy, hx, setLogLevel, hstored x rfl]

/-- The stage that looks at the level of the tracer. -/
theorem defaulted_trace {s : PersistantStore} (stored : Option String)
    (hlevel : s.traceLevel = stored.map .text)
    (haccepts : tracerAccepts (loaded stored) = true) :
    (if missing s.traceLevel then s.setTraceLevel (.number (.int 0))
      else s.setTraceLevel (s.traceLevel.getD (.text ""))) =
    { s with
      process := { s.process with tracerLevel := loaded stored }
      traceLevel := some (loaded stored)
      storage := s.storage.setItem "traceLevel" (loaded stored).toText } := by
  have hset : (if missing s.traceLevel then s.setTraceLevel (.number (.int 0))
      else s.setTraceLevel (s.traceLevel.getD (.text ""))) = s.setTraceLevel (loaded stored) := by
    rw [hlevel]
    cases stored with
    | none => rfl
    | some x =>
      by_cases hx : x = ""
      · simp [missing, Setting.truthy, loaded, hx]
      · simp [missing, Setting.truthy, loaded, hx]
  rw [hset]
  simp [setTraceLevel, haccepts]

/-- **What `init` makes of a storage that stores have written.** It throws only where the default
    private key has no public key. -/
theorem init_eq {H : Host} (hH : H.NamesLevels) (process : Process) (random : Bytes)
    {st : LocalStorage} (hst : Clean H st) :
    ∃ t, init H process random st = (H.publicFromPrivate ExampleCerts.TEST_DAC_PRIVKEY).map t ∧
      ∀ key, H.publicFromPrivate ExampleCerts.TEST_DAC_PRIVKEY = .ok key → Fresh H st (t key) := by
  unfold init setDefaults
  extract_lets s1 s2 s3 s4 s5 s6 s7
  obtain ⟨a, ha, hkepta, h1⟩ := defaulted H (.text (hexText random)) (show 0 < 16 by decide)
    (fun a => { load process st with nodeid := some (.text a), storage := st.setItem "nodeid" a })
    (s := load process st) _ (st "nodeid") rfl
    (by intro t ht; simp [load, ht, LocalStorage.setItem_eq_self ht])
  change s1 = _ at h1
  obtain ⟨b, hb, hkeptb, h2⟩ := defaulted H (.text "0000000000000000") (show 0 < 16 by decide)
    (fun b => { s1 with fabricid := some (.text b), storage := s1.storage.setItem "fabricid" b })
    (s := s1) s1.fabricid (st "fabricid") (by rw [h1]; rfl) (by
      intro t ht
      rw [h1]
      simp only
      rw [LocalStorage.setItem_eq_self
        ((LocalStorage.setItem_ne (by decide) _ _).trans ht)]
      simp [load, ht])
  change s2 = _ at h2
  have h2id : s2.storage "encryptionKey" = st "encryptionKey" := by
    rw [h2, h1]
    simp [LocalStorage.setItem_ne]
  obtain ⟨c, hc, hkeptc, h3⟩ := defaulted H (.text "5eded244e5532b3cdc23409dbad052d2")
    (show 0 < 32 by decide)
    (fun c => { s2 with
      encryptionKey := some (.text c), storage := s2.storage.setItem "encryptionKey" c })
    (s := s2) s2.encryptionKey (st "encryptionKey")
    (by rw [h2, h1]; rfl) (by
      intro t ht
      rw [LocalStorage.setItem_eq_self (h2id.trans ht)]
      simp [h2, h1, load, ht])
  change s3 = _ at h3
  have h5 : s5 = _ := defaulted_port (s := s3) (t := s4) (st "nodenum")
    (by rw [h3, h2, h1]; rfl) (by rw [h3, h2, h1]; simp [LocalStorage.setItem_ne])
    (by rw [h3, h2, h1]; simp [load, hst.udpPort]) rfl
  obtain ⟨l, hl, hkeptl, h6⟩ := defaulted_log hH (s := s5) (st "logLevel")
    (by rw [h5, h3, h2, h1]; rfl) hst.logLevel
  change s6 = _ at h6
  have htrace : tracerAccepts (loaded (st "traceLevel")) = true := by
    cases htr : st "traceLevel" with
    | none => decide
    | some x =>
      by_cases hx : x = ""
      · simp only [loaded, hx, if_true]
        decide
      · simp only [loaded, hx, if_false]
        exact hst.traceLevel x htr
  have h7 : s7 = _ := defaulted_trace (s := s6) (st "traceLevel")
    (by rw [h6, h5, h3, h2, h1]; rfl) htrace
  have hkeymissing : missing s7.daPrivateKey = true := by
    rw [h7, h6, h5, h3, h2, h1]
    simp [load, hst.daPrivateKey, missing]
  have hcertmissing : missing s7.daCertificate = true := by
    rw [h7, h6, h5, h3, h2, h1]
    rfl
  have hpublic : publicOf H (.text (hexText ExampleCerts.TEST_DAC_PRIVKEY)) =
      H.publicFromPrivate ExampleCerts.TEST_DAC_PRIVKEY := by
    simp [publicOf, hexText]
  rw [if_pos hkeymissing]
  refine ⟨fun key => { s7 with
    daPrivateKey := some (.text (hexText ExampleCerts.TEST_DAC_PRIVKEY))
    daPublicKey := some (.text (hexText key))
    daCertificate := some (.text (hexText ExampleCerts.TEST_DAC_CERTIFICATE.bytes)) }, ?_, ?_⟩
  · simp only [setDaPrivateKey, hpublic]
    cases H.publicFromPrivate ExampleCerts.TEST_DAC_PRIVKEY with
    | error e => rfl
    | ok key => simp only [if_pos hcertmissing, Except.map]
  intro key hkey
  clear_value s1 s2 s3 s4 s5 s6 s7
  subst h7 h6 h5 h3 h2 h1
  exact
    { clean :=
        { udpPort := by simp [LocalStorage.setItem_ne, hst.udpPort]
          daPrivateKey := by simp [LocalStorage.setItem_ne, hst.daPrivateKey]
          logLevel := by simp [LocalStorage.setItem_ne, hl]
          traceLevel := by simp [tracerAccepts_toText htrace] }
      key := ⟨key, hkey⟩
      nodeid := ⟨a, ha, rfl, by simp [LocalStorage.setItem_ne]⟩
      nodeid_kept := fun x hx hxt => by rw [hkepta x hx hxt]
      fabricid := ⟨b, hb, rfl, by simp [LocalStorage.setItem_ne]⟩
      fabricid_kept := fun x hx hxt => by rw [hkeptb x hx hxt]
      encryptionKey := ⟨c, hc, rfl, by simp [LocalStorage.setItem_ne]⟩
      encryptionKey_kept := fun x hx hxt => by rw [hkeptc x hx hxt]
      nodenum := rfl
      nodenum_stored := by simp [LocalStorage.setItem_ne]
      ipPort := rfl
      logLevel := ⟨l, hl, rfl, rfl, by simp [LocalStorage.setItem_ne]⟩
      logLevel_kept := fun x hx => by rw [hkeptl x hx]
      traceLevel := ⟨_, htrace, rfl, rfl, by simp⟩
      traceLevel_loaded := rfl
      daPrivateKey := rfl
      daPublicKey := fun key' hkey' => by
        rw [hkey] at hkey'
        cases hkey'
        rfl
      daCertificate := rfl }

/-- A store that was initialised is fresh. -/
theorem fresh_of_init {H : Host} (hH : H.NamesLevels) {process : Process} {random : Bytes}
    {st : LocalStorage} {s : PersistantStore} (hst : Clean H st)
    (hs : init H process random st = .ok s) : Fresh H st s := by
  obtain ⟨t, hinit, hfresh⟩ := init_eq hH process random hst
  rw [hinit] at hs
  cases hkey : H.publicFromPrivate ExampleCerts.TEST_DAC_PRIVKEY with
  | error e =>
    rw [hkey] at hs
    cases hs
  | ok key =>
    rw [hkey] at hs
    cases hs
    exact hfresh key hkey

/-! ## 6. What a restart finds again -/

/-- The fields that `init` finds again: those it does not set to a default. -/
structure Steady (H : Host) (s : PersistantStore) : Prop where
  nodeNum : s.nodenum.map Setting.toText = some (loaded (s.storage "nodenum")).toText
  ipPort : s.ipPort.map Setting.toText = some (portOf (loaded (s.storage "nodenum"))).text
  traceLevel : s.storage "traceLevel" ≠ some ""
  daPrivateKey : s.daPrivateKey.map Setting.toText = some (hexText ExampleCerts.TEST_DAC_PRIVKEY)
  daPublicKey : ∀ key, H.publicFromPrivate ExampleCerts.TEST_DAC_PRIVKEY = .ok key →
    s.daPublicKey.map Setting.toText = some (hexText key)

theorem Opened.init_ok {H : Host} (hH : H.NamesLevels) {s : PersistantStore} (hs : Opened H s)
    (process : Process) (random : Bytes) :
    ∃ t, init H process random s.storage = .ok t ∧ Fresh H s.storage t := by
  obtain ⟨key, hkey⟩ := hs.key
  obtain ⟨t, hinit, hfresh⟩ := init_eq hH process random hs.clean
  refine ⟨t key, ?_, hfresh key hkey⟩
  rw [hinit, hkey]
  rfl

theorem loaded_toText_ne_empty (stored : Option String) : (loaded stored).toText ≠ "" := by
  cases stored with
  | none => exact Number.text_ne_empty (.int 0)
  | some t =>
    by_cases ht : t = ""
    · rw [loaded, if_pos ht]
      exact Number.text_ne_empty (.int 0)
    · rw [loaded, if_neg ht]
      exact ht

theorem loaded_of_ne {t : String} (h : t ≠ "") : loaded (some t) = .text t := if_neg h

/-- A field that holds a nonempty text, and its key, come back. -/
theorem Holds.same {field field' : Option Setting} {st : LocalStorage} {key : String}
    (h : Holds field st key)
    (hkept : ∀ x, x ≠ "" → st key = some x → field' = some (.text x)) : field = field' := by
  obtain ⟨t, ht, hfield, hst⟩ := h
  rw [hfield, hkept t ht hst]

/-- **A store survives a restart just when it is steady.** -/
theorem survives_iff {H : Host} (hH : H.NamesLevels) {s : PersistantStore} (hs : Opened H s) :
    Survives H s ↔ Steady H s := by
  obtain ⟨key, hkey⟩ := hs.key
  obtain ⟨v, -, hv, -, hvstored⟩ := hs.traceLevel
  constructor
  · intro hsurvives
    obtain ⟨t, ht, hsame⟩ := hsurvives ⟨"info", .number (.int 0)⟩ []
    obtain ⟨t', ht', hfresh⟩ := hs.init_ok hH ⟨"info", .number (.int 0)⟩ []
    cases ht.symm.trans ht'
    have htrace := hsame.traceLevel
    refine ⟨?_, ?_, ?_, ?_, ?_⟩
    · rw [hsame.nodeNum, hfresh.nodenum, Option.map_some]
    · rw [hsame.ipPort, hfresh.ipPort, Option.map_some]
      rfl
    · intro hempty
      rw [Same, hv, hfresh.traceLevel_loaded] at htrace
      have hvempty : v.toText = "" := Option.some.inj (hvstored.symm.trans hempty)
      exact loaded_toText_ne_empty _ ((Option.some.inj htrace).symm.trans hvempty)
    · rw [hsame.daPrivateKey, hfresh.daPrivateKey]
      rfl
    · intro key' hkey'
      rw [hsame.daPublicKey, hfresh.daPublicKey key' hkey']
      rfl
  · intro hsteady process random
    obtain ⟨t, ht, hfresh⟩ := hs.init_ok hH process random
    refine ⟨t, ht, ?_⟩
    have hnodeid : s.nodeid = t.nodeid := hs.nodeid.same hfresh.nodeid_kept
    have hfabricid : s.fabricid = t.fabricid := hs.fabricid.same hfresh.fabricid_kept
    obtain ⟨l, -, hl, -, hlstored⟩ := hs.logLevel
    have hvne : v.toText ≠ "" := by
      intro hempty
      exact hsteady.traceLevel (hvstored.trans (congrArg some hempty))
    exact
      { nodeId := congrArg _ hnodeid
        fabricId := congrArg _ hfabricid
        encryptionKey := congrArg _ (hs.encryptionKey.same hfresh.encryptionKey_kept)
        nodeNum := by
          rw [Same, hsteady.nodeNum, hfresh.nodenum]
          rfl
        ipPort := by
          rw [Same, hsteady.ipPort, hfresh.ipPort]
          rfl
        logLevel := by rw [hl, hfresh.logLevel_kept l hlstored]; rfl
        traceLevel := by
          rw [Same, hv, hfresh.traceLevel_loaded, hvstored, loaded_of_ne hvne]
          rfl
        daPrivateKey := by
          rw [Same, hsteady.daPrivateKey, hfresh.daPrivateKey]
          rfl
        daPublicKey := by
          rw [Same, hsteady.daPublicKey key hkey, hfresh.daPublicKey key hkey]
          rfl
        daCertificate := by rw [hs.daCertificate, hfresh.daCertificate]; rfl
        mdnsTarget := by rw [mdnsTarget, mdnsTarget, hnodeid, hfabricid] }

/-- The default number and a stored text give the same port again. -/
theorem portOf_loaded (stored : Option String) :
    portOf (.text (loaded stored).toText) = portOf (loaded stored) := by
  have hdefault : portOf (.text (Setting.number (.int 0)).toText) =
      portOf (.number (.int 0)) := by
    rw [Setting.toText, Number.text_of_eqInt_zero (by simp)]
    simp [portOf, Setting.toNumber]
  cases stored with
  | none => exact hdefault
  | some t =>
    by_cases ht : t = ""
    · rw [loaded, if_pos ht]
      exact hdefault
    · rw [loaded_of_ne ht]
      rfl

theorem Fresh.steady {H : Host} {st : LocalStorage} {t : PersistantStore} (h : Fresh H st t) :
    Steady H t := by
  have hloaded : loaded (t.storage "nodenum") = .text (loaded (st "nodenum")).toText := by
    rw [h.nodenum_stored, loaded_of_ne (loaded_toText_ne_empty _)]
  refine ⟨?_, ?_, ?_, ?_, ?_⟩
  · rw [h.nodenum, hloaded]
    rfl
  · rw [h.ipPort, hloaded, portOf_loaded]
    rfl
  · obtain ⟨v, -, hv, -, hvstored⟩ := h.traceLevel
    rw [hvstored, Option.some.inj (hv.symm.trans h.traceLevel_loaded)]
    intro hempty
    exact loaded_toText_ne_empty _ (Option.some.inj hempty)
  · rw [h.daPrivateKey]
    rfl
  · intro key hkey
    rw [h.daPublicKey key hkey]
    rfl

/-! ## 7. The calls -/

theorem Holds.setItem {field : Option Setting} {st : LocalStorage} {key k : String}
    (h : Holds field st key) (hk : key ≠ k) (value : String) :
    Holds field (st.setItem k value) key := by
  obtain ⟨t, ht, hfield, hst⟩ := h
  exact ⟨t, ht, hfield, (LocalStorage.setItem_ne hk ..).trans hst⟩

/-- A write under a key that is no level and that no setter leaves out. -/
theorem Clean.setItem {H : Host} {st : LocalStorage} (h : Clean H st) {k : String}
    (hk : k ∉ ["udpPort", "daPrivateKey", "logLevel", "traceLevel"]) (value : String) :
    Clean H (st.setItem k value) := by
  simp only [List.mem_cons, List.not_mem_nil, or_false, not_or] at hk
  obtain ⟨hport, hkey, hlog, htrace⟩ := hk
  exact
    { udpPort := (LocalStorage.setItem_ne (Ne.symm hport) ..).trans h.udpPort
      daPrivateKey := (LocalStorage.setItem_ne (Ne.symm hkey) ..).trans h.daPrivateKey
      logLevel := fun l hl =>
        h.logLevel l ((LocalStorage.setItem_ne (Ne.symm hlog) ..).symm.trans hl)
      traceLevel := fun t ht =>
        h.traceLevel t ((LocalStorage.setItem_ne (Ne.symm htrace) ..).symm.trans ht) }

/-- Every write to the storage but those of the levels: a setter that keeps the other fields. -/
theorem Opened.write {H : Host} {s s' : PersistantStore} (hs : Opened H s) {k value : String}
    (hk : k ∉ ["udpPort", "daPrivateKey", "logLevel", "traceLevel"])
    (hstorage : s'.storage = s.storage.setItem k value)
    (hnodeid : Holds s'.nodeid s'.storage "nodeid")
    (hfabricid : Holds s'.fabricid s'.storage "fabricid")
    (hencryptionKey : Holds s'.encryptionKey s'.storage "encryptionKey")
    (hlog : s'.logLevel = s.logLevel) (htrace : s'.traceLevel = s.traceLevel)
    (hprocess : s'.process = s.process) (hcert : s'.daCertificate = s.daCertificate) :
    Opened H s' := by
  have hlogkey : s'.storage "logLevel" = s.storage "logLevel" := by
    rw [hstorage]
    exact LocalStorage.setItem_ne (by rintro rfl; simp at hk) ..
  have htracekey : s'.storage "traceLevel" = s.storage "traceLevel" := by
    rw [hstorage]
    exact LocalStorage.setItem_ne (by rintro rfl; simp at hk) ..
  exact
    { clean := hstorage ▸ hs.clean.setItem hk value
      key := hs.key
      nodeid := hnodeid
      fabricid := hfabricid
      encryptionKey := hencryptionKey
      logLevel := by
        rw [hlog, hprocess, hlogkey]
        exact hs.logLevel
      traceLevel := by
        rw [htrace, hprocess, htracekey]
        exact hs.traceLevel
      daCertificate := hcert.trans hs.daCertificate }

theorem opened_step {H : Host} (hH : H.NamesLevels) {s : PersistantStore} (hs : Opened H s)
    (c : Call) : Opened H (s.step H c) := by
  cases c with
  | nodeId v =>
    exact hs.write (by decide) rfl
      ⟨_, formatHex_ne_empty H v (by decide), rfl, by simp [step, setNodeId]⟩
      (hs.fabricid.setItem (by decide) _) (hs.encryptionKey.setItem (by decide) _) rfl rfl rfl rfl
  | fabricId v =>
    exact hs.write (by decide) rfl (hs.nodeid.setItem (by decide) _)
      ⟨_, formatHex_ne_empty H v (by decide), rfl, by simp [step, setFabricId]⟩
      (hs.encryptionKey.setItem (by decide) _) rfl rfl rfl rfl
  | encryptionKey v =>
    exact hs.write (by decide) rfl (hs.nodeid.setItem (by decide) _)
      (hs.fabricid.setItem (by decide) _)
      ⟨_, formatHex_ne_empty H v (by decide), rfl, by simp [step, setEncryptionKey]⟩ rfl rfl rfl rfl
  | nodeNum v =>
    have hport : Opened H
        (({ s with nodenum := some (.number v.toNumber) } : PersistantStore).setIpPort
          (.number (portOf (.number v.toNumber)))) :=
      hs.write (by decide) rfl (hs.nodeid.setItem (by decide) _)
        (hs.fabricid.setItem (by decide) _) (hs.encryptionKey.setItem (by decide) _) rfl rfl rfl rfl
    exact hport.write (by decide) rfl (hport.nodeid.setItem (by decide) _)
      (hport.fabricid.setItem (by decide) _) (hport.encryptionKey.setItem (by decide) _)
      rfl rfl rfl rfl
  | ipPort v =>
    exact hs.write (by decide) rfl (hs.nodeid.setItem (by decide) _)
      (hs.fabricid.setItem (by decide) _) (hs.encryptionKey.setItem (by decide) _) rfl rfl rfl rfl
  | logLevel v =>
    obtain ⟨l, hl, hlevel⟩ : ∃ l, H.levelLabel (.text l) = some l ∧
        (H.levelLabel v).getD s.process.loggerLevel = l := by
      cases hv : H.levelLabel v with
      | some l => exact ⟨l, hH.again v l hv, rfl⟩
      | none =>
        obtain ⟨l, hl, -, hlogger, -⟩ := hs.logLevel
        exact ⟨l, hl, hlogger⟩
    have hstep : s.step H (.logLevel v) = { s with
        process := { s.process with loggerLevel := l }
        logLevel := some (.text l)
        storage := s.storage.setItem "logLevel" l } := by
      rw [← hlevel]
      rfl
    rw [hstep]
    exact
      { clean :=
          { udpPort := by simpa [LocalStorage.setItem_ne] using hs.clean.udpPort
            daPrivateKey := by simpa [LocalStorage.setItem_ne] using hs.clean.daPrivateKey
            logLevel := by simp [hl]
            traceLevel := by simpa [LocalStorage.setItem_ne] using hs.clean.traceLevel }
        key := hs.key
        nodeid := hs.nodeid.setItem (by decide) _
        fabricid := hs.fabricid.setItem (by decide) _
        encryptionKey := hs.encryptionKey.setItem (by decide) _
        logLevel := ⟨l, hl, rfl, rfl, by simp⟩
        traceLevel := by simpa [LocalStorage.setItem_ne] using hs.traceLevel
        daCertificate := hs.daCertificate }
  | traceLevel v =>
    obtain ⟨w, hw, hlevel⟩ : ∃ w, tracerAccepts w = true ∧
        (if tracerAccepts v then v else s.process.tracerLevel) = w := by
      by_cases hv : tracerAccepts v = true
      · exact ⟨v, hv, if_pos hv⟩
      · obtain ⟨w, hw, -, htracer, -⟩ := hs.traceLevel
        exact ⟨w, hw, (if_neg hv).trans htracer⟩
    have hstep : s.step H (.traceLevel v) = { s with
        process := { s.process with tracerLevel := w }
        traceLevel := some w
        storage := s.storage.setItem "traceLevel" w.toText } := by
      rw [← hlevel]
      rfl
    rw [hstep]
    exact
      { clean :=
          { udpPort := by simpa [LocalStorage.setItem_ne] using hs.clean.udpPort
            daPrivateKey := by simpa [LocalStorage.setItem_ne] using hs.clean.daPrivateKey
            logLevel := by simpa [LocalStorage.setItem_ne] using hs.clean.logLevel
            traceLevel := by simp [tracerAccepts_toText hw] }
        key := hs.key
        nodeid := hs.nodeid.setItem (by decide) _
        fabricid := hs.fabricid.setItem (by decide) _
        encryptionKey := hs.encryptionKey.setItem (by decide) _
        logLevel := by simpa [LocalStorage.setItem_ne] using hs.logLevel
        traceLevel := ⟨w, hw, rfl, rfl, by simp⟩
        daCertificate := hs.daCertificate }
  | daPrivateKey v =>
    show Opened H (s.setDaPrivateKey H v).2
    unfold setDaPrivateKey
    cases publicOf H v with
    | ok key => exact { hs with }
    | error e => exact { hs with }

/-- `v` is the decimal text of its number, or a number its decimal text gives back, as far as the
    port that goes with it can tell. -/
def IsDecimal (v : Setting) : Prop :=
  v.toText = v.toNumber.text ∧ (portOf (.text v.toText)).text = (portOf v).text

/-- The calls that keep a store steady: `NodeNum` with a decimal or with nothing, `IpPort` with the
    port there is, `TraceLevel` with something, `DaPrivateKey` with the default key, and every other
    setter with anything. -/
def Keeps (s : PersistantStore) : Call → Prop
  | .nodeNum v => v = .text "" ∨ IsDecimal v
  | .ipPort v => Same (some (.number v.toNumber)) s.ipPort
  | .traceLevel v => v ≠ .text ""
  | .daPrivateKey v => v.toText = hexText ExampleCerts.TEST_DAC_PRIVKEY
  | _ => True

theorem Steady.congr {H : Host} {s s' : PersistantStore} (hnum : s'.nodenum = s.nodenum)
    (hport : s'.ipPort = s.ipPort) (hstored : s'.storage "nodenum" = s.storage "nodenum")
    (htrace : s'.storage "traceLevel" = s.storage "traceLevel")
    (hkey : s'.daPrivateKey = s.daPrivateKey) (hpublic : s'.daPublicKey = s.daPublicKey) :
    Steady H s' ↔ Steady H s := by
  constructor
  · intro h
    exact
      { nodeNum := by rw [← hnum, ← hstored, h.nodeNum]
        ipPort := by rw [← hport, ← hstored, h.ipPort]
        traceLevel := htrace ▸ h.traceLevel
        daPrivateKey := hkey ▸ h.daPrivateKey
        daPublicKey := hpublic ▸ h.daPublicKey }
  · intro h
    exact
      { nodeNum := by rw [hnum, hstored, h.nodeNum]
        ipPort := by rw [hport, hstored, h.ipPort]
        traceLevel := by rw [htrace]; exact h.traceLevel
        daPrivateKey := by rw [hkey]; exact h.daPrivateKey
        daPublicKey := by rw [hpublic]; exact h.daPublicKey }

/-- A call that leaves alone what a restart may lose. -/
theorem steady_step_of_same {H : Host} {s s' : PersistantStore} (h : Steady H s)
    (hnum : s'.nodenum = s.nodenum) (hport : s'.ipPort = s.ipPort)
    (hstored : s'.storage "nodenum" = s.storage "nodenum")
    (htrace : s'.storage "traceLevel" = s.storage "traceLevel")
    (hkey : s'.daPrivateKey = s.daPrivateKey) (hpublic : s'.daPublicKey = s.daPublicKey) :
    Steady H s' ↔ True :=
  iff_true_intro ((Steady.congr hnum hport hstored htrace hkey hpublic).mpr h)

/-- `NodeNum` keeps its text, which the next `init` takes for the number. -/
theorem steady_setNodeNum {H : Host} {s : PersistantStore} (h : Steady H s) (v : Setting) :
    Steady H (s.setNodeNum v) ↔ v = .text "" ∨ IsDecimal v := by
  have hstored : (s.setNodeNum v).storage "nodenum" = some v.toText := by simp [setNodeNum]
  have htrace : (s.setNodeNum v).storage "traceLevel" = s.storage "traceLevel" := by
    simp [setNodeNum, setIpPort, LocalStorage.setItem_ne]
  have hsteady : Steady H (s.setNodeNum v) ↔
      v.toNumber.text = (loaded (some v.toText)).toText ∧
        (portOf v).text = (portOf (loaded (some v.toText))).text := by
    constructor
    · intro h'
      have hnum := h'.nodeNum
      have hport := h'.ipPort
      rw [hstored] at hnum hport
      exact ⟨Option.some.inj hnum, Option.some.inj hport⟩
    · rintro ⟨hnum, hport⟩
      exact
        { nodeNum := by
            rw [hstored]
            exact congrArg some hnum
          ipPort := by
            rw [hstored]
            exact congrArg some hport
          traceLevel := by
            rw [htrace]
            exact h.traceLevel
          daPrivateKey := h.daPrivateKey
          daPublicKey := h.daPublicKey }
  rw [hsteady]
  by_cases hv : v = .text ""
  · subst hv
    simp only [true_or, iff_true]
    exact ⟨rfl, rfl⟩
  · have hne : v.toText ≠ "" := by
      cases v with
      | text t =>
        intro ht
        exact hv (congrArg _ ht)
      | number x => exact Number.text_ne_empty x
    rw [loaded_of_ne hne, or_iff_right hv]
    exact and_congr eq_comm eq_comm

/-- `IpPort` is stored where `init` does not look. -/
theorem steady_setIpPort {H : Host} {s : PersistantStore} (h : Steady H s) (v : Setting) :
    Steady H (s.setIpPort v) ↔ Same (some (.number v.toNumber)) s.ipPort := by
  have hstored : (s.setIpPort v).storage "nodenum" = s.storage "nodenum" := by
    simp [setIpPort, LocalStorage.setItem_ne]
  have htrace : (s.setIpPort v).storage "traceLevel" = s.storage "traceLevel" := by
    simp [setIpPort, LocalStorage.setItem_ne]
  constructor
  · intro h'
    have hport := h'.ipPort
    rw [hstored, ← h.ipPort] at hport
    exact hport
  · intro hport
    exact
      { nodeNum := by
          rw [hstored]
          exact h.nodeNum
        ipPort := by
          rw [hstored, ← h.ipPort]
          exact hport
        traceLevel := by
          rw [htrace]
          exact h.traceLevel
        daPrivateKey := h.daPrivateKey
        daPublicKey := h.daPublicKey }

/-- The tracer takes the empty text for the level zero, `init` takes it for nothing. -/
theorem steady_setTraceLevel {H : Host} {s : PersistantStore} (hs : Opened H s)
    (h : Steady H s) (v : Setting) : Steady H (s.setTraceLevel v) ↔ v ≠ .text "" := by
  have hstored : (s.setTraceLevel v).storage "nodenum" = s.storage "nodenum" := by
    simp [setTraceLevel, LocalStorage.setItem_ne]
  have hlevel : (s.setTraceLevel v).storage "traceLevel" =
      some (if tracerAccepts v then v else s.process.tracerLevel).toText := by
    simp [setTraceLevel]
  constructor
  · rintro h' rfl
    apply h'.traceLevel
    rw [hlevel]
    rfl
  · intro hv
    have hne : (s.setTraceLevel v).storage "traceLevel" ≠ some "" := by
      rw [hlevel]
      by_cases hacc : tracerAccepts v = true
      · rw [if_pos hacc]
        cases v with
        | text t =>
          intro ht
          exact hv (congrArg _ (Option.some.inj ht))
        | number x =>
          intro hx
          exact Number.text_ne_empty x (Option.some.inj hx)
      · obtain ⟨w, -, -, htracer, hw⟩ := hs.traceLevel
        rw [if_neg hacc, htracer, ← hw]
        exact h.traceLevel
    exact
      { nodeNum := by
          rw [hstored]
          exact h.nodeNum
        ipPort := by
          rw [hstored]
          exact h.ipPort
        traceLevel := hne
        daPrivateKey := h.daPrivateKey
        daPublicKey := h.daPublicKey }

/-- `DaPrivateKey` is not stored. -/
theorem steady_setDaPrivateKey {H : Host} {s : PersistantStore} (h : Steady H s) (v : Setting) :
    Steady H (s.setDaPrivateKey H v).2 ↔ v.toText = hexText ExampleCerts.TEST_DAC_PRIVKEY := by
  have hkey : (s.setDaPrivateKey H v).2.daPrivateKey = some v := by
    unfold setDaPrivateKey
    cases publicOf H v <;> rfl
  have hrest : (s.setDaPrivateKey H v).2.nodenum = s.nodenum ∧
      (s.setDaPrivateKey H v).2.ipPort = s.ipPort ∧
      (s.setDaPrivateKey H v).2.storage = s.storage := by
    unfold setDaPrivateKey
    cases publicOf H v <;> exact ⟨rfl, rfl, rfl⟩
  obtain ⟨hnum, hport, hstorage⟩ := hrest
  constructor
  · intro h'
    have hdefault := h'.daPrivateKey
    rw [hkey] at hdefault
    exact Option.some.inj hdefault
  · intro hv
    exact
      { nodeNum := by
          rw [hnum, hstorage]
          exact h.nodeNum
        ipPort := by
          rw [hport, hstorage]
          exact h.ipPort
        traceLevel := by
          rw [hstorage]
          exact h.traceLevel
        daPrivateKey := by
          rw [hkey]
          exact congrArg some hv
        daPublicKey := by
          intro key hpublic
          cases v with
          | number x => exact h.daPublicKey key hpublic
          | text t =>
            -- the default key, whose public key is computed again
            have ht : publicOf H (.text t) = .ok key := by
              have htext : t = hexText ExampleCerts.TEST_DAC_PRIVKEY := hv
              simp [publicOf, htext, hexText, hpublic]
            unfold setDaPrivateKey
            rw [ht]
            rfl }

/-- **Exactly the calls that keep what a restart finds again** keep a store steady. -/
theorem steady_step {H : Host} {s : PersistantStore} (hs : Opened H s) (h : Steady H s)
    (c : Call) : Steady H (s.step H c) ↔ Keeps s c := by
  cases c with
  | nodeId v =>
    exact steady_step_of_same h rfl rfl (by simp [step, setNodeId, LocalStorage.setItem_ne])
      (by simp [step, setNodeId, LocalStorage.setItem_ne]) rfl rfl
  | fabricId v =>
    exact steady_step_of_same h rfl rfl (by simp [step, setFabricId, LocalStorage.setItem_ne])
      (by simp [step, setFabricId, LocalStorage.setItem_ne]) rfl rfl
  | encryptionKey v =>
    exact steady_step_of_same h rfl rfl
      (by simp [step, setEncryptionKey, LocalStorage.setItem_ne])
      (by simp [step, setEncryptionKey, LocalStorage.setItem_ne]) rfl rfl
  | logLevel v =>
    exact steady_step_of_same h rfl rfl (by simp [step, setLogLevel, LocalStorage.setItem_ne])
      (by simp [step, setLogLevel, LocalStorage.setItem_ne]) rfl rfl
  | nodeNum v => exact steady_setNodeNum h v
  | ipPort v => exact steady_setIpPort h v
  | traceLevel v => exact steady_setTraceLevel hs h v
  | daPrivateKey v => exact steady_setDaPrivateKey h v

/-- Stores leave clean storages behind. -/
theorem Written.clean {H : Host} (hH : H.NamesLevels) {st : LocalStorage} (h : Written H st) :
    Clean H st := by
  induction h with
  | empty => exact ⟨rfl, rfl, fun l hl => (by cases hl), fun t ht => (by cases ht)⟩
  | used before opened calls ih =>
    exact (run_invariant (step H) (I := Opened H) (fun s c hs => opened_step hH hs c)
      (fresh_of_init hH ih opened).toOpened calls).clean

/-- **The configuration survives a restart in every state of a run just when every call keeps the
    store steady.** -/
theorem along_survives_iff {H : Host} (hH : H.NamesLevels) {st : LocalStorage}
    {process : Process} {random : Bytes} {s : PersistantStore} (hst : Written H st)
    (hs : init H process random st = .ok s) (calls : List Call) :
    (Survives H s ∧ Along (step H) (fun s c => Survives H (s.step H c)) s calls) ↔
      Along (step H) Keeps s calls := by
  have hfresh : Fresh H st s := fresh_of_init hH (hst.clean hH) hs
  rw [and_iff_right ((survives_iff hH hfresh.toOpened).mpr hfresh.steady)]
  have hopened : Opened H s := hfresh.toOpened
  have hsteady : Steady H s := hfresh.steady
  clear hfresh hs
  induction calls generalizing s with
  | nil => exact Iff.rfl
  | cons c calls ih =>
    have hnext : Opened H (s.step H c) := opened_step hH hopened c
    have hkeeps : Survives H (s.step H c) ↔ Keeps s c :=
      (survives_iff hH hnext).trans (steady_step hopened hsteady c)
    constructor
    · rintro ⟨hsurvives, hrest⟩
      exact ⟨hkeeps.mp hsurvives, (ih hnext ((survives_iff hH hnext).mp hsurvives)).mp hrest⟩
    · rintro ⟨hkeep, hrest⟩
      exact ⟨hkeeps.mpr hkeep,
        (ih hnext ((steady_step hopened hsteady c).mpr hkeep)).mpr hrest⟩

/-- A host that knows the default key pair, and pino's levels by their names. -/
def sampleHost : Host where
  publicFromPrivate key :=
    if key = ExampleCerts.TEST_DAC_PRIVKEY then .ok ExampleCerts.TEST_DAC_PUBKEY
    else .error .rangeError
  levelLabel
    | .text l =>
      if l ∈ ["trace", "debug", "info", "warn", "error", "fatal", "silent"] then some l else none
    | .number _ => none
  radixText x _ := x.text

theorem sampleHost_namesLevels : sampleHost.NamesLevels where
  info := rfl
  ne_empty v label h := by
    cases v with
    | number x => cases h
    | text l =>
      rintro rfl
      simp only [sampleHost] at h
      split at h
      · cases h
        simp_all
      · cases h
  again v label h := by
    cases v with
    | number x => cases h
    | text l =>
      simp only [sampleHost] at h ⊢
      split at h
      · cases h
        simp_all
      · cases h

theorem sampleHost_init : ∃ s, init sampleHost ⟨"info", .number (.int 1)⟩ [] .empty = .ok s := by
  obtain ⟨t, hinit, -⟩ := init_eq sampleHost_namesLevels ⟨"info", .number (.int 1)⟩ []
    (Written.empty.clean sampleHost_namesLevels)
  refine ⟨t ExampleCerts.TEST_DAC_PUBKEY, ?_⟩
  rw [hinit]
  simp [sampleHost, Except.map]

theorem along_survives_iff_sample :
    ∃ s, init sampleHost ⟨"info", .number (.int 1)⟩ [] .empty = .ok s ∧
      Along (step sampleHost) (fun s c => Survives sampleHost (s.step sampleHost c)) s
        [.nodeNum (.text "3"), .logLevel (.text "debug")] := by
  obtain ⟨s, hs⟩ := sampleHost_init
  refine ⟨s, hs, ((along_survives_iff sampleHost_namesLevels .empty hs _).mpr ?_).2⟩
  exact ⟨Or.inr ⟨by decide +kernel, rfl⟩, trivial, trivial⟩

/-- A port that was set is the default one again after a restart. -/
theorem port_lost :
    ¬ ∀ (H : Host) (st : LocalStorage) (process : Process) (random : Bytes)
        (s : PersistantStore) (calls : List Call), H.NamesLevels → Written H st →
        init H process random st = .ok s → Survives H (run (step H) s calls) := by
  intro hclaim
  obtain ⟨s, hs⟩ := sampleHost_init
  have hfresh := fresh_of_init sampleHost_namesLevels
    (Written.empty.clean sampleHost_namesLevels) hs
  have hsurvives := hclaim sampleHost _ _ _ s [.ipPort (.number (.int 6000))]
    sampleHost_namesLevels .empty hs
  have hopened := opened_step sampleHost_namesLevels hfresh.toOpened (.ipPort (.number (.int 6000)))
  have hsame := (steady_setIpPort hfresh.steady _).mp
    ((survives_iff sampleHost_namesLevels hopened).mp hsurvives)
  rw [Same, hfresh.ipPort] at hsame
  revert hsame
  decide +kernel

end Matternode.Platform
