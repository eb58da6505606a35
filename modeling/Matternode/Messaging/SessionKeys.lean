/-
  File:      Matternode/Messaging/SessionKeys.lean
  Subject:   SessionManager: which unsecured session a datagram finds, and how many are made.

  An unsecured datagram is looked up by its address and a node id: its source where the I flag is
  set, its destination where not. The session that is made where none is found takes the source in
  both cases.

  * `LookupKey`, `Datagram.key`, `Session.lookupKey` -- what a datagram is looked up by, and what a
    session is found by;
  * `onMessage_finds`, `onMessage_makes`, `onMessage_unkeyed` -- what a datagram does to the table;
  * `StoresItsKey` -- a datagram that finds no session has as its source what it is looked up by;
  * `sessions_of_keys` -- **in runs of such, a key finds its session again**, and there are no more
    sessions than keys;
  * `multiplied_sessions` -- one datagram that comes twice makes two sessions.
-/
import Mathlib.Data.List.Dedup
import Mathlib.Data.List.Perm.Subperm
import Matternode.Base.Keyed
import Matternode.Messaging.ClearFrames
import Matternode.Messaging.Dispatch
import Matternode.Messaging.Searchable

namespace Matternode.Messaging

open Base Js Session

/-! ## 1. Keys -/

/-- An address and a node id. -/
abbrev LookupKey := PeerInfo × Nat

/-- What `getUnsecureSession` finds a session by, once it has both. -/
def Session.lookupKey (s : Session) : Option LookupKey := do
  return (← s.peerInfo, ← s.peerNodeId)

theorem Session.lookupKey_eq_some_iff {s : Session} {k : LookupKey} :
    s.lookupKey = some k ↔ s.peerInfo = some k.1 ∧ s.peerNodeId = some k.2 := by
  unfold Session.lookupKey
  cases s.peerInfo with
  | none => simp
  | some info =>
    cases s.peerNodeId with
    | none => simp
    | some id => simp [Prod.ext_iff]

structure Datagram where
  buf : Bytes
  peerInfo : PeerInfo
  deriving DecidableEq, Repr

namespace Datagram

def msg (d : Datagram) : Message := rawMessage d.buf d.peerInfo

/-- What an unsecured datagram is looked up by. -/
def key (d : Datagram) : Option LookupKey := do
  let unencrypted ← d.msg.isUnencrypted.toOption
  let peerNodeId ← (SessionManager.unsecuredPeer d.msg).toOption
  if unencrypted then some (d.peerInfo, peerNodeId) else none

theorem key_eq_some {d : Datagram} {k : LookupKey} (h : d.key = some k) :
    d.msg.isUnencrypted = .ok true ∧ SessionManager.unsecuredPeer d.msg = .ok k.2 ∧
      k.1 = d.peerInfo := by
  unfold key at h
  cases hu : d.msg.isUnencrypted with
  | error e =>
    rw [hu] at h
    cases h
  | ok unencrypted =>
    cases hp : SessionManager.unsecuredPeer d.msg with
    | error e =>
      rw [hu, hp] at h
      cases h
    | ok peerNodeId =>
      rw [hu, hp] at h
      cases unencrypted with
      | true =>
        cases h
        exact ⟨rfl, rfl, rfl⟩
      | false => cases h

theorem key_of_unencrypted {d : Datagram} {peerNodeId : Nat} (hu : d.msg.isUnencrypted = .ok true)
    (hp : SessionManager.unsecuredPeer d.msg = .ok peerNodeId) :
    d.key = some (d.peerInfo, peerNodeId) := by
  unfold key
  rw [hu, hp]
  rfl

end Datagram

namespace SessionManager

/-- The keys of the unsecured sessions, in the order of the table. -/
def lookupKeys (h : SessionManager) : List (Option LookupKey) :=
  h.sessionsUnsecured.map Session.lookupKey

/-- Every unsecured session has its key. -/
def Keyed (h : SessionManager) : Prop := ∀ s ∈ h.sessionsUnsecured, s.lookupKey.isSome = true

/-- **The search of a table of keyed sessions is the search for the key.** -/
theorem Keyed.getUnsecureSession {h : SessionManager} (hh : h.Keyed) (k : LookupKey) :
    h.getUnsecureSession k.1 k.2 =
      .ok (h.sessionsUnsecured.findIdx? fun s => s.lookupKey = some k) := by
  have hlist : ∀ l : List Session, (∀ s ∈ l, s.lookupKey.isSome = true) →
      findUnsecure k.1 k.2 l = .ok (l.findIdx? fun s => s.lookupKey = some k) := by
    intro l hl
    induction l with
    | nil => rfl
    | cons s ss ih =>
      have hrest := ih fun t ht => hl t (List.mem_cons_of_mem s ht)
      obtain ⟨k', hk'⟩ := Option.isSome_iff_exists.mp (hl s List.mem_cons_self)
      obtain ⟨hinfo, hid⟩ := lookupKey_eq_some_iff.mp hk'
      have hcond : (k'.1.address = k.1.address ∧ k'.1.port = k.1.port ∧
          (s.peerNodeId = some k.2 ∨ s.peerNodeId = none)) ↔ s.lookupKey = some k := by
        rw [hk', hid]
        simp [Prod.ext_iff, PeerInfo.ext_iff, and_assoc]
      unfold findUnsecure
      rw [hinfo]
      dsimp only
      rw [hrest, List.findIdx?_cons]
      by_cases hk : s.lookupKey = some k
      · rw [if_pos (hcond.mpr hk), if_pos (decide_eq_true hk)]
      · rw [if_neg (hcond.not.mpr hk), if_neg (by simpa using hk)]
        rfl
  exact hlist _ hh

/-! ## 2. What a datagram does to the table -/

section Runs

variable {A : Aead} {h : SessionManager} {d : Datagram} {k : LookupKey}

theorem run_onMessage_unencrypted (hu : d.msg.isUnencrypted = .ok true) :
    (onMessage A d.buf d.peerInfo).run h = (onUnsecuredMessage d.msg d.peerInfo).run h := by
  show (lift d.msg.isUnencrypted >>= fun unencrypted =>
    if unencrypted then onUnsecuredMessage d.msg d.peerInfo
    else onSecureMessage A d.buf d.peerInfo : ManagerM Emission).run h = _
  rw [hu, run_bind_ok (run_lift_ok true h)]
  rfl

/-- **A datagram whose key is in the table** goes to the session that has it, which keeps it. -/
theorem onMessage_finds (hh : h.Keyed) (hd : d.key = some k) {i : Nat}
    (hi : h.sessionsUnsecured.findIdx? (fun s => s.lookupKey = some k) = some i) :
    ∃ e h', (onMessage A d.buf d.peerInfo).run h = .ok e h' ∧ e.session = .unsecured i ∧
      h'.lookupKeys = h.lookupKeys := by
  obtain ⟨hu, hp, hinfo⟩ := Datagram.key_eq_some hd
  obtain ⟨iflag, hiflag, -⟩ := bind_eq_ok hp
  obtain ⟨counter, hc⟩ := Message.messageCounter_of_le (Message.header_of_iflag hiflag).1
  obtain ⟨hlt, hmatch, -⟩ := List.findIdx?_eq_some_iff_getElem.mp hi
  have hget := List.getElem?_eq_getElem hlt
  have hkey : (h.sessionsUnsecured[i]).lookupKey = some k := of_decide_eq_true hmatch
  obtain ⟨hsinfo, hsid⟩ := lookupKey_eq_some_iff.mp hkey
  have hfind : (unsecuredSessionFor d.msg d.peerInfo).run h = .ok (.unsecured i) h := by
    unfold unsecuredSessionFor
    rw [hp, run_bind_ok (run_lift_ok k.2 h), run_bind_ok (run_get h), ← hinfo,
      hh.getUnsecureSession k, hi, run_bind_ok (run_lift_ok _ h)]
    dsimp only
    rw [hget, Option.bind_some, hsid]
    rfl
  have hon : (onUnsecuredMessage d.msg d.peerInfo).run h = .ok ⟨.messageUnsecured, d.msg, .unsecured i⟩
      (h.modifySession (hear d.msg counter) (.unsecured i)) := by
    unfold onUnsecuredMessage
    rw [run_bind_ok hfind, run_bind_ok (updatePeer_ok hc)]
    rfl
  refine ⟨_, _, (run_onMessage_unencrypted hu).trans hon, rfl, ?_⟩
  · unfold lookupKeys
    refine map_key_modify fun s hs => ?_
    have hs' : s.lookupKey = some k := by
      rw [hget] at hs
      rw [← Option.some.inj hs, hkey]
    obtain ⟨hs1, hs2⟩ := lookupKey_eq_some_iff.mp hs'
    rw [hs', lookupKey_eq_some_iff]
    exact ⟨congrArg some hinfo.symm, hs2⟩

/-- **A datagram whose key is not in the table** makes a session, with its source for the node id. -/
theorem onMessage_makes (hh : h.Keyed) (hd : d.key = some k)
    (hi : h.sessionsUnsecured.findIdx? (fun s => s.lookupKey = some k) = none) :
    ∃ source e h', d.msg.sourceNodeId = .ok source ∧
      (onMessage A d.buf d.peerInfo).run h = .ok e h' ∧
      e.session = .unsecured h.sessionsUnsecured.length ∧
      h'.lookupKeys = h.lookupKeys ++ [some (k.1, source)] := by
  obtain ⟨hu, hp, hinfo⟩ := Datagram.key_eq_some hd
  obtain ⟨iflag, hiflag, -⟩ := bind_eq_ok hp
  obtain ⟨counter, hc⟩ := Message.messageCounter_of_le (Message.header_of_iflag hiflag).1
  obtain ⟨source, hsource⟩ := (Message.header_of_iflag hiflag).2
  obtain ⟨s, o, -, hr⟩ :=
    newSession_unsecured (.nat unsecuredSessionId) (.nat unsecuredSessionId) h
  let h1 : SessionManager := { h with
    sessionsUnsecured := h.sessionsUnsecured ++ [{ s with peerNodeId := some source }], outside := o }
  have hlearn : (learnPeer (.unsecured h.sessionsUnsecured.length) d.msg).run { h with
      sessionsUnsecured := h.sessionsUnsecured ++ [s], outside := o } = .ok () h1 := by
    unfold learnPeer
    rw [hsource, run_bind_ok (run_lift_ok source _), run_modify]
    simp only [modifySession, modify_append_one]
    rfl
  have hmake : (unsecuredSessionFor d.msg d.peerInfo).run h =
      .ok (.unsecured h.sessionsUnsecured.length) h1 := by
    unfold unsecuredSessionFor
    rw [hp, run_bind_ok (run_lift_ok k.2 h), run_bind_ok (run_get h), ← hinfo,
      hh.getUnsecureSession k, hi, run_bind_ok (run_lift_ok _ h)]
    dsimp only
    rw [newUnsecuredSession, run_bind_ok hr, run_bind_ok hlearn]
    rfl
  have hon : (onUnsecuredMessage d.msg d.peerInfo).run h =
      .ok ⟨.messageUnsecured, d.msg, .unsecured h.sessionsUnsecured.length⟩
        (h1.modifySession (hear d.msg counter) (.unsecured h.sessionsUnsecured.length)) := by
    unfold onUnsecuredMessage
    rw [run_bind_ok hmake, run_bind_ok (updatePeer_ok hc)]
    rfl
  refine ⟨source, _, _, hsource, (run_onMessage_unencrypted hu).trans hon, rfl, ?_⟩
  unfold lookupKeys
  simp only [h1, modifySession, modify_append_one, List.map_append, List.map_singleton]
  rw [hinfo]
  rfl

/-- The unsecured table is as it was. -/
abbrev SameUnsecured (l : List Session) (h : SessionManager) : Prop := h.sessionsUnsecured = l

theorem sameUnsecured_secureSessionFor (l : List Session) (msg : Message) :
    Triple (SameUnsecured l) (secureSessionFor msg)
      (fun ref h => SameUnsecured l h ∧ ∃ i, ref = .secured i) (SameUnsecured l) := by
  refine Triple.after_lift (fun _ hh => hh) fun sessionId _ => ?_
  refine Keeps.after Keeps.get (fun _ hh => hh) fun h => ?_
  cases h.getSecureSession sessionId with
  | some i => exact Triple.pure _ fun _ hh => ⟨hh, i, rfl⟩
  | none =>
    refine Triple.bind (Q := fun ref h => SameUnsecured l h ∧ ∃ i, ref = .secured i) ?_ fun ref => ?_
    · intro h hh
      obtain ⟨s, o, -, hr⟩ := newSession_secured (.nat sessionId) (.nat sessionId) h
      rw [hr]
      exact ⟨hh, _, rfl⟩
    · refine Triple.bind (Q := fun _ h => SameUnsecured l h ∧ ∃ i, ref = .secured i) ?_ fun _ =>
        Triple.pure _ fun _ hh => hh
      refine Triple.after_lift (fun _ hh => hh.1) fun source _ => Triple.modify fun h hh => ?_
      obtain ⟨hh, i, rfl⟩ := hh
      exact ⟨hh, i, rfl⟩

theorem sameUnsecured_updatePeer (l : List Session) (i : Nat) (msg : Message) :
    Keeps (SameUnsecured l) (updatePeer (.secured i) msg) := by
  refine Keeps.bind (Keeps.modify fun _ hh => ?_) fun _ => Keeps.bind (Keeps.lift _) fun counter =>
    Keeps.bind (Keeps.modify fun _ hh => ?_) fun _ => Keeps.modify fun _ hh => ?_
  · exact hh
  · exact hh
  · exact hh

/-- An encrypted datagram leaves the unsecured table. -/
theorem sameUnsecured_onSecureMessage (l : List Session) (A : Aead) (buf : Bytes)
    (peerInfo : PeerInfo) : Keeps (SameUnsecured l) (onSecureMessage A buf peerInfo) := by
  refine Triple.bind (sameUnsecured_secureSessionFor l _) fun ref => ?_
  refine Triple.bind (Q := fun _ h => SameUnsecured l h ∧ ∃ i, ref = .secured i)
    (Triple.get fun _ hh => hh) fun t => ?_
  refine Triple.after_lift (fun _ hh => hh.1) fun decrypted _ => ?_
  intro h hh
  obtain ⟨hh, i, rfl⟩ := hh
  exact Keeps.bind (sameUnsecured_updatePeer l i decrypted.2) (fun _ => Keeps.pure _) h hh

/-- A datagram without a key leaves the unsecured table. -/
theorem onMessage_unkeyed (hd : d.key = none) :
    (final ((onMessage A d.buf d.peerInfo).run h)).sessionsUnsecured = h.sessionsUnsecured := by
  have hkeeps : Keeps (SameUnsecured h.sessionsUnsecured) (onMessage A d.buf d.peerInfo) := by
    refine Triple.after_lift (fun _ hh => hh) fun unencrypted hu => ?_
    cases unencrypted with
    | false => exact sameUnsecured_onSecureMessage _ A d.buf d.peerInfo
    | true =>
      cases hp : unsecuredPeer d.msg with
      | ok peerNodeId =>
        rw [Datagram.key_of_unencrypted hu hp] at hd
        cases hd
      | error e =>
        have hrun (t : SessionManager) :
            (onUnsecuredMessage d.msg d.peerInfo).run t = .error e t := by
          unfold onUnsecuredMessage unsecuredSessionFor
          rw [hp]
          exact run_bind_error (run_bind_error (run_lift_error e t))
        have hthrows : Keeps (SameUnsecured h.sessionsUnsecured)
            (onUnsecuredMessage d.msg d.peerInfo) :=
          Keeps.of_final fun t ht => by rw [hrun t]; exact ht
        rw [if_pos rfl]
        exact hthrows
  exact hkeeps.final rfl

end Runs

/-! ## 3. Runs -/

/-- One datagram; what threw leaves what it changed. -/
def datagramStep (A : Aead) (h : SessionManager) (d : Datagram) : SessionManager :=
  final ((onMessage A d.buf d.peerInfo).run h)

/-- **A datagram that finds no session carries as its source what it is looked up by.** -/
def StoresItsKey (h : SessionManager) (d : Datagram) : Prop :=
  ∀ k, d.key = some k → h.getUnsecureSession k.1 k.2 = .ok none → d.msg.sourceNodeId = .ok k.2

/-- Each session has its key alone, and it is one of the keys. -/
structure KeyedBy (keys : List LookupKey) (h : SessionManager) : Prop where
  unique : UniqueKeys Session.lookupKey h.sessionsUnsecured
  received : ∀ k ∈ h.lookupKeys, ∃ k' ∈ keys, k = some k'

theorem KeyedBy.keyed {keys : List LookupKey} {h : SessionManager} (hh : KeyedBy keys h) :
    h.Keyed := by
  intro s hs
  obtain ⟨k, -, hk⟩ := hh.received s.lookupKey (List.mem_map_of_mem hs)
  rw [hk]
  rfl

theorem keyedBy_init (entropy : Nat → UInt8) : KeyedBy [] (init entropy) where
  unique := uniqueKeys_nil
  received := nofun

/-- **There are no more sessions than keys.** -/
theorem KeyedBy.length_le {keys : List LookupKey} {h : SessionManager} (hh : KeyedBy keys h) :
    h.sessionsUnsecured.length ≤ keys.dedup.length := by
  have hsub : h.lookupKeys ⊆ keys.dedup.map some := by
    intro k hk
    obtain ⟨k', hmem, rfl⟩ := hh.received k hk
    exact List.mem_map_of_mem (List.mem_dedup.mpr hmem)
  have hle := (List.subperm_of_subset hh.unique hsub).length_le
  rwa [List.length_map, List.length_map] at hle

/-- **A step of a run**: the keys of the table stay where they are, and at most the key of the
    datagram comes to them. -/
theorem keyedBy_step (A : Aead) {keys : List LookupKey} {h : SessionManager} {d : Datagram}
    (hh : KeyedBy keys h) (hd : StoresItsKey h d) :
    KeyedBy (keys ++ d.key.toList) (datagramStep A h d) ∧
      KeepsKeys Session.lookupKey h.sessionsUnsecured
        (datagramStep A h d).sessionsUnsecured := by
  have hsame : ∀ {h' : SessionManager} (keys' : List LookupKey), h'.lookupKeys = h.lookupKeys →
      KeyedBy (keys ++ keys') h' ∧
        KeepsKeys Session.lookupKey h.sessionsUnsecured h'.sessionsUnsecured := by
    intro h' keys' heq
    refine ⟨⟨?_, ?_⟩, ?_⟩
    · show h'.lookupKeys.Nodup
      rw [heq]
      exact hh.unique
    · intro k hk
      obtain ⟨k', hk', rfl⟩ := hh.received k (heq ▸ hk)
      exact ⟨k', List.mem_append_left _ hk', rfl⟩
    · show h.lookupKeys <+: h'.lookupKeys
      rw [heq]
  unfold datagramStep
  cases hk : d.key with
  | none => exact hsame _ (congrArg (List.map _) (onMessage_unkeyed hk))
  | some k =>
    cases hi : h.sessionsUnsecured.findIdx? (fun s => s.lookupKey = some k) with
    | some i =>
      obtain ⟨e, h', hr, -, hkeys⟩ := onMessage_finds (A := A) hh.keyed hk hi
      rw [hr]
      exact hsame _ hkeys
    | none =>
      obtain ⟨source, e, h', hsource, hr, -, hkeys⟩ := onMessage_makes (A := A) hh.keyed hk hi
      have hfind := hh.keyed.getUnsecureSession k
      rw [hi] at hfind
      have hown : source = k.2 := Except.ok.inj (hsource.symm.trans (hd k hk hfind))
      rw [hown] at hkeys
      rw [hr]
      refine ⟨⟨?_, ?_⟩, ?_⟩
      · show h'.lookupKeys.Nodup
        rw [hkeys, List.nodup_append]
        refine ⟨hh.unique, List.nodup_singleton _, ?_⟩
        intro a ha b hb hab
        obtain ⟨s, hs, rfl⟩ := List.mem_map.mp ha
        rw [List.mem_singleton.mp hb] at hab
        have hne := List.findIdx?_eq_none_iff.mp hi s hs
        rw [decide_eq_false_iff_not] at hne
        exact hne hab
      · intro a ha
        have ha' : a ∈ h.lookupKeys ++ [some k] := hkeys ▸ ha
        rcases List.mem_append.mp ha' with ha' | ha'
        · obtain ⟨k', hk', rfl⟩ := hh.received a ha'
          exact ⟨k', List.mem_append_left _ hk', rfl⟩
        · exact ⟨k, List.mem_append_right _ (List.mem_singleton_self k), List.mem_singleton.mp ha'⟩
      · show h.lookupKeys <+: h'.lookupKeys
        rw [hkeys]
        exact List.prefix_append ..

theorem keyedBy_run (A : Aead) {keys : List LookupKey} {h : SessionManager} {ds : List Datagram}
    (hh : KeyedBy keys h) (hds : Along (datagramStep A) StoresItsKey h ds) :
    KeyedBy (keys ++ ds.filterMap Datagram.key) (run (datagramStep A) h ds) ∧
      KeepsKeys Session.lookupKey h.sessionsUnsecured
        (run (datagramStep A) h ds).sessionsUnsecured := by
  induction ds generalizing keys h with
  | nil => exact ⟨(List.append_nil keys).symm ▸ hh, KeepsKeys.refl _⟩
  | cons d ds ih =>
    obtain ⟨hstep, hkeeps⟩ := keyedBy_step A hh hds.1
    obtain ⟨hrun, hkeeps'⟩ := ih hstep hds.2
    refine ⟨?_, hkeeps.trans hkeeps'⟩
    have hkeys : keys ++ (d :: ds).filterMap Datagram.key =
        keys ++ d.key.toList ++ ds.filterMap Datagram.key := by
      rw [List.filterMap_cons, List.append_assoc]
      cases d.key <;> rfl
    rw [hkeys]
    exact hrun

/-- A datagram's session has its key afterwards. -/
theorem keyed_after (A : Aead) {h : SessionManager} {d : Datagram} {k : LookupKey} (hh : h.Keyed)
    (hd : StoresItsKey h d) (hk : d.key = some k) :
    ∃ e h' i s, (onMessage A d.buf d.peerInfo).run h = .ok e h' ∧ e.session = .unsecured i ∧
      h'.sessionsUnsecured[i]? = some s ∧ s.lookupKey = some k := by
  have hplace {h' : SessionManager} {i : Nat} (hi : h'.lookupKeys[i]? = some (some k)) :
      ∃ s, h'.sessionsUnsecured[i]? = some s ∧ s.lookupKey = some k := by
    unfold lookupKeys at hi
    rw [List.getElem?_map] at hi
    exact Option.map_eq_some_iff.mp hi
  cases hi : h.sessionsUnsecured.findIdx? (fun s => s.lookupKey = some k) with
  | some i =>
    obtain ⟨e, h', hr, he, hkeys⟩ := onMessage_finds (A := A) hh hk hi
    obtain ⟨hlt, hmatch, -⟩ := List.findIdx?_eq_some_iff_getElem.mp hi
    have hget : h'.lookupKeys[i]? = some (some k) := by
      rw [hkeys, lookupKeys, List.getElem?_map, List.getElem?_eq_getElem hlt, Option.map_some,
        of_decide_eq_true hmatch]
    obtain ⟨s, hs, hsk⟩ := hplace hget
    exact ⟨e, h', i, s, hr, he, hs, hsk⟩
  | none =>
    obtain ⟨source, e, h', hsource, hr, he, hkeys⟩ := onMessage_makes (A := A) hh hk hi
    have hfind := hh.getUnsecureSession k
    rw [hi] at hfind
    rw [Except.ok.inj (hsource.symm.trans (hd k hk hfind))] at hkeys
    have hget : h'.lookupKeys[h.sessionsUnsecured.length]? = some (some k) := by
      have hlen : h.lookupKeys.length = h.sessionsUnsecured.length := List.length_map ..
      rw [hkeys, ← hlen]
      exact List.getElem?_concat_length
    obtain ⟨s, hs, hsk⟩ := hplace hget
    exact ⟨e, h', _, s, hr, he, hs, hsk⟩

/-- **In a run whose datagrams store their keys**, each key finds the session it found first, so that
    no datagram with a known key makes a session, and there are no more sessions than keys. -/
theorem sessions_of_keys (A : Aead) (entropy : Nat → UInt8) {ds : List Datagram}
    (hds : Along (datagramStep A) StoresItsKey (init entropy) ds) :
    let h := run (datagramStep A) (init entropy) ds
    (∀ before after d k, ds = before ++ d :: after → d.key = some k →
      ∃ e t, (onMessage A d.buf d.peerInfo).run (run (datagramStep A) (init entropy) before) =
          .ok e t ∧
        ∀ d' : Datagram, d'.key = some k → ∃ e' h', (onMessage A d'.buf d'.peerInfo).run h = .ok e' h' ∧
          e'.session = e.session ∧
          h'.sessionsUnsecured.length = h.sessionsUnsecured.length) ∧
      h.sessionsUnsecured.length ≤ (ds.filterMap Datagram.key).dedup.length := by
  intro h
  obtain ⟨hh, -⟩ := keyedBy_run A (keyedBy_init entropy) hds
  refine ⟨?_, hh.length_le⟩
  intro before after d k hsplit hk
  rw [hsplit] at hds
  obtain ⟨hbefore, hd, hafter⟩ := (along_append _).mp hds
  obtain ⟨hg, -⟩ := keyedBy_run A (keyedBy_init entropy) hbefore
  obtain ⟨e, t, i, s, hr, he, hs, hsk⟩ := keyed_after A hg.keyed hd hk
  refine ⟨e, t, hr, fun d' hk' => ?_⟩
  obtain ⟨ht, -⟩ := keyedBy_step A hg hd
  obtain ⟨-, hkeeps⟩ := keyedBy_run A ht hafter
  have hrun : run (datagramStep A) (datagramStep A (run (datagramStep A) (init entropy) before) d)
      after = h := by
    show _ = run (datagramStep A) (init entropy) ds
    rw [hsplit, run_append, run_cons]
  have ht' : datagramStep A (run (datagramStep A) (init entropy) before) d = t := by
    show final ((onMessage A d.buf d.peerInfo).run (run (datagramStep A) (init entropy) before)) = t
    rw [hr]
    rfl
  rw [hrun, ht'] at hkeeps
  obtain ⟨s', hs', hsk'⟩ := hkeeps.getElem? hs
  have hfind := hh.unique.findIdx?_eq (p := fun s => s.lookupKey = some k)
    (fun _ _ => decide_eq_true_iff) hs' (hsk'.trans hsk)
  obtain ⟨e', h', hr', he', hkeys⟩ := onMessage_finds (A := A) hh.keyed hk' hfind
  refine ⟨e', h', hr', he'.trans he.symm, ?_⟩
  have hlen := congrArg List.length hkeys
  unfold lookupKeys at hlen
  rwa [List.length_map, List.length_map] at hlen

/-- A responder's frame with destination 5 and no source. -/
def responderDatagram : Datagram where
  buf := header 1 0 1 ++ (toLE 8 5 ++ exchangeHeader 0 0 1 0)
  peerInfo := ⟨"fe80::1", 5540⟩

/-- A frame of an initiator whose source is 5. -/
def initiatorDatagram : Datagram where
  buf := header 4 0 1 ++ (toLE 8 5 ++ exchangeHeader 1 0 1 0)
  peerInfo := ⟨"fe80::1", 5540⟩

/-- **One datagram that comes twice makes two sessions**: what a session is made with is not what it
    is looked up by. -/
theorem multiplied_sessions :
    let ds := [responderDatagram, responderDatagram]
    ¬ (run (datagramStep Aead.keyTag) (init fun _ => 0) ds).sessionsUnsecured.length ≤
      (ds.filterMap Datagram.key).dedup.length := by
  decide +kernel

/-- An initiator's datagrams store their keys. -/
theorem sessions_of_keys_initiator :
    (run (datagramStep Aead.keyTag) (init fun _ => 0)
      [initiatorDatagram, initiatorDatagram]).sessionsUnsecured.length ≤
        ([initiatorDatagram, initiatorDatagram].filterMap Datagram.key).dedup.length := by
  have hstores (h : SessionManager) : StoresItsKey h initiatorDatagram := by
    intro k hk _
    cases hk
    rfl
  have hds : Along (datagramStep Aead.keyTag) StoresItsKey (init fun _ => 0)
      [initiatorDatagram, initiatorDatagram] := ⟨hstores _, hstores _, trivial⟩
  exact (sessions_of_keys Aead.keyTag (fun _ => 0) hds).2

end SessionManager

end Matternode.Messaging
