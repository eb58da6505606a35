/-
  File:      Matternode/Tlv/Arrays.lean
  Subject:   TlvReader.decode on arrays by reference, and the stack that walks them.

  The source pushes an entry into the array of its container and then fills the array the entry
  holds, which is linked by then. Here `_container` and `containerStack` are references into an
  arena, as they are there; TlvReader in Reader.lean keeps each open array beside its entry instead.

  * `ArrayReader` -- the variables of `decode`, the buffer it has left, and the arrays;
  * `ArrayReader.turn`, `loop` -- the body of the loop, and the loop;
  * `Reached` -- the states of the loop on an encoding;
  * **`Reached.wellStacked`** -- the stack is as high as the depth says, and a container is at hand;
  * **`loop_simulates`** -- the loop does on the arrays what `decodeLoop` does on open containers;
  * **`loop_ends`** -- it ends.
-/
import Matternode.Base.Arena
import Matternode.Tlv.Items

namespace Matternode.Tlv

open Base Js

/-! ## 1. The loop -/

/-- What an entry holds, told its array. -/
def entryHolding (decoding : DeterministicJson) :
    Option (List DeterministicJson) → DeterministicJson
  | none => decoding
  | some entries => { decoding with value := .array entries }

/-- `decodeLoop`, with the bytes it leaves. -/
def readLoop : Nat → Bytes → TlvReader → Except JsError (TlvReader × Bytes)
  | 0, tlv, z => .ok (z, tlv)
  | fuel + 1, tlv, z =>
    if 0 < tlv.length ∧ 0 < z.containerDepth then do
      let (type, decoding, rest) ← decodeEntry tlv
      readLoop fuel rest (z.step type decoding)
    else .ok (z, tlv)

theorem readLoop_fst (fuel : Nat) (tlv : Bytes) (z : TlvReader) :
    (readLoop fuel tlv z).map Prod.fst = decodeLoop fuel tlv z := by
  induction fuel generalizing tlv z with
  | zero => rfl
  | succ fuel ih =>
    unfold readLoop decodeLoop
    split
    · cases decodeEntry tlv with
      | error e => rfl
      | ok read => exact ih _ _
    · rfl

/-- The variables of `decode`, and the arrays it fills; `_json` is the array at 0. -/
structure ArrayReader where
  tlv : Bytes
  arrays : Arena DeterministicJson := [[]]
  /-- `undefined` once an empty stack has been popped. -/
  container : Option Nat := some 0
  containerStack : List (Option Nat) := [some 0]
  containerDepth : Int := 1

namespace ArrayReader

/-- The loop goes on. -/
def Running (r : ArrayReader) : Prop := 0 < r.tlv.length ∧ 0 < r.containerDepth

instance (r : ArrayReader) : Decidable r.Running :=
  inferInstanceAs (Decidable (_ ∧ _))

/-- `reader.Json`: the top array. -/
def Json (r : ArrayReader) : List DeterministicJson :=
  r.arrays.read entryHolding r.arrays.length 0

/-- The entry as a cell: `decodeValueAndLength` has made the array of a container. -/
def allocate (arrays : Arena DeterministicJson) (decoding : DeterministicJson) :
    Arena DeterministicJson × Cell DeterministicJson :=
  match decoding.value with
  | .array _ => (arrays.alloc, ⟨decoding, some arrays.length⟩)
  | _ => (arrays, ⟨decoding, none⟩)

/-- `this._container = containerStack.pop()`. -/
def pop (r : ArrayReader) : ArrayReader :=
  { r with container := r.containerStack.head?.join, containerStack := r.containerStack.tail }

/-- `if (decoding && this._container) this._container.push(decoding)`. -/
def pushCell (r : ArrayReader) (cell : Cell DeterministicJson) : ArrayReader :=
  match r.container with
  | some ref => { r with arrays := r.arrays.push ref cell }
  | none => r

/-- The body of the loop. -/
def turn (r : ArrayReader) : Except JsError ArrayReader := do
  let (type, decoding, rest) ← decodeEntry r.tlv
  let (arrays, cell) := allocate r.arrays decoding
  let r := { r with tlv := rest, arrays := arrays }
  let r := if type = tlvTypeEnd then { r with containerDepth := r.containerDepth - 1 }.pop
    else r.pushCell cell
  if type = tlvTypeStructure ∨ type = tlvTypeArray ∨ type = tlvTypeList then
    return { r with
      containerDepth := r.containerDepth + 1
      containerStack := r.container :: r.containerStack
      container := cell.child }
  else return r

/-- The loop; `fuel` bounds its turns. -/
def loop : Nat → ArrayReader → Except JsError ArrayReader
  | 0, r => .ok r
  | fuel + 1, r => if r.Running then do loop fuel (← r.turn) else .ok r

/-- The state of `new TlvReader().decode(tlv)` at its end. -/
def decode (tlv : Bytes) : Except JsError ArrayReader := loop tlv.length { tlv := tlv }

/-- The states of the loop on an encoding, its last one included. -/
inductive Reached (tlv : Bytes) : ArrayReader → Prop where
  | start : Reached tlv { tlv := tlv }
  | turn {r r' : ArrayReader} (hr : Reached tlv r) (hrun : r.Running) (ht : r.turn = .ok r') :
      Reached tlv r'

/-! ## 2. The arrays hold what the open containers say -/

/-- The cell of an item's entry. -/
theorem allocate_container {i : Item} (h : i.type.IsContainer) (arrays : Arena DeterministicJson) :
    allocate arrays i.entry = (arrays.alloc, ⟨i.entry, some arrays.length⟩) := by
  obtain ⟨kind, hkind⟩ := h
  have hv : i.entry.value = .array [] := by
    unfold Item.entry
    rw [hkind]
    rfl
  unfold allocate
  rw [hv]

theorem allocate_leaf {i : Item} (h : ¬ i.type.IsContainer) (arrays : Arena DeterministicJson) :
    allocate arrays i.entry = (arrays, ⟨i.entry, none⟩) := by
  have hv : ∀ entries, i.entry.value ≠ .array entries := by
    intro entries heq
    unfold Item.entry at heq
    cases ht : i.type with
    | container kind => exact h ⟨kind, ht⟩
    | text k => rw [ht] at heq; simp only [ElementType.value] at heq; split at heq <;> cases heq
    | bytes k => rw [ht] at heq; simp only [ElementType.value] at heq; split at heq <;> cases heq
    | signed k =>
      rw [ht] at heq
      simp only [ElementType.value, integerValue] at heq
      split at heq <;> cases heq
    | unsigned k =>
      rw [ht] at heq
      simp only [ElementType.value, integerValue] at heq
      split at heq <;> cases heq
    | boolean b => rw [ht] at heq; cases heq
    | float => rw [ht] at heq; cases heq
    | double => rw [ht] at heq; cases heq
    | null => rw [ht] at heq; cases heq
    | endOfCollection => rw [ht] at heq; cases heq
    | reserved n => rw [ht] at heq; cases heq
  unfold allocate
  split
  · rename_i entries heq
    exact absurd heq (hv entries)
  · rfl

/-- The frames of the open containers. -/
def framesOf (z : TlvReader) : List (List DeterministicJson × DeterministicJson) :=
  z.containerStack.map fun o => (o.around, o.entry)

/-- **What links the two readers**: the arrays from `cur` outwards are the open containers, and the
    stack holds those around `cur` above its bottom, which is the top array until an end marker
    with nothing open has taken it. -/
structure Simulates (r : ArrayReader) (z : TlvReader) (cur : Nat) (outer : List Nat)
    (base : List (Option Nat)) : Prop where
  filling : Arena.Filling entryHolding r.arrays 0 cur outer z.container (framesOf z)
  container : r.container = some cur
  stack : r.containerStack = outer.map some ++ base
  bottom : base = [some 0] ∨ base = [] ∧ outer = []
  depth : r.containerDepth = r.containerStack.length
  depth' : z.containerDepth = r.containerStack.length

/-- The two readers are in corresponding states. -/
def Related (r : ArrayReader) (z : TlvReader) : Prop :=
  ∃ cur outer base, Simulates r z cur outer base

theorem related_init (tlv : Bytes) : Related { tlv := tlv } {} :=
  ⟨0, [], [some 0], ⟨Arena.filling_init entryHolding, rfl, rfl, .inl rfl, rfl, rfl⟩⟩

theorem Related.running {r : ArrayReader} {z : TlvReader} (h : Related r z) :
    r.Running ↔ 0 < r.tlv.length ∧ 0 < z.containerDepth := by
  obtain ⟨cur, outer, base, hs⟩ := h
  unfold Running
  rw [hs.depth, hs.depth']
  omega

/-- What is read off the arrays. -/
theorem Related.json {r : ArrayReader} {z : TlvReader} (h : Related r z) : r.Json = z.Json := by
  obtain ⟨cur, outer, base, hs⟩ := h
  have hread := hs.filling.read
  unfold Json TlvReader.Json
  rw [hread]
  unfold Arena.closeAll framesOf
  rw [List.foldl_map]
  rfl

section Turn

variable {r : ArrayReader} {z : TlvReader} {cur : Nat} {outer : List Nat}
  {base : List (Option Nat)} {i : Item} {rest : Bytes}

/-- An end marker pops: the array around the one being filled is the container again. -/
theorem Simulates.turn_end (hs : Simulates r z cur outer base) (hpos : 0 < r.containerStack.length)
    (hi : i.type = .endOfCollection) (hd : decodeEntry r.tlv = .ok (i.type.code, i.entry, rest)) :
    ∃ r', r.turn = .ok r' ∧ r'.tlv = rest ∧ Related r' (z.step i.type.code i.entry) := by
  have hleaf : ¬ i.type.IsContainer := by
    intro h
    obtain ⟨kind, hkind⟩ := h
    rw [hi] at hkind
    cases hkind
  have hturn : r.turn = .ok { r with tlv := rest, containerDepth := r.containerDepth - 1 }.pop := by
    unfold ArrayReader.turn
    rw [hd]
    dsimp only [bind, Except.bind]
    rw [allocate_leaf hleaf, if_neg (mt ElementType.code_eq_container.mp hleaf),
      if_pos (ElementType.code_eq_end.mpr hi)]
    rfl
  refine ⟨_, hturn, rfl, ?_⟩
  obtain ⟨hfilling, hcontainer, hstack, hbottom, hdepth, hdepth'⟩ := hs
  obtain ⟨c, stack, d⟩ := z
  have hspine := hfilling.spine
  unfold TlvReader.step
  rw [if_pos (ElementType.code_eq_end.mpr hi)]
  cases stack with
  | nil =>
    -- nothing is open: the bottom of the stack is taken, and the loop is over
    cases hspine with
    | nil =>
      rcases hbottom with rfl | ⟨rfl, _⟩
      · refine ⟨_, [], [], hfilling, ?_, ?_, .inr ⟨rfl, rfl⟩, ?_, ?_⟩ <;>
          simp_all [pop]
      · simp_all
  | cons o stack =>
    cases hspine with
    | cons a hlt hcells haround hs =>
      refine ⟨_, _, base, hfilling.close, ?_, ?_, ?_, ?_, ?_⟩
      · simp_all [pop]
      · simp_all [pop]
      · simp_all
      · simp_all [pop]
      · simp_all [pop]

/-- A container is pushed and its array, new and empty, is the container from then on. -/
theorem Simulates.turn_container (hs : Simulates r z cur outer base)
    (hpos : 0 < r.containerStack.length) (hi : i.type.IsContainer)
    (hd : decodeEntry r.tlv = .ok (i.type.code, i.entry, rest)) :
    ∃ r', r.turn = .ok r' ∧ r'.tlv = rest ∧ Related r' (z.step i.type.code i.entry) := by
  have hend : ¬ i.type.code = tlvTypeEnd := by
    intro h
    obtain ⟨kind, hkind⟩ := hi
    rw [hkind] at h
    cases kind <;> cases h
  have hcode := ElementType.code_eq_container.mpr hi
  obtain ⟨hfilling, hcontainer, hstack, hbottom, hdepth, hdepth'⟩ := hs
  have hturn : r.turn = .ok
      { tlv := rest
        arrays := r.arrays.alloc.push cur ⟨i.entry, some r.arrays.length⟩
        container := some r.arrays.length
        containerStack := some cur :: r.containerStack
        containerDepth := r.containerDepth + 1 } := by
    unfold ArrayReader.turn
    rw [hd]
    dsimp only [bind, Except.bind]
    rw [allocate_container hi, if_pos hcode, if_neg hend]
    unfold pushCell
    rw [hcontainer]
    rfl
  refine ⟨_, hturn, rfl, ?_⟩
  have hstep : z.step i.type.code i.entry =
      { container := []
        containerStack := ⟨z.container, i.entry⟩ :: z.containerStack
        containerDepth := z.containerDepth + 1 } := by
    unfold TlvReader.step
    rw [if_neg hend, if_pos hcode]
  rw [hstep]
  have hbase : base = [some 0] := by
    rcases hbottom with h | ⟨rfl, rfl⟩
    · exact h
    · rw [hstack] at hpos
      exact absurd hpos (Nat.lt_irrefl 0)
  refine ⟨_, cur :: outer, base, hfilling.descend i.entry, rfl, ?_, .inl hbase, ?_, ?_⟩
  · simp only [hstack, List.map_cons, List.cons_append]
  · simp only [hdepth, List.length_cons, Nat.cast_add, Nat.cast_one]
  · simp only [hdepth', List.length_cons]

/-- Any other entry is pushed. -/
theorem Simulates.turn_leaf (hs : Simulates r z cur outer base) (hend : i.type ≠ .endOfCollection)
    (hi : ¬ i.type.IsContainer) (hd : decodeEntry r.tlv = .ok (i.type.code, i.entry, rest)) :
    ∃ r', r.turn = .ok r' ∧ r'.tlv = rest ∧ Related r' (z.step i.type.code i.entry) := by
  have hend' := mt ElementType.code_eq_end.mp hend
  have hcode := mt ElementType.code_eq_container.mp hi
  obtain ⟨hfilling, hcontainer, hstack, hbottom, hdepth, hdepth'⟩ := hs
  have hturn : r.turn =
      .ok { r with tlv := rest, arrays := r.arrays.push cur ⟨i.entry, none⟩ } := by
    unfold ArrayReader.turn
    rw [hd]
    dsimp only [bind, Except.bind]
    rw [allocate_leaf hi, if_neg hcode, if_neg hend']
    unfold pushCell
    rw [hcontainer]
    rfl
  refine ⟨_, hturn, rfl, ?_⟩
  have hstep : z.step i.type.code i.entry = z.push i.entry := by
    unfold TlvReader.step
    rw [if_neg hend', if_neg hcode]
  rw [hstep]
  exact ⟨cur, outer, base, hfilling.push i.entry, hcontainer, hstack, hbottom, hdepth, hdepth'⟩

end Turn

/-- **One turn does to the arrays what `step` does to the open containers.** -/
theorem Related.turn {r : ArrayReader} {z : TlvReader} (h : Related r z) (hrun : r.Running)
    {type : Nat} {decoding : DeterministicJson} {rest : Bytes}
    (hd : decodeEntry r.tlv = .ok (type, decoding, rest)) :
    ∃ r', r.turn = .ok r' ∧ r'.tlv = rest ∧ Related r' (z.step type decoding) := by
  obtain ⟨cur, outer, base, hs⟩ := h
  obtain ⟨i, -, rfl, rfl, -⟩ := decodeEntry_eq_ok hd
  have hpos : 0 < r.containerStack.length := by
    have hdepth := hrun.2
    rw [hs.depth] at hdepth
    omega
  by_cases hend : i.type = .endOfCollection
  · exact hs.turn_end hpos hend hd
  · by_cases hc : i.type.IsContainer
    · exact hs.turn_container hpos hc hd
    · exact hs.turn_leaf hend hc hd

/-- A read that throws throws out of the turn. -/
theorem turn_error {r : ArrayReader} {e : JsError} (hd : decodeEntry r.tlv = .error e) :
    r.turn = .error e := by
  unfold ArrayReader.turn
  rw [hd]
  rfl

/-! ## 3. Runs of the loop -/

/-- Every state of the loop is one of the open containers'. -/
theorem Reached.related {tlv : Bytes} {r : ArrayReader} (h : Reached tlv r) :
    ∃ z, Related r z := by
  induction h with
  | start => exact ⟨_, related_init tlv⟩
  | turn hr hrun ht ih =>
    rename_i r r'
    obtain ⟨z, hz⟩ := ih
    cases hd : decodeEntry r.tlv with
    | error e =>
      rw [turn_error hd] at ht
      cases ht
    | ok read =>
      obtain ⟨type, decoding, rest⟩ := read
      obtain ⟨r'', hturn, _, hrel⟩ := hz.turn hrun hd
      rw [hturn] at ht
      cases ht
      exact ⟨_, hrel⟩

/-- **The stack is as high as the depth says**, so no pop finds it empty, and the container is never
    `undefined`. -/
theorem Reached.wellStacked {tlv : Bytes} {r : ArrayReader} (h : Reached tlv r) :
    r.containerDepth = r.containerStack.length ∧ r.container.isSome = true ∧
      (r.Running → r.containerStack ≠ []) := by
  obtain ⟨z, cur, outer, base, hs⟩ := h.related
  refine ⟨hs.depth, ?_, ?_⟩
  · rw [hs.container]
    rfl
  · intro hrun hnil
    have hdepth := hrun.2
    rw [hs.depth, hnil] at hdepth
    exact absurd hdepth (by decide)

/-- **The two loops throw the same, or end with the same bytes left in related states.** -/
theorem loop_simulates (fuel : Nat) {r : ArrayReader} {z : TlvReader} (h : Related r z) :
    (∃ e, loop fuel r = .error e ∧ readLoop fuel r.tlv z = .error e) ∨
      ∃ r' z', loop fuel r = .ok r' ∧ readLoop fuel r.tlv z = .ok (z', r'.tlv) ∧
        Related r' z' := by
  induction fuel generalizing r z with
  | zero => exact .inr ⟨r, z, rfl, rfl, h⟩
  | succ fuel ih =>
    unfold loop readLoop
    by_cases hrun : r.Running
    · rw [if_pos hrun, if_pos (h.running.mp hrun)]
      cases hd : decodeEntry r.tlv with
      | error e =>
        rw [turn_error hd]
        exact .inl ⟨e, rfl, rfl⟩
      | ok read =>
        obtain ⟨type, decoding, rest⟩ := read
        obtain ⟨r', hturn, hrest, hrel⟩ := h.turn hrun hd
        rw [hturn]
        have := ih hrel
        rw [hrest] at this
        exact this
    · rw [if_neg hrun, if_neg (mt h.running.mpr hrun)]
      exact .inr ⟨r, z, rfl, rfl, h⟩

/-- A turn takes the bytes of an entry. -/
theorem turn_tlv {r r' : ArrayReader} (h : r.turn = .ok r') :
    ∃ type decoding, decodeEntry r.tlv = .ok (type, decoding, r'.tlv) := by
  unfold ArrayReader.turn at h
  obtain ⟨⟨type, decoding, rest⟩, hd, h⟩ := bind_eq_ok h
  refine ⟨type, decoding, hd.trans ?_⟩
  have hpush (s : ArrayReader) (cell : Cell DeterministicJson) : (s.pushCell cell).tlv = s.tlv := by
    unfold pushCell
    split <;> rfl
  have htlv : rest = r'.tlv := by
    dsimp only at h
    split at h <;> split at h <;> cases h
    · rfl
    · simp only [hpush]
    · rfl
    · simp only [hpush]
  rw [htlv]

/-- **The loop ends** by its own condition: there is a turn for every byte at most. -/
theorem loop_ends {fuel : Nat} {r r' : ArrayReader} (hfuel : r.tlv.length ≤ fuel)
    (h : loop fuel r = .ok r') : ¬ r'.Running := by
  induction fuel generalizing r with
  | zero =>
    cases h
    intro hrun
    have := hrun.1
    omega
  | succ fuel ih =>
    unfold loop at h
    by_cases hrun : r.Running
    · rw [if_pos hrun] at h
      obtain ⟨r'', hturn, h⟩ := bind_eq_ok h
      obtain ⟨type, decoding, hd⟩ := turn_tlv hturn
      have hlt := decodeEntry_lt hd
      exact ih (by omega) h
    · rw [if_neg hrun] at h
      cases h
      exact hrun

end ArrayReader

end Matternode.Tlv
