/-
  File:      Matternode/Tlv/Descent.lean
  Subject:   The reader's flat loop is a recursive descent.

  * `descend` -- elements up to the end marker that closes them, or up to the end of the input;
  * `recursiveDescent` -- that, with as much fuel as there are bytes (`descend_fuel`);
  * `unwind` -- what is still to be read while containers are open: the rest of each of them;
  * **`readLoop_descends`** -- the loop on open containers reads what the descent reads and then
    unwinds; an end of input inside a container leaves nothing to unwind;
  * **`decode_descends`** -- so the loop on the arrays throws what the descent throws, and else
    answers its forest and leaves its bytes.
-/
import Matternode.Tlv.Arrays

namespace Matternode.Tlv

open Base Js

/-! ## 1. The descent -/

/-- A forest and the bytes after it; `fuel` bounds the recursion. -/
def descend : Nat → Bytes → Except JsError (List DeterministicJson × Bytes)
  | 0, tlv => .ok ([], tlv)
  | fuel + 1, tlv =>
    if tlv.length = 0 then .ok ([], tlv)
    else do
      let (type, decoding, rest) ← decodeEntry tlv
      if type = tlvTypeEnd then return ([], rest)
      else if type = tlvTypeStructure ∨ type = tlvTypeArray ∨ type = tlvTypeList then
        let (children, rest) ← descend fuel rest
        let (siblings, rest) ← descend fuel rest
        return ({ decoding with value := .array children } :: siblings, rest)
      else
        let (siblings, rest) ← descend fuel rest
        return (decoding :: siblings, rest)

/-- The recursive descent: at top level an end marker stops it like the end of the input. -/
def recursiveDescent (tlv : Bytes) : Except JsError (List DeterministicJson × Bytes) :=
  descend tlv.length tlv

@[simp] theorem descend_nil (fuel : Nat) : descend fuel [] = .ok ([], []) := by
  cases fuel <;> rfl

/-- A descent leaves no more bytes than it was given. -/
theorem descend_le {fuel : Nat} {tlv rest : Bytes} {forest : List DeterministicJson}
    (h : descend fuel tlv = .ok (forest, rest)) : rest.length ≤ tlv.length := by
  induction fuel generalizing tlv forest rest with
  | zero =>
    cases h
    exact Nat.le_refl _
  | succ fuel ih =>
    unfold descend at h
    split at h
    · cases h
      exact Nat.le_refl _
    · obtain ⟨⟨type, decoding, after⟩, hd, h⟩ := bind_eq_ok h
      have hlt := decodeEntry_lt hd
      dsimp only at h
      split at h
      · cases h
        omega
      · split at h
        · obtain ⟨⟨children, after'⟩, hc, h⟩ := bind_eq_ok h
          obtain ⟨⟨siblings, rest'⟩, hs, h⟩ := bind_eq_ok h
          cases h
          exact ((ih hs).trans (ih hc)).trans (Nat.le_of_lt hlt)
        · obtain ⟨⟨siblings, rest'⟩, hs, h⟩ := bind_eq_ok h
          cases h
          exact (ih hs).trans (Nat.le_of_lt hlt)

/-- **More fuel than bytes changes nothing.** -/
theorem descend_fuel {fuel : Nat} {tlv : Bytes} (h : tlv.length ≤ fuel) :
    descend fuel tlv = recursiveDescent tlv := by
  suffices hall : ∀ n m (tlv : Bytes), tlv.length ≤ n → tlv.length ≤ m →
      descend n tlv = descend m tlv from hall _ _ tlv h (Nat.le_refl _)
  intro n
  induction n with
  | zero =>
    intro m tlv hn _
    rw [List.eq_nil_of_length_eq_zero (Nat.le_zero.mp hn), descend_nil, descend_nil]
  | succ n ih =>
    intro m tlv hn hm
    cases m with
    | zero => rw [List.eq_nil_of_length_eq_zero (Nat.le_zero.mp hm), descend_nil, descend_nil]
    | succ m =>
      unfold descend
      cases hd : decodeEntry tlv with
      | error e => rfl
      | ok read =>
        obtain ⟨type, decoding, rest⟩ := read
        have hlt := decodeEntry_lt hd
        have hrest : descend n rest = descend m rest := ih m rest (by omega) (by omega)
        dsimp only [bind, Except.bind]
        rw [hrest]
        cases hc : descend m rest with
        | error e => rfl
        | ok read =>
          obtain ⟨children, rest'⟩ := read
          have hle := descend_le hc
          dsimp only
          rw [ih m rest' (by omega) (by omega)]

@[simp] theorem recursiveDescent_nil : recursiveDescent [] = .ok ([], []) := rfl

section Entry

variable {tlv rest : Bytes} {type : Nat} {decoding : DeterministicJson}

theorem descend_entry (hd : decodeEntry tlv = .ok (type, decoding, rest)) :
    recursiveDescent tlv =
      if type = tlvTypeEnd then .ok ([], rest)
      else if type = tlvTypeStructure ∨ type = tlvTypeArray ∨ type = tlvTypeList then do
        let (children, rest) ← recursiveDescent rest
        let (siblings, rest) ← recursiveDescent rest
        return ({ decoding with value := .array children } :: siblings, rest)
      else do
        let (siblings, rest) ← recursiveDescent rest
        return (decoding :: siblings, rest) := by
  have hlt := decodeEntry_lt hd
  obtain ⟨n, hn⟩ : ∃ n, tlv.length = n + 1 := ⟨tlv.length - 1, by omega⟩
  unfold recursiveDescent
  rw [hn, descend, if_neg (by omega), hd]
  dsimp only [bind, Except.bind]
  rw [descend_fuel (show rest.length ≤ n by omega)]
  unfold recursiveDescent
  cases hc : descend rest.length rest with
  | error e => rfl
  | ok read =>
    obtain ⟨children, rest'⟩ := read
    have hle := descend_le hc
    dsimp only
    rw [descend_fuel (show rest'.length ≤ n by omega)]
    rfl

theorem descend_error {e : JsError} (hne : 0 < tlv.length) (hd : decodeEntry tlv = .error e) :
    recursiveDescent tlv = .error e := by
  obtain ⟨n, hn⟩ : ∃ n, tlv.length = n + 1 := ⟨tlv.length - 1, by omega⟩
  unfold recursiveDescent
  rw [hn, descend, if_neg (by omega), hd]
  rfl

end Entry

/-! ## 2. The loop descends -/

/-- What remains to be read inside open containers, each of them closed after its rest. -/
def unwind : List OpenContainer → List DeterministicJson → Bytes →
    Except JsError (List DeterministicJson × Bytes)
  | [], filled, tlv => .ok (filled, tlv)
  | o :: stack, filled, tlv => do
    let (siblings, rest) ← recursiveDescent tlv
    unwind stack (o.close filled ++ siblings) rest

/-- At the end of the input every open container is closed as it is. -/
theorem unwind_nil (stack : List OpenContainer) (filled : List DeterministicJson) :
    unwind stack filled [] = .ok (stack.foldl (fun filled o => o.close filled) filled, []) := by
  induction stack generalizing filled with
  | nil => rfl
  | cons o stack ih =>
    show unwind stack (o.close filled ++ []) [] = _
    rw [List.append_nil, ih]
    rfl

theorem readLoop_stopped (fuel : Nat) {tlv : Bytes} {z : TlvReader}
    (h : ¬ (0 < tlv.length ∧ 0 < z.containerDepth)) : readLoop fuel tlv z = .ok (z, tlv) := by
  cases fuel with
  | zero => rfl
  | succ fuel => exact if_neg h

/-- **The loop reads what the descent reads, and then unwinds**, from every state whose depth counts
    its open containers. -/
theorem readLoop_descends (fuel : Nat) {tlv : Bytes} {z : TlvReader} (hfuel : tlv.length ≤ fuel)
    (hdepth : z.containerDepth = z.containerStack.length + 1) :
    (readLoop fuel tlv z).map (fun read => (read.1.Json, read.2)) =
      (do
        let (forest, rest) ← recursiveDescent tlv
        unwind z.containerStack (z.container ++ forest) rest) := by
  induction fuel generalizing tlv z with
  | zero =>
    obtain rfl := List.eq_nil_of_length_eq_zero (Nat.le_zero.mp hfuel)
    show _ = unwind z.containerStack (z.container ++ []) []
    rw [List.append_nil, unwind_nil]
    rfl
  | succ fuel ih =>
    by_cases hne : 0 < tlv.length
    · rw [readLoop, if_pos ⟨hne, by omega⟩]
      cases hd : decodeEntry tlv with
      | error e =>
        rw [descend_error hne hd]
        rfl
      | ok read =>
        obtain ⟨type, decoding, rest⟩ := read
        have hlt := decodeEntry_lt hd
        rw [descend_entry hd]
        show (readLoop fuel rest (z.step type decoding)).map _ = _
        unfold TlvReader.step
        by_cases hend : type = tlvTypeEnd
        · rw [if_pos hend, if_pos hend]
          show _ = unwind z.containerStack (z.container ++ []) rest
          rw [List.append_nil]
          cases hst : z.containerStack with
          | nil =>
            -- an end marker with nothing open: the depth is 0 and the loop is over
            have hzero : ¬ (0 < rest.length ∧ 0 < z.containerDepth - 1) := by
              rw [hdepth, hst]
              exact fun h => absurd h.2 (by decide)
            rw [readLoop_stopped fuel hzero]
            rfl
          | cons o stack =>
            rw [hst] at hdepth
            rw [ih (by omega) (by simpa using hdepth)]
            rfl
        · rw [if_neg hend, if_neg hend]
          by_cases hc : type = tlvTypeStructure ∨ type = tlvTypeArray ∨ type = tlvTypeList
          · rw [if_pos hc, if_pos hc, ih (by omega) (by simpa using hdepth)]
            cases recursiveDescent rest with
            | error e => rfl
            | ok read =>
              obtain ⟨children, rest'⟩ := read
              show (do
                let (siblings, rest) ← recursiveDescent rest'
                unwind z.containerStack (_ ++ siblings) rest) = _
              dsimp only [bind, Except.bind]
              cases recursiveDescent rest' with
              | error e => rfl
              | ok read =>
                simp only [OpenContainer.close, List.append_assoc]
                rfl
          · rw [if_neg hc, if_neg hc, ih (z := z.push decoding) (by omega) hdepth]
            cases recursiveDescent rest with
            | error e => rfl
            | ok read =>
              simp only [TlvReader.push, bind, Except.bind, List.append_assoc]
              rfl
    · obtain rfl : tlv = [] := List.eq_nil_of_length_eq_zero (by omega)
      show _ = unwind z.containerStack (z.container ++ []) []
      rw [readLoop_stopped _ (fun h => hne h.1), List.append_nil, unwind_nil]
      rfl

/-- From a fresh reader nothing is left to unwind. -/
theorem readLoop_fresh (tlv : Bytes) :
    (readLoop tlv.length tlv {}).map (fun read => (read.1.Json, read.2)) =
      recursiveDescent tlv := by
  rw [readLoop_descends tlv.length (Nat.le_refl _) rfl]
  cases recursiveDescent tlv <;> rfl

theorem decode_eq_recursiveDescent (tlv : Bytes) :
    decode tlv = (recursiveDescent tlv).map Prod.fst := by
  unfold decode
  rw [← readLoop_fst, ← readLoop_fresh]
  cases readLoop tlv.length tlv {} <;> rfl

/-- **The reader's loop is a recursive descent.** For every buffer the loop over the arrays throws
    what the descent throws, and else its top array holds the descent's forest and it leaves the
    descent's bytes. On the way the stack is as high as the depth says, no pop finds it empty and
    the container is never `undefined`; and the loop ends by its own condition. -/
theorem decode_descends (tlv : Bytes) :
    (ArrayReader.decode tlv).map (fun r => (r.Json, r.tlv)) = recursiveDescent tlv ∧
      (∀ r, ArrayReader.Reached tlv r → r.containerDepth = r.containerStack.length ∧
        r.container.isSome = true ∧ (r.Running → r.containerStack ≠ [])) ∧
      ∀ r, ArrayReader.decode tlv = .ok r → ¬ r.Running := by
  refine ⟨?_, fun r hr => hr.wellStacked, ?_⟩
  · rw [← readLoop_fresh]
    unfold ArrayReader.decode
    rcases ArrayReader.loop_simulates tlv.length (ArrayReader.related_init tlv) with
      ⟨e, hloop, hread⟩ | ⟨r, z, hloop, hread, hrel⟩
    · rw [hloop, hread]
      rfl
    · rw [hloop, hread]
      show Except.ok (r.Json, r.tlv) = .ok (z.Json, r.tlv)
      rw [hrel.json]
  · intro r hr
    exact ArrayReader.loop_ends (r := { tlv := tlv }) (Nat.le_refl _) hr

/-- A structure, and an end marker at top level: what stands behind the marker is left. -/
example : (recursiveDescent [0x15, 0x08, 0x18, 0x18, 0x08]).map Prod.snd = .ok [0x08] := by
  decide

end Matternode.Tlv
