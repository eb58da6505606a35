/-
  File:      Matternode/Base/Keyed.lean
  Subject:   Tables that are searched by a key and grow at their end.

  Nothing here knows what the entries are:

  * `UniqueKeys key l` -- no two entries have one key; a search then finds the one entry there is
    (`UniqueKeys.findIdx?_eq`);
  * `KeepsKeys key l l'` -- each entry of `l` stands in `l'` at its place, under its key.
-/
import Mathlib.Data.List.Nodup
import Mathlib.Data.List.Infix

namespace Matternode.Base

variable {α κ : Type} {key : α → κ}

/-! ## 1. Unique keys -/

/-- No two entries of the table have one key. -/
def UniqueKeys (key : α → κ) (l : List α) : Prop := (l.map key).Nodup

theorem uniqueKeys_nil : UniqueKeys key ([] : List α) := List.nodup_nil

/-- A key stands at one place. -/
theorem UniqueKeys.eq_of_key {l : List α} (h : UniqueKeys key l) {i j : Nat} {a b : α}
    (hi : l[i]? = some a) (hj : l[j]? = some b) (hk : key a = key b) : i = j := by
  have hi' : (l.map key)[i]? = some (key a) := by rw [List.getElem?_map, hi, Option.map_some]
  have hj' : (l.map key)[j]? = some (key a) := by rw [List.getElem?_map, hj, Option.map_some, hk]
  have hlt : i < (l.map key).length := (List.getElem?_eq_some_iff.mp hi').1
  exact (List.getElem?_inj hlt h).mp (hi'.trans hj'.symm)

/-- A new entry with a new key. -/
theorem UniqueKeys.append_one {l : List α} (h : UniqueKeys key l) {b : α}
    (hnew : ∀ a ∈ l, key a ≠ key b) : UniqueKeys key (l ++ [b]) := by
  unfold UniqueKeys
  rw [List.map_append, List.nodup_append]
  refine ⟨h, List.nodup_singleton _, ?_⟩
  intro k hk k' hk'
  obtain ⟨a, ha, rfl⟩ := List.mem_map.mp hk
  rw [List.map_singleton, List.mem_singleton] at hk'
  rw [hk']
  exact hnew a ha

/-- **The search for a key finds the entry that has it.** -/
theorem UniqueKeys.findIdx?_eq {l : List α} (h : UniqueKeys key l) {p : α → Bool} {k : κ}
    (hp : ∀ a ∈ l, p a = true ↔ key a = k) {i : Nat} {a : α} (hi : l[i]? = some a)
    (hk : key a = k) : l.findIdx? p = some i := by
  cases hfound : l.findIdx? p with
  | none =>
    have hfalse := List.findIdx?_eq_none_iff.mp hfound a (List.mem_of_getElem? hi)
    rw [(hp a (List.mem_of_getElem? hi)).mpr hk] at hfalse
    cases hfalse
  | some j =>
    obtain ⟨hlt, hj, -⟩ := List.findIdx?_eq_some_iff_getElem.mp hfound
    have hkey := (hp _ (List.getElem_mem hlt)).mp hj
    rw [h.eq_of_key (List.getElem?_eq_getElem hlt) hi (hkey.trans hk.symm)]

/-- One entry at most has a key. -/
theorem UniqueKeys.length_filter_le [DecidableEq κ] {l : List α} (h : UniqueKeys key l) (k : κ) :
    (l.filter (key · = k)).length ≤ 1 := by
  have hcount : (l.filter (key · = k)).length = (l.map key).count k := by
    rw [List.count_eq_countP, List.countP_map, List.countP_eq_length_filter]
    rfl
  rw [hcount]
  exact List.nodup_iff_count_le_one.mp h k

/-! ## 2. Growing tables -/

/-- Each entry of `l` stands in `l'` at its place, under its key. -/
def KeepsKeys (key : α → κ) (l l' : List α) : Prop := l.map key <+: l'.map key

theorem KeepsKeys.refl (l : List α) : KeepsKeys key l l := List.prefix_rfl

theorem KeepsKeys.trans {l l' l'' : List α} (h : KeepsKeys key l l') (h' : KeepsKeys key l' l'') :
    KeepsKeys key l l'' :=
  List.IsPrefix.trans h h'

theorem keepsKeys_append (l m : List α) : KeepsKeys key l (l ++ m) := by
  unfold KeepsKeys
  rw [List.map_append]
  exact List.prefix_append ..

/-- A change of the last entry. -/
theorem modify_append_one (f : α → α) (l : List α) (a : α) :
    (l ++ [a]).modify l.length f = l ++ [f a] := by
  induction l with
  | nil => rfl
  | cons b l ih => exact congrArg (b :: ·) ih

/-- A changed entry keeps its key. -/
theorem map_key_modify {f : α → α} {l : List α} {i : Nat}
    (hf : ∀ a, l[i]? = some a → key (f a) = key a) : (l.modify i f).map key = l.map key := by
  apply List.ext_getElem?
  intro j
  rw [List.getElem?_map, List.getElem?_map, List.getElem?_modify]
  cases hj : l[j]? with
  | none => rfl
  | some a =>
    by_cases hij : i = j
    · simp [hij, hf a (hij ▸ hj)]
    · simp [hij]

theorem keepsKeys_modify {f : α → α} {l : List α} {i : Nat}
    (hf : ∀ a, l[i]? = some a → key (f a) = key a) : KeepsKeys key l (l.modify i f) := by
  unfold KeepsKeys
  rw [map_key_modify hf]

theorem UniqueKeys.modify {l : List α} (h : UniqueKeys key l) {f : α → α} {i : Nat}
    (hf : ∀ a, l[i]? = some a → key (f a) = key a) : UniqueKeys key (l.modify i f) := by
  unfold UniqueKeys
  rw [map_key_modify hf]
  exact h

/-- An entry is found again. -/
theorem KeepsKeys.getElem? {l l' : List α} (h : KeepsKeys key l l') {i : Nat} {a : α}
    (hi : l[i]? = some a) : ∃ b, l'[i]? = some b ∧ key b = key a := by
  have hkey : (l.map key)[i]? = some (key a) := by rw [List.getElem?_map, hi, Option.map_some]
  have hlt : i < (l.map key).length := (List.getElem?_eq_some_iff.mp hkey).1
  obtain ⟨added, hadded⟩ := h
  have hkey' : (l'.map key)[i]? = some (key a) := by
    rw [← hadded, List.getElem?_append_left hlt, hkey]
  rw [List.getElem?_map] at hkey'
  exact Option.map_eq_some_iff.mp hkey'

end Matternode.Base
