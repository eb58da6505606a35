/-
  File:      Matternode/Base/Ledger.lean
  Subject:   A table that only grows, and the records of who made its entries.

  A record says at which place its entry was put, and what was put there. An entry without a record
  is free at its place. Nothing here knows what entries and records are:

  * `Grown place entry t new t'` -- the table grew by the entries of the records, in order;
  * `Accounted` -- **every record has its entry, no place has two, and the rest is free**;
  * `Accounted.grown`, `Accounted.free`, `Accounted.perm` -- what keeps it.
-/
import Mathlib.Data.List.Nodup
import Mathlib.Data.List.Infix

namespace Matternode.Base

variable {α β : Type} {place : β → Nat} {entry : β → α} {Free : Nat → α → Prop}

/-- The table grew by the entries of the records. -/
inductive Grown (place : β → Nat) (entry : β → α) (t : List α) : List β → List α → Prop
  | refl : Grown place entry t [] t
  | put {new : List β} {t' : List α} (b : β) (h : Grown place entry t new t')
      (hplace : place b = t'.length) : Grown place entry t (new ++ [b]) (t' ++ [entry b])

namespace Grown

variable {t t' t'' : List α} {new new' : List β}

theorem isPrefix (h : Grown place entry t new t') : t <+: t' := by
  induction h with
  | refl => exact List.prefix_rfl
  | put b _ _ ih => exact ih.trans (List.prefix_append _ _)

theorem trans (h : Grown place entry t new t') (h' : Grown place entry t' new' t'') :
    Grown place entry t (new ++ new') t'' := by
  induction h' with
  | refl =>
    rw [List.append_nil]
    exact h
  | put b _ hplace ih =>
    rw [← List.append_assoc]
    exact ih.put b hplace

end Grown

/-- Each record's entry stands at its place, no place is recorded twice, and what is not recorded is
    free. -/
structure Accounted (place : β → Nat) (entry : β → α) (Free : Nat → α → Prop) (table : List α)
    (records : List β) : Prop where
  once : (records.map place).Nodup
  made : ∀ b ∈ records, table[place b]? = some (entry b)
  rest : ∀ (k : Nat) (a : α), table[k]? = some a → k ∉ records.map place → Free k a

namespace Accounted

variable {table table' : List α} {records records' new : List β}

theorem nil : Accounted place entry Free [] [] where
  once := List.nodup_nil
  made b hb := absurd hb List.not_mem_nil
  rest k a ha := by cases ha

theorem lt_length (h : Accounted place entry Free table records) {b : β} (hb : b ∈ records) :
    place b < table.length :=
  (List.getElem?_eq_some_iff.mp (h.made b hb)).1

/-- The order of the records does not matter. -/
theorem perm (h : Accounted place entry Free table records) (hp : records.Perm records') :
    Accounted place entry Free table records' where
  once := (hp.map place).nodup_iff.mp h.once
  made b hb := h.made b (hp.mem_iff.mpr hb)
  rest k a ha hk := h.rest k a ha fun hk' => hk ((hp.map place).mem_iff.mp hk')

/-- A free entry more. -/
theorem free (h : Accounted place entry Free table records) {a : α} (ha : Free table.length a) :
    Accounted place entry Free (table ++ [a]) records where
  once := h.once
  made b hb := by
    rw [List.getElem?_append_left (h.lt_length hb)]
    exact h.made b hb
  rest k a' ha' hk := by
    rw [List.getElem?_append] at ha'
    split at ha'
    · exact h.rest k a' ha' hk
    · rename_i hle
      rw [List.getElem?_singleton] at ha'
      split at ha'
      · rename_i hzero
        obtain rfl : k = table.length := by omega
        rw [← Option.some.inj ha']
        exact ha
      · cases ha'

/-- An entry more, with its record. -/
theorem put (h : Accounted place entry Free table records) (b : β) (hplace : place b = table.length) :
    Accounted place entry Free (table ++ [entry b]) (records ++ [b]) where
  once := by
    rw [List.map_append, List.map_singleton, List.nodup_append]
    refine ⟨h.once, List.nodup_singleton _, fun k hk k' hk' heq => ?_⟩
    obtain ⟨b', hb', rfl⟩ := List.mem_map.mp hk
    rw [List.mem_singleton.mp hk', hplace] at heq
    exact absurd (h.lt_length hb') (heq ▸ Nat.lt_irrefl _)
  made b' hb' := by
    rcases List.mem_append.mp hb' with hb' | hb'
    · rw [List.getElem?_append_left (h.lt_length hb')]
      exact h.made b' hb'
    · rw [List.mem_singleton.mp hb', hplace, List.getElem?_concat_length]
  rest k a ha hk := by
    rw [List.map_append, List.map_singleton, List.mem_append, List.mem_singleton, not_or,
      hplace] at hk
    rw [List.getElem?_append] at ha
    split at ha
    · exact h.rest k a ha hk.1
    · rename_i hlt
      have hlen := (List.getElem?_eq_some_iff.mp ha).1
      rw [List.length_singleton] at hlen
      omega

/-- **A table that grew by records is accounted for with these.** -/
theorem grown (h : Accounted place entry Free table records) (hg : Grown place entry table new table') :
    Accounted place entry Free table' (records ++ new) := by
  induction hg with
  | refl =>
    rw [List.append_nil]
    exact h
  | put b _ hplace ih =>
    rw [← List.append_assoc]
    exact ih.put b hplace

end Accounted

end Matternode.Base
