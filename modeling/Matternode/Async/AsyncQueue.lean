/-
  File:      Matternode/Async/AsyncQueue.lean
  Subject:   AsyncQueue: values for promises, and promises for values.

  A promise is known by its number, in the order in which promises are made; so is its resolver.

  * `AsyncQueue`, `enqueue`, `dequeue`, `isEmpty` -- the class, and the promises it has made;
  * `Holds` -- a queue after some values and some dequeues: it has a promise for each value that no
    one asked for, or a resolver for each promise without a value;
  * `Holds.enqueue`, `Holds.dequeue` -- the two calls;
  * `IsFifo`, `runCalls_isFifo` -- **every run is first in, first out.**
-/
import Mathlib.Data.List.Nodup
import Mathlib.Logic.Function.Basic
import Matternode.Js.Value

namespace Matternode.Async

open Js

/-! ## 1. The queue -/

/-- `resolution` is what a promise was resolved with; until then it is pending. -/
structure AsyncQueue (α : Type) where
  resolvers : List Nat := []
  promises : List Nat := []
  made : Nat := 0
  resolution : Nat → Option α := fun _ => none

namespace AsyncQueue

variable {α : Type}

/-- `_createEntry()`. -/
def createEntry (q : AsyncQueue α) : AsyncQueue α :=
  { q with
    resolvers := q.resolvers ++ [q.made]
    promises := q.promises ++ [q.made]
    made := q.made + 1 }

/-- A resolver's call. A second one would change nothing. -/
def resolve (q : AsyncQueue α) (resolver : Nat) (v : α) : AsyncQueue α :=
  let resolution := Function.update q.resolution resolver (some ((q.resolution resolver).getD v))
  { q with resolution }

/-- `enqueue(v)`. Without a resolver, the call of `undefined` would throw. -/
def enqueue (q : AsyncQueue α) (v : α) : Except JsError (AsyncQueue α) :=
  let q := if q.resolvers.length = 0 then q.createEntry else q
  match q.resolvers with
  | [] => .error .typeError
  | resolver :: resolvers => .ok ({ q with resolvers }.resolve resolver v)

/-- `dequeue()`, the promise it answers first. -/
def dequeue (q : AsyncQueue α) : Option Nat × AsyncQueue α :=
  let q := if q.promises.length = 0 then q.createEntry else q
  (q.promises.head?, { q with promises := q.promises.tail })

def isEmpty (q : AsyncQueue α) : Bool := q.promises.length = 0

/-! ## 2. What it holds -/

/-- The queue after these values and so many dequeues. -/
structure Holds (values : List α) (dequeued : Nat) (q : AsyncQueue α) : Prop where
  made : q.made = max values.length dequeued
  promises : q.promises = List.range' dequeued (values.length - dequeued)
  resolvers : q.resolvers = List.range' values.length (dequeued - values.length)
  resolution : ∀ p, q.resolution p = values[p]?

theorem holds_new : Holds ([] : List α) 0 {} := ⟨rfl, rfl, rfl, fun _ => rfl⟩

section Calls

variable {values : List α} {dequeued : Nat} {q : AsyncQueue α}

/-- The next value resolves the promise of its number. -/
theorem Holds.resolve (h : Holds values dequeued q) (v : α) (p : Nat) :
    (q.resolve values.length v).resolution p = (values ++ [v])[p]? := by
  unfold AsyncQueue.resolve
  dsimp only
  rw [h.resolution, List.getElem?_eq_none (Nat.le_refl _), Option.getD_none]
  by_cases hp : p = values.length
  · subst hp
    rw [Function.update_self, List.getElem?_append_right (Nat.le_refl _), Nat.sub_self]
    rfl
  · rw [Function.update_of_ne hp, h.resolution]
    rcases Nat.lt_or_gt_of_ne hp with hlt | hgt
    · rw [List.getElem?_append_left hlt]
    · rw [List.getElem?_eq_none (Nat.le_of_lt hgt), List.getElem?_eq_none]
      rw [List.length_append, List.length_singleton]
      omega

/-- **A value goes to the first promise that has none**, made for it if need be. -/
theorem Holds.enqueue (h : Holds values dequeued q) (v : α) :
    ∃ q', q.enqueue v = .ok q' ∧ Holds (values ++ [v]) dequeued q' := by
  have hlength : (values ++ [v]).length = values.length + 1 := List.length_append
  unfold AsyncQueue.enqueue
  rcases Nat.lt_or_ge values.length dequeued with hahead | hbehind
  · -- someone waits: the first resolver there is
    obtain ⟨n, hn⟩ := Nat.exists_eq_add_of_lt hahead
    have hresolvers : q.resolvers = values.length :: List.range' (values.length + 1) n := by
      rw [h.resolvers, show dequeued - values.length = n + 1 by omega, List.range'_succ]
    refine ⟨({ q with resolvers := List.range' (values.length + 1) n }.resolve values.length v),
      ?_, ?_, ?_, ?_, h.resolve v⟩
    · simp only [hresolvers, List.length_cons, Nat.add_one_ne_zero, if_false]
    · show q.made = _
      rw [h.made, hlength]
      omega
    · show q.promises = _
      rw [h.promises, hlength, show values.length - dequeued = 0 by omega,
        show values.length + 1 - dequeued = 0 by omega]
    · show List.range' (values.length + 1) n = _
      rw [hlength, show dequeued - (values.length + 1) = n by omega]
  · -- no one waits: a new entry's resolver
    have hmade : q.made = values.length := by
      rw [h.made]
      omega
    have hresolvers : q.resolvers = [] := by
      rw [h.resolvers, show dequeued - values.length = 0 by omega]
      rfl
    refine ⟨({ q.createEntry with resolvers := [] }.resolve values.length v), ?_, ?_, ?_, ?_,
      h.resolve v⟩
    · simp only [hresolvers, hmade, List.length_nil, if_true, createEntry, List.nil_append]
    · show q.made + 1 = _
      rw [hmade, hlength]
      omega
    · show q.promises ++ [q.made] = _
      rw [h.promises, hmade, hlength,
        show values.length + 1 - dequeued = values.length - dequeued + 1 by omega,
        List.range'_1_concat, show dequeued + (values.length - dequeued) = values.length by omega]
    · show [] = _
      rw [hlength, show dequeued - (values.length + 1) = 0 by omega]
      rfl

/-- **A dequeue answers the promise of its number**, made for it if need be. -/
theorem Holds.dequeue (h : Holds values dequeued q) :
    q.dequeue.1 = some dequeued ∧ Holds values (dequeued + 1) q.dequeue.2 := by
  unfold AsyncQueue.dequeue
  rcases Nat.lt_or_ge dequeued values.length with hahead | hbehind
  · obtain ⟨n, hn⟩ := Nat.exists_eq_add_of_lt hahead
    have hpromises : q.promises = dequeued :: List.range' (dequeued + 1) n := by
      rw [h.promises, show values.length - dequeued = n + 1 by omega, List.range'_succ]
    simp only [hpromises, List.length_cons, Nat.add_one_ne_zero, if_false]
    refine ⟨rfl, ?_, ?_, ?_, h.resolution⟩
    · show q.made = _
      rw [h.made]
      omega
    · show List.range' (dequeued + 1) n = _
      rw [show values.length - (dequeued + 1) = n by omega]
    · show q.resolvers = _
      rw [h.resolvers, show dequeued - values.length = 0 by omega,
        show dequeued + 1 - values.length = 0 by omega]
  · have hmade : q.made = dequeued := by
      rw [h.made]
      omega
    have hpromises : q.promises = [] := by
      rw [h.promises, show values.length - dequeued = 0 by omega]
      rfl
    simp only [hpromises, hmade, List.length_nil, if_true, createEntry, List.nil_append]
    refine ⟨rfl, ?_, ?_, ?_, h.resolution⟩
    · show dequeued + 1 = _
      omega
    · show [] = _
      rw [show values.length - (dequeued + 1) = 0 by omega]
      rfl
    · show q.resolvers ++ [dequeued] = _
      rw [h.resolvers, show dequeued + 1 - values.length = dequeued - values.length + 1 by omega,
        List.range'_1_concat, show values.length + (dequeued - values.length) = dequeued by omega]

theorem Holds.isEmpty (h : Holds values dequeued q) :
    q.isEmpty = true ↔ values.length ≤ dequeued := by
  unfold AsyncQueue.isEmpty
  rw [h.promises, List.length_range', decide_eq_true_iff]
  omega

end Calls

/-! ## 3. Runs -/

/-- A call. -/
inductive Op (α : Type) where
  | enqueue (v : α)
  | dequeue

/-- One call, with the promises that the dequeues before it have answered. -/
def perform (s : AsyncQueue α × List (Option Nat)) :
    Op α → Except JsError (AsyncQueue α × List (Option Nat))
  | .enqueue v => (s.1.enqueue v).map fun q => (q, s.2)
  | .dequeue => .ok (s.1.dequeue.2, s.2 ++ [s.1.dequeue.1])

/-- Calls on a new queue. -/
def runCalls (ops : List (Op α)) : Except JsError (AsyncQueue α × List (Option Nat)) :=
  ops.foldlM perform ({}, [])

/-- The values that are enqueued. -/
def values : List (Op α) → List α
  | [] => []
  | .enqueue v :: ops => v :: values ops
  | .dequeue :: ops => values ops

/-- How many dequeues there are. -/
def dequeues : List (Op α) → Nat
  | [] => 0
  | .enqueue _ :: ops => dequeues ops
  | .dequeue :: ops => dequeues ops + 1

/-- What a first-in-first-out queue is after these calls. -/
structure IsFifo (ops : List (Op α)) (q : AsyncQueue α) (answers : List (Option Nat)) : Prop where
  answered : answers.length = dequeues ops
  /-- The k-th dequeue's promise is resolved with the k-th value, and pending before it comes. -/
  delivers : ∀ (k : Nat) (answer : Option Nat), answers[k]? = some answer →
    ∃ p, answer = some p ∧ q.resolution p = (values ops)[k]?
  /-- The values no one has asked for yet wait in their order. -/
  waiting : q.promises.map q.resolution = ((values ops).drop (dequeues ops)).map some
  /-- No promise is there twice, so no value is. -/
  once : (answers ++ q.promises.map some).Nodup
  oneSided : q.promises = [] ∨ q.resolvers = []
  isEmpty : q.isEmpty = true ↔ (values ops).length ≤ dequeues ops

theorem foldlM_holds (ops : List (Op α)) {before : List α} {dequeued : Nat} {q : AsyncQueue α}
    (h : Holds before dequeued q) :
    ∃ q', ops.foldlM perform (q, (List.range dequeued).map some) =
        .ok (q', (List.range (dequeued + dequeues ops)).map some) ∧
      Holds (before ++ values ops) (dequeued + dequeues ops) q' := by
  induction ops generalizing before dequeued q with
  | nil => exact ⟨q, rfl, by rwa [values, List.append_nil]⟩
  | cons op ops ih =>
    cases op with
    | enqueue v =>
      obtain ⟨q', hq', hholds⟩ := h.enqueue v
      obtain ⟨q'', hrun, hafter⟩ := ih hholds
      refine ⟨q'', ?_, ?_⟩
      · rw [List.foldlM_cons, perform, hq']
        exact hrun
      · rwa [List.append_assoc] at hafter
    | dequeue =>
      obtain ⟨hanswer, hholds⟩ := h.dequeue
      obtain ⟨q'', hrun, hafter⟩ := ih hholds
      have hcount : dequeued + 1 + dequeues ops = dequeued + (dequeues ops + 1) := by omega
      rw [List.range_succ, List.map_append, hcount] at hrun
      rw [hcount] at hafter
      refine ⟨q'', ?_, hafter⟩
      rw [List.foldlM_cons, perform, hanswer]
      exact hrun

/-- What the queue holds makes it first in, first out. -/
theorem Holds.isFifo {ops : List (Op α)} {q : AsyncQueue α}
    (h : Holds (values ops) (dequeues ops) q) :
    IsFifo ops q ((List.range (dequeues ops)).map some) where
  answered := by rw [List.length_map, List.length_range]
  delivers := by
    intro k answer hanswer
    rw [List.getElem?_map, Option.map_eq_some_iff] at hanswer
    obtain ⟨p, hp, rfl⟩ := hanswer
    obtain ⟨hlt, hget⟩ := List.getElem?_eq_some_iff.mp hp
    rw [List.getElem_range] at hget
    subst hget
    exact ⟨k, rfl, h.resolution k⟩
  waiting := by
    rw [h.promises]
    refine List.ext_getElem (by simp) ?_
    intro i hi hi'
    rw [List.getElem_map, List.getElem_map, List.getElem_range', List.getElem_drop,
      h.resolution, Nat.one_mul, List.getElem?_eq_getElem]
  once := by
    rw [h.promises, ← List.map_append, List.range_eq_range']
    have hrange := List.range'_append_1 (s := 0) (m := dequeues ops)
      (n := (values ops).length - dequeues ops)
    rw [Nat.zero_add] at hrange
    rw [hrange]
    exact (List.nodup_range' 1 Nat.one_pos).map (Option.some_injective Nat)
  oneSided := by
    rw [h.promises, h.resolvers, List.range'_eq_nil_iff, List.range'_eq_nil_iff]
    omega
  isEmpty := h.isEmpty

/-- **The queue is first in, first out** after any calls. -/
theorem runCalls_isFifo (ops : List (Op α)) :
    ∃ q answers, runCalls ops = .ok (q, answers) ∧ IsFifo ops q answers := by
  obtain ⟨q, hrun, hholds⟩ := foldlM_holds ops holds_new
  rw [Nat.zero_add, List.nil_append] at hholds
  rw [Nat.zero_add] at hrun
  exact ⟨q, _, hrun, hholds.isFifo⟩

end AsyncQueue

end Matternode.Async
