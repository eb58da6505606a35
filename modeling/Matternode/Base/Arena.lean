/-
  File:      Matternode/Base/Arena.lean
  Subject:   Arrays in a store, cells that refer to further arrays of it, and the trees they hold.

  Who builds a tree by pushing into arrays that are already linked into their parents keeps a path
  of open arrays, and everything else he has built stays as it is. What the trees are made of is
  left open: `build` makes one of a label and, where its cell refers to an array, of what that
  array holds.

  * `push`, `alloc`, `read` -- the operations, and the forest an array holds, references followed;
  * `Holds` -- cells hold a forest and refer to no open array; `Holds.frame` -- so writing an open
    array leaves it;
  * `Spine`, `Filling` -- the path of open arrays, what each of them holds so far;
  * `Filling.push`, `Filling.descend`, `Filling.close` -- the three moves along the path;
  * `Filling.read` -- what is read from the top: every open array closed where it stands.
-/
import Mathlib.Data.List.Basic

namespace Matternode.Base

/-- A cell: a label and, where it has one, the array it refers to. -/
structure Cell (α : Type) where
  label : α
  child : Option Nat

/-- Arrays by their references. -/
abbrev Arena (α : Type) := List (List (Cell α))

namespace Arena

variable {α β : Type}

/-! ## 1. Operations -/

/-- Appends a cell to an array. -/
def push (h : Arena α) (ref : Nat) (c : Cell α) : Arena α := h.modify ref (· ++ [c])

/-- A new empty array; its reference is the length of `h`. -/
def alloc (h : Arena α) : Arena α := h ++ [[]]

/-- The forest an array holds, references followed `fuel` deep. -/
def read (build : α → Option (List β) → β) (h : Arena α) : Nat → Nat → List β
  | 0, _ => []
  | fuel + 1, ref => (h.getD ref []).map fun c => build c.label (c.child.map (read build h fuel))

theorem getElem?_push_self {h : Arena α} {ref : Nat} {cells : List (Cell α)} (c : Cell α)
    (hr : h[ref]? = some cells) : (h.push ref c)[ref]? = some (cells ++ [c]) := by
  unfold push
  rw [List.getElem?_modify_eq, hr]
  rfl

theorem getElem?_push_of_ne {h : Arena α} {ref other : Nat} (c : Cell α) (hne : other ≠ ref) :
    (h.push ref c)[other]? = h[other]? := by
  unfold push
  rw [List.getElem?_modify]
  simp [Ne.symm hne]

theorem getElem?_alloc {h : Arena α} {ref : Nat} {cells : List (Cell α)}
    (hr : h[ref]? = some cells) : h.alloc[ref]? = some cells := by
  obtain ⟨hlt, _⟩ := List.getElem?_eq_some_iff.mp hr
  unfold alloc
  rw [List.getElem?_append_left hlt, hr]

theorem getElem?_alloc_new (h : Arena α) : h.alloc[h.length]? = some [] := by
  unfold alloc
  simp

/-! ## 2. What cells hold -/

section Holds

variable (build : α → Option (List β) → β)

/-- The cells hold the forest. They lie in the array at `lo`; an array is newer than the one that
    refers to it, and none of those referred to is open. -/
inductive Holds (h : Arena α) (opened : List Nat) : Nat → List (Cell α) → List β → Prop where
  | nil {lo : Nat} : Holds h opened lo [] []
  | leaf {lo : Nat} {cells : List (Cell α)} {ts : List β} (a : α)
      (hs : Holds h opened lo cells ts) :
      Holds h opened lo (⟨a, none⟩ :: cells) (build a none :: ts)
  | node {lo ref : Nat} {cells inner : List (Cell α)} {ts sub : List β} (a : α)
      (hlo : lo < ref) (hclosed : ref ∉ opened) (hinner : h[ref]? = some inner)
      (hsub : Holds h opened ref inner sub) (hs : Holds h opened lo cells ts) :
      Holds h opened lo (⟨a, some ref⟩ :: cells) (build a (some sub) :: ts)

variable {build} {h h' : Arena α} {opened opened' : List Nat}

theorem Holds.append {lo : Nat} {cells cells' : List (Cell α)} {ts ts' : List β}
    (hs : Holds build h opened lo cells ts) (hs' : Holds build h opened lo cells' ts') :
    Holds build h opened lo (cells ++ cells') (ts ++ ts') := by
  induction hs with
  | nil => exact hs'
  | leaf a _ ih => exact .leaf a (ih hs')
  | node a hlo hclosed hinner hsub _ _ ih => exact .node a hlo hclosed hinner hsub (ih hs')

/-- **The frame**: a forest stays held as long as the closed arrays stay as they are. -/
theorem Holds.frame
    (hkeep : ∀ ref inner, ref ∉ opened → h[ref]? = some inner →
      ref ∉ opened' ∧ h'[ref]? = some inner)
    {lo : Nat} {cells : List (Cell α)} {ts : List β} (hs : Holds build h opened lo cells ts) :
    Holds build h' opened' lo cells ts := by
  induction hs with
  | nil => exact .nil
  | leaf a _ ih => exact .leaf a ih
  | node a hlo hclosed hinner _ _ ihsub ih =>
    obtain ⟨hclosed', hinner'⟩ := hkeep _ _ hclosed hinner
    exact .node a hlo hclosed' hinner' ihsub ih

/-- What is held is what is read, once `fuel` reaches from `lo` to the newest array. -/
theorem Holds.map_read {lo : Nat} {cells : List (Cell α)} {ts : List β}
    (hs : Holds build h opened lo cells ts) {fuel : Nat} (hfuel : h.length ≤ lo + fuel + 1) :
    (cells.map fun c => build c.label (c.child.map (h.read build fuel))) = ts := by
  induction hs generalizing fuel with
  | nil => rfl
  | leaf a _ ih =>
    rw [List.map_cons, ih hfuel]
    rfl
  | node a hlo _ hinner _ _ ihsub ih =>
    obtain ⟨hlt, _⟩ := List.getElem?_eq_some_iff.mp hinner
    cases fuel with
    | zero => omega
    | succ fuel =>
      have hsub := ihsub (show h.length ≤ _ + fuel + 1 by omega)
      rw [List.map_cons, ih hfuel]
      simp only [Option.map_some, read, List.getD_eq_getElem?_getD, hinner, Option.getD_some, hsub]

/-! ## 3. The path of open arrays -/

variable (build h opened) in
/-- The arrays around an open one: the cell they are left at refers to the next open array inward,
    and stands after what the frame says they hold. The outermost is `top`. -/
inductive Spine (top : Nat) : Nat → List Nat → List (List β × α) → Prop where
  | nil : Spine top top [] []
  | cons {inner ref : Nat} {outer : List Nat} {cells : List (Cell α)} {around : List β}
      {frames : List (List β × α)} (a : α) (hlt : ref < inner)
      (hcells : h[ref]? = some (cells ++ [⟨a, some inner⟩]))
      (haround : Holds build h opened ref cells around) (hs : Spine top ref outer frames) :
      Spine top inner (ref :: outer) ((around, a) :: frames)

variable (build) in
/-- **An arena under construction**: `cur` is being filled and holds `filled` so far, `outer` are
    the open arrays around it, outermost last, with their frames. -/
structure Filling (h : Arena α) (top cur : Nat) (outer : List Nat) (filled : List β)
    (frames : List (List β × α)) : Prop where
  current : ∃ cells, h[cur]? = some cells ∧ Holds build h (cur :: outer) cur cells filled
  spine : Spine build h (cur :: outer) top cur outer frames

variable {top cur : Nat} {outer : List Nat} {filled : List β} {frames : List (List β × α)}

theorem Spine.frame
    (hkeep : ∀ ref inner, ref ∉ opened → h[ref]? = some inner →
      ref ∉ opened' ∧ h'[ref]? = some inner)
    (hopen : ∀ ref ∈ outer, h'[ref]? = h[ref]?) (hs : Spine build h opened top cur outer frames) :
    Spine build h' opened' top cur outer frames := by
  induction hs with
  | nil => exact .nil
  | cons a hlt hcells haround _ ih =>
    have hcells' := (hopen _ List.mem_cons_self).trans hcells
    exact .cons a hlt hcells' (haround.frame hkeep) (ih fun ref hr =>
      hopen ref (List.mem_cons_of_mem _ hr))

/-- The arrays around an open one are older. -/
theorem Spine.lt (hs : Spine build h opened top cur outer frames) : ∀ ref ∈ outer, ref < cur := by
  induction hs with
  | nil =>
    intro ref hr
    cases hr
  | cons a hlt _ _ _ ih =>
    intro ref hr
    cases hr with
    | head => exact hlt
    | tail _ hr => exact Nat.lt_trans (ih ref hr) hlt

/-- One empty array, open. -/
theorem filling_init (build : α → Option (List β) → β) : Filling build [[]] 0 0 [] [] [] :=
  ⟨⟨[], rfl, .nil⟩, .nil⟩

/-- What the newest open array is written leaves the rest of the path. -/
theorem Filling.push_spine (hf : Filling build h top cur outer filled frames) (c : Cell α) :
    Spine build (h.push cur c) (cur :: outer) top cur outer frames := by
  refine hf.spine.frame ?_ ?_
  · intro ref inner hclosed hinner
    have hne : ref ≠ cur := fun heq => hclosed (heq ▸ List.mem_cons_self)
    exact ⟨hclosed, (getElem?_push_of_ne c hne).trans hinner⟩
  · intro ref hr
    exact getElem?_push_of_ne c (Nat.ne_of_lt (hf.spine.lt ref hr))

theorem Filling.push_holds (c : Cell α) {lo : Nat} {cells : List (Cell α)} {ts : List β}
    (hs : Holds build h (cur :: outer) lo cells ts) :
    Holds build (h.push cur c) (cur :: outer) lo cells ts := by
  refine hs.frame ?_
  intro ref inner hclosed hinner
  have hne : ref ≠ cur := fun heq => hclosed (heq ▸ List.mem_cons_self)
  exact ⟨hclosed, (getElem?_push_of_ne c hne).trans hinner⟩

/-- **A leaf is pushed.** -/
theorem Filling.push (hf : Filling build h top cur outer filled frames) (a : α) :
    Filling build (h.push cur ⟨a, none⟩) top cur outer (filled ++ [build a none]) frames := by
  obtain ⟨cells, hcells, hholds⟩ := hf.current
  refine ⟨⟨cells ++ [⟨a, none⟩], getElem?_push_self _ hcells, ?_⟩, hf.push_spine _⟩
  exact (push_holds _ hholds).append (.leaf a .nil)

/-- **A node is pushed and its new array is filled next.** -/
theorem Filling.descend (hf : Filling build h top cur outer filled frames) (a : α) :
    Filling build (h.alloc.push cur ⟨a, some h.length⟩) top h.length (cur :: outer) []
      ((filled, a) :: frames) := by
  obtain ⟨cells, hcells, hholds⟩ := hf.current
  obtain ⟨hcur, _⟩ := List.getElem?_eq_some_iff.mp hcells
  have hkeep : ∀ ref inner, ref ∉ cur :: outer → h[ref]? = some inner →
      ref ∉ h.length :: cur :: outer ∧
        (h.alloc.push cur ⟨a, some h.length⟩)[ref]? = some inner := by
    intro ref inner hclosed hinner
    obtain ⟨hlt, _⟩ := List.getElem?_eq_some_iff.mp hinner
    have hne : ref ≠ cur := fun heq => hclosed (heq ▸ List.mem_cons_self)
    refine ⟨?_, (getElem?_push_of_ne _ hne).trans (getElem?_alloc hinner)⟩
    rw [List.mem_cons, not_or]
    exact ⟨Nat.ne_of_lt hlt, hclosed⟩
  have hnew : (h.alloc.push cur ⟨a, some h.length⟩)[h.length]? = some [] :=
    (getElem?_push_of_ne _ (Nat.ne_of_gt hcur)).trans (getElem?_alloc_new h)
  refine ⟨⟨[], hnew, .nil⟩, .cons a hcur (getElem?_push_self _ (getElem?_alloc hcells))
    (hholds.frame hkeep) (hf.spine.frame hkeep ?_)⟩
  intro ref hr
  have hlt := hf.spine.lt ref hr
  refine (getElem?_push_of_ne _ (Nat.ne_of_lt hlt)).trans ?_
  unfold alloc
  rw [List.getElem?_append_left (by omega)]

/-- **The array being filled is closed**: it is what the array around it was left at. -/
theorem Filling.close {ref : Nat} {around : List β} {a : α}
    (hf : Filling build h top cur (ref :: outer) filled ((around, a) :: frames)) :
    Filling build h top ref outer (around ++ [build a (some filled)]) frames := by
  obtain ⟨cells, hcells, hholds⟩ := hf.current
  have hlt := hf.spine.lt
  have hcur : cur ∉ ref :: outer := fun hr => Nat.lt_irrefl cur (hlt cur hr)
  have hkeep : ∀ r inner, r ∉ cur :: ref :: outer → h[r]? = some inner →
      r ∉ ref :: outer ∧ h[r]? = some inner :=
    fun r inner hclosed hinner => ⟨fun hr => hclosed (List.mem_cons_of_mem _ hr), hinner⟩
  cases hf.spine with
  | cons _ hlo hleft haround hs =>
    refine ⟨⟨_, hleft, (haround.frame hkeep).append ?_⟩, hs.frame hkeep fun _ _ => rfl⟩
    exact .node a hlo hcur hcells (hholds.frame hkeep) .nil

/-- What is open is closed where it stands. -/
def closeAll (build : α → Option (List β) → β) (filled : List β) (frames : List (List β × α)) :
    List β :=
  frames.foldl (fun filled frame => frame.1 ++ [build frame.2 (some filled)]) filled

/-- **What is read from the top.** -/
theorem Filling.read (hf : Filling build h top cur outer filled frames) :
    h.read build h.length top = closeAll build filled frames := by
  induction frames generalizing cur outer filled with
  | nil =>
    obtain ⟨cells, hcells, hholds⟩ := hf.current
    obtain ⟨hlt, _⟩ := List.getElem?_eq_some_iff.mp hcells
    cases hf.spine with
    | nil =>
      obtain ⟨fuel, hfuel⟩ : ∃ fuel, h.length = fuel + 1 := ⟨h.length - 1, by omega⟩
      have hmap := hholds.map_read (show h.length ≤ top + fuel + 1 by omega)
      rw [hfuel, Arena.read, List.getD_eq_getElem?_getD, hcells]
      exact hmap
  | cons frame frames ih =>
    cases hf.spine with
    | cons a hlt hcells haround hs => exact ih hf.close

end Holds

end Arena

end Matternode.Base
