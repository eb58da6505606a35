/-
  File:      Matternode/Expect/ExpectProcess.lean
  Subject:   ExpectProcess: calls that look for lines of a child process, and their timeouts.

  `Promise.race` leaves the search that loses it alone: it goes on waiting for its line.

  * `Line`, `Waiter`, `ExpectProcess` -- the lines, the calls that await one, and the state;
  * `awaitLine`, `resume`, `step` -- what a call does up to its next `await`, and the events;
  * `Orderly` -- what holds in every state: lines are handed out in their order;
  * `Idle` -- an abandoned search has been handed nothing since;
  * `ConsumesNothingMore`, `consumesNothingMore_iff` -- **timed-out searches take no line, all along
    a run, exactly when** no line comes while one of them is the first in the queue.
-/
import Matternode.Async.AsyncQueue
import Matternode.Base.Machine

namespace Matternode.Expect

open Async Base Js

/-! ## 1. The process -/

/-- A line of the child. `index` counts the lines before it. -/
structure Line where
  index : Nat
  text : String
  deriving DecidableEq, Repr

/-- `expectSearch` looks for a line that matches, `expectNext` at the next line only. -/
inductive Kind where
  | search
  | next
  deriving DecidableEq, Repr

/-- A call that awaits the promise of a `dequeue()`. -/
structure Waiter (Condition : Type) where
  call : Nat
  kind : Kind
  condition : Condition
  promise : Nat

/-- The queue of lines, and the calls on it. `expired` are the calls of `expect` that a timeout has
    rejected, with the number of lines there were; `examined` is which call has had which line. -/
structure ExpectProcess (Condition : Type) where
  stdoutQ : AsyncQueue Line := {}
  lines : Nat := 0
  calls : Nat := 0
  waiting : List (Waiter Condition) := []
  expired : List (Nat × Nat) := []
  examined : List (Nat × Line) := []

inductive Event (Condition : Type) where
  | line (text : String)
  | expect (condition : Condition)
  | expectNext (condition : Condition)
  | resume
  | timeout (call : Nat)

namespace ExpectProcess

variable {Condition : Type}

/-- `await this.stdoutQ.dequeue()`. Without a promise, the call would end in a TypeError. -/
def awaitLine (s : ExpectProcess Condition) (call : Nat) (kind : Kind) (condition : Condition) :
    ExpectProcess Condition :=
  let dequeued := s.stdoutQ.dequeue
  { s with
    stdoutQ := dequeued.2
    waiting := s.waiting ++
      dequeued.1.toList.map fun promise => { call, kind, condition, promise } }

/-- A new call, up to its first `await`. -/
def begin (s : ExpectProcess Condition) (kind : Kind) (condition : Condition) :
    ExpectProcess Condition :=
  { s with calls := s.calls + 1 }.awaitLine s.calls kind condition

/-- A line of the child: `self.stdoutQ.enqueue(line)`. -/
def onLine (s : ExpectProcess Condition) (text : String) : ExpectProcess Condition :=
  match s.stdoutQ.enqueue { index := s.lines, text } with
  | .ok stdoutQ => { s with stdoutQ, lines := s.lines + 1 }
  | .error _ => s

/-- The call that waits longest goes on, if its promise is resolved; promises are resolved in the
    order in which they were handed out. `regExp` is the host's: whether the line matches, or what
    is thrown. -/
def resume (regExp : Condition → String → Except JsError Bool) (s : ExpectProcess Condition) :
    ExpectProcess Condition :=
  match s.waiting with
  | [] => s
  | w :: waiting =>
    match s.stdoutQ.resolution w.promise with
    | none => s
    | some line =>
      let s := { s with waiting, examined := s.examined ++ [(w.call, line)] }
      match w.kind, regExp w.condition line.text with
      | .search, .ok false => s.awaitLine w.call .search w.condition
      | _, _ => s

/-- No call can go on. -/
def AtRest (s : ExpectProcess Condition) : Prop :=
  ∀ w ∈ s.waiting, s.stdoutQ.resolution w.promise = none

instance (s : ExpectProcess Condition) : Decidable s.AtRest :=
  inferInstanceAs (Decidable (∀ w ∈ s.waiting, _))

/-- A timeout has rejected the call. -/
def HasExpired (s : ExpectProcess Condition) (call : Nat) : Prop := ∃ row ∈ s.expired, row.1 = call

instance (s : ExpectProcess Condition) (call : Nat) : Decidable (s.HasExpired call) :=
  inferInstanceAs (Decidable (∃ row ∈ s.expired, _))

/-- The timer of a call of `expect`. It is not cleared while the search goes on; a timer goes off
    when all that can go on has. -/
def onTimeout (s : ExpectProcess Condition) (call : Nat) : ExpectProcess Condition :=
  if s.AtRest ∧ (∃ w ∈ s.waiting, w.call = call ∧ w.kind = .search) ∧ ¬ s.HasExpired call then
    { s with expired := s.expired ++ [(call, s.lines)] }
  else s

def step (regExp : Condition → String → Except JsError Bool) (s : ExpectProcess Condition) :
    Event Condition → ExpectProcess Condition
  | .line text => s.onLine text
  | .expect condition => s.begin .search condition
  | .expectNext condition => s.begin .next condition
  | .resume => s.resume regExp
  | .timeout call => s.onTimeout call

/-! ## 2. What is promised -/

/-- The call has had the line, or has been handed it. -/
def Takes (s : ExpectProcess Condition) (call : Nat) (line : Line) : Prop :=
  (call, line) ∈ s.examined ∨
    ∃ w ∈ s.waiting, w.call = call ∧ s.stdoutQ.resolution w.promise = some line

/-- **What a timeout is for**: the search takes no line from then on, and the lines are examined in
    their order, by the calls that are left. -/
structure ConsumesNothingMore (s : ExpectProcess Condition) : Prop where
  abandoned : ∀ row ∈ s.expired, ∀ line, s.Takes row.1 line → line.index < row.2
  inOrder : s.examined.map (·.2.index) = List.range s.examined.length
  examinesAll : s.AtRest → (∃ w ∈ s.waiting, ¬ s.HasExpired w.call) → s.examined.length = s.lines

/-- No line comes while the first place in the queue is an abandoned search's. -/
def PlaceIsLive (s : ExpectProcess Condition) (e : Event Condition) : Prop :=
  ∀ text, e = .line text → ∀ w ∈ s.waiting, s.stdoutQ.resolvers.head? = some w.promise →
    ¬ s.HasExpired w.call

/-! ## 3. Every state -/

/-- What is left of the lines goes to the calls that wait, in their order. -/
structure Orderly (s : ExpectProcess Condition) : Prop where
  queue : ∃ values, AsyncQueue.Holds values (s.examined.length + s.waiting.length) s.stdoutQ ∧
    values.map Line.index = List.range s.lines
  promises : s.waiting.map (·.promise) = List.range' s.examined.length s.waiting.length
  inOrder : s.examined.map (·.2.index) = List.range s.examined.length
  enough : s.examined.length ≤ s.lines
  waitingCalls : ∀ w ∈ s.waiting, w.call < s.calls
  expiredCalls : ∀ row ∈ s.expired, row.1 < s.calls ∧ row.2 ≤ s.lines

theorem orderly_new : Orderly ({} : ExpectProcess Condition) where
  queue := ⟨[], AsyncQueue.holds_new, rfl⟩
  promises := rfl
  inOrder := rfl
  enough := Nat.le_refl 0
  waitingCalls := List.forall_mem_nil _
  expiredCalls := List.forall_mem_nil _

section Orderly

variable {s : ExpectProcess Condition}

/-- A promise is resolved with the line of its number, once it is there. -/
theorem Orderly.resolution (h : Orderly s) {p : Nat} {line : Line}
    (hline : s.stdoutQ.resolution p = some line) : line.index = p ∧ p < s.lines := by
  obtain ⟨values, hholds, hvalues⟩ := h.queue
  rw [hholds.resolution] at hline
  have hindex : (List.range s.lines)[p]? = some line.index := by
    rw [← hvalues, List.getElem?_map, hline]
    rfl
  obtain ⟨hlt, hget⟩ := List.getElem?_eq_some_iff.mp hindex
  rw [List.length_range] at hlt
  rw [List.getElem_range] at hget
  exact ⟨hget.symm, hlt⟩

/-- As many lines as are numbered. -/
theorem length_of_indices {values : List Line} {lines : Nat}
    (h : values.map Line.index = List.range lines) : values.length = lines := by
  rw [← List.length_map (f := Line.index), h, List.length_range]

theorem Orderly.pending_iff (h : Orderly s) (p : Nat) :
    s.stdoutQ.resolution p = none ↔ s.lines ≤ p := by
  obtain ⟨values, hholds, hvalues⟩ := h.queue
  rw [hholds.resolution, List.getElem?_eq_none_iff, length_of_indices hvalues]

/-- What a call awaits is the next line that no call has asked for. -/
theorem Orderly.awaitLine_eq (h : Orderly s) (call : Nat) (kind : Kind) (condition : Condition) :
    s.awaitLine call kind condition =
      { s with
        stdoutQ := s.stdoutQ.dequeue.2
        waiting := s.waiting ++
          [{ call, kind, condition, promise := s.examined.length + s.waiting.length }] } := by
  obtain ⟨values, hholds, -⟩ := h.queue
  unfold awaitLine
  dsimp only
  rw [hholds.dequeue.1]
  rfl

theorem Orderly.awaitLine (h : Orderly s) {call : Nat} (hcall : call < s.calls) (kind : Kind)
    (condition : Condition) : Orderly (s.awaitLine call kind condition) := by
  rw [h.awaitLine_eq]
  obtain ⟨values, hholds, hvalues⟩ := h.queue
  refine ⟨⟨values, ?_, hvalues⟩, ?_, h.inOrder, h.enough, ?_, h.expiredCalls⟩
  · show AsyncQueue.Holds values (s.examined.length + (s.waiting ++ [_]).length) _
    rw [List.length_append, List.length_singleton, ← Nat.add_assoc]
    exact hholds.dequeue.2
  · show (s.waiting ++ _).map (·.promise) = _
    rw [List.map_append, h.promises, List.length_append, List.length_singleton,
      List.range'_1_concat]
    rfl
  · exact List.forall_mem_append.mpr ⟨h.waitingCalls, List.forall_mem_singleton.mpr hcall⟩

theorem Orderly.count (h : Orderly s) : Orderly { s with calls := s.calls + 1 } :=
  ⟨h.queue, h.promises, h.inOrder, h.enough,
    fun w hw => Nat.lt_succ_of_lt (h.waitingCalls w hw),
    fun row hrow => ⟨Nat.lt_succ_of_lt (h.expiredCalls row hrow).1, (h.expiredCalls row hrow).2⟩⟩

theorem Orderly.begin (h : Orderly s) (kind : Kind) (condition : Condition) :
    Orderly (s.begin kind condition) :=
  h.count.awaitLine (Nat.lt_succ_self s.calls) kind condition

/-- A line is enqueued, and nothing else changes. -/
theorem Orderly.onLine_eq (h : Orderly s) (text : String) :
    ∃ stdoutQ values, s.onLine text = { s with stdoutQ, lines := s.lines + 1 } ∧
      AsyncQueue.Holds (values ++ [{ index := s.lines, text }])
        (s.examined.length + s.waiting.length) stdoutQ ∧
      values.map Line.index = List.range s.lines := by
  obtain ⟨values, hholds, hvalues⟩ := h.queue
  obtain ⟨stdoutQ, henqueue, hafter⟩ := hholds.enqueue { index := s.lines, text }
  refine ⟨stdoutQ, values, ?_, hafter, hvalues⟩
  unfold onLine
  rw [henqueue]

theorem Orderly.onLine (h : Orderly s) (text : String) : Orderly (s.onLine text) := by
  obtain ⟨stdoutQ, values, heq, hafter, hvalues⟩ := h.onLine_eq text
  rw [heq]
  refine ⟨⟨_, hafter, ?_⟩, h.promises, h.inOrder, Nat.le_succ_of_le h.enough, h.waitingCalls,
    fun row hrow => ⟨(h.expiredCalls row hrow).1, Nat.le_succ_of_le (h.expiredCalls row hrow).2⟩⟩
  rw [List.map_append, hvalues, List.map_singleton, List.range_succ]

/-- The promise of the call that waits longest. -/
theorem Orderly.head_promise (h : Orderly s) {w : Waiter Condition}
    {waiting : List (Waiter Condition)} (hw : s.waiting = w :: waiting) :
    w.promise = s.examined.length ∧
      waiting.map (·.promise) = List.range' (s.examined.length + 1) waiting.length := by
  have hall := h.promises
  rw [hw, List.map_cons, List.length_cons, List.range'_succ, List.cons.injEq] at hall
  exact hall

/-- The call that waits longest has examined its line. -/
theorem Orderly.examine (h : Orderly s) {w : Waiter Condition} {waiting : List (Waiter Condition)}
    (hw : s.waiting = w :: waiting) {line : Line}
    (hline : s.stdoutQ.resolution w.promise = some line) :
    Orderly { s with waiting, examined := s.examined ++ [(w.call, line)] } := by
  obtain ⟨hpromise, htail⟩ := h.head_promise hw
  obtain ⟨hindex, hlt⟩ := h.resolution hline
  have hlength : (s.examined ++ [(w.call, line)]).length = s.examined.length + 1 :=
    List.length_append
  obtain ⟨values, hholds, hvalues⟩ := h.queue
  refine ⟨⟨values, ?_, hvalues⟩, ?_, ?_, ?_, ?_, h.expiredCalls⟩
  · show AsyncQueue.Holds values ((s.examined ++ [(w.call, line)]).length + waiting.length) _
    rw [hw, List.length_cons] at hholds
    rwa [hlength, Nat.add_right_comm]
  · show _ = List.range' (s.examined ++ [(w.call, line)]).length waiting.length
    rw [hlength]
    exact htail
  · show (s.examined ++ [(w.call, line)]).map (·.2.index) = _
    rw [hlength, List.map_append, h.inOrder, List.map_singleton, List.range_succ, hindex, hpromise]
  · show (s.examined ++ [(w.call, line)]).length ≤ s.lines
    omega
  · intro w' hw'
    exact h.waitingCalls w' (hw ▸ List.mem_cons_of_mem w hw')

/-- What `resume` can do: nothing, or examine a line, and then await the next or not. -/
theorem resume_cases (regExp : Condition → String → Except JsError Bool)
    (s : ExpectProcess Condition) :
    s.resume regExp = s ∨ ∃ w waiting line, s.waiting = w :: waiting ∧
      s.stdoutQ.resolution w.promise = some line ∧
      (s.resume regExp = { s with waiting, examined := s.examined ++ [(w.call, line)] } ∨
        s.resume regExp =
          { s with waiting, examined := s.examined ++ [(w.call, line)] }.awaitLine w.call .search
            w.condition) := by
  unfold resume
  split
  · exact .inl rfl
  · rename_i w waiting hw
    split
    · exact .inl rfl
    · rename_i line hline
      dsimp only
      split
      · exact .inr ⟨w, waiting, line, hw, hline, .inr rfl⟩
      · exact .inr ⟨w, waiting, line, hw, hline, .inl rfl⟩

theorem Orderly.resume (h : Orderly s) (regExp : Condition → String → Except JsError Bool) :
    Orderly (s.resume regExp) := by
  rcases resume_cases regExp s with hsame | ⟨w, waiting, line, hw, hline, hdone | hagain⟩
  · rwa [hsame]
  · rw [hdone]
    exact h.examine hw hline
  · rw [hagain]
    have hmem : w ∈ s.waiting := hw ▸ List.mem_cons_self ..
    exact (h.examine hw hline).awaitLine (h.waitingCalls w hmem) .search w.condition

theorem Orderly.onTimeout (h : Orderly s) (call : Nat) : Orderly (s.onTimeout call) := by
  unfold ExpectProcess.onTimeout
  split
  · rename_i hfires
    obtain ⟨-, ⟨w, hw, rfl, -⟩, -⟩ := hfires
    exact ⟨h.queue, h.promises, h.inOrder, h.enough, h.waitingCalls,
      List.forall_mem_append.mpr ⟨h.expiredCalls,
        List.forall_mem_singleton.mpr ⟨h.waitingCalls w hw, Nat.le_refl _⟩⟩⟩
  · exact h

/-- **Every step keeps the order.** -/
theorem Orderly.step (h : Orderly s) (regExp : Condition → String → Except JsError Bool)
    (e : Event Condition) : Orderly (s.step regExp e) := by
  cases e with
  | line text => exact h.onLine text
  | expect condition => exact h.begin .search condition
  | expectNext condition => exact h.begin .next condition
  | resume => exact h.resume regExp
  | timeout call => exact h.onTimeout call

/-- At rest, a call that waits has all lines before it. -/
theorem Orderly.examinesAll (h : Orderly s) (hrest : s.AtRest) {w : Waiter Condition}
    (hw : w ∈ s.waiting) : s.examined.length = s.lines := by
  cases hwaiting : s.waiting with
  | nil =>
    rw [hwaiting] at hw
    cases hw
  | cons first waiting =>
    have hpending := hrest first (hwaiting ▸ List.mem_cons_self ..)
    rw [(h.head_promise hwaiting).1, h.pending_iff] at hpending
    exact Nat.le_antisymm h.enough hpending

/-- A line that has been examined is one of the first. -/
theorem Orderly.index_lt (h : Orderly s) {row : Nat × Line} (hrow : row ∈ s.examined) :
    row.2.index < s.lines := by
  have hmem : row.2.index ∈ s.examined.map (·.2.index) := List.mem_map_of_mem hrow
  rw [h.inOrder, List.mem_range] at hmem
  exact Nat.lt_of_lt_of_le hmem h.enough

end Orderly

/-! ## 4. Abandoned searches -/

/-- An abandoned search has had no line since, and its promise is pending. -/
structure Idle (s : ExpectProcess Condition) : Prop where
  pending : ∀ row ∈ s.expired, ∀ w ∈ s.waiting, w.call = row.1 → s.lines ≤ w.promise
  before : ∀ row ∈ s.expired, ∀ line, (row.1, line) ∈ s.examined → line.index < row.2

section Idle

variable {s : ExpectProcess Condition}

theorem Idle.awaitLine (hidle : Idle s) (h : Orderly s) {call : Nat} (hlive : ¬ s.HasExpired call)
    (kind : Kind) (condition : Condition) : Idle (s.awaitLine call kind condition) := by
  rw [h.awaitLine_eq]
  refine ⟨?_, hidle.before⟩
  intro row hrow w hw hcall
  rcases List.mem_append.mp hw with hold | hnew
  · exact hidle.pending row hrow w hold hcall
  · obtain rfl := List.mem_singleton.mp hnew
    exact absurd ⟨row, hrow, hcall.symm⟩ hlive

/-- The call whose line is there has not expired. -/
theorem Idle.live (hidle : Idle s) (h : Orderly s) {w : Waiter Condition} (hw : w ∈ s.waiting)
    {line : Line} (hline : s.stdoutQ.resolution w.promise = some line) :
    ¬ s.HasExpired w.call := by
  intro hexpired
  obtain ⟨row, hrow, hcall⟩ := hexpired
  have hle := hidle.pending row hrow w hw hcall.symm
  have hlt := (h.resolution hline).2
  omega

theorem Idle.resume (hidle : Idle s) (h : Orderly s)
    (regExp : Condition → String → Except JsError Bool) : Idle (s.resume regExp) := by
  rcases resume_cases regExp s with hsame | ⟨w, waiting, line, hw, hline, hdone⟩
  · rwa [hsame]
  · have hlive := hidle.live h (hw ▸ List.mem_cons_self ..) hline
    have hexamined : Idle { s with waiting, examined := s.examined ++ [(w.call, line)] } := by
      refine ⟨fun row hrow w' hw' =>
        hidle.pending row hrow w' (hw ▸ List.mem_cons_of_mem w hw'), ?_⟩
      intro row hrow line' hmem
      rcases List.mem_append.mp hmem with hold | hnew
      · exact hidle.before row hrow line' hold
      · have hcall := congrArg Prod.fst (List.mem_singleton.mp hnew)
        exact absurd ⟨row, hrow, hcall⟩ hlive
    rcases hdone with hdone | hagain
    · rwa [hdone]
    · rw [hagain]
      exact hexamined.awaitLine (h.examine hw hline) hlive .search w.condition

theorem Idle.begin (hidle : Idle s) (h : Orderly s) (kind : Kind) (condition : Condition) :
    Idle (s.begin kind condition) := by
  have hlive : ¬ s.HasExpired s.calls := by
    intro hexpired
    obtain ⟨row, hrow, hcall⟩ := hexpired
    have hlt := (h.expiredCalls row hrow).1
    omega
  have hcounted : Idle { s with calls := s.calls + 1 } := ⟨hidle.pending, hidle.before⟩
  exact hcounted.awaitLine h.count hlive kind condition

theorem Idle.onTimeout (hidle : Idle s) (h : Orderly s) (call : Nat) : Idle (s.onTimeout call) := by
  unfold ExpectProcess.onTimeout
  split
  · rename_i hfires
    refine ⟨?_, ?_⟩
    · refine List.forall_mem_append.mpr ⟨hidle.pending, List.forall_mem_singleton.mpr ?_⟩
      intro w hw _
      exact (h.pending_iff w.promise).mp (hfires.1 w hw)
    · refine List.forall_mem_append.mpr ⟨hidle.before, List.forall_mem_singleton.mpr ?_⟩
      intro line hmem
      exact h.index_lt hmem
  · exact hidle

/-- The first place in the queue is the next line's. -/
theorem Orderly.place_iff (h : Orderly s) {w : Waiter Condition} (hw : w ∈ s.waiting) :
    s.stdoutQ.resolvers.head? = some w.promise ↔ w.promise = s.lines := by
  obtain ⟨values, hholds, hvalues⟩ := h.queue
  have hpromise : w.promise ∈ s.waiting.map (·.promise) := List.mem_map_of_mem hw
  rw [h.promises, List.mem_range'_1] at hpromise
  rw [hholds.resolvers, length_of_indices hvalues, List.head?_range']
  by_cases hahead : s.examined.length + s.waiting.length - s.lines = 0
  · rw [if_pos hahead]
    refine iff_of_false nofun ?_
    omega
  · rw [if_neg hahead, Option.some.injEq]
    exact eq_comm

theorem Idle.onLine (hidle : Idle s) (h : Orderly s) {text : String}
    (hplace : s.PlaceIsLive (.line text)) : Idle (s.onLine text) := by
  obtain ⟨stdoutQ, values, heq, -, -⟩ := h.onLine_eq text
  rw [heq]
  refine ⟨?_, hidle.before⟩
  intro row hrow w hw hcall
  have hle := hidle.pending row hrow w hw hcall
  have hne : w.promise ≠ s.lines := by
    intro hfirst
    exact hplace text rfl w hw ((h.place_iff hw).mpr hfirst) ⟨row, hrow, hcall.symm⟩
  show s.lines + 1 ≤ w.promise
  omega

theorem Idle.step (hidle : Idle s) (h : Orderly s) {e : Event Condition} (hplace : s.PlaceIsLive e)
    (regExp : Condition → String → Except JsError Bool) : Idle (s.step regExp e) := by
  cases e with
  | line text => exact hidle.onLine h hplace
  | expect condition => exact hidle.begin h .search condition
  | expectNext condition => exact hidle.begin h .next condition
  | resume => exact hidle.resume h regExp
  | timeout call => exact hidle.onTimeout h call

theorem Idle.consumesNothingMore (hidle : Idle s) (h : Orderly s) : ConsumesNothingMore s where
  abandoned := by
    intro row hrow line htakes
    rcases htakes with hexamined | ⟨w, hw, hcall, hline⟩
    · exact hidle.before row hrow line hexamined
    · exact absurd ⟨row, hrow, hcall.symm⟩ (hidle.live h hw hline)
  inOrder := h.inOrder
  examinesAll := by
    intro hrest hlive
    obtain ⟨w, hw, -⟩ := hlive
    exact h.examinesAll hrest hw

/-- **A line goes to the search whose place is the first**, abandoned or not. -/
theorem Orderly.takes_line (h : Orderly s) {w : Waiter Condition} (hw : w ∈ s.waiting)
    (hfirst : s.stdoutQ.resolvers.head? = some w.promise) (text : String) :
    (s.onLine text).Takes w.call { index := s.lines, text } := by
  obtain ⟨stdoutQ, values, heq, hafter, hvalues⟩ := h.onLine_eq text
  rw [heq]
  refine .inr ⟨w, hw, rfl, ?_⟩
  rw [hafter.resolution, (h.place_iff hw).mp hfirst, ← length_of_indices hvalues,
    List.getElem?_concat_length]

/-- A step that keeps the promise hands no line to an abandoned search. -/
theorem Orderly.placeIsLive (h : Orderly s) {e : Event Condition}
    {regExp : Condition → String → Except JsError Bool}
    (hkept : ConsumesNothingMore (s.step regExp e)) : s.PlaceIsLive e := by
  intro text he w hw hfirst hexpired
  subst he
  obtain ⟨row, hrow, hcall⟩ := hexpired
  obtain ⟨stdoutQ, values, heq, -, -⟩ := h.onLine_eq text
  have hrow' : row ∈ (s.onLine text).expired := by
    rw [heq]
    exact hrow
  have htakes := h.takes_line hw hfirst text
  rw [← hcall] at htakes
  have hlt := hkept.abandoned row hrow' _ htakes
  exact absurd (h.expiredCalls row hrow).2 (Nat.not_le_of_lt hlt)

end Idle

theorem idle_new : Idle ({} : ExpectProcess Condition) :=
  ⟨List.forall_mem_nil _, List.forall_mem_nil _⟩

/-- **A timed-out `expect` consumes nothing more, all along a run, exactly when** no line comes
    while an abandoned search has the first place in the queue. -/
theorem consumesNothingMore_iff (regExp : Condition → String → Except JsError Bool)
    (es : List (Event Condition)) :
    Along (step regExp) (fun s e => ConsumesNothingMore (s.step regExp e)) {} es ↔
      Along (step regExp) PlaceIsLive {} es := by
  have hstep : ∀ s e, Orderly s ∧ Idle s → PlaceIsLive s e →
      Orderly (s.step regExp e) ∧ Idle (s.step regExp e) :=
    fun s e h hplace => ⟨h.1.step regExp e, h.2.step h.1 hplace regExp⟩
  constructor
  · intro hkept
    exact (along_invariant (step regExp) (I := fun s => Orderly s ∧ Idle s)
      (fun s e h hk => hstep s e h (h.1.placeIsLive hk)) (fun s e h hk => h.1.placeIsLive hk)
      ⟨orderly_new, idle_new⟩ hkept).1
  · intro hplace
    exact (along_invariant (step regExp) (I := fun s => Orderly s ∧ Idle s) hstep
      (fun s e h hp => (hstep s e h hp).2.consumesNothingMore (hstep s e h hp).1)
      ⟨orderly_new, idle_new⟩ hplace).1

/-- Conditions that a line meets by being the same. -/
def sameText (condition line : String) : Except JsError Bool := .ok (condition = line)

/-- A search times out, a line comes, and the next search, for that line, does not get it. -/
theorem line_stolen :
    (run (step sameText) {}
      [.expect "a", .timeout 0, .line "b", .expect "b", .resume]).examined = [(0, ⟨0, "b"⟩)] ∧
    ¬ Along (step sameText) (fun s e => ConsumesNothingMore (s.step sameText e)) {}
      [.expect "a", .timeout 0, .line "b", .expect "b", .resume] := by
  refine ⟨rfl, ?_⟩
  intro h
  have hafter := h.2.2.1.abandoned (0, 0) (List.mem_cons_self ..) ⟨0, "b"⟩
    (.inr ⟨⟨0, .search, "a", 0⟩, List.mem_cons_self .., rfl, rfl⟩)
  exact Nat.lt_irrefl 0 hafter

end ExpectProcess

end Matternode.Expect
