/-
  File:      Matternode/Util/Tracer.lean
  Subject:   The tracer (src/util/Tracer.js) and the text it hands to the stream of its file.

  The text is one JSON object that is handed over piece by piece: its beginning when the tracer is
  made, an entry and a comma for each event, and its end in the handler of the exit. The stream
  writes to the disk on its own, and what it has not written when the process ends is lost: of the
  file itself nothing is said here.

  * `Tracer`, `emit` and the methods over it -- what is handed to the stream;
  * `TraceEvent`, `Tracer.step` -- the tracer as a machine; what throws hands over nothing;
  * `recorded` -- the entries that a run is to leave;
  * `Tracer.handed_readsBack` -- **what was handed over by an exit is JSON, and says just these
    entries.**
-/
import Matternode.Js.JsonTree
import Matternode.Platform.PersistantStore

namespace Matternode.Util

open Base Js Platform

/-! ## 1. The tracer -/

def TRACE_CATEGORY : String := "matternode"
def TRACE_DURATION : Nat := 0

/-- Tracer.Type. -/
inductive TraceType where
  | Begin | End | Complete | Meta | Instant | Counter | Sample | MemGlobal | MemProcess | Obj | ObjNew
  | ObjDestroy | AsyncBegin | AsyncInstant | AsyncEnd | FlowStart | FlowStep | FlowEnd | ClockSync

def TraceType.text : TraceType → String
  | .Begin => "B"
  | .End => "E"
  | .Complete => "X"
  | .Meta => "M"
  | .Instant => "i"
  | .Counter => "C"
  | .Sample => "S"
  | .MemGlobal => "V"
  | .MemProcess => "v"
  | .Obj => "O"
  | .ObjNew => "N"
  | .ObjDestroy => "D"
  | .AsyncBegin => "b"
  | .AsyncInstant => "i"
  | .AsyncEnd => "e"
  | .FlowStart => "s"
  | .FlowStep => "t"
  | .FlowEnd => "f"
  | .ClockSync => "c"

/-- The level, the number of the process, and what was handed to the stream of the file. -/
structure Tracer where
  traceLevel : Setting := .number (.int 1)
  pid : Nat
  handed : String := ""

abbrev TracerM := EStateM JsError Tracer

namespace Tracer

/-- `_writer.write(text)`. -/
def write (text : String) : TracerM Unit :=
  modify fun t => { t with handed := t.handed ++ text }

/-- `_traceLevel == 0`. -/
def isOff (t : Tracer) : Bool := t.traceLevel.toNumber.eqInt 0

/-- The setter of `level`. -/
def setLevel (v : Setting) : TracerM Unit := do
  if !tracerAccepts v then throw (.thrown "Invalid value")
  modify fun t => { t with traceLevel := v }

/-- `traceEntry`; there is no `_tid`. -/
def traceEntry (pid now : Nat) (name : String) (ph : TraceType) (args : PlainValue) : PlainValue :=
  .object [("pid", .number (.int pid)), ("tid", .undefined), ("ts", .number (.int now)),
    ("cat", .string TRACE_CATEGORY), ("dur", .number (.int TRACE_DURATION)), ("ph", .string ph.text),
    ("name", .string name), ("args", args)]

/-- `emit(name, ph, args)` at a time. -/
def emit (stack now : Nat) (name : String) (ph : TraceType) (args : PlainValue) : TracerM Unit := do
  if (← get).isOff then return
  let traceLine ← lift (JSON.stringify stack JSON.keep (traceEntry (← get).pid now name ph args))
  write (traceLine.getD "undefined" ++ ",")

end Tracer

/-- A call of `emit`, or an assignment to `level`. -/
inductive TraceEvent where
  | emit (now : Nat) (name : String) (ph : TraceType) (args : PlainValue)
  | setLevel (v : Setting)

namespace TraceEvent

variable (now : Nat) (name : String) (args : PlainValue)

def «begin» : TraceEvent := .emit now name .Begin .undefined
def «end» : TraceEvent := .emit now name .End .undefined
def event : TraceEvent := .emit now name .Complete .undefined
def instant : TraceEvent := .emit now name .Instant .undefined
def asyncBegin : TraceEvent := .emit now name .AsyncBegin .undefined
def asyncStep : TraceEvent := .emit now name .AsyncInstant .undefined
def asyncEnd : TraceEvent := .emit now name .AsyncEnd .undefined
def flowStart : TraceEvent := .emit now name .FlowStart .undefined
def flowStep : TraceEvent := .emit now name .FlowStep .undefined
def flowEnd : TraceEvent := .emit now name .FlowEnd .undefined
def «meta» : TraceEvent := .emit now name .Meta args
def obj : TraceEvent := .emit now name .Obj args
def objNew : TraceEvent := .emit now name .Complete args
def objDestroy : TraceEvent := .emit now name .ObjDestroy args
def memGlobal : TraceEvent := .emit now name .MemGlobal args
def memTask : TraceEvent := .emit now name .MemProcess args

/-- What the event calls. -/
def call (stack : Nat) : TraceEvent → TracerM Unit
  | .emit now name ph args => Tracer.emit stack now name ph args
  | .setLevel v => Tracer.setLevel v

end TraceEvent

namespace Tracer

/-- One event. -/
def step (stack : Nat) (t : Tracer) (e : TraceEvent) : Tracer := final ((e.call stack).run t)

/-- The entries that `writeHeader` writes. -/
def header (now : Nat) : List TraceEvent :=
  [.meta now "process_name" (.object [("name", .string TRACE_CATEGORY)]),
    .meta now "thread_name" (.object [("name", .string (TRACE_CATEGORY ++ " thread"))])]

/-- `new Tracer()`, which calls `writeHeader`. -/
def create (stack pid now : Nat) : Tracer :=
  run (step stack) { pid, handed := "\x7b\"traceEvents\":[" } (header now)

def writeFooter : TracerM Unit := write "\x7b\x7d]\x7d"

/-- The handler of the exit. -/
def exit (t : Tracer) : Tracer := final (writeFooter.run t)

end Tracer

/-! ## 2. What a run records -/

/-- The entry of an event; arguments of `undefined` are left out. -/
def entryTree (pid now : Nat) (name : String) (ph : TraceType) (args : Option Json) : Json :=
  .object ([("pid", .number (Number.int pid).text), ("ts", .number (Number.int now).text),
    ("cat", .string TRACE_CATEGORY), ("dur", .number (Number.int TRACE_DURATION).text),
    ("ph", .string ph.text), ("name", .string name)] ++ args.toList.map fun a => ("args", a))

/-- **The entries that are to be handed over**, from a level on: of each event that is emitted while
    the level is not 0, unless its arguments have no text. -/
def recorded (stack pid : Nat) : Setting → List TraceEvent → List Json
  | _, [] => []
  | level, .setLevel v :: es => recorded stack pid (if tracerAccepts v then v else level) es
  | level, .emit now name ph args :: es =>
    if level.toNumber.eqInt 0 then recorded stack pid level es
    else
      match args.tree stack with
      | .ok a => entryTree pid now name ph a :: recorded stack pid level es
      | .error _ => recorded stack pid level es

/-- The numbers of an event are whole: those that the process makes are. -/
def TraceEvent.Whole : TraceEvent → Prop
  | .emit now _ _ args => now < 2 ^ 53 ∧ args.Whole
  | .setLevel _ => True

namespace Tracer

/-- What JSON.stringify makes of an entry. -/
theorem tree_traceEntry (stack pid now : Nat) (name : String) (ph : TraceType) (args : PlainValue) :
    (traceEntry pid now name ph args).tree (stack + 1) =
      (args.tree stack).map fun a => some (entryTree pid now name ph a) := by
  cases stack with
  | zero => rfl
  | succ stack =>
    cases h : args.tree (stack + 1) with
    | error e =>
      unfold PlainValue.tree
      simp only [traceEntry, PlainValue.toJSON, List.mapM_cons, List.mapM_nil, h]
      rfl
    | ok a =>
      unfold PlainValue.tree
      simp only [traceEntry, PlainValue.toJSON, List.mapM_cons, List.mapM_nil, h]
      cases a <;> rfl

/-- What is handed over for entries. -/
def listed : List Json → String
  | [] => ""
  | v :: vs => v.text ++ "," ++ listed vs

theorem listed_append (vs ws : List Json) : listed (vs ++ ws) = listed vs ++ listed ws := by
  induction vs with
  | nil => exact String.empty_append.symm
  | cons v vs ih =>
    show v.text ++ "," ++ listed (vs ++ ws) = v.text ++ "," ++ listed vs ++ listed ws
    rw [ih, ← String.append_assoc]

/-- **One event**: it hands over its entry as a whole, or nothing. -/
theorem step_handed (stack : Nat) (t : Tracer) (e : TraceEvent) (es : List TraceEvent) :
    ∃ level vs, step (stack + 1) t e = { t with traceLevel := level, handed := t.handed ++ listed vs } ∧
      recorded stack t.pid t.traceLevel (e :: es) = vs ++ recorded stack t.pid level es := by
  have hnothing : t = { t with handed := t.handed ++ listed [] } := by
    rw [listed, String.append_empty]
  cases e with
  | setLevel v =>
    have hstep : step (stack + 1) t (.setLevel v) = final ((setLevel v).run t) := rfl
    unfold setLevel at hstep
    rw [hstep, recorded]
    cases tracerAccepts v with
    | true =>
      refine ⟨v, [], ?_, rfl⟩
      rw [listed, String.append_empty]
      rfl
    | false => exact ⟨t.traceLevel, [], hnothing, rfl⟩
  | emit now name ph args =>
    have htext : JSON.stringify (stack + 1) JSON.keep (traceEntry t.pid now name ph args) =
        (args.tree stack).map fun a => some (entryTree t.pid now name ph a).text := by
      unfold JSON.stringify
      rw [JSON.serialize_eq_text, tree_traceEntry]
      cases args.tree stack <;> rfl
    have hstep : step (stack + 1) t (.emit now name ph args) =
        final ((emit (stack + 1) now name ph args).run t) := rfl
    unfold emit isOff at hstep
    rw [run_bind_ok (run_get t)] at hstep
    rw [hstep, recorded]
    cases t.traceLevel.toNumber.eqInt 0 with
    | true => exact ⟨t.traceLevel, [], hnothing, rfl⟩
    | false =>
      rw [if_neg Bool.false_ne_true, if_neg Bool.false_ne_true, run_bind_ok (run_get t), htext]
      cases args.tree stack with
      | error e => exact ⟨t.traceLevel, [], hnothing, rfl⟩
      | ok a =>
        refine ⟨t.traceLevel, [entryTree t.pid now name ph a], ?_, rfl⟩
        rw [listed, listed, String.append_empty]
        rfl

/-- **A run hands over what it is to record**, each entry with its comma. -/
theorem run_handed (stack : Nat) (t : Tracer) (es : List TraceEvent) :
    (run (step (stack + 1)) t es).handed =
      t.handed ++ listed (recorded stack t.pid t.traceLevel es) := by
  induction es generalizing t with
  | nil => exact String.append_empty.symm
  | cons e es ih =>
    obtain ⟨level, vs, hstep, hrecorded⟩ := step_handed stack t e es
    rw [run_cons, ih, hrecorded, hstep, listed_append, String.append_assoc]

/-! ## 3. The text of an exit -/

theorem text_handed (vs : List Json) :
    (Json.object [("traceEvents", .array (vs ++ [.object []]))]).text =
      "\x7b\"traceEvents\":[" ++ listed vs ++ "\x7b\x7d]\x7d" := by
  have hlisted : String.intercalate "," ((vs ++ [Json.object []]).map Json.text) =
      listed vs ++ "\x7b\x7d" := by
    induction vs with
    | nil => rfl
    | cons v vs ih =>
      rw [List.cons_append, List.map_cons, String.intercalate_cons_of_ne_nil (by simp), ih, listed]
      simp only [String.append_assoc]
  rw [JSON.text_object, List.map_cons, List.map_nil, String.intercalate_singleton, JSON.memberText,
    JSON.text_array, hlisted]
  simp only [String.append_assoc]
  rfl

/-- What is recorded is JSON. -/
theorem wellFormed_recorded {stack pid : Nat} (hpid : pid < 2 ^ 53) {level : Setting}
    {es : List TraceEvent} (hes : ∀ e ∈ es, e.Whole) :
    ∀ v ∈ recorded stack pid level es, v.WellFormed := by
  induction es generalizing level with
  | nil => exact fun v hv => absurd hv List.not_mem_nil
  | cons e es ih =>
    have hrest : ∀ e ∈ es, e.Whole := fun e he => hes e (List.mem_cons_of_mem _ he)
    cases e with
    | setLevel v => exact ih hrest
    | emit now name ph args =>
      obtain ⟨hnow, hargs⟩ := hes _ List.mem_cons_self
      rw [recorded]
      split
      · exact ih hrest
      · cases htree : args.tree stack with
        | error e => exact ih hrest
        | ok a =>
          intro v hv
          rcases List.mem_cons.mp hv with rfl | hv
          · refine wellFormedMembers_of_forall fun m hm => ?_
            rcases List.mem_append.mp hm with hm | hm
            · simp only [List.mem_cons, List.not_mem_nil, or_false] at hm
              rcases hm with rfl | rfl | rfl | rfl | rfl | rfl
              · exact isNumber_int (by simpa using hpid)
              · exact isNumber_int (by simpa using hnow)
              · exact trivial
              · exact isNumber_int (by decide)
              · exact trivial
              · exact trivial
            · obtain ⟨a', ha', rfl⟩ := List.mem_map.mp hm
              obtain rfl : a = some a' := Option.mem_toList.mp ha'
              exact tree_wellFormed hargs htree
          · exact ih hrest v hv

/-- **What was handed over by an exit is JSON**, whatever was traced and whenever the level was set:
    an object with the entries that were to be recorded, in their order, and an empty one at the
    end. -/
theorem handed_readsBack (stack : Nat) {pid now : Nat} (hpid : pid < 2 ^ 53) (hnow : now < 2 ^ 53)
    {es : List TraceEvent} (hes : ∀ e ∈ es, e.Whole) :
    JSON.parse (run (step (stack + 1)) (create (stack + 1) pid now) es).exit.handed.toList =
      some (.object [("traceEvents",
        .array (recorded stack pid (.number (.int 1)) (header now ++ es) ++ [.object []]))]) := by
  have hall : ∀ e ∈ header now ++ es, e.Whole := by
    intro e he
    rcases List.mem_append.mp he with he | he
    · simp only [header, List.mem_cons, List.not_mem_nil, or_false] at he
      rcases he with rfl | rfl
      · exact ⟨hnow, trivial, trivial⟩
      · exact ⟨hnow, trivial, trivial⟩
    · exact hes e he
  have hhanded := run_handed stack { pid, handed := "\x7b\"traceEvents\":[" } (header now ++ es)
  rw [run_append] at hhanded
  have htext : (run (step (stack + 1)) (create (stack + 1) pid now) es).exit.handed =
      (Json.object [("traceEvents",
        .array (recorded stack pid (.number (.int 1)) (header now ++ es) ++ [.object []]))]).text := by
    rw [text_handed, create, ← hhanded]
    rfl
  have hwellFormed : (Json.object [("traceEvents",
      .array (recorded stack pid (.number (.int 1)) (header now ++ es) ++ [.object []]))]).WellFormed := by
    refine ⟨wellFormedElements_of_forall fun v hv => ?_, trivial⟩
    rcases List.mem_append.mp hv with hv | hv
    · exact wellFormed_recorded hpid hall v hv
    · rw [List.mem_singleton.mp hv]
      exact trivial
  rw [htext, Json.text, String.toList_ofList]
  exact JSON.parse_render (fun c hc => absurd hc List.not_mem_nil) hwellFormed

/-- A name that needs an escape, and an event while the level is 0. -/
theorem handed_readsBack_levels :
    let es : List TraceEvent :=
      [.begin 6 "msg \"tx\"", .setLevel (.text "0"), .end 7 "msg", .setLevel (.number (.int 2))]
    JSON.parse (run (step 8) (create 8 17 5) es).exit.handed.toList = some (.object [("traceEvents",
      .array (recorded 7 17 (.number (.int 1)) (header 5 ++ es) ++ [.object []]))]) := by
  intro es
  refine handed_readsBack 7 (by decide) (by decide) fun e he => ?_
  simp only [es, List.mem_cons, List.not_mem_nil, or_false] at he
  rcases he with rfl | rfl | rfl | rfl
  · exact ⟨by decide, trivial⟩
  · exact trivial
  · exact ⟨by decide, trivial⟩
  · exact trivial

end Tracer

end Matternode.Util
