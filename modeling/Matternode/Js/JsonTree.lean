/-
  File:      Matternode/Js/JsonTree.lean
  Subject:   The texts of JSON.stringify, as trees of JSON.

  * `PlainValue.tree` -- what `JSON.stringify` makes a text of; the stack of calls is bounded;
  * `JSON.stringifyGap` -- JSON.stringify with a gap;
  * `JSON.serialize_eq_text` -- **the text of a value is the text of its tree**;
  * `tree_wellFormed` -- which is JSON where the numbers are whole;
  * `PlainValue.tree_cases` -- **a value has a tree exactly if there is no bigint in it**.
-/
import Matternode.Js.JsonParse
import Matternode.Js.NumberText

namespace Matternode.Js

open Base

/-! ## 1. The trees of values -/

/-- The text of a tree without a gap. -/
def Json.text (v : Json) : String := String.ofList (v.render [] [])

/-- What `JSON.stringify` makes a text of, and nothing where it makes none. -/
def PlainValue.tree : Nat → PlainValue → Except JsError (Option Json)
  | 0, _ => .error .rangeError
  | stack + 1, v =>
    match v.toJSON with
    | .undefined => .ok none
    | .boolean b => .ok (some (.boolean b))
    | .number x =>
      match x.value with
      | .finite .. => .ok (some (.number x.text))
      | _ => .ok (some .null)
    | .bigint _ => .error .typeError
    | .string s => .ok (some (.string s))
    | .array elements => do
      let trees ← elements.mapM (tree stack)
      return some (.array (trees.map (·.getD .null)))
    | .object properties => do
      let trees ← properties.mapM fun p => (tree stack p.2).map (Option.map fun t => (p.1, t))
      return some (.object (trees.filterMap id))
    -- `toJSON` answers no buffer
    | .buffer _ => .ok none

namespace JSON

/-- `JSON.stringify(v, null, gap)`. -/
def stringifyGap (stack : Nat) (gap : List Char) (v : PlainValue) :
    Except JsError (Option (List Char)) := do
  return (← v.tree stack).map (Json.render gap [])

theorem ofList_cons (c : Char) (cs : List Char) :
    String.ofList (c :: cs) = String.ofList [c] ++ String.ofList cs := by
  rw [← String.ofList_append]
  rfl

theorem text_elements (vs : List Json) :
    String.ofList (Json.renderElements [] [] vs) = String.intercalate "," (vs.map Json.text) := by
  induction vs with
  | nil => rfl
  | cons v vs ih =>
    cases vs with
    | nil =>
      rw [List.map_cons, List.map_nil, String.intercalate_singleton]
      rfl
    | cons v' vs =>
      rw [List.map_cons, List.map_cons, String.intercalate_cons_cons, ← List.map_cons, ← ih,
        Json.renderElements_next, Json.text]
      simp only [Json.newline, if_pos, List.nil_append, String.ofList_append, String.append_assoc]
      rw [ofList_cons]

theorem text_array (vs : List Json) :
    (Json.array vs).text = "[" ++ String.intercalate "," (vs.map Json.text) ++ "]" := by
  rw [← text_elements]
  cases vs with
  | nil => rfl
  | cons v vs =>
    rw [Json.text, Json.render]
    simp only [Json.newline, if_pos, List.nil_append, List.append_nil]
    rw [ofList_cons, String.ofList_append, String.append_assoc]

/-- A key and its value. -/
def memberText (m : String × Json) : String := quote m.1 ++ ":" ++ m.2.text

theorem text_members (ms : List (String × Json)) :
    String.ofList (Json.renderMembers [] [] ms) = String.intercalate "," (ms.map memberText) := by
  induction ms with
  | nil => rfl
  | cons m ms ih =>
    obtain ⟨key, v⟩ := m
    cases ms with
    | nil =>
      rw [List.map_cons, List.map_nil, String.intercalate_singleton, Json.renderMembers]
      simp only [Json.newline, Json.colon, if_pos, List.nil_append, String.ofList_append,
        String.ofList_toList, memberText, Json.text, String.append_assoc]
    | cons m' ms =>
      rw [List.map_cons, List.map_cons, String.intercalate_cons_cons, ← List.map_cons, ← ih,
        Json.renderMembers_next]
      simp only [Json.newline, Json.colon, if_pos, List.nil_append, String.ofList_append,
        String.ofList_toList, memberText, Json.text, String.append_assoc]
      rw [ofList_cons ',']

theorem text_object (ms : List (String × Json)) :
    (Json.object ms).text =
      "\x7b" ++ String.intercalate "," (ms.map memberText) ++ "\x7d" := by
  rw [← text_members]
  cases ms with
  | nil => rfl
  | cons m ms =>
    rw [Json.text, Json.render]
    simp only [Json.newline, if_pos, List.nil_append, List.append_nil]
    rw [ofList_cons, String.ofList_append, String.append_assoc]

/-- What is done with the results is done after the loop. -/
theorem mapM_map_right {α β γ : Type} (f : α → Except JsError β) (g : β → γ) (l : List α) :
    l.mapM (fun x => (f x).map g) = (l.mapM f).map (List.map g) := by
  induction l with
  | nil => rfl
  | cons x l ih =>
    rw [List.mapM_cons, List.mapM_cons, ih]
    cases f x with
    | error e => rfl
    | ok y => cases l.mapM f <;> rfl

theorem writeElements_eq_text {write : Write} {tree : PlainValue → Except JsError (Option Json)}
    (h : ∀ key v, write key v = (tree v).map (Option.map Json.text)) (elements : List PlainValue) :
    writeElements write elements = (elements.mapM tree).map
      (fun trees => some (Json.array (trees.map (·.getD .null))).text) := by
  have hloop : elements.zipIdx.mapM (fun e => write (toString e.2) e.1) =
      (elements.mapM tree).map (List.map (Option.map Json.text)) := by
    have hkey : (fun e : PlainValue × Nat => write (toString e.2) e.1) =
        fun e => (tree e.1).map (Option.map Json.text) := by
      funext e
      exact h _ _
    have hfst : elements.zipIdx.mapM (fun e => tree e.1) = elements.mapM tree := by
      conv_rhs => rw [← List.zipIdx_map_fst 0 elements, List.mapM_map]
      rfl
    rw [hkey, mapM_map_right, hfst]
  unfold writeElements
  rw [hloop]
  cases elements.mapM tree with
  | error e => rfl
  | ok trees =>
    show Except.ok (some (arrayText (trees.map (Option.map Json.text)))) = Except.ok (some _)
    rw [text_array, arrayText, List.map_map, List.map_map]
    congr 5
    refine List.map_congr_left ?_
    intro t _
    cases t <;> rfl

theorem writeProperties_eq_text {write : Write} {tree : PlainValue → Except JsError (Option Json)}
    (h : ∀ key v, write key v = (tree v).map (Option.map Json.text))
    (properties : List (String × PlainValue)) :
    writeProperties write properties = (properties.mapM fun p =>
        (tree p.2).map (Option.map fun t => (p.1, t))).map
      (fun trees => some (Json.object (trees.filterMap id)).text) := by
  have hloop : properties.mapM (writeMember write) = (properties.mapM fun p =>
      (tree p.2).map (Option.map fun t => (p.1, t))).map (List.map (Option.map memberText)) := by
    rw [← mapM_map_right]
    congr 1
    funext p
    unfold writeMember
    rw [h]
    rcases tree p.2 with e | t
    · rfl
    · cases t <;> rfl
  unfold writeProperties
  rw [hloop]
  cases properties.mapM fun p => (tree p.2).map (Option.map fun t => (p.1, t)) with
  | error e => rfl
  | ok trees =>
    show Except.ok (some (objectText (trees.map (Option.map memberText)))) = Except.ok (some _)
    rw [text_object, objectText, List.filterMap_map, List.map_filterMap]
    rfl

/-- **The text of a value is the text of its tree.** -/
theorem serialize_eq_text (stack : Nat) (key : String) (v : PlainValue) :
    serializeProperty keep stack key v = (v.tree stack).map (Option.map Json.text) := by
  induction stack generalizing key v with
  | zero => rfl
  | succ stack ih =>
    unfold serializeProperty PlainValue.tree
    rw [show keep key v.toJSON = v.toJSON from rfl]
    cases hv : v.toJSON with
    | undefined => rfl
    | boolean b => cases b <;> rfl
    | number x =>
      dsimp only
      unfold numberText
      cases x.value with
      | nan => rfl
      | infinity negative => rfl
      | finite negative m e =>
        show Except.ok (some x.text) = Except.ok (some (String.ofList x.text.toList))
        rw [String.ofList_toList]
    | bigint n => rfl
    | string s =>
      show Except.ok (some (quote s)) = Except.ok (some (String.ofList (quote s).toList))
      rw [String.ofList_toList]
    | buffer bs => cases v <;> cases hv
    | array elements =>
      dsimp only
      rw [writeElements_eq_text ih]
      cases elements.mapM (PlainValue.tree stack) <;> rfl
    | object properties =>
      dsimp only
      rw [writeProperties_eq_text ih]
      cases properties.mapM fun p =>
        (PlainValue.tree stack p.2).map (Option.map fun t => (p.1, t)) <;> rfl

end JSON

/-! ## 2. Whole numbers -/

/-- The digits of a positive number do not begin with zero. -/
theorem head_toDigits {n : Nat} (h : 0 < n) : (Nat.toDigits 10 n).head? ≠ some '0' := by
  induction n using Nat.strong_induction_on with
  | _ n ih =>
    rw [Nat.toDigits_eq_if (by decide)]
    split
    · rename_i hlt
      have hdigits : ∀ d < 10, 0 < d → Nat.digitChar d ≠ '0' := by decide
      exact fun hzero => hdigits n hlt h (Option.some.inj hzero)
    · rename_i hge
      have hsome : (Nat.toDigits 10 (n / 10)).head? ≠ none := fun hnone =>
        toDigits_ne_nil _ (List.head?_eq_none_iff.mp hnone)
      rw [List.head?_append, Option.or_of_isSome (Option.isSome_iff_ne_none.mpr hsome)]
      exact ih (n / 10) (by omega) (by omega)

/-- A number of decimal digits is a literal of JSON. -/
theorem isUnsigned_toDigits (n : Nat) : JSON.isUnsigned (Nat.toDigits 10 n) = true := by
  have htake := @List.takeWhile_append_of_pos _ _ _ [] (@isDigit_toDigits n)
  have hdrop := @List.dropWhile_append_of_pos _ _ _ [] (@isDigit_toDigits n)
  rw [List.takeWhile_nil, List.append_nil] at htake
  rw [List.dropWhile_nil, List.append_nil] at hdrop
  unfold JSON.isUnsigned
  rw [htake, hdrop]
  refine decide_eq_true ⟨?_, rfl⟩
  cases n with
  | zero => exact .inl rfl
  | succ n => exact .inr ⟨toDigits_ne_nil _, head_toDigits (Nat.succ_pos n)⟩

/-- The text of a whole number is a literal of JSON. -/
theorem isNumber_int {n : Int} (h : n.natAbs < 2 ^ 53) :
    JSON.isNumber (Number.int n).text.toList = true := by
  have hfree : ∀ k, JSON.isNumber (Nat.toDigits 10 k) = JSON.isUnsigned (Nat.toDigits 10 k) := by
    intro k
    unfold JSON.isNumber
    split
    · rename_i heq
      cases isDigit_toDigits (n := k) '-' (heq ▸ List.mem_cons_self)
    · rfl
  by_cases h0 : n = 0
  · rw [h0]
    rfl
  · rw [Number.text_int h0 h, String.toList_ofList]
    split
    · exact isUnsigned_toDigits _
    · rw [hfree]
      exact isUnsigned_toDigits _

namespace PlainValue

mutual

/-- The numbers in the value are whole, and below `2 ^ 53`. -/
def Whole : PlainValue → Prop
  | .number x => ∃ n : Int, x = .int n ∧ n.natAbs < 2 ^ 53
  | .array elements => WholeElements elements
  | .object properties => WholeProperties properties
  | _ => True

def WholeElements : List PlainValue → Prop
  | [] => True
  | v :: elements => v.Whole ∧ WholeElements elements

def WholeProperties : List (String × PlainValue) → Prop
  | [] => True
  | (_, v) :: properties => v.Whole ∧ WholeProperties properties

end

theorem whole_of_mem {v : PlainValue} {elements : List PlainValue} (h : WholeElements elements)
    (hv : v ∈ elements) : v.Whole := by
  induction elements with
  | nil => cases hv
  | cons w elements ih =>
    rcases List.mem_cons.mp hv with rfl | hmem
    · exact h.1
    · exact ih h.2 hmem

theorem whole_of_property {p : String × PlainValue} {properties : List (String × PlainValue)}
    (h : WholeProperties properties) (hp : p ∈ properties) : p.2.Whole := by
  induction properties with
  | nil => cases hp
  | cons q properties ih =>
    rcases List.mem_cons.mp hp with rfl | hmem
    · exact h.1
    · exact ih h.2 hmem

theorem whole_bytes (bs : Bytes) : WholeElements (bs.map fun b => .number (.int b.toNat)) := by
  induction bs with
  | nil => exact trivial
  | cons b bs ih =>
    refine ⟨⟨b.toNat, rfl, ?_⟩, ih⟩
    have hlt := b.toNat_lt
    omega

theorem whole_toJSON {v : PlainValue} (h : v.Whole) : v.toJSON.Whole := by
  cases v with
  | buffer bs => exact ⟨trivial, whole_bytes bs, trivial⟩
  | _ => exact h

end PlainValue

/-- What a loop that answers has made, it has made of an element. -/
theorem mem_of_mapM {α β : Type} {f : α → Except JsError β} {l : List α} {ys : List β}
    (h : l.mapM f = .ok ys) {y : β} (hy : y ∈ ys) : ∃ x ∈ l, f x = .ok y := by
  induction l generalizing ys with
  | nil =>
    cases h
    cases hy
  | cons x l ih =>
    rw [List.mapM_cons] at h
    obtain ⟨z, hz, h⟩ := bind_eq_ok h
    obtain ⟨zs, hzs, h⟩ := bind_eq_ok h
    cases h
    rcases List.mem_cons.mp hy with rfl | hy
    · exact ⟨x, List.mem_cons_self, hz⟩
    · obtain ⟨x', hx', hf⟩ := ih hzs hy
      exact ⟨x', List.mem_cons_of_mem _ hx', hf⟩

theorem wellFormedElements_of_forall {vs : List Json} (h : ∀ v ∈ vs, v.WellFormed) :
    WellFormedElements vs := by
  induction vs with
  | nil => exact trivial
  | cons v vs ih =>
    exact ⟨h v List.mem_cons_self, ih fun w hw => h w (List.mem_cons_of_mem _ hw)⟩

theorem wellFormedMembers_of_forall {ms : List (String × Json)} (h : ∀ m ∈ ms, m.2.WellFormed) :
    WellFormedMembers ms := by
  induction ms with
  | nil => exact trivial
  | cons m ms ih =>
    exact ⟨h m List.mem_cons_self, ih fun m' hm => h m' (List.mem_cons_of_mem _ hm)⟩

/-- **The tree of a value with whole numbers has a text that is JSON.** -/
theorem tree_wellFormed {stack : Nat} {v : PlainValue} {t : Json} (hv : v.Whole)
    (h : v.tree stack = .ok (some t)) : t.WellFormed := by
  induction stack generalizing v t with
  | zero => cases h
  | succ stack ih =>
    have hw := PlainValue.whole_toJSON hv
    unfold PlainValue.tree at h
    cases hjson : v.toJSON with
    | undefined =>
      rw [hjson] at h
      cases h
    | boolean b =>
      rw [hjson] at h
      cases h
      exact trivial
    | number x =>
      rw [hjson] at h hw
      obtain ⟨n, rfl, hn⟩ := hw
      cases h
      exact isNumber_int hn
    | bigint n =>
      rw [hjson] at h
      cases h
    | string s =>
      rw [hjson] at h
      cases h
      exact trivial
    | buffer bs =>
      rw [hjson] at h
      cases h
    | array elements =>
      rw [hjson] at h hw
      obtain ⟨trees, htrees, h⟩ := bind_eq_ok h
      cases h
      refine wellFormedElements_of_forall fun w hw' => ?_
      obtain ⟨tree, htree, rfl⟩ := List.mem_map.mp hw'
      obtain ⟨e, he, hf⟩ := mem_of_mapM htrees htree
      cases tree with
      | none => exact trivial
      | some w => exact ih (PlainValue.whole_of_mem hw he) hf
    | object properties =>
      rw [hjson] at h hw
      obtain ⟨trees, htrees, h⟩ := bind_eq_ok h
      cases h
      refine wellFormedMembers_of_forall fun m hm => ?_
      obtain ⟨tree, htree, hid⟩ := List.mem_filterMap.mp hm
      obtain rfl : tree = some m := hid
      obtain ⟨e, he, hf⟩ := mem_of_mapM htrees htree
      cases htree' : e.2.tree stack with
      | error err =>
        rw [htree'] at hf
        cases hf
      | ok tree =>
        rw [htree'] at hf
        cases tree with
        | none => cases hf
        | some w =>
          cases hf
          exact ih (PlainValue.whole_of_property hw he) htree'

/-! ## 3. When there is a tree -/

section Loop

variable {α β : Type} {f : α → Except JsError β} {P : α → Prop} {e : JsError}

/-- A loop whose steps throw the same throws it where a step does. -/
theorem mapM_cases {l : List α}
    (h : ∀ x ∈ l, (P x ∧ ∃ y, f x = .ok y) ∨ (¬ P x ∧ f x = .error e)) :
    ((∀ x ∈ l, P x) ∧ ∃ ys, l.mapM f = .ok ys) ∨ ((∃ x ∈ l, ¬ P x) ∧ l.mapM f = .error e) := by
  induction l with
  | nil => exact .inl ⟨fun x hx => absurd hx List.not_mem_nil, [], rfl⟩
  | cons x l ih =>
    rw [List.mapM_cons]
    rcases h x List.mem_cons_self with ⟨hx, y, hy⟩ | ⟨hx, hthrow⟩
    · rw [hy]
      rcases ih fun z hz => h z (List.mem_cons_of_mem x hz) with ⟨hl, ys, hys⟩ | ⟨⟨z, hz, hno⟩, hthrow⟩
      · refine .inl ⟨fun z hz => ?_, y :: ys, by rw [hys]; rfl⟩
        rcases List.mem_cons.mp hz with rfl | hz
        · exact hx
        · exact hl z hz
      · exact .inr ⟨⟨z, List.mem_cons_of_mem x hz, hno⟩, by rw [hthrow]; rfl⟩
    · exact .inr ⟨⟨x, List.mem_cons_self, hx⟩, by rw [hthrow]; rfl⟩

end Loop

namespace PlainValue

/-- `toJSON` makes no bigint and takes none away, and the calls go as deep. -/
theorem toJSON_spec (v : PlainValue) :
    (v.toJSON.NoBigint ↔ v.NoBigint) ∧ v.toJSON.depth = v.depth := by
  cases v with
  | buffer bs =>
    have hbytes := depth_bytes bs
    refine ⟨⟨fun _ => trivial, fun _ => ⟨trivial, noBigint_bytes bs, trivial⟩⟩, ?_⟩
    simp only [toJSON, depth, propertiesDepth, hbytes]
    rfl
  | _ => exact ⟨Iff.rfl, rfl⟩

/-- **A value has a tree exactly if there is no bigint in it**, on a stack that is deep enough; else
    a TypeError is thrown. -/
theorem tree_cases {v : PlainValue} {stack : Nat} (h : v.depth < stack) :
    (v.NoBigint ∧ ∃ t, v.tree stack = .ok t) ∨ (¬ v.NoBigint ∧ v.tree stack = .error .typeError) := by
  induction stack generalizing v with
  | zero => omega
  | succ stack ih =>
    obtain ⟨hno, hdepth⟩ := toJSON_spec v
    rw [← hno]
    rw [← hdepth] at h
    unfold tree
    cases hv : v.toJSON with
    | undefined => exact .inl ⟨trivial, _, rfl⟩
    | boolean b => exact .inl ⟨trivial, _, rfl⟩
    | number x =>
      refine .inl ⟨trivial, ?_⟩
      dsimp only
      split
      · exact ⟨_, rfl⟩
      · exact ⟨_, rfl⟩
    | bigint n => exact .inr ⟨fun hfalse => hfalse, rfl⟩
    | string s => exact .inl ⟨trivial, _, rfl⟩
    | buffer bs => exact .inl ⟨trivial, _, rfl⟩
    | array elements =>
      rw [hv] at h
      have hstep : ∀ w ∈ elements, (w.NoBigint ∧ ∃ t, w.tree stack = .ok t) ∨
          (¬ w.NoBigint ∧ w.tree stack = .error .typeError) := fun w hw =>
        ih (Nat.lt_of_le_of_lt (depth_le_of_mem hw) (Nat.succ_lt_succ_iff.mp h))
      show (NoBigintElements elements ∧ _) ∨ (¬ NoBigintElements elements ∧ _)
      dsimp only
      rw [noBigintElements_iff]
      rcases mapM_cases hstep with ⟨hall, ts, hts⟩ | ⟨⟨w, hw, hbig⟩, hthrow⟩
      · exact .inl ⟨hall, _, by rw [hts]; rfl⟩
      · exact .inr ⟨fun hall => hbig (hall w hw), by rw [hthrow]; rfl⟩
    | object properties =>
      rw [hv] at h
      have hstep : ∀ p ∈ properties,
          (p.2.NoBigint ∧ ∃ t, (tree stack p.2).map (Option.map fun t => (p.1, t)) = .ok t) ∨
          (¬ p.2.NoBigint ∧ (tree stack p.2).map (Option.map fun t => (p.1, t)) =
            .error .typeError) := by
        intro p hp
        have hlt := Nat.lt_of_le_of_lt (depth_le_of_property hp) (Nat.succ_lt_succ_iff.mp h)
        rcases ih hlt with ⟨hnone, t, ht⟩ | ⟨hbig, hthrow⟩
        · exact .inl ⟨hnone, _, by rw [ht]; rfl⟩
        · exact .inr ⟨hbig, by rw [hthrow]; rfl⟩
      show (NoBigintProperties properties ∧ _) ∨ (¬ NoBigintProperties properties ∧ _)
      dsimp only
      rw [noBigintProperties_iff]
      rcases mapM_cases hstep with ⟨hall, ts, hts⟩ | ⟨⟨p, hp, hbig⟩, hthrow⟩
      · exact .inl ⟨hall, _, by rw [hts]; rfl⟩
      · exact .inr ⟨fun hall => hbig (hall p hp), by rw [hthrow]; rfl⟩

end PlainValue

end Matternode.Js
