/-
  File:      Matternode/Js/JsonParse.lean
  Subject:   JSON.parse, and the texts that it reads.

  A text is read into a tree in which a number is its literal. A tree is written with a gap, as
  JSON.stringify writes; with one the text goes over several lines.

  * `Json`, `Json.render` -- a tree, and its text with a gap;
  * `JSON.isNumber` -- the number literals of JSON;
  * `JSON.parse` -- the tree of a text, the bound on its loops is the length of the text;
  * `JSON.value_render`, `JSON.parse_render` -- **a rendering is read back**.
-/
import Matternode.Base.Script
import Matternode.Js.Json

namespace Matternode.Js

open Base

/-! ## 1. Trees -/

/-- What a JSON text says; a number is its literal, and a key may be there twice. -/
inductive Json where
  | null
  | boolean (b : Bool)
  | number (literal : String)
  | string (s : String)
  | array (elements : List Json)
  | object (members : List (String × Json))

namespace Json

/-- The line break of a text with a gap. -/
def newline (gap indent : List Char) : List Char := if gap = [] then [] else '\n' :: indent

/-- The colon of a text with a gap. -/
def colon (gap : List Char) : List Char := if gap = [] then [':'] else [':', ' ']

mutual

/-- The text of a tree whose lines begin with the indent. -/
def render (gap indent : List Char) : Json → List Char
  | .null => "null".toList
  | .boolean b => (if b then "true" else "false").toList
  | .number literal => literal.toList
  | .string s => (JSON.quote s).toList
  | .array [] => ['[', ']']
  | .array (v :: vs) =>
    '[' :: (renderElements gap (indent ++ gap) (v :: vs) ++ (newline gap indent ++ [']']))
  | .object [] => ['{', '}']
  | .object (m :: ms) =>
    '{' :: (renderMembers gap (indent ++ gap) (m :: ms) ++ (newline gap indent ++ ['}']))

def renderElements (gap indent : List Char) : List Json → List Char
  | [] => []
  | [v] => newline gap indent ++ v.render gap indent
  | v :: vs => newline gap indent ++ (v.render gap indent ++ ',' :: renderElements gap indent vs)

def renderMembers (gap indent : List Char) : List (String × Json) → List Char
  | [] => []
  | [(key, v)] =>
    newline gap indent ++ ((JSON.quote key).toList ++ (colon gap ++ v.render gap indent))
  | (key, v) :: ms =>
    newline gap indent ++ ((JSON.quote key).toList ++ (colon gap ++ (v.render gap indent ++
      ',' :: renderMembers gap indent ms)))

end

theorem renderElements_next (gap indent : List Char) (v v' : Json) (vs : List Json) :
    renderElements gap indent (v :: v' :: vs) =
      newline gap indent ++ (v.render gap indent ++ ',' :: renderElements gap indent (v' :: vs)) :=
  rfl

theorem renderMembers_next (gap indent : List Char) (key : String) (v : Json) (m : String × Json)
    (ms : List (String × Json)) :
    renderMembers gap indent ((key, v) :: m :: ms) =
      newline gap indent ++ ((JSON.quote key).toList ++ (colon gap ++ (v.render gap indent ++
        ',' :: renderMembers gap indent (m :: ms)))) :=
  rfl

mutual

/-- How many nodes there are. -/
def size : Json → Nat
  | .array elements => sizeElements elements + 1
  | .object members => sizeMembers members + 1
  | _ => 1

def sizeElements : List Json → Nat
  | [] => 0
  | v :: vs => v.size + sizeElements vs + 1

def sizeMembers : List (String × Json) → Nat
  | [] => 0
  | (_, v) :: ms => v.size + sizeMembers ms + 1

end

end Json

/-! ## 2. Reading -/

namespace JSON

def isSpace (c : Char) : Bool := c.toNat = 0x20 ∨ c.toNat = 0x09 ∨ c.toNat = 0x0A ∨ c.toNat = 0x0D

def skipSpace (cs : List Char) : List Char := cs.dropWhile isSpace

/-- The characters that number literals are made of. -/
def isNumberChar (c : Char) : Bool :=
  c.isDigit ∨ c = '+' ∨ c = '-' ∨ c = '.' ∨ c = 'e' ∨ c = 'E'

def isExponent : List Char → Bool
  | [] => true
  | c :: cs =>
    (c = 'e' ∨ c = 'E') ∧ (splitSign cs).2 ≠ [] ∧ (splitSign cs).2.all Char.isDigit

def isFraction : List Char → Bool
  | '.' :: cs => cs.takeWhile Char.isDigit ≠ [] ∧ isExponent (cs.dropWhile Char.isDigit)
  | cs => isExponent cs

/-- An integer without a sign: no digit follows a leading zero. -/
def isUnsigned (cs : List Char) : Bool :=
  let whole := cs.takeWhile Char.isDigit
  (whole = ['0'] ∨ (whole ≠ [] ∧ whole.head? ≠ some '0')) ∧ isFraction (cs.dropWhile Char.isDigit)

/-- A number literal of JSON. -/
def isNumber : List Char → Bool
  | '-' :: cs => isUnsigned cs
  | cs => isUnsigned cs

/-- The character after a backslash, as it stands alone there. -/
def escapeUnit (c : Char) : Option Nat :=
  if c.toNat = 0x22 ∨ c.toNat = 0x5C ∨ c.toNat = 0x2F then some c.toNat
  else if c = 'b' then some 0x08
  else if c = 't' then some 0x09
  else if c = 'n' then some 0x0A
  else if c = 'f' then some 0x0C
  else if c = 'r' then some 0x0D
  else none

def hexUnit (a b c d : Char) : Option Nat := do
  let a ← hexValue? a
  let b ← hexValue? b
  let c ← hexValue? c
  let d ← hexValue? d
  some (((a * 16 + b) * 16 + c) * 16 + d)

/-- The code units of a string up to its closing quotation mark, and what follows; a character that
    is no escape is one of them. -/
def stringUnits : List Char → Option (List Nat × List Char)
  | [] => none
  | c :: cs =>
    if c.toNat = 0x22 then some ([], cs)
    else if c.toNat = 0x5C then
      match cs with
      | 'u' :: a :: b :: c :: d :: cs => do
        let unit ← hexUnit a b c d
        let (units, rest) ← stringUnits cs
        some (unit :: units, rest)
      | e :: cs => do
        let unit ← escapeUnit e
        let (units, rest) ← stringUnits cs
        some (unit :: units, rest)
      | [] => none
    else if c.toNat < 0x20 then none
    else do
      let (units, rest) ← stringUnits cs
      some (c.toNat :: units, rest)

/-- A code unit alone. A surrogate has no character; everything here writes it as U+FFFD. -/
def ofUnit (u : Nat) : Char :=
  if 0xD800 ≤ u ∧ u < 0xE000 then replacement else Char.ofNat u

/-- The characters of code units: two surrogates are one. -/
def ofUnits : List Nat → List Char
  | [] => []
  | [u] => [ofUnit u]
  | u :: v :: units =>
    if (0xD800 ≤ u ∧ u < 0xDC00) ∧ (0xDC00 ≤ v ∧ v < 0xE000) then
      Char.ofNat (0x10000 + (u - 0xD800) * 0x400 + (v - 0xDC00)) :: ofUnits units
    else ofUnit u :: ofUnits (v :: units)

/-- `null`, `true`, `false` or a number. -/
def literal : List Char → Option (Json × List Char)
  | 'n' :: 'u' :: 'l' :: 'l' :: cs => some (.null, cs)
  | 't' :: 'r' :: 'u' :: 'e' :: cs => some (.boolean true, cs)
  | 'f' :: 'a' :: 'l' :: 's' :: 'e' :: cs => some (.boolean false, cs)
  | cs =>
    let number := cs.takeWhile isNumberChar
    if isNumber number then some (.number (String.ofList number), cs.dropWhile isNumberChar)
    else none

mutual

/-- A value at the start of a text, and what follows. -/
def value : Nat → List Char → Option (Json × List Char)
  | 0, _ => none
  | bound + 1, cs =>
    match skipSpace cs with
    | [] => none
    | c :: cs =>
      if c.toNat = 0x22 then do
        let (units, rest) ← stringUnits cs
        some (.string (String.ofList (ofUnits units)), rest)
      else if c = '[' then
        if (skipSpace cs).head? = some ']' then some (.array [], (skipSpace cs).tail)
        else do
          let (vs, rest) ← elements bound cs
          some (.array vs, rest)
      else if c = '{' then
        if (skipSpace cs).head? = some '}' then some (.object [], (skipSpace cs).tail)
        else do
          let (ms, rest) ← members bound cs
          some (.object ms, rest)
      else literal (c :: cs)

/-- The elements of an array up to its closing bracket. -/
def elements : Nat → List Char → Option (List Json × List Char)
  | 0, _ => none
  | bound + 1, cs => do
    let (v, rest) ← value bound cs
    match skipSpace rest with
    | ',' :: rest => do
      let (vs, rest) ← elements bound rest
      some (v :: vs, rest)
    | ']' :: rest => some ([v], rest)
    | _ => none

/-- The members of an object up to its closing brace. -/
def members : Nat → List Char → Option (List (String × Json) × List Char)
  | 0, _ => none
  | bound + 1, cs =>
    match skipSpace cs with
    | [] => none
    | c :: cs =>
      if c.toNat = 0x22 then do
        let (units, rest) ← stringUnits cs
        match skipSpace rest with
        | ':' :: rest => do
          let (v, rest) ← value bound rest
          let member := (String.ofList (ofUnits units), v)
          match skipSpace rest with
          | ',' :: rest => do
            let (ms, rest) ← members bound rest
            some (member :: ms, rest)
          | '}' :: rest => some ([member], rest)
          | _ => none
        | _ => none
      else none

end

/-- `JSON.parse(text)`, nothing where it throws a SyntaxError. -/
def parse (cs : List Char) : Option Json := do
  let (v, rest) ← value cs.length cs
  if skipSpace rest = [] then some v else none

/-! ## 3. Strings -/

/-- An escape is read as the character it was made of. -/
theorem stringUnits_quoteChar (c : Char) (cs : List Char) :
    stringUnits (quoteChar c ++ cs) =
      (stringUnits cs).map fun p => (c.toNat :: p.1, p.2) := by
  have hback : (Char.ofNat 0x5C).toNat = 0x5C := rfl
  have hplain (e : Char) (n : Nat) (he : escapeUnit e = some n) (hu : e ≠ 'u') :
      stringUnits (Char.ofNat 0x5C :: e :: cs) =
        (stringUnits cs).map fun p => (n :: p.1, p.2) := by
    rw [stringUnits.eq_def (_ :: e :: cs)]
    dsimp only
    rw [if_neg (by rw [hback]; decide), if_pos hback]
    split
    · rename_i heq
      exact absurd (List.cons.inj heq).1 hu
    · rename_i heq
      obtain ⟨rfl, rfl⟩ := List.cons.inj heq
      rw [he]
      cases stringUnits cs <;> rfl
    · rename_i heq
      cases heq
  unfold quoteChar
  dsimp only
  by_cases hquote : c.toNat = 0x22 ∨ c.toNat = 0x5C
  · rw [if_pos hquote]
    refine hplain c c.toNat ?_ ?_
    · unfold escapeUnit
      rw [if_pos (by omega)]
    · rintro rfl
      exact absurd hquote (by decide)
  rw [if_neg hquote]
  by_cases h : c.toNat = 0x08
  · rw [if_pos h, h]
    exact hplain 'b' 0x08 rfl (by decide)
  rw [if_neg h]
  by_cases h : c.toNat = 0x09
  · rw [if_pos h, h]
    exact hplain 't' 0x09 rfl (by decide)
  rw [if_neg h]
  by_cases h : c.toNat = 0x0A
  · rw [if_pos h, h]
    exact hplain 'n' 0x0A rfl (by decide)
  rw [if_neg h]
  by_cases h : c.toNat = 0x0C
  · rw [if_pos h, h]
    exact hplain 'f' 0x0C rfl (by decide)
  rw [if_neg h]
  by_cases h : c.toNat = 0x0D
  · rw [if_pos h, h]
    exact hplain 'r' 0x0D rfl (by decide)
  rw [if_neg h]
  by_cases h : c.toNat < 0x20
  · rw [if_pos h]
    have hunit : hexUnit '0' '0' (hexDigit (c.toNat / 16)) (hexDigit (c.toNat % 16)) =
        some c.toNat := by
      unfold hexUnit
      rw [hexValue?_hexDigit _ (by omega), hexValue?_hexDigit _ (by omega)]
      show some (((0 * 16 + 0) * 16 + c.toNat / 16) * 16 + c.toNat % 16) = some c.toNat
      congr 1
      omega
    show stringUnits (Char.ofNat 0x5C :: 'u' :: '0' :: '0' :: hexDigit (c.toNat / 16) ::
      hexDigit (c.toNat % 16) :: cs) = _
    rw [stringUnits, if_neg (by rw [hback]; decide), if_pos hback, hunit]
    cases stringUnits cs <;> rfl
  · rw [if_neg h]
    show stringUnits (c :: cs) = _
    rw [stringUnits.eq_def]
    dsimp only
    rw [if_neg (fun hc => hquote (.inl hc)), if_neg (fun hc => hquote (.inr hc)), if_neg h]
    cases stringUnits cs <;> rfl

theorem ofUnit_toNat (c : Char) : ofUnit c.toNat = c := by
  have hvalid := c.valid
  have hnot : ¬ (0xD800 ≤ c.toNat ∧ c.toNat < 0xE000) := by
    rcases hvalid with hlow | ⟨hhigh, -⟩
    · have hlow : c.toNat < 0xD800 := hlow
      omega
    · have hhigh : 0xDFFF < c.toNat := hhigh
      omega
  unfold ofUnit
  rw [if_neg hnot]
  exact Char.ofNat_toNat c

/-- No character is a surrogate. -/
theorem ofUnits_map (cs : List Char) : ofUnits (cs.map Char.toNat) = cs := by
  induction cs with
  | nil => rfl
  | cons c cs ih =>
    cases cs with
    | nil =>
      show [ofUnit c.toNat] = [c]
      rw [ofUnit_toNat]
    | cons d cs =>
      have hvalid := c.valid
      have hnot : ¬ (0xD800 ≤ c.toNat ∧ c.toNat < 0xDC00) := by
        rcases hvalid with hlow | ⟨hhigh, -⟩
        · have hlow : c.toNat < 0xD800 := hlow
          omega
        · have hhigh : 0xDFFF < c.toNat := hhigh
          omega
      show ofUnits (c.toNat :: d.toNat :: cs.map Char.toNat) = _
      unfold ofUnits
      rw [if_neg fun h => hnot h.1, ofUnit_toNat]
      exact congrArg (c :: ·) ih

/-- **A string is read back.** -/
theorem stringUnits_quote (s : String) (rest : List Char) :
    ∃ cs units, (quote s).toList ++ rest = Char.ofNat 0x22 :: cs ∧
      stringUnits cs = some (units, rest) ∧ String.ofList (ofUnits units) = s := by
  have hread (cs : List Char) : stringUnits (cs.flatMap quoteChar ++ Char.ofNat 0x22 :: rest) =
      some (cs.map Char.toNat, rest) := by
    induction cs with
    | nil =>
      show stringUnits (Char.ofNat 0x22 :: rest) = some ([], rest)
      rw [stringUnits.eq_def]
      exact if_pos rfl
    | cons c cs ih =>
      rw [List.flatMap_cons, List.append_assoc, stringUnits_quoteChar, ih]
      rfl
  refine ⟨s.toList.flatMap quoteChar ++ Char.ofNat 0x22 :: rest, s.toList.map Char.toNat, ?_,
    hread s.toList, ?_⟩
  · unfold quote
    rw [String.toList_ofList]
    show _ :: (s.toList.flatMap quoteChar ++ [Char.ofNat 0x22] ++ rest) = _
    rw [List.append_assoc]
    rfl
  · rw [ofUnits_map, String.ofList_toList]

/-! ## 4. Numbers -/

/-- A literal is one of JSON's, and so a text may not go on with it. -/
def Ends (cs : List Char) : Prop := ∀ c ∈ cs.head?, isNumberChar c = false

theorem isNumberChar_digit {c : Char} (h : c.isDigit = true) : isNumberChar c = true := by
  unfold isNumberChar
  simp only [h, true_or, decide_true]

theorem all_digits_append {cs : List Char}
    (h : (cs.dropWhile Char.isDigit).all isNumberChar = true) : cs.all isNumberChar = true := by
  rw [← List.takeWhile_append_dropWhile (p := Char.isDigit) (l := cs), List.all_append, h,
    Bool.and_true]
  have hdigits : (cs.takeWhile Char.isDigit).all Char.isDigit = true := List.all_takeWhile
  rw [List.all_eq_true] at hdigits ⊢
  exact fun c hc => isNumberChar_digit (hdigits c hc)

theorem all_of_isExponent {cs : List Char} (h : isExponent cs = true) :
    cs.all isNumberChar = true := by
  cases cs with
  | nil => rfl
  | cons c cs =>
    unfold isExponent at h
    obtain ⟨hc, -, hdigits⟩ := of_decide_eq_true h
    have hhead : isNumberChar c = true := by
      rcases hc with rfl | rfl <;> rfl
    have htail : (splitSign cs).2.all isNumberChar = true := by
      rw [List.all_eq_true] at hdigits ⊢
      exact fun d hd => isNumberChar_digit (hdigits d hd)
    rw [List.all_cons, hhead, Bool.true_and]
    unfold splitSign at htail
    split at htail
    · exact htail
    · exact htail
    · exact htail

theorem all_of_isFraction {cs : List Char} (h : isFraction cs = true) :
    cs.all isNumberChar = true := by
  unfold isFraction at h
  split at h
  · obtain ⟨-, hexponent⟩ := of_decide_eq_true h
    rw [List.all_cons, all_digits_append (all_of_isExponent hexponent)]
    rfl
  · exact all_of_isExponent h

theorem all_of_isUnsigned {cs : List Char} (h : isUnsigned cs = true) :
    cs.all isNumberChar = true :=
  all_digits_append (all_of_isFraction (of_decide_eq_true h).2)

theorem all_of_isNumber {cs : List Char} (h : isNumber cs = true) : cs.all isNumberChar = true := by
  unfold isNumber at h
  split at h
  · rw [List.all_cons, all_of_isUnsigned h]
    rfl
  · exact all_of_isUnsigned h

/-- A literal begins with a sign or a digit. -/
theorem head_of_isNumber {cs : List Char} (h : isNumber cs = true) :
    ∃ c ds, cs = c :: ds ∧ (c = '-' ∨ c.isDigit = true) := by
  unfold isNumber at h
  split at h
  · exact ⟨_, _, rfl, .inl rfl⟩
  · obtain ⟨hwhole, -⟩ := of_decide_eq_true h
    cases cs with
    | nil =>
      rcases hwhole with hnil | ⟨hnil, -⟩
      · cases hnil
      · exact absurd rfl hnil
    | cons c ds =>
      refine ⟨c, ds, rfl, .inr ?_⟩
      by_contra hc
      rw [List.takeWhile_cons_of_neg hc] at hwhole
      rcases hwhole with hnil | ⟨hnil, -⟩
      · cases hnil
      · exact hnil rfl

/-- **A number is read back.** -/
theorem literal_number {cs rest : List Char} (h : isNumber cs = true) (hrest : Ends rest) :
    literal (cs ++ rest) = some (.number (String.ofList cs), rest) := by
  have htake : (cs ++ rest).takeWhile isNumberChar = cs := by
    rw [List.takeWhile_append_of_pos (List.all_eq_true.mp (all_of_isNumber h))]
    cases rest with
    | nil => rw [List.takeWhile_nil, List.append_nil]
    | cons c rest =>
      rw [List.takeWhile_cons_of_neg (by rw [hrest c rfl]; exact Bool.false_ne_true),
        List.append_nil]
  have hdrop : (cs ++ rest).dropWhile isNumberChar = rest := by
    rw [List.dropWhile_append_of_pos (List.all_eq_true.mp (all_of_isNumber h))]
    cases rest with
    | nil => rfl
    | cons c rest =>
      rw [List.dropWhile_cons_of_neg (by rw [hrest c rfl]; exact Bool.false_ne_true)]
  obtain ⟨c, ds, rfl, hc⟩ := head_of_isNumber h
  have hn : c ≠ 'n' ∧ c ≠ 't' ∧ c ≠ 'f' := by
    rcases hc with rfl | hdigit
    · decide
    · refine ⟨?_, ?_, ?_⟩ <;> rintro rfl <;> exact absurd hdigit (by decide)
  unfold literal
  split
  · rename_i heq
    exact absurd (List.cons.inj heq).1 hn.1
  · rename_i heq
    exact absurd (List.cons.inj heq).1 hn.2.1
  · rename_i heq
    exact absurd (List.cons.inj heq).1 hn.2.2
  · dsimp only
    rw [htake, if_pos h, hdrop]

/-! ## 5. Values -/

end JSON

mutual

/-- The numbers of the tree are literals of JSON. -/
def Json.WellFormed : Json → Prop
  | .number literal => JSON.isNumber literal.toList = true
  | .array elements => WellFormedElements elements
  | .object members => WellFormedMembers members
  | _ => True

def WellFormedElements : List Json → Prop
  | [] => True
  | v :: vs => v.WellFormed ∧ WellFormedElements vs

def WellFormedMembers : List (String × Json) → Prop
  | [] => True
  | (_, v) :: ms => v.WellFormed ∧ WellFormedMembers ms

end

namespace JSON

/-- All of it is white space. -/
def IsBlank (w : List Char) : Prop := ∀ c ∈ w, isSpace c = true

theorem IsBlank.append {w w' : List Char} (h : IsBlank w) (h' : IsBlank w') : IsBlank (w ++ w') := by
  intro c hc
  rcases List.mem_append.mp hc with hc | hc
  · exact h c hc
  · exact h' c hc

theorem isBlank_newline (gap : List Char) {indent : List Char} (h : IsBlank indent) :
    IsBlank (Json.newline gap indent) := by
  unfold Json.newline
  split
  · exact fun c hc => absurd hc List.not_mem_nil
  · intro c hc
    rcases List.mem_cons.mp hc with rfl | hc
    · rfl
    · exact h c hc

/-- White space is skipped, up to a character that is none. -/
theorem skipSpace_blank {w : List Char} (hw : IsBlank w) {c : Char} (hc : isSpace c = false)
    (cs : List Char) : skipSpace (w ++ c :: cs) = c :: cs := by
  unfold skipSpace
  rw [List.dropWhile_append_of_pos hw, List.dropWhile_cons_of_neg (by rw [hc]; decide)]

theorem skipSpace_cons {c : Char} (hc : isSpace c = false) (cs : List Char) :
    skipSpace (c :: cs) = c :: cs :=
  skipSpace_blank (w := []) (fun _ h => absurd h List.not_mem_nil) hc cs

/-- A colon, and white space after it. -/
theorem colon_eq (gap : List Char) : ∃ w, IsBlank w ∧ Json.colon gap = ':' :: w := by
  unfold Json.colon
  split
  · exact ⟨[], fun c hc => absurd hc List.not_mem_nil, rfl⟩
  · refine ⟨[' '], ?_, rfl⟩
    intro c hc
    rw [List.mem_singleton.mp hc]
    rfl

theorem isNumberChar_of_isSpace {c : Char} (h : isSpace c = true) : isNumberChar c = false := by
  have hspace : c.toNat = 0x20 ∨ c.toNat = 0x09 ∨ c.toNat = 0x0A ∨ c.toNat = 0x0D :=
    of_decide_eq_true h
  have hchar : ∀ n, c.toNat = n → c = Char.ofNat n := by
    rintro n rfl
    exact (Char.ofNat_toNat c).symm
  rcases hspace with h | h | h | h <;> rw [hchar _ h] <;> rfl

/-- White space and what is no part of a number end one. -/
theorem ends_blank {w : List Char} (hw : IsBlank w) {c : Char} (hc : isNumberChar c = false)
    (cs : List Char) : Ends (w ++ c :: cs) := by
  intro d hd
  cases w with
  | nil =>
    cases hd
    exact hc
  | cons e w =>
    cases hd
    exact isNumberChar_of_isSpace (hw _ List.mem_cons_self)

theorem isSpace_of_digit {c : Char} (h : c = '-' ∨ c.isDigit = true) : isSpace c = false := by
  rw [← Bool.not_eq_true]
  intro hspace
  have hnot := isNumberChar_of_isSpace hspace
  rcases h with rfl | hdigit
  · cases hnot
  · rw [isNumberChar_digit hdigit] at hnot
    cases hnot

/-- A value does not begin with white space, nor as an array ends. -/
theorem render_head (gap indent : List Char) {v : Json} (hv : v.WellFormed) :
    ∃ c cs, v.render gap indent = c :: cs ∧ isSpace c = false ∧ c ≠ ']' := by
  cases v with
  | null => exact ⟨'n', _, rfl, rfl, by decide⟩
  | boolean b =>
    cases b
    · exact ⟨'f', _, rfl, rfl, by decide⟩
    · exact ⟨'t', _, rfl, rfl, by decide⟩
  | number literal =>
    obtain ⟨c, ds, hcs, hc⟩ := head_of_isNumber hv
    refine ⟨c, ds, hcs, isSpace_of_digit hc, ?_⟩
    rintro rfl
    rcases hc with hc | hc
    · exact absurd hc (by decide)
    · exact absurd hc (by decide)
  | string s =>
    obtain ⟨cs, units, hcs, -, -⟩ := stringUnits_quote s []
    rw [List.append_nil] at hcs
    exact ⟨_, cs, hcs, rfl, by decide⟩
  | array vs =>
    cases vs with
    | nil => exact ⟨'[', _, rfl, rfl, by decide⟩
    | cons v vs => exact ⟨'[', _, rfl, rfl, by decide⟩
  | object ms =>
    cases ms with
    | nil => exact ⟨'{', _, rfl, rfl, by decide⟩
    | cons m ms => exact ⟨'{', _, rfl, rfl, by decide⟩

mutual

/-- **A rendering is read back**, whatever white space stands before it. -/
theorem value_render {gap : List Char} (hgap : IsBlank gap) : (v : Json) → v.WellFormed →
    ∀ (indent w rest : List Char) (bound : Nat), IsBlank indent → IsBlank w → Ends rest →
    v.size ≤ bound →
    value bound (w ++ (v.render gap indent ++ rest)) = some (v, rest)
  | .null, _, indent, w, rest, bound, _, hw, _, hb => by
    cases bound with
    | zero => exact absurd hb (Nat.not_succ_le_zero _)
    | succ bound =>
      unfold value
      rw [show w ++ (Json.null.render gap indent ++ rest) = w ++ 'n' :: ("ull".toList ++ rest) from rfl,
        skipSpace_blank hw rfl]
      rfl
  | .boolean b, _, indent, w, rest, bound, _, hw, _, hb => by
    cases bound with
    | zero => exact absurd hb (Nat.not_succ_le_zero _)
    | succ bound =>
      unfold value
      cases b with
      | false =>
        rw [show w ++ ((Json.boolean false).render gap indent ++ rest) =
          w ++ 'f' :: ("alse".toList ++ rest) from rfl, skipSpace_blank hw rfl]
        rfl
      | true =>
        rw [show w ++ ((Json.boolean true).render gap indent ++ rest) =
          w ++ 't' :: ("rue".toList ++ rest) from rfl, skipSpace_blank hw rfl]
        rfl
  | .number text, hv, indent, w, rest, bound, _, hw, hrest, hb => by
    cases bound with
    | zero => exact absurd hb (Nat.not_succ_le_zero _)
    | succ bound =>
      have hliteral := literal_number hv hrest
      obtain ⟨c, ds, hcs, hc⟩ := head_of_isNumber hv
      have hrender : (Json.number text).render gap indent = c :: ds := hcs
      rw [hcs, List.cons_append] at hliteral
      have hne : c.toNat ≠ 0x22 ∧ c ≠ '[' ∧ c ≠ '{' := by
        rcases hc with rfl | hdigit
        · decide
        · refine ⟨?_, ?_, ?_⟩
          · intro hquote
            rw [← Char.ofNat_toNat c, hquote] at hdigit
            cases hdigit
          · rintro rfl
            cases hdigit
          · rintro rfl
            cases hdigit
      unfold value
      rw [hrender, List.cons_append, skipSpace_blank hw (isSpace_of_digit hc)]
      dsimp only
      rw [if_neg hne.1, if_neg hne.2.1, if_neg hne.2.2, hliteral, ← hcs, String.ofList_toList]
  | .string s, _, indent, w, rest, bound, _, hw, _, hb => by
    cases bound with
    | zero => exact absurd hb (Nat.not_succ_le_zero _)
    | succ bound =>
      obtain ⟨cs, units, hcs, hunits, hs⟩ := stringUnits_quote s rest
      unfold value
      rw [show (Json.string s).render gap indent = (quote s).toList from rfl, hcs,
        skipSpace_blank hw rfl]
      dsimp only
      rw [if_pos (show (Char.ofNat 0x22).toNat = 0x22 from rfl), hunits]
      show some (Json.string (String.ofList (ofUnits units)), rest) = _
      rw [hs]
  | .array [], _, indent, w, rest, bound, _, hw, _, hb => by
    cases bound with
    | zero => exact absurd hb (Nat.not_succ_le_zero _)
    | succ bound =>
      unfold value
      rw [show w ++ ((Json.array []).render gap indent ++ rest) = w ++ '[' :: ']' :: rest from rfl,
        skipSpace_blank hw rfl]
      rfl
  | .array (v :: vs), hv, indent, w, rest, bound, hindent, hw, _, hb => by
    cases bound with
    | zero => exact absurd hb (Nat.not_succ_le_zero _)
    | succ bound =>
      have hread := elements_render hgap (v :: vs) (List.cons_ne_nil v vs) hv _ _ rest _
        (hindent.append hgap) (isBlank_newline gap hindent) (Nat.le_of_succ_le_succ hb)
      obtain ⟨c, cs, hcs, hc, hne⟩ := render_head gap (indent ++ gap) hv.1
      obtain ⟨tail, htail⟩ : ∃ tail, Json.renderElements gap (indent ++ gap) (v :: vs) =
          Json.newline gap (indent ++ gap) ++ c :: tail := by
        cases vs with
        | nil => exact ⟨cs, by rw [Json.renderElements, hcs]⟩
        | cons v' vs => exact ⟨_, by rw [Json.renderElements_next, hcs, List.cons_append]⟩
      unfold value
      rw [Json.render, List.cons_append, skipSpace_blank hw rfl]
      dsimp only
      rw [if_neg (by decide), if_pos rfl]
      have hhead : (skipSpace (Json.renderElements gap (indent ++ gap) (v :: vs) ++
          (Json.newline gap indent ++ [']']) ++ rest)).head? ≠ some ']' := by
        rw [htail, List.append_assoc, List.append_assoc, List.cons_append,
          skipSpace_blank (isBlank_newline gap (hindent.append hgap)) hc]
        exact fun h => hne (Option.some.inj h)
      rw [if_neg hhead, List.append_assoc, List.append_assoc, List.singleton_append, hread]
      rfl
  | .object [], _, indent, w, rest, bound, _, hw, _, hb => by
    cases bound with
    | zero => exact absurd hb (Nat.not_succ_le_zero _)
    | succ bound =>
      unfold value
      rw [show w ++ ((Json.object []).render gap indent ++ rest) = w ++ '{' :: '}' :: rest from rfl,
        skipSpace_blank hw rfl]
      rfl
  | .object (m :: ms), hv, indent, w, rest, bound, hindent, hw, _, hb => by
    cases bound with
    | zero => exact absurd hb (Nat.not_succ_le_zero _)
    | succ bound =>
      have hread := members_render hgap (m :: ms) (List.cons_ne_nil m ms) hv _ _ rest _
        (hindent.append hgap) (isBlank_newline gap hindent) (Nat.le_of_succ_le_succ hb)
      obtain ⟨tail, htail⟩ : ∃ tail, Json.renderMembers gap (indent ++ gap) (m :: ms) =
          Json.newline gap (indent ++ gap) ++ Char.ofNat 0x22 :: tail := by
        obtain ⟨key, v⟩ := m
        obtain ⟨cs, units, hcs, -, -⟩ := stringUnits_quote key []
        rw [List.append_nil] at hcs
        cases ms with
        | nil => exact ⟨_, by rw [Json.renderMembers, hcs, List.cons_append]⟩
        | cons m' ms => exact ⟨_, by rw [Json.renderMembers_next, hcs, List.cons_append]⟩
      unfold value
      rw [Json.render, List.cons_append, skipSpace_blank hw rfl]
      dsimp only
      rw [if_neg (by decide), if_neg (by decide), if_pos rfl]
      have hhead : (skipSpace (Json.renderMembers gap (indent ++ gap) (m :: ms) ++
          (Json.newline gap indent ++ ['}']) ++ rest)).head? ≠ some '}' := by
        rw [htail, List.append_assoc, List.append_assoc, List.cons_append,
          skipSpace_blank (isBlank_newline gap (hindent.append hgap)) rfl]
        exact fun h => absurd (Option.some.inj h) (by decide)
      rw [if_neg hhead, List.append_assoc, List.append_assoc, List.singleton_append, hread]
      rfl

theorem elements_render {gap : List Char} (hgap : IsBlank gap) : (vs : List Json) → vs ≠ [] →
    WellFormedElements vs → ∀ (indent w rest : List Char) (bound : Nat), IsBlank indent → IsBlank w →
    Json.sizeElements vs ≤ bound →
    elements bound (Json.renderElements gap indent vs ++ (w ++ ']' :: rest)) = some (vs, rest)
  | [], hne, _, _, _, _, _, _, _, _ => absurd rfl hne
  | [v], _, hv, indent, w, rest, bound, hindent, hw, hb => by
    cases bound with
    | zero => exact absurd hb (Nat.not_succ_le_zero _)
    | succ bound =>
      have hread := value_render hgap v hv.1 _ _ _ _ hindent (isBlank_newline gap hindent)
        (ends_blank hw (c := ']') rfl rest) (Nat.le_of_succ_le_succ hb)
      unfold elements
      rw [Json.renderElements, List.append_assoc, hread]
      simp only [Option.bind_eq_bind, Option.bind_some, skipSpace_blank hw (c := ']') rfl]
  | v :: v' :: vs, _, hv, indent, w, rest, bound, hindent, hw, hb => by
    cases bound with
    | zero => exact absurd hb (Nat.not_succ_le_zero _)
    | succ bound =>
      have hb' : v.size + Json.sizeElements (v' :: vs) ≤ bound := Nat.le_of_succ_le_succ hb
      let more := Json.renderElements gap indent (v' :: vs) ++ (w ++ ']' :: rest)
      have hread := value_render hgap v hv.1 _ _ (',' :: more) bound hindent
        (isBlank_newline gap hindent)
        (ends_blank (w := []) (fun c hc => absurd hc List.not_mem_nil) rfl _) (by omega)
      have hmore := elements_render hgap (v' :: vs) (List.cons_ne_nil v' vs) hv.2 indent w rest bound
        hindent hw (by omega)
      unfold elements
      rw [Json.renderElements_next, List.append_assoc, List.append_assoc, List.cons_append, hread]
      show (elements bound _ >>= fun p => _) = _
      rw [hmore]
      rfl

theorem members_render {gap : List Char} (hgap : IsBlank gap) : (ms : List (String × Json)) →
    ms ≠ [] → WellFormedMembers ms → ∀ (indent w rest : List Char) (bound : Nat), IsBlank indent → IsBlank w →
    Json.sizeMembers ms ≤ bound →
    members bound (Json.renderMembers gap indent ms ++ (w ++ '}' :: rest)) = some (ms, rest)
  | [], hne, _, _, _, _, _, _, _, _ => absurd rfl hne
  | [(key, v)], _, hv, indent, w, rest, bound, hindent, hw, hb => by
    cases bound with
    | zero => exact absurd hb (Nat.not_succ_le_zero _)
    | succ bound =>
      obtain ⟨w', hw', hcolon⟩ := colon_eq gap
      obtain ⟨cs, units, hcs, hunits, hkey⟩ := stringUnits_quote key
        (':' :: (w' ++ (v.render gap indent ++ (w ++ '}' :: rest))))
      have hread := value_render hgap v hv.1 _ _ _ _ hindent hw' (ends_blank hw (c := '}') rfl rest)
        (Nat.le_of_succ_le_succ hb)
      unfold members
      simp only [Json.renderMembers, hcolon, List.append_assoc, List.cons_append]
      rw [hcs, skipSpace_blank (isBlank_newline gap hindent) rfl]
      dsimp only
      rw [if_pos (show (Char.ofNat 0x22).toNat = 0x22 from rfl), hunits]
      simp only [Option.bind_eq_bind, Option.bind_some, skipSpace_cons (c := ':') rfl, hread,
        skipSpace_blank hw (c := '}') rfl, hkey]
  | (key, v) :: m' :: ms, _, hv, indent, w, rest, bound, hindent, hw, hb => by
    cases bound with
    | zero => exact absurd hb (Nat.not_succ_le_zero _)
    | succ bound =>
      have hb' : v.size + Json.sizeMembers (m' :: ms) ≤ bound := Nat.le_of_succ_le_succ hb
      obtain ⟨w', hw', hcolon⟩ := colon_eq gap
      let more := Json.renderMembers gap indent (m' :: ms) ++ (w ++ '}' :: rest)
      obtain ⟨cs, units, hcs, hunits, hkey⟩ := stringUnits_quote key
        (':' :: (w' ++ (v.render gap indent ++ ',' :: more)))
      have hread := value_render hgap v hv.1 _ _ (',' :: more) bound hindent hw'
        (ends_blank (w := []) (fun c hc => absurd hc List.not_mem_nil) rfl _) (by omega)
      have hmore := members_render hgap (m' :: ms) (List.cons_ne_nil m' ms) hv.2 indent w rest bound
        hindent hw (by omega)
      unfold members
      simp only [Json.renderMembers_next, hcolon, List.append_assoc, List.cons_append]
      rw [hcs, skipSpace_blank (isBlank_newline gap hindent) rfl]
      dsimp only
      rw [if_pos (show (Char.ofNat 0x22).toNat = 0x22 from rfl), hunits]
      simp only [Option.bind_eq_bind, Option.bind_some, skipSpace_cons (c := ':') rfl, hread,
        skipSpace_cons (c := ',') rfl, more, hmore, hkey]

end

mutual

/-- A node takes a character at least. -/
theorem size_le_length (gap : List Char) : (v : Json) → v.WellFormed → ∀ indent,
    v.size ≤ (v.render gap indent).length
  | .null, _, _ => (by decide : 1 ≤ 4)
  | .boolean true, _, _ => (by decide : 1 ≤ 4)
  | .boolean false, _, _ => (by decide : 1 ≤ 5)
  | .number text, hv, _ => by
    obtain ⟨c, ds, hcs, -⟩ := head_of_isNumber hv
    show 1 ≤ text.toList.length
    rw [hcs]
    exact Nat.succ_le_succ (Nat.zero_le _)
  | .string s, _, _ => by
    obtain ⟨cs, units, hcs, -, -⟩ := stringUnits_quote s []
    rw [List.append_nil] at hcs
    show 1 ≤ (quote s).toList.length
    rw [hcs]
    exact Nat.succ_le_succ (Nat.zero_le _)
  | .array [], _, _ => (by decide : 1 ≤ 2)
  | .array (v :: vs), hv, indent => by
    have hle := sizeElements_le_length gap (v :: vs) (List.cons_ne_nil v vs) hv (indent ++ gap)
    rw [Json.render]
    simp only [Json.size, List.length_cons, List.length_append, List.length_nil]
    omega
  | .object [], _, _ => (by decide : 1 ≤ 2)
  | .object (m :: ms), hv, indent => by
    have hle := sizeMembers_le_length gap (m :: ms) (List.cons_ne_nil m ms) hv (indent ++ gap)
    rw [Json.render]
    simp only [Json.size, List.length_cons, List.length_append, List.length_nil]
    omega

theorem sizeElements_le_length (gap : List Char) : (vs : List Json) → vs ≠ [] →
    WellFormedElements vs → ∀ indent,
    Json.sizeElements vs ≤ (Json.renderElements gap indent vs).length + 1
  | [], hne, _, _ => absurd rfl hne
  | [v], _, hv, indent => by
    have hle := size_le_length gap v hv.1 indent
    simp only [Json.renderElements, Json.sizeElements, List.length_append]
    omega
  | v :: v' :: vs, _, hv, indent => by
    have hle := size_le_length gap v hv.1 indent
    have hmore := sizeElements_le_length gap (v' :: vs) (List.cons_ne_nil v' vs) hv.2 indent
    rw [Json.renderElements_next]
    simp only [List.length_append, List.length_cons]
    show v.size + Json.sizeElements (v' :: vs) + 1 ≤ _
    omega

theorem sizeMembers_le_length (gap : List Char) : (ms : List (String × Json)) → ms ≠ [] →
    WellFormedMembers ms → ∀ indent,
    Json.sizeMembers ms ≤ (Json.renderMembers gap indent ms).length + 1
  | [], hne, _, _ => absurd rfl hne
  | [(key, v)], _, hv, indent => by
    have hle := size_le_length gap v hv.1 indent
    simp only [Json.renderMembers, Json.sizeMembers, List.length_append]
    omega
  | (key, v) :: m' :: ms, _, hv, indent => by
    have hle := size_le_length gap v hv.1 indent
    have hmore := sizeMembers_le_length gap (m' :: ms) (List.cons_ne_nil m' ms) hv.2 indent
    rw [Json.renderMembers_next]
    simp only [List.length_append, List.length_cons]
    show v.size + Json.sizeMembers (m' :: ms) + 1 ≤ _
    omega

end

/-- **The text of a tree is read as the tree.** -/
theorem parse_render {gap : List Char} (hgap : IsBlank gap) {v : Json} (hv : v.WellFormed) :
    parse (v.render gap []) = some v := by
  have hblank : IsBlank [] := fun c hc => absurd hc List.not_mem_nil
  have hread := value_render hgap v hv [] [] [] _ hblank hblank
    (fun c hc => by cases hc) (size_le_length gap v hv [])
  rw [List.nil_append, List.append_nil] at hread
  unfold parse
  rw [hread]
  rfl

end JSON

end Matternode.Js
