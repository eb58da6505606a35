/-
  File:      Matternode/Tlv/Parser.lean
  Subject:   TlvParser: entries named by their tags, and found by name.

  * `mapFields` -- names the entries of an array whose tags a map has; tag 0 is no tag to it;
  * `get` -- the value of the first entry with a name.
-/
import Matternode.Tlv.Reader

namespace Matternode.Tlv.Parser

open Js

/-- A map from tags to names. -/
abbrev TagNames := List (Int × String)

def nameOf (tagNames : TagNames) (tag : Int) : Option String :=
  (tagNames.find? (·.1 = tag)).map (·.2)

/-- The loop's body: an entry takes the name of its tag. -/
def nameField (tagNames : TagNames) (entry : DeterministicJson) : DeterministicJson :=
  match entry.tag with
  | none => entry
  | some tag =>
    if tag = 0 then entry
    else match nameOf tagNames tag with
      | none => entry
      | some name => { entry with tagName := some name }

/-- `mapFields(tlvJson, tagNameMap)`. The elements of a buffer are numbers, which have no tag;
    other values have no `forEach`. -/
def mapFields (tlvJson : JsValue) (tagNames : TagNames) : Except JsError JsValue :=
  match tlvJson with
  | .array entries => .ok (.array (entries.map (nameField tagNames)))
  | .buffer bs => .ok (.buffer bs)
  | _ => .error .typeError

/-- `get(tlvJson, tagName)`. -/
def get (tlvJson : JsValue) (tagName : String) : Except JsError JsValue :=
  match tlvJson with
  | .array entries =>
    .ok ((entries.find? (·.tagName = some tagName)).elim .undefined (·.value))
  | .buffer _ => .ok .undefined
  | _ => .error .typeError

end Matternode.Tlv.Parser
