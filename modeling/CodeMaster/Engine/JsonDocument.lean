import CodeMaster.Lib.Json
import CodeMaster.Mcp.DoorTools

/-!
# `CodeMaster.Engine.JsonDocument`: the texts that `JsonDocument.Parse` accepts

A text is parsed with the default options: arrays and objects can be nested 64 times, and there are
no comments and no trailing commas.
-/

set_option autoImplicit false

namespace CodeMaster.Engine.JsonDocument

open CodeMaster.Mcp (JsonElement)

mutual

/-- A JSON value as the code reads it. -/
def element : Json → JsonElement
  | .null => .null
  | .bool value => .bool value
  | .number text => .number text
  | .string value => .string value
  | .array items => .array (elements items)
  | .object members => .object (properties members)

/-- The items of an array. -/
def elements : List Json → List JsonElement
  | [] => []
  | item :: items => element item :: elements items

/-- The members of an object, in their order. -/
def properties : List (String × Json) → List (String × JsonElement)
  | [] => []
  | (name, value) :: members => (name, element value) :: properties members

end

mutual

/-- How often arrays and objects are nested. -/
def depth : Json → Nat
  | .array items => depthOfItems items + 1
  | .object members => depthOfMembers members + 1
  | _ => 0

/-- The depth of the deepest item. -/
def depthOfItems : List Json → Nat
  | [] => 0
  | item :: items => max (depth item) (depthOfItems items)

/-- The depth of the deepest member. -/
def depthOfMembers : List (String × Json) → Nat
  | [] => 0
  | (_, value) :: members => max (depth value) (depthOfMembers members)

end

/-- The option `MaxDepth`. -/
def maxDepth : Nat := 64

/-- The root element. There is none for a `JsonException`. -/
def parse (text : String) : Option JsonElement :=
  ((Json.read text).filter fun v => depth v ≤ maxDepth).map element

/-- A document reads back the text of a legal value that is not too deep. -/
theorem parse_stringify {v : Json} (hlegal : v.isLegal = true) (hdepth : depth v ≤ maxDepth) :
    parse v.stringify = some (element v) := by
  rw [parse, Json.read_stringify hlegal, Option.filter_some, if_pos (decide_eq_true hdepth),
    Option.map_some]

end CodeMaster.Engine.JsonDocument
