/-! # JSON values and their written form

A JSON value whose objects keep their members in order, and its text: two spaces for each level, one
member or element on a line, and no line break inside an empty array or object.
-/

namespace DdlTree

/-- A JSON value. Numbers are natural, since no other number is ever written. -/
inductive Json where
  | null
  | bool (value : Bool)
  | number (value : Nat)
  | string (value : String)
  | array (items : List Json)
  | object (members : List (String × Json))
  deriving Repr

namespace Json

/-- How one character is written inside a JSON string. Only the quote, the backslash and the control
    characters below U+0020 are escaped. -/
def escapedChar (c : Char) : List Char :=
  if c = '"' then ['\\', '"']
  else if c = '\\' then ['\\', '\\']
  else if c = '\x08' then ['\\', 'b']
  else if c = '\x0c' then ['\\', 'f']
  else if c = '\n' then ['\\', 'n']
  else if c = '\r' then ['\\', 'r']
  else if c = '\t' then ['\\', 't']
  else if c.toNat < 0x20 then
    ['\\', 'u', '0', '0', Nat.digitChar (c.toNat / 16), Nat.digitChar (c.toNat % 16)]
  else [c]

/-- A JSON string literal. -/
def literal (text : String) : String :=
  String.ofList ('"' :: (text.toList.flatMap escapedChar ++ ['"']))

/-- The start of a line at a nesting level. -/
def margin (level : Nat) : String :=
  String.ofList (List.replicate (2 * level) ' ')

mutual

/-- The text of a value that starts on a line of the given level. -/
def renderAt (level : Nat) : Json → String
  | .null => "null"
  | .bool value => if value then "true" else "false"
  | .number value => toString value
  | .string value => literal value
  | .array [] => "[]"
  | .array items => "[\n" ++ renderItems (level + 1) items ++ "\n" ++ margin level ++ "]"
  | .object [] => "\x7b\x7d"
  | .object members =>
      "\x7b\n" ++ renderMembers (level + 1) members ++ "\n" ++ margin level ++ "\x7d"

/-- The elements of an array, one after another on lines of the given level. -/
def renderItems (level : Nat) : List Json → String
  | [] => ""
  | [item] => margin level ++ renderAt level item
  | item :: rest => margin level ++ renderAt level item ++ ",\n" ++ renderItems level rest

/-- The members of an object, one after another on lines of the given level. -/
def renderMembers (level : Nat) : List (String × Json) → String
  | [] => ""
  | [(name, value)] => margin level ++ literal name ++ ": " ++ renderAt level value
  | (name, value) :: rest =>
      margin level ++ literal name ++ ": " ++ renderAt level value ++ ",\n"
        ++ renderMembers level rest

end

def render (value : Json) : String :=
  renderAt 0 value

end Json

end DdlTree
