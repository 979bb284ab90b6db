import Mathlib.Data.List.Sort

/-!
# JSON

The JSON values of requests and responses, and their text under
`json.dumps(value, sort_keys=True)`, which is what the payload hash is computed from.
-/

namespace TicketCore

/-- A JSON value; an object keeps its fields in insertion order. -/
inductive Json
  | null
  | bool (value : Bool)
  | int (value : Int)
  | str (value : String)
  | arr (items : List Json)
  | obj (fields : List (String × Json))

/-- The fields of a JSON object. -/
abbrev JsonObject : Type := List (String × Json)

namespace Json

/-- `\uXXXX` for one UTF-16 code unit. -/
def unicodeEscape (unit : Nat) : String :=
  let digit := fun place => (unit / place % 16).digitChar
  "\\u" ++ String.ofList [digit 4096, digit 256, digit 16, digit 1]

/-- A character inside a string, with `ensure_ascii`: what is not printable ASCII is escaped, and
beyond the basic plane as a surrogate pair. -/
def escape (c : Char) : String :=
  if c = '"' then "\\\""
  else if c = '\\' then "\\\\"
  else if c = '\n' then "\\n"
  else if c = '\r' then "\\r"
  else if c = '\t' then "\\t"
  else if c = Char.ofNat 8 then "\\b"
  else if c = Char.ofNat 12 then "\\f"
  else if ' ' ≤ c ∧ c ≤ '~' then c.toString
  else if c.toNat < 0x10000 then unicodeEscape c.toNat
  else unicodeEscape (0xd800 + (c.toNat - 0x10000) / 0x400) ++
    unicodeEscape (0xdc00 + (c.toNat - 0x10000) % 0x400)

/-- A string literal. -/
def quote (s : String) : String :=
  "\"" ++ String.join (s.toList.map escape) ++ "\""

/-- Fields in the order of their keys. -/
def sortKeys (fields : List (String × String)) : List (String × String) :=
  fields.insertionSort fun a b => a.1 ≤ b.1

mutual

/-- `json.dumps(value, sort_keys=True)`. -/
def dumps : Json → String
  | .null => "null"
  | .bool value => if value then "true" else "false"
  | .int value => toString value
  | .str value => quote value
  | .arr items => "[" ++ ", ".intercalate (dumpsItems items) ++ "]"
  | .obj fields =>
      let members := (sortKeys (dumpsFields fields)).map fun field =>
        quote field.1 ++ ": " ++ field.2
      "\x7b" ++ ", ".intercalate members ++ "\x7d"

/-- The items of an array. -/
def dumpsItems : List Json → List String
  | [] => []
  | item :: items => dumps item :: dumpsItems items

/-- The values of an object, each under its key. -/
def dumpsFields : List (String × Json) → List (String × String)
  | [] => []
  | (key, value) :: fields => (key, dumps value) :: dumpsFields fields

end

example : dumps (.obj [("ticket", .obj [("ticket_type_id", .int 7)]), ("note", .str "a\"b")]) =
    "\x7b\"note\": \"a\\\"b\", \"ticket\": \x7b\"ticket_type_id\": 7\x7d\x7d" := by
  decide

end Json

end TicketCore
