/-
JSON values and how they are written.

* `Json` — a value; numbers and strings are kept as they stand in a text, a
  string as what lies between its quotes, so that a value shows each character
  of what was read;
* `Json.ofInt`, `Json.ofString` — the value for a number or a text;
* `Json.chars`, `Json.render` — the text of a value without any space;
* `Json.lines` — the text of a value with one member or item a line.

Design note: what a literal stands for is decided by whoever wants to know it
(`BranchPool.Json.Record`); a value that nobody looks at may hold a number of
any size, or half of a surrogate pair.
-/
import BranchPool.Decimal

namespace BranchPool

/-- A JSON value, its literals as written. -/
inductive Json where
  | null
  | bool (value : Bool)
  | number (literal : List Char)
  | string (literal : List Char)
  | array (items : List Json)
  | object (members : List (List Char × Json))

namespace Json

instance : Inhabited Json := ⟨.null⟩

/-! ### Values for numbers and texts -/

/-- How a character is written between quotes: quotes and backslashes behind a
backslash, control characters by their short name or their number, and all else
as it is. -/
def escapeChar (c : Char) : List Char :=
  if c = '"' then ['\\', '"']
  else if c = '\\' then ['\\', '\\']
  else if c = '\x08' then ['\\', 'b']
  else if c = '\x0c' then ['\\', 'f']
  else if c = '\n' then ['\\', 'n']
  else if c = '\r' then ['\\', 'r']
  else if c = '\t' then ['\\', 't']
  else if c.toNat < 32 then
    ['\\', 'u', '0', '0', Nat.digitChar (c.toNat / 16), Nat.digitChar (c.toNat % 16)]
  else [c]

/-- How a text is written between quotes. -/
def escape (cs : List Char) : List Char := cs.flatMap escapeChar

/-- The value for a text. -/
def ofString (s : String) : Json := .string (escape s.toList)

/-- The value for an integer. -/
def ofInt (i : Int) : Json := .number (Decimal.ofInt i)

/-- The value for a natural number. -/
def ofNat (n : Nat) : Json := .number (Decimal.ofNat n)

/-- The value for a record, its members in the given order. -/
def ofFields (fields : List (String × Json)) : Json :=
  .object (fields.map fun m => (escape m.1.toList, m.2))

/-! ### Without spaces -/

/-- A literal between quotes. -/
def quoted (literal : List Char) : List Char := '"' :: literal ++ ['"']

mutual

/-- The text of a value, without any space. -/
def chars : Json → List Char
  | .null => ['n', 'u', 'l', 'l']
  | .bool true => ['t', 'r', 'u', 'e']
  | .bool false => ['f', 'a', 'l', 's', 'e']
  | .number literal => literal
  | .string literal => quoted literal
  | .array items => '[' :: List.intercalate [','] (itemChars items) ++ [']']
  | .object members => '{' :: List.intercalate [','] (memberChars members) ++ ['}']

/-- The text of each item. -/
def itemChars : List Json → List (List Char)
  | [] => []
  | v :: vs => v.chars :: itemChars vs

/-- The text of each member. -/
def memberChars : List (List Char × Json) → List (List Char)
  | [] => []
  | (key, v) :: ms => (quoted key ++ ':' :: v.chars) :: memberChars ms

end

/-- The text of a value, without any space. -/
def render (v : Json) : String := String.ofList v.chars

/-! ### One member or item a line -/

/-- Puts a comma after the last line. -/
def withComma : List String → List String
  | [] => []
  | [line] => [line ++ ","]
  | line :: rest => line :: withComma rest

/-- Joins blocks of lines, with a comma after each but the last. -/
def joinBlocks : List (List String) → List String
  | [] => []
  | [block] => block
  | block :: rest => withComma block ++ joinBlocks rest

/-- Lines between an opening and a closing mark, indented by two spaces. -/
def bracketed (opening closing : String) : List (List String) → List String
  | [] => [opening ++ closing]
  | blocks => opening :: (joinBlocks blocks).map ("  " ++ ·) ++ [closing]

mutual

/-- The lines of a value. -/
def lines : Json → List String
  | .array items => bracketed "[" "]" (itemLines items)
  | .object members => bracketed "\x7b" "\x7d" (memberLines members)
  | .null => [render .null]
  | .bool value => [render (.bool value)]
  | .number literal => [render (.number literal)]
  | .string literal => [render (.string literal)]

/-- The lines of each item. -/
def itemLines : List Json → List (List String)
  | [] => []
  | v :: vs => v.lines :: itemLines vs

/-- The lines of each member, the first of them behind the key. -/
def memberLines : List (List Char × Json) → List (List String)
  | [] => []
  | (key, v) :: ms =>
    let block := match v.lines with
      | [] => []
      | line :: rest => (String.ofList (quoted key) ++ ": " ++ line) :: rest
    block :: memberLines ms

end

end Json

end BranchPool
