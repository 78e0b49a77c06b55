import ClosureLint.Text.Hex

/-!
# JSON values and their text

* `Json` — values; the fields of an object have an order.
* `Json.text` — the written form: a blank after each comma and colon, and every character outside
  ASCII as escapes of UTF-16 units.
-/

namespace ClosureLint

/-- A JSON value without fractions. -/
inductive Json where
  | null
  | int (value : Int)
  | str (value : String)
  | list (items : List Json)
  | object (fields : List (String × Json))
deriving Repr, Inhabited

namespace Json

/-- A value that may be missing. -/
def option {α : Type} (f : α → Json) : Option α → Json
  | some a => f a
  | none => null

/-- A unit of UTF-16 as an escape. -/
def escapeUnit (unit : Nat) : List Char := ['\\', 'u'] ++ Text.hexDigits 4 unit

/-- A character inside the quotes of a string. -/
def escapeChar (c : Char) : List Char :=
  if c = '"' ∨ c = '\\' then ['\\', c]
  else if c = '\n' then ['\\', 'n']
  else if c = '\r' then ['\\', 'r']
  else if c = '\t' then ['\\', 't']
  else if c = '\x0c' then ['\\', 'f']
  else if c = '\x08' then ['\\', 'b']
  else if ' ' ≤ c ∧ c ≤ '~' then [c]
  else if c.toNat < 0x10000 then escapeUnit c.toNat
  else
    let n := c.toNat - 0x10000
    escapeUnit (0xd800 + n / 0x400) ++ escapeUnit (0xdc00 + n % 0x400)

/-- A string in quotes. -/
def quote (s : String) : String :=
  String.ofList ('"' :: s.toList.flatMap escapeChar ++ ['"'])

mutual

/-- The written form of a value. -/
def text : Json → String
  | null => "null"
  | int value => toString value
  | str value => quote value
  | list items => "[" ++ ", ".intercalate (texts items) ++ "]"
  | object fields => "\x7b" ++ ", ".intercalate (fieldTexts fields) ++ "\x7d"

/-- The written forms of several values. -/
def texts : List Json → List String
  | [] => []
  | j :: js => text j :: texts js

/-- The written forms of several fields. -/
def fieldTexts : List (String × Json) → List String
  | [] => []
  | (name, j) :: fields => (quote name ++ ": " ++ text j) :: fieldTexts fields

end

end Json

end ClosureLint
