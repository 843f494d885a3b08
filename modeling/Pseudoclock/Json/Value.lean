import Pseudoclock.Decimal.Style

/-!
Documents as values, and their two written forms: on one line without blanks, or indented by two
spaces. Fields are written in their order. A string escapes the quote, the backslash and control
characters, and a number that is not finite is written as `null`.
-/

namespace Pseudoclock.Json

inductive Value where
  | null
  | bool (value : Bool)
  | natural (value : Nat)
  | float (value : Float)
  | string (value : String)
  | array (items : List Value)
  | object (fields : List (String × Value))

/-- How the parts of a document are set apart. -/
inductive Spacing where
  | compact
  /-- A line for each part, indented by two spaces for each level. -/
  | indented
deriving DecidableEq, Repr

namespace Spacing

/-- What stands before a part that is nested `depth` levels deep. -/
def lineBreak : Spacing → Nat → List Char
  | .compact, _ => []
  | .indented, depth => '\n' :: List.replicate (2 * depth) ' '

def colon : Spacing → List Char
  | .compact => [':']
  | .indented => [':', ' ']

end Spacing

def escapeChar (c : Char) : List Char :=
  if c = '"' then ['\\', '"']
  else if c = '\\' then ['\\', '\\']
  else if c = '\x08' then ['\\', 'b']
  else if c = '\t' then ['\\', 't']
  else if c = '\n' then ['\\', 'n']
  else if c = '\x0c' then ['\\', 'f']
  else if c = '\r' then ['\\', 'r']
  else if c.toNat < 0x20 then
    ['\\', 'u', '0', '0', Nat.digitChar (c.toNat / 16), Nat.digitChar (c.toNat % 16)]
  else [c]

def quote (s : String) : List Char :=
  '"' :: s.toList.flatMap escapeChar ++ ['"']

/-- The written form of a number that may not be finite. -/
def floatText (x : Float) : List Char :=
  (Decimal.document.finite? x).getD ['n', 'u', 'l', 'l']

mutual

/-- The written form of a value that is nested `depth` levels deep. -/
def Value.write (spacing : Spacing) (depth : Nat) : Value → List Char
  | .null => ['n', 'u', 'l', 'l']
  | .bool true => ['t', 'r', 'u', 'e']
  | .bool false => ['f', 'a', 'l', 's', 'e']
  | .natural n => Nat.toDigits 10 n
  | .float x => floatText x
  | .string s => quote s
  | .array [] => ['[', ']']
  | .array (item :: items) =>
    '[' :: spacing.lineBreak (depth + 1) ++ item.write spacing (depth + 1)
      ++ writeItems spacing (depth + 1) items ++ spacing.lineBreak depth ++ [']']
  | .object [] => ['{', '}']
  | .object ((name, value) :: fields) =>
    '{' :: spacing.lineBreak (depth + 1) ++ quote name ++ spacing.colon
      ++ value.write spacing (depth + 1)
      ++ writeFields spacing (depth + 1) fields ++ spacing.lineBreak depth ++ ['}']

/-- The items behind the first one of a list. -/
def writeItems (spacing : Spacing) (depth : Nat) : List Value → List Char
  | [] => []
  | item :: items =>
    ',' :: spacing.lineBreak depth ++ item.write spacing depth ++ writeItems spacing depth items

/-- The fields behind the first one of an object. -/
def writeFields (spacing : Spacing) (depth : Nat) : List (String × Value) → List Char
  | [] => []
  | (name, value) :: fields =>
    ',' :: spacing.lineBreak depth ++ quote name ++ spacing.colon ++ value.write spacing depth
      ++ writeFields spacing depth fields

end

def Value.text (value : Value) (spacing : Spacing) : String :=
  String.ofList (value.write spacing 0)

end Pseudoclock.Json
