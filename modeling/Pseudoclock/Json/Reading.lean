import Pseudoclock.Json.Numeral

/-!
What can be read of a text as a document. Reading never fails: where a text stops being a document,
the parts that were complete are kept and the broken part is marked, so that whoever looks at the
parts in order meets the first fault first.

The main definitions are `Reading`, the tree of parts, and `read`, which makes it from a text.
-/

namespace Pseudoclock.Json

/-- A part of a document, as far as it can be read. A string is missing when it escapes half a pair
of UTF-16 surrogates: it then has a form but no content. -/
inductive Reading where
  | null
  | bool (value : Bool)
  | number (numeral : Numeral)
  | string (content : Option String)
  | array (items : List Reading)
  | object (fields : List (Option String × Reading))
  /-- The text is no document from here on. -/
  | broken

structure Document where
  root : Reading
  /-- Whether something other than blanks follows the document. -/
  hasTrailer : Bool

def isBlank (c : Char) : Bool :=
  c == ' ' || c == '\t' || c == '\n' || c == '\r'

def skipBlanks (s : List Char) : List Char :=
  s.dropWhile isBlank

/-- A character, or one UTF-16 code unit that was written as an escape. -/
inductive Piece where
  | char (c : Char)
  | unit (value : Nat)
deriving DecidableEq

def hexValue? (c : Char) : Option Nat :=
  if '0' ≤ c ∧ c ≤ '9' then some (c.toNat - '0'.toNat)
  else if 'a' ≤ c ∧ c ≤ 'f' then some (c.toNat - 'a'.toNat + 10)
  else if 'A' ≤ c ∧ c ≤ 'F' then some (c.toNat - 'A'.toNat + 10)
  else none

/-- The code unit of four hexadecimal digits. -/
def unitOf? (a b c d : Char) : Option Nat := do
  return 4096 * (← hexValue? a) + 256 * (← hexValue? b) + 16 * (← hexValue? c) + (← hexValue? d)

/-- The character of an escape of one letter. -/
def unescape? (c : Char) : Option Char :=
  match c with
  | '"' => some '"'
  | '\\' => some '\\'
  | '/' => some '/'
  | 'b' => some '\x08'
  | 'f' => some '\x0c'
  | 'n' => some '\n'
  | 'r' => some '\r'
  | 't' => some '\t'
  | _ => none

/-- The pieces of a string up to its closing quote, and what follows that. -/
def stringPieces : List Char → Option (List Piece × List Char)
  | [] => none
  | '"' :: rest => some ([], rest)
  | '\\' :: 'u' :: a :: b :: c :: d :: rest => do
    let unit ← unitOf? a b c d
    let (pieces, rest) ← stringPieces rest
    return (.unit unit :: pieces, rest)
  | '\\' :: c :: rest => do
    let c ← unescape? c
    let (pieces, rest) ← stringPieces rest
    return (.char c :: pieces, rest)
  | c :: rest =>
    if c.toNat < 0x20 ∨ c = '\\' then none
    else do
      let (pieces, rest) ← stringPieces rest
      return (.char c :: pieces, rest)

/-- The characters of pieces. Two code units that make a pair are one character, and a surrogate
outside a pair is none. -/
def assemble : List Piece → Option (List Char)
  | [] => some []
  | .char c :: rest => (assemble rest).map (c :: ·)
  | .unit high :: rest =>
    if high < 0xd800 ∨ 0xdfff < high then
      (assemble rest).map (Char.ofNat high :: ·)
    else if high < 0xdc00 then
      match rest with
      | .unit low :: rest =>
        if 0xdc00 ≤ low ∧ low ≤ 0xdfff then
          (assemble rest).map (Char.ofNat (0x10000 + 0x400 * (high - 0xd800) + (low - 0xdc00)) :: ·)
        else none
      | _ => none
    else none

def contentOf (pieces : List Piece) : Option String :=
  (assemble pieces).map String.ofList

/-- The longest run of digits, and what follows it. -/
def spanDigits (s : List Char) : List Char × List Char :=
  (s.takeWhile Char.isDigit, s.dropWhile Char.isDigit)

/-- The digits of a whole number: a zero alone, or digits that do not begin with one. -/
def wholeDigits? (s : List Char) : Option (List Char × List Char) :=
  match spanDigits s with
  | ([], _) => none
  | ('0' :: _ :: _, _) => none
  | digits => some digits

def fractionDigits? : List Char → Option (List Char × List Char)
  | '.' :: rest =>
    match spanDigits rest with
    | ([], _) => none
    | digits => some digits
  | rest => some ([], rest)

/-- A sign, if there is one: whether it is negative, and what follows it. -/
def exponentSign : List Char → Bool × List Char
  | '-' :: rest => (true, rest)
  | '+' :: rest => (false, rest)
  | rest => (false, rest)

def exponentDigits? (s : List Char) : Option (Option Int × List Char) :=
  let (isNegative, rest) := exponentSign s
  match spanDigits rest with
  | ([], _) => none
  | (digits, rest) =>
    let value : Int := digitsValue digits
    some (some (if isNegative then -value else value), rest)

def exponentPart? : List Char → Option (Option Int × List Char)
  | 'e' :: rest => exponentDigits? rest
  | 'E' :: rest => exponentDigits? rest
  | rest => some (none, rest)

def minusSign : List Char → Bool × List Char
  | '-' :: rest => (true, rest)
  | rest => (false, rest)

/-- The longest number literal, and what follows it. -/
def numeral? (s : List Char) : Option (Numeral × List Char) := do
  let (isNegative, rest) := minusSign s
  let (whole, rest) ← wholeDigits? rest
  let (fraction, rest) ← fractionDigits? rest
  let (exponent, rest) ← exponentPart? rest
  return (⟨isNegative, whole, fraction, exponent⟩, rest)

mutual

/-- Reads one value, which may follow blanks. The first argument bounds the depth of recursion. -/
def readValue : Nat → List Char → Reading × List Char
  | 0, _ => (.broken, [])
  | fuel + 1, s =>
    match skipBlanks s with
    | '"' :: rest =>
      match stringPieces rest with
      | some (pieces, rest) => (.string (contentOf pieces), rest)
      | none => (.broken, [])
    | '[' :: rest =>
      match skipBlanks rest with
      | ']' :: rest => (.array [], rest)
      | rest =>
        let (items, rest) := readItems fuel rest
        (.array items, rest)
    | '{' :: rest =>
      match skipBlanks rest with
      | '}' :: rest => (.object [], rest)
      | rest =>
        let (fields, rest) := readFields fuel rest
        (.object fields, rest)
    | 'n' :: 'u' :: 'l' :: 'l' :: rest => (.null, rest)
    | 't' :: 'r' :: 'u' :: 'e' :: rest => (.bool true, rest)
    | 'f' :: 'a' :: 'l' :: 's' :: 'e' :: rest => (.bool false, rest)
    | rest =>
      match numeral? rest with
      | some (numeral, rest) => (.number numeral, rest)
      | none => (.broken, [])

def readItems : Nat → List Char → List Reading × List Char
  | 0, _ => ([.broken], [])
  | fuel + 1, s =>
    let (item, rest) := readValue fuel s
    match skipBlanks rest with
    | ',' :: rest =>
      let (items, rest) := readItems fuel rest
      (item :: items, rest)
    | ']' :: rest => ([item], rest)
    | _ => ([item, .broken], [])

def readFields : Nat → List Char → List (Option String × Reading) × List Char
  | 0, _ => ([(none, .broken)], [])
  | fuel + 1, s =>
    match skipBlanks s with
    | '"' :: rest =>
      match stringPieces rest with
      | some (pieces, rest) =>
        let name := contentOf pieces
        match skipBlanks rest with
        | ':' :: rest =>
          let (value, rest) := readValue fuel rest
          match skipBlanks rest with
          | ',' :: rest =>
            let (fields, rest) := readFields fuel rest
            ((name, value) :: fields, rest)
          | '}' :: rest => ([(name, value)], rest)
          | _ => ([(name, value), (none, .broken)], [])
        | _ => ([(name, .broken)], [])
      | none => ([(none, .broken)], [])
    | _ => ([(none, .broken)], [])

end

/-- Reads a text. Each character lets the recursion go at most two steps deeper. -/
def read (text : String) : Document :=
  let (root, rest) := readValue (2 * text.length + 2) text.toList
  ⟨root, !(skipBlanks rest).isEmpty⟩

end Pseudoclock.Json
