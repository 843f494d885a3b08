import Pseudoclock.Pattern.Reader
import Pseudoclock.Pattern.Tree

/-!
What a backslash begins: characters written in another way, sets of characters and assertions.
-/

namespace Pseudoclock.Pattern

open Reader

/-- Whether a character means something of its own in patterns. -/
def isMeta (c : Char) : Bool := "\\.+*?()|[]\x7b\x7d^$#&-~".contains c

/-- Whether a character stands for itself behind a backslash. Letters and digits are kept for other
meanings, and so are the angles. -/
def isEscapable (c : Char) : Bool :=
  isMeta c || (c.toNat < 128 && !c.isAlphanum && c != '<' && c != '>')

def hexValue? (c : Char) : Option Nat :=
  if '0' ≤ c ∧ c ≤ '9' then some (c.toNat - '0'.toNat)
  else if 'a' ≤ c ∧ c ≤ 'f' then some (c.toNat - 'a'.toNat + 10)
  else if 'A' ≤ c ∧ c ≤ 'F' then some (c.toNat - 'A'.toNat + 10)
  else none

def charOfHex? (digits : List Char) : Option Char :=
  let code := digits.foldl (fun code c => 16 * code + (hexValue? c).getD 0) 0
  if code.isValidChar then some (Char.ofNat code) else none

def hexDigits : Nat → Reader (List Char)
  | 0 => return []
  | count + 1 => do
    match ← peek with
    | none => failHere .escapeUnfinished
    | some c =>
      if (hexValue? c).isNone then fail .hexDigit (← charSpan)
      advanceSpaced
      return c :: (← hexDigits count)

/-- A character by its number: as many digits as its letter asks for, or any in braces. -/
def hexLiteral (start : Place) (letter : Char) : Reader Atom := do
  advanceSpaced
  let opening ← place
  match ← peek with
  | none => failHere .escapeUnfinished
  | some '\x7b' =>
    let inside := (← charSpan).stop
    advanceSpaced
    let digits ← Reader.takeWhile fun c => (hexValue? c).isSome
    match ← peek with
    | none => fail .escapeUnfinished (← since opening)
    | some '\x7d' =>
      let stop ← place
      advanceSpaced
      if digits.isEmpty then fail .hexEmpty (← since opening)
      match charOfHex? digits with
      | some char => return .literal { span := ← since start, char }
      | none => fail .hexInvalid ⟨inside, stop⟩
    | some _ => fail .hexDigit (← charSpan)
  | some _ =>
    let digits ← hexDigits (if letter = 'x' then 2 else if letter = 'u' then 4 else 8)
    match charOfHex? digits with
    | some char => return .literal ⟨← since start, char, letter == 'x'⟩
    | none => fail .hexInvalid (← since opening)

/-- The two sides of a text around the first place where a word stands. -/
def splitAt? (word : List Char) : List Char → Option (List Char × List Char)
  | [] => none
  | c :: rest =>
    if word.isPrefixOf (c :: rest) then some ([], (c :: rest).drop word.length)
    else (splitAt? word rest).map fun (left, right) => (c :: left, right)

def Property.ofText (text : List Char) : Property :=
  match splitAt? ['!', '='] text <|> splitAt? [':'] text <|> splitAt? ['='] text with
  | some (name, value) => .valued name value
  | none => .named text

/-- A set of characters by a property, named by one letter or in braces. -/
def propertyAtom (start : Place) (isNegated : Bool) : Reader Atom := do
  advanceSpaced
  match ← peek with
  | none => failHere .escapeUnfinished
  | some '\x7b' =>
    advanceSpaced
    let text ← Reader.takeWhile (· != '\x7d')
    if ← atEnd then failHere .escapeUnfinished
    advance
    return .property (← since start) (Property.ofText text) isNegated
  | some c =>
    if c = '\\' then fail .propertyInvalid (← charSpan)
    advanceSpaced
    return .property (← since start) (.named [c]) isNegated

def WordEdge.ofName? (name : List Char) : Option WordEdge :=
  match String.ofList name with
  | "start" => some .start
  | "end" => some .stop
  | "start-half" => some .startHalf
  | "end-half" => some .stopHalf
  | _ => none

/-- The edge of words that is named in braces, if a name and not a count stands in them. -/
def wordEdge? (start : Place) : Reader (Option WordEdge) := do
  let before ← get
  advanceSpaced
  let inside ← place
  match ← peek with
  | none => fail .wordEdgeUnfinished (← since start)
  | some c =>
    let isWanted (c : Char) := c.isAlpha || c == '-'
    if !isWanted c then
      set before
      return none
    let name ← Reader.takeWhile isWanted
    if (← peek) ≠ some '\x7d' then fail .wordEdgeUnclosed (← since before.place)
    let stop ← place
    advance
    match WordEdge.ofName? name with
    | some edge => return some edge
    | none => fail .wordEdgeUnknown ⟨inside, stop⟩

/-- What a letter behind a backslash means, if it has the meaning of one character. -/
def controlChar? (letter : Char) : Option Char :=
  match letter with
  | 'a' => some '\x07'
  | 'f' => some '\x0c'
  | 't' => some '\t'
  | 'n' => some '\n'
  | 'r' => some '\r'
  | 'v' => some '\x0b'
  | _ => none

def Shorthand.ofLetter? (letter : Char) : Option Shorthand :=
  match letter.toLower with
  | 'd' => some .digit
  | 's' => some .blank
  | 'w' => some .word
  | _ => none

def Assertion.ofLetter? (letter : Char) : Option Assertion :=
  match letter with
  | 'A' => some .textStart
  | 'z' => some .textEnd
  | 'b' => some (.word .either)
  | 'B' => some (.word .neither)
  | '<' => some (.word .start)
  | '>' => some (.word .stop)
  | _ => none

/-- What a backslash begins. -/
def escapeAtom : Reader Atom := do
  let start ← place
  advance
  match ← peek with
  | none => fail .escapeUnfinished (← since start)
  | some c =>
    if c.isDigit then fail .backreference ⟨start, (← charSpan).stop⟩
    if c = 'x' ∨ c = 'u' ∨ c = 'U' then return ← hexLiteral start c
    if c = 'p' ∨ c = 'P' then return ← propertyAtom start (c == 'P')
    advance
    let span ← since start
    if let some kind := Shorthand.ofLetter? c then return .shorthand span kind c.isUpper
    if isEscapable c then return .literal { span, char := c }
    if let some char := controlChar? c then return .literal { span, char }
    if c = 'b' ∧ (← peek) = some '\x7b' then
      if let some edge ← wordEdge? start then
        return .assertion (← since start) (.word edge)
    match Assertion.ofLetter? c with
    | some kind => return .assertion span kind
    | none => fail .escapeUnknown span

end Pseudoclock.Pattern
