import Pseudoclock.Blank
import Pseudoclock.Pattern.Fault

/-!
Readers of patterns: they go through the text character by character and know the place they are
at. Where a pattern is spaced, blanks and comments between its parts are passed over.
-/

namespace Pseudoclock.Pattern

/-- What is left of a text, the place of that, and what is known from the part before. -/
structure Cursor where
  rest : List Char
  place : Place := {}
  /-- Whether blanks mean nothing. -/
  isSpaced : Bool := false
  names : List (List Char × Span) := []

namespace Cursor

def next (cursor : Cursor) : Cursor :=
  match cursor.rest with
  | [] => cursor
  | c :: rest => { cursor with rest, place := cursor.place.behind c }

/-- What is left behind blanks and comments, and its place. A comment ends with its line. -/
def behindBlanks (isComment : Bool) (place : Place) : List Char → List Char × Place
  | [] => ([], place)
  | c :: rest =>
    if isComment then behindBlanks (c != '\n') (place.behind c) rest
    else if isBlank c then behindBlanks false (place.behind c) rest
    else if c = '#' then behindBlanks true (place.behind c) rest
    else (c :: rest, place)

def skipBlanks (cursor : Cursor) : Cursor :=
  if cursor.isSpaced then
    let (rest, place) := behindBlanks false cursor.place cursor.rest
    { cursor with rest, place }
  else cursor

/-- What comes behind the next character. If blanks mean nothing, the one after them counts, or the
first one of a comment that opens there. -/
def second? (cursor : Cursor) : Option Char :=
  let rest := cursor.rest.tail
  if cursor.isSpaced then
    let solid := rest.dropWhile isBlank
    let solid := if solid.head? = some '#' then solid.tail.dropWhile isBlank else solid
    solid.head? <|> rest.head?
  else rest.head?

end Cursor

abbrev Reader := StateT Cursor (Except Fault)

namespace Reader

variable {α : Type}

def peek : Reader (Option Char) := return (← get).rest.head?

def atEnd : Reader Bool := return (← get).rest.isEmpty

def place : Reader Place := return (← get).place

def charSpan : Reader Span := return ⟨(← get).place, (← get).next.place⟩

/-- The stretch from a place to the one reached. -/
def since (start : Place) : Reader Span := return ⟨start, ← place⟩

def fail (cause : Cause) (span : Span) : Reader α := throw { cause, span }

def failHere (cause : Cause) : Reader α := do fail cause (Span.point (← place))

def advance : Reader Unit := modify Cursor.next

def skipBlanks : Reader Unit := modify Cursor.skipBlanks

def advanceSpaced : Reader Unit := modify fun cursor => cursor.next.skipBlanks

def advanceBy (count : Nat) : Reader Unit := modify (Nat.repeat Cursor.next count)

/-- Passes over a word, if it comes next. -/
def accept (word : String) : Reader Bool := do
  if word.toList.isPrefixOf (← get).rest then
    advanceBy word.length
    return true
  else return false

/-- The characters up to the first one that is not wanted, at most as many as `fuel` says. -/
def collect (isWanted : Char → Bool) : (fuel : Nat) → Reader (List Char)
  | 0 => return []
  | fuel + 1 => do
    match ← peek with
    | some c =>
      if isWanted c then
        advanceSpaced
        return c :: (← collect isWanted fuel)
      else return []
    | none => return []

def takeWhile (isWanted : Char → Bool) : Reader (List Char) := do
  collect isWanted (← get).rest.length

/-- Sets whether blanks mean nothing, if that is known. -/
def setSpaced (isSpaced : Option Bool) : Reader Unit :=
  modify fun cursor => { cursor with isSpaced := isSpaced.getD cursor.isSpaced }

end Reader

end Pseudoclock.Pattern
