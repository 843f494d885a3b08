import Pseudoclock.Pattern.Bracket
import Pseudoclock.Pattern.Depth
import Pseudoclock.Pattern.Letters

/-!
Patterns from their texts. The first fault in the text is the one that is found, except that a
pattern nested too deep is refused only once it is read.
-/

namespace Pseudoclock.Pattern

open Reader

/-- A number in decimal digits, with blanks around it, or what is wrong with it. -/
def decimal : Reader (Except Fault Nat) := do
  let _ ← Reader.takeWhile isBlank
  let start ← place
  let digits ← Reader.takeWhile Char.isDigit
  let span ← since start
  let _ ← Reader.takeWhile isBlank
  if digits.isEmpty then return .error { cause := .countEmpty, span }
  let number := digits.foldl (fun number c => 10 * number + (c.toNat - '0'.toNat)) 0
  if number < UInt32.size then return .ok number else return .error { cause := .decimalInvalid, span }

/-- The numbers between the braces of a count. A missing first number is only a fault once it is
known that the text goes on. -/
def countBounds (start : Place) : Reader (Nat × Option Nat) := do
  let unclosed {α : Type} : Reader α := do fail .countUnclosed (← since start)
  advanceSpaced
  if ← atEnd then unclosed
  let least ← decimal
  match ← peek with
  | none => unclosed
  | some ',' =>
    advanceSpaced
    match ← peek with
    | none => unclosed
    | some '\x7d' => return (← least, none)
    | some _ =>
      let least ← least
      let most ← decimal
      return (least, some (← most))
  | some _ =>
    let count ← least
    return (count, some count)

/-- How often a part is to stand in a row, by a sign or by a count in braces. -/
def repetitionBounds (sign : Char) : Reader (Nat × Option Nat) := do
  let start ← place
  match sign with
  | '\x7b' =>
    let (least, most) ← countBounds start
    if (← peek) ≠ some '\x7d' then fail .countUnclosed (← since start)
    advanceSpaced
    if (← peek) = some '?' then advance
    if most.any (· < least) then fail .countReversed (← since start)
    return (least, most)
  | _ =>
    advance
    if (← peek) = some '?' then advance
    return match sign with
      | '?' => (0, some 1)
      | '+' => (1, none)
      | _ => (0, none)

/-- Repeats the last part read, which is the first of the list. -/
def repeatLast (sign : Char) (parts : List Node) : Reader (List Node) := do
  match parts with
  | [] => failHere .repetitionMissing
  | last :: before =>
    match last.span? with
    | none => failHere .repetitionMissing
    | some span =>
      let (least, most) ← repetitionBounds sign
      return .repetition ⟨span.start, ← place⟩ least most last :: before

def Flag.ofLetter? (letter : Char) : Option Flag :=
  match letter with
  | 'i' => some .caseless
  | 'm' => some .multiline
  | 's' => some .dotAll
  | 'U' => some .lazy
  | 'u' => some .unicode
  | 'R' => some .carriage
  | 'x' => some .spaced
  | _ => none

def FlagItem.ofChar? (c : Char) : Option FlagItem :=
  if c = '-' then some .negation else (Flag.ofLetter? c).map .flag

def FlagItem.repetitionCause : FlagItem → Cause
  | .negation => .flagNegatedTwice
  | .flag _ => .flagDuplicate

/-- Flags up to a colon or a closing parenthesis, each with its stretch. -/
def flagItems : (fuel : Nat) → List (FlagItem × Span) → Reader (List (FlagItem × Span))
  | 0, items => return items
  | fuel + 1, items => do
    match ← peek with
    | none => failHere .flagUnfinished
    | some c =>
      if c = ':' ∨ c = ')' then
        match items.getLast? with
        | some (.negation, span) => fail .flagDangling span
        | _ => return items
      else
        let span ← charSpan
        match FlagItem.ofChar? c with
        | none => fail .flagUnknown span
        | some item =>
          if let some earlier := items.lookup item then
            throw { cause := item.repetitionCause, span, earlier }
          advance
          flagItems fuel (items ++ [(item, span)])

def isNameChar (c : Char) (isFirst : Bool) : Bool :=
  c == '_' || isLetter c
    || (!isFirst && (c == '.' || c == '[' || c == ']' || isNumber c))

/-- The characters of a name up to its closing angle. -/
def nameChars : (fuel : Nat) → (isFirst : Bool) → Reader (List Char)
  | 0, _ => return []
  | fuel + 1, isFirst => do
    match ← peek with
    | none => failHere .nameUnfinished
    | some '>' => return []
    | some c =>
      if !isNameChar c isFirst then fail .nameInvalid (← charSpan)
      advance
      return c :: (← nameChars fuel false)

/-- The name of a group, which no other group has. -/
def groupName : Reader Unit := do
  let start ← place
  let name ← nameChars ((← get).rest.length + 1) true
  let span ← since start
  advance
  if name.isEmpty then fail .nameEmpty (Span.point start)
  if let some earlier := (← get).names.lookup name then
    throw { cause := .nameDuplicate, span, earlier }
  modify fun cursor => { cursor with names := (name, span) :: cursor.names }

inductive GroupHead where
  /-- Flags for the rest of the part around. -/
  | flags (items : List FlagItem)
  /-- A part with flags of its own. -/
  | group (items : List FlagItem)

/-- Passes over the first of some words that comes next, if one does. -/
def acceptAny : List String → Reader Bool
  | [] => return false
  | word :: words => do
    if ← accept word then return true
    acceptAny words

/-- The head of a group, from its parenthesis to the part inside. -/
def groupHead : Reader GroupHead := do
  let parenthesis ← charSpan
  advanceSpaced
  let start ← place
  if ← acceptAny ["?=", "?!", "?<=", "?<!"] then fail .lookAround (← since parenthesis.start)
  if ← acceptAny ["?P<", "?<"] then
    groupName
    return .group []
  if ← accept "?" then
    if ← atEnd then fail .groupUnclosed parenthesis
    let items := (← flagItems ((← get).rest.length + 1) []).map (·.1)
    let isGroup := (← peek) == some ':'
    advance
    if isGroup then return .group items
    if items.isEmpty then fail .repetitionMissing (Span.point start)
    return .flags items
  return .group []

/-- A part that is no group, no set and no repetition. -/
def atom (c : Char) : Reader Atom := do
  if c = '\\' then return ← escapeAtom
  let span ← charSpan
  advance
  return match c with
    | '.' => .dot span
    | '^' => .assertion span .lineStart
    | '$' => .assertion span .lineEnd
    | char => .literal { span, char }

/-- What has been read of the branches of a part. -/
structure Branches where
  start : Place
  before : List Node := []
  lastStart : Place := start
  /-- The parts of the last branch, the last one first. -/
  parts : List Node := []

namespace Branches

def last (branches : Branches) (stop : Place) : Node :=
  Node.ofParts ⟨branches.lastStart, stop⟩ branches.parts.reverse

/-- Begins a branch, the last one being read up to a place. -/
def turn (branches : Branches) (stop next : Place) : Branches :=
  { branches with
    before := branches.before ++ [branches.last stop]
    lastStart := next
    parts := [] }

def close (branches : Branches) (stop : Place) : Node :=
  if branches.before.isEmpty then branches.last stop
  else .alternation ⟨branches.start, stop⟩ (branches.before ++ [branches.last stop])

def add (branches : Branches) (part : Node) : Branches :=
  { branches with parts := part :: branches.parts }

end Branches

/-- The rest of some branches, up to a closing parenthesis or the end. -/
def branchesRest : (fuel : Nat) → Branches → Reader Node
  | 0, branches => return branches.close (← place)
  | fuel + 1, branches => do
    skipBlanks
    match ← peek with
    | none => return branches.close (← place)
    | some ')' => return branches.close (← place)
    | some '|' =>
      let stop ← place
      advance
      branchesRest fuel (branches.turn stop (← place))
    | some '(' =>
      let parenthesis ← charSpan
      match ← groupHead with
      | .flags items =>
        setSpaced (flagState .spaced items)
        branchesRest fuel (branches.add (.flags items))
      | .group items =>
        let outside := (← get).isSpaced
        setSpaced (flagState .spaced items)
        let body ← branchesRest fuel { start := ← place }
        if ← atEnd then fail .groupUnclosed parenthesis
        setSpaced (some outside)
        advance
        let span ← since parenthesis.start
        branchesRest fuel (branches.add (.group span items body))
    | some '[' => branchesRest fuel (branches.add (← bracketed))
    | some c =>
      if c = '?' ∨ c = '*' ∨ c = '+' ∨ c = '\x7b' then
        let parts ← repeatLast c branches.parts
        branchesRest fuel { branches with parts }
      else
        branchesRest fuel (branches.add (.atom (← atom c)))

/-- How deep patterns may be nested. -/
def depthLimit : Nat := 250

def pattern : Reader Node := do
  let node ← branchesRest ((← get).rest.length + 1) { start := ← place }
  if !(← atEnd) then fail .groupUnopened (← charSpan)
  match node.tooDeep? depthLimit with
  | some span => fail (.tooDeep depthLimit) span
  | none => return node

def Node.ofText (text : String) : Except Fault Node :=
  (pattern.run { rest := text.toList }).map (·.1)

end Pseudoclock.Pattern
