import Pseudoclock.Pattern.Escape

/-!
Sets of characters in brackets: characters, ranges, named sets and further sets in brackets, which
can be intersected and subtracted.
-/

namespace Pseudoclock.Pattern

open Reader

/-- What opens a set: its stretch up to the first item, and what stands at its head. -/
structure Opening where
  span : Span
  isNegated : Bool
  /-- Where the items begin. -/
  inside : Place
  /-- Characters at the head that stand for themselves there only, the last one first. -/
  items : List ClassItem

/-- Hyphens at the head of a set, which stand for themselves. -/
def leadingHyphens (start : Place) : (fuel : Nat) → List ClassItem → Reader (List ClassItem)
  | 0, items => return items
  | fuel + 1, items => do
    if (← peek) = some '-' then
      let hyphen : Literal := { span := ← charSpan, char := '-' }
      advanceSpaced
      if ← atEnd then fail .classUnclosed (Span.point start)
      leadingHyphens start fuel (.literal hyphen :: items)
    else return items

/-- What opens a set. A closing bracket as its first item stands for itself. -/
def opening : Reader Opening := do
  let start ← place
  advanceSpaced
  if ← atEnd then fail .classUnclosed (← since start)
  let isNegated := (← peek) == some '^'
  if isNegated then
    advanceSpaced
    if ← atEnd then fail .classUnclosed (← since start)
  let inside ← place
  let items ← leadingHyphens start (← get).rest.length []
  if items.isEmpty ∧ (← peek) = some ']' then
    let bracket : Literal := { span := ← charSpan, char := ']' }
    advanceSpaced
    if ← atEnd then fail .classUnclosed (← since start)
    return ⟨← since start, isNegated, inside, [.literal bracket]⟩
  return ⟨← since start, isNegated, inside, items⟩

/-- The named ASCII set at the head of a text, whether it is negated, and how long it is written. -/
def asciiClass? : List Char → Option (AsciiClass × Bool × Nat)
  | '[' :: ':' :: rest =>
    let isNegated := rest.head? == some '^'
    let rest := if isNegated then rest.tail else rest
    let name := rest.takeWhile (· != ':')
    if [':', ']'].isPrefixOf (rest.drop name.length) then
      (AsciiClass.ofName? (String.ofList name)).map fun kind =>
        (kind, isNegated, name.length + if isNegated then 5 else 4)
    else none
  | _ => none

def asciiItem? : Reader (Option ClassItem) := do
  match asciiClass? (← get).rest with
  | none => return none
  | some (kind, isNegated, length) =>
    let start ← place
    advanceBy length
    return some (.ascii (← since start) kind isNegated)

/-- A character, or what a backslash begins. -/
def classAtom : Reader Atom := do
  match ← peek with
  | some '\\' => escapeAtom
  | some char =>
    let span ← charSpan
    advance
    return .literal { span, char }
  | none => failHere .classUnclosed

/-- An atom as an item of a set. Assertions are none. -/
def itemOfAtom : Atom → Reader ClassItem
  | .literal character => return .literal character
  | .shorthand span kind isNegated => return .shorthand span kind isNegated
  | .property span kind isNegated => return .property span kind isNegated
  | .dot span | .assertion span _ => fail .escapeInClass span

def boundOfAtom : Atom → Reader Literal
  | .literal character => return character
  | other => fail .rangeBound other.span

/-- A single item or a range. A hyphen in front of a closing bracket or of another hyphen makes no
range. -/
def classItem (outer : Span) : Reader ClassItem := do
  let first ← classAtom
  skipBlanks
  if ← atEnd then fail .classUnclosed outer
  let second := (← get).second?
  if (← peek) ≠ some '-' ∨ second = some ']' ∨ second = some '-' then
    itemOfAtom first
  else
    advanceSpaced
    if ← atEnd then fail .classUnclosed outer
    let last ← classAtom
    let lower ← boundOfAtom first
    let upper ← boundOfAtom last
    if upper.char < lower.char then fail .rangeReversed ⟨first.span.start, last.span.stop⟩
    return .range lower upper

/-- A set and what is to be done with the next one. -/
structure Pending where
  operation : SetOperation
  left : ClassSet

def Pending.close (pending : Option Pending) (set : ClassSet) : ClassSet :=
  match pending with
  | none => set
  | some ⟨operation, left⟩ => .combined ⟨left.span.start, set.span.stop⟩ operation left set

/-- The operation that a doubled character stands for. -/
def SetOperation.ofChar? (c : Char) : Option SetOperation :=
  match c with
  | '&' => some .intersection
  | '-' => some .difference
  | '~' => some .symmetricDifference
  | _ => none

def operation? : Reader (Option SetOperation) := do
  match (← get).rest with
  | c :: other :: _ => return if c = other then SetOperation.ofChar? c else none
  | _ => return none

/-- The rest of a set behind its opening, up to its closing bracket. The last of the items read is
the first of the list. Operations are carried out from left to right. -/
def classRest (outer : Span) : (fuel : Nat) → Option Pending → Place → List ClassItem →
    Reader ClassSet
  | 0, _, _, _ => fail .classUnclosed outer
  | fuel + 1, pending, inside, items => do
    skipBlanks
    match ← peek with
    | none => fail .classUnclosed outer
    | some ']' =>
      advance
      return Pending.close pending (ClassSet.ofItems inside items.reverse)
    | some '[' =>
      match ← asciiItem? with
      | some item => classRest outer fuel pending inside (item :: items)
      | none =>
        let start ← place
        let inner ← opening
        let set ← classRest inner.span fuel none inner.inside inner.items
        let item := ClassItem.bracketed (← since start) inner.isNegated set
        classRest outer fuel pending inside (item :: items)
    | some _ =>
      match ← operation? with
      | some operation =>
        advanceBy 2
        let left := Pending.close pending (ClassSet.ofItems inside items.reverse)
        classRest outer fuel (some ⟨operation, left⟩) (← place) []
      | none =>
        let item ← classItem outer
        classRest outer fuel pending inside (item :: items)

def bracketed : Reader Node := do
  let start ← place
  let outer ← opening
  let set ← classRest outer.span ((← get).rest.length + 1) none outer.inside outer.items
  return .bracketed (← since start) outer.isNegated set

end Pseudoclock.Pattern
