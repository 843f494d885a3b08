import Pseudoclock.Pattern.Expression
import Pseudoclock.Pattern.Fault

/-!
What the form of a pattern means. Flags hold from where they stand to the end of the group around
them. Of Unicode nothing is known but the code points: sets of characters that it defines, and both
cases of a character, are refused unless the pattern is about bytes.
-/

namespace Pseudoclock.Pattern

structure Flags where
  caseless : Bool := false
  multiline : Bool := false
  dotAll : Bool := false
  unicode : Bool := true
  carriage : Bool := false
deriving DecidableEq, Repr

def Flags.set (flags : Flags) (items : List FlagItem) : Flags where
  caseless := (flagState .caseless items).getD flags.caseless
  multiline := (flagState .multiline items).getD flags.multiline
  dotAll := (flagState .dotAll items).getD flags.dotAll
  unicode := (flagState .unicode items).getD flags.unicode
  carriage := (flagState .carriage items).getD flags.carriage

/-- The greatest code point of the characters that a pattern is about. -/
def Flags.greatest (flags : Flags) : Nat := if flags.unicode then 0x10ffff else 0xff

variable {α : Type}

def refuse (cause : Cause) (span : Span) : Except Fault α := .error { cause, span }

/-- A character for itself. A byte that is no ASCII character is refused. -/
def Literal.check (literal : Literal) (flags : Flags) : Except Fault Unit :=
  if !flags.unicode && literal.isByte && 127 < literal.char.toNat then
    refuse .brokenText literal.span
  else .ok ()

/-- A set to which both cases belong, if flags say so. Where there is no table of cases only a set
in which nothing is named is accepted. -/
def foldCases (flags : Flags) (span : Span) (namesAny : Bool) (set : CharSet) :
    Except Fault CharSet :=
  if !flags.caseless then .ok set
  else if !flags.unicode then .ok set.foldAscii
  else if namesAny then refuse .caselessUnavailable span
  else .ok set

/-- A set or its complement. On bytes it may hold ASCII characters only. -/
def negateSet (flags : Flags) (span : Span) (isNegated : Bool) (set : CharSet) :
    Except Fault CharSet :=
  let set := if isNegated then set.complement flags.greatest else set
  if flags.unicode || set.isAscii then .ok set else refuse .brokenText span

def Literal.meaning (literal : Literal) (flags : Flags) : Except Fault CharSet := do
  literal.check flags
  let set := CharSet.single literal.char
  foldCases flags literal.span true set

/-- A character of a set in brackets. On bytes it is an ASCII character. -/
def Literal.member (literal : Literal) (flags : Flags) : Except Fault Nat := do
  literal.check flags
  if !flags.unicode && 127 < literal.char.toNat then refuse .unicodeRefused literal.span
  return literal.char.toNat

def Shorthand.meaning (kind : Shorthand) (flags : Flags) (span : Span) (isNegated : Bool) :
    Except Fault CharSet :=
  if flags.unicode then refuse .shorthandUnavailable span
  else negateSet flags span isNegated (CharSet.ofShorthand kind)

/-- A name without what makes no difference in it: blanks, hyphens, underscores, the case of letters
and the word `is` in front. -/
def plainName (name : List Char) : List Char :=
  let lower := name.map Char.toLower
  let isLed := ['i', 's'].isPrefixOf lower
  let plain := (if isLed then lower.drop 2 else lower).filter fun c =>
    c != ' ' && c != '_' && c != '-' && c.toNat < 128
  if isLed && plain == ['c'] then ['i', 's', 'c'] else plain

/-- Why a property is refused, of which no table is kept. Three short names are those of values. -/
def Property.cause : Property → Cause
  | .named name =>
    if [['c', 'f'], ['s', 'c'], ['l', 'c']].contains (plainName name) then .propertyValueUnknown
    else .propertyUnknown
  | .valued _ _ => .propertyUnknown

/-- The meaning of a property. There is none. -/
def Property.meaning (kind : Property) (flags : Flags) (span : Span) : Except Fault CharSet :=
  refuse (if flags.unicode then kind.cause else .unicodeRefused) span

mutual

def ClassItem.namesAny : ClassItem → Bool
  | .bracketed _ _ set => set.namesAny
  | .literal _ | .range _ _ | .ascii _ _ _ | .shorthand _ _ _ | .property _ _ _ => true

def ClassSet.namesAny : ClassSet → Bool
  | .items _ items => anyNames items
  | .combined _ _ left right => left.namesAny || right.namesAny

def anyNames : List ClassItem → Bool
  | [] => false
  | item :: items => item.namesAny || anyNames items

end

mutual

def ClassItem.meaning (flags : Flags) : ClassItem → Except Fault CharSet
  | .literal character => do return CharSet.single (Char.ofNat (← character.member flags))
  | .range first last => do return CharSet.range (← first.member flags) (← last.member flags)
  | .ascii span kind isNegated => do
    let set ← foldCases flags span true (CharSet.ofAscii kind)
    negateSet flags span isNegated set
  | .shorthand span kind isNegated => kind.meaning flags span isNegated
  | .property span kind _ => kind.meaning flags span
  | .bracketed span isNegated set => do
    let inner ← set.meaning flags
    let inner ← foldCases flags span set.namesAny inner
    negateSet flags span isNegated inner

def ClassSet.meaning (flags : Flags) : ClassSet → Except Fault CharSet
  | .items _ items => unionMeaning flags items
  | .combined _ operation left right => do
    let leftSet ← left.meaning flags
    let rightSet ← right.meaning flags
    let rightSet ← foldCases flags right.span right.namesAny rightSet
    let leftSet ← foldCases flags left.span left.namesAny leftSet
    return operation.apply leftSet rightSet

def unionMeaning (flags : Flags) : List ClassItem → Except Fault CharSet
  | [] => .ok CharSet.none
  | item :: items => do
    let set ← item.meaning flags
    return set.union (← unionMeaning flags items)

end

def bracketMeaning (flags : Flags) (span : Span) (isNegated : Bool) (set : ClassSet) :
    Except Fault CharSet :=
  ClassItem.meaning flags (.bracketed span isNegated set)

/-- The characters that the point stands for. -/
def dotMeaning (flags : Flags) (span : Span) : Except Fault CharSet :=
  if !flags.unicode then refuse .brokenText span
  else if flags.dotAll then .ok (CharSet.range 0 flags.greatest)
  else
    let breaks := if flags.carriage then CharSet.ofRanges [('\n', '\n'), ('\r', '\r')]
      else CharSet.single '\n'
    .ok (breaks.complement flags.greatest)

def Assertion.meaning (flags : Flags) : Assertion → Anchor
  | .textStart => .textStart
  | .textEnd => .textEnd
  | .lineStart =>
    if !flags.multiline then .textStart else if flags.carriage then .carriageStart else .lineStart
  | .lineEnd =>
    if !flags.multiline then .textEnd else if flags.carriage then .carriageEnd else .lineEnd
  | .word kind => if flags.unicode then .unicodeWord kind else .asciiWord kind

def Atom.meaning (flags : Flags) : Atom → Except Fault Expression
  | .literal character => do return .one (← character.meaning flags)
  | .dot span => do return .one (← dotMeaning flags span)
  | .assertion _ kind => .ok (.anchor (kind.meaning flags))
  | .shorthand span kind isNegated => do return .one (← kind.meaning flags span isNegated)
  | .property span kind _ => do return .one (← kind.meaning flags span)

mutual

/-- The meaning of a part of a pattern, and the flags that hold behind it. -/
def Node.meaning (flags : Flags) : Node → Except Fault (Expression × Flags)
  | .empty => .ok (.empty, flags)
  | .flags items => .ok (.empty, flags.set items)
  | .atom part => do return (← part.meaning flags, flags)
  | .bracketed span isNegated set => do
    return (.one (← bracketMeaning flags span isNegated set), flags)
  | .repetition _ least most body => do
    let (expression, flags) ← body.meaning flags
    return (if most = some 0 then .empty else .repeated least most expression, flags)
  | .group _ items body => do
    let (expression, _) ← body.meaning (flags.set items)
    return (expression, flags)
  | .alternation _ branches => choiceMeaning flags branches
  | .concat _ parts => sequenceMeaning flags parts

/-- The meaning of parts of which one is to match. -/
def choiceMeaning (flags : Flags) : List Node → Except Fault (Expression × Flags)
  | [] => .ok (.one CharSet.none, flags)
  | [branch] => branch.meaning flags
  | branch :: branches => do
    let (left, flags) ← branch.meaning flags
    let (right, flags) ← choiceMeaning flags branches
    return (.choice left right, flags)

/-- The meaning of parts that are to match one after the other. -/
def sequenceMeaning (flags : Flags) : List Node → Except Fault (Expression × Flags)
  | [] => .ok (.empty, flags)
  | part :: parts => do
    let (first, flags) ← part.meaning flags
    let (second, flags) ← sequenceMeaning flags parts
    return (.sequence first second, flags)

end

end Pseudoclock.Pattern
