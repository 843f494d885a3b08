import Pseudoclock.Pattern.Place

/-!
The form of a pattern: what its text says, with the stretches of the text that faults point at.
-/

namespace Pseudoclock.Pattern

inductive Flag where
  /-- Letters stand for both of their cases. -/
  | caseless
  /-- `^` and `$` stand at the ends of lines too. -/
  | multiline
  /-- The point stands for line breaks too. -/
  | dotAll
  /-- Repetitions match as little as they can. -/
  | lazy
  /-- The pattern is about characters, not bytes. -/
  | unicode
  /-- Lines may end in a carriage return. -/
  | carriage
  /-- Blanks in the pattern mean nothing, and `#` begins a comment. -/
  | spaced
deriving DecidableEq, Repr

/-- A flag, or the sign that the flags behind it are switched off. -/
inductive FlagItem where
  | negation
  | flag (kind : Flag)
deriving DecidableEq, Repr

/-- What flag items say of a flag, if anything. -/
def flagState (flag : Flag) (items : List FlagItem) : Option Bool :=
  if items.contains (.flag flag) then
    some (!(items.takeWhile (· != .flag flag)).contains .negation)
  else none

structure Literal where
  span : Span
  char : Char
  /-- Whether it is written with two hexadecimal digits, which can mean a byte. -/
  isByte : Bool := false
deriving DecidableEq, Repr

/-- Which edges of words are meant. -/
inductive WordEdge where
  /-- An edge of either kind. -/
  | either
  /-- No edge at all. -/
  | neither
  | start
  | stop
  /-- No part of a word in front. -/
  | startHalf
  /-- No part of a word behind. -/
  | stopHalf
deriving DecidableEq, Repr

/-- What is asked of a place in a text. -/
inductive Assertion where
  | lineStart
  | lineEnd
  | textStart
  | textEnd
  | word (kind : WordEdge)
deriving DecidableEq, Repr

inductive Shorthand where
  | digit
  | blank
  | word
deriving DecidableEq, Repr

/-- A set of characters that Unicode defines, named by a property or by a property and a value. -/
inductive Property where
  | named (name : List Char)
  | valued (name value : List Char)
deriving DecidableEq, Repr

/-- A part of a pattern that has no parts. -/
inductive Atom where
  | literal (character : Literal)
  | dot (span : Span)
  | assertion (span : Span) (kind : Assertion)
  | shorthand (span : Span) (kind : Shorthand) (isNegated : Bool)
  | property (span : Span) (kind : Property) (isNegated : Bool)
deriving DecidableEq, Repr

def Atom.span : Atom → Span
  | .literal character => character.span
  | .dot span => span
  | .assertion span _ => span
  | .shorthand span _ _ => span
  | .property span _ _ => span

inductive AsciiClass where
  | alnum
  | alpha
  | ascii
  | blank
  | cntrl
  | digit
  | graph
  | lower
  | print
  | punct
  | space
  | upper
  | word
  | xdigit
deriving DecidableEq, Repr

def AsciiClass.ofName? (name : String) : Option AsciiClass :=
  match name with
  | "alnum" => some .alnum
  | "alpha" => some .alpha
  | "ascii" => some .ascii
  | "blank" => some .blank
  | "cntrl" => some .cntrl
  | "digit" => some .digit
  | "graph" => some .graph
  | "lower" => some .lower
  | "print" => some .print
  | "punct" => some .punct
  | "space" => some .space
  | "upper" => some .upper
  | "word" => some .word
  | "xdigit" => some .xdigit
  | _ => none

inductive SetOperation where
  | intersection
  | difference
  | symmetricDifference
deriving DecidableEq, Repr

mutual

inductive ClassItem where
  | literal (character : Literal)
  | range (first last : Literal)
  | ascii (span : Span) (kind : AsciiClass) (isNegated : Bool)
  | shorthand (span : Span) (kind : Shorthand) (isNegated : Bool)
  | property (span : Span) (kind : Property) (isNegated : Bool)
  | bracketed (span : Span) (isNegated : Bool) (set : ClassSet)

/-- Items together, or two sets combined. -/
inductive ClassSet where
  | items (span : Span) (items : List ClassItem)
  | combined (span : Span) (operation : SetOperation) (left right : ClassSet)

end

def ClassItem.span : ClassItem → Span
  | .literal character => character.span
  | .range first last => ⟨first.span.start, last.span.stop⟩
  | .ascii span _ _ => span
  | .shorthand span _ _ => span
  | .property span _ _ => span
  | .bracketed span _ _ => span

namespace ClassSet

def span : ClassSet → Span
  | .items span _ => span
  | .combined span _ _ _ => span

/-- Items as a set. Without items it has no width, and stands at a place. -/
def ofItems (place : Place) (items : List ClassItem) : ClassSet :=
  match items.head?, items.getLast? with
  | some first, some last => .items ⟨first.span.start, last.span.stop⟩ items
  | _, _ => .items (Span.point place) []

end ClassSet

inductive Node where
  | empty
  | flags (items : List FlagItem)
  | atom (part : Atom)
  | bracketed (span : Span) (isNegated : Bool) (set : ClassSet)
  | repetition (span : Span) (least : Nat) (most : Option Nat) (body : Node)
  | group (span : Span) (items : List FlagItem) (body : Node)
  | alternation (span : Span) (branches : List Node)
  | concat (span : Span) (parts : List Node)

namespace Node

/-- Parts in a row, as one. -/
def ofParts (span : Span) : List Node → Node
  | [] => .empty
  | [part] => part
  | parts => .concat span parts

/-- The stretch of a part that can be repeated. Flags alone cannot be, and neither can nothing. -/
def span? : Node → Option Span
  | .empty | .flags _ => none
  | .atom part => some part.span
  | .bracketed span _ _ => some span
  | .repetition span _ _ _ => some span
  | .group span _ _ => some span
  | .alternation span _ => some span
  | .concat span _ => some span

end Node

end Pseudoclock.Pattern
