import Pseudoclock.Pattern.CharSet
import Pseudoclock.Pattern.Reach

/-!
What a pattern asks of a text, and where texts satisfy it.
-/

namespace Pseudoclock.Pattern

/-- What is asked of a position in a text. -/
inductive Anchor where
  | textStart
  | textEnd
  | lineStart
  | lineEnd
  /-- Where a line starts if a carriage return ends lines too. -/
  | carriageStart
  /-- Where a line ends if a carriage return ends lines too. -/
  | carriageEnd
  /-- An edge of words, which are made of ASCII letters, digits and underscores. -/
  | asciiWord (kind : WordEdge)
  /-- An edge of words of any script, of which no table is kept. -/
  | unicodeWord (kind : WordEdge)
deriving DecidableEq, Repr

inductive Expression where
  | empty
  | one (set : CharSet)
  | anchor (kind : Anchor)
  | sequence (first second : Expression)
  | choice (left right : Expression)
  | repeated (least : Nat) (most : Option Nat) (body : Expression)
deriving DecidableEq, Repr

/-- Whether a position, given by whether parts of words stand before and behind it, is such an
edge. -/
def WordEdge.holds (kind : WordEdge) (before behind : Bool) : Bool :=
  match kind with
  | .either => before != behind
  | .neither => before == behind
  | .start => !before && behind
  | .stop => before && !behind
  | .startHalf => !before
  | .stopHalf => !behind

def isWordChar (c : Char) : Bool := (CharSet.ofShorthand .word).contains c.toNat

namespace Anchor

/-- Whether a position, given by the characters before and behind it, is as asked for. Edges of
words of any script are never found. -/
def holds (kind : Anchor) (before behind : Option Char) : Bool :=
  match kind with
  | .textStart => before.isNone
  | .textEnd => behind.isNone
  | .lineStart => before.all (· == '\n')
  | .lineEnd => behind.all (· == '\n')
  | .carriageStart => before.all fun c => c == '\n' || (c == '\r' && behind != some '\n')
  | .carriageEnd => behind.all fun c => c == '\r' || (c == '\n' && before != some '\r')
  | .asciiWord kind => kind.holds (before.any isWordChar) (behind.any isWordChar)
  | .unicodeWord _ => false

end Anchor

namespace Expression

/-- The positions of a text that satisfy a condition on the characters before and behind them. -/
def positionsWhere (text : List Char) (holds : Option Char → Option Char → Bool) : Positions :=
  Positions.ofList (List.zipWith holds (none :: text.map some) (text.map some ++ [none]))

/-- Where matches of an expression lead in a text. -/
def reach (text : List Char) : Expression → Reach
  | .empty => Reach.still (positionsWhere text fun _ _ => true)
  | .one set => Reach.forward (positionsWhere text fun _ c => c.any (set.contains ·.toNat))
  | .anchor kind => Reach.still (positionsWhere text kind.holds)
  | .sequence first second => (first.reach text).andThen (second.reach text)
  | .choice left right => (left.reach text).either (right.reach text)
  | .repeated least most body => (body.reach text).repeated (text.length + 1) least most

def occursIn (expression : Expression) (text : String) : Bool :=
  let characters := text.toList
  (expression.reach characters).ends (positionsWhere characters fun _ _ => true) != 0

/-- A repetition, of what repeats already at most once. -/
def repeatOnce (least : Nat) (most : Option Nat) (body : Expression) : Expression :=
  if most = some 0 then .empty
  else match body with
    | .repeated 0 none inner => .repeated 0 none inner
    | .repeated 1 none inner => .repeated least none inner
    | body => .repeated least most body

/-- An expression with the same matches, in which repetitions of repetitions are one. -/
def flattened : Expression → Expression
  | .empty => .empty
  | .one set => .one set
  | .anchor kind => .anchor kind
  | .sequence first second => .sequence first.flattened second.flattened
  | .choice left right => .choice left.flattened right.flattened
  | .repeated least most body => repeatOnce least most body.flattened

def asksScripts : Expression → Bool
  | .anchor (.unicodeWord _) => true
  | .empty | .one _ | .anchor _ => false
  | .sequence first second => first.asksScripts || second.asksScripts
  | .choice left right => left.asksScripts || right.asksScripts
  | .repeated _ _ body => body.asksScripts

/-- Whether an expression matches nothing but the empty text. -/
def isStill : Expression → Bool
  | .empty | .anchor _ => true
  | .one _ => false
  | .sequence first second => first.isStill && second.isStill
  | .choice left right => left.isStill && right.isStill
  | .repeated _ most body => most == some 0 || body.isStill

/-- The room that a set of characters takes up, in bytes: a state for each byte of a single
character, a table for ASCII characters, and for others a state for each byte of each way to write
them. -/
def setSize (set : CharSet) : Nat :=
  match set.edges with
  | [first, stop] =>
    if stop = first + 1 then 32 * (Char.ofNat first).utf8Size
    else if set.isAscii then 64
    else otherSize
  | _ => if set.isAscii then 64 + 8 * set.runs else otherSize
where
  otherSize : Nat := 928 + 36 * (set.intersection (CharSet.range 0 127)).runs

/-- The room that an expression takes up once all repetitions are written out, in bytes. -/
def size : Expression → Nat
  | .empty | .anchor _ => 32
  | .one set => setSize set
  | .sequence first second => first.size + second.size
  | .choice left right => left.size + right.size + 40
  | .repeated least most body =>
    let least := if body.isStill then min least 1 else least
    match most with
    | none => if body.isStill then 64 + body.size else max least 1 * body.size + 40
    | some most =>
      let most := if body.isStill then min most 1 else most
      least * body.size + (most - least) * (body.size + 40) + 32

end Expression

end Pseudoclock.Pattern
