/-!
Places in the text of a pattern, and stretches of it. Faults point at them.
-/

namespace Pseudoclock.Pattern

/-- A place in a text: its line and column, both counted from one. -/
structure Place where
  line : Nat := 1
  column : Nat := 1
deriving DecidableEq, Repr

namespace Place

def behind (place : Place) (c : Char) : Place :=
  if c = '\n' then ⟨place.line + 1, 1⟩ else ⟨place.line, place.column + 1⟩

def isBefore (place other : Place) : Bool :=
  place.line < other.line || (place.line == other.line && place.column < other.column)

end Place

/-- A stretch of a text, from a place up to another one. -/
structure Span where
  start : Place
  stop : Place
deriving DecidableEq, Repr

namespace Span

def point (place : Place) : Span := ⟨place, place⟩

def isOneLine (span : Span) : Bool := span.start.line == span.stop.line

/-- Whether a stretch begins before another one, or begins with it and ends first. -/
def isBefore (span other : Span) : Bool :=
  span.start.isBefore other.start || (span.start == other.start && span.stop.isBefore other.stop)

end Span

end Pseudoclock.Pattern
