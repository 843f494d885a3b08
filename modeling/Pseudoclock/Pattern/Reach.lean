/-!
Where matches can end. Positions of a text are numbered from zero, before the first character, on.
A set of positions is a number whose bits say which are in it. A reach leads from the positions
where matches may begin to those where they can end.
-/

namespace Pseudoclock.Pattern

/-- A set of positions, by its bits. -/
abbrev Positions := Nat

/-- The positions, counted from zero, at which a list says so. -/
def Positions.ofList (flags : List Bool) : Positions :=
  flags.foldr (fun flag positions => 2 * positions + flag.toNat) 0

/-- The ends of the matches that begin at some positions. -/
structure Reach where
  ends : Positions → Positions

namespace Reach

/-- Matches of nothing, at some positions. -/
def still (positions : Positions) : Reach := ⟨fun starts => starts &&& positions⟩

/-- Matches of one character, from some positions. -/
def forward (positions : Positions) : Reach := ⟨fun starts => (starts &&& positions) <<< 1⟩

def either (left right : Reach) : Reach := ⟨fun starts => left.ends starts ||| right.ends starts⟩

def andThen (first second : Reach) : Reach := ⟨fun starts => second.ends (first.ends starts)⟩

/-- Some steps from one set of positions to the next. Once a step changes nothing, no later one
does. -/
def iterate (step : Positions → Positions) : (count : Nat) → Positions → Positions
  | 0, positions => positions
  | count + 1, positions =>
    let next := step positions
    if next = positions then positions else iterate step count next

/-- Matches of one kind, in a row, at least and at most so many of them. More than `limit` of them,
the number of positions, need not be tried: beyond it some match has no width and can be left
out. -/
def repeated (reach : Reach) (limit least : Nat) (most : Option Nat) : Reach :=
  let optional := match most with
    | some most => min (most - least) limit
    | none => limit
  ⟨fun starts =>
    iterate (fun positions => positions ||| reach.ends positions) optional
      (iterate reach.ends (min least limit) starts)⟩

end Reach

end Pseudoclock.Pattern
