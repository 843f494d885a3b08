import Pseudoclock.Pattern.Tree

/-!
How deep a pattern is nested. Of a pattern that is nested too deep, the first part beyond the limit
is found.
-/

namespace Pseudoclock.Pattern

mutual

/-- The first part of an item that lies deeper than is allowed. -/
def ClassItem.tooDeep? (allowed : Nat) : ClassItem → Option Span
  | .bracketed span _ set => if allowed = 0 then some span else set.tooDeep? (allowed - 1)
  | .literal _ | .range _ _ | .ascii _ _ _ | .shorthand _ _ _ | .property _ _ _ => none

/-- The first part of a set that lies deeper than is allowed. Several items are a level of their
own. -/
def ClassSet.tooDeep? (allowed : Nat) : ClassSet → Option Span
  | .items span items =>
    if items.length < 2 then firstTooDeepItem? allowed items
    else if allowed = 0 then some span
    else firstTooDeepItem? (allowed - 1) items
  | .combined span _ left right =>
    if allowed = 0 then some span
    else left.tooDeep? (allowed - 1) <|> right.tooDeep? (allowed - 1)

def firstTooDeepItem? (allowed : Nat) : List ClassItem → Option Span
  | [] => none
  | item :: items => item.tooDeep? allowed <|> firstTooDeepItem? allowed items

end

mutual

def Node.tooDeep? (allowed : Nat) : Node → Option Span
  | .empty | .flags _ | .atom _ => none
  | .bracketed span _ set => if allowed = 0 then some span else set.tooDeep? (allowed - 1)
  | .repetition span _ _ body => if allowed = 0 then some span else body.tooDeep? (allowed - 1)
  | .group span _ body => if allowed = 0 then some span else body.tooDeep? (allowed - 1)
  | .alternation span branches =>
    if allowed = 0 then some span else firstTooDeep? (allowed - 1) branches
  | .concat span parts => if allowed = 0 then some span else firstTooDeep? (allowed - 1) parts

def firstTooDeep? (allowed : Nat) : List Node → Option Span
  | [] => none
  | part :: parts => part.tooDeep? allowed <|> firstTooDeep? allowed parts

end

end Pseudoclock.Pattern
