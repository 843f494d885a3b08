import Pseudoclock.Pattern.Tree

/-!
Sets of characters, given by the code points at which membership begins or ends. Every combination
of two sets is found by one walk over the code points at which either changes.
-/

namespace Pseudoclock.Pattern

/-- A set of code points. Walking up from zero one is outside, and at each edge one crosses over. -/
structure CharSet where
  edges : List Nat
deriving DecidableEq, Repr

namespace CharSet

def none : CharSet := ⟨[]⟩

/-- The code points from a first to a last one. -/
def range (first last : Nat) : CharSet := ⟨[first, last + 1]⟩

def single (c : Char) : CharSet := range c.toNat c.toNat

/-- Whether a code point is in a set: an odd number of edges lies at or below it. -/
def contains (set : CharSet) (code : Nat) : Bool :=
  (set.edges.countP (· ≤ code)) % 2 == 1

/-- The code points whose membership in the two sets is as wanted. Those in neither are not. -/
def combine (isWanted : Bool → Bool → Bool) (left right : CharSet) : CharSet :=
  let candidates := (left.edges ++ right.edges).mergeSort (· ≤ ·)
  ⟨(candidates.foldl (fun (isInside, edges) code =>
    let isNowInside := isWanted (left.contains code) (right.contains code)
    if isNowInside == isInside then (isInside, edges) else (isNowInside, edges ++ [code]))
    (false, [])).2⟩

def union : CharSet → CharSet → CharSet := combine fun a b => a || b

def intersection : CharSet → CharSet → CharSet := combine fun a b => a && b

def difference : CharSet → CharSet → CharSet := combine fun a b => a && !b

def symmetricDifference : CharSet → CharSet → CharSet := combine fun a b => a ^^ b

/-- The code points in some ranges, each given by its first and last character. -/
def ofRanges (ranges : List (Char × Char)) : CharSet :=
  ranges.foldl (fun set (first, last) => set.union (range first.toNat last.toNat)) none

/-- The code points up to a greatest one that are not in a set. -/
def complement (greatest : Nat) (set : CharSet) : CharSet := (range 0 greatest).difference set

/-- How many separate runs of code points a set has. -/
def runs (set : CharSet) : Nat := set.edges.length / 2

def isAscii (set : CharSet) : Bool := set.edges.all (· ≤ 128)

def capitals : CharSet := ofRanges [('A', 'Z')]

def smalls : CharSet := ofRanges [('a', 'z')]

/-- A set with both cases of its ASCII letters. -/
def foldAscii (set : CharSet) : CharSet :=
  let lowered := (set.intersection capitals).edges.map (· + 32)
  let raised := (set.intersection smalls).edges.map (· - 32)
  (set.union ⟨lowered⟩).union ⟨raised⟩

def ofShorthand : Shorthand → CharSet
  | .digit => ofRanges [('0', '9')]
  | .blank => ofRanges [('\t', '\r'), (' ', ' ')]
  | .word => ofRanges [('0', '9'), ('A', 'Z'), ('_', '_'), ('a', 'z')]

def ofAscii : AsciiClass → CharSet
  | .alnum => ofRanges [('0', '9'), ('A', 'Z'), ('a', 'z')]
  | .alpha => ofRanges [('A', 'Z'), ('a', 'z')]
  | .ascii => ofRanges [('\x00', '\x7f')]
  | .blank => ofRanges [('\t', '\t'), (' ', ' ')]
  | .cntrl => ofRanges [('\x00', '\x1f'), ('\x7f', '\x7f')]
  | .digit => ofRanges [('0', '9')]
  | .graph => ofRanges [('!', '~')]
  | .lower => smalls
  | .print => ofRanges [(' ', '~')]
  | .punct => ofRanges [('!', '/'), (':', '@'), ('[', '\x60'), ('\x7b', '~')]
  | .space => ofRanges [('\t', '\r'), (' ', ' ')]
  | .upper => capitals
  | .word => ofRanges [('0', '9'), ('A', 'Z'), ('_', '_'), ('a', 'z')]
  | .xdigit => ofRanges [('0', '9'), ('A', 'F'), ('a', 'f')]

end CharSet

def SetOperation.apply : SetOperation → CharSet → CharSet → CharSet
  | .intersection => CharSet.intersection
  | .difference => CharSet.difference
  | .symmetricDifference => CharSet.symmetricDifference

end Pseudoclock.Pattern
