/-!
Blank characters: those that Unicode counts as white space.
-/

namespace Pseudoclock

/-- Runs of blank characters, by their first and last code point. -/
def blankRanges : List (Nat × Nat) :=
  [(0x09, 0x0d), (0x20, 0x20), (0x85, 0x85), (0xa0, 0xa0), (0x1680, 0x1680), (0x2000, 0x200a),
    (0x2028, 0x2029), (0x202f, 0x202f), (0x205f, 0x205f), (0x3000, 0x3000)]

def isBlank (c : Char) : Bool :=
  blankRanges.any fun range => range.1 ≤ c.toNat && c.toNat ≤ range.2

def trimBlanks (text : String) : String :=
  let trimmed := (text.toList.dropWhile isBlank).reverse.dropWhile isBlank
  String.ofList trimmed.reverse

end Pseudoclock
