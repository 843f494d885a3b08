import Pseudoclock.Pattern.Place

/-!
What can be wrong with a pattern, and how it is reported: the pattern with marks below the part
that is at fault, and then the cause.
-/

namespace Pseudoclock.Pattern

inductive Cause where
  | escapeInClass
  | rangeReversed
  | rangeBound
  | classUnclosed
  | decimalInvalid
  | hexEmpty
  | hexInvalid
  | hexDigit
  | escapeUnfinished
  | escapeUnknown
  | flagDangling
  | flagDuplicate
  | flagNegatedTwice
  | flagUnfinished
  | flagUnknown
  | nameDuplicate
  | nameEmpty
  | nameInvalid
  | nameUnfinished
  | groupUnclosed
  | groupUnopened
  | tooDeep (limit : Nat)
  | countReversed
  | countEmpty
  | countUnclosed
  | repetitionMissing
  | wordEdgeUnclosed
  | wordEdgeUnknown
  | wordEdgeUnfinished
  | propertyInvalid
  | backreference
  | lookAround
  /-- Something that only patterns on characters can hold, in one on bytes. -/
  | unicodeRefused
  /-- Bytes that are no UTF-8 would match. -/
  | brokenText
  | propertyUnknown
  | propertyValueUnknown
  /-- A set of characters that is named by a letter, of which no table is kept. -/
  | shorthandUnavailable
  /-- Both cases of characters, of which no table is kept. -/
  | caselessUnavailable
deriving DecidableEq, Repr

def Cause.message : Cause → String
  | .escapeInClass => "invalid escape sequence found in character class"
  | .rangeReversed => "invalid character class range, the start must be <= the end"
  | .rangeBound => "invalid range boundary, must be a literal"
  | .classUnclosed => "unclosed character class"
  | .decimalInvalid => "decimal literal invalid"
  | .hexEmpty => "hexadecimal literal empty"
  | .hexInvalid => "hexadecimal literal is not a Unicode scalar value"
  | .hexDigit => "invalid hexadecimal digit"
  | .escapeUnfinished => "incomplete escape sequence, reached end of pattern prematurely"
  | .escapeUnknown => "unrecognized escape sequence"
  | .flagDangling => "dangling flag negation operator"
  | .flagDuplicate => "duplicate flag"
  | .flagNegatedTwice => "flag negation operator repeated"
  | .flagUnfinished => "expected flag but got end of regex"
  | .flagUnknown => "unrecognized flag"
  | .nameDuplicate => "duplicate capture group name"
  | .nameEmpty => "empty capture group name"
  | .nameInvalid => "invalid capture group character"
  | .nameUnfinished => "unclosed capture group name"
  | .groupUnclosed => "unclosed group"
  | .groupUnopened => "unopened group"
  | .tooDeep limit => s!"exceed the maximum number of nested parentheses/brackets ({limit})"
  | .countReversed => "invalid repetition count range, the start must be <= the end"
  | .countEmpty => "repetition quantifier expects a valid decimal"
  | .countUnclosed => "unclosed counted repetition"
  | .repetitionMissing => "repetition operator missing expression"
  | .wordEdgeUnclosed =>
    "special word boundary assertion is either unclosed or contains an invalid character"
  | .wordEdgeUnknown =>
    "unrecognized special word boundary assertion, valid choices are: "
      ++ "start, end, start-half or end-half"
  | .wordEdgeUnfinished =>
    "found either the beginning of a special word boundary or a bounded repetition on a \\b "
      ++ "with an opening brace, but no closing brace"
  | .propertyInvalid => "invalid Unicode character class"
  | .backreference => "backreferences are not supported"
  | .lookAround => "look-around, including look-ahead and look-behind, is not supported"
  | .unicodeRefused => "Unicode not allowed here"
  | .brokenText => "pattern can match invalid UTF-8"
  | .propertyUnknown => "Unicode property not found"
  | .propertyValueUnknown => "Unicode property value not found"
  | .shorthandUnavailable =>
    "Unicode-aware Perl class not found (make sure the unicode-perl feature is enabled)"
  | .caselessUnavailable =>
    "Unicode-aware case insensitivity matching is not available "
      ++ "(make sure the unicode-case feature is enabled)"

/-- A cause, the part of the pattern at fault, and an earlier part that it clashes with. -/
structure Fault where
  cause : Cause
  span : Span
  earlier : Option Span := none
deriving DecidableEq, Repr

namespace Fault

def run (count : Nat) (c : Char) : String := String.ofList (List.replicate count c)

def blanks (count : Nat) : String := run count ' '

/-- The lines of a text. A line break at its end opens no further line, and a carriage return
before a line break belongs to the break. -/
def lines (text : String) : List String :=
  let pieces := text.splitOn "\n"
  let ended := pieces.dropLast.map fun piece =>
    if piece.endsWith "\r" then String.ofList piece.toList.dropLast else piece
  match pieces.getLast? with
  | some last => if last.isEmpty then ended else ended ++ [last]
  | none => ended

/-- The parts to mark, in the order of the text. -/
def spans (fault : Fault) : List Span :=
  match fault.earlier with
  | none => [fault.span]
  | some earlier =>
    if fault.span.isBefore earlier then [fault.span, earlier] else [earlier, fault.span]

/-- The marks below a line: under each part as many as it is wide, and at least one. -/
def marks (spans : List Span) : String :=
  spans.foldl (fun marks span =>
    marks ++ blanks (span.start.column - 1 - marks.length)
      ++ run (max 1 (span.stop.column - span.start.column)) '^') ""

/-- How wide line numbers are. Lines of a pattern that has only one are not numbered. -/
def numberWidth (text : String) : Nat :=
  let count := (lines text).length + if text.endsWith "\n" then 1 else 0
  if count ≤ 1 then 0 else (toString count).length

def margin (width number : Nat) : String :=
  if width = 0 then blanks 4
  else s!"{blanks (width - (toString number).length)}{number}: "

/-- The lines of a pattern, with marks below those that hold a part at fault. -/
def notated (fault : Fault) (text : String) : String :=
  let width := numberWidth text
  String.join ((lines text).zipIdx.map fun (line, index) =>
    let marked := fault.spans.filter fun span => span.isOneLine && span.start.line == index + 1
    let indent := if width = 0 then 4 else width + 2
    let below := if marked.isEmpty then "" else s!"{blanks indent}{marks marked}\n"
    s!"{margin width (index + 1)}{line}\n{below}")

def note (span : Span) : String :=
  s!"on line {span.start.line} (column {span.start.column}) "
    ++ s!"through line {span.stop.line} (column {span.stop.column - 1})"

def report (fault : Fault) (text : String) : String :=
  let notated := fault.notated text
  let body :=
    if text.contains '\n' then
      let divider := run 79 '~' ++ "\n"
      let notes := (fault.spans.filter (!·.isOneLine)).map note
      divider ++ notated ++ divider
        ++ if notes.isEmpty then "" else "\n".intercalate notes ++ "\n"
    else notated
  s!"regex parse error:\n{body}error: {fault.cause.message}"

end Fault

end Pseudoclock.Pattern
