import Pseudoclock.Pattern.Meaning
import Pseudoclock.Pattern.Reading

/-!
Patterns, which messages are searched for.
-/

namespace Pseudoclock

/-- A pattern, by what it asks of a text. -/
structure Pattern where
  expression : Pattern.Expression
deriving DecidableEq, Repr

namespace Pattern

inductive Refusal where
  | faulty (fault : Fault)
  | tooLarge
  /-- Edges of words of any script, which cannot be found. -/
  | scripts
deriving DecidableEq, Repr

/-- How much room a pattern may take up, in bytes. -/
def sizeLimit : Nat := 10 <<< 20

def Refusal.message (text : String) : Refusal → String
  | .faulty fault => fault.report text
  | .tooLarge => s!"Compiled regex exceeds size limit of {sizeLimit} bytes."
  | .scripts => "error building NFA"

def ofText (text : String) : Except Refusal Pattern := do
  let node ← (Node.ofText text).mapError .faulty
  let (expression, _) ← (node.meaning {}).mapError .faulty
  if sizeLimit < expression.size then throw .tooLarge
  if expression.asksScripts then throw .scripts
  return ⟨expression.flattened⟩

def occursIn (pattern : Pattern) (text : String) : Bool := pattern.expression.occursIn text

end Pattern

end Pseudoclock
