import Pseudoclock.Error
import Pseudoclock.Json.Reading
import Pseudoclock.OrderedMap

/-!
Typed values from documents. A decoder takes a part of a document and refuses it at its first
fault. An object with fixed fields may also be written as the list of its fields; fields that it
does not know are skipped, and only their form is checked.
-/

namespace Pseudoclock.Json

/-- Takes a value from a part of a document. -/
abbrev Decoder (α : Type) := Reading → Except DocumentFault α

def malformed {α : Type} : Except DocumentFault α :=
  .error .malformed

mutual

/-- Whether a part has the form of a document throughout. -/
def Reading.isComplete : Reading → Bool
  | .null | .bool _ | .number _ | .string _ => true
  | .array items => itemsComplete items
  | .object fields => fieldsComplete fields
  | .broken => false

def itemsComplete : List Reading → Bool
  | [] => true
  | item :: items => item.isComplete && itemsComplete items

def fieldsComplete : List (Option String × Reading) → Bool
  | [] => true
  | (_, value) :: fields => value.isComplete && fieldsComplete fields

end

mutual

/-- Whether a part can be kept until its type is known: its strings have contents, its numbers are
in range, and it nests at most `depth` lists and objects. -/
def Reading.isKept (depth : Nat) : Reading → Bool
  | .null | .bool _ => true
  | .number numeral => numeral.toFloat?.isSome
  | .string content => content.isSome
  | .array items => depth != 0 && itemsKept (depth - 1) items
  | .object fields => depth != 0 && fieldsKept (depth - 1) fields
  | .broken => false

def itemsKept (depth : Nat) : List Reading → Bool
  | [] => true
  | item :: items => item.isKept depth && itemsKept depth items

def fieldsKept (depth : Nat) : List (Option String × Reading) → Bool
  | [] => true
  | (name, value) :: fields => name.isSome && value.isKept depth && fieldsKept depth fields

end

/-- How many lists and objects may be nested in what is kept. -/
def greatestDepth : Nat := 127

def decode {α : Type} (decoder : Decoder α) (text : String) : Except DocumentFault α := do
  let document := read text
  let value ← decoder document.root
  if document.hasTrailer then malformed else return value

namespace Decode

variable {α : Type}

/-- A whole number up to `greatest`. -/
def natural (greatest : Nat) : Decoder Nat
  | .number numeral =>
    match numeral.toNat? with
    | some n => if n ≤ greatest then .ok n else malformed
    | none => malformed
  | _ => malformed

def uint8 : Decoder UInt8 := fun r => return UInt8.ofNat (← natural (UInt8.size - 1) r)

def uint32 : Decoder UInt32 := fun r => return UInt32.ofNat (← natural (UInt32.size - 1) r)

def uint64 : Decoder UInt64 := fun r => return UInt64.ofNat (← natural (UInt64.size - 1) r)

def count : Decoder Nat := natural (UInt64.size - 1)

def float : Decoder Float
  | .number numeral =>
    match numeral.toFloat? with
    | some x => .ok x
    | none => malformed
  | _ => malformed

def bool : Decoder Bool
  | .bool b => .ok b
  | _ => malformed

def string : Decoder String
  | .string (some s) => .ok s
  | _ => malformed

/-- Nothing for `null`, and a value for anything else. -/
def nullable (decoder : Decoder α) : Decoder (Option α)
  | .null => .ok none
  | r => return some (← decoder r)

def list (decoder : Decoder α) : Decoder (List α)
  | .array items => items.mapM decoder
  | _ => malformed

def entry (decoder : Decoder α) (field : Option String × Reading) :
    Except DocumentFault (String × α) :=
  match field.1 with
  | some name => return (name, ← decoder field.2)
  | none => malformed

def map (decoder : Decoder α) : Decoder (OrderedMap α)
  | .object fields => return OrderedMap.ofEntries (← fields.mapM (entry decoder))
  | _ => malformed

end Decode

/-- The parts of an object with fixed fields, by name. -/
structure Record where
  parts : List (String × Reading)

namespace Record

variable {α : Type}

def named (field : Option String × Reading) : Except DocumentFault (String × Reading) :=
  match field.1 with
  | some name => .ok (name, field.2)
  | none => malformed

/-- The known ones among named fields. None of them may be repeated; the others are skipped. -/
def ofNamed (known : List String) (fields : List (String × Reading)) :
    Except DocumentFault Record :=
  let (parts, others) := fields.partition (known.contains ·.1)
  if (parts.map (·.1)).Nodup && others.all (·.2.isComplete) then .ok ⟨parts⟩ else malformed

/-- The fields of an object that is written as a list of them. -/
def ofItems (known : List String) (items : List Reading) : Except DocumentFault Record :=
  if items.length ≤ known.length then .ok ⟨known.zip items⟩ else malformed

/-- The fields of an object in either form. -/
def ofReading (known : List String) : Reading → Except DocumentFault Record
  | .object fields => do ofNamed known (← fields.mapM named)
  | .array items => ofItems known items
  | _ => malformed

def required (record : Record) (name : String) (decoder : Decoder α) : Except DocumentFault α :=
  match record.parts.lookup name with
  | some part => decoder part
  | none => malformed

def optional (record : Record) (name : String) (missing : α) (decoder : Decoder α) :
    Except DocumentFault α :=
  match record.parts.lookup name with
  | some part => decoder part
  | none => .ok missing

end Record

end Pseudoclock.Json
