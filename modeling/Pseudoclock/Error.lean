import Pseudoclock.Decimal.Style
import Pseudoclock.Instruction

/-!
Everything that can be refused, as causes. The wording of a cause is in one place, `message`.
-/

namespace Pseudoclock

inductive Delay where
  | trigger
  | wait
deriving DecidableEq, Repr

/-- A delay's name in documents and messages. -/
def Delay.field : Delay → String
  | .trigger => "trigger_delay"
  | .wait => "wait_delay"

/-- Why a program cannot be had from a table or played on a device. -/
inductive ProgramFault where
  /-- Fewer instructions than a stop sequence has. -/
  | missingStop (found : Nat)
  /-- A stored word drives outputs that do not exist. -/
  | strayWord (index : Nat) (word : UInt64) (channels : Nat)
  /-- Two columns of a table differ in length. -/
  | raggedColumns (left : String) (leftRows : Nat) (right : String) (rightRows : Nat)
  /-- A table holds the other kind of instruction. -/
  | wrongShape (expected found : Shape)
  | missingTable (device table : String)
deriving DecidableEq, Repr

inductive CalibrationFault where
  | resolution (value : Float)
  | delay (which : Delay) (value : Float)
  | deviceDelay (device : String) (which : Delay) (value : Float)
  | missingDelay (device : String) (which : Delay)
deriving DecidableEq, Repr

inductive TimelineFault where
  | notFinite (time : Float)
  | unsorted (time previous : Float)
  | waitWhileHigh (time : Float)
  | riseWhileHigh (time : Float)
  | fallWhileLow (time : Float)
  | lateFirstRise (time : Float)
  | unequalPhases (time : Float) (high low : Int)
  | shortPhase (time : Float) (high : Int) (least : UInt32)
  | longPhase (time : Float) (high : Int)
  | notALevel (time : Float) (level : UInt64)
  | endsHigh
  | strayWord (word : UInt64) (time : Float) (channels : Nat)
  | sameTick (time next : Float)
  | longHold (time : Float) (ticks : Int)
  | unknownTable (device table : String)
  /-- A record with both a level and a wait, or with neither. -/
  | ambiguousEvent (time : Float)
deriving DecidableEq, Repr

inductive TraceFault where
  | unequalLengths (times levels : Nat)
  | notALevel (level : UInt8)
  | unordered
deriving DecidableEq, Repr

inductive LayoutFault where
  | width (wordBits : UInt32)
  | channelCount (channels : Nat) (wordBits : UInt32)
  | nameCount (device : String) (names channels : Nat)
deriving DecidableEq, Repr

inductive DeviceFault where
  | noRoomForStop (maxInstructions : Nat)
  | zeroMinPeriod
  | noPseudoclocks (device : String)
  | emptyTableName (device : String)
  | emptyChannelName (device : String)
  | repeatedChannelName (device name : String)
deriving DecidableEq, Repr

/-- Why a document cannot be read: either its text does not have the form that is asked for, or
the values in it are refused as soon as they have been read. -/
inductive DocumentFault where
  | malformed
  | timeline (fault : TimelineFault)
  | trace (fault : TraceFault)
deriving DecidableEq, Repr

/-- What can be refused, by whom it is refused. -/
inductive Error where
  | capacityExceeded (required max : Nat)
  | malformedProgram (fault : ProgramFault)
  /-- The edge `requested`, counted from one, was awaited, but the list ends before it. -/
  | triggerExhausted (requested available : Nat)
  | unsupportedCalibration (fault : CalibrationFault)
  | invalidTimeline (fault : TimelineFault)
  | invalidTrace (fault : TraceFault)
  | invalidLayout (fault : LayoutFault)
  | invalidDevice (fault : DeviceFault)
  | unreadable (fault : DocumentFault)
deriving DecidableEq, Repr

/-- A word in hexadecimal digits. -/
def hexWord (word : UInt64) : String :=
  "0x" ++ String.ofList (Nat.toDigits 16 word.toNat)

def ProgramFault.message : ProgramFault → String
  | .missingStop found =>
    s!"expected at least {stopLength} instructions for the stop sequence, found {found}"
  | .strayWord index word channels =>
    s!"instruction {index} stores word {hexWord word}, which drives more than {channels} channels"
  | .raggedColumns left leftRows right rightRows =>
    s!"column `{left}` has {leftRows} rows but column `{right}` has {rightRows}"
  | .wrongShape expected found => s!"expected a {expected.columns} table, found {found.columns}"
  | .missingTable device table => s!"dataset of device '{device}' has no table '{table}'"

def CalibrationFault.message : CalibrationFault → String
  | .resolution value =>
    s!"`clock_resolution` must be a positive number of seconds, got {Decimal.text value}"
  | .delay which value => s!"{unusable which value}"
  | .deviceDelay device which value => s!"device '{device}': {unusable which value}"
  | .missingDelay device which => s!"device '{device}' does not define `{which.field}`"
where
  unusable (which : Delay) (value : Float) : String :=
    s!"`{which.field}` must be a finite, non-negative number of seconds, got {Decimal.text value}"

def TimelineFault.message : TimelineFault → String
  | .notFinite time => s!"event time {Decimal.text time} is not finite"
  | .unsorted time previous =>
    s!"events must be sorted by time, but {Decimal.text time} follows {Decimal.text previous}"
  | .waitWhileHigh time => s!"wait at {Decimal.text time} while the clock line is high"
  | .riseWhileHigh time =>
    s!"rising edge at {Decimal.text time} while the clock line is already high"
  | .fallWhileLow time => s!"falling edge at {Decimal.text time} while the clock line is low"
  | .lateFirstRise time =>
    s!"the first rising edge must be at program start, found it at {Decimal.text time}"
  | .unequalPhases time high low =>
    s!"cycle ending at {Decimal.text time} is high for {high} but low for {low} half ticks"
  | .shortPhase time high least =>
    s!"high phase ending at {Decimal.text time} lasts {high} half ticks, the device needs at least "
      ++ toString least
  | .longPhase time high =>
    s!"high phase ending at {Decimal.text time} lasts {high} half ticks, "
      ++ "which exceeds the period register"
  | .notALevel time level =>
    s!"clock line level at {Decimal.text time} must be 0 or 1, got {level}"
  | .endsHigh => "timeline ends while the clock line is high"
  | .strayWord word time channels =>
    s!"word {hexWord word} at {Decimal.text time} drives more than {channels} channels"
  | .sameTick time next =>
    s!"events at {Decimal.text time} and {Decimal.text next} fall into the same clock tick"
  | .longHold time ticks =>
    s!"word at {Decimal.text time} is held for {ticks} ticks, which exceeds the repetition register"
  | .unknownTable device table => s!"device '{device}' has no table named '{table}'"
  | .ambiguousEvent time =>
    s!"event at {Decimal.text time} must carry either a level or `wait: true`"

def TraceFault.message : TraceFault → String
  | .unequalLengths times levels => s!"{times} timestamps but {levels} levels"
  | .notALevel level => s!"levels must be 0 or 1, found {level}"
  | .unordered => "timestamps must be in ascending order"

def LayoutFault.message : LayoutFault → String
  | .width wordBits => s!"word width must be 8, 16, 32 or 64 bits, got {wordBits}"
  | .channelCount channels wordBits =>
    s!"{channels} channels do not fit into a {wordBits} bit word"
  | .nameCount device names channels =>
    s!"device '{device}' names {names} channels but the layout has {channels}"

def DeviceFault.message : DeviceFault → String
  | .noRoomForStop maxInstructions =>
    s!"`max_instructions` must leave room for the {stopLength} instruction stop sequence, got "
      ++ toString maxInstructions
  | .zeroMinPeriod => "`min_period` must be at least 1"
  | .noPseudoclocks device => s!"device '{device}' declares no pseudoclocks"
  | .emptyTableName device => s!"device '{device}' has an empty table name"
  | .emptyChannelName device => s!"device '{device}' has an empty channel name"
  | .repeatedChannelName device name => s!"device '{device}' uses the channel name '{name}' twice"

/-- Refused timelines are announced in the same words wherever they are found. -/
def announceTimeline (fault : TimelineFault) : String :=
  s!"timeline cannot be encoded: {fault.message}"

/-- Refused clock traces are announced in the same words wherever they are found. -/
def announceTrace (fault : TraceFault) : String :=
  s!"invalid reference trace: {fault.message}"

def DocumentFault.message : DocumentFault → String
  | .malformed => "malformed document"
  | .timeline fault => announceTimeline fault
  | .trace fault => announceTrace fault

def Error.message : Error → String
  | .capacityExceeded required max =>
    s!"program needs {required} instructions including the stop sequence, "
      ++ s!"but the device holds at most {max}"
  | .malformedProgram fault => s!"malformed program: {fault.message}"
  | .triggerExhausted requested available =>
    s!"wait requires trigger edge #{requested}, "
      ++ s!"but only {available} trigger edges are available"
  | .unsupportedCalibration fault => s!"unsupported calibration: {fault.message}"
  | .invalidTimeline fault => announceTimeline fault
  | .invalidTrace fault => announceTrace fault
  | .invalidLayout fault => s!"invalid snapshot layout: {fault.message}"
  | .invalidDevice fault => fault.message
  | .unreadable fault => fault.message

end Pseudoclock
