/-!
Traces: what was on an output, or on a bank of outputs, from each of a list of times on.
-/

namespace Pseudoclock

/-- `values[i]` holds from `times[i]` on. Written files may hold columns of unequal length; samples
are then counted by the shorter one. -/
structure Trace (α : Type) where
  times : List Float
  values : List α
deriving DecidableEq

namespace Trace

variable {α β : Type}

def ofSamples (samples : List (Float × α)) : Trace α :=
  ⟨samples.map (·.1), samples.map (·.2)⟩

def samples (trace : Trace α) : List (Float × α) :=
  trace.times.zip trace.values

def length (trace : Trace α) : Nat :=
  trace.times.length

@[simp] theorem times_ofSamples (samples : List (Float × α)) :
    (ofSamples samples).times = samples.map (·.1) := rfl

@[simp] theorem values_ofSamples (samples : List (Float × α)) :
    (ofSamples samples).values = samples.map (·.2) := rfl

@[simp] theorem samples_ofSamples (samples : List (Float × α)) :
    (ofSamples samples).samples = samples := by
  simp [Trace.samples, ofSamples, List.zip_map']

end Trace

end Pseudoclock
