import Mathlib
import Pseudoclock.Timeline

/-!
Timelines as stretches of level events with runs of waits between them. The clock of a stretch
advances from each event to the next by the number of units between their positions.
-/

namespace Pseudoclock

/-- How many runs of elements with a property begin in a list. `inRun` says whether the element in
front of the list has the property. -/
def runsAfter {α : Type} (p : α → Bool) : Bool → List α → Nat
  | _, [] => 0
  | inRun, x :: rest => (if p x && !inRun then 1 else 0) + runsAfter p (p x) rest

/-- The number of maximal runs of elements with a property. -/
def runs {α : Type} (p : α → Bool) (list : List α) : Nat :=
  runsAfter p false list

/-- Runs are counted by what the elements are mapped to. -/
theorem runs_map {α β : Type} (p : β → Bool) (f : α → β) (list : List α) :
    runs p (list.map f) = runs (fun element => p (f element)) list := by
  have hafter : ∀ inRun, runsAfter p inRun (list.map f) = runsAfter (fun element => p (f element)) inRun list := by
    induction list with
    | nil => exact fun _ => rfl
    | cons element rest ih => exact fun inRun => congrArg _ (ih _)
  exact hafter false

def Event.isWait (event : Event) : Bool :=
  match event.kind with
  | .wait => true
  | .level _ => false

def Event.level? (event : Event) : Option UInt64 :=
  match event.kind with
  | .wait => none
  | .level level => some level

def Timeline.levels (timeline : Timeline) : List UInt64 :=
  timeline.filterMap Event.level?

@[simp] theorem Timeline.levels_level (time : Float) (level : UInt64) (rest : Timeline) :
    Timeline.levels (⟨time, .level level⟩ :: rest) = level :: rest.levels := rfl

@[simp] theorem Timeline.levels_wait (time : Float) (rest : Timeline) :
    Timeline.levels (⟨time, .wait⟩ :: rest) = rest.levels := rfl

def Timeline.waitRuns (timeline : Timeline) : Nat :=
  runs Event.isWait timeline

/-- Level events between two runs of waits, as times and levels, and the time of the first wait
behind them. There is none behind the last stretch of a timeline. -/
structure Stretch where
  edges : List (Float × UInt64)
  stop : Option Float
deriving DecidableEq

namespace Stretch

def origin (stretch : Stretch) : Float :=
  (stretch.edges.head?.map (·.1)).getD 0

/-- The times of a stretch's events and of the wait behind them. -/
def times (stretch : Stretch) : List Float :=
  stretch.edges.map (·.1) ++ stretch.stop.toList

/-- How many units pass from each event to the next one, which may be the wait behind the
stretch. -/
def steps (position : Float → Int) (stretch : Stretch) : List Int :=
  List.zipWith (fun here next => position next - position here) stretch.times stretch.times.tail

/-- The clock at each event, and at the wait behind the stretch if there is one. -/
def clocks (position : Float → Int) (unit start : Float) (stretch : Stretch) : List Float :=
  (stretch.steps position).scanl (fun clock step => clock + Float.ofInt step * unit) start

/-- The clock when a stretch is over. -/
def finish (position : Float → Int) (unit start : Float) (stretch : Stretch) : Float :=
  (stretch.steps position).foldl (fun clock step => clock + Float.ofInt step * unit) start

/-- The level events, each at the clock that has been reached there. -/
def samples (position : Float → Int) (unit start : Float) (stretch : Stretch) : List (Float × UInt64) :=
  (stretch.clocks position unit start).zip (stretch.edges.map (·.2))

/-- The clocks at the events and at the wait behind them. There are none if there is no event. -/
def eventClocks (position : Float → Int) (unit start : Float) (stretch : Stretch) : List Float :=
  (stretch.clocks position unit start).take stretch.times.length

def extend (time : Float) (level : UInt64) (stretch : Stretch) : Stretch :=
  { stretch with edges := (time, level) :: stretch.edges }

variable {position : Float → Int} {stretch : Stretch}

theorem steps_extend {next : Float} (hnext : stretch.times.head? = some next) (time : Float) (level : UInt64) :
    (stretch.extend time level).steps position =
      (position next - position time) :: stretch.steps position := by
  have htimes : (stretch.extend time level).times = time :: stretch.times := rfl
  rw [steps, steps, htimes]
  cases h : stretch.times with
  | nil => simp [h] at hnext
  | cons first rest =>
    obtain rfl : first = next := by simpa [h] using hnext
    rfl

theorem steps_extend_nil (hnone : stretch.times = []) (time : Float) (level : UInt64) :
    (stretch.extend time level).steps position = [] := by
  have htimes : (stretch.extend time level).times = [time] := by
    rw [← hnone]
    rfl
  rw [steps, htimes]
  rfl

/-- The event in front is shown at once, and the others when it has been held. -/
theorem samples_extend {next : Float} (hnext : stretch.times.head? = some next) (time : Float)
    (level : UInt64) (unit start : Float) :
    (stretch.extend time level).samples position unit start = (start, level) ::
      stretch.samples position unit (start + Float.ofInt (position next - position time) * unit) := by
  rw [samples, clocks, steps_extend hnext, List.scanl_cons]
  rfl

theorem samples_extend_nil (hnone : stretch.times = []) (time : Float) (level : UInt64) (unit start : Float) :
    (stretch.extend time level).samples position unit start = [(start, level)] := by
  rw [samples, clocks, steps_extend_nil hnone, List.scanl_nil]
  simp [extend]

theorem finish_extend {next : Float} (hnext : stretch.times.head? = some next) (time : Float)
    (level : UInt64) (unit start : Float) :
    (stretch.extend time level).finish position unit start =
      stretch.finish position unit (start + Float.ofInt (position next - position time) * unit) := by
  rw [finish, steps_extend hnext]
  rfl

theorem eventClocks_extend {next : Float} (hnext : stretch.times.head? = some next) (time : Float)
    (level : UInt64) (unit start : Float) :
    (stretch.extend time level).eventClocks position unit start =
      start :: stretch.eventClocks position unit (start + Float.ofInt (position next - position time) * unit) := by
  have htimes : (stretch.extend time level).times = time :: stretch.times := rfl
  rw [eventClocks, clocks, steps_extend hnext, htimes, List.scanl_cons]
  rfl

theorem values_samples (unit start : Float) :
    (stretch.samples position unit start).map (·.2) = stretch.edges.map (·.2) := by
  refine List.map_snd_zip ?_
  simp only [clocks, steps, times, List.length_map, List.length_scanl, List.length_zipWith,
    List.length_tail, List.length_append]
  omega

/-- The steps telescope, so that no position between the first and the last one matters. -/
theorem sum_take_steps {first : Float} (hfirst : stretch.times.head? = some first) {index : Nat}
    (hindex : index < stretch.times.length) :
    ((stretch.steps position).take index).sum = position stretch.times[index] - position first := by
  induction index with
  | zero =>
    obtain rfl : stretch.times[0] = first := by simpa [List.head?_eq_getElem?, hindex] using hfirst
    simp
  | succ index ih =>
    have hlength : index < (stretch.steps position).length := by
      simp only [steps, List.length_zipWith, List.length_tail]
      omega
    rw [List.sum_take_succ _ _ hlength, ih (by omega)]
    simp [steps]

end Stretch

section Starts

variable (position : Float → Float → Int) (unit : Float)

/-- The clocks at which stretches start if one starts when the one before it, and then a delay, is over.
Every stretch comes with its origin. -/
def chainedStarts (delay : Float) : Float → List (Float × Stretch) → List Float
  | _, [] => []
  | start, (origin, stretch) :: rest =>
    start :: chainedStarts delay (stretch.finish (position origin) unit start + delay) rest

theorem length_chainedStarts (delay start : Float) (stretches : List (Float × Stretch)) :
    (chainedStarts position unit delay start stretches).length = stretches.length := by
  induction stretches generalizing start with
  | nil => rfl
  | cons placed stretches ih => simp [chainedStarts, ih]

/-- The samples of stretches that start at these clocks. -/
def samplesFrom (starts : List Float) (stretches : List (Float × Stretch)) : List (Float × UInt64) :=
  (starts.zip stretches).flatMap fun (start, origin, stretch) => stretch.samples (position origin) unit start

variable {position unit}

theorem samplesFrom_cons (start origin : Float) (stretch : Stretch) (starts : List Float)
    (stretches : List (Float × Stretch)) :
    samplesFrom position unit (start :: starts) ((origin, stretch) :: stretches) =
      stretch.samples (position origin) unit start ++ samplesFrom position unit starts stretches := rfl

/-- Starts that no stretch is left for have no influence. -/
theorem samplesFrom_take (starts : List Float) (stretches : List (Float × Stretch)) :
    samplesFrom position unit (starts.take stretches.length) stretches =
      samplesFrom position unit starts stretches := by
  induction stretches generalizing starts with
  | nil => simp [samplesFrom]
  | cons placed stretches ih =>
    cases starts with
    | nil => rfl
    | cons start starts =>
      rw [List.length_cons, List.take_succ_cons, samplesFrom_cons, ih]
      rfl

/-- With a start for every stretch, all level events have a sample. -/
theorem values_samplesFrom (position : Float → Float → Int) (unit : Float) {starts : List Float}
    {stretches : List (Float × Stretch)} (hlength : stretches.length ≤ starts.length) :
    (samplesFrom position unit starts stretches).map (·.2) =
      (stretches.flatMap (·.2.edges)).map (·.2) := by
  induction stretches generalizing starts with
  | nil => simp [samplesFrom]
  | cons placed stretches ih =>
    cases starts with
    | nil => simp at hlength
    | cons start starts =>
      rw [samplesFrom_cons, List.map_append, ih (by simpa using hlength), Stretch.values_samples]
      simp

end Starts

namespace Timeline

/-- The first stretch of a timeline, and the stretches behind its runs of waits. `isWaiting` says
whether the event in front of the timeline is a wait; waits that continue its run are skipped. -/
def stretchesAfter : Bool → Timeline → Stretch × List Stretch
  | _, [] => (⟨[], none⟩, [])
  | isWaiting, ⟨time, .wait⟩ :: rest =>
    let (first, others) := stretchesAfter true rest
    if isWaiting then (first, others) else (⟨[], some time⟩, first :: others)
  | _, ⟨time, .level level⟩ :: rest =>
    let (first, others) := stretchesAfter false rest
    (first.extend time level, others)

/-- The stretches of a timeline. The first one comes before any wait and may be empty. -/
def stretches (timeline : Timeline) : Stretch × List Stretch :=
  stretchesAfter false timeline

/-- Stretches with their origins: `origin` for the first one, and their first event for the others. -/
def placed (origin : Float) (stretches : Stretch × List Stretch) : List (Float × Stretch) :=
  (origin, stretches.1) :: stretches.2.map fun stretch => (stretch.origin, stretch)

theorem stretchesAfter_nil (isWaiting : Bool) : stretchesAfter isWaiting [] = (⟨[], none⟩, []) := by
  cases isWaiting <;> rfl

theorem stretchesAfter_wait (time : Float) (rest : Timeline) :
    stretchesAfter false (⟨time, .wait⟩ :: rest) =
      (⟨[], some time⟩, (stretchesAfter true rest).1 :: (stretchesAfter true rest).2) := rfl

theorem stretchesAfter_wait_of_isWaiting (time : Float) (rest : Timeline) :
    stretchesAfter true (⟨time, .wait⟩ :: rest) = stretchesAfter true rest := rfl

theorem stretchesAfter_level (isWaiting : Bool) (time : Float) (level : UInt64) (rest : Timeline) :
    stretchesAfter isWaiting (⟨time, .level level⟩ :: rest) =
      ((stretchesAfter false rest).1.extend time level, (stretchesAfter false rest).2) := by
  cases isWaiting <;> rfl

/-- There is one stretch more than there are runs of waits. -/
theorem length_stretchesAfter (isWaiting : Bool) (timeline : Timeline) :
    (stretchesAfter isWaiting timeline).2.length = runsAfter Event.isWait isWaiting timeline := by
  induction timeline generalizing isWaiting with
  | nil => rfl
  | cons event rest ih =>
    obtain ⟨time, kind⟩ := event
    cases kind with
    | wait => cases isWaiting <;> simp [stretchesAfter, runsAfter, Event.isWait, ih, Nat.add_comm]
    | level level => simp [stretchesAfter, runsAfter, Event.isWait, ih]

/-- The stretches hold all level events in their order. -/
theorem levels_stretchesAfter (isWaiting : Bool) (timeline : Timeline) :
    (((stretchesAfter isWaiting timeline).1 :: (stretchesAfter isWaiting timeline).2).flatMap (·.edges)).map (·.2) =
      timeline.levels := by
  induction timeline generalizing isWaiting with
  | nil => rfl
  | cons event rest ih =>
    obtain ⟨time, kind⟩ := event
    cases kind with
    | wait => cases isWaiting <;> simpa [stretchesAfter] using ih true
    | level level => simpa [stretchesAfter, Stretch.extend] using ih false

/-- Stretches have no other level events than their timeline. -/
theorem mem_of_mem_edges {isWaiting : Bool} {timeline : Timeline} {stretch : Stretch}
    (hstretch : stretch ∈ (stretchesAfter isWaiting timeline).1 :: (stretchesAfter isWaiting timeline).2)
    {edge : Float × UInt64} (hedge : edge ∈ stretch.edges) : ⟨edge.1, .level edge.2⟩ ∈ timeline := by
  induction timeline generalizing isWaiting stretch with
  | nil =>
    obtain rfl : stretch = ⟨[], none⟩ := by simpa [stretchesAfter] using hstretch
    cases hedge
  | cons event rest ih =>
    obtain ⟨time, kind⟩ := event
    cases kind with
    | wait =>
      cases isWaiting with
      | true => exact List.mem_cons_of_mem _ (ih hstretch hedge)
      | false =>
        rcases List.mem_cons.mp hstretch with rfl | hstretch
        · cases hedge
        · exact List.mem_cons_of_mem _ (ih hstretch hedge)
    | level level =>
      rcases List.mem_cons.mp hstretch with rfl | hstretch
      · rcases List.mem_cons.mp hedge with rfl | hedge
        · exact List.mem_cons_self
        · exact List.mem_cons_of_mem _ (ih List.mem_cons_self hedge)
      · exact List.mem_cons_of_mem _ (ih (List.mem_cons_of_mem _ hstretch) hedge)

/-- Unless waits are skipped, the first time of the first stretch is that of the next event. -/
theorem head?_times_stretchesAfter (timeline : Timeline) :
    (stretchesAfter false timeline).1.times.head? = timeline.head?.map (·.time) := by
  cases timeline with
  | nil => rfl
  | cons event rest =>
    obtain ⟨time, kind⟩ := event
    cases kind <;> simp [stretchesAfter, Stretch.times, Stretch.extend]

/-- The events behind the last wait, if there is a wait. -/
def sinceWait? : Timeline → Option Timeline
  | [] => none
  | event :: rest => (sinceWait? rest).or (if event.isWait then some rest else none)

theorem sinceWait?_append (before after : Timeline) :
    (before ++ after).sinceWait? = (after.sinceWait?).or (before.sinceWait?.map (· ++ after)) := by
  induction before with
  | nil => simp [sinceWait?]
  | cons event before ih =>
    rw [List.cons_append, sinceWait?, sinceWait?, ih]
    cases after.sinceWait? with
    | some since => simp
    | none => cases sinceWait? before <;> cases event.isWait <;> simp

end Timeline

end Pseudoclock
