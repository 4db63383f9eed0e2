/-
Module: Scanout.Load
Purpose: A rolling measure of how much composition falls to the GPU.
Imports: Scanout.Stats
Main exports: FrameLoad, LoadGrade, LoadReading, LoadMeter, LoadMeter.observe,
  LoadMeter.shares, LoadMeter.sparkline
-/
import Scanout.Stats

namespace Scanout

/-- What one frame contributes. -/
structure FrameLoad where
  /-- Percentage of the frame's pixels that the GPU composited. -/
  share : Float
  flattened : Bool := false
  /-- A video reservation was given up. -/
  fallback : Bool := false
  /-- The commit test rejected the plan. -/
  rejected : Bool := false
deriving Repr, Inhabited

namespace FrameLoad

/-- The sample of what was counted for one frame. -/
def ofStats (counted : Stats) : FrameLoad where
  share := counted.gpuShare
  flattened := 0 < counted.flattened
  fallback := 0 < counted.fallbacks
  rejected := 0 < counted.rejectedPlans

/-- Whether the frame was planned worse than it was meant to be. -/
def degraded (sample : FrameLoad) : Bool := sample.fallback || sample.rejected

end FrameLoad

/-- How much of the composition the hardware takes; A is best. -/
inductive LoadGrade where
  | a
  | b
  | c
  | d
deriving DecidableEq, Repr, Inhabited

namespace LoadGrade

def label : LoadGrade → String
  | a => "A"
  | b => "B"
  | c => "C"
  | d => "D"

/-- The grade of a mean share in percent and of degraded frames per thousand. -/
def of (meanShare degradedPer1000 : Float) : LoadGrade :=
  if meanShare < 10.0 && degradedPer1000 < 5.0 then a
  else if meanShare < 35.0 && degradedPer1000 < 20.0 then b
  else if meanShare < 70.0 && degradedPer1000 < 50.0 then c
  else d

end LoadGrade

/-- The measure after a frame. -/
structure LoadReading where
  grade : LoadGrade
  meanShare : Float
  degradedPer1000 : Float
  frames : Nat
  flattened : Nat
  degraded : Nat
deriving Repr, Inhabited

/-- The shares of the last `window` frames, and counters of all frames. -/
structure LoadMeter (window : Nat) where
  /-- The shares; the slots fill up from the first and are then overwritten in turn. -/
  slots : Vector Float window
  /-- The slot of the next share. -/
  cursor : Nat := 0
  filled : Nat := 0
  frames : Nat := 0
  flattened : Nat := 0
  degraded : Nat := 0

namespace LoadMeter

variable {window : Nat}

/-- A meter that has seen no frame. -/
def new (window : Nat) : LoadMeter window := { slots := Vector.replicate window 0.0 }

/-- The stored shares in the order of their slots. -/
def stored (meter : LoadMeter window) : List Float := meter.slots.toList.take meter.filled

/-- Mean of the stored shares, summed from the first slot on; zero if there are none. -/
def meanShare (meter : LoadMeter window) : Float :=
  if meter.filled = 0 then 0.0
  else meter.stored.foldl (· + ·) (-0.0) / Word.toFloat meter.filled

def oldest (meter : LoadMeter window) : Nat :=
  if meter.filled < window then 0 else meter.cursor

/-- The shares from the oldest to the newest, then zeros for slots not in use. -/
def shares (meter : LoadMeter window) : List Float :=
  List.ofFn fun i : Fin window =>
    if i.val < meter.filled then
      meter.slots.get ⟨(meter.oldest + i.val) % window, Nat.mod_lt _ i.pos⟩
    else 0.0

def push (meter : LoadMeter window) (share : Float) : LoadMeter window :=
  if window = 0 then meter
  else
    { meter with
      slots := meter.slots.setIfInBounds meter.cursor share
      cursor := (meter.cursor + 1) % window
      filled := min (meter.filled + 1) window }

def count (meter : LoadMeter window) (sample : FrameLoad) : LoadMeter window :=
  { meter with
    frames := Word.satAdd meter.frames 1
    flattened :=
      if sample.flattened then Word.satAdd meter.flattened 1 else meter.flattened
    degraded :=
      if sample.degraded then Word.satAdd meter.degraded 1 else meter.degraded }

def reading (meter : LoadMeter window) : LoadReading :=
  let meanShare := meter.meanShare
  let degradedPer1000 :=
    Word.toFloat meter.degraded * 1000.0 / Word.toFloat meter.frames
  { grade := .of meanShare degradedPer1000
    meanShare, degradedPer1000
    frames := meter.frames
    flattened := meter.flattened
    degraded := meter.degraded }

def observe (meter : LoadMeter window) (sample : FrameLoad) :
    LoadReading × LoadMeter window :=
  let next := (meter.count sample).push sample.share
  (next.reading, next)

/-! ### Sparklines -/

/-- Marks of a sparkline, from no load to full load. -/
def sparkMarks : List Char := [' ', '.', ':', '-', '=', '+', '*', '#', '%', '@']

/-- A share held between 0 and 100; NaN stays. -/
def clampShare (share : Float) : Float :=
  if share < 0.0 then 0.0 else if 100.0 < share then 100.0 else share

/-- The mark nearest to a share; NaN has the lowest mark. -/
def sparkMark (share : Float) : Char :=
  let level := (clampShare share / 100.0 * 9.0 + 0.5).toUInt64.toNat
  sparkMarks.getD level ' '

/-- One mark per share, from the oldest to the newest. -/
def sparkline (meter : LoadMeter window) : String :=
  String.ofList (meter.shares.map sparkMark)

end LoadMeter

end Scanout
