/-
Module: Scanout.Stats
Purpose: Counters of how the frames of a display were composited.
Imports: Scanout.Word, Scanout.Decimal.Fixed
Main exports: Stats, Stats.since, Stats.gpuShare, Stats.countPixels, Stats.lines, Stats.text
-/
import Scanout.Word
import Scanout.Decimal.Fixed

namespace Scanout

/-- Counters of one display; they only grow, and stop at the largest 64-bit word. -/
structure Stats where
  /-- Completed passes; passes over unsupported stacks do not count. -/
  frames : Nat := 0
  /-- Passes that sent the stack to the client target without planning. -/
  flattened : Nat := 0
  /-- Pixels composited by the GPU. -/
  gpuPixels : Nat := 0
  allPixels : Nat := 0
  /-- Plans that the commit test rejected. -/
  rejectedPlans : Nat := 0
  /-- Passes that gave a video reservation up. -/
  fallbacks : Nat := 0
deriving DecidableEq, Repr, Inhabited

namespace Stats

/-- What was counted since an earlier moment. -/
def since (stats earlier : Stats) : Stats where
  frames := stats.frames - earlier.frames
  flattened := stats.flattened - earlier.flattened
  gpuPixels := stats.gpuPixels - earlier.gpuPixels
  allPixels := stats.allPixels - earlier.allPixels
  rejectedPlans := stats.rejectedPlans - earlier.rejectedPlans
  fallbacks := stats.fallbacks - earlier.fallbacks

/-- Percentage of the pixels that the GPU composited; zero if there were none. -/
def gpuShare (stats : Stats) : Float :=
  if stats.allPixels = 0 then 0.0
  else Word.toFloat stats.gpuPixels * 100.0 / Word.toFloat stats.allPixels

def countFlattened (stats : Stats) : Stats :=
  { stats with flattened := Word.satAdd stats.flattened 1 }

/-- Count a reservation that was given up. -/
def countFallback (stats : Stats) : Stats :=
  { stats with fallbacks := Word.satAdd stats.fallbacks 1 }

def countRejected (stats : Stats) : Stats :=
  { stats with rejectedPlans := Word.satAdd stats.rejectedPlans 1 }

/-- Count a completed pass and its pixels. -/
def countPixels (stats : Stats) (gpu total : Nat) : Stats :=
  { stats with
    frames := Word.satAdd stats.frames 1
    gpuPixels := Word.satAdd stats.gpuPixels gpu
    allPixels := Word.satAdd stats.allPixels total }

/-- The counters as a report, one line each. -/
def lines (stats : Stats) : List String :=
  [s!"Total frames count: {stats.frames}",
    s!"Frames flattened: {stats.flattened}",
    s!"Pixel operations (GPU/total): {stats.gpuPixels}/{stats.allPixels} " ++
      "(" ++ Decimal.fixed 1 stats.gpuShare ++ "%)",
    s!"Failed commit tests: {stats.rejectedPlans}",
    s!"Budget fallbacks: {stats.fallbacks}"]

def text (stats : Stats) : String := String.intercalate "\n" stats.lines

end Stats

end Scanout
