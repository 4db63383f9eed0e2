/-
Module: Scanout.Budget.Fit
Purpose: The outcome of fitting a client range to a plane budget.
Imports: Scanout.Range.Client
Main exports: FallbackCause, FallbackCause.label, BudgetFit
-/
import Scanout.Range.Client

namespace Scanout

/-- Why a reserved run of video layers could not be kept on planes. -/
inductive FallbackCause where
  /-- The video layers alone need more planes than there are. -/
  | videoOverBudget
  /-- The video layers take every plane, and there are other layers on both sides of them. -/
  | videoNotAtEdge
  /-- The layers on the far side of the video layers need more planes than are left. -/
  | sideOverReservation
  /-- Some video layer has to be composited by the GPU. -/
  | clientOverlapsVideo
  /-- The reserved run reaches past the top of the stack. -/
  | deviceRangeOutOfBounds
deriving DecidableEq, Repr, Inhabited

namespace FallbackCause

def label : FallbackCause → String
  | videoOverBudget => "video-over-budget"
  | videoNotAtEdge => "video-not-at-edge"
  | sideOverReservation => "side-over-reservation"
  | clientOverlapsVideo => "client-overlaps-video"
  | deviceRangeOutOfBounds => "device-range-out-of-bounds"

def all : List FallbackCause :=
  [videoOverBudget, videoNotAtEdge, sideOverReservation, clientOverlapsVideo,
    deviceRangeOutOfBounds]

def name : FallbackCause → String
  | videoOverBudget => "VideoOverBudget"
  | videoNotAtEdge => "VideoNotAtEdge"
  | sideOverReservation => "SideOverReservation"
  | clientOverlapsVideo => "ClientOverlapsVideo"
  | deviceRangeOutOfBounds => "DeviceRangeOutOfBounds"

theorem mem_all (cause : FallbackCause) : cause ∈ all := by cases cause <;> decide

end FallbackCause

/-- A client range that fits the budget, and why the video reservation was given up for it. -/
structure BudgetFit where
  range : ClientRange
  fallback : Option FallbackCause := none
deriving DecidableEq, Repr, Inhabited

end Scanout
