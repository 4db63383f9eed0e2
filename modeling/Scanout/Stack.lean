/-
Module: Scanout.Stack
Purpose: Building layer stacks, and some typical ones.
Imports: Scanout.Range.Device, Scanout.Rect.Layout, Scanout.Snapshot
Main exports: StackDraft, diagonalStack, playerStack
-/
import Scanout.Range.Device
import Scanout.Rect.Layout
import Scanout.Snapshot

namespace Scanout

/-- A stack under construction on a screen of a given size; layers are pushed bottom first. -/
structure StackDraft where
  screenWidth : Float
  screenHeight : Float
  layers : List Layer := []
deriving Repr, Inhabited

namespace StackDraft

def new (screenWidth screenHeight : Float) : StackDraft := { screenWidth, screenHeight }

def screen (builder : StackDraft) : LayoutRect :=
  .ofSize builder.screenWidth builder.screenHeight

def push (builder : StackDraft) (layer : Layer) : StackDraft :=
  { builder with layers := builder.layers ++ [layer] }

/-- Push a layer that a plane can take. -/
def layer (builder : StackDraft) (rect : LayoutRect) : StackDraft :=
  builder.push { frame := rect.snap }

/-- Push a layer as large as the screen. -/
def fullscreen (builder : StackDraft) : StackDraft := builder.layer builder.screen

def video (builder : StackDraft) (rect : LayoutRect) : StackDraft :=
  builder.push { frame := rect.snap, isVideo := true }

def hinted (builder : StackDraft) (rect : LayoutRect) (hint : Kind) : StackDraft :=
  builder.push { frame := rect.snap, hint }

/-- Push a layer whose buffer no plane can scan out. -/
def unusable (builder : StackDraft) (rect : LayoutRect) : StackDraft :=
  builder.push { frame := rect.snap, planeUsable := false }

/-- Push a layer that has to be scaled. -/
def scaled (builder : StackDraft) (rect : LayoutRect) : StackDraft :=
  builder.push { frame := rect.snap, needsScaling := true }

def snapshot (builder : StackDraft) (usablePlanes : Nat) : Snapshot :=
  .ofLayers builder.layers usablePlanes

end StackDraft

/-- Equal square layers, each a quarter of its side further right and down than the one below. -/
def diagonalStack (count : Nat) (side : Float) : List Layer :=
  (List.range count).map fun i =>
    let offset := Word.toFloat i * side / 4.0
    { frame := (LayoutRect.ofCorner offset offset side side).snap }

/-- A wallpaper, `below` application layers, two video layers and `above` overlays on a screen of
1920 by 1080 pixels, with the run of the video layers. -/
def playerStack (below above : Nat) : List Layer × DeviceRange :=
  let wallpaper := (StackDraft.new 1920.0 1080.0).fullscreen
  let application (builder : StackDraft) (i : Nat) : StackDraft :=
    let x := 40.0 * Word.toFloat i
    builder.layer ⟨x, 0.0, x + 640.0, 360.0⟩
  let overlay (builder : StackDraft) (i : Nat) : StackDraft :=
    let y := 1000.0 - 40.0 * Word.toFloat i
    builder.layer ⟨0.0, y, 1920.0, y + 80.0⟩
  let picture : LayoutRect := ⟨320.0, 180.0, 1600.0, 900.0⟩
  let applications := (List.range below).foldl application wallpaper
  let playing := (applications.video picture).video picture
  let overlaid := (List.range above).foldl overlay playing
  (overlaid.layers, ⟨below + 1, 2⟩)

end Scanout
