/-
Module: Scanout.Range.Device
Purpose: The contiguous run of video layers that is reserved for hardware planes.
Imports: Scanout.Word, Scanout.Layer, Scanout.Range.Client
Main exports: DeviceRange, DeviceRange.stop, DeviceRange.stopWord, DeviceRange.overlaps,
  DeviceRange.ofVideo
-/
import Scanout.Word
import Scanout.Layer
import Scanout.Range.Client

namespace Scanout

/-- The video layers `start`, `start + 1`, … , `size` of them; each takes two planes. -/
structure DeviceRange where
  start : Nat
  size : Nat
deriving DecidableEq, Repr, Inhabited

namespace DeviceRange

/-- The first position after the range. -/
def stop (device : DeviceRange) : Nat := device.start + device.size

/-- The first position after the range as a word; the largest word, which no stack reaches, if the
range ends past it. -/
def stopWord (device : DeviceRange) : Nat := Word.satAdd device.start device.size

/-- A position below the largest word lies before the end of the range exactly if it lies before the
word that reports the end. -/
theorem lt_stopWord_iff {device : DeviceRange} {z : Nat} (small : z < Word.max64) :
    z < device.stopWord ↔ z < device.stop := by
  simp only [stopWord, stop, Word.satAdd]
  omega

/-- Whether nothing is reserved. -/
def isEmpty (device : DeviceRange) : Bool := device.size == 0

/-- Whether the reserved run and a client range share a layer. -/
def overlaps (device : DeviceRange) (client : ClientRange) : Bool :=
  !device.isEmpty && !client.isEmpty && device.start < client.stop && client.start < device.stop

/-- The run of video layers of a stack; none if there is no video layer or if another layer lies
between two of them. -/
def ofVideo (layers : List Layer) : Option DeviceRange :=
  let fromFirst := layers.dropWhile (!·.isVideo)
  let run := fromFirst.takeWhile (·.isVideo)
  if run.isEmpty || (fromFirst.drop run.length).any (·.isVideo) then none
  else some ⟨layers.length - fromFirst.length, run.length⟩

/-- The run as reports write it. -/
def text (device : DeviceRange) : String :=
  "DeviceRange \x7b start: " ++ toString device.start ++ ", size: " ++ toString device.size ++
    " \x7d"

end DeviceRange

end Scanout
