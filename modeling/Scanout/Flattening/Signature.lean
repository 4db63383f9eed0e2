/-
Module: Scanout.Flattening.Signature
Purpose: A 64-bit signature of everything that planning reads from a layer stack.
Imports: Scanout.Bytes, Scanout.Layer
Main exports: Signature.ofBytes, Layer.inputBytes, stackBytes, stackSignature
-/
import Scanout.Bytes
import Scanout.Layer

namespace Scanout

namespace Signature

/-!
The signature is the 64-bit FNV-1a hash.  For a fixed byte every absorption step is one-to-one in
the state, because the multiplier is odd.
-/

/-- State before the first byte. -/
def offset : UInt64 := 0xcbf29ce484222325

/-- Multiplier of each step. -/
def multiplier : UInt64 := 0x100000001b3

/-- Absorb one byte. -/
def absorb (state : UInt64) (byte : UInt8) : UInt64 := (state ^^^ byte.toUInt64) * multiplier

/-- Absorb some bytes one after the other. -/
def absorbAll (state : UInt64) (bytes : List UInt8) : UInt64 := bytes.foldl absorb state

/-- The signature of some bytes. -/
def ofBytes (bytes : List UInt8) : UInt64 := absorbAll offset bytes

theorem absorbAll_append (state : UInt64) (first second : List UInt8) :
    absorbAll state (first ++ second) = absorbAll (absorbAll state first) second :=
  List.foldl_append

end Signature

/-- The four bytes of a coordinate. -/
def edgeBytes (edge : Int32) : List UInt8 := Bytes.ofNat 4 edge.toUInt32.toNat

namespace Layer

/-- The bytes of what planning reads from a layer; decisions of earlier passes are left out. -/
def inputBytes (layer : Layer) : List UInt8 :=
  Bytes.ofNat 8 layer.hint.index ++ edgeBytes layer.frame.left ++ edgeBytes layer.frame.top ++
    edgeBytes layer.frame.right ++ edgeBytes layer.frame.bottom ++
    [Bytes.ofFlag layer.needsScaling, Bytes.ofFlag layer.isVideo, Bytes.ofFlag layer.planeUsable]

end Layer

/-- The bytes of a stack: the number of its layers, then each layer from the bottom up. -/
def stackBytes (layers : List Layer) : List UInt8 :=
  Bytes.ofNat 8 layers.length ++ layers.flatMap Layer.inputBytes

/-- The signature of a stack. -/
def stackSignature (layers : List Layer) : UInt64 := Signature.ofBytes (stackBytes layers)

end Scanout
