/-
Module: Scanout.Buffer
Purpose: Pixel buffers in memory: creation, mapping, release.
Imports: Scanout.Rect
Main exports: BufferHandle, BufferUsage, BufferError, Buffer, BufferPool, BufferPool.create,
  BufferPool.map, BufferPool.unmap, BufferPool.release
-/
import Scanout.Rect

namespace Scanout

/-- A number that tells buffers apart. -/
structure BufferHandle where
  number : Nat
deriving DecidableEq, Repr, Inhabited

/-- The handle as errors name it. -/
def BufferHandle.text (handle : BufferHandle) : String := s!"BufferHandle({handle.number})"

structure BufferUsage where
  cpuWrite : Bool := false
  scanout : Bool := false
  gpuTexture : Bool := false
deriving DecidableEq, Repr, Inhabited

/-- Why a call on buffers failed. -/
inductive BufferError where
  /-- The allocator refused with a status code. -/
  | allocationFailed (code : Int)
  /-- Width or height is zero. -/
  | emptyExtent
  /-- There is no buffer with this handle, or no longer. -/
  | invalidHandle (handle : BufferHandle)
  /-- The region is not inside the buffer. -/
  | regionOutOfBounds
  /-- The buffer is mapped already. -/
  | alreadyMapped
  /-- The buffer is not mapped. -/
  | notMapped
deriving DecidableEq, Repr, Inhabited

namespace BufferError

def message : BufferError → String
  | allocationFailed code => s!"buffer allocation failed ({code})"
  | emptyExtent => "buffer extent is empty"
  | invalidHandle handle => s!"unknown buffer {handle.text}"
  | regionOutOfBounds => "mapped region is outside the buffer"
  | alreadyMapped => "buffer is already mapped"
  | notMapped => "buffer is not mapped"

def name : BufferError → String
  | allocationFailed _ => "AllocationFailed"
  | emptyExtent => "EmptyExtent"
  | invalidHandle _ => "InvalidHandle"
  | regionOutOfBounds => "RegionOutOfBounds"
  | alreadyMapped => "AlreadyMapped"
  | notMapped => "NotMapped"

end BufferError

def bytesPerPixel : Nat := 4

/-- Status code of an allocation that no memory can hold. -/
def outOfMemory : Int := -12

/-- A live buffer; its pixels are stored row by row from the top. -/
structure Buffer where
  width : Nat
  height : Nat
  usage : BufferUsage
  bytes : Array UInt8
  mapped : Bool := false
deriving DecidableEq, Repr, Inhabited

/-- A stretch of a buffer's bytes that is open for writing. -/
structure Mapping where
  handle : BufferHandle
  start : Nat
  stop : Nat
deriving DecidableEq, Repr, Inhabited

namespace Buffer

/-- Position of the first byte of the pixel in column `x` and row `y`. -/
def offset (buffer : Buffer) (x y : Nat) : Nat := (y * buffer.width + x) * bytesPerPixel

/-- Whether a rectangle covers some pixel and lies inside the buffer. -/
def holds (buffer : Buffer) (rect : Rect) : Bool :=
  0 ≤ rect.left.toInt && 0 ≤ rect.top.toInt && 0 < rect.area &&
    rect.right.toInt ≤ buffer.width && rect.bottom.toInt ≤ buffer.height

/-- First byte of a rectangle's top-left pixel. -/
def regionStart (buffer : Buffer) (rect : Rect) : Nat :=
  buffer.offset rect.left.toInt.toNat rect.top.toInt.toNat

/-- First byte after a rectangle's bottom-right pixel. -/
def regionStop (buffer : Buffer) (rect : Rect) : Nat :=
  buffer.offset rect.right.toInt.toNat (rect.bottom.toInt - 1).toNat

/-- Put bytes over the ones from `start` on; what reaches past the end is dropped. -/
def write (buffer : Buffer) (start : Nat) (content : List UInt8) : Buffer :=
  { buffer with
    bytes := content.zipIdx.foldl
      (fun bytes (byte, i) => bytes.setIfInBounds (start + i) byte) buffer.bytes }

end Buffer

/-- The live buffers in order of creation, the next handle and a failure to come. -/
structure BufferPool where
  live : List (BufferHandle × Buffer) := []
  next : Nat := 0
  /-- Status code with which the next creation fails. -/
  pendingFailure : Option Int := none
deriving DecidableEq, Repr, Inhabited

namespace BufferPool

def empty : BufferPool := {}

def size (pool : BufferPool) : Nat := pool.live.length

def isEmpty (pool : BufferPool) : Bool := pool.live.isEmpty

def get? (pool : BufferPool) (handle : BufferHandle) : Option Buffer := pool.live.lookup handle

def update (pool : BufferPool) (handle : BufferHandle) (change : Buffer → Buffer) : BufferPool :=
  { pool with
    live := pool.live.map fun (key, buffer) =>
      if key = handle then (key, change buffer) else (key, buffer) }

/-- What a buffer was created for. -/
def usage (pool : BufferPool) (handle : BufferHandle) : Option BufferUsage :=
  (pool.get? handle).map Buffer.usage

def contents (pool : BufferPool) (handle : BufferHandle) : Option (List UInt8) :=
  (pool.get? handle).map fun buffer => buffer.bytes.toList

/-- Make the next creation fail. -/
def failNext (pool : BufferPool) (code : Int) : BufferPool :=
  { pool with pendingFailure := some code }

/-- Create a buffer of zero bytes.  A failure that was asked for comes before all other errors and
is used up by it.  A length that no word holds is refused; up to there, memory is taken to be large
enough. -/
def create (pool : BufferPool) (width height : Nat) (usage : BufferUsage) :
    Except BufferError BufferHandle × BufferPool :=
  match pool.pendingFailure with
  | some code => (.error (.allocationFailed code), { pool with pendingFailure := none })
  | none =>
      let length := width * height * bytesPerPixel
      if width = 0 ∨ height = 0 then (.error .emptyExtent, pool)
      else if UInt64.size ≤ length then (.error (.allocationFailed outOfMemory), pool)
      else
        let handle : BufferHandle := ⟨pool.next⟩
        let buffer : Buffer := { width, height, usage, bytes := Array.replicate length 0 }
        (.ok handle,
          { pool with live := pool.live ++ [(handle, buffer)], next := pool.next + 1 })

/-- Open the rows that a rectangle spans for writing, from its top-left pixel to its bottom-right
one. -/
def map (pool : BufferPool) (handle : BufferHandle) (rect : Rect) :
    Except BufferError Mapping × BufferPool :=
  match pool.get? handle with
  | none => (.error (.invalidHandle handle), pool)
  | some buffer =>
      if buffer.mapped then (.error .alreadyMapped, pool)
      else if buffer.holds rect then
        (.ok { handle, start := buffer.regionStart rect, stop := buffer.regionStop rect },
          pool.update handle fun buffer => { buffer with mapped := true })
      else (.error .regionOutOfBounds, pool)

/-- The bytes that a mapping covers. -/
def mappedBytes (pool : BufferPool) (mapping : Mapping) : List UInt8 :=
  match pool.get? mapping.handle with
  | none => []
  | some buffer => (buffer.bytes.extract mapping.start mapping.stop).toList

/-- Write bytes through a mapping, from its first byte on; those past its end are dropped. -/
def writeMapped (pool : BufferPool) (mapping : Mapping) (content : List UInt8) : BufferPool :=
  pool.update mapping.handle fun buffer =>
    buffer.write mapping.start (content.take (mapping.stop - mapping.start))

def unmap (pool : BufferPool) (handle : BufferHandle) : Except BufferError Unit × BufferPool :=
  match pool.get? handle with
  | none => (.error (.invalidHandle handle), pool)
  | some buffer =>
      if buffer.mapped then
        (.ok (), pool.update handle fun buffer => { buffer with mapped := false })
      else (.error .notMapped, pool)

/-- Give a buffer back; its handle is never used again. -/
def release (pool : BufferPool) (handle : BufferHandle) : Except BufferError Unit × BufferPool :=
  match pool.get? handle with
  | none => (.error (.invalidHandle handle), pool)
  | some _ =>
      (.ok (), { pool with live := pool.live.filter fun (key, _) => key != handle })

end BufferPool

end Scanout
