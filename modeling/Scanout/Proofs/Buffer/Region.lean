/-
Module: Scanout.Proofs.Buffer.Region
Purpose: Mapping a live, unmapped buffer succeeds exactly for the rectangles within it, opens
  exactly the bytes from the rectangle's first pixel to its last one, and stays within words.
Imports: Scanout.Proofs.Buffer.Run, Scanout.Proofs.Checked.Cost
Main exports: Rect.Within, Buffer.holds_iff, BufferPool.mapChecked, BufferPool.mapChecked_eq,
  Mapping.Spans, PoolHistory.MapsExactly, PoolHistory.map_exact
-/
import Scanout.Proofs.Buffer.Run
import Scanout.Proofs.Checked.Cost

namespace Scanout

/-- The rectangle covers a pixel, and none outside an extent whose top-left corner is the origin. -/
structure Rect.Within (rect : Rect) (width height : Nat) : Prop where
  left : 0 ≤ rect.left.toInt
  columns : rect.left.toInt < rect.right.toInt
  right : rect.right.toInt ≤ width
  top : 0 ≤ rect.top.toInt
  rows : rect.top.toInt < rect.bottom.toInt
  bottom : rect.bottom.toInt ≤ height

/-! ### Positions of pixels -/

namespace Buffer

variable {buffer : Buffer} {rect : Rect}

theorem holds_iff : buffer.holds rect = true ↔ rect.Within buffer.width buffer.height := by
  rw [holds, Bool.and_eq_true, Bool.and_eq_true, Bool.and_eq_true, Bool.and_eq_true,
    decide_eq_true_iff, decide_eq_true_iff, decide_eq_true_iff, decide_eq_true_iff,
    decide_eq_true_iff, Rect.area_pos_iff, Int32.lt_iff_toInt_lt, Int32.lt_iff_toInt_lt]
  constructor
  · rintro ⟨⟨⟨⟨left, top⟩, columns, rows⟩, right⟩, bottom⟩
    exact ⟨left, columns, right, top, rows, bottom⟩
  · rintro ⟨left, columns, right, top, rows, bottom⟩
    exact ⟨⟨⟨⟨left, top⟩, columns, rows⟩, right⟩, bottom⟩

/-- A pixel further down and to the right has its bytes further on. -/
theorem offset_mono (buffer : Buffer) {x y x' y' : Nat} (columns : x ≤ x') (rows : y ≤ y') :
    buffer.offset x y ≤ buffer.offset x' y' :=
  Nat.mul_le_mul_right bytesPerPixel
    (Nat.add_le_add (Nat.mul_le_mul_right buffer.width rows) columns)

theorem offset_succ (buffer : Buffer) (x y : Nat) :
    buffer.offset (x + 1) y = buffer.offset x y + bytesPerPixel := by
  rw [offset, offset, ← Nat.add_assoc, Nat.succ_mul]

/-- The position after the last row is that after the last byte. -/
theorem offset_le (buffer : Buffer) {x y : Nat} (columns : x ≤ buffer.width)
    (rows : y < buffer.height) :
    buffer.offset x y ≤ buffer.width * buffer.height * bytesPerPixel := by
  apply Nat.mul_le_mul_right bytesPerPixel
  calc y * buffer.width + x
      ≤ y * buffer.width + buffer.width := Nat.add_le_add_left columns _
    _ = (y + 1) * buffer.width := (Nat.succ_mul y buffer.width).symm
    _ ≤ buffer.height * buffer.width := Nat.mul_le_mul_right buffer.width rows
    _ = buffer.width * buffer.height := Nat.mul_comm _ _

/-- The bytes of a pixel of the rectangle are among those of its region. -/
theorem region_bounds {x y : Nat} (afterLeft : rect.left.toInt ≤ x)
    (beforeRight : x < rect.right.toInt) (afterTop : rect.top.toInt ≤ y)
    (beforeBottom : y < rect.bottom.toInt) :
    buffer.regionStart rect ≤ buffer.offset x y ∧
      buffer.offset x y + bytesPerPixel ≤ buffer.regionStop rect := by
  rw [← offset_succ]
  exact ⟨buffer.offset_mono (by omega) (by omega), buffer.offset_mono (by omega) (by omega)⟩

theorem regionStart_lt_regionStop (within : rect.Within buffer.width buffer.height) :
    buffer.regionStart rect < buffer.regionStop rect := by
  obtain ⟨left, columns, _, top, rows, _⟩ := within
  calc buffer.regionStart rect
      < buffer.regionStart rect + bytesPerPixel := Nat.lt_add_of_pos_right (by decide)
    _ ≤ buffer.regionStop rect :=
        (region_bounds (by omega) (by omega) (by omega) (by omega)).2

theorem regionStop_le (within : rect.Within buffer.width buffer.height) :
    buffer.regionStop rect ≤ buffer.width * buffer.height * bytesPerPixel := by
  obtain ⟨left, columns, right, top, rows, bottom⟩ := within
  exact buffer.offset_le (by omega) (by omega)

end Buffer

/-! ### Mapping with checked arithmetic -/

namespace Checked

/-- The coordinate before a coordinate. -/
def before (edge : Int32) : Checked Int :=
  if Int32.minValue.toInt ≤ edge.toInt - 1 then .ok (edge.toInt - 1) else .error .overflow

/-- Bytes from `start` up to `stop` can be cut out of `size` bytes. -/
def slice (start stop size : Nat) : Checked Unit :=
  if start ≤ stop ∧ stop ≤ size then .ok () else .error .outOfBounds

theorem before_of_pos {edge : Int32} (positive : 0 < edge.toInt) :
    before edge = .ok (edge.toInt - 1) := by
  apply if_pos
  rw [Int32.toInt_minValue]
  omega

theorem slice_of_le {start stop size : Nat} (ordered : start ≤ stop) (inside : stop ≤ size) :
    slice start stop size = .ok () := if_pos ⟨ordered, inside⟩

end Checked

namespace Buffer

def offsetChecked (buffer : Buffer) (x y : Int) : Checked Nat := do
  let row ← Checked.mul y.toNat buffer.width
  Checked.mul (← Checked.add row x.toNat) bytesPerPixel

/-- The area is asked for only where the top-left corner is no fault. -/
def holdsChecked (buffer : Buffer) (rect : Rect) : Checked Bool := do
  if 0 ≤ rect.left.toInt && 0 ≤ rect.top.toInt then
    let area ← rect.areaChecked
    return 0 < area && rect.right.toInt ≤ buffer.width && rect.bottom.toInt ≤ buffer.height
  else return false

theorem holdsChecked_eq (buffer : Buffer) (rect : Rect) :
    buffer.holdsChecked rect = .ok (buffer.holds rect) := by
  rw [holdsChecked, holds]
  split
  · next corner => simp [Rect.areaChecked_eq, corner]
  · next corner =>
      rw [Bool.not_eq_true] at corner
      simp [corner]

theorem offsetChecked_eq {buffer : Buffer} {x y : Int}
    (fits : buffer.offset x.toNat y.toNat ≤ Word.max64) :
    buffer.offsetChecked x y = .ok (buffer.offset x.toNat y.toNat) := by
  rw [offset, bytesPerPixel] at fits
  have row : y.toNat * buffer.width ≤ Word.max64 := by omega
  have pixel : y.toNat * buffer.width + x.toNat ≤ Word.max64 := by omega
  simp only [offsetChecked, Checked.mul_of_le row, Checked.add_of_le pixel, Checked.ok_bind]
  exact Checked.mul_of_le fits

end Buffer

namespace BufferPool

/-- Map a rectangle with every sum, product and slice checked. -/
def mapChecked (pool : BufferPool) (handle : BufferHandle) (rect : Rect) :
    Checked (Except BufferError Mapping × BufferPool) := do
  match pool.get? handle with
  | none => return (.error (.invalidHandle handle), pool)
  | some buffer =>
      if buffer.mapped then return (.error .alreadyMapped, pool)
      else if ← buffer.holdsChecked rect then
        let start ← buffer.offsetChecked rect.left.toInt rect.top.toInt
        let stop ← buffer.offsetChecked rect.right.toInt (← Checked.before rect.bottom)
        Checked.slice start stop buffer.bytes.size
        return (.ok { handle, start, stop },
          pool.update handle fun buffer => { buffer with mapped := true })
      else return (.error .regionOutOfBounds, pool)

end BufferPool

namespace Buffer

/-- The bytes of a buffer are its pixels row by row, and words count them. -/
structure Solid (buffer : Buffer) : Prop where
  size : buffer.bytes.size = buffer.width * buffer.height * bytesPerPixel
  fits : buffer.bytes.size ≤ Word.max64

end Buffer

namespace BufferPool

/-- On a buffer of bytes that words count, mapping meets no fault. -/
theorem mapChecked_eq {pool : BufferPool} {handle : BufferHandle} {buffer : Buffer}
    (live : pool.get? handle = some buffer) (solid : buffer.Solid) (rect : Rect) :
    pool.mapChecked handle rect = .ok (pool.map handle rect) := by
  rw [mapChecked, map, live]
  dsimp only
  split
  · rfl
  · rw [Buffer.holdsChecked_eq, Checked.ok_bind]
    split
    · next held =>
        have within := Buffer.holds_iff.mp held
        have occupied := Buffer.regionStart_lt_regionStop within
        have inside : buffer.regionStop rect ≤ buffer.bytes.size :=
          solid.size ▸ Buffer.regionStop_le within
        have stop : buffer.regionStop rect ≤ Word.max64 := Nat.le_trans inside solid.fits
        have start : buffer.regionStart rect ≤ Word.max64 :=
          Nat.le_trans (Nat.le_of_lt occupied) stop
        rw [Buffer.offsetChecked_eq start, Checked.ok_bind,
          Checked.before_of_pos (Int.lt_of_le_of_lt within.top within.rows), Checked.ok_bind,
          Buffer.offsetChecked_eq stop, Checked.ok_bind]
        have cut := Checked.slice_of_le (Nat.le_of_lt occupied) inside
        rw [Buffer.regionStart, Buffer.regionStop] at cut
        rw [cut]
        rfl
    · rfl

end BufferPool

/-! ### The region of a rectangle -/

/-- The mapping goes from the first byte of the rectangle's top-left pixel to the last one of its
bottom-right pixel, and its pixels are in between. -/
structure Mapping.Spans (mapping : Mapping) (width : Nat) (rect : Rect) : Prop where
  start : mapping.start = (rect.top.toInt.toNat * width + rect.left.toInt.toNat) * 4
  stop : mapping.stop = ((rect.bottom.toInt.toNat - 1) * width + rect.right.toInt.toNat) * 4
  occupied : mapping.start < mapping.stop
  lastPixel : mapping.stop =
    ((rect.bottom.toInt.toNat - 1) * width + (rect.right.toInt.toNat - 1)) * 4 + 4
  pixels : ∀ x y : Nat, rect.left.toInt ≤ x → x < rect.right.toInt → rect.top.toInt ≤ y →
    y < rect.bottom.toInt →
    mapping.start ≤ (y * width + x) * 4 ∧ (y * width + x) * 4 + 4 ≤ mapping.stop

namespace BufferPool

theorem spans_mappingOf (handle : BufferHandle) {buffer : Buffer} {rect : Rect}
    (within : rect.Within buffer.width buffer.height) :
    (mappingOf handle buffer rect).Spans buffer.width rect := by
  have stop : buffer.regionStop rect =
      ((rect.bottom.toInt.toNat - 1) * buffer.width + rect.right.toInt.toNat) * 4 := by
    have lastRow : (rect.bottom.toInt - 1).toNat = rect.bottom.toInt.toNat - 1 := by omega
    rw [Buffer.regionStop, Buffer.offset, lastRow]
    rfl
  refine ⟨rfl, stop, Buffer.regionStart_lt_regionStop within, ?lastPixel, ?pixels⟩
  case lastPixel =>
    have lastColumn : rect.right.toInt.toNat = rect.right.toInt.toNat - 1 + 1 := by
      have left := within.left
      have columns := within.columns
      omega
    show buffer.regionStop rect = _
    omega
  case pixels =>
    exact fun x y afterLeft beforeRight afterTop beforeBottom =>
      Buffer.region_bounds afterLeft beforeRight afterTop beforeBottom

/-- What a successful mapping gives: the bytes of the region, of a buffer whose bytes stay. -/
structure Opens (pool : BufferPool) (handle : BufferHandle) (width height : Nat) (rect : Rect)
    (mapping : Mapping) (later : BufferPool) : Prop where
  result : pool.map handle rect = (.ok mapping, later)
  named : mapping.handle = handle
  spans : mapping.Spans width rect
  bytes : ∃ bytes, pool.contents handle = some bytes ∧ bytes.length = width * height * 4 ∧
    mapping.stop ≤ bytes.length ∧ later.contents handle = some bytes ∧
    later.mappedBytes mapping = bytes.extract mapping.start mapping.stop

variable {pool : BufferPool} {handle : BufferHandle} {buffer : Buffer} {rect : Rect}

theorem opens_of_within (live : pool.get? handle = some buffer) (free : buffer.mapped = false)
    (solid : buffer.Solid) (within : rect.Within buffer.width buffer.height) :
    ∃ mapping later, pool.Opens handle buffer.width buffer.height rect mapping later := by
  let later := pool.update handle fun buffer => { buffer with mapped := true }
  have taken : later.get? handle = some { buffer with mapped := true } := by
    rw [get?_update, if_pos rfl, live]
    rfl
  refine ⟨mappingOf handle buffer rect, later, ?result, rfl,
    spans_mappingOf handle within, buffer.bytes.toList, ?shown, ?length, ?inside, ?kept, ?cut⟩
  case result =>
    rw [map, live]
    dsimp only
    rw [if_neg (ne_true_of_eq_false free), if_pos (Buffer.holds_iff.mpr within)]
    rfl
  case shown =>
    rw [contents, live]
    rfl
  case length => exact solid.size
  case inside => exact Nat.le_trans (Buffer.regionStop_le within) (Nat.le_of_eq solid.size.symm)
  case kept =>
    rw [contents, taken]
    rfl
  case cut =>
    rw [mappedBytes, mappingOf, taken]
    exact Array.toList_extract

theorem map_of_not_within (live : pool.get? handle = some buffer) (free : buffer.mapped = false)
    (outside : ¬ rect.Within buffer.width buffer.height) :
    pool.map handle rect = (.error .regionOutOfBounds, pool) := by
  rw [map, live]
  dsimp only
  rw [if_neg (ne_true_of_eq_false free), if_neg (mt Buffer.holds_iff.mp outside)]

end BufferPool

namespace PoolHistory

theorem Reflects.solid {changes : List BufferChange} {handle : BufferHandle}
    {width height : UInt32} {usage : BufferUsage} {buffer : Buffer}
    (reflects : Reflects changes handle width height usage buffer) : buffer.Solid where
  size := by rw [reflects.size, reflects.extent.1, reflects.extent.2]
  fits := by
    rw [reflects.size]
    exact Nat.le_of_lt_succ reflects.allocatable.fits

/-- A buffer that was created, not given back and is not mapped can be mapped exactly where a
rectangle covers pixels of it and no others.  The bytes opened are those from the rectangle's first
pixel to its last one; other rectangles are out of bounds and change nothing.  Whatever the edges of
the rectangle are, no position passes a word or misses the bytes. -/
theorem map_exact (calls : List BufferCall) {handle : BufferHandle} {width height : UInt32}
    {usage : BufferUsage}
    (made : .created handle width height usage ∈ (ofCalls calls).changes)
    (held : handle ∉ releasedHandles (ofCalls calls).changes)
    (free : ¬ StillMapped handle (ofCalls calls).changes) (rect : Rect) :
    let pool := (ofCalls calls).pool
    (rect.Within width.toNat height.toNat →
        ∃ mapping later, pool.Opens handle width.toNat height.toNat rect mapping later) ∧
      (¬ rect.Within width.toNat height.toNat →
        pool.map handle rect = (.error .regionOutOfBounds, pool)) ∧
      pool.mapChecked handle rect = .ok (pool.map handle rect) := by
  intro pool
  obtain ⟨buffer, live, reflects⟩ :=
    (tracks_ofCalls calls).buffers handle width height usage made held
  have unmapped : buffer.mapped = false := eq_false_of_ne_true (mt reflects.mapped.mp free)
  rw [← reflects.extent.1, ← reflects.extent.2]
  exact ⟨BufferPool.opens_of_within live unmapped reflects.solid,
    BufferPool.map_of_not_within live unmapped, BufferPool.mapChecked_eq live reflects.solid rect⟩

/-- The last two pixels of both rows of a buffer that was mapped before, and the same with the
bottom edge a row too low. -/
theorem map_exact_on_remapped_buffer :
    let calls : List BufferCall :=
      [.create 3 2 {}, .map ⟨0⟩ ⟨0, 0, 3, 2⟩ [⟨4, [1, 2, 3, 4, 5]⟩], .unmap ⟨0⟩]
    let history := ofCalls calls
    .created ⟨0⟩ 3 2 {} ∈ history.changes ∧ ⟨0⟩ ∉ releasedHandles history.changes ∧
      ¬ StillMapped ⟨0⟩ history.changes ∧
      (∃ mapping later, history.pool.Opens ⟨0⟩ 3 2 ⟨1, 0, 3, 2⟩ mapping later) ∧
      history.pool.map ⟨0⟩ ⟨1, 0, 3, 3⟩ = (.error .regionOutOfBounds, history.pool) := by
  intro calls history
  have made : .created ⟨0⟩ 3 2 {} ∈ history.changes := by decide +kernel
  have held : ⟨0⟩ ∉ releasedHandles history.changes := by decide +kernel
  have free : ¬ StillMapped ⟨0⟩ history.changes := by decide +kernel
  refine ⟨made, held, free, ?within, ?outside⟩
  case within =>
    exact (map_exact calls made held free ⟨1, 0, 3, 2⟩).1
      ⟨by decide, by decide, by decide, by decide, by decide, by decide⟩
  case outside =>
    apply (map_exact calls made held free ⟨1, 0, 3, 3⟩).2.1
    intro within
    exact absurd within.bottom (by decide)

end PoolHistory

end Scanout
