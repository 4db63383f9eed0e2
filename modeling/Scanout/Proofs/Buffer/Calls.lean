/-
Module: Scanout.Proofs.Buffer.Calls
Purpose: Calls on a buffer pool as values, carrying one out, and all that one can do.
Imports: Scanout.Proofs.Buffer.Pool
Main exports: BufferCall, BufferChange, Buffer.blank, Allocatable, BufferPool.perform,
  BufferPool.Refusal, BufferPool.Step, BufferPool.step_perform
-/
import Scanout.Proofs.Buffer.Pool

namespace Scanout

/-- A call on a pool.  What a caller writes through a mapping is written before the next call, so it
is part of the call that maps. -/
inductive BufferCall where
  | create (width height : UInt32) (usage : BufferUsage)
  | failNext (code : Int)
  | map (handle : BufferHandle) (rect : Rect) (writes : List MappedWrite)
  | unmap (handle : BufferHandle)
  | release (handle : BufferHandle)
deriving DecidableEq, Repr, Inhabited

/-- The handle that a call names. -/
def BufferCall.handle? : BufferCall → Option BufferHandle
  | .map handle .. | .unmap handle | .release handle => some handle
  | _ => none

/-- What a successful call did. -/
inductive BufferChange where
  | created (handle : BufferHandle) (width height : UInt32) (usage : BufferUsage)
  | failureSet (code : Int)
  | mapped (mapping : Mapping) (writes : List MappedWrite)
  | unmapped (handle : BufferHandle)
  | released (handle : BufferHandle)
deriving DecidableEq, Repr, Inhabited

/-- A buffer as it is created. -/
def Buffer.blank (width height : UInt32) (usage : BufferUsage) : Buffer where
  width := width.toNat
  height := height.toNat
  usage
  bytes := Array.replicate (width.toNat * height.toNat * bytesPerPixel) 0

/-- The extent has pixels, and no more of them than bytes can be counted for in a word. -/
structure Allocatable (width height : UInt32) : Prop where
  wide : 0 < width.toNat
  high : 0 < height.toNat
  fits : width.toNat * height.toNat * bytesPerPixel < UInt64.size

namespace BufferPool

/-- Carry a call out.  A successful one is told as a change, with the handle or the mapping that it
returned. -/
def perform (pool : BufferPool) : BufferCall → Except BufferError BufferChange × BufferPool
  | .create width height usage =>
      match pool.create width.toNat height.toNat usage with
      | (.ok handle, next) => (.ok (.created handle width height usage), next)
      | (.error error, next) => (.error error, next)
  | .failNext code => (.ok (.failureSet code), pool.failNext code)
  | .map handle rect writes =>
      match pool.map handle rect with
      | (.ok mapping, next) => (.ok (.mapped mapping writes), next.writeAll mapping writes)
      | (.error error, next) => (.error error, next)
  | .unmap handle =>
      match pool.unmap handle with
      | (.ok (), next) => (.ok (.unmapped handle), next)
      | (.error error, next) => (.error error, next)
  | .release handle =>
      match pool.release handle with
      | (.ok (), next) => (.ok (.released handle), next)
      | (.error error, next) => (.error error, next)

/-- The mapping of a rectangle of a buffer. -/
def mappingOf (handle : BufferHandle) (buffer : Buffer) (rect : Rect) : Mapping :=
  { handle, start := buffer.regionStart rect, stop := buffer.regionStop rect }

/-- Why a call is refused. -/
inductive Refusal (pool : BufferPool) : BufferCall → BufferError → Prop where
  | emptyExtent {width height : UInt32} {usage : BufferUsage}
      (unhindered : pool.pendingFailure = none) (vacant : width.toNat = 0 ∨ height.toNat = 0) :
      Refusal pool (.create width height usage) .emptyExtent
  | outOfMemory {width height : UInt32} {usage : BufferUsage}
      (unhindered : pool.pendingFailure = none)
      (large : UInt64.size ≤ width.toNat * height.toNat * bytesPerPixel) :
      Refusal pool (.create width height usage) (.allocationFailed outOfMemory)
  | unknown {call : BufferCall} {handle : BufferHandle} (named : call.handle? = some handle)
      (absent : pool.get? handle = none) : Refusal pool call (.invalidHandle handle)
  | alreadyMapped {handle : BufferHandle} {rect : Rect} {writes : List MappedWrite}
      {buffer : Buffer} (live : pool.get? handle = some buffer) (taken : buffer.mapped = true) :
      Refusal pool (.map handle rect writes) .alreadyMapped
  | outOfBounds {handle : BufferHandle} {rect : Rect} {writes : List MappedWrite}
      {buffer : Buffer} (live : pool.get? handle = some buffer) (free : buffer.mapped = false)
      (outside : buffer.holds rect = false) :
      Refusal pool (.map handle rect writes) .regionOutOfBounds
  | notMapped {handle : BufferHandle} {buffer : Buffer} (live : pool.get? handle = some buffer)
      (free : buffer.mapped = false) : Refusal pool (.unmap handle) .notMapped

/-- All that a call can do. -/
inductive Step (pool : BufferPool) :
    BufferCall → Except BufferError BufferChange → BufferPool → Prop where
  | created {width height : UInt32} {usage : BufferUsage}
      (unhindered : pool.pendingFailure = none) (allocatable : Allocatable width height) :
      Step pool (.create width height usage) (.ok (.created ⟨pool.next⟩ width height usage))
        (pool.add (.blank width height usage))
  | failureSet {code : Int} :
      Step pool (.failNext code) (.ok (.failureSet code)) (pool.failNext code)
  | mapped {handle : BufferHandle} {rect : Rect} {writes : List MappedWrite} {buffer : Buffer}
      (live : pool.get? handle = some buffer) (free : buffer.mapped = false)
      (inside : buffer.holds rect = true) :
      Step pool (.map handle rect writes) (.ok (.mapped (mappingOf handle buffer rect) writes))
        (pool.update handle fun buffer' =>
          { buffer' with
            mapped := true
            bytes := overwrite buffer'.bytes ((mappingOf handle buffer rect).placed writes) })
  | unmapped {handle : BufferHandle} {buffer : Buffer} (live : pool.get? handle = some buffer)
      (taken : buffer.mapped = true) :
      Step pool (.unmap handle) (.ok (.unmapped handle))
        (pool.update handle fun buffer => { buffer with mapped := false })
  | released {handle : BufferHandle} {buffer : Buffer} (live : pool.get? handle = some buffer) :
      Step pool (.release handle) (.ok (.released handle)) (pool.drop handle)
  | injected {width height : UInt32} {usage : BufferUsage} {code : Int}
      (pending : pool.pendingFailure = some code) :
      Step pool (.create width height usage) (.error (.allocationFailed code))
        { pool with pendingFailure := none }
  | refused {call : BufferCall} {error : BufferError} (refusal : pool.Refusal call error) :
      Step pool call (.error error) pool

/-- Carrying a call out is one of the steps. -/
theorem step_perform (pool : BufferPool) (call : BufferCall) :
    pool.Step call (pool.perform call).1 (pool.perform call).2 := by
  cases call with
  | create width height usage =>
      obtain ⟨live, next, pendingFailure⟩ := pool
      rw [perform, create]
      cases pendingFailure with
      | some code => exact .injected rfl
      | none =>
          dsimp only
          by_cases vacant : width.toNat = 0 ∨ height.toNat = 0
          · rw [if_pos vacant]
            exact .refused (.emptyExtent rfl vacant)
          · rw [if_neg vacant]
            by_cases large : UInt64.size ≤ width.toNat * height.toNat * bytesPerPixel
            · rw [if_pos large]
              exact .refused (.outOfMemory rfl large)
            · rw [if_neg large]
              rw [not_or] at vacant
              exact .created rfl ⟨Nat.pos_of_ne_zero vacant.1, Nat.pos_of_ne_zero vacant.2,
                Nat.lt_of_not_le large⟩
  | failNext code => exact .failureSet
  | map handle rect writes =>
      rw [perform, map]
      cases live : pool.get? handle with
      | none => exact .refused (.unknown rfl live)
      | some buffer =>
          dsimp only
          cases taken : buffer.mapped with
          | true => exact .refused (.alreadyMapped live taken)
          | false =>
              cases inside : buffer.holds rect with
              | false => exact .refused (.outOfBounds live taken inside)
              | true =>
                  rw [if_neg Bool.false_ne_true, if_pos rfl]
                  dsimp only
                  rw [writeAll_eq, update_update]
                  exact .mapped live taken inside
  | unmap handle =>
      rw [perform, unmap]
      cases live : pool.get? handle with
      | none => exact .refused (.unknown rfl live)
      | some buffer =>
          dsimp only
          cases taken : buffer.mapped with
          | true => exact .unmapped live taken
          | false => exact .refused (.notMapped live taken)
  | release handle =>
      rw [perform, release]
      cases live : pool.get? handle with
      | none => exact .refused (.unknown rfl live)
      | some buffer => exact .released live

/-! ### Failing calls -/

/-- A failing call leaves the pool as it was, unless it is the creation that a failure to come was
meant for. -/
theorem perform_error_cases {pool : BufferPool} {call : BufferCall} {error : BufferError}
    (failed : (pool.perform call).1 = .error error) :
    pool.Refusal call error ∧ (pool.perform call).2 = pool ∨
      ∃ width height usage code, call = .create width height usage ∧
        pool.pendingFailure = some code ∧ error = .allocationFailed code ∧
        (pool.perform call).2 = { pool with pendingFailure := none } := by
  have step := pool.step_perform call
  generalize pool.perform call = outcome at failed step ⊢
  obtain ⟨result, later⟩ := outcome
  cases failed
  cases step with
  | injected pending => exact Or.inr ⟨_, _, _, _, rfl, pending, rfl, rfl⟩
  | refused refusal => exact Or.inl ⟨refusal, rfl⟩

variable {pool : BufferPool} {call : BufferCall} {handle : BufferHandle} {width height : UInt32}

/-- A call for a buffer that is not there fails for that reason and does nothing. -/
theorem perform_of_absent (named : call.handle? = some handle)
    (absent : pool.get? handle = none) :
    pool.perform call = (.error (.invalidHandle handle), pool) := by
  cases call with
  | create width height usage => cases named
  | failNext code => cases named
  | map other rect writes =>
      cases named
      rw [perform, map, absent]
  | unmap other =>
      cases named
      rw [perform, unmap, absent]
  | release other =>
      cases named
      rw [perform, release, absent]

/-- A call for a live buffer may fail, but never for want of the buffer. -/
theorem perform_ne_invalidHandle {buffer : Buffer} (named : call.handle? = some handle)
    (live : pool.get? handle = some buffer) (other : BufferHandle) :
    (pool.perform call).1 ≠ .error (.invalidHandle other) := by
  intro failed
  rcases perform_error_cases failed with ⟨refusal, _⟩ | ⟨_, _, _, _, _, _, unlike, _⟩
  · cases refusal with
    | unknown namedOther absent =>
        cases Option.some.inj (named.symm.trans namedOther)
        rw [live] at absent
        cases absent
  · cases unlike

/-! ### Calls on live buffers -/

theorem not_mapped_of_perform_map {buffer : Buffer} {rect : Rect} {writes : List MappedWrite}
    {change : BufferChange} (live : pool.get? handle = some buffer)
    (succeeded : (pool.perform (.map handle rect writes)).1 = .ok change) :
    buffer.mapped = false := by
  rw [perform, map, live] at succeeded
  cases taken : buffer.mapped with
  | false => rfl
  | true =>
      dsimp only at succeeded
      rw [if_pos taken] at succeeded
      cases succeeded

theorem perform_unmap_iff {buffer : Buffer} (live : pool.get? handle = some buffer) :
    (pool.perform (.unmap handle)).1 = .ok (.unmapped handle) ↔ buffer.mapped = true := by
  rw [perform, unmap, live]
  dsimp only
  by_cases taken : buffer.mapped = true
  · rw [if_pos taken]
    exact iff_of_true rfl taken
  · rw [if_neg taken]
    exact iff_of_false nofun taken

theorem perform_release {buffer : Buffer} (live : pool.get? handle = some buffer) :
    (pool.perform (.release handle)).1 = .ok (.released handle) := by
  rw [perform, release, live]

/-- A creation succeeds if its extent can be allocated and no failure is to come. -/
theorem perform_create (unhindered : pool.pendingFailure = none)
    (allocatable : Allocatable width height) (usage : BufferUsage) :
    (pool.perform (.create width height usage)).1 =
      .ok (.created ⟨pool.next⟩ width height usage) := by
  obtain ⟨wide, high, fits⟩ := allocatable
  rw [perform, create, unhindered]
  dsimp only
  rw [if_neg (by omega), if_neg (Nat.not_le_of_lt fits)]

end BufferPool

end Scanout
