/-
Module: Scanout.Proofs.Buffer.Lifecycle
Purpose: Whatever is called on a new buffer pool, handles are given out once and live until they are
  given back, buffers keep what was written through their own mappings and nothing else, and a
  failing call changes no buffer.
Imports: Mathlib.Data.List.Nodup, Scanout.Proofs.Buffer.Run
Main exports: BufferPool.Usable, BufferPool.Unknown, PoolHistory.Spares, PoolHistory.Kept,
  PoolHistory.largestAllocation, PoolHistory.Lifecycle, PoolHistory.lifecycle
-/
import Mathlib.Data.List.Nodup
import Scanout.Proofs.Buffer.Run

namespace Scanout

/-! ### Usable and unknown handles -/

namespace BufferPool

/-- The pool shows the buffer, and no call for it fails because there is no such buffer. -/
structure Usable (pool : BufferPool) (handle : BufferHandle) : Prop where
  usage : (pool.usage handle).isSome
  contents : (pool.contents handle).isSome
  answered : ∀ call : BufferCall, call.handle? = some handle →
    ∀ other, (pool.perform call).1 ≠ .error (.invalidHandle other)

/-- The pool shows nothing, and every call for the buffer fails because there is no such buffer. -/
structure Unknown (pool : BufferPool) (handle : BufferHandle) : Prop where
  usage : pool.usage handle = none
  contents : pool.contents handle = none
  refused : ∀ call : BufferCall, call.handle? = some handle →
    pool.perform call = (.error (.invalidHandle handle), pool)

variable {pool : BufferPool} {handle : BufferHandle}

theorem usable_of_mem (live : handle ∈ pool.handles) : pool.Usable handle := by
  obtain ⟨buffer, found⟩ := mem_handles_iff.mp live
  refine ⟨?usage, ?contents, ?answered⟩
  case usage => rw [usage, found]; rfl
  case contents => rw [contents, found]; rfl
  case answered => exact fun call named other => perform_ne_invalidHandle named found other

theorem unknown_of_not_mem (dead : handle ∉ pool.handles) : pool.Unknown handle := by
  have absent := get?_eq_none_iff.mpr dead
  refine ⟨?usage, ?contents, ?refused⟩
  case usage => rw [usage, absent]; rfl
  case contents => rw [contents, absent]; rfl
  case refused => exact fun call named => perform_of_absent named absent

theorem Usable.not_unknown (usable : pool.Usable handle) : ¬ pool.Unknown handle := by
  intro unknown
  have shown := usable.usage
  rw [unknown.usage] at shown
  cases shown

theorem usable_iff : pool.Usable handle ↔ handle ∈ pool.handles :=
  ⟨fun usable => Decidable.byContradiction fun dead =>
    usable.not_unknown (unknown_of_not_mem dead), usable_of_mem⟩

theorem unknown_iff : pool.Unknown handle ↔ handle ∉ pool.handles :=
  ⟨fun unknown live => (usable_of_mem live).not_unknown unknown, unknown_of_not_mem⟩

end BufferPool

namespace PoolHistory

/-! ### Live buffers -/

/-- What a live buffer shows of its history: what it was created for, the bytes last written through
its own mappings among zeros, and whether it is mapped. -/
structure Kept (history : PoolHistory) (handle : BufferHandle) (width height : UInt32)
    (usage : BufferUsage) : Prop where
  usage : history.pool.usage handle = some usage
  contents : ∃ bytes, history.pool.contents handle = some bytes ∧
    bytes.length = 4 * width.toNat * height.toNat ∧
    ∀ position, position < bytes.length → bytes[position]? =
      some ((lastWritten (placedIn handle history.changes) position).getD 0)
  writtenInside : ∀ position byte, (position, byte) ∈ placedIn handle history.changes →
    ∃ mapping writes, .mapped mapping writes ∈ history.changes ∧ mapping.handle = handle ∧
      mapping.start ≤ position ∧ position < mapping.stop
  mapsOnce : ∀ rect writes change,
    (history.pool.perform (.map handle rect writes)).1 = .ok change →
      ¬ StillMapped handle history.changes
  unmaps : (history.pool.perform (.unmap handle)).1 = .ok (.unmapped handle) ↔
    StillMapped handle history.changes
  releases : (history.pool.perform (.release handle)).1 = .ok (.released handle)

theorem exists_mapping_of_mem_placedIn {changes : List BufferChange} {handle : BufferHandle}
    {position : Nat} {byte : UInt8} (present : (position, byte) ∈ placedIn handle changes) :
    ∃ mapping writes, .mapped mapping writes ∈ changes ∧ mapping.handle = handle ∧
      mapping.start ≤ position ∧ position < mapping.stop := by
  obtain ⟨change, made, put⟩ := List.mem_flatMap.mp present
  cases change with
  | mapped mapping writes =>
      by_cases own : mapping.handle = handle
      · rw [BufferChange.placedIn, if_pos own] at put
        exact ⟨mapping, writes, made, own, Mapping.placed_bounds put⟩
      · rw [BufferChange.placedIn, if_neg own] at put
        cases put
  | _ => cases put

/-- The contents of a buffer as its history tells them. -/
theorem Reflects.contents {changes : List BufferChange} {handle : BufferHandle}
    {width height : UInt32} {usage : BufferUsage} {buffer : Buffer}
    (reflects : Reflects changes handle width height usage buffer) :
    buffer.bytes.toList.length = 4 * width.toNat * height.toNat ∧
      ∀ position, position < buffer.bytes.toList.length → buffer.bytes.toList[position]? =
        some ((lastWritten (placedIn handle changes) position).getD 0) := by
  refine ⟨?length, ?each⟩
  case length =>
    rw [Nat.mul_assoc, Array.length_toList, reflects.size, Nat.mul_comm]
    rfl
  case each =>
    intro position inside
    rw [Array.length_toList, reflects.size] at inside
    rw [Array.getElem?_toList, reflects.bytes, getElem?_overwrite, Buffer.blank,
      Array.getElem?_replicate, if_pos inside]
    rfl

theorem Tracks.kept {history : PoolHistory} (tracks : history.Tracks) {handle : BufferHandle}
    {width height : UInt32} {usage : BufferUsage}
    (made : .created handle width height usage ∈ history.changes)
    (held : handle ∉ releasedHandles history.changes) :
    history.Kept handle width height usage := by
  obtain ⟨buffer, live, reflects⟩ := tracks.buffers handle width height usage made held
  refine ⟨?usage, ⟨buffer.bytes.toList, ?shown, reflects.contents⟩, ?writtenInside, ?mapsOnce,
    ?unmaps, BufferPool.perform_release live⟩
  case usage =>
    rw [BufferPool.usage, live, ← reflects.purpose]
    rfl
  case shown =>
    rw [BufferPool.contents, live]
    rfl
  case writtenInside => exact fun position byte => exists_mapping_of_mem_placedIn
  case mapsOnce =>
    intro rect writes change succeeded
    rw [← reflects.mapped, BufferPool.not_mapped_of_perform_map live succeeded]
    exact Bool.false_ne_true
  case unmaps => rw [← reflects.mapped, BufferPool.perform_unmap_iff live]

/-! ### Handles -/

theorem Tracks.nodup_created {history : PoolHistory} (tracks : history.Tracks) :
    (createdHandles history.changes).Nodup := by
  rw [tracks.numbered]
  exact List.nodup_range.map fun _ _ => BufferHandle.mk.inj

theorem Tracks.length_created {history : PoolHistory} (tracks : history.Tracks) :
    (createdHandles history.changes).length = history.pool.next := by
  rw [tracks.numbered, List.length_map, List.length_range]

theorem Tracks.number_lt {history : PoolHistory} (tracks : history.Tracks) {handle : BufferHandle}
    (made : handle ∈ createdHandles history.changes) : handle.number < history.pool.next := by
  rw [tracks.numbered, List.mem_map] at made
  obtain ⟨number, counted, rfl⟩ := made
  exact List.mem_range.mp counted

/-- Those given back are some of those created, each once. -/
theorem Tracks.size_add {history : PoolHistory} (tracks : history.Tracks) :
    history.pool.size + (releasedHandles history.changes).length =
      (createdHandles history.changes).length := by
  have returned :
      ((createdHandles history.changes).filter (· ∈ releasedHandles history.changes)).Perm
        (releasedHandles history.changes) := by
    rw [List.perm_ext_iff_of_nodup (tracks.nodup_created.filter _) tracks.returnedOnce]
    intro handle
    rw [List.mem_filter, decide_eq_true_iff]
    exact ⟨And.right, fun given => ⟨tracks.returned handle given, given⟩⟩
  have size : history.pool.size = history.pool.handles.length := List.length_map _ |>.symm
  have parts := List.length_eq_length_filter_add (l := createdHandles history.changes)
    (· ∈ releasedHandles history.changes)
  rw [size, tracks.handles, ← returned.length_eq, parts, Nat.add_comm]
  simp only [decide_not]

/-! ### The life of buffers -/

/-- A failing call leaves the pool as it was, except that a failure to come is used up by the
creation that reports it. -/
def Spares (pool : BufferPool) (call : BufferCall) (error : BufferError) (later : BufferPool) :
    Prop :=
  later = pool ∨
    ∃ width height usage code, call = .create width height usage ∧
      pool.pendingFailure = some code ∧ error = .allocationFailed code ∧
      later = { pool with pendingFailure := none }

/-- Bytes of the largest allocation there is: the largest signed 64-bit word. -/
def largestAllocation : Nat := UInt64.size / 2 - 1

/-- What holds of a pool after any calls. -/
structure Lifecycle (history : PoolHistory) : Prop where
  /-- No handle is given out twice. -/
  distinct : (createdHandles history.changes).Nodup
  /-- Handles and their counter are 64-bit words. -/
  words : history.pool.next < UInt64.size ∧
    ∀ handle ∈ createdHandles history.changes, handle.number < UInt64.size
  usable : ∀ handle, history.pool.Usable handle ↔
    handle ∈ createdHandles history.changes ∧ handle ∉ releasedHandles history.changes
  unknown : ∀ handle, history.pool.Unknown handle ↔
    ¬ (handle ∈ createdHandles history.changes ∧ handle ∉ releasedHandles history.changes)
  size : history.pool.size + (releasedHandles history.changes).length =
    (createdHandles history.changes).length
  creates : ∀ width height usage, history.pool.pendingFailure = none →
    0 < width.toNat → 0 < height.toNat →
    width.toNat * height.toNat * bytesPerPixel ≤ largestAllocation →
    (history.pool.perform (.create width height usage)).1 =
      .ok (.created ⟨history.pool.next⟩ width height usage)
  kept : ∀ handle width height usage, .created handle width height usage ∈ history.changes →
    handle ∉ releasedHandles history.changes → history.Kept handle width height usage
  spared : ∀ call error, (history.pool.perform call).1 = .error error →
    Spares history.pool call error (history.pool.perform call).2

/-- After any calls on a new pool, fewer than 2^64 of them successful creations, buffers have lived
as they should. -/
theorem lifecycle (calls : List BufferCall)
    (few : (createdHandles (ofCalls calls).changes).length < UInt64.size) :
    (ofCalls calls).Lifecycle := by
  have tracks := tracks_ofCalls calls
  have counted : (ofCalls calls).pool.next < UInt64.size := tracks.length_created ▸ few
  refine ⟨tracks.nodup_created, ⟨counted, ?words⟩, ?usable, ?unknown, tracks.size_add, ?creates,
    ?kept, ?spared⟩
  case words => exact fun handle made => Nat.lt_trans (tracks.number_lt made) counted
  case usable => exact fun handle => BufferPool.usable_iff.trans tracks.mem_handles_iff
  case unknown =>
    exact fun handle => BufferPool.unknown_iff.trans (not_congr tracks.mem_handles_iff)
  case creates =>
    intro width height usage unhindered wide high fits
    have counts : width.toNat * height.toNat * bytesPerPixel < UInt64.size :=
      Nat.lt_of_le_of_lt fits (by decide)
    exact BufferPool.perform_create unhindered ⟨wide, high, counts⟩ usage
  case kept => exact fun handle width height usage made held => tracks.kept made held
  case spared =>
    intro call error failed
    rcases BufferPool.perform_error_cases failed with ⟨_, same⟩ | ⟨_, _, _, _, usedUp⟩
    · exact Or.inl same
    · exact Or.inr ⟨_, _, _, _, usedUp⟩

/-- Two buffers, the first given back while mapped, with failed creations in between. -/
def busyCalls : List BufferCall :=
  [.create 2 1 {}, .failNext (-5), .create 1 1 {}, .create 0 1 {}, .create 1 2 {},
    .map ⟨0⟩ ⟨0, 0, 2, 1⟩ [⟨2, [7, 7]⟩], .map ⟨1⟩ ⟨0, 1, 1, 2⟩ [⟨0, [1, 2]⟩, ⟨1, [3, 4, 5, 6]⟩],
    .map ⟨1⟩ ⟨0, 0, 1, 1⟩ [⟨0, [9]⟩], .unmap ⟨1⟩, .release ⟨0⟩, .release ⟨0⟩]

theorem lifecycle_on_busy_calls :
    (createdHandles (ofCalls busyCalls).changes).length < UInt64.size ∧
      (ofCalls busyCalls).Lifecycle ∧
      createdHandles (ofCalls busyCalls).changes = [⟨0⟩, ⟨1⟩] ∧
      releasedHandles (ofCalls busyCalls).changes = [⟨0⟩] ∧
      (ofCalls busyCalls).pool.contents ⟨1⟩ = some [0, 0, 0, 0, 1, 3, 4, 5] := by
  have few : (createdHandles (ofCalls busyCalls).changes).length < UInt64.size := by decide +kernel
  exact ⟨few, lifecycle busyCalls few, by decide +kernel, by decide +kernel, by decide +kernel⟩

end PoolHistory

end Scanout
