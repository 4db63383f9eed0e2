/-
Module: Scanout.Proofs.Buffer.Pool
Purpose: A buffer pool as a map from handles to buffers, and the bytes of a buffer after writes at
  given positions.
Imports: Scanout.Buffer
Main exports: BufferPool.handles, BufferPool.get?_update, BufferPool.get?_add,
  BufferPool.get?_drop, Mapping.placed, overwrite, lastWritten, getElem?_overwrite,
  BufferPool.writeAll, BufferPool.writeAll_eq
-/
import Scanout.Buffer

namespace Scanout

/-! ### Pools as maps -/

theorem lookup_cons_eq_ite {α β : Type} [DecidableEq α] (other key : α) (value : β)
    (entries : List (α × β)) :
    ((key, value) :: entries).lookup other =
      if other = key then some value else entries.lookup other := by
  rw [List.lookup_cons]
  split
  · next found => rw [if_pos (beq_iff_eq.mp found)]
  · next miss => rw [if_neg (beq_eq_false_iff_ne.mp miss)]

namespace BufferPool

/-- The handles of the live buffers in order of creation. -/
def handles (pool : BufferPool) : List BufferHandle := pool.live.map Prod.fst

/-- The pool with one more buffer, under the next handle. -/
def add (pool : BufferPool) (buffer : Buffer) : BufferPool :=
  { pool with live := pool.live ++ [(⟨pool.next⟩, buffer)], next := pool.next + 1 }

/-- The pool without the buffer under a handle. -/
def drop (pool : BufferPool) (handle : BufferHandle) : BufferPool :=
  { pool with live := pool.live.filter fun (key, _) => key != handle }

theorem mem_handles_iff {pool : BufferPool} {handle : BufferHandle} :
    handle ∈ pool.handles ↔ ∃ buffer, pool.get? handle = some buffer := by
  rw [← Option.isSome_iff_exists, get?, List.lookup_isSome_iff, handles, List.mem_map]
  simp only [beq_iff_eq, eq_comm (a := handle)]

theorem get?_eq_none_iff {pool : BufferPool} {handle : BufferHandle} :
    pool.get? handle = none ↔ handle ∉ pool.handles := by
  rw [mem_handles_iff, ← Option.isSome_iff_exists, Option.not_isSome_iff_eq_none]

theorem handles_update (pool : BufferPool) (handle : BufferHandle) (change : Buffer → Buffer) :
    (pool.update handle change).handles = pool.handles := by
  rw [handles, handles, update, List.map_map]
  apply List.map_congr_left
  intro entry _
  show (if entry.1 = handle then (entry.1, change entry.2) else (entry.1, entry.2)).1 = entry.1
  split <;> rfl

theorem handles_add (pool : BufferPool) (buffer : Buffer) :
    (pool.add buffer).handles = pool.handles ++ [⟨pool.next⟩] :=
  List.map_append

theorem handles_drop (pool : BufferPool) (handle : BufferHandle) :
    (pool.drop handle).handles = pool.handles.filter (· != handle) := by
  rw [handles, handles, List.filter_map]
  rfl

/-- An update changes the buffer of its handle only. -/
theorem get?_update (pool : BufferPool) (handle other : BufferHandle) (change : Buffer → Buffer) :
    (pool.update handle change).get? other =
      if other = handle then (pool.get? other).map change else pool.get? other := by
  simp only [get?, update]
  induction pool.live with
  | nil => simp
  | cons entry live inductionHypothesis =>
      obtain ⟨key, buffer⟩ := entry
      have changed : (if key = handle then (key, change buffer) else (key, buffer)) =
          (key, if key = handle then change buffer else buffer) := by
        split <;> rfl
      rw [List.map_cons, changed, lookup_cons_eq_ite, lookup_cons_eq_ite, inductionHypothesis]
      by_cases found : other = key
      · subst found
        by_cases same : other = handle <;> simp [same]
      · simp [found]

theorem get?_add (pool : BufferPool) (buffer : Buffer) (other : BufferHandle) :
    (pool.add buffer).get? other =
      (pool.get? other).or (if other = ⟨pool.next⟩ then some buffer else none) := by
  rw [get?, get?, add, List.lookup_append, lookup_cons_eq_ite, List.lookup_nil]

theorem get?_drop (pool : BufferPool) (handle other : BufferHandle) :
    (pool.drop handle).get? other = if other = handle then none else pool.get? other := by
  split
  · next same =>
      rw [get?_eq_none_iff, handles_drop, same]
      simp
  · next different =>
      simp only [get?, drop]
      induction pool.live with
      | nil => rfl
      | cons entry live inductionHypothesis =>
          obtain ⟨key, buffer⟩ := entry
          rw [List.filter_cons, lookup_cons_eq_ite]
          by_cases dropped : key = handle
          · simp [dropped, different, inductionHypothesis]
          · simp [dropped, lookup_cons_eq_ite, inductionHypothesis]

end BufferPool

/-! ### Bytes after writes -/

/-- Put single bytes at their positions, one after the other.  Those past the end are left out. -/
def overwrite (bytes : Array UInt8) (placed : List (Nat × UInt8)) : Array UInt8 :=
  placed.foldl (fun bytes (position, byte) => bytes.setIfInBounds position byte) bytes

/-- The byte that was last put at a position. -/
def lastWritten (placed : List (Nat × UInt8)) (position : Nat) : Option UInt8 :=
  placed.reverse.lookup position

theorem lastWritten_cons (position : Nat) (first : Nat × UInt8) (later : List (Nat × UInt8)) :
    lastWritten (first :: later) position =
      (lastWritten later position).or (if position = first.1 then some first.2 else none) := by
  obtain ⟨place, byte⟩ := first
  rw [lastWritten, List.reverse_cons, List.lookup_append, lookup_cons_eq_ite, List.lookup_nil,
    lastWritten]

theorem overwrite_append (bytes : Array UInt8) (first second : List (Nat × UInt8)) :
    overwrite bytes (first ++ second) = overwrite (overwrite bytes first) second :=
  List.foldl_append

/-- A position holds what was last put there, or what it held before. -/
theorem getElem?_overwrite (bytes : Array UInt8) (placed : List (Nat × UInt8)) (position : Nat) :
    (overwrite bytes placed)[position]? =
      bytes[position]?.map fun before => (lastWritten placed position).getD before := by
  induction placed generalizing bytes with
  | nil => exact Option.map_id'.symm
  | cons first later inductionHypothesis =>
      show (overwrite (bytes.setIfInBounds first.1 first.2) later)[position]? = _
      rw [inductionHypothesis, Array.getElem?_setIfInBounds, lastWritten_cons]
      by_cases here : first.1 = position
      · subst here
        by_cases inside : first.1 < bytes.size
        · rw [if_pos rfl, if_pos inside, if_pos rfl, Array.getElem?_eq_getElem inside]
          cases lastWritten later first.1 <;> rfl
        · rw [if_pos rfl, if_neg inside, Array.getElem?_eq_none (Nat.le_of_not_lt inside)]
          rfl
      · rw [if_neg here, if_neg (Ne.symm here), Option.or_none]

theorem size_overwrite (bytes : Array UInt8) (placed : List (Nat × UInt8)) :
    (overwrite bytes placed).size = bytes.size := by
  induction placed generalizing bytes with
  | nil => rfl
  | cons first later inductionHypothesis =>
      exact (inductionHypothesis _).trans Array.size_setIfInBounds

/-! ### Writes through a mapping -/

/-- A write through a mapping: how many bytes it skips of those mapped, and what it puts after
them. -/
structure MappedWrite where
  offset : Nat
  content : List UInt8
deriving DecidableEq, Repr, Inhabited

namespace Mapping

/-- The mapping without its first bytes. -/
def skip (mapping : Mapping) (offset : Nat) : Mapping :=
  { mapping with start := mapping.start + offset }

/-- The bytes that writes put into the buffer, each with its position.  Nothing is put past the end
of the mapping. -/
def placed (mapping : Mapping) (writes : List MappedWrite) : List (Nat × UInt8) :=
  writes.flatMap fun write =>
    let part := mapping.skip write.offset
    (write.content.take (part.stop - part.start)).zipIdx.map fun (byte, i) =>
      (part.start + i, byte)

theorem placed_bounds {mapping : Mapping} {writes : List MappedWrite} {position : Nat}
    {byte : UInt8} (present : (position, byte) ∈ mapping.placed writes) :
    mapping.start ≤ position ∧ position < mapping.stop := by
  obtain ⟨write, _, inWrite⟩ := List.mem_flatMap.mp present
  obtain ⟨⟨_, i⟩, numbered, same⟩ := List.mem_map.mp inWrite
  have inContent := (List.getElem?_eq_some_iff.mp (List.mem_zipIdx_iff_getElem?.mp numbered)).1
  simp only [List.length_take, skip, Prod.mk.injEq] at inContent same
  omega

end Mapping

theorem Buffer.write_eq (buffer : Buffer) (start : Nat) (content : List UInt8) :
    buffer.write start content =
      { buffer with
        bytes := overwrite buffer.bytes
          (content.zipIdx.map fun (byte, i) => (start + i, byte)) } := by
  rw [write, overwrite, List.foldl_map]

namespace BufferPool

theorem update_self (pool : BufferPool) (handle : BufferHandle) :
    pool.update handle (fun buffer => buffer) = pool := by
  have unchanged : ∀ entry ∈ pool.live,
      (if entry.1 = handle then (entry.1, entry.2) else (entry.1, entry.2)) = entry :=
    fun entry _ => ite_self entry
  obtain ⟨live, next, pendingFailure⟩ := pool
  exact congrArg (fun live => BufferPool.mk live next pendingFailure)
    ((List.map_congr_left unchanged).trans (List.map_id live))

theorem update_update (pool : BufferPool) (handle : BufferHandle) (first second : Buffer → Buffer) :
    (pool.update handle first).update handle second =
      pool.update handle fun buffer => second (first buffer) := by
  simp only [update, List.map_map]
  congr 1
  apply List.map_congr_left
  intro entry _
  by_cases same : entry.1 = handle <;> simp [same]

/-- Write through a mapping several times. -/
def writeAll (pool : BufferPool) (mapping : Mapping) (writes : List MappedWrite) : BufferPool :=
  writes.foldl (fun pool write => pool.writeMapped (mapping.skip write.offset) write.content) pool

/-- All that writes do is to put their bytes into the mapped buffer. -/
theorem writeAll_eq (pool : BufferPool) (mapping : Mapping) (writes : List MappedWrite) :
    pool.writeAll mapping writes =
      pool.update mapping.handle fun buffer =>
        { buffer with bytes := overwrite buffer.bytes (mapping.placed writes) } := by
  induction writes generalizing pool with
  | nil => exact (pool.update_self mapping.handle).symm
  | cons write writes inductionHypothesis =>
      show (pool.writeMapped (mapping.skip write.offset) write.content).writeAll mapping writes = _
      rw [inductionHypothesis, writeMapped]
      simp only [Buffer.write_eq]
      refine (update_update pool mapping.handle _ _).trans ?_
      simp only [Mapping.placed, List.flatMap_cons, overwrite_append]

end BufferPool

end Scanout
