/-
Module: Scanout.Proofs.Buffer.Run
Purpose: Calls on a new buffer pool one after the other, and what the changes they made say about
  the pool that is left.
Imports: Scanout.Proofs.Buffer.Calls
Main exports: createdHandles, releasedHandles, placedIn, StillMapped, PoolHistory,
  PoolHistory.ofCalls, PoolHistory.Reflects, PoolHistory.Tracks, PoolHistory.tracks_ofCalls
-/
import Scanout.Proofs.Buffer.Calls

namespace Scanout

/-! ### What changes say about buffers -/

section Changes

/-- The handles of the buffers created, in order. -/
def createdHandles (changes : List BufferChange) : List BufferHandle :=
  changes.filterMap fun
    | .created handle .. => some handle
    | _ => none

/-- The handles of the buffers given back, in order. -/
def releasedHandles (changes : List BufferChange) : List BufferHandle :=
  changes.filterMap fun
    | .released handle => some handle
    | _ => none

/-- The change is a mapping of the buffer. -/
def BufferChange.Maps (handle : BufferHandle) : BufferChange → Prop
  | .mapped mapping _ => mapping.handle = handle
  | _ => False

instance (handle : BufferHandle) : (change : BufferChange) → Decidable (change.Maps handle)
  | .mapped mapping _ => inferInstanceAs (Decidable (mapping.handle = handle))
  | .created .. | .failureSet _ | .unmapped _ | .released _ => inferInstanceAs (Decidable False)

/-- The bytes that the change puts into the buffer. -/
def BufferChange.placedIn (handle : BufferHandle) : BufferChange → List (Nat × UInt8)
  | .mapped mapping writes => if mapping.handle = handle then mapping.placed writes else []
  | _ => []

/-- The bytes put into the buffer through its own mappings, in order. -/
def placedIn (handle : BufferHandle) (changes : List BufferChange) : List (Nat × UInt8) :=
  changes.flatMap (·.placedIn handle)

/-- A mapping of the buffer was not followed by an unmapping. -/
def StillMapped (handle : BufferHandle) (changes : List BufferChange) : Prop :=
  ∃ before change after, changes = before ++ change :: after ∧ change.Maps handle ∧
    .unmapped handle ∉ after

variable {changes : List BufferChange} {last : BufferChange} {handle : BufferHandle}

theorem createdHandles_append (first second : List BufferChange) :
    createdHandles (first ++ second) = createdHandles first ++ createdHandles second :=
  List.filterMap_append

theorem releasedHandles_append (first second : List BufferChange) :
    releasedHandles (first ++ second) = releasedHandles first ++ releasedHandles second :=
  List.filterMap_append

theorem BufferChange.placedIn_of_not_maps (elsewhere : ¬ last.Maps handle) :
    last.placedIn handle = [] := by
  cases last with
  | mapped mapping writes => exact if_neg elsewhere
  | _ => rfl

theorem placedIn_concat (changes : List BufferChange) (last : BufferChange)
    (handle : BufferHandle) :
    placedIn handle (changes ++ [last]) = placedIn handle changes ++ last.placedIn handle := by
  rw [placedIn, List.flatMap_append, List.flatMap_singleton]
  rfl

theorem stillMapped_cons {first : BufferChange} :
    StillMapped handle (first :: changes) ↔
      first.Maps handle ∧ .unmapped handle ∉ changes ∨ StillMapped handle changes := by
  constructor
  · rintro ⟨before, change, after, split, maps, kept⟩
    cases before with
    | nil =>
        cases split
        exact Or.inl ⟨maps, kept⟩
    | cons _ before =>
        cases split
        exact Or.inr ⟨before, change, after, rfl, maps, kept⟩
  · rintro (⟨maps, kept⟩ | ⟨before, change, after, rfl, maps, kept⟩)
    · exact ⟨[], first, changes, rfl, maps, kept⟩
    · exact ⟨first :: before, change, after, rfl, maps, kept⟩

theorem not_stillMapped_nil : ¬ StillMapped handle [] := by
  rintro ⟨before, change, after, split, _⟩
  exact List.append_ne_nil_of_right_ne_nil before (List.cons_ne_nil change after) split.symm

instance decidableStillMapped (handle : BufferHandle) :
    (changes : List BufferChange) → Decidable (StillMapped handle changes)
  | [] => .isFalse not_stillMapped_nil
  | _ :: changes =>
      have := decidableStillMapped handle changes
      decidable_of_iff _ stillMapped_cons.symm

/-- Only the last change decides whether the buffer is newly or no longer mapped. -/
theorem stillMapped_concat :
    StillMapped handle (changes ++ [last]) ↔
      last.Maps handle ∨ StillMapped handle changes ∧ last ≠ .unmapped handle := by
  constructor
  · rintro ⟨before, change, after, split, maps, kept⟩
    rcases List.eq_nil_or_concat after with rfl | ⟨between, final, rfl⟩
    · obtain ⟨_, same⟩ := List.append_inj' split rfl
      cases same
      exact Or.inl maps
    · rw [List.concat_eq_append, ← List.cons_append, ← List.append_assoc] at split
      obtain ⟨rfl, same⟩ := List.append_inj' split rfl
      cases same
      rw [List.concat_eq_append, List.mem_append, List.mem_singleton, not_or] at kept
      exact Or.inr ⟨⟨before, change, between, rfl, maps, kept.1⟩, Ne.symm kept.2⟩
  · rintro (maps | ⟨⟨before, change, after, rfl, maps, kept⟩, other⟩)
    · exact ⟨changes, last, [], rfl, maps, List.not_mem_nil⟩
    · refine ⟨before, change, after ++ [last], by simp, maps, ?_⟩
      rw [List.mem_append, List.mem_singleton, not_or]
      exact ⟨kept, Ne.symm other⟩

end Changes

/-! ### Histories -/

/-- The changes that calls on a new pool made, in order, and the pool they left. -/
structure PoolHistory where
  changes : List BufferChange := []
  pool : BufferPool := .empty

namespace PoolHistory

/-- One more call; a failed one is no change, but may leave another pool. -/
def next (history : PoolHistory) (call : BufferCall) : PoolHistory :=
  let (result, pool) := history.pool.perform call
  { changes := history.changes ++ result.toOption.toList, pool }

/-- The history of some calls on a new pool. -/
def ofCalls (calls : List BufferCall) : PoolHistory := calls.foldl next {}

/-- The buffer is as it was created, but for the bytes put into it and for being mapped. -/
structure Reflects (changes : List BufferChange) (handle : BufferHandle) (width height : UInt32)
    (usage : BufferUsage) (buffer : Buffer) : Prop where
  allocatable : Allocatable width height
  extent : buffer.width = width.toNat ∧ buffer.height = height.toNat
  purpose : buffer.usage = usage
  bytes : buffer.bytes =
    overwrite (Buffer.blank width height usage).bytes (placedIn handle changes)
  mapped : buffer.mapped = true ↔ StillMapped handle changes

/-- What the changes say about the pool: handles are numbered in order of creation, those not given
back are live, only created buffers are mapped or given back, and live ones are as the changes left
them. -/
structure Tracks (history : PoolHistory) : Prop where
  numbered : createdHandles history.changes = (List.range history.pool.next).map BufferHandle.mk
  handles : history.pool.handles =
    (createdHandles history.changes).filter (· ∉ releasedHandles history.changes)
  returnedOnce : (releasedHandles history.changes).Nodup
  returned : ∀ handle ∈ releasedHandles history.changes, handle ∈ createdHandles history.changes
  mapped : ∀ change ∈ history.changes, ∀ handle, change.Maps handle →
    handle ∈ createdHandles history.changes
  buffers : ∀ handle width height usage, .created handle width height usage ∈ history.changes →
    handle ∉ releasedHandles history.changes →
    ∃ buffer, history.pool.get? handle = some buffer ∧
      Reflects history.changes handle width height usage buffer

section Step

variable {changes : List BufferChange} {pool : BufferPool} {handle : BufferHandle}
  {width height : UInt32} {usage : BufferUsage} {buffer : Buffer}

theorem Reflects.size (reflects : Reflects changes handle width height usage buffer) :
    buffer.bytes.size = width.toNat * height.toNat * bytesPerPixel := by
  rw [reflects.bytes, size_overwrite, Buffer.blank, Array.size_replicate]

/-- Changes that do not map or unmap a buffer leave it as it is. -/
theorem Reflects.concat (reflects : Reflects changes handle width height usage buffer)
    {last : BufferChange} (elsewhere : ¬ last.Maps handle) (other : last ≠ .unmapped handle) :
    Reflects (changes ++ [last]) handle width height usage buffer where
  allocatable := reflects.allocatable
  extent := reflects.extent
  purpose := reflects.purpose
  bytes := by
    rw [placedIn_concat, BufferChange.placedIn_of_not_maps elsewhere, List.append_nil]
    exact reflects.bytes
  mapped := by
    rw [reflects.mapped, stillMapped_concat]
    exact ⟨fun still => Or.inr ⟨still, other⟩, fun still => (still.resolve_left elsewhere).1⟩

theorem Reflects.concat_mapped (reflects : Reflects changes handle width height usage buffer)
    {mapping : Mapping} (here : mapping.handle = handle) (writes : List MappedWrite) :
    Reflects (changes ++ [.mapped mapping writes]) handle width height usage
      { buffer with
        mapped := true
        bytes := overwrite buffer.bytes (mapping.placed writes) } where
  allocatable := reflects.allocatable
  extent := reflects.extent
  purpose := reflects.purpose
  bytes := by
    have written : BufferChange.placedIn handle (.mapped mapping writes) = mapping.placed writes :=
      if_pos here
    rw [placedIn_concat, written, overwrite_append, reflects.bytes]
  mapped := iff_of_true rfl (stillMapped_concat.mpr (Or.inl here))

theorem Reflects.concat_unmapped (reflects : Reflects changes handle width height usage buffer) :
    Reflects (changes ++ [.unmapped handle]) handle width height usage
      { buffer with mapped := false } where
  allocatable := reflects.allocatable
  extent := reflects.extent
  purpose := reflects.purpose
  bytes := by
    have nothing : BufferChange.placedIn handle (.unmapped handle) = [] := rfl
    rw [placedIn_concat, nothing, List.append_nil]
    exact reflects.bytes
  mapped := by
    rw [stillMapped_concat]
    exact iff_of_false Bool.false_ne_true (by simp [BufferChange.Maps])

/-- A buffer that no change maps is as it was created. -/
theorem reflects_blank (allocatable : Allocatable width height) (usage : BufferUsage)
    (untouched : ∀ change ∈ changes, ¬ change.Maps handle) :
    Reflects changes handle width height usage (.blank width height usage) where
  allocatable := allocatable
  extent := ⟨rfl, rfl⟩
  purpose := rfl
  bytes := by
    have nothing : placedIn handle changes = [] :=
      List.flatMap_eq_nil_iff.mpr fun change present =>
        BufferChange.placedIn_of_not_maps (untouched change present)
    rw [nothing]
    rfl
  mapped := by
    constructor
    · intro mapped
      cases mapped
    · rintro ⟨before, change, after, rfl, maps, _⟩
      exact absurd maps (untouched change (by simp))

end Step

section Tracks

variable {changes : List BufferChange} {pool : BufferPool}

theorem tracks_new : Tracks {} where
  numbered := rfl
  handles := rfl
  returnedOnce := List.nodup_nil
  returned := fun _ present => absurd present List.not_mem_nil
  mapped := fun _ present => absurd present List.not_mem_nil
  buffers := fun _ _ _ _ present => absurd present List.not_mem_nil

/-- The next handle is none of those used so far. -/
theorem Tracks.fresh (tracks : Tracks ⟨changes, pool⟩) : ⟨pool.next⟩ ∉ createdHandles changes := by
  rw [tracks.numbered]
  simp

/-- A handle is live if its buffer was created and not given back. -/
theorem Tracks.mem_handles_iff (tracks : Tracks ⟨changes, pool⟩) {handle : BufferHandle} :
    handle ∈ pool.handles ↔ handle ∈ createdHandles changes ∧ handle ∉ releasedHandles changes := by
  rw [tracks.handles, List.mem_filter, decide_eq_true_iff]

/-- A change that creates nothing and gives nothing back. -/
theorem Tracks.keep (tracks : Tracks ⟨changes, pool⟩) {last : BufferChange} {later : BufferPool}
    (createsNone : createdHandles [last] = []) (returnsNone : releasedHandles [last] = [])
    (sameNext : later.next = pool.next) (sameHandles : later.handles = pool.handles)
    (maps : ∀ handle, last.Maps handle → handle ∈ createdHandles changes)
    (reflects : ∀ handle width height usage buffer, pool.get? handle = some buffer →
      Reflects changes handle width height usage buffer →
      ∃ buffer', later.get? handle = some buffer' ∧
        Reflects (changes ++ [last]) handle width height usage buffer') :
    Tracks ⟨changes ++ [last], later⟩ := by
  have sameCreated : createdHandles (changes ++ [last]) = createdHandles changes := by
    rw [createdHandles_append, createsNone, List.append_nil]
  have sameReleased : releasedHandles (changes ++ [last]) = releasedHandles changes := by
    rw [releasedHandles_append, returnsNone, List.append_nil]
  refine ⟨?numbered, ?handles, ?returnedOnce, ?returned, ?mapped, ?buffers⟩
  case numbered => rw [sameCreated, sameNext, tracks.numbered]
  case handles => rw [sameHandles, sameCreated, sameReleased, tracks.handles]
  case returnedOnce => rw [sameReleased]; exact tracks.returnedOnce
  case returned => rw [sameCreated, sameReleased]; exact tracks.returned
  case mapped =>
    intro change present handle mapsHandle
    rw [sameCreated]
    rcases List.mem_append.mp present with earlier | now
    · exact tracks.mapped change earlier handle mapsHandle
    · rw [List.mem_singleton.mp now] at mapsHandle
      exact maps handle mapsHandle
  case buffers =>
    intro handle width height usage present kept
    rw [sameReleased] at kept
    rcases List.mem_append.mp present with earlier | now
    · obtain ⟨buffer, live, before⟩ := tracks.buffers handle width height usage earlier kept
      exact reflects handle width height usage buffer live before
    · rw [← List.mem_singleton.mp now] at createsNone
      exact absurd createsNone (List.cons_ne_nil handle [])

/-- A change of one live buffer. -/
theorem Tracks.concat_updated (tracks : Tracks ⟨changes, pool⟩) {last : BufferChange}
    {handle : BufferHandle} {change : Buffer → Buffer}
    (createsNone : createdHandles [last] = []) (returnsNone : releasedHandles [last] = [])
    (live : handle ∈ pool.handles) (maps : ∀ other, last.Maps other → other = handle)
    (unmaps : ∀ other, other ≠ handle → last ≠ .unmapped other)
    (changed : ∀ {width height : UInt32} {usage : BufferUsage} {buffer : Buffer},
      Reflects changes handle width height usage buffer →
      Reflects (changes ++ [last]) handle width height usage (change buffer)) :
    Tracks ⟨changes ++ [last], pool.update handle change⟩ := by
  refine tracks.keep createsNone returnsNone rfl (BufferPool.handles_update pool handle change)
    ?maps ?reflects
  case maps =>
    intro other mapsOther
    rw [maps other mapsOther]
    exact (tracks.mem_handles_iff.mp live).1
  case reflects =>
    intro other width height usage buffer found reflects
    rw [BufferPool.get?_update, found]
    by_cases same : other = handle
    · subst same
      rw [if_pos rfl]
      exact ⟨change buffer, rfl, changed reflects⟩
    · rw [if_neg same]
      exact ⟨buffer, rfl, reflects.concat (mt (maps other) same) (unmaps other same)⟩

theorem Tracks.concat_created (tracks : Tracks ⟨changes, pool⟩) {width height : UInt32}
    (allocatable : Allocatable width height) (usage : BufferUsage) :
    Tracks ⟨changes ++ [.created ⟨pool.next⟩ width height usage],
      pool.add (.blank width height usage)⟩ := by
  have moreCreated : createdHandles (changes ++ [.created ⟨pool.next⟩ width height usage]) =
      createdHandles changes ++ [⟨pool.next⟩] := createdHandles_append changes _
  have sameReleased : releasedHandles (changes ++ [.created ⟨pool.next⟩ width height usage]) =
      releasedHandles changes := (releasedHandles_append changes _).trans (List.append_nil _)
  have unreturned : ⟨pool.next⟩ ∉ releasedHandles changes := mt (tracks.returned _) tracks.fresh
  refine ⟨?numbered, ?handles, ?returnedOnce, ?returned, ?mapped, ?buffers⟩
  case numbered =>
    rw [moreCreated, tracks.numbered]
    show _ = (List.range (pool.next + 1)).map BufferHandle.mk
    rw [List.range_succ, List.map_append, List.map_singleton]
  case handles =>
    have kept : [⟨pool.next⟩].filter (· ∉ releasedHandles changes) = [⟨pool.next⟩] :=
      List.filter_cons_of_pos (decide_eq_true unreturned)
    rw [moreCreated, sameReleased, List.filter_append, kept, BufferPool.handles_add,
      tracks.handles]
  case returnedOnce => rw [sameReleased]; exact tracks.returnedOnce
  case returned =>
    rw [moreCreated, sameReleased]
    exact fun handle returned => List.mem_append_left _ (tracks.returned handle returned)
  case mapped =>
    intro change present handle maps
    rw [moreCreated]
    rcases List.mem_append.mp present with earlier | now
    · exact List.mem_append_left _ (tracks.mapped change earlier handle maps)
    · rw [List.mem_singleton.mp now] at maps
      exact maps.elim
  case buffers =>
    intro handle width' height' usage' present kept
    rw [sameReleased] at kept
    rw [BufferPool.get?_add]
    rcases List.mem_append.mp present with earlier | now
    · obtain ⟨buffer, live, reflects⟩ := tracks.buffers handle width' height' usage' earlier kept
      refine ⟨buffer, ?_, reflects.concat id nofun⟩
      rw [live, Option.some_or]
    · cases List.mem_singleton.mp now
      have absent : pool.get? ⟨pool.next⟩ = none :=
        BufferPool.get?_eq_none_iff.mpr fun live =>
          tracks.fresh (tracks.mem_handles_iff.mp live).1
      refine ⟨.blank width height usage, ?_, reflects_blank allocatable usage ?_⟩
      · rw [absent, if_pos rfl, Option.none_or]
      · intro change present maps
        rcases List.mem_append.mp present with earlier | now
        · exact tracks.fresh (tracks.mapped change earlier _ maps)
        · rw [List.mem_singleton.mp now] at maps
          exact maps

theorem Tracks.concat_released (tracks : Tracks ⟨changes, pool⟩) {handle : BufferHandle}
    (live : handle ∈ pool.handles) : Tracks ⟨changes ++ [.released handle], pool.drop handle⟩ := by
  have sameCreated : createdHandles (changes ++ [.released handle]) = createdHandles changes :=
    (createdHandles_append changes _).trans (List.append_nil _)
  have moreReleased : releasedHandles (changes ++ [.released handle]) =
      releasedHandles changes ++ [handle] := releasedHandles_append changes _
  obtain ⟨wasCreated, unreturned⟩ := tracks.mem_handles_iff.mp live
  refine ⟨?numbered, ?handles, ?returnedOnce, ?returned, ?mapped, ?buffers⟩
  case numbered => rw [sameCreated]; exact tracks.numbered
  case handles =>
    rw [BufferPool.handles_drop, sameCreated, moreReleased, tracks.handles, List.filter_filter]
    apply List.filter_congr
    intro other _
    rw [Bool.eq_iff_iff]
    simp [and_comm]
  case returnedOnce =>
    rw [moreReleased, List.nodup_append]
    refine ⟨tracks.returnedOnce, List.pairwise_singleton _ handle, ?_⟩
    intro other returned _ same
    rw [List.mem_singleton.mp same]
    rintro rfl
    exact unreturned returned
  case returned =>
    rw [sameCreated, moreReleased]
    intro other returned
    rcases List.mem_append.mp returned with earlier | now
    · exact tracks.returned other earlier
    · rw [List.mem_singleton.mp now]
      exact wasCreated
  case mapped =>
    intro change present other maps
    rw [sameCreated]
    rcases List.mem_append.mp present with earlier | now
    · exact tracks.mapped change earlier other maps
    · rw [List.mem_singleton.mp now] at maps
      exact maps.elim
  case buffers =>
    intro other width height usage present kept
    rw [moreReleased, List.mem_append, List.mem_singleton, not_or] at kept
    rcases List.mem_append.mp present with earlier | now
    · obtain ⟨buffer, found, reflects⟩ :=
        tracks.buffers other width height usage earlier kept.1
      refine ⟨buffer, ?_, reflects.concat id nofun⟩
      rw [BufferPool.get?_drop, if_neg kept.2, found]
    · cases List.mem_singleton.mp now

/-- Whatever a call does, the changes go on telling what is in the pool. -/
theorem Tracks.step (tracks : Tracks ⟨changes, pool⟩) {call : BufferCall}
    {result : Except BufferError BufferChange} {later : BufferPool}
    (step : pool.Step call result later) :
    Tracks ⟨changes ++ result.toOption.toList, later⟩ := by
  induction step with
  | created unhindered allocatable => exact tracks.concat_created allocatable _
  | failureSet =>
      refine tracks.keep rfl rfl rfl rfl (fun _ maps => maps.elim) ?_
      intro handle width height usage buffer live reflects
      exact ⟨buffer, live, reflects.concat id nofun⟩
  | mapped live free inside =>
      exact tracks.concat_updated rfl rfl (BufferPool.mem_handles_iff.mpr ⟨_, live⟩)
        (fun _ maps => Eq.symm maps) (fun _ _ => nofun)
        (fun reflects => reflects.concat_mapped rfl _)
  | unmapped live taken =>
      exact tracks.concat_updated rfl rfl (BufferPool.mem_handles_iff.mpr ⟨_, live⟩)
        (fun _ maps => maps.elim)
        (fun _ different same => different (BufferChange.unmapped.inj same).symm)
        Reflects.concat_unmapped
  | released live => exact tracks.concat_released (BufferPool.mem_handles_iff.mpr ⟨_, live⟩)
  | injected pending =>
      show Tracks ⟨changes ++ [], _⟩
      rw [List.append_nil]
      exact ⟨tracks.numbered, tracks.handles, tracks.returnedOnce, tracks.returned,
        tracks.mapped, tracks.buffers⟩
  | refused refusal =>
      show Tracks ⟨changes ++ [], pool⟩
      rw [List.append_nil]
      exact tracks

theorem Tracks.foldl {history : PoolHistory} (tracks : history.Tracks) (calls : List BufferCall) :
    (calls.foldl PoolHistory.next history).Tracks := by
  induction calls generalizing history with
  | nil => exact tracks
  | cons call calls inductionHypothesis =>
      exact inductionHypothesis (tracks.step (history.pool.step_perform call))

/-- After any calls on a new pool the changes tell what is in it. -/
theorem tracks_ofCalls (calls : List BufferCall) : (ofCalls calls).Tracks :=
  tracks_new.foldl calls

end Tracks

end PoolHistory

end Scanout
