/-
# What the pool guarantees its clients

Read off the invariant: no buffer belongs to two open acquisitions and
`in_use_` marks exactly the buffers that do; the assertions of
`ReturnUnusedBuffer`, `Realloc` and `~BufferPool` hold; storage bindings and
releases of each buffer alternate; and every handle `GetFreeBuffer` returns
starts from reset per-frame state. Runs may interleave any number of threads.
-/

import Libgav1.BufferPool.Invariant

namespace Libgav1

namespace PoolState

variable {s s' : PoolState}

/-! ## Buffers never leave `buffers_` -/

theorem Inv.buffers_prefix_exec (hi : s.Inv) {a : Action} (he : s.Enabled a)
    (hx : s.exec a = .ok s') : s.buffers <+: s'.buffers := by
  obtain ⟨t, op⟩ := a
  cases op with
  | getFreeBuffer =>
    cases hx
    cases hp : s.buffers.find? (fun p => !(s.heap p).inUse) with
    | some p => simp only [getFreeBuffer_of_find_some hp, openHandle, setBuffer_buffers,
        List.prefix_refl]
    | none => simp only [getFreeBuffer_of_find_none hp, List.prefix_refl]
  | allocate ok => cases hx; cases ok <;> exact List.prefix_refl _
  | pushBack ok =>
    obtain ⟨p, hp⟩ := Option.isSome_iff_exists.1 he
    cases hx
    cases ok
    · simp only [pushBack_false hp, List.prefix_refl]
    · simp only [pushBack_true hp, openHandle, List.prefix_append]
  | abort sentinel =>
    cases hx
    exact (perFrameOnly_abort (s := s) sentinel).calls_eq.1.symm ▸ List.prefix_refl _
  | returnUnusedBuffer n =>
    obtain ⟨a, ha, -, -⟩ := acquisition_of_enabled he.2
    rw [exec_returnUnusedBuffer hi ha] at hx
    cases hx; exact List.prefix_refl _
  | realloc n frameBuffer =>
    obtain ⟨a, ha, -, -⟩ := acquisition_of_enabled he.2
    simp only [PoolState.exec, ha] at hx
    cases hv : (s.heap a.buffer).bufferPrivateDataValid with
    | true => simp [realloc_of_valid hv, Except.map] at hx
    | false =>
      cases frameBuffer with
      | none => simp only [realloc_none hv, Except.map] at hx; cases hx; exact List.prefix_refl _
      | some d =>
        simp only [realloc_some hv, Except.map, Option.isSome_some, if_true] at hx
        cases hx; exact List.prefix_refl _
  | update n u =>
    obtain ⟨a, ha, -, -⟩ := acquisition_of_enabled he.2
    simp only [PoolState.exec, ha] at hx
    cases hx; exact List.prefix_refl _

end PoolState

/-- Along a run, every earlier `buffers_` is a prefix of the current one. -/
theorem Run.buffers_prefix {adm : PoolState → Action → Prop} {s : PoolState}
    {ss : List PoolState} (h : Run adm (s :: ss)) : ∀ s₀ ∈ ss, s₀.buffers <+: s.buffers := by
  generalize hl : s :: ss = l at h
  induction h generalizing s ss with
  | init => cases hl; simp
  | step a hrun he _ hx ih =>
    cases hl
    have hi := hrun.inv _ (List.mem_cons_self _ _)
    have hpre := hi.buffers_prefix_exec he hx
    intro s₀ hs₀
    rcases List.mem_cons.1 hs₀ with rfl | hs₀
    · exact hpre
    · exact (ih rfl s₀ hs₀).trans hpre

namespace PoolState

variable {s : PoolState}

theorem Inv.openBuffers_nodup (hi : s.Inv) : s.openBuffers.Nodup := by
  refine List.nodup_append.2 ⟨hi.handles_nodup, hi.pushing_nodup, ?_⟩
  intro p hp₁ hp₂
  obtain ⟨h, hh, rfl⟩ := List.mem_map.1 hp₁
  obtain ⟨e, he, hep⟩ := List.mem_map.1 hp₂
  exact hi.pushing_not_mem e he (hep ▸ hi.handle_mem h hh)

theorem Inv.inUse_iff_open (hi : s.Inv) :
    ∀ p ∈ s.buffers ++ s.pushing.map (·.2), (s.heap p).inUse = true ↔ p ∈ s.openBuffers := by
  intro p hp
  rcases List.mem_append.1 hp with hp | hp
  · rw [hi.inUse_iff p hp, openBuffers, List.mem_append]
    refine ⟨Or.inl, fun h => h.resolve_right fun h' => ?_⟩
    obtain ⟨e, he, rfl⟩ := List.mem_map.1 h'
    exact hi.pushing_not_mem e he hp
  · obtain ⟨e, he, rfl⟩ := List.mem_map.1 hp
    simp [hi.pushing_allocated e he, RefCountedBuffer.allocated, openBuffers, hp]

theorem Inv.exec_returnUnusedBuffer_ok (hi : s.Inv) {t n : Nat}
    (he : s.Enabled ⟨t, .returnUnusedBuffer n⟩) :
    ∃ s', s.exec ⟨t, .returnUnusedBuffer n⟩ = .ok s' := by
  obtain ⟨a, ha, -, -⟩ := acquisition_of_enabled he.2
  exact ⟨_, exec_returnUnusedBuffer hi ha⟩

theorem Inv.destroy_ok (hi : s.Inv) (hh : s.handles = []) : s.destroy = .ok () := by
  have hfree : ∀ p ∈ s.buffers, (s.heap p).inUse = false := fun p hp => by
    simpa [hh] using hi.inUse_iff p hp
  simpa [destroy] using hfree

end PoolState

/-- Mutual exclusion of acquisitions. In every run, whatever the number of
threads and the interleaving of their steps: the buffers of open acquisitions
(live handles, and new buffers not yet pushed) are pairwise distinct; `in_use_`
holds exactly for them; the assertion of `ReturnUnusedBuffer` holds whenever a
deleter runs; with every handle returned, `~BufferPool` finds no buffer in use;
and `buffers_` holds no pointer twice and only grows. -/
theorem getFreeBuffer_mutualExclusion {adm : PoolState → Action → Prop} {s : PoolState}
    {ss : List PoolState} (hrun : Run adm (s :: ss)) :
    s.openBuffers.Nodup ∧
    (∀ p ∈ s.buffers ++ s.pushing.map (·.2), (s.heap p).inUse = true ↔ p ∈ s.openBuffers) ∧
    (∀ t n, s.Enabled ⟨t, .returnUnusedBuffer n⟩ →
      ∃ s', s.exec ⟨t, .returnUnusedBuffer n⟩ = .ok s') ∧
    (s.handles = [] → s.destroy = .ok ()) ∧
    s.buffers.Nodup ∧
    (∀ s₀ ∈ ss, s₀.buffers <+: s.buffers) := by
  have hi := hrun.inv s (List.mem_cons_self _ _)
  exact ⟨hi.openBuffers_nodup, hi.inUse_iff_open, fun _ _ he => hi.exec_returnUnusedBuffer_ok he,
    hi.destroy_ok, hi.buffers_nodup, hrun.buffers_prefix⟩

/-- Thread `0` has allocated a buffer after a scan of the empty pool. -/
def allocatingPool : PoolState := (PoolState.init.getFreeBuffer 0).allocate 0 true

/-- Thread `0` holds the buffer it pushed. -/
def acquiredPool : PoolState := allocatingPool.pushBack 0 true

/-- The first acquisition is a run under any condition that admits the steps
of thread `0` other than `Realloc`. -/
theorem run_acquiredPool (adm : PoolState → Action → Prop)
    (hadm : ∀ s a, a.thread = 0 → (∀ n r, a.op ≠ .realloc n r) → adm s a) :
    Run adm [acquiredPool, allocatingPool, PoolState.init.getFreeBuffer 0, PoolState.init] :=
  .step ⟨0, .pushBack true⟩
    (.step ⟨0, .allocate true⟩
      (.step ⟨0, .getFreeBuffer⟩ .init (by decide) (hadm _ _ rfl (by simp)) rfl)
      (by decide) (hadm _ _ rfl (by simp)) rfl)
    (by decide) (hadm _ _ rfl (by simp)) rfl

theorem mutualExclusion_acquiredPool :
    acquiredPool.openBuffers.Nodup ∧
    (∀ p ∈ acquiredPool.buffers ++ acquiredPool.pushing.map (·.2),
      (acquiredPool.heap p).inUse = true ↔ p ∈ acquiredPool.openBuffers) ∧
    (∀ t n, acquiredPool.Enabled ⟨t, .returnUnusedBuffer n⟩ →
      ∃ s', acquiredPool.exec ⟨t, .returnUnusedBuffer n⟩ = .ok s') ∧
    (acquiredPool.handles = [] → acquiredPool.destroy = .ok ()) ∧
    acquiredPool.buffers.Nodup ∧
    (∀ s₀ ∈ [allocatingPool, PoolState.init.getFreeBuffer 0, PoolState.init],
      s₀.buffers <+: acquiredPool.buffers) :=
  getFreeBuffer_mutualExclusion (run_acquiredPool (fun _ _ => True) fun _ _ _ _ => trivial)


/-! ## Storage binding -/

/-- The run condition of storage binding: `Realloc` is called only through a
handle whose acquisition has not bound storage yet. -/
def ReallocOnce (s : PoolState) (a : Action) : Prop :=
  ∀ n frameBuffer, a.op = .realloc n frameBuffer → ∀ h, s.acquisition n = some h → h.bound = false

/-- The holder of `acquiredPool` has bound storage `7` to its buffer with `Realloc`. -/
def boundPool : PoolState := (acquiredPool.storageBound 0 7).markBound 0

/-- It has then decoded a frame into the buffer, with HDR metadata. -/
def decodedPool : PoolState :=
  boundPool.setBuffer 0 ((boundPool.heap 0).update ⟨64, .decoded, true, true, true⟩)

/-- Its handle has been deleted: the buffer is free again and its storage released. -/
def returnedPool : PoolState := (decodedPool.released 0).dropHandle 0

/-- A frame's life in the pool is a run under the run condition: thread `0` acquires a new
buffer, binds storage to it, decodes into it and deletes its handle. -/
theorem run_returnedPool :
    Run ReallocOnce [returnedPool, decodedPool, boundPool, acquiredPool, allocatingPool,
      PoolState.init.getFreeBuffer 0, PoolState.init] :=
  have hacquired : acquiredPool.acquisition 0 = some ⟨0, 0, false⟩ := rfl
  .step ⟨0, .returnUnusedBuffer 0⟩
    (.step ⟨0, .update 0 ⟨64, .decoded, true, true, true⟩⟩
      (.step ⟨0, .realloc 0 (some 7)⟩
        (run_acquiredPool _ fun _ _ _ hr n r hop => absurd hop (hr n r))
        (by decide)
        (by rintro n _ ⟨⟩ h ha; rw [hacquired] at ha; cases ha; rfl) rfl)
      (by decide) (fun _ _ hop => nomatch hop) rfl)
    (by decide) (fun _ _ hop => nomatch hop) rfl

namespace PoolState

variable {s : PoolState}

/-- Under the run condition no assertion fails: every enabled step has a
successor. -/
theorem Inv.exec_ok (hi : s.Inv) {a : Action} (he : s.Enabled a) (hadm : ReallocOnce s a) :
    ∃ s', s.exec a = .ok s' := by
  obtain ⟨t, op⟩ := a
  cases op with
  | returnUnusedBuffer n => exact hi.exec_returnUnusedBuffer_ok he
  | realloc n frameBuffer =>
    obtain ⟨h, ha, hmem, -⟩ := acquisition_of_enabled he.2
    have hv : (s.heap h.buffer).bufferPrivateDataValid = false := by
      cases hv : (s.heap h.buffer).bufferPrivateDataValid
      · rfl
      · obtain ⟨g, hg, hgb, hbound⟩ := hi.valid_bound _ (hi.handle_mem h hmem) hv
        rw [hi.eq_of_buffer_eq hg hmem hgb, hadm n frameBuffer rfl h ha] at hbound
        exact absurd hbound Bool.false_ne_true
    cases frameBuffer with
    | none => exact ⟨s, by simp [PoolState.exec, ha, realloc_none hv, Except.map]⟩
    | some d =>
      exact ⟨(s.storageBound h.buffer d).markBound n,
        by simp [PoolState.exec, ha, realloc_some hv, Except.map]⟩
  | update n u =>
    obtain ⟨h, ha, -, -⟩ := acquisition_of_enabled he.2
    exact ⟨s.setBuffer h.buffer ((s.heap h.buffer).update u), by simp [PoolState.exec, ha]⟩
  | getFreeBuffer | allocate _ | pushBack _ | abort _ => exact ⟨_, rfl⟩

/-- After the deleter of a handle has run, the storage calls of its buffer are
balanced: the storage bound during the acquisition has been released. -/
theorem Inv.replay_returnUnusedBuffer (hi : s.Inv) {t n : Nat} {h : Acquisition}
    {s' : PoolState} (ha : s.acquisition n = some h)
    (hx : s.exec ⟨t, .returnUnusedBuffer n⟩ = .ok s') :
    storageReplay (s'.storageCalls h.buffer) = some none := by
  rw [exec_returnUnusedBuffer hi ha] at hx
  cases hx
  have hmem := (mem_handles_of_acquisition ha).1
  have hr := hi.replay _ (hi.handle_mem h hmem)
  have hcalls : ((s.released h.buffer).dropHandle n).storageCalls h.buffer =
      (s.released h.buffer).storageCalls h.buffer := rfl
  rw [hcalls, storageCalls_released]
  cases hv : (s.heap h.buffer).bufferPrivateDataValid
  · simp_all [RefCountedBuffer.binding]
  · simp_all [RefCountedBuffer.binding, storageReplay_append, storageStep]

end PoolState

/-- Storage binding alternates with release. In every run under the run
condition (`Realloc` only through a live handle, and not again after it
succeeded in that acquisition): bound storage implies `in_use_`; the callback
calls of each buffer alternate `get`, `release`, … with each release handing
back the data of the preceding get, so nothing is released twice or without
being bound; no assertion fails, that of `Realloc` included; and once the
deleter of a handle has run, the storage bound to its buffer is released. -/
theorem realloc_storageAlternates {s : PoolState} {ss : List PoolState}
    (hrun : Run ReallocOnce (s :: ss)) :
    (∀ p ∈ s.buffers, (s.heap p).bufferPrivateDataValid = true → (s.heap p).inUse = true) ∧
    (∀ p ∈ s.buffers, storageReplay (s.storageCalls p) = some (s.heap p).binding) ∧
    (∀ a, s.Enabled a → ReallocOnce s a → ∃ s', s.exec a = .ok s') ∧
    (∀ t n h s', s.acquisition n = some h → s.exec ⟨t, .returnUnusedBuffer n⟩ = .ok s' →
      storageReplay (s'.storageCalls h.buffer) = some none) := by
  have hi := hrun.inv s (List.mem_cons_self _ _)
  exact ⟨fun _ hp hv => hi.inUse_of_valid hp hv, hi.replay, fun _ he hadm => hi.exec_ok he hadm,
    fun _ _ _ _ ha hx => hi.replay_returnUnusedBuffer ha hx⟩

theorem storageAlternates_returnedPool :
    (∀ p ∈ returnedPool.buffers, (returnedPool.heap p).bufferPrivateDataValid = true →
      (returnedPool.heap p).inUse = true) ∧
    (∀ p ∈ returnedPool.buffers,
      storageReplay (returnedPool.storageCalls p) = some (returnedPool.heap p).binding) ∧
    (∀ a, returnedPool.Enabled a → ReallocOnce returnedPool a →
      ∃ s', returnedPool.exec a = .ok s') ∧
    (∀ t n h s', returnedPool.acquisition n = some h →
      returnedPool.exec ⟨t, .returnUnusedBuffer n⟩ = .ok s' →
      storageReplay (s'.storageCalls h.buffer) = some none) :=
  realloc_storageAlternates run_returnedPool

/-! ## Fresh acquisitions -/

namespace PoolState

variable {s s' : PoolState}

/-- The steps that do not return from `GetFreeBuffer` open no handle. -/
theorem Inv.serial_mem_of_exec (hi : s.Inv) {a : Action} (he : s.Enabled a)
    (hx : s.exec a = .ok s') (hop : a.op ≠ .getFreeBuffer) (hpush : ∀ ok, a.op ≠ .pushBack ok) :
    ∀ h ∈ s'.handles, h.serial ∈ s.handles.map (·.serial) := by
  obtain ⟨t, op⟩ := a
  cases op with
  | getFreeBuffer => exact absurd rfl hop
  | pushBack ok => exact absurd rfl (hpush ok)
  | allocate ok => cases hx; cases ok <;> exact fun h hh => List.mem_map_of_mem _ hh
  | abort sentinel =>
    cases hx
    rw [(perFrameOnly_abort (s := s) sentinel).calls_eq.2.2.2]
    exact fun h hh => List.mem_map_of_mem _ hh
  | returnUnusedBuffer n =>
    obtain ⟨a, ha, -, -⟩ := acquisition_of_enabled he.2
    rw [exec_returnUnusedBuffer hi ha] at hx
    cases hx
    exact fun h hh => List.mem_map_of_mem _ (List.mem_filter.1 hh).1
  | realloc n frameBuffer =>
    obtain ⟨a, ha, -, -⟩ := acquisition_of_enabled he.2
    simp only [PoolState.exec, ha] at hx
    cases hv : (s.heap a.buffer).bufferPrivateDataValid with
    | true => simp [realloc_of_valid hv, Except.map] at hx
    | false =>
      cases frameBuffer with
      | none =>
        simp only [realloc_none hv, Except.map] at hx
        cases hx; exact fun h hh => List.mem_map_of_mem _ hh
      | some d =>
        simp only [realloc_some hv, Except.map, Option.isSome_some, if_true] at hx
        cases hx
        intro h hh
        have hmem := List.mem_map_of_mem (·.serial) hh
        rwa [markBound_map_serial] at hmem
  | update n u =>
    obtain ⟨a, ha, -, -⟩ := acquisition_of_enabled he.2
    simp only [PoolState.exec, ha] at hx
    cases hx; exact fun h hh => List.mem_map_of_mem _ hh

/-- A buffer in a state fit to be handed out: in use, progress and frame state
reset, no storage bound, and, when it is `recycled`, no HDR metadata. -/
structure FreshHandle (b : RefCountedBuffer) (recycled : Prop) : Prop where
  inUse : b.inUse = true
  progressRow : b.progressRow = -1
  frameState : b.frameState = .unknown
  noStorage : b.bufferPrivateDataValid = false
  noHdr : recycled → b.hdrCllSet = false ∧ b.hdrMdcvSet = false ∧ b.itutT35Set = false

theorem Inv.freshHandle_of_exec (hi : s.Inv) {a : Action} (he : s.Enabled a)
    (hx : s.exec a = .ok s') :
    ∀ h ∈ s'.handles, h.serial ∉ s.handles.map (·.serial) →
      FreshHandle (s'.heap h.buffer) (h.buffer ∈ s.buffers) := by
  intro h hh hnew
  obtain ⟨t, op⟩ := a
  by_cases hop : op = .getFreeBuffer
  · subst hop
    cases hx
    cases hp : s.buffers.find? (fun p => !(s.heap p).inUse) with
    | none =>
      rw [getFreeBuffer_of_find_none hp] at hh
      exact absurd (List.mem_map_of_mem _ hh) hnew
    | some p =>
      rw [getFreeBuffer_of_find_some hp] at hh ⊢
      simp only [openHandle, List.mem_append, List.mem_singleton] at hh
      rcases hh with hh | rfl
      · exact absurd (List.mem_map_of_mem _ hh) hnew
      · have hfree : (s.heap p).inUse = false := by simpa using List.find?_some hp
        have hv := hi.valid_of_not_inUse (List.mem_of_find?_eq_some hp) hfree
        exact ⟨by simp [openHandle, claimed], by simp [openHandle, claimed],
          by simp [openHandle, claimed], by simp [openHandle, claimed, hv],
          fun _ => by simp [openHandle, claimed]⟩
  by_cases hpush : ∃ ok, op = .pushBack ok
  · obtain ⟨ok, rfl⟩ := hpush
    obtain ⟨p, hp⟩ := Option.isSome_iff_exists.1 he
    have hpa := hi.pushing_allocated _ (mem_pushing_of_pendingBuffer hp)
    cases hx
    cases ok with
    | false =>
      rw [pushBack_false hp] at hh
      exact absurd (List.mem_map_of_mem _ hh) hnew
    | true =>
      rw [pushBack_true hp] at hh ⊢
      simp only [openHandle, List.mem_append, List.mem_singleton] at hh
      rcases hh with hh | rfl
      · exact absurd (List.mem_map_of_mem _ hh) hnew
      · simp only [openHandle, hpa]
        exact ⟨rfl, rfl, rfl, rfl, fun _ => ⟨rfl, rfl, rfl⟩⟩
  · push_neg at hpush
    exact absurd (hi.serial_mem_of_exec he hx hop hpush h hh) hnew

end PoolState

/-- `GetFreeBuffer` hands out reset buffers. From every state of every run,
each handle a step opens (a scan that claims a free buffer, or a `push_back` of
a new one) refers to a buffer in use, with progress row `-1`, frame state
unknown and no storage bound; a buffer recycled from `buffers_` also carries no
HDR metadata of its previous holder. -/
theorem getFreeBuffer_freshHandle {adm : PoolState → Action → Prop} {s s' : PoolState}
    {ss : List PoolState} (hrun : Run adm (s :: ss)) {a : Action} (he : s.Enabled a)
    (hx : s.exec a = .ok s') (h : Acquisition) (hh : h ∈ s'.handles)
    (hnew : h.serial ∉ s.handles.map (·.serial)) :
    (s'.heap h.buffer).inUse = true ∧ (s'.heap h.buffer).progressRow = -1 ∧
    (s'.heap h.buffer).frameState = .unknown ∧
    (s'.heap h.buffer).bufferPrivateDataValid = false ∧
    (h.buffer ∈ s.buffers → (s'.heap h.buffer).hdrCllSet = false ∧
      (s'.heap h.buffer).hdrMdcvSet = false ∧ (s'.heap h.buffer).itutT35Set = false) := by
  have hf := (hrun.inv s (List.mem_cons_self _ _)).freshHandle_of_exec he hx h hh hnew
  exact ⟨hf.inUse, hf.progressRow, hf.frameState, hf.noStorage, hf.noHdr⟩

theorem freshHandle_returnedPool :
    ((returnedPool.getFreeBuffer 1).heap 0).inUse = true ∧
    ((returnedPool.getFreeBuffer 1).heap 0).progressRow = -1 ∧
    ((returnedPool.getFreeBuffer 1).heap 0).frameState = .unknown ∧
    ((returnedPool.getFreeBuffer 1).heap 0).bufferPrivateDataValid = false ∧
    (0 ∈ returnedPool.buffers → ((returnedPool.getFreeBuffer 1).heap 0).hdrCllSet = false ∧
      ((returnedPool.getFreeBuffer 1).heap 0).hdrMdcvSet = false ∧
      ((returnedPool.getFreeBuffer 1).heap 0).itutT35Set = false) :=
  getFreeBuffer_freshHandle run_returnedPool (a := ⟨1, .getFreeBuffer⟩) (by decide) rfl
    ⟨1, 0, false⟩ (by decide) (by decide)

/-! ## Abort and destruction -/

namespace PoolState

variable {s : PoolState}

/-- In a reachable state `Abort` reaches exactly the buffers held through live handles:
those of `buffers_` in use. -/
theorem Inv.abort_eq (hi : s.Inv) (sentinel : Int) :
    s.abort sentinel =
      { s with
        heap := fun p => if p ∈ s.handles.map (·.buffer) then (s.heap p).abort sentinel
          else s.heap p } := by
  rw [← (perFrameOnly_abort (s := s) sentinel).rest]
  congr 1
  funext p
  rw [abort_heap]
  by_cases hp : p ∈ s.buffers
  · simp only [hp, true_and, hi.inUse_iff p hp]
  · have hheld : p ∉ s.handles.map (·.buffer) := fun h => by
      obtain ⟨a, ha, rfl⟩ := List.mem_map.1 h
      exact hp (hi.handle_mem a ha)
    simp only [hp, false_and, if_false, hheld]

/-- In a reachable state the assertion of `~BufferPool` fails exactly when a handle is live. -/
theorem Inv.destroy_ok_iff (hi : s.Inv) : s.destroy = .ok () ↔ s.handles = [] := by
  refine ⟨fun h => ?_, hi.destroy_ok⟩
  cases hh : s.handles with
  | nil => rfl
  | cons a _ =>
    have hmem : a ∈ s.handles := hh ▸ List.mem_cons_self a _
    have hbuffer := hi.handle_mem a hmem
    have hany : s.buffers.any (fun p => (s.heap p).inUse) = true :=
      List.any_eq_true.2 ⟨_, hbuffer, (hi.inUse_iff _ hbuffer).2 (List.mem_map_of_mem _ hmem)⟩
    simp [destroy, hany] at h

end PoolState

/-- `BufferPool::Abort` reaches exactly the frames being decoded. In every state of every
run, whatever the threads' interleaving, `Abort` sets the progress of exactly the buffers
held through live handles to the abort sentinel and changes nothing else: no free buffer,
and not the new buffer of a `GetFreeBuffer` that has allocated it but not yet pushed it into
`buffers_`. -/
theorem abort_heldBuffers {adm : PoolState → Action → Prop} {s : PoolState} {ss : List PoolState}
    (hrun : Run adm (s :: ss)) (sentinel : Int) :
    s.abort sentinel =
      { s with
        heap := fun p => if p ∈ s.handles.map (·.buffer) then (s.heap p).abort sentinel
          else s.heap p } :=
  (hrun.inv s (List.mem_cons_self _ _)).abort_eq sentinel

theorem abort_heldBuffers_acquiredPool :
    acquiredPool.abort (-2) =
      { acquiredPool with
        heap := fun p => if p ∈ acquiredPool.handles.map (·.buffer)
          then (acquiredPool.heap p).abort (-2) else acquiredPool.heap p } :=
  abort_heldBuffers (run_acquiredPool (fun _ _ => True) fun _ _ _ _ => trivial) (-2)

/-- `~BufferPool` detects every leaked handle. In every state of every run, its assertion
that no buffer is in use holds exactly when no handle is live: it fails whenever a handle
has not been returned, and never once all have. -/
theorem destroy_detectsLeaks {adm : PoolState → Action → Prop} {s : PoolState}
    {ss : List PoolState} (hrun : Run adm (s :: ss)) : s.destroy = .ok () ↔ s.handles = [] :=
  (hrun.inv s (List.mem_cons_self _ _)).destroy_ok_iff

theorem destroy_detectsLeaks_acquiredPool :
    acquiredPool.destroy = .ok () ↔ acquiredPool.handles = [] :=
  destroy_detectsLeaks (run_acquiredPool (fun _ _ => True) fun _ _ _ _ => trivial)

/-! ## One storage binding per acquisition -/

namespace PoolState

variable {s s' : PoolState}

/-- The storage a live handle's acquisition bound is still bound to its buffer. -/
def BoundValid (s : PoolState) : Prop :=
  ∀ h ∈ s.handles, h.bound = true → (s.heap h.buffer).bufferPrivateDataValid = true

/-- A step whose handles that have bound storage are old ones, with the storage flag of their
buffers kept, keeps `BoundValid`. -/
theorem BoundValid.of_handles (hb : s.BoundValid)
    (hh : ∀ h ∈ s'.handles, h.bound = true → h ∈ s.handles ∧
      (s'.heap h.buffer).bufferPrivateDataValid = (s.heap h.buffer).bufferPrivateDataValid) :
    s'.BoundValid :=
  fun h hmem hbound => (hh h hmem hbound).2.trans (hb h (hh h hmem hbound).1 hbound)

theorem BoundValid.perFrameOnly (hb : s.BoundValid) (h : PerFrameOnly s s') : s'.BoundValid :=
  hb.of_handles fun g hg _ => ⟨h.calls_eq.2.2.2 ▸ hg, h.valid g.buffer⟩

/-- A handle opened by a step has bound no storage yet. -/
theorem mem_openHandle_bound {p : Nat} {h : Acquisition} (hh : h ∈ (s.openHandle p).handles)
    (hbound : h.bound = true) : h ∈ s.handles := by
  simp only [openHandle, List.mem_append, List.mem_singleton] at hh
  rcases hh with hh | rfl
  · exact hh
  · cases hbound

/-- Every step keeps the storage of the handles that bound some. -/
theorem Inv.boundValid_exec (hi : s.Inv) (hb : s.BoundValid) {a : Action} (he : s.Enabled a)
    (hx : s.exec a = .ok s') : s'.BoundValid := by
  obtain ⟨t, op⟩ := a
  cases op with
  | getFreeBuffer =>
    cases hx
    cases hp : s.buffers.find? (fun p => !(s.heap p).inUse) with
    | none => rw [getFreeBuffer_of_find_none hp]; exact hb
    | some p =>
      have hfree : (s.heap p).inUse = false := by simpa using List.find?_some hp
      rw [getFreeBuffer_of_find_some hp]
      refine hb.of_handles fun h hh hbound => ?_
      have hold := mem_openHandle_bound hh hbound
      have hne : h.buffer ≠ p := fun e => by
        have hu := (hi.inUse_iff _ (hi.handle_mem h hold)).2 (List.mem_map_of_mem _ hold)
        rw [e, hfree] at hu
        cases hu
      exact ⟨hold, by simp [openHandle, Function.update_noteq hne]⟩
  | allocate ok =>
    cases hx
    cases ok with
    | true =>
      rw [allocate_true]
      refine hb.of_handles fun h hh _ => ⟨hh, ?_⟩
      simp [Function.update_noteq (hi.buffers_lt _ (hi.handle_mem h hh)).ne]
    | false => exact hb
  | pushBack ok =>
    obtain ⟨p, hp⟩ := Option.isSome_iff_exists.1 he
    cases hx
    cases ok with
    | true =>
      rw [pushBack_true hp]
      exact hb.of_handles fun h hh hbound => ⟨mem_openHandle_bound hh hbound, rfl⟩
    | false => rw [pushBack_false hp]; exact hb
  | returnUnusedBuffer n =>
    obtain ⟨a, ha, hmem, rfl⟩ := acquisition_of_enabled he.2
    rw [exec_returnUnusedBuffer hi ha] at hx
    cases hx
    refine hb.of_handles fun h hh _ => ?_
    simp only [dropHandle, released, setBuffer_handles, List.mem_filter, decide_eq_true_eq] at hh
    have hne : h.buffer ≠ a.buffer := fun e =>
      hh.2 (congrArg (·.serial) (hi.eq_of_buffer_eq hh.1 hmem e))
    exact ⟨hh.1, by simp [dropHandle, released, Function.update_noteq hne]⟩
  | realloc n frameBuffer =>
    obtain ⟨a, ha, hmem, hserial⟩ := acquisition_of_enabled he.2
    simp only [PoolState.exec, ha] at hx
    cases hv : (s.heap a.buffer).bufferPrivateDataValid with
    | true => simp [realloc_of_valid hv, Except.map] at hx
    | false =>
      cases frameBuffer with
      | none => simp only [realloc_none hv, Except.map] at hx; cases hx; exact hb
      | some d =>
        simp only [realloc_some hv, Except.map, Option.isSome_some, if_true] at hx
        cases hx
        intro g hg hbound
        obtain ⟨h, hh, rfl⟩ := List.mem_map.1 hg
        have hbuffer : (if h.serial = n then { h with bound := true } else h).buffer = h.buffer := by
          split <;> rfl
        by_cases hbuf : h.buffer = a.buffer
        · rw [hbuffer, hbuf]
          simp [markBound, storageBound]
        · have hne : h.serial ≠ n := fun e =>
            hbuf (congrArg (·.buffer) (hi.eq_of_serial_eq hh hmem (e.trans hserial.symm)))
          simp only [if_neg hne] at hbound ⊢
          simp [markBound, storageBound, Function.update_noteq hbuf, hb h hh hbound]
  | abort sentinel => cases hx; exact hb.perFrameOnly (perFrameOnly_abort sentinel)
  | update n u =>
    obtain ⟨a, ha, hmem, -⟩ := acquisition_of_enabled he.2
    simp only [PoolState.exec, ha] at hx
    cases hx
    exact hb.perFrameOnly ((PerFrameOnly.refl s).setBuffer (hi.handle_mem a hmem) rfl rfl rfl)

/-- In a reachable state a live handle's buffer has storage bound exactly when its acquisition
bound it. -/
theorem Inv.valid_eq_bound (hi : s.Inv) (hb : s.BoundValid) {h : Acquisition}
    (hh : h ∈ s.handles) : (s.heap h.buffer).bufferPrivateDataValid = h.bound := by
  cases hbound : h.bound
  · cases hv : (s.heap h.buffer).bufferPrivateDataValid
    · rfl
    · obtain ⟨g, hg, hgb, hgbound⟩ := hi.valid_bound _ (hi.handle_mem h hh) hv
      rw [hi.eq_of_buffer_eq hg hh hgb, hbound] at hgbound
      cases hgbound
  · exact hb h hh hbound

end PoolState

/-- Every state of every run keeps the storage its live handles bound. -/
theorem Run.boundValid {adm : PoolState → Action → Prop} {l : List PoolState} (h : Run adm l) :
    ∀ s ∈ l, s.BoundValid := by
  induction h with
  | init => simp [PoolState.BoundValid, PoolState.init]
  | step a hrun he _ hx ih =>
    intro s hs
    rcases List.mem_cons.1 hs with rfl | hs
    · exact (hrun.inv _ (List.mem_cons_self _ _)).boundValid_exec (ih _ (List.mem_cons_self _ _))
        he hx
    · exact ih s hs

/-- Storage is bound at most once per acquisition. In every state of every run, whatever the
threads' interleaving, `Realloc` through a live handle fails its assertion exactly when a
`Realloc` already succeeded during that handle's acquisition: a buffer's storage is bound again
only after its handle has been returned and the buffer acquired anew. -/
theorem realloc_bindsOnce {adm : PoolState → Action → Prop} {s : PoolState} {ss : List PoolState}
    (hrun : Run adm (s :: ss)) {n : Nat} {h : Acquisition} (ha : s.acquisition n = some h)
    (t : Nat) (frameBuffer : Option Nat) :
    s.exec ⟨t, .realloc n frameBuffer⟩ = .error .assertionFailed ↔ h.bound = true := by
  have hv := (hrun.inv s (List.mem_cons_self _ _)).valid_eq_bound
    (hrun.boundValid s (List.mem_cons_self _ _)) (PoolState.mem_handles_of_acquisition ha).1
  simp only [PoolState.exec, ha]
  cases hbound : h.bound <;> rw [hbound] at hv
  · cases frameBuffer <;> simp [PoolState.realloc_none hv, PoolState.realloc_some hv, Except.map]
  · simp [PoolState.realloc_of_valid hv, Except.map]

theorem realloc_bindsOnce_acquiredPool :
    acquiredPool.acquisition 0 = some ⟨0, 0, false⟩ ∧
      (acquiredPool.exec ⟨0, .realloc 0 none⟩ = .error .assertionFailed ↔
        (⟨0, 0, false⟩ : Acquisition).bound = true) :=
  have ha : acquiredPool.acquisition 0 = some ⟨0, 0, false⟩ := by decide
  ⟨ha, realloc_bindsOnce (run_acquiredPool (fun _ _ => True) fun _ _ _ _ => trivial) ha 0 none⟩

end Libgav1
