/-
# How large `buffers_` grows

`buffers_` never shrinks, so a pool that grew past its clients' needs would
leak. It does not: at every point of a run `buffers_` holds at most as many
buffers as the largest demand seen so far, where the demand counts open
acquisitions and the `GetFreeBuffer` calls that have not yet claimed or
allocated a buffer. A thread appends only after a scan found every buffer in
use. With a single thread the bound is the peak number of open acquisitions.
-/

import Libgav1.BufferPool.Properties

namespace Libgav1

namespace PoolState

variable {s s' : PoolState}

/-- `buffers_` together with the `GetFreeBuffer` calls in flight. -/
def footprint (s : PoolState) : Nat :=
  s.buffers.length + s.allocating.length + s.pushing.length

/-- When every buffer is in use, there are no more buffers than live handles. -/
theorem Inv.length_buffers_le_of_all_inUse (hi : s.Inv)
    (hall : ∀ p ∈ s.buffers, (s.heap p).inUse = true) :
    s.buffers.length ≤ s.handles.length := by
  have hsub : s.buffers ⊆ s.handles.map (·.buffer) := fun p hp => (hi.inUse_iff p hp).1 (hall p hp)
  simpa using (List.subperm_of_subset hi.buffers_nodup hsub).length_le

theorem all_inUse_of_find_none (hp : s.buffers.find? (fun p => !(s.heap p).inUse) = none) :
    ∀ p ∈ s.buffers, (s.heap p).inUse = true := by
  simpa using hp

/-- The steps other than those of `GetFreeBuffer` leave `buffers_` and the
calls in flight alone. -/
theorem Inv.exec_same_calls (hi : s.Inv) {a : Action} (he : s.Enabled a)
    (hx : s.exec a = .ok s') (hop : a.op ≠ .getFreeBuffer) (halloc : ∀ ok, a.op ≠ .allocate ok)
    (hpush : ∀ ok, a.op ≠ .pushBack ok) :
    s'.buffers = s.buffers ∧ s'.allocating = s.allocating ∧ s'.pushing = s.pushing := by
  obtain ⟨t, op⟩ := a
  cases op with
  | getFreeBuffer => exact absurd rfl hop
  | allocate ok => exact absurd rfl (halloc ok)
  | pushBack ok => exact absurd rfl (hpush ok)
  | abort sentinel =>
    cases hx
    exact (perFrameOnly_abort (s := s) sentinel).calls_eq.2.2.1 ▸ ⟨
      (perFrameOnly_abort (s := s) sentinel).calls_eq.1,
      (perFrameOnly_abort (s := s) sentinel).calls_eq.2.1, rfl⟩
  | returnUnusedBuffer n =>
    obtain ⟨a, ha, -, -⟩ := acquisition_of_enabled he.2
    rw [exec_returnUnusedBuffer hi ha] at hx
    cases hx; exact ⟨rfl, rfl, rfl⟩
  | realloc n frameBuffer =>
    obtain ⟨a, ha, -, -⟩ := acquisition_of_enabled he.2
    simp only [PoolState.exec, ha] at hx
    cases hv : (s.heap a.buffer).bufferPrivateDataValid with
    | true => simp [realloc_of_valid hv, Except.map] at hx
    | false =>
      cases frameBuffer with
      | none => simp only [realloc_none hv, Except.map] at hx; cases hx; exact ⟨rfl, rfl, rfl⟩
      | some d =>
        simp only [realloc_some hv, Except.map, Option.isSome_some, if_true] at hx
        cases hx; exact ⟨rfl, rfl, rfl⟩
  | update n u =>
    obtain ⟨a, ha, -, -⟩ := acquisition_of_enabled he.2
    simp only [PoolState.exec, ha] at hx
    cases hx; exact ⟨rfl, rfl, rfl⟩

/-- `push_back` removes the thread's entry from the calls in flight. -/
theorem length_filter_pushing_lt {t p : Nat} (hp : s.pendingBuffer t = some p) :
    (s.pushing.filter (·.1 ≠ t)).length < s.pushing.length :=
  List.length_filter_lt_length_iff_exists.2
    ⟨(t, p), mem_pushing_of_pendingBuffer hp, by simp⟩

/-- One step: the footprint grows only by a failed scan, and then it is at
most the new demand. -/
theorem Inv.footprint_exec_le (hi : s.Inv) {a : Action} (he : s.Enabled a)
    (hx : s.exec a = .ok s') : s'.footprint ≤ max s.footprint s'.demand := by
  by_cases hop : a.op = .getFreeBuffer
  · obtain ⟨t, op⟩ := a
    cases hop
    cases hx
    cases hp : s.buffers.find? (fun p => !(s.heap p).inUse) with
    | some p =>
      rw [getFreeBuffer_of_find_some hp]
      exact Nat.le_max_left _ _
    | none =>
      rw [getFreeBuffer_of_find_none hp]
      have := hi.length_buffers_le_of_all_inUse (all_inUse_of_find_none hp)
      refine Nat.le_trans ?_ (Nat.le_max_right _ _)
      simp only [footprint, demand, List.length_cons]
      omega
  by_cases halloc : ∃ ok, a.op = .allocate ok
  · obtain ⟨t, op⟩ := a
    obtain ⟨ok, rfl⟩ := halloc
    have ht : t ∈ s.allocating := he
    cases hx
    refine Nat.le_trans ?_ (Nat.le_max_left _ _)
    have hlen := List.length_erase_of_mem ht
    have hpos := List.length_pos_of_mem ht
    cases ok
    · simp only [allocate_false, footprint]; omega
    · simp only [allocate_true, footprint, List.length_cons, setBuffer_buffers]; omega
  by_cases hpush : ∃ ok, a.op = .pushBack ok
  · obtain ⟨t, op⟩ := a
    obtain ⟨ok, rfl⟩ := hpush
    obtain ⟨p, hp⟩ := Option.isSome_iff_exists.1 he
    have hp : s.pendingBuffer t = some p := hp
    have hlt := length_filter_pushing_lt hp
    cases hx
    refine Nat.le_trans ?_ (Nat.le_max_left _ _)
    cases ok
    · simp only [pushBack_false hp, footprint]; omega
    · simp only [pushBack_true hp, footprint, openHandle, List.length_append,
        List.length_singleton]; omega
  push_neg at halloc hpush
  obtain ⟨hb, ha, hp⟩ := hi.exec_same_calls he hx hop halloc hpush
  exact Nat.le_trans (by simp [footprint, hb, ha, hp]) (Nat.le_max_left _ _)

end PoolState

/-- The largest demand over a run, newest state first. -/
def peakDemand (run : List PoolState) : Nat :=
  (run.map PoolState.demand).foldr max 0

/-- The largest number of open acquisitions over a run. -/
def peakOpen (run : List PoolState) : Nat :=
  (run.map (·.openBuffers.length)).foldr max 0

/-- The footprint never exceeds the peak demand of the run so far. -/
theorem Run.footprint_le {adm : PoolState → Action → Prop} {s : PoolState}
    {ss : List PoolState} (h : Run adm (s :: ss)) : s.footprint ≤ peakDemand (s :: ss) := by
  generalize hl : s :: ss = l at h
  induction h generalizing s ss with
  | init => cases hl; simp [PoolState.footprint, PoolState.init]
  | step a hrun he _ hx ih =>
    cases hl
    have hstep := (hrun.inv _ (List.mem_cons_self _ _)).footprint_exec_le he hx
    have hprev := ih rfl
    simp only [peakDemand, List.map_cons, List.foldr_cons] at hprev ⊢
    omega


/-! ## A single thread -/

/-- A run condition: every step is taken by thread `0`. -/
def SingleThreaded (_ : PoolState) (a : Action) : Prop := a.thread = 0

namespace PoolState

variable {s s' : PoolState}

/-- What a single thread keeps: it is the only thread inside `GetFreeBuffer`,
and while it allocates every buffer is still in use. -/
structure SingleInv (s : PoolState) : Prop where
  threads_zero : ∀ t ∈ s.allocating ++ s.pushing.map (·.1), t = 0
  allocating_le : s.allocating ≠ [] → s.buffers.length ≤ s.handles.length

theorem length_le_one_of_forall_eq_zero {l : List Nat} (hn : l.Nodup) (hz : ∀ t ∈ l, t = 0) :
    l.length ≤ 1 := by
  match l, hn, hz with
  | [], _, _ => simp
  | [_], _, _ => simp
  | a :: b :: _, hn, hz =>
    have ha := hz a (by simp)
    have hb := hz b (by simp)
    simp [ha, hb] at hn

theorem eq_singleton_of_mem_of_length_le_one {α : Type} {l : List α} {x : α} (hx : x ∈ l)
    (hl : l.length ≤ 1) : l = [x] := by
  match l, hx, hl with
  | [y], hx, _ => rw [List.mem_singleton.1 hx]

theorem Inv.calls_length_le_one (hi : s.Inv) (hs : s.SingleInv) :
    s.allocating.length + s.pushing.length ≤ 1 := by
  simpa using length_le_one_of_forall_eq_zero hi.threads_nodup hs.threads_zero

theorem SingleInv.idle (hs : s.SingleInv) (hidle : s.Idle 0) :
    s.allocating = [] ∧ s.pushing = [] := by
  constructor
  · exact List.eq_nil_iff_forall_not_mem.2 fun t ht =>
      hidle.1 (hs.threads_zero t (List.mem_append_left _ ht) ▸ ht)
  · exact List.eq_nil_iff_forall_not_mem.2 fun e he =>
      pendingBuffer_eq_none.1 hidle.2 e he
        (hs.threads_zero _ (List.mem_append_right _ (List.mem_map_of_mem _ he)))

/-- One step of thread `0`: the single-thread facts are kept, and `buffers_`
with the new buffer in flight grows only when it allocates, and then to at
most the open acquisitions. -/
theorem Inv.single_exec (hi : s.Inv) (hs : s.SingleInv) {a : Action} (h0 : a.thread = 0)
    (he : s.Enabled a) (hx : s.exec a = .ok s') :
    s'.SingleInv ∧ s'.buffers.length + s'.pushing.length ≤
      max (s.buffers.length + s.pushing.length) s'.openBuffers.length := by
  obtain ⟨t, op⟩ := a
  obtain rfl : t = 0 := h0
  have hlen := hi.calls_length_le_one hs
  by_cases hop : op = .getFreeBuffer
  · subst hop
    obtain ⟨ha, hp⟩ := hs.idle he
    cases hx
    cases hfind : s.buffers.find? (fun p => !(s.heap p).inUse) with
    | some p =>
      rw [getFreeBuffer_of_find_some hfind]
      refine ⟨⟨by simp [openHandle, ha, hp], by simp [openHandle, ha]⟩,
        Nat.le_max_left _ _⟩
    | none =>
      rw [getFreeBuffer_of_find_none hfind]
      refine ⟨⟨by simp [ha, hp], fun _ => ?_⟩, Nat.le_max_left _ _⟩
      exact hi.length_buffers_le_of_all_inUse (all_inUse_of_find_none hfind)
  by_cases halloc : ∃ ok, op = .allocate ok
  · obtain ⟨ok, rfl⟩ := halloc
    have ht : 0 ∈ s.allocating := he
    have hpos := List.length_pos_of_mem ht
    have hnil : s.allocating.erase 0 = [] := by
      have := List.length_erase_of_mem ht
      exact List.eq_nil_of_length_eq_zero (by omega)
    have hpush : s.pushing = [] := List.eq_nil_of_length_eq_zero (by omega)
    cases hx
    cases ok
    · exact ⟨⟨by simp [allocate_false, hnil, hpush], by simp [allocate_false, hnil]⟩,
        Nat.le_trans (by simp [allocate_false]) (Nat.le_max_left _ _)⟩
    · refine ⟨⟨by simp [allocate_true, hnil, hpush], by simp [allocate_true, hnil]⟩, ?_⟩
      have hle := hs.allocating_le (List.ne_nil_of_mem ht)
      refine Nat.le_trans ?_ (Nat.le_max_right _ _)
      simp [allocate_true, openBuffers, hpush]
      omega
  by_cases hpush : ∃ ok, op = .pushBack ok
  · obtain ⟨ok, rfl⟩ := hpush
    obtain ⟨p, hp⟩ := Option.isSome_iff_exists.1 he
    have hp : s.pendingBuffer 0 = some p := hp
    have hmem := mem_pushing_of_pendingBuffer hp
    have hnil : s.allocating = [] :=
      List.eq_nil_of_length_eq_zero (by have := List.length_pos_of_mem hmem; omega)
    have hone : s.pushing = [(0, p)] :=
      eq_singleton_of_mem_of_length_le_one hmem (by omega)
    cases hx
    cases ok <;> refine ⟨⟨?_, ?_⟩, Nat.le_trans ?_ (Nat.le_max_left _ _)⟩ <;>
      simp [pushBack_false hp, pushBack_true hp, openHandle, hnil, hone]
  push_neg at halloc hpush
  obtain ⟨hb, ha, hp⟩ := hi.exec_same_calls he hx hop halloc hpush
  have hidle : s.Idle 0 := by
    cases op with
    | getFreeBuffer => exact absurd rfl hop
    | allocate ok => exact absurd rfl (halloc ok)
    | pushBack ok => exact absurd rfl (hpush ok)
    | abort _ => exact he
    | returnUnusedBuffer _ | realloc _ _ | update _ _ => exact he.1
  obtain ⟨ha0, hp0⟩ := hs.idle hidle
  exact ⟨⟨by simp [ha, hp, ha0, hp0], by simp [ha, ha0]⟩,
    Nat.le_trans (by simp [hb, hp]) (Nat.le_max_left _ _)⟩

end PoolState


/-- In a single-threaded run, `buffers_` and the new buffer in flight never
exceed the peak number of open acquisitions so far. -/
theorem Run.single_le {s : PoolState} {ss : List PoolState} (h : Run SingleThreaded (s :: ss)) :
    s.SingleInv ∧ s.buffers.length + s.pushing.length ≤ peakOpen (s :: ss) := by
  generalize hl : s :: ss = l at h
  induction h generalizing s ss with
  | init => cases hl; exact ⟨⟨by simp [PoolState.init], by simp [PoolState.init]⟩, by simp [PoolState.init]⟩
  | step a hrun he h0 hx ih =>
    cases hl
    obtain ⟨hs, hprev⟩ := ih rfl
    obtain ⟨hs', hstep⟩ := (hrun.inv _ (List.mem_cons_self _ _)).single_exec hs h0 he hx
    refine ⟨hs', ?_⟩
    simp only [peakOpen, List.map_cons, List.foldr_cons] at hprev ⊢
    omega

/-- `buffers_` grows no further than its clients' demand. At every point of
every run, whatever the threads and the interleaving, `buffers_` holds at most
the largest value so far of open acquisitions plus `GetFreeBuffer` calls that
have not yet claimed or allocated a buffer; in a single-threaded run, at most
the peak number of simultaneously open acquisitions. -/
theorem getFreeBuffer_growthBound :
    (∀ (adm : PoolState → Action → Prop) (s : PoolState) (ss : List PoolState),
      Run adm (s :: ss) → s.buffers.length ≤ peakDemand (s :: ss)) ∧
    (∀ (s : PoolState) (ss : List PoolState),
      Run SingleThreaded (s :: ss) → s.buffers.length ≤ peakOpen (s :: ss)) := by
  refine ⟨fun _ s ss h => ?_, fun s ss h => ?_⟩
  · have := h.footprint_le
    simp only [PoolState.footprint] at this
    omega
  · have := (Run.single_le h).2
    omega

theorem growthBound_acquiredPool :
    acquiredPool.buffers.length ≤
      peakDemand [acquiredPool, allocatingPool, PoolState.init.getFreeBuffer 0, PoolState.init] ∧
    acquiredPool.buffers.length ≤
      peakOpen [acquiredPool, allocatingPool, PoolState.init.getFreeBuffer 0, PoolState.init] :=
  ⟨getFreeBuffer_growthBound.1 (fun _ _ => True) _ _ (run_acquiredPool _ fun _ _ _ _ => trivial),
    getFreeBuffer_growthBound.2 _ _ (run_acquiredPool _ fun _ _ h _ => h)⟩

end Libgav1
