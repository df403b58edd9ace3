/-
# The allocator the pool implements

What `BufferPool` is for, stated without its mechanics: it hands out buffers, each to one
holder, and takes them back. An `Allocator` is the set of buffers held by open acquisitions
and the set of free buffers it may hand out again. `Allocator.Move` says, for each operation
of the pool, which moves it may make: the scan hands out a free buffer, or changes nothing
when none is free; an allocation hands out a fresh buffer; `ReturnUnusedBuffer` takes a held
buffer back into the free set; a failed `push_back` drops its buffer for good; the other
operations leave both sets alone. No move makes a buffer held and free at once.

`PoolState.allocator` reads the allocator off a pool state: the buffers of open acquisitions
(live handles and new buffers not yet pushed) and the buffers of `buffers_` whose `in_use_`
is false. In every state of every run of the pool, whatever the threads' interleaving, every
step makes the move of its operation (`Run.allocatorMoves`). The per-frame state, the
storage callbacks and the order of `buffers_` are below this level and are not described
by it.
-/

import Mathlib.Data.Finset.Basic
import Libgav1.BufferPool.Properties

namespace Libgav1

/-- The buffers held by open acquisitions, and the free buffers. -/
structure Allocator where
  held : Finset Nat
  free : Finset Nat
  deriving DecidableEq

namespace Allocator

/-- The moves of the allocator, for each operation of the pool the moves it may make. -/
inductive Move : Op → Allocator → Allocator → Prop
  /-- The scan of `GetFreeBuffer` hands out a free buffer, -/
  | reuse {a : Allocator} {p : Nat} :
      p ∈ a.free → Move .getFreeBuffer a ⟨insert p a.held, a.free.erase p⟩
  /-- or, when no buffer is free, changes nothing: the caller allocates next. -/
  | noneFree {a : Allocator} : a.free = ∅ → Move .getFreeBuffer a a
  /-- An allocation that succeeds hands out a fresh buffer, neither held nor free; -/
  | fresh {a : Allocator} {p : Nat} :
      p ∉ a.held → p ∉ a.free → Move (.allocate true) a ⟨insert p a.held, a.free⟩
  /-- one that fails changes nothing. -/
  | allocateFailed {a : Allocator} : Move (.allocate false) a a
  /-- A `push_back` that succeeds keeps the new buffer held, now through a handle; -/
  | pushed {a : Allocator} : Move (.pushBack true) a a
  /-- one that fails drops the new buffer for good. -/
  | discard {a : Allocator} {p : Nat} :
      p ∈ a.held → Move (.pushBack false) a ⟨a.held.erase p, a.free⟩
  /-- `ReturnUnusedBuffer` takes a held buffer back; it is free again. -/
  | release {a : Allocator} {p n : Nat} :
      p ∈ a.held → Move (.returnUnusedBuffer n) a ⟨a.held.erase p, insert p a.free⟩
  /-- `Realloc` changes neither set, -/
  | realloc {a : Allocator} {n : Nat} {frameBuffer : Option Nat} : Move (.realloc n frameBuffer) a a
  /-- nor does `Abort`, -/
  | abort {a : Allocator} {sentinel : Int} : Move (.abort sentinel) a a
  /-- nor an update of the frame's fields. -/
  | update {a : Allocator} {n : Nat} {u : RefCountedBuffer.Update} : Move (.update n u) a a

/-- No move makes a buffer held and free at once. -/
theorem Move.disjoint {op : Op} {a b : Allocator} (h : Move op a b) (ha : Disjoint a.held a.free) :
    Disjoint b.held b.free := by
  rw [Finset.disjoint_left] at ha ⊢
  cases h with
  | reuse hp =>
    simp only [Finset.mem_insert, Finset.mem_erase]
    rintro x (rfl | hx) ⟨hne, hfree⟩
    · exact hne rfl
    · exact ha hx hfree
  | fresh hheld hfree =>
    simp only [Finset.mem_insert]
    rintro x (rfl | hx)
    · exact hfree
    · exact ha hx
  | release hp =>
    simp only [Finset.mem_insert, Finset.mem_erase]
    rintro x ⟨hne, hx⟩ (rfl | hfree)
    · exact hne rfl
    · exact ha hx hfree
  | discard hp => exact fun x hx => ha (Finset.mem_of_mem_erase hx)
  | noneFree _ | allocateFailed | pushed | realloc | abort | update => exact ha

end Allocator

namespace PoolState

variable {s s' : PoolState}

/-- The allocator a pool state implements: the buffers of open acquisitions, and the
buffers of `buffers_` not in use. -/
def allocator (s : PoolState) : Allocator where
  held := s.openBuffers.toFinset
  free := (s.buffers.filter fun p => !(s.heap p).inUse).toFinset

theorem mem_held {p : Nat} :
    p ∈ s.allocator.held ↔ p ∈ s.handles.map (·.buffer) ∨ p ∈ s.pushing.map (·.2) := by
  simp [allocator, openBuffers]

theorem mem_free {p : Nat} : p ∈ s.allocator.free ↔ p ∈ s.buffers ∧ (s.heap p).inUse = false := by
  simp [allocator]

/-- Two states with the same buffers, the same open acquisitions' buffers and the same
`in_use_` flags implement the same allocator. -/
theorem allocator_eq (hbuffers : s'.buffers = s.buffers)
    (hhandles : s'.handles.map (·.buffer) = s.handles.map (·.buffer))
    (hpushing : s'.pushing = s.pushing) (hinUse : ∀ q, (s'.heap q).inUse = (s.heap q).inUse) :
    s'.allocator = s.allocator := by
  simp only [allocator, openBuffers, hbuffers, hhandles, hpushing, hinUse]

theorem allocator_ext {a : Allocator} (hheld : ∀ p, p ∈ s.allocator.held ↔ p ∈ a.held)
    (hfree : ∀ p, p ∈ s.allocator.free ↔ p ∈ a.free) : s.allocator = a :=
  congrArg₂ Allocator.mk (Finset.ext hheld) (Finset.ext hfree)

/-- A step that leaves the allocator as it was makes any move that keeps both sets. -/
theorem move_of_allocator_eq {op : Op} (h : s'.allocator = s.allocator)
    (hm : Allocator.Move op s.allocator s.allocator) : Allocator.Move op s.allocator s'.allocator :=
  h ▸ hm

/-! ## Each step of the pool as a move -/

/-- The scan that claims a free buffer hands it out. -/
theorem allocator_claim {p : Nat} :
    ((s.setBuffer p (claimed (s.heap p))).openHandle p).allocator =
      ⟨insert p s.allocator.held, s.allocator.free.erase p⟩ := by
  refine allocator_ext (fun q => ?_) fun q => ?_
  · simp only [mem_held, openHandle, setBuffer_handles, setBuffer_pushing, List.map_append,
      List.mem_append, List.map_cons, List.map_nil, List.mem_singleton, Finset.mem_insert]
    tauto
  · simp only [mem_free, openHandle, setBuffer_buffers, setBuffer_heap, Finset.mem_erase]
    by_cases hqp : q = p <;> simp [claimed, Function.update_apply, hqp]

/-- The allocation of a new buffer hands out a fresh one. -/
theorem Inv.allocator_allocate (hi : s.Inv) (t : Nat) :
    (s.allocate t true).allocator = ⟨insert s.nextPointer s.allocator.held, s.allocator.free⟩ := by
  have hbuffer : ∀ q ∈ s.buffers, q ≠ s.nextPointer := fun q hq => (hi.buffers_lt q hq).ne
  rw [allocate_true]
  refine allocator_ext (fun q => ?_) fun q => ?_
  · simp only [mem_held, setBuffer_handles, List.map_cons, List.mem_cons, Finset.mem_insert,
      setBuffer_pushing]
    tauto
  · simp only [mem_free, setBuffer_buffers, setBuffer_heap]
    by_cases hq : q ∈ s.buffers
    · simp [Function.update_noteq (hbuffer q hq), hq]
    · simp [hq]

/-- The new buffer is fresh. -/
theorem Inv.nextPointer_fresh (hi : s.Inv) :
    s.nextPointer ∉ s.allocator.held ∧ s.nextPointer ∉ s.allocator.free := by
  simp only [mem_held, mem_free, List.mem_map, not_or, not_exists, not_and]
  refine ⟨⟨fun h hh he => ?_, fun e he he' => (hi.pushing_lt e he).ne he'⟩,
    fun hp => absurd (hi.buffers_lt _ hp) (Nat.lt_irrefl _)⟩
  exact (hi.buffers_lt _ (hi.handle_mem h hh)).ne he

/-- The thread of a pending new buffer has no other entry in `pushing`. -/
theorem Inv.eq_of_pendingBuffer (hi : s.Inv) {t p : Nat} (hp : s.pendingBuffer t = some p)
    {e : Nat × Nat} (he : e ∈ s.pushing) : e.1 = t ↔ e.2 = p := by
  have htp := mem_pushing_of_pendingBuffer hp
  have hthreads := (List.nodup_append.1 hi.threads_nodup).2.1
  constructor
  · intro h; rw [List.inj_on_of_nodup_map hthreads he htp h]
  · intro h; rw [List.inj_on_of_nodup_map hi.pushing_nodup he htp h]

/-- A `push_back` that succeeds moves the new buffer from pending to a live handle: the
allocator does not change. -/
theorem Inv.allocator_pushBack_true (hi : s.Inv) {t p : Nat} (hp : s.pendingBuffer t = some p) :
    (s.pushBack t true).allocator = s.allocator := by
  have htp := mem_pushing_of_pendingBuffer hp
  have hinUse : (s.heap p).inUse = true := by
    rw [hi.pushing_allocated _ htp]; rfl
  rw [pushBack_true hp]
  refine allocator_ext (fun q => ?_) fun q => ?_
  · simp only [mem_held, openHandle, List.map_append, List.map_cons, List.map_nil,
      List.mem_append, List.mem_singleton, List.mem_map, List.mem_filter, decide_eq_true_eq]
    constructor
    · rintro ((h | rfl) | ⟨e, ⟨he, -⟩, rfl⟩)
      · exact .inl h
      · exact .inr ⟨_, htp, rfl⟩
      · exact .inr ⟨e, he, rfl⟩
    · rintro (h | ⟨e, he, rfl⟩)
      · exact .inl (.inl h)
      · by_cases het : e.1 = t
        · exact .inl (.inr ((hi.eq_of_pendingBuffer hp he).1 het))
        · exact .inr ⟨e, ⟨he, het⟩, rfl⟩
  · simp only [mem_free, openHandle, List.mem_append, List.mem_singleton]
    constructor
    · rintro ⟨h | rfl, hfree⟩
      · exact ⟨h, hfree⟩
      · simp [hinUse] at hfree
    · exact fun ⟨h, hfree⟩ => ⟨.inl h, hfree⟩

/-- A `push_back` that fails deletes the new buffer, which nobody held through a handle. -/
theorem Inv.allocator_pushBack_false (hi : s.Inv) {t p : Nat} (hp : s.pendingBuffer t = some p) :
    (s.pushBack t false).allocator = ⟨s.allocator.held.erase p, s.allocator.free⟩ := by
  have hpb : p ∉ s.buffers := hi.pushing_not_mem _ (mem_pushing_of_pendingBuffer hp)
  rw [pushBack_false hp]
  refine allocator_ext (fun q => ?_) fun q => Iff.rfl
  simp only [mem_held, Finset.mem_erase, List.mem_map, List.mem_filter, decide_eq_true_eq]
  constructor
  · rintro (⟨h, hh, rfl⟩ | ⟨e, ⟨he, het⟩, rfl⟩)
    · exact ⟨fun he => hpb (he ▸ hi.handle_mem h hh), .inl ⟨h, hh, rfl⟩⟩
    · exact ⟨fun he' => het ((hi.eq_of_pendingBuffer hp he).2 he'), .inr ⟨e, he, rfl⟩⟩
  · rintro ⟨hne, ⟨h, hh, rfl⟩ | ⟨e, he, rfl⟩⟩
    · exact .inl ⟨h, hh, rfl⟩
    · exact .inr ⟨e, ⟨he, fun het => hne ((hi.eq_of_pendingBuffer hp he).1 het)⟩, rfl⟩

/-- The deleter of a handle takes its buffer back. -/
theorem Inv.allocator_returnUnusedBuffer (hi : s.Inv) {h : Acquisition} (hh : h ∈ s.handles) :
    ((s.released h.buffer).dropHandle h.serial).allocator =
      ⟨s.allocator.held.erase h.buffer, insert h.buffer s.allocator.free⟩ := by
  have hp := hi.handle_mem h hh
  refine allocator_ext (fun q => ?_) fun q => ?_
  · simp only [mem_held, dropHandle, released, setBuffer_handles, setBuffer_pushing,
      Finset.mem_erase, List.mem_map, List.mem_filter, decide_eq_true_eq]
    constructor
    · rintro (⟨g, ⟨hg, hserial⟩, rfl⟩ | ⟨e, he, rfl⟩)
      · exact ⟨fun hb => hserial (congrArg (·.serial) (hi.eq_of_buffer_eq hg hh hb)),
          .inl ⟨g, hg, rfl⟩⟩
      · exact ⟨fun hb => hi.pushing_not_mem e he (hb ▸ hp), .inr ⟨e, he, rfl⟩⟩
    · rintro ⟨hne, ⟨g, hg, rfl⟩ | ⟨e, he, rfl⟩⟩
      · exact .inl ⟨g, ⟨hg, fun hs => hne (congrArg (·.buffer) (hi.eq_of_serial_eq hg hh hs))⟩,
          rfl⟩
      · exact .inr ⟨e, he, rfl⟩
  · simp only [mem_free, dropHandle, released, setBuffer_buffers, setBuffer_heap,
      Finset.mem_insert]
    by_cases hq : q = h.buffer <;> simp [Function.update_apply, hq, hp]

/-- A scan that finds no free buffer leaves the free set empty. -/
theorem allocator_free_eq_empty (hp : s.buffers.find? (fun p => !(s.heap p).inUse) = none) :
    s.allocator.free = ∅ := by
  refine Finset.eq_empty_of_forall_not_mem fun q hq => ?_
  obtain ⟨hmem, hfree⟩ := mem_free.1 hq
  simpa [hfree] using List.find?_eq_none.1 hp q hmem

/-- Every enabled step of a reachable state makes the move of its operation. -/
theorem Inv.exec_allocatorMove (hi : s.Inv) {a : Action} (he : s.Enabled a)
    (hx : s.exec a = .ok s') : Allocator.Move a.op s.allocator s'.allocator := by
  obtain ⟨t, op⟩ := a
  cases op with
  | getFreeBuffer =>
    cases hx
    cases hp : s.buffers.find? (fun p => !(s.heap p).inUse) with
    | some p =>
      have hfree : (s.heap p).inUse = false := by simpa using List.find?_some hp
      have hmem := List.mem_of_find?_eq_some hp
      rw [getFreeBuffer_of_find_some hp, allocator_claim]
      exact .reuse (mem_free.2 ⟨hmem, hfree⟩)
    | none => rw [getFreeBuffer_of_find_none hp]; exact .noneFree (allocator_free_eq_empty hp)
  | allocate ok =>
    cases hx
    cases ok with
    | true => rw [hi.allocator_allocate]; exact .fresh hi.nextPointer_fresh.1 hi.nextPointer_fresh.2
    | false => exact .allocateFailed
  | pushBack ok =>
    cases hx
    obtain ⟨p, hp⟩ := Option.isSome_iff_exists.1 he
    cases ok with
    | true => rw [hi.allocator_pushBack_true hp]; exact .pushed
    | false =>
      rw [hi.allocator_pushBack_false hp]
      exact .discard (mem_held.2 (.inr (List.mem_map_of_mem _ (mem_pushing_of_pendingBuffer hp))))
  | returnUnusedBuffer n =>
    obtain ⟨h, ha, hmem, rfl⟩ := acquisition_of_enabled he.2
    rw [exec_returnUnusedBuffer hi ha] at hx
    cases hx
    rw [hi.allocator_returnUnusedBuffer hmem]
    exact .release (mem_held.2 (.inl (List.mem_map_of_mem _ hmem)))
  | realloc n frameBuffer =>
    obtain ⟨h, ha, -, -⟩ := acquisition_of_enabled he.2
    simp only [PoolState.exec, ha] at hx
    cases hv : (s.heap h.buffer).bufferPrivateDataValid with
    | true => simp [realloc_of_valid hv, Except.map] at hx
    | false =>
      cases frameBuffer with
      | none => simp only [realloc_none hv, Except.map] at hx; cases hx; exact .realloc
      | some d =>
        simp only [realloc_some hv, Except.map, Option.isSome_some, if_true] at hx
        cases hx
        refine move_of_allocator_eq (allocator_eq rfl (markBound_map_buffer _) rfl fun q => ?_)
          .realloc
        by_cases hq : q = h.buffer <;> simp [markBound, storageBound, Function.update_apply, hq]
  | abort sentinel =>
    cases hx
    have hframe := perFrameOnly_abort (s := s) sentinel
    obtain ⟨hbuffers, -, hpushing, hhandles⟩ := hframe.calls_eq
    exact move_of_allocator_eq (allocator_eq hbuffers (by rw [hhandles]) hpushing hframe.inUse)
      .abort
  | update n u =>
    obtain ⟨h, ha, -, -⟩ := acquisition_of_enabled he.2
    simp only [PoolState.exec, ha] at hx
    cases hx
    refine move_of_allocator_eq (allocator_eq rfl rfl rfl fun q => ?_) .update
    by_cases hq : q = h.buffer <;> simp [RefCountedBuffer.update, Function.update_apply, hq]

end PoolState

/-- No state of a run has a buffer both held and free: the initial state has neither, and
each step is a move of the allocator, which keeps the two sets apart. -/
theorem Run.allocator_disjoint {adm : PoolState → Action → Prop} {l : List PoolState}
    (hrun : Run adm l) : ∀ s ∈ l, Disjoint s.allocator.held s.allocator.free := by
  induction hrun with
  | init => simp [PoolState.allocator, PoolState.init]
  | step a hrun he _ hx ih =>
    intro s hs
    rcases List.mem_cons.1 hs with rfl | hs
    · exact ((hrun.inv _ (List.mem_cons_self _ _)).exec_allocatorMove he hx).disjoint
        (ih _ (List.mem_cons_self _ _))
    · exact ih s hs

/-- The pool implements the allocator. In every state reachable by a run of the pool,
whatever the number of threads and the interleaving of their steps, no buffer is both held
and free, and every step makes the move of its operation on the buffers of open
acquisitions and the free buffers of `buffers_`: the scan of `GetFreeBuffer` hands out a
free buffer or finds none free, a successful allocation hands out a fresh buffer, a
successful `push_back` keeps its buffer held, a failed one drops it, the deleter's
`ReturnUnusedBuffer` makes a held buffer free again, and a failed allocation, `Realloc`,
`Abort` and the frame's updates leave both sets alone. -/
theorem Run.allocatorMoves {adm : PoolState → Action → Prop} {s : PoolState}
    {ss : List PoolState} (hrun : Run adm (s :: ss)) :
    Disjoint s.allocator.held s.allocator.free ∧
      ∀ (a : Action) (s' : PoolState), s.Enabled a → s.exec a = .ok s' →
        Allocator.Move a.op s.allocator s'.allocator :=
  ⟨hrun.allocator_disjoint s (List.mem_cons_self _ _), fun _ _ he hx =>
    (hrun.inv s (List.mem_cons_self _ _)).exec_allocatorMove he hx⟩

theorem allocatorMoves_acquiredPool :
    Disjoint acquiredPool.allocator.held acquiredPool.allocator.free ∧
      ∀ (a : Action) (s' : PoolState), acquiredPool.Enabled a → acquiredPool.exec a = .ok s' →
        Allocator.Move a.op acquiredPool.allocator s'.allocator :=
  Run.allocatorMoves (run_acquiredPool (fun _ _ => True) fun _ _ _ _ => trivial)

end Libgav1
