/-
# The pool invariant

One invariant of every reachable pool state: `buffers_` has no duplicate
pointer, the handles and the new buffers of `GetFreeBuffer` are distinct,
`in_use_` holds exactly for the buffers of live handles, and the callback
calls made for each buffer replay to the storage it has bound. Every step
keeps it; the results about mutual exclusion, storage and growth are read
off it.
-/

import Libgav1.BufferPool.Basic

namespace Libgav1

namespace RefCountedBuffer

/-- The storage bound to a buffer: its `buffer_private_data_` while valid. -/
def binding (b : RefCountedBuffer) : Option Nat :=
  if b.bufferPrivateDataValid then some b.bufferPrivateData else none

/-- A buffer just allocated in `GetFreeBuffer`, with its flags set. -/
def allocated : RefCountedBuffer :=
  { RefCountedBuffer.init with inUse := true, progressRow := -1, frameState := .unknown }

end RefCountedBuffer

/-- One callback call applied to a buffer's binding: `get` binds storage to an
unbound buffer, `release` gives back exactly the storage that is bound. -/
def storageStep : Option Nat → StorageCall → Option (Option Nat)
  | none, .get _ d => some (some d)
  | some d, .release _ d' => if d = d' then some none else none
  | _, _ => none

/-- Replay a buffer's callback calls from no binding: `none` unless they
alternate `get`, `release`, `get`, … with each release giving back the data
of the preceding get. -/
def storageReplay (calls : List StorageCall) : Option (Option Nat) :=
  calls.foldl (fun acc c => acc.bind (storageStep · c)) (some none)

theorem storageReplay_append (calls : List StorageCall) (c : StorageCall) :
    storageReplay (calls ++ [c]) = (storageReplay calls).bind (storageStep · c) := by
  simp [storageReplay, List.foldl_append]

namespace PoolState

/-- The callback calls made for buffer `p`, oldest first. -/
def storageCalls (s : PoolState) (p : Nat) : List StorageCall :=
  s.storageLog.filter (·.buffer = p)

/-- The invariant of every reachable state. -/
structure Inv (s : PoolState) : Prop where
  buffers_nodup : s.buffers.Nodup
  buffers_lt : ∀ p ∈ s.buffers, p < s.nextPointer
  pushing_lt : ∀ e ∈ s.pushing, e.2 < s.nextPointer
  pushing_not_mem : ∀ e ∈ s.pushing, e.2 ∉ s.buffers
  pushing_nodup : (s.pushing.map (·.2)).Nodup
  pushing_allocated : ∀ e ∈ s.pushing, s.heap e.2 = RefCountedBuffer.allocated
  threads_nodup : (s.allocating ++ s.pushing.map (·.1)).Nodup
  handle_mem : ∀ h ∈ s.handles, h.buffer ∈ s.buffers
  handles_nodup : (s.handles.map (·.buffer)).Nodup
  serials_nodup : (s.handles.map (·.serial)).Nodup
  serial_lt : ∀ h ∈ s.handles, h.serial < s.nextSerial
  inUse_iff : ∀ p ∈ s.buffers, (s.heap p).inUse = true ↔ p ∈ s.handles.map (·.buffer)
  valid_bound : ∀ p ∈ s.buffers, (s.heap p).bufferPrivateDataValid = true →
    ∃ h ∈ s.handles, h.buffer = p ∧ h.bound = true
  log_mem : ∀ c ∈ s.storageLog, c.buffer ∈ s.buffers
  replay : ∀ p ∈ s.buffers, storageReplay (s.storageCalls p) = some (s.heap p).binding

theorem inv_init : init.Inv where
  buffers_nodup := List.nodup_nil
  buffers_lt := by simp [init]
  pushing_lt := by simp [init]
  pushing_not_mem := by simp [init]
  pushing_nodup := List.nodup_nil
  pushing_allocated := by simp [init]
  threads_nodup := List.nodup_nil
  handle_mem := by simp [init]
  handles_nodup := List.nodup_nil
  serials_nodup := List.nodup_nil
  serial_lt := by simp [init]
  inUse_iff := by simp [init]
  valid_bound := by simp [init]
  log_mem := by simp [init]
  replay := by simp [init]

variable {s : PoolState}

/-! ## Looking up threads and handles -/

theorem mem_pushing_of_pendingBuffer {t p : Nat} (h : s.pendingBuffer t = some p) :
    (t, p) ∈ s.pushing := by
  obtain ⟨⟨t', q⟩, he, rfl⟩ := Option.map_eq_some'.1 h
  have ht : t' = t := by simpa using List.find?_some he
  exact ht ▸ List.mem_of_find?_eq_some he

theorem pendingBuffer_eq_none {t : Nat} :
    s.pendingBuffer t = none ↔ ∀ e ∈ s.pushing, e.1 ≠ t := by
  simp [pendingBuffer]

theorem mem_handles_of_acquisition {n : Nat} {a : Acquisition} (h : s.acquisition n = some a) :
    a ∈ s.handles ∧ a.serial = n :=
  ⟨List.mem_of_find?_eq_some h, by simpa using List.find?_some h⟩

theorem Inv.eq_of_buffer_eq (hi : s.Inv) {a b : Acquisition} (ha : a ∈ s.handles)
    (hb : b ∈ s.handles) (h : a.buffer = b.buffer) : a = b :=
  List.inj_on_of_nodup_map hi.handles_nodup ha hb h

theorem Inv.eq_of_serial_eq (hi : s.Inv) {a b : Acquisition} (ha : a ∈ s.handles)
    (hb : b ∈ s.handles) (h : a.serial = b.serial) : a = b :=
  List.inj_on_of_nodup_map hi.serials_nodup ha hb h

theorem Inv.inUse_of_valid (hi : s.Inv) {p : Nat} (hp : p ∈ s.buffers)
    (hv : (s.heap p).bufferPrivateDataValid = true) : (s.heap p).inUse = true := by
  obtain ⟨h, hh, rfl, -⟩ := hi.valid_bound p hp hv
  exact (hi.inUse_iff _ hp).2 (List.mem_map_of_mem _ hh)

theorem Inv.valid_of_not_inUse (hi : s.Inv) {p : Nat} (hp : p ∈ s.buffers)
    (hfree : (s.heap p).inUse = false) : (s.heap p).bufferPrivateDataValid = false := by
  cases hv : (s.heap p).bufferPrivateDataValid
  · rfl
  · simp [hi.inUse_of_valid hp hv] at hfree


/-! ## Opening a handle -/

theorem serials_nodup_openHandle (hn : (s.handles.map (·.serial)).Nodup)
    (hlt : ∀ h ∈ s.handles, h.serial < s.nextSerial) (p : Nat) :
    ((s.openHandle p).handles.map (·.serial)).Nodup := by
  simp only [openHandle, List.map_append, List.map_cons, List.map_nil]
  refine List.nodup_append.2 ⟨hn, List.nodup_singleton _, ?_⟩
  simp only [List.disjoint_singleton, List.mem_map, not_exists, not_and]
  exact fun h hh he => Nat.lt_irrefl _ (he ▸ hlt h hh)

theorem serial_lt_openHandle (hlt : ∀ h ∈ s.handles, h.serial < s.nextSerial) (p : Nat) :
    ∀ h ∈ (s.openHandle p).handles, h.serial < (s.openHandle p).nextSerial := by
  simp only [openHandle, List.mem_append, List.mem_singleton]
  rintro h (hh | rfl)
  · exact Nat.lt_succ_of_lt (hlt h hh)
  · exact Nat.lt_succ_self _

/-! ## The scan of `GetFreeBuffer` -/

/-- The buffer the scan claims, with its per-frame state reset. -/
def claimed (b : RefCountedBuffer) : RefCountedBuffer :=
  { b with inUse := true, progressRow := -1, frameState := .unknown,
           hdrCllSet := false, hdrMdcvSet := false, itutT35Set := false }

theorem getFreeBuffer_of_find_some {t p : Nat}
    (hp : s.buffers.find? (fun p => !(s.heap p).inUse) = some p) :
    s.getFreeBuffer t = (s.setBuffer p (claimed (s.heap p))).openHandle p := by
  simp only [getFreeBuffer, hp, claimed]

theorem getFreeBuffer_of_find_none {t : Nat}
    (hp : s.buffers.find? (fun p => !(s.heap p).inUse) = none) :
    s.getFreeBuffer t = { s with allocating := t :: s.allocating } := by
  simp only [getFreeBuffer, hp]

theorem Inv.claim (hi : s.Inv) {p : Nat} (hp : p ∈ s.buffers)
    (hfree : (s.heap p).inUse = false) :
    ((s.setBuffer p (claimed (s.heap p))).openHandle p).Inv := by
  have hnot : p ∉ s.handles.map (·.buffer) := fun h => by
    simp [(hi.inUse_iff p hp).2 h] at hfree
  have hvalid := hi.valid_of_not_inUse hp hfree
  have hpush : ∀ e ∈ s.pushing, e.2 ≠ p := fun e he h => hi.pushing_not_mem e he (h ▸ hp)
  exact {
    buffers_nodup := hi.buffers_nodup
    buffers_lt := hi.buffers_lt
    pushing_lt := hi.pushing_lt
    pushing_not_mem := hi.pushing_not_mem
    pushing_nodup := hi.pushing_nodup
    pushing_allocated := fun e he => by
      simp [setBuffer, openHandle, Function.update_noteq (hpush e he), hi.pushing_allocated e he]
    threads_nodup := hi.threads_nodup
    handle_mem := by
      simp only [openHandle, setBuffer, List.mem_append, List.mem_singleton]
      rintro h (hh | rfl)
      · exact hi.handle_mem h hh
      · exact hp
    handles_nodup := by
      simpa [openHandle, setBuffer, List.nodup_append] using
        ⟨hi.handles_nodup, fun h hh he => hnot (he ▸ List.mem_map_of_mem _ hh)⟩
    serials_nodup := serials_nodup_openHandle hi.serials_nodup hi.serial_lt p
    serial_lt := serial_lt_openHandle hi.serial_lt p
    inUse_iff := fun q hq => by
      by_cases hqp : q = p
      · subst hqp; simp [openHandle, setBuffer, claimed]
      · simp [openHandle, setBuffer, Function.update_noteq hqp, hi.inUse_iff q hq, hqp]
    valid_bound := fun q hq hv => by
      by_cases hqp : q = p
      · subst hqp; simp [openHandle, setBuffer, claimed, hvalid] at hv
      · simp only [openHandle, setBuffer, Function.update_noteq hqp] at hv
        obtain ⟨h, hh, rfl, hb⟩ := hi.valid_bound _ hq hv
        exact ⟨h, List.mem_append_left _ hh, rfl, hb⟩
    log_mem := hi.log_mem
    replay := fun q hq => by
      by_cases hqp : q = p
      · subst hqp
        simpa [openHandle, setBuffer, claimed, RefCountedBuffer.binding, storageCalls]
          using hi.replay q hq
      · simpa [openHandle, setBuffer, Function.update_noteq hqp, storageCalls]
          using hi.replay q hq }

theorem Inv.getFreeBuffer (hi : s.Inv) {t : Nat} (ht : s.Idle t) :
    (s.getFreeBuffer t).Inv := by
  cases hp : s.buffers.find? (fun p => !(s.heap p).inUse) with
  | some p =>
    rw [getFreeBuffer_of_find_some hp]
    exact hi.claim (List.mem_of_find?_eq_some hp) (by simpa using List.find?_some hp)
  | none =>
    rw [getFreeBuffer_of_find_none hp]
    have hfresh : t ∉ s.allocating ++ s.pushing.map (·.1) := by
      simpa [List.mem_append, List.mem_map] using
        ⟨ht.1, fun q hq => pendingBuffer_eq_none.1 ht.2 (t, q) hq rfl⟩
    exact { hi with threads_nodup := List.nodup_cons.2 ⟨hfresh, hi.threads_nodup⟩ }


/-! ## The unlocked allocation and the `push_back` -/

theorem allocate_true {t : Nat} :
    s.allocate t true =
      { (s.setBuffer s.nextPointer RefCountedBuffer.allocated) with
        allocating := s.allocating.erase t
        nextPointer := s.nextPointer + 1
        pushing := (t, s.nextPointer) :: s.pushing } := rfl

theorem allocate_false {t : Nat} :
    s.allocate t false = { s with allocating := s.allocating.erase t } := rfl

theorem Inv.allocate (hi : s.Inv) {t : Nat} (ht : t ∈ s.allocating) (ok : Bool) :
    (s.allocate t ok).Inv := by
  have herase : (s.allocating.erase t ++ s.pushing.map (·.1)).Sublist
      (s.allocating ++ s.pushing.map (·.1)) :=
    (List.erase_sublist _ _).append (List.Sublist.refl _)
  cases ok with
  | false => exact { hi with threads_nodup := hi.threads_nodup.sublist herase }
  | true =>
    rw [allocate_true]
    have hne : ∀ e ∈ s.pushing, e.2 ≠ s.nextPointer := fun e he => (hi.pushing_lt e he).ne
    have hbuf : ∀ q ∈ s.buffers, q ≠ s.nextPointer := fun q hq => (hi.buffers_lt q hq).ne
    have hperm : (s.allocating.erase t ++ t :: s.pushing.map (·.1)).Perm
        (s.allocating ++ s.pushing.map (·.1)) :=
      List.perm_middle.trans ((List.perm_cons_erase ht).symm.append_right _)
    exact {
      buffers_nodup := hi.buffers_nodup
      buffers_lt := fun q hq => Nat.lt_succ_of_lt (hi.buffers_lt q hq)
      pushing_lt := by
        simp only [List.mem_cons]
        rintro e (rfl | he)
        · exact Nat.lt_succ_self _
        · exact Nat.lt_succ_of_lt (hi.pushing_lt e he)
      pushing_not_mem := by
        simp only [List.mem_cons]
        rintro e (rfl | he)
        · exact fun h => hbuf _ h rfl
        · exact hi.pushing_not_mem e he
      pushing_nodup := by
        refine List.nodup_cons.2 ⟨fun h => ?_, hi.pushing_nodup⟩
        obtain ⟨e, he, hep⟩ := List.mem_map.1 h
        exact hne e he hep
      pushing_allocated := by
        simp only [List.mem_cons, setBuffer]
        rintro e (rfl | he)
        · exact Function.update_same _ _ _
        · rw [Function.update_noteq (hne e he)]; exact hi.pushing_allocated e he
      threads_nodup := by simpa using hperm.nodup_iff.2 hi.threads_nodup
      handle_mem := hi.handle_mem
      handles_nodup := hi.handles_nodup
      serials_nodup := hi.serials_nodup
      serial_lt := hi.serial_lt
      inUse_iff := fun q hq => by
        simpa [setBuffer, Function.update_noteq (hbuf q hq)] using hi.inUse_iff q hq
      valid_bound := fun q hq => by
        simpa [setBuffer, Function.update_noteq (hbuf q hq)] using hi.valid_bound q hq
      log_mem := hi.log_mem
      replay := fun q hq => by
        simpa [setBuffer, Function.update_noteq (hbuf q hq), storageCalls]
          using hi.replay q hq }

theorem pushBack_true {t p : Nat} (hp : s.pendingBuffer t = some p) :
    s.pushBack t true = ({ s with pushing := s.pushing.filter (·.1 ≠ t),
                                  buffers := s.buffers ++ [p] }).openHandle p := by
  simp only [pushBack, hp, if_true]

theorem pushBack_false {t p : Nat} (hp : s.pendingBuffer t = some p) :
    s.pushBack t false = { s with pushing := s.pushing.filter (·.1 ≠ t) } := by
  simp only [pushBack, hp, Bool.false_eq_true, if_false]

theorem Inv.pushBack (hi : s.Inv) {t p : Nat} (hp : s.pendingBuffer t = some p) (ok : Bool) :
    (s.pushBack t ok).Inv := by
  have htp := mem_pushing_of_pendingBuffer hp
  have hsub : (s.pushing.filter (·.1 ≠ t)).Sublist s.pushing := List.filter_sublist _
  have hthreads : (s.allocating ++ (s.pushing.filter (·.1 ≠ t)).map (·.1)).Nodup :=
    hi.threads_nodup.sublist ((List.Sublist.refl _).append (hsub.map _))
  cases ok with
  | false =>
    rw [pushBack_false hp]
    exact { hi with
      pushing_lt := fun e he => hi.pushing_lt e (hsub.subset he)
      pushing_not_mem := fun e he => hi.pushing_not_mem e (hsub.subset he)
      pushing_nodup := hi.pushing_nodup.sublist (hsub.map _)
      pushing_allocated := fun e he => hi.pushing_allocated e (hsub.subset he)
      threads_nodup := hthreads }
  | true =>
    rw [pushBack_true hp]
    have hpb : p ∉ s.buffers := hi.pushing_not_mem _ htp
    have hpa : s.heap p = RefCountedBuffer.allocated := hi.pushing_allocated _ htp
    have hrest : ∀ e ∈ s.pushing.filter (·.1 ≠ t), e.2 ≠ p := by
      intro e he hep
      have he' := List.mem_filter.1 he
      have := List.inj_on_of_nodup_map hi.pushing_nodup he'.1 htp hep
      simp [this] at he'
    have hnot : p ∉ s.handles.map (·.buffer) := fun h => by
      obtain ⟨a, ha, rfl⟩ := List.mem_map.1 h
      exact hpb (hi.handle_mem a ha)
    have hcalls : s.storageCalls p = [] := by
      simp only [storageCalls, List.filter_eq_nil_iff, decide_eq_true_eq]
      exact fun c hc h => hpb (h ▸ hi.log_mem c hc)
    exact {
      buffers_nodup := List.nodup_append.2 ⟨hi.buffers_nodup, List.nodup_singleton _,
        List.disjoint_singleton.2 hpb⟩
      buffers_lt := by
        simp only [openHandle, List.mem_append, List.mem_singleton]
        rintro q (hq | rfl)
        · exact hi.buffers_lt q hq
        · exact hi.pushing_lt _ htp
      pushing_lt := fun e he => hi.pushing_lt e (hsub.subset he)
      pushing_not_mem := fun e he => by
        simpa [openHandle, hrest e he] using hi.pushing_not_mem e (hsub.subset he)
      pushing_nodup := hi.pushing_nodup.sublist (hsub.map _)
      pushing_allocated := fun e he => hi.pushing_allocated e (hsub.subset he)
      threads_nodup := hthreads
      handle_mem := by
        simp only [openHandle, List.mem_append, List.mem_singleton]
        rintro h (hh | rfl)
        · exact Or.inl (hi.handle_mem h hh)
        · exact Or.inr rfl
      handles_nodup := by
        simpa [openHandle, List.nodup_append] using
          ⟨hi.handles_nodup, fun h hh he => hnot (he ▸ List.mem_map_of_mem _ hh)⟩
      serials_nodup := serials_nodup_openHandle hi.serials_nodup hi.serial_lt p
      serial_lt := serial_lt_openHandle hi.serial_lt p
      inUse_iff := by
        simp only [openHandle, List.mem_append, List.mem_singleton, List.map_append,
          List.map_cons, List.map_nil]
        rintro q (hq | rfl)
        · have hqp : q ≠ p := fun h => hpb (h ▸ hq)
          simpa [hqp] using hi.inUse_iff q hq
        · simp [hpa, RefCountedBuffer.allocated]
      valid_bound := by
        simp only [openHandle, List.mem_append, List.mem_singleton]
        rintro q (hq | rfl) hv
        · obtain ⟨h, hh, rfl, hb⟩ := hi.valid_bound _ hq hv
          exact ⟨h, Or.inl hh, rfl, hb⟩
        · simp [hpa, RefCountedBuffer.allocated, RefCountedBuffer.init] at hv
      log_mem := fun c hc => List.mem_append_left _ (hi.log_mem c hc)
      replay := by
        simp only [openHandle, List.mem_append, List.mem_singleton]
        rintro q (hq | rfl)
        · exact hi.replay q hq
        · simp only [storageCalls] at hcalls ⊢
          simp [hcalls, hpa, storageReplay, RefCountedBuffer.binding,
            RefCountedBuffer.allocated, RefCountedBuffer.init] }


/-! ## `ReturnUnusedBuffer` -/

/-- The state `ReturnUnusedBuffer` leaves: the buffer is free, and its storage,
if any, has been handed to `release_frame_buffer_`. -/
def released (s : PoolState) (p : Nat) : PoolState :=
  { (s.setBuffer p { s.heap p with inUse := false, bufferPrivateDataValid := false }) with
    storageLog := s.storageLog ++
      if (s.heap p).bufferPrivateDataValid then [.release p (s.heap p).bufferPrivateData] else [] }

theorem returnUnusedBuffer_eq {p : Nat} (hu : (s.heap p).inUse = true) :
    s.returnUnusedBuffer p = .ok (s.released p) := by
  unfold returnUnusedBuffer released
  cases hv : (s.heap p).bufferPrivateDataValid
  · simp only [hu, hv, Bool.false_eq_true, Bool.true_eq_false, if_false, List.append_nil]
    rfl
  · simp [hu, hv]

theorem storageCalls_released (p q : Nat) :
    (s.released p).storageCalls q = s.storageCalls q ++
      if q = p ∧ (s.heap p).bufferPrivateDataValid = true
      then [.release p (s.heap p).bufferPrivateData] else [] := by
  unfold released storageCalls
  by_cases hv : (s.heap p).bufferPrivateDataValid = true
  · by_cases hq : q = p
    · subst hq; simp [hv, StorageCall.buffer]
    · simp [hv, hq, StorageCall.buffer, Ne.symm hq]
  · simp [hv]

theorem Inv.returnUnusedBuffer (hi : s.Inv) {h : Acquisition} (hh : h ∈ s.handles) :
    ((s.released h.buffer).dropHandle h.serial).Inv := by
  have hp := hi.handle_mem h hh
  have hkeep : ∀ g ∈ s.handles, g.buffer ≠ h.buffer → g.serial ≠ h.serial :=
    fun g hg hb hs => hb (congrArg (·.buffer) (hi.eq_of_serial_eq hg hh hs))
  have hsub : (s.handles.filter (·.serial ≠ h.serial)).Sublist s.handles := List.filter_sublist _
  have hmap : ∀ q, q ≠ h.buffer → (q ∈ (s.handles.filter (·.serial ≠ h.serial)).map (·.buffer) ↔
      q ∈ s.handles.map (·.buffer)) := by
    intro q hq
    simp only [List.mem_map, List.mem_filter, decide_eq_true_eq]
    constructor
    · rintro ⟨g, ⟨hg, -⟩, rfl⟩; exact ⟨g, hg, rfl⟩
    · rintro ⟨g, hg, rfl⟩; exact ⟨g, ⟨hg, hkeep g hg hq⟩, rfl⟩
  have hgone : h.buffer ∉ (s.handles.filter (·.serial ≠ h.serial)).map (·.buffer) := by
    simp only [List.mem_map, List.mem_filter, decide_eq_true_eq, not_exists, not_and]
    intro g hg hb
    exact hg.2 (congrArg (·.serial) (hi.eq_of_buffer_eq hg.1 hh hb))
  have hne : ∀ e ∈ s.pushing, e.2 ≠ h.buffer := fun e he hep => hi.pushing_not_mem e he (hep ▸ hp)
  exact {
    buffers_nodup := hi.buffers_nodup
    buffers_lt := hi.buffers_lt
    pushing_lt := hi.pushing_lt
    pushing_not_mem := hi.pushing_not_mem
    pushing_nodup := hi.pushing_nodup
    pushing_allocated := fun e he => by
      simpa [dropHandle, released, setBuffer, Function.update_noteq (hne e he)]
        using hi.pushing_allocated e he
    threads_nodup := hi.threads_nodup
    handle_mem := fun g hg => hi.handle_mem g (hsub.subset hg)
    handles_nodup := hi.handles_nodup.sublist (hsub.map _)
    serials_nodup := hi.serials_nodup.sublist (hsub.map _)
    serial_lt := fun g hg => hi.serial_lt g (hsub.subset hg)
    inUse_iff := fun q hq => by
      by_cases hqp : q = h.buffer
      · subst hqp
        simpa [dropHandle, released, setBuffer] using hgone
      · have hiff := hi.inUse_iff q hq
        rw [← hmap q hqp] at hiff
        simpa [dropHandle, released, Function.update_noteq hqp] using hiff
    valid_bound := fun q hq hv => by
      by_cases hqp : q = h.buffer
      · subst hqp; simp [dropHandle, released, setBuffer] at hv
      · simp only [dropHandle, released, setBuffer, Function.update_noteq hqp] at hv
        obtain ⟨g, hg, rfl, hb⟩ := hi.valid_bound _ hq hv
        exact ⟨g, List.mem_filter.2 ⟨hg, by simpa using hkeep g hg hqp⟩, rfl, hb⟩
    log_mem := fun c hc => by
      simp only [dropHandle, released, setBuffer, List.mem_append] at hc
      rcases hc with hc | hc
      · exact hi.log_mem c hc
      · split at hc
        · simp only [List.mem_singleton] at hc; subst hc; exact hp
        · simp at hc
    replay := fun q hq => by
      have hcalls : ((s.released h.buffer).dropHandle h.serial).storageCalls q =
          (s.released h.buffer).storageCalls q := rfl
      rw [hcalls, storageCalls_released]
      by_cases hqp : q = h.buffer
      · subst hqp
        have hr := hi.replay _ hq
        cases hv : (s.heap h.buffer).bufferPrivateDataValid
        · simp_all [dropHandle, released, RefCountedBuffer.binding]
        · simp_all [dropHandle, released, RefCountedBuffer.binding,
            storageReplay_append, storageStep]
      · simpa [hqp, dropHandle, released, setBuffer, Function.update_noteq hqp]
          using hi.replay q hq }


/-! ## `Realloc` -/

/-- The state a successful `Realloc` leaves: storage `d` is bound to `p`. -/
def storageBound (s : PoolState) (p d : Nat) : PoolState :=
  { (s.setBuffer p { s.heap p with bufferPrivateDataValid := true, bufferPrivateData := d }) with
    storageLog := s.storageLog ++ [.get p d] }

theorem realloc_of_valid {p : Nat} (hv : (s.heap p).bufferPrivateDataValid = true)
    (frameBuffer : Option Nat) : s.realloc p frameBuffer = .error .assertionFailed := by
  simp [realloc, hv]

theorem realloc_none {p : Nat} (hv : (s.heap p).bufferPrivateDataValid = false) :
    s.realloc p none = .ok s := by
  simp [realloc, hv]

theorem realloc_some {p d : Nat} (hv : (s.heap p).bufferPrivateDataValid = false) :
    s.realloc p (some d) = .ok (s.storageBound p d) := by
  simp [realloc, hv, storageBound]

theorem markBound_map_buffer (n : Nat) :
    (s.markBound n).handles.map (·.buffer) = s.handles.map (·.buffer) := by
  simp only [markBound, List.map_map]
  exact List.map_congr_left fun h _ => by by_cases hn : h.serial = n <;> simp [hn]

theorem markBound_map_serial (n : Nat) :
    (s.markBound n).handles.map (·.serial) = s.handles.map (·.serial) := by
  simp only [markBound, List.map_map]
  exact List.map_congr_left fun h _ => by by_cases hn : h.serial = n <;> simp [hn]

theorem Inv.realloc (hi : s.Inv) {h : Acquisition} (hh : h ∈ s.handles)
    (hv : (s.heap h.buffer).bufferPrivateDataValid = false) (d : Nat) :
    ((s.storageBound h.buffer d).markBound h.serial).Inv := by
  have hp := hi.handle_mem h hh
  have hne : ∀ e ∈ s.pushing, e.2 ≠ h.buffer := fun e he hep => hi.pushing_not_mem e he (hep ▸ hp)
  have hmark : ∀ g ∈ s.handles, ∃ g' ∈ (s.markBound h.serial).handles,
      g'.buffer = g.buffer ∧ (g.bound = true ∨ g.serial = h.serial → g'.bound = true) := by
    intro g hg
    refine ⟨_, List.mem_map_of_mem _ hg, ?_⟩
    by_cases hn : g.serial = h.serial <;> simp [hn]
  exact {
    buffers_nodup := hi.buffers_nodup
    buffers_lt := hi.buffers_lt
    pushing_lt := hi.pushing_lt
    pushing_not_mem := hi.pushing_not_mem
    pushing_nodup := hi.pushing_nodup
    pushing_allocated := fun e he => by
      simpa [markBound, storageBound, Function.update_noteq (hne e he)]
        using hi.pushing_allocated e he
    threads_nodup := hi.threads_nodup
    handle_mem := fun g hg => by
      have : g.buffer ∈ (s.markBound h.serial).handles.map (·.buffer) := List.mem_map_of_mem _ hg
      rw [markBound_map_buffer] at this
      obtain ⟨g', hg', he⟩ := List.mem_map.1 this
      exact he ▸ hi.handle_mem g' hg'
    handles_nodup := (markBound_map_buffer (s := s.storageBound h.buffer d) _).symm ▸
      hi.handles_nodup
    serials_nodup := (markBound_map_serial (s := s.storageBound h.buffer d) _).symm ▸
      hi.serials_nodup
    serial_lt := fun g hg => by
      have : g.serial ∈ (s.markBound h.serial).handles.map (·.serial) := List.mem_map_of_mem _ hg
      rw [markBound_map_serial] at this
      obtain ⟨g', hg', he⟩ := List.mem_map.1 this
      exact he ▸ hi.serial_lt g' hg'
    inUse_iff := fun q hq => by
      rw [markBound_map_buffer (s := s.storageBound h.buffer d)]
      by_cases hqp : q = h.buffer
      · subst hqp; simpa [markBound, storageBound] using hi.inUse_iff _ hq
      · simpa [markBound, storageBound, Function.update_noteq hqp] using hi.inUse_iff q hq
    valid_bound := fun q hq hvq => by
      by_cases hqp : q = h.buffer
      · subst hqp
        obtain ⟨g', hg', hb, hbd⟩ := hmark h hh
        exact ⟨g', hg', hb, hbd (Or.inr rfl)⟩
      · simp only [markBound, storageBound, setBuffer_heap, Function.update_noteq hqp] at hvq
        obtain ⟨g, hg, rfl, hgb⟩ := hi.valid_bound _ hq hvq
        obtain ⟨g', hg', hb, hbd⟩ := hmark g hg
        exact ⟨g', hg', hb, hbd (Or.inl hgb)⟩
    log_mem := fun c hc => by
      simp only [markBound, storageBound, List.mem_append, List.mem_singleton] at hc
      rcases hc with hc | rfl
      · exact hi.log_mem c hc
      · exact hp
    replay := fun q hq => by
      by_cases hqp : q = h.buffer
      · subst hqp
        have hr := hi.replay _ hq
        simp_all [markBound, storageBound, storageCalls, RefCountedBuffer.binding,
          List.filter_append, StorageCall.buffer, storageReplay_append, storageStep]
      · simpa [markBound, storageBound, storageCalls, Function.update_noteq hqp,
          List.filter_append, StorageCall.buffer, Ne.symm hqp] using hi.replay q hq }

/-! ## Abort and holder updates -/

/-- `s'` differs from `s` at most in the per-frame state (progress, frame
state, HDR flags) of buffers of `buffers_`. -/
structure PerFrameOnly (s s' : PoolState) : Prop where
  rest : { s with heap := s'.heap } = s'
  inUse : ∀ q, (s'.heap q).inUse = (s.heap q).inUse
  valid : ∀ q, (s'.heap q).bufferPrivateDataValid = (s.heap q).bufferPrivateDataValid
  data : ∀ q, (s'.heap q).bufferPrivateData = (s.heap q).bufferPrivateData
  outside : ∀ q ∉ s.buffers, s'.heap q = s.heap q

theorem PerFrameOnly.refl (s : PoolState) : PerFrameOnly s s :=
  ⟨rfl, fun _ => rfl, fun _ => rfl, fun _ => rfl, fun _ _ => rfl⟩

theorem PerFrameOnly.setBuffer {s' : PoolState} (h : PerFrameOnly s s') {p : Nat}
    (hp : p ∈ s.buffers) {b : RefCountedBuffer} (hu : b.inUse = (s'.heap p).inUse)
    (hv : b.bufferPrivateDataValid = (s'.heap p).bufferPrivateDataValid)
    (hd : b.bufferPrivateData = (s'.heap p).bufferPrivateData) :
    PerFrameOnly s (s'.setBuffer p b) where
  rest := by rw [← h.rest]; rfl
  inUse q := by
    by_cases hq : q = p
    · subst hq; simp [hu, h.inUse]
    · simp [Function.update_noteq hq, h.inUse]
  valid q := by
    by_cases hq : q = p
    · subst hq; simp [hv, h.valid]
    · simp [Function.update_noteq hq, h.valid]
  data q := by
    by_cases hq : q = p
    · subst hq; simp [hd, h.data]
    · simp [Function.update_noteq hq, h.data]
  outside q hq := by
    rw [setBuffer_heap, Function.update_noteq (fun e => hq (by rwa [e])), h.outside q hq]

theorem PerFrameOnly.calls_eq {s' : PoolState} (h : PerFrameOnly s s') :
    s'.buffers = s.buffers ∧ s'.allocating = s.allocating ∧ s'.pushing = s.pushing ∧
      s'.handles = s.handles := by
  rw [← h.rest]
  exact ⟨rfl, rfl, rfl, rfl⟩

theorem perFrameOnly_abort (sentinel : Int) : PerFrameOnly s (s.abort sentinel) := by
  unfold abort
  suffices ∀ l : List Nat, (∀ p ∈ l, p ∈ s.buffers) → ∀ s', PerFrameOnly s s' →
      PerFrameOnly s (l.foldl (fun s p =>
        if (s.heap p).inUse then s.setBuffer p ((s.heap p).abort sentinel) else s) s') from
    this _ (fun _ h => h) _ (.refl s)
  intro l
  induction l with
  | nil => exact fun _ _ h => h
  | cons p l ih =>
    intro hl s' h
    simp only [List.foldl_cons]
    refine ih (fun q hq => hl q (List.mem_cons_of_mem p hq)) _ ?_
    split
    · exact h.setBuffer (hl p (List.mem_cons_self p l)) rfl rfl rfl
    · exact h

/-- The loop of `BufferPool::Abort` aborts exactly the buffers of `buffers_` in use, each
once, and leaves every other buffer as it was. -/
theorem abort_heap (sentinel : Int) (p : Nat) :
    (s.abort sentinel).heap p =
      if p ∈ s.buffers ∧ (s.heap p).inUse = true then (s.heap p).abort sentinel else s.heap p := by
  suffices ∀ (l : List Nat) (s' : PoolState), (l.foldl (fun s q =>
      if (s.heap q).inUse then s.setBuffer q ((s.heap q).abort sentinel) else s) s').heap p =
      if p ∈ l ∧ (s'.heap p).inUse = true then (s'.heap p).abort sentinel else s'.heap p from
    this s.buffers s
  intro l
  induction l with
  | nil => simp
  | cons q l ih =>
    intro s'
    rw [List.foldl_cons, ih]
    by_cases hpq : p = q
    · subst hpq
      by_cases hp : (s'.heap p).inUse = true <;> simp [hp, RefCountedBuffer.abort]
    · by_cases hq : (s'.heap q).inUse = true <;> simp [hq, hpq]

theorem Inv.perFrameOnly (hi : s.Inv) {s' : PoolState} (h : PerFrameOnly s s') : s'.Inv := by
  rw [← h.rest]
  exact {
    buffers_nodup := hi.buffers_nodup
    buffers_lt := hi.buffers_lt
    pushing_lt := hi.pushing_lt
    pushing_not_mem := hi.pushing_not_mem
    pushing_nodup := hi.pushing_nodup
    pushing_allocated := fun e he => by
      rw [h.outside _ (hi.pushing_not_mem e he)]; exact hi.pushing_allocated e he
    threads_nodup := hi.threads_nodup
    handle_mem := hi.handle_mem
    handles_nodup := hi.handles_nodup
    serials_nodup := hi.serials_nodup
    serial_lt := hi.serial_lt
    inUse_iff := fun q hq => by simpa [h.inUse] using hi.inUse_iff q hq
    valid_bound := fun q hq hv => hi.valid_bound q hq (by simpa [h.valid] using hv)
    log_mem := hi.log_mem
    replay := fun q hq => by
      simpa [RefCountedBuffer.binding, h.valid, h.data, storageCalls] using hi.replay q hq }


/-! ## Every step keeps the invariant -/

theorem acquisition_of_enabled {n : Nat} (h : (s.acquisition n).isSome) :
    ∃ a, s.acquisition n = some a ∧ a ∈ s.handles ∧ a.serial = n := by
  obtain ⟨a, ha⟩ := Option.isSome_iff_exists.1 h
  exact ⟨a, ha, mem_handles_of_acquisition ha⟩

/-- `exec` of a `ReturnUnusedBuffer` step on a live handle. -/
theorem exec_returnUnusedBuffer (hi : s.Inv) {t n : Nat} {a : Acquisition}
    (ha : s.acquisition n = some a) :
    s.exec ⟨t, .returnUnusedBuffer n⟩ = .ok ((s.released a.buffer).dropHandle n) := by
  have hmem := mem_handles_of_acquisition ha
  have hu := (hi.inUse_iff _ (hi.handle_mem a hmem.1)).2 (List.mem_map_of_mem _ hmem.1)
  simp [exec, ha, returnUnusedBuffer_eq hu, Except.map]

theorem Inv.exec (hi : s.Inv) {a : Action} {s' : PoolState} (he : s.Enabled a)
    (hx : s.exec a = .ok s') : s'.Inv := by
  obtain ⟨t, op⟩ := a
  cases op with
  | getFreeBuffer => cases hx; exact hi.getFreeBuffer he
  | allocate ok => cases hx; exact hi.allocate he ok
  | pushBack ok =>
    obtain ⟨p, hp⟩ := Option.isSome_iff_exists.1 he
    cases hx; exact hi.pushBack hp ok
  | abort sentinel => cases hx; exact hi.perFrameOnly (perFrameOnly_abort sentinel)
  | returnUnusedBuffer n =>
    obtain ⟨a, ha, hmem, rfl⟩ := acquisition_of_enabled he.2
    rw [exec_returnUnusedBuffer hi ha] at hx
    cases hx; exact hi.returnUnusedBuffer hmem
  | realloc n frameBuffer =>
    obtain ⟨a, ha, hmem, -⟩ := acquisition_of_enabled he.2
    simp only [PoolState.exec, ha] at hx
    cases hv : (s.heap a.buffer).bufferPrivateDataValid with
    | true => simp [realloc_of_valid hv, Except.map] at hx
    | false =>
      cases frameBuffer with
      | none => simp only [realloc_none hv, Except.map] at hx; cases hx; exact hi
      | some d =>
        simp only [realloc_some hv, Except.map, Option.isSome_some, if_true] at hx
        cases hx; exact (mem_handles_of_acquisition ha).2 ▸ hi.realloc hmem hv d
  | update n u =>
    obtain ⟨a, ha, hmem, -⟩ := acquisition_of_enabled he.2
    simp only [PoolState.exec, ha] at hx
    cases hx
    exact hi.perFrameOnly ((PerFrameOnly.refl s).setBuffer (hi.handle_mem a hmem) rfl rfl rfl)

end PoolState

/-- Every state of every run satisfies the invariant. -/
theorem Run.inv {adm : PoolState → Action → Prop} {l : List PoolState} (h : Run adm l) :
    ∀ s ∈ l, s.Inv := by
  induction h with
  | init => simpa using PoolState.inv_init
  | step a _ he _ hx ih =>
    intro s hs
    rcases List.mem_cons.1 hs with rfl | hs
    · exact (ih _ (List.mem_cons_self _ _)).exec he hx
    · exact ih s hs

end Libgav1
