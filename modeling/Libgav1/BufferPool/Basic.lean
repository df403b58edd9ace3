/-
# The buffer pool and its clients

`BufferPool` (buffer_pool.cc) hands reference-counted frame buffers to the
decoder's threads and takes them back when the last handle is dropped. The
model is one state: the vector `buffers_`, the buffers its pointers refer to,
the `GetFreeBuffer` calls between their failed scan and their `push_back`, the
live handles, and the calls made to the frame-buffer callbacks. Every
mutex-held section is one atomic step, and so is the unlocked allocation in
`GetFreeBuffer`; a run interleaves the steps of any number of threads.

Assertions are part of the model: a step whose `assert` fails has no successor.
-/

import Mathlib.Data.List.Nodup
import Mathlib.Logic.Function.Basic

namespace Libgav1

/-- `frame_state_` of a buffer (the enumeration is declared in buffer_pool.h). -/
inductive FrameState
  | unknown
  | started
  | parsed
  | decoded
  deriving DecidableEq, Repr

/-- The fields of a `RefCountedBuffer` that the pool reads or writes. Pixel
planes, segmentation and motion data are not touched by the pool. -/
structure RefCountedBuffer where
  inUse : Bool
  progressRow : Int
  frameState : FrameState
  hdrCllSet : Bool
  hdrMdcvSet : Bool
  itutT35Set : Bool
  bufferPrivateDataValid : Bool
  bufferPrivateData : Nat
  deriving DecidableEq, Repr

namespace RefCountedBuffer

/-- Modelled from the spec: a newly constructed buffer, whose member
initializers are in buffer_pool.h. It is not in use, has no storage bound and
carries no HDR metadata. -/
def init : RefCountedBuffer where
  inUse := false
  progressRow := -1
  frameState := .unknown
  hdrCllSet := false
  hdrMdcvSet := false
  itutT35Set := false
  bufferPrivateDataValid := false
  bufferPrivateData := 0

/-- Modelled from the spec: `RefCountedBuffer::Abort` marks the buffer's
progress as permanently failed so that waiters unblock. The sentinel row is an
implementation detail and stays a parameter. -/
def abort (buffer : RefCountedBuffer) (sentinel : Int) : RefCountedBuffer :=
  { buffer with progressRow := sentinel }

/-- Modelled from the spec: what a holder writes into the buffer it holds
(progress row, frame state, HDR metadata flags); any values may be written. -/
structure Update where
  progressRow : Int
  frameState : FrameState
  hdrCllSet : Bool
  hdrMdcvSet : Bool
  itutT35Set : Bool
  deriving DecidableEq, Repr

/-- A holder's update of its buffer. -/
def update (buffer : RefCountedBuffer) (u : Update) : RefCountedBuffer :=
  { buffer with
    progressRow := u.progressRow, frameState := u.frameState,
    hdrCllSet := u.hdrCllSet, hdrMdcvSet := u.hdrMdcvSet, itutT35Set := u.itutT35Set }

end RefCountedBuffer

/-- A call of the frame-buffer callbacks, with the buffer it is made for: a
successful `get_frame_buffer_` inside `Realloc`, or `release_frame_buffer_`
inside `ReturnUnusedBuffer`. `data` is the `buffer_private_data_` exchanged. -/
inductive StorageCall
  | get (buffer data : Nat)
  | release (buffer data : Nat)
  deriving DecidableEq, Repr

namespace StorageCall

/-- The buffer a callback call is made for. -/
def buffer : StorageCall → Nat
  | .get buffer _ => buffer
  | .release buffer _ => buffer

end StorageCall

/-- A non-null handle returned by `GetFreeBuffer` whose deleter has not run
yet. `serial` names the acquisition; `bound` records that `Realloc` succeeded
during it. -/
structure Acquisition where
  serial : Nat
  buffer : Nat
  bound : Bool
  deriving DecidableEq, Repr

/-- The pool, the buffers its pointers refer to, and its clients. Pointers
are numbers; `new` hands out `nextPointer`. `allocating` lists the threads
whose scan found no free buffer and that have not yet allocated a new one;
`pushing` pairs each thread that has allocated with its new buffer. -/
structure PoolState where
  buffers : List Nat
  heap : Nat → RefCountedBuffer
  nextPointer : Nat
  allocating : List Nat
  pushing : List (Nat × Nat)
  handles : List Acquisition
  nextSerial : Nat
  storageLog : List StorageCall

/-- What makes a step of the pool impossible: a failed `assert`. -/
inductive PoolError
  | assertionFailed
  deriving DecidableEq, Repr

/-- A step of one thread. The deleter of a handle runs `ReturnUnusedBuffer`;
holders call `Realloc` and update their buffer through a live handle. -/
inductive Op
  | getFreeBuffer
  | allocate (ok : Bool)
  | pushBack (ok : Bool)
  | returnUnusedBuffer (serial : Nat)
  | realloc (serial : Nat) (frameBuffer : Option Nat)
  | abort (sentinel : Int)
  | update (serial : Nat) (u : RefCountedBuffer.Update)
  deriving DecidableEq, Repr

/-- A step and the thread that takes it. -/
structure Action where
  thread : Nat
  op : Op
  deriving DecidableEq, Repr

namespace PoolState

/-- The empty pool of the constructor. -/
def init : PoolState where
  buffers := []
  heap := fun _ => RefCountedBuffer.init
  nextPointer := 0
  allocating := []
  pushing := []
  handles := []
  nextSerial := 0
  storageLog := []

/-- Replace the buffer behind pointer `p`. -/
def setBuffer (s : PoolState) (p : Nat) (b : RefCountedBuffer) : PoolState :=
  { s with heap := Function.update s.heap p b }

section setBuffer

variable (s : PoolState) (p : Nat) (b : RefCountedBuffer)

@[simp] theorem setBuffer_heap : (s.setBuffer p b).heap = Function.update s.heap p b := rfl
@[simp] theorem setBuffer_buffers : (s.setBuffer p b).buffers = s.buffers := rfl
@[simp] theorem setBuffer_nextPointer : (s.setBuffer p b).nextPointer = s.nextPointer := rfl
@[simp] theorem setBuffer_allocating : (s.setBuffer p b).allocating = s.allocating := rfl
@[simp] theorem setBuffer_pushing : (s.setBuffer p b).pushing = s.pushing := rfl
@[simp] theorem setBuffer_handles : (s.setBuffer p b).handles = s.handles := rfl
@[simp] theorem setBuffer_nextSerial : (s.setBuffer p b).nextSerial = s.nextSerial := rfl
@[simp] theorem setBuffer_storageLog : (s.setBuffer p b).storageLog = s.storageLog := rfl

end setBuffer

/-- The live handle of acquisition `serial`. -/
def acquisition (s : PoolState) (serial : Nat) : Option Acquisition :=
  s.handles.find? (·.serial = serial)

/-- The new buffer of a thread that has allocated in `GetFreeBuffer`. -/
def pendingBuffer (s : PoolState) (t : Nat) : Option Nat :=
  (s.pushing.find? (·.1 = t)).map (·.2)

/-- A thread outside `GetFreeBuffer`. -/
def Idle (s : PoolState) (t : Nat) : Prop :=
  t ∉ s.allocating ∧ s.pendingBuffer t = none

instance (s : PoolState) (t : Nat) : Decidable (s.Idle t) :=
  inferInstanceAs (Decidable (_ ∧ _))

/-- Open a handle on buffer `p`: `GetFreeBuffer` returns. -/
def openHandle (s : PoolState) (p : Nat) : PoolState :=
  { s with
    handles := s.handles ++ [⟨s.nextSerial, p, false⟩]
    nextSerial := s.nextSerial + 1 }

/-- The locked scan of `BufferPool::GetFreeBuffer`: claim the first buffer not
in use and reset its per-frame state, or leave the lock to allocate. -/
def getFreeBuffer (s : PoolState) (t : Nat) : PoolState :=
  match s.buffers.find? (fun p => !(s.heap p).inUse) with
  | some p =>
    (s.setBuffer p { s.heap p with
      inUse := true, progressRow := -1, frameState := .unknown,
      hdrCllSet := false, hdrMdcvSet := false, itutT35Set := false }).openHandle p
  | none => { s with allocating := t :: s.allocating }

/-- The unlocked part of `GetFreeBuffer`: `new (std::nothrow)` succeeds or
returns null, and the thread sets the new buffer's flags. -/
def allocate (s : PoolState) (t : Nat) (ok : Bool) : PoolState :=
  let s := { s with allocating := s.allocating.erase t }
  if ok then
    { (s.setBuffer s.nextPointer { RefCountedBuffer.init with
        inUse := true, progressRow := -1, frameState := .unknown }) with
      nextPointer := s.nextPointer + 1,
      pushing := (t, s.nextPointer) :: s.pushing }
  else s

/-- The locked `buffers_.push_back` of `GetFreeBuffer`; on failure the new
buffer is deleted and null is returned. -/
def pushBack (s : PoolState) (t : Nat) (ok : Bool) : PoolState :=
  match s.pendingBuffer t with
  | some p =>
    let s := { s with pushing := s.pushing.filter (·.1 ≠ t) }
    if ok then ({ s with buffers := s.buffers ++ [p] }).openHandle p else s
  | none => s

/-- `BufferPool::ReturnUnusedBuffer`. -/
def returnUnusedBuffer (s : PoolState) (p : Nat) : Except PoolError PoolState :=
  let b := s.heap p
  if b.inUse = false then .error .assertionFailed
  else if b.bufferPrivateDataValid then
    .ok { (s.setBuffer p { b with inUse := false, bufferPrivateDataValid := false }) with
          storageLog := s.storageLog ++ [.release p b.bufferPrivateData] }
  else .ok (s.setBuffer p { b with inUse := false })

/-- `RefCountedBuffer::Realloc`, under the pool's mutex; `frameBuffer` is what
`get_frame_buffer_` hands back, `none` when it fails. -/
def realloc (s : PoolState) (p : Nat) (frameBuffer : Option Nat) :
    Except PoolError PoolState :=
  let b := s.heap p
  if b.bufferPrivateDataValid then .error .assertionFailed
  else match frameBuffer with
    | none => .ok s
    | some d =>
      .ok { (s.setBuffer p { b with bufferPrivateDataValid := true, bufferPrivateData := d }) with
            storageLog := s.storageLog ++ [.get p d] }

/-- `BufferPool::Abort`: abort every buffer in use. -/
def abort (s : PoolState) (sentinel : Int) : PoolState :=
  s.buffers.foldl (fun s p =>
    if (s.heap p).inUse then s.setBuffer p ((s.heap p).abort sentinel) else s) s

/-- `BufferPool::~BufferPool`: the assertion that no buffer is still in use. -/
def destroy (s : PoolState) : Except PoolError Unit :=
  if s.buffers.any (fun p => (s.heap p).inUse) then .error .assertionFailed else .ok ()

/-- Drop the handle of acquisition `serial`. -/
def dropHandle (s : PoolState) (serial : Nat) : PoolState :=
  { s with handles := s.handles.filter (·.serial ≠ serial) }

/-- Record that `Realloc` succeeded during acquisition `serial`. -/
def markBound (s : PoolState) (serial : Nat) : PoolState :=
  { s with handles := s.handles.map fun h =>
      if h.serial = serial then { h with bound := true } else h }

/-- Which steps a thread can take: `allocate` and `pushBack` continue its own
`GetFreeBuffer`; every other step starts from outside `GetFreeBuffer`, and the
handle steps need a live handle. -/
def Enabled (s : PoolState) (a : Action) : Prop :=
  match a.op with
  | .getFreeBuffer => s.Idle a.thread
  | .allocate _ => a.thread ∈ s.allocating
  | .pushBack _ => (s.pendingBuffer a.thread).isSome
  | .abort _ => s.Idle a.thread
  | .returnUnusedBuffer n | .realloc n _ | .update n _ =>
    s.Idle a.thread ∧ (s.acquisition n).isSome

instance (s : PoolState) (a : Action) : Decidable (s.Enabled a) :=
  match a with
  | ⟨t, .getFreeBuffer⟩ | ⟨t, .abort _⟩ => inferInstanceAs (Decidable (s.Idle t))
  | ⟨t, .allocate _⟩ => inferInstanceAs (Decidable (t ∈ s.allocating))
  | ⟨t, .pushBack _⟩ => inferInstanceAs (Decidable ((s.pendingBuffer t).isSome = true))
  | ⟨t, .returnUnusedBuffer n⟩ | ⟨t, .realloc n _⟩ | ⟨t, .update n _⟩ =>
    inferInstanceAs (Decidable (s.Idle t ∧ (s.acquisition n).isSome = true))

/-- One step of the pool. -/
def exec (s : PoolState) (a : Action) : Except PoolError PoolState :=
  match a.op with
  | .getFreeBuffer => .ok (s.getFreeBuffer a.thread)
  | .allocate ok => .ok (s.allocate a.thread ok)
  | .pushBack ok => .ok (s.pushBack a.thread ok)
  | .abort sentinel => .ok (s.abort sentinel)
  | .returnUnusedBuffer n =>
    match s.acquisition n with
    | some h => (s.returnUnusedBuffer h.buffer).map (·.dropHandle n)
    | none => .ok s
  | .realloc n frameBuffer =>
    match s.acquisition n with
    | some h => (s.realloc h.buffer frameBuffer).map fun s' =>
        if frameBuffer.isSome then s'.markBound n else s'
    | none => .ok s
  | .update n u =>
    match s.acquisition n with
    | some h => .ok (s.setBuffer h.buffer ((s.heap h.buffer).update u))
    | none => .ok s

/-- The buffers that belong to an open acquisition: those of the live handles
and the new buffers not yet pushed. -/
def openBuffers (s : PoolState) : List Nat :=
  s.handles.map (·.buffer) ++ s.pushing.map (·.2)

/-- Open acquisitions plus `GetFreeBuffer` calls that have not yet claimed or
allocated a buffer. -/
def demand (s : PoolState) : Nat :=
  s.handles.length + s.pushing.length + s.allocating.length

end PoolState

/-- A run of the pool from the empty pool, newest state first, whose steps
satisfy the run condition `adm`. -/
inductive Run (adm : PoolState → Action → Prop) : List PoolState → Prop
  | init : Run adm [PoolState.init]
  | step {s s' : PoolState} {ss : List PoolState} (a : Action) :
      Run adm (s :: ss) → s.Enabled a → adm s a → s.exec a = .ok s' →
      Run adm (s' :: s :: ss)

end Libgav1
