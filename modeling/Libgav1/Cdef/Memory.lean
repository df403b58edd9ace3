/-
# Output buffers and the loops that write them

CDEF writes its output into `threaded_window_buffer_`, one flat array of
samples, or into the planes of `cdef_buffer_`; its scratch block is a flat
array of `uint16_t`. Pixel sizes only scale byte offsets, so addresses here
count samples.

Every loop that writes memory is described by one predicate, `Overwrites f R V`:
`f` stores `V a` at each address `a` of the region `R` and leaves every other
address alone. Writing the final value of an address is what each store of the
CDEF pass does, so composing such loops in any order overwrites the union of
their regions with the same `V`.
-/

import Mathlib.Logic.Function.Iterate
import Mathlib.Logic.Function.Basic
import Mathlib.Algebra.Group.Nat.Basic

namespace Libgav1

/-- A sample of the CDEF output buffers: `threaded_window_buffer_` at a sample
offset, or row `row` and column `column` of plane `plane` of `cdef_buffer_`. -/
inductive CdefAddr
  | window (offset : Nat)
  | frame (plane row column : Nat)
  deriving DecidableEq, Repr

namespace CdefAddr

/-- The address `i` rows and `j` samples past `a`. Rows of the window buffer
are `stride` samples apart; planes of `cdef_buffer_` are addressed by row and
column, so their stride plays no part. -/
def offset (stride : Nat) : CdefAddr → Nat → Nat → CdefAddr
  | .window o, i, j => .window (o + i * stride + j)
  | .frame p r c, i, j => .frame p (r + i) (c + j)

@[simp] theorem offset_zero (stride : Nat) (a : CdefAddr) : a.offset stride 0 0 = a := by
  cases a <;> simp [offset]

@[simp] theorem offset_offset (stride : Nat) (a : CdefAddr) (i j i' j' : Nat) :
    (a.offset stride i j).offset stride i' j' = a.offset stride (i + i') (j + j') := by
  cases a <;> simp only [offset, window.injEq, frame.injEq, Nat.add_mul, true_and] <;> omega

end CdefAddr

/-- `f` writes `V a` at every address `a` of `R` and leaves the others alone. -/
structure Overwrites {α : Type} (f : (α → Nat) → α → Nat) (R : α → Prop) (V : α → Nat) :
    Prop where
  hit : ∀ m a, R a → f m a = V a
  miss : ∀ m a, ¬ R a → f m a = m a

namespace Overwrites

variable {α : Type} {f g : (α → Nat) → α → Nat} {R R' : α → Prop} {V : α → Nat}

theorem id : Overwrites (fun m => m) (fun _ => False) V :=
  ⟨fun _ _ h => h.elim, fun _ _ _ => rfl⟩

theorem update [DecidableEq α] (a₀ : α) {v : Nat} (hv : v = V a₀) :
    Overwrites (fun m => Function.update m a₀ v) (· = a₀) V where
  hit m a h := by subst h; simp [hv]
  miss m a h := Function.update_noteq h _ _

/-- Two writes of the same values, one after the other. -/
theorem comp (hf : Overwrites f R V) (hg : Overwrites g R' V) :
    Overwrites (fun m => g (f m)) (fun a => R a ∨ R' a) V where
  hit m a h := by
    by_cases h' : R' a
    · exact hg.hit _ a h'
    · rw [hg.miss _ a h']; exact hf.hit m a (h.resolve_right h')
  miss m a h := by
    rw [hg.miss _ a fun h' => h (.inr h'), hf.miss m a fun h' => h (.inl h')]

/-- Two loops writing the same region, with values that agree on it, compute the same
memory. -/
theorem eq_of_agree {V' : α → Nat} (hf : Overwrites f R V)
    (hg : Overwrites g R V') (h : ∀ a, R a → V a = V' a) (m : α → Nat) : f m = g m :=
  funext fun a => by
    by_cases hR : R a
    · rw [hf.hit m a hR, hg.hit m a hR, h a hR]
    · rw [hf.miss m a hR, hg.miss m a hR]

theorem congr_region (hf : Overwrites f R V) (h : ∀ a, R a ↔ R' a) : Overwrites f R' V :=
  ⟨fun m a ha => hf.hit m a ((h a).2 ha), fun m a ha => hf.miss m a fun h' => ha ((h a).1 h')⟩

theorem congr_fun (hf : Overwrites f R V) (h : ∀ m, g m = f m) : Overwrites g R V :=
  ⟨fun m a ha => (h m).symm ▸ hf.hit m a ha, fun m a ha => (h m).symm ▸ hf.miss m a ha⟩

/-- A loop over a list of indices, each iteration writing the same values. -/
theorem foldl {ι : Type} (l : List ι) {step : ι → (α → Nat) → α → Nat} {R : ι → α → Prop}
    (h : ∀ k ∈ l, Overwrites (step k) (R k) V) :
    Overwrites (fun m => l.foldl (fun m k => step k m) m) (fun a => ∃ k ∈ l, R k a) V := by
  induction l with
  | nil => exact id.congr_region (by simp)
  | cons k l ih =>
    have hk := h k (List.mem_cons_self k l)
    have hl := ih fun k' hk' => h k' (List.mem_cons_of_mem k hk')
    exact (hk.comp hl).congr_region fun a => by simp

/-- A loop whose `k`-th iteration runs from pointers `pos k` to `pos (k + 1)` and
writes region `R k`: after `n` iterations it has written their union, and its pointers
are at `pos n`. -/
theorem iterate {σ : Type} {step : (α → Nat) × σ → (α → Nat) × σ} {pos : Nat → σ}
    {body : Nat → (α → Nat) → α → Nat} (hstep : ∀ m k, step (m, pos k) = (body k m, pos (k + 1)))
    {R : Nat → α → Prop} (n : Nat) (hbody : ∀ k < n, Overwrites (body k) (R k) V) :
    Overwrites (fun m => (step^[n] (m, pos 0)).1) (fun a => ∃ k < n, R k a) V ∧
      ∀ m, (step^[n] (m, pos 0)).2 = pos n := by
  induction n with
  | zero => exact ⟨id.congr_region (by simp), fun _ => rfl⟩
  | succ n ih =>
    obtain ⟨hw, hp⟩ := ih fun k hk => hbody k (by omega)
    have hrun : ∀ m, step^[n + 1] (m, pos 0) = (body n (step^[n] (m, pos 0)).1, pos (n + 1)) :=
      fun m => by
        have e : step^[n] (m, pos 0) = ((step^[n] (m, pos 0)).1, pos n) := Prod.ext rfl (hp m)
        rw [Function.iterate_succ_apply', e, hstep]
    refine ⟨(hw.comp (hbody n (by omega))).congr_fun (fun m => by rw [hrun]) |>.congr_region
      fun a => ⟨?_, ?_⟩, fun m => by rw [hrun]⟩
    · rintro (⟨k, hk, h⟩ | h)
      · exact ⟨k, by omega, h⟩
      · exact ⟨n, by omega, h⟩
    · rintro ⟨k, hk, h⟩
      rcases Nat.lt_succ_iff_lt_or_eq.1 hk with hk | rfl
      · exact .inl ⟨k, hk, h⟩
      · exact .inr h

end Overwrites

/-- `f` writes `U a` at the addresses `a` of `R` that lie in `S`, anything at the other
addresses of `R`, and leaves the addresses outside `R` alone: `S` is the part of the memory
whose final contents matter, the rest is scratch. -/
structure OverwritesOn {α : Type} (S : α → Prop) (f : (α → Nat) → α → Nat) (R : α → Prop)
    (U : α → Nat) : Prop where
  hit : ∀ m a, S a → R a → f m a = U a
  miss : ∀ m a, ¬R a → f m a = m a

/-- A loop that writes its own values, which agree with `U` on `S`. -/
theorem Overwrites.overwritesOn {α : Type} {f : (α → Nat) → α → Nat} {R S : α → Prop}
    {V U : α → Nat} (hf : Overwrites f R V) (hU : ∀ a, S a → R a → V a = U a) :
    OverwritesOn S f R U :=
  ⟨fun m a hS hR => (hf.hit m a hR).trans (hU a hS hR), hf.miss⟩

namespace OverwritesOn

variable {α : Type} {S : α → Prop} {f g : (α → Nat) → α → Nat} {R R' : α → Prop} {U : α → Nat}

theorem comp (hf : OverwritesOn S f R U) (hg : OverwritesOn S g R' U) :
    OverwritesOn S (fun m => g (f m)) (fun a => R a ∨ R' a) U := by
  constructor
  · intro m a hS h
    by_cases h' : R' a
    · exact hg.hit _ a hS h'
    · rw [hg.miss _ a h']; exact hf.hit m a hS (h.resolve_right h')
  · intro m a h
    rw [hg.miss _ a fun h' => h (.inr h'), hf.miss m a fun h' => h (.inl h')]

theorem congr_region (hf : OverwritesOn S f R U) (h : ∀ a, R a ↔ R' a) : OverwritesOn S f R' U :=
  ⟨fun m a hS ha => hf.hit m a hS ((h a).2 ha), fun m a ha => hf.miss m a fun h' => ha ((h a).1 h')⟩

theorem foldl {ι : Type} (l : List ι) {step : ι → (α → Nat) → α → Nat} {R : ι → α → Prop}
    (h : ∀ k ∈ l, OverwritesOn S (step k) (R k) U) :
    OverwritesOn S (fun m => l.foldl (fun m k => step k m) m) (fun a => ∃ k ∈ l, R k a) U := by
  induction l with
  | nil => exact ⟨fun _ _ _ h => by simp at h, fun _ _ _ => rfl⟩
  | cons k l ih =>
    have hk := h k (List.mem_cons_self k l)
    have hl := ih fun k' hk' => h k' (List.mem_cons_of_mem k hk')
    exact (hk.comp hl).congr_region fun a => by simp

end OverwritesOn

/-- A step on a scratch block and the memory that, whatever the scratch holds, writes
`V` on region `R` of the memory and leaves the rest of the memory alone. -/
def ScratchOverwrites {σ α : Type} (F : σ × (α → Nat) → σ × (α → Nat)) (R : α → Prop)
    (V : α → Nat) : Prop :=
  ∀ s, Overwrites (fun m => (F (s, m)).2) R V

namespace ScratchOverwrites

variable {σ α : Type} {F G : σ × (α → Nat) → σ × (α → Nat)} {R R' : α → Prop} {V : α → Nat}

theorem comp (hF : ScratchOverwrites F R V) (hG : ScratchOverwrites G R' V) :
    ScratchOverwrites (fun st => G (F st)) (fun a => R a ∨ R' a) V := fun s => by
  have hsplit : ∀ m, (G (F (s, m))).2 = (G ((F (s, m)).1, (F (s, m)).2)).2 := fun m => rfl
  constructor
  · intro m a h
    show (G (F (s, m))).2 a = V a
    by_cases h' : R' a
    · rw [hsplit]; exact (hG _).hit _ a h'
    · rw [hsplit, (hG _).miss _ a h']; exact (hF s).hit m a (h.resolve_right h')
  · intro m a h
    show (G (F (s, m))).2 a = m a
    rw [hsplit, (hG _).miss _ a fun h' => h (.inr h'), (hF s).miss m a fun h' => h (.inl h')]

theorem congr_region (hF : ScratchOverwrites F R V) (h : ∀ a, R a ↔ R' a) :
    ScratchOverwrites F R' V := fun s => (hF s).congr_region h

/-- A loop over a list of indices, each iteration writing the same values. -/
theorem foldl {ι : Type} (l : List ι) {step : ι → σ × (α → Nat) → σ × (α → Nat)}
    {R : ι → α → Prop} (h : ∀ k ∈ l, ScratchOverwrites (step k) (R k) V) :
    ScratchOverwrites (fun st => l.foldl (fun st k => step k st) st)
      (fun a => ∃ k ∈ l, R k a) V := by
  induction l with
  | nil => exact fun s => Overwrites.id.congr_region (by simp)
  | cons k l ih =>
    have hk := h k (List.mem_cons_self k l)
    have hl := ih fun k' hk' => h k' (List.mem_cons_of_mem k hk')
    exact (hk.comp hl).congr_region fun a => by simp

end ScratchOverwrites

/-- Entry `(r, c)` of a row-major `rows × cols` array lies inside it. -/
theorem rowMajor_lt {r c rows cols : Nat} (hr : r < rows) (hc : c < cols) :
    r * cols + c < rows * cols :=
  calc r * cols + c < (r + 1) * cols := by rw [Nat.succ_mul]; omega
    _ ≤ rows * cols := Nat.mul_le_mul_right _ hr

/-- `memcpy` or `Memset` of `count` samples: the `j`-th, at address `addr j`, gets
`v j`. -/
def fillRow {α : Type} [DecidableEq α] (addr : Nat → α) (v : Nat → Nat) :
    Nat → (α → Nat) → α → Nat
  | 0, m => m
  | n + 1, m => Function.update (fillRow addr v n m) (addr n) (v n)

theorem fillRow_overwrites {α : Type} [DecidableEq α] (addr : Nat → α) (v : Nat → Nat) (n : Nat)
    {V : α → Nat} (hv : ∀ j < n, v j = V (addr j)) :
    Overwrites (fillRow addr v n) (fun a => ∃ j < n, addr j = a) V := by
  induction n with
  | zero => exact Overwrites.id.congr_region (by simp)
  | succ n ih =>
    refine ((ih fun j hj => hv j (by omega)).comp
      (Overwrites.update _ (hv n (by omega)))).congr_region fun a => ⟨?_, ?_⟩
    · rintro (⟨j, hj, rfl⟩ | rfl)
      · exact ⟨j, by omega, rfl⟩
      · exact ⟨n, by omega, rfl⟩
    · rintro ⟨j, hj, rfl⟩
      rcases Nat.lt_succ_iff_lt_or_eq.1 hj with hj | rfl
      · exact .inl ⟨j, hj, rfl⟩
      · exact .inr rfl

/-- The rows `0 .. rows - 1` of `cols` samples at `dst`, `stride` apart, sample `(i, j)`
getting `v i j`: how the filter backend stores a filtered block. -/
def writeBlock (dst : CdefAddr) (stride cols : Nat) (v : Nat → Nat → Nat) :
    Nat → (CdefAddr → Nat) → CdefAddr → Nat
  | 0, m => m
  | i + 1, m => fillRow (dst.offset stride i) (v i) cols (writeBlock dst stride cols v i m)

/-- The samples of a `rows × cols` block at `dst`. -/
def blockRegion (dst : CdefAddr) (stride rows cols : Nat) (a : CdefAddr) : Prop :=
  ∃ i < rows, ∃ j < cols, dst.offset stride i j = a

/-- A block of `cdef_buffer_` is a rectangle of its plane, whatever the stride. -/
theorem blockRegion_frame (plane row column stride rows cols : Nat) (a : CdefAddr) :
    blockRegion (.frame plane row column) stride rows cols a ↔
      ∃ y x, a = .frame plane y x ∧ row ≤ y ∧ y < row + rows ∧ column ≤ x ∧ x < column + cols := by
  constructor
  · rintro ⟨i, hi, j, hj, rfl⟩
    exact ⟨row + i, column + j, rfl, by omega, by omega, by omega, by omega⟩
  · rintro ⟨y, x, rfl, hy, hy', hx, hx'⟩
    exact ⟨y - row, by omega, x - column, by omega, by simp only [CdefAddr.offset]; congr 1 <;> omega⟩

/-- A block of `nh × nw` tiles of `bh × bw` samples is the union of its tiles. -/
theorem blockRegion_tiles (dst : CdefAddr) (stride : Nat) {bh bw : Nat} (hbh : 0 < bh)
    (hbw : 0 < bw) (nh nw : Nat) (a : CdefAddr) :
    blockRegion dst stride (nh * bh) (nw * bw) a ↔
      ∃ m < nh, ∃ k < nw, blockRegion (dst.offset stride (m * bh) (k * bw)) stride bh bw a := by
  constructor
  · rintro ⟨i, hi, j, hj, rfl⟩
    exact ⟨i / bh, (Nat.div_lt_iff_lt_mul hbh).2 hi, j / bw, (Nat.div_lt_iff_lt_mul hbw).2 hj,
      i % bh, Nat.mod_lt _ hbh, j % bw, Nat.mod_lt _ hbw,
      by rw [CdefAddr.offset_offset, Nat.mul_comm (i / bh), Nat.mul_comm (j / bw), Nat.div_add_mod,
        Nat.div_add_mod]⟩
  · rintro ⟨m, hm, k, hk, i, hi, j, hj, rfl⟩
    have hrow : m * bh + i < nh * bh :=
      calc m * bh + i < (m + 1) * bh := by rw [Nat.succ_mul]; omega
        _ ≤ nh * bh := Nat.mul_le_mul_right _ hm
    have hcolumn : k * bw + j < nw * bw :=
      calc k * bw + j < (k + 1) * bw := by rw [Nat.succ_mul]; omega
        _ ≤ nw * bw := Nat.mul_le_mul_right _ hk
    exact ⟨m * bh + i, hrow, k * bw + j, hcolumn, by rw [CdefAddr.offset_offset]⟩

theorem writeBlock_overwrites (dst : CdefAddr) (stride cols : Nat) (v : Nat → Nat → Nat)
    (rows : Nat) {V : CdefAddr → Nat}
    (hv : ∀ i < rows, ∀ j < cols, v i j = V (dst.offset stride i j)) :
    Overwrites (writeBlock dst stride cols v rows) (blockRegion dst stride rows cols) V := by
  induction rows with
  | zero => exact Overwrites.id.congr_region (by simp [blockRegion])
  | succ n ih =>
    refine ((ih fun i hi => hv i (by omega)).comp (fillRow_overwrites _ _ cols
      (hv n (by omega)))).congr_region fun a => ⟨?_, ?_⟩
    · rintro (⟨i, hi, j, hj, rfl⟩ | ⟨j, hj, rfl⟩)
      · exact ⟨i, by omega, j, hj, rfl⟩
      · exact ⟨n, by omega, j, hj, rfl⟩
    · rintro ⟨i, hi, j, hj, rfl⟩
      rcases Nat.lt_succ_iff_lt_or_eq.1 hi with hi | rfl
      · exact .inl ⟨i, hi, j, hj, rfl⟩
      · exact .inr ⟨j, hj, rfl⟩

/-- The do-while of `CopyPixels` after `n` more iterations: each a `memcpy` of `width`
samples of source row `srcRow` from column `srcColumn` to `dst`, after which both
pointers move one row down. -/
def copyPixelsLoop (src : Int → Int → Nat) (width dstStride : Nat) :
    Nat → Nat → Nat → CdefAddr → (CdefAddr → Nat) → CdefAddr → Nat
  | 0, _, _, _, m => m
  | n + 1, srcRow, srcColumn, dst, m =>
    copyPixelsLoop src width dstStride n (srcRow + 1) srcColumn (dst.offset dstStride 1 0)
      (fillRow (dst.offset dstStride 0) (fun j => src srcRow (srcColumn + j)) width m)

/-- The iterations of `int y = height; do { ... } while (--y != 0);`: `height` of them;
from `height = 0` the counter comes back to 0 only after wrapping, which `int`
arithmetic leaves undefined, and the model counts the 2^32 iterations of a wrapping
counter. -/
def decrementLoopCount (height : Nat) : Nat := if height = 0 then 2 ^ 32 else height

/-- `CopyPixels`: copy `height` rows of `width` samples from the source plane `src` at
`(srcRow, srcColumn)` to `dst`. -/
def copyPixels (src : Int → Int → Nat) (srcRow srcColumn : Nat) (dst : CdefAddr)
    (dstStride width height : Nat) (m : CdefAddr → Nat) : CdefAddr → Nat :=
  copyPixelsLoop src width dstStride (decrementLoopCount height) srcRow srcColumn dst m

theorem copyPixelsLoop_overwrites (src : Int → Int → Nat) (width dstStride n srcRow srcColumn : Nat)
    (dst : CdefAddr) {V : CdefAddr → Nat}
    (hv : ∀ i < n, ∀ j < width, src (srcRow + i : Nat) (srcColumn + j : Nat) =
      V (dst.offset dstStride i j)) :
    Overwrites (copyPixelsLoop src width dstStride n srcRow srcColumn dst)
      (blockRegion dst dstStride n width) V := by
  induction n generalizing srcRow dst with
  | zero => exact Overwrites.id.congr_region (by simp [blockRegion])
  | succ n ih =>
    have hrow := fillRow_overwrites (dst.offset dstStride 0)
      (fun j => src srcRow (srcColumn + j)) width fun j hj => by
        simpa using hv 0 (by omega) j hj
    have hrest := ih (srcRow + 1) (dst.offset dstStride 1 0) fun i hi j hj => by
      simpa [Nat.add_assoc, Nat.add_comm 1 i] using hv (i + 1) (by omega) j hj
    refine (hrow.comp hrest).congr_region fun a => ⟨?_, ?_⟩
    · rintro (⟨j, hj, rfl⟩ | ⟨i, hi, j, hj, rfl⟩)
      · exact ⟨0, by omega, j, hj, rfl⟩
      · exact ⟨1 + i, by omega, j, hj, by simp⟩
    · rintro ⟨i, hi, j, hj, rfl⟩
      rcases i with _ | i
      · exact .inl ⟨j, hj, rfl⟩
      · exact .inr ⟨i, by omega, j, hj, by simp [Nat.add_comm 1 i]⟩

theorem copyPixels_overwrites (src : Int → Int → Nat) (srcRow srcColumn : Nat) (dst : CdefAddr)
    (dstStride width height : Nat) (hheight : 0 < height) {V : CdefAddr → Nat}
    (hv : ∀ i < height, ∀ j < width, src (srcRow + i : Nat) (srcColumn + j : Nat) =
      V (dst.offset dstStride i j)) :
    Overwrites (copyPixels src srcRow srcColumn dst dstStride width height)
      (blockRegion dst dstStride height width) V := by
  have hcount : decrementLoopCount height = height := if_neg (by omega)
  exact (copyPixelsLoop_overwrites src width dstStride _ srcRow srcColumn dst
    (hcount ▸ hv)).congr_fun (fun m => by rw [copyPixels]) |>.congr_region
    fun a => by rw [hcount]

end Libgav1
