/-
# The two CDEF drivers

The post filter runs CDEF in one of two ways. With a thread pool, `ApplyCdef` dispatches on
the bit depth to `ApplyCdefThreaded`, which filters the frame window by window through the
window buffer and copies each window back. Without one, the decoder calls
`ApplyCdefForOneSuperBlockRow` once per superblock row, as the rows are decoded, and each call
writes straight into `cdef_buffer_`.

This module states what either driver leaves in `cdef_buffer_` as one function of the source
and of what the buffer held before (`frameOutput`), and derives that the two agree: with or
without a thread pool, whatever the window buffer's size, the order the bands of each window
run in and the superblock size, CDEF leaves the same `cdef_buffer_`, and neither touches a
sample outside the planes' 4x4 grids. Of the superblock-row calls it also states what every
prefix of them leaves (`applyCdefSuperBlockRows_prefix`): the final output on the 4x4 rows the
calls so far have finished, and the old contents everywhere else.
-/

import Libgav1.Cdef.Jobs

namespace Libgav1

/-- `PostFilter::ApplyCdef`: `ApplyCdefThreaded` with 16-bit pixels from bit depth 10 on, with
8-bit pixels below. -/
def applyCdef (pf : PostFilter) (dsp : Dsp) (w : CdefWindow) (stride : Nat)
    (order : Nat → Nat → List Nat) (scratch : Nat → Nat → Nat → Nat → Nat)
    (mem : CdefAddr → Nat) : CdefAddr → Nat :=
  if 10 ≤ pf.bitdepth then applyCdefThreaded true pf dsp w stride order scratch mem
  else applyCdefThreaded false pf dsp w stride order scratch mem

/-- What CDEF is to leave at sample `(y, x)` of plane `plane` of `cdef_buffer_`, which held
`mem`: the reference output inside the plane's 4x4 grid, the old sample outside it. -/
def frameOutput (pf : PostFilter) (dsp : Dsp) (mem : CdefAddr → Nat) (plane y x : Nat) : Nat :=
  if plane < pf.planes ∧ y < pf.gridHeight plane ∧ x < pf.gridWidth plane then
    pf.cdefReference dsp plane y x
  else mem (.frame plane y x)

/-- The 4x4 rows of the frame that the first `k` calls `ApplyCdefForOneSuperBlockRow(n·sb4x4,
sb4x4, n = K - 1)` finish: up to two rows above the next call's first row, and the whole
frame once all `K` calls have run. -/
def finishedRows4x4 (rows4x4 sb4x4 k : Nat) : Nat :=
  if k = superBlockRowCount rows4x4 sb4x4 then rows4x4 else k * sb4x4 - 2

/-- The rows of every call of a frame's sequence are inside the frame. -/
theorem finishedRows4x4_le {rows4x4 sb4x4 k : Nat} (hsb : 0 < sb4x4)
    (hk : k ≤ superBlockRowCount rows4x4 sb4x4) : finishedRows4x4 rows4x4 sb4x4 k ≤ rows4x4 := by
  unfold finishedRows4x4
  split
  · exact Nat.le_refl _
  · have := lt_of_lt_forCount hsb (Nat.lt_of_le_of_ne hk ‹_›)
    rw [Nat.mul_comm]; omega

/-- All rows of the frame, from the top one, are the samples of the planes' 4x4 grids. -/
theorem frameRows_grid (pf : PostFilter) (plane y x : Nat) :
    frameRows pf 0 pf.rows4x4 (.frame plane y x) ↔
      plane < pf.planes ∧ y < pf.gridHeight plane ∧ x < pf.gridWidth plane := by
  simp [frameRows, PostFilter.gridHeight]

/-- `ApplyCdefThreaded`, whatever order the bands of each window run in and whatever their
scratch blocks held, leaves `frameOutput` in `cdef_buffer_`. -/
theorem applyCdefThreaded_frameOutput (pixel16 : Bool) (pf : PostFilter) (dsp : Dsp)
    (w : CdefWindow) {stride : Nat} (hS : 64 + 2 * kCdefBorder ≤ stride)
    {order : Nat → Nat → List Nat}
    (horder : ∀ i j, (order i j).Perm (List.range (verticalUnitsPerWindow pf w (w.height4x4 * i))))
    (scratch : Nat → Nat → Nat → Nat → Nat) (mem : CdefAddr → Nat) (plane y x : Nat) :
    applyCdefThreaded pixel16 pf dsp w stride order scratch mem (.frame plane y x) =
      frameOutput pf dsp mem plane y x := by
  have hdriver := applyCdefThreaded_overwritesOn pixel16 dsp hS horder scratch
  unfold frameOutput
  split
  · -- inside the grid: the copy-back of the one window holding the sample
    rename_i hgrid
    obtain ⟨⟨i, j⟩, ⟨hi, hj, hcopy⟩, -⟩ := copyRegion_partition (w := w) hgrid.1 hgrid.2.1 hgrid.2.2
    exact hdriver.hit mem _ trivial ⟨i, List.mem_range.2 hi, j, List.mem_range.2 hj, .inr hcopy⟩
  · -- outside it: bands write the window buffer, copy-backs the grid
    rename_i hgrid
    refine hdriver.miss mem _ ?_
    rintro ⟨i, -, j, -, ⟨b, -, u, -, hu⟩ | hcopy⟩
    · obtain ⟨_, _, _, _, _, _, h⟩ := (unitRegion_some pf w u _).1 hu
      cases h
    · obtain ⟨hplane, hy, hx, -⟩ := (copyRegion_iff plane y x).1 hcopy
      exact hgrid ⟨hplane, hy, hx⟩

/-- The first `k` calls of a frame's sequence run, in order, consecutive strips from the
frame's top row to the rows they finish. -/
theorem superBlockRows_prefix_runStrips (pf : PostFilter) (dsp : Dsp) (stride : Nat)
    {sb4x4 : Nat} (hsb : sb4x4 = 16 ∨ sb4x4 = 32) {k : Nat}
    (hk : k ≤ superBlockRowCount pf.rows4x4 sb4x4) (st : (Nat → Nat) × (CdefAddr → Nat)) :
    ∃ strips, (List.range k).foldlM (fun st n => applyCdefForOneSuperBlockRow pf dsp stride
        (n * sb4x4) sb4x4 (n == superBlockRowCount pf.rows4x4 sb4x4 - 1) st) st =
        some (runStrips pf dsp stride strips st) ∧
      Consecutive 0 (finishedRows4x4 pf.rows4x4 sb4x4 k) strips := by
  refine ⟨_, foldlM_superBlockRows pf dsp stride sb4x4 _ _ (fun n hn => ?_) _
    (fun n hn => List.mem_range.2 ((List.mem_range.1 hn).trans_le hk)) st,
    superBlockRows_prefix_consecutive hsb pf.rows4x4_even pf.rows4x4_pos hk⟩
  obtain ⟨strips, hstrips, -⟩ := superBlockRowStrips_consecutive hsb pf.rows4x4_even
    (List.mem_range.1 hn)
  rw [hstrips, Option.getD_some]

/-- Without a thread pool, the calls of a frame's sequence pass their assertions and leave
`frameOutput` in `cdef_buffer_`. -/
theorem applyCdefSuperBlockRows_frameOutput (pf : PostFilter) (dsp : Dsp) {stride : Nat}
    (hS : 64 + 2 * kCdefBorder ≤ stride) {sb4x4 : Nat} (hsb : sb4x4 = 16 ∨ sb4x4 = 32)
    (st : (Nat → Nat) × (CdefAddr → Nat)) :
    ∃ result, applyCdefSuperBlockRows pf dsp stride sb4x4 st = some result ∧
      ∀ plane y x, result.2 (.frame plane y x) = frameOutput pf dsp st.2 plane y x := by
  obtain ⟨strips, hrun, hstrips⟩ := superBlockRows_prefix_runStrips pf dsp stride hsb
    (Nat.le_refl _) st
  have hwrites := runStrips_overwrites pf dsp hS hstrips
    (finishedRows4x4_le (by omega) (Nat.le_refl _)) st.1
  rw [finishedRows4x4, if_pos rfl] at hwrites
  refine ⟨_, hrun, fun plane y x => ?_⟩
  unfold frameOutput
  split
  · exact hwrites.hit st.2 _ ((frameRows_grid pf plane y x).2 ‹_›)
  · exact hwrites.miss st.2 _ fun h => ‹¬_› ((frameRows_grid pf plane y x).1 h)

/-- `ApplyCdef` leaves `frameOutput` in `cdef_buffer_`, at either bit depth. -/
theorem applyCdef_frameOutput (pf : PostFilter) (dsp : Dsp) (w : CdefWindow) {stride : Nat}
    (hS : 64 + 2 * kCdefBorder ≤ stride) {order : Nat → Nat → List Nat}
    (horder : ∀ i j, (order i j).Perm (List.range (verticalUnitsPerWindow pf w (w.height4x4 * i))))
    (scratch : Nat → Nat → Nat → Nat → Nat) (mem : CdefAddr → Nat) (plane y x : Nat) :
    applyCdef pf dsp w stride order scratch mem (.frame plane y x) =
      frameOutput pf dsp mem plane y x := by
  unfold applyCdef
  split <;> exact applyCdefThreaded_frameOutput _ pf dsp w hS horder scratch mem plane y x

/-- The two drivers of CDEF leave the same `cdef_buffer_`. `ApplyCdef`, with a thread pool,
for every window buffer size, every order the bands of each window run in and every
contents of their scratch blocks, and the calls `ApplyCdefForOneSuperBlockRow(k·sb4x4, sb4x4,
k = K - 1)` without one, for either superblock size, from the same `cdef_buffer_`, agree at
every sample of it; the superblock-row calls pass their assertions. -/
theorem applyCdef_eq_superBlockRows (pf : PostFilter) (dsp : Dsp) (w : CdefWindow) {stride : Nat}
    (hS : 64 + 2 * kCdefBorder ≤ stride) {order : Nat → Nat → List Nat}
    (horder : ∀ i j, (order i j).Perm (List.range (verticalUnitsPerWindow pf w (w.height4x4 * i))))
    (scratch : Nat → Nat → Nat → Nat → Nat) {sb4x4 : Nat} (hsb : sb4x4 = 16 ∨ sb4x4 = 32)
    (st : (Nat → Nat) × (CdefAddr → Nat)) :
    ∃ result, applyCdefSuperBlockRows pf dsp stride sb4x4 st = some result ∧
      ∀ plane y x, applyCdef pf dsp w stride order scratch st.2 (.frame plane y x) =
        result.2 (.frame plane y x) := by
  obtain ⟨result, hrun, hresult⟩ := applyCdefSuperBlockRows_frameOutput pf dsp hS hsb st
  exact ⟨result, hrun, fun plane y x => by
    rw [hresult, applyCdef_frameOutput pf dsp w hS horder scratch st.2]⟩

theorem applyCdef_eq_superBlockRows_ramp16x200 :
    64 + 2 * kCdefBorder ≤ 70 ∧
    (∀ i (_ : Nat), (List.range (verticalUnitsPerWindow PostFilter.ramp16x200 CdefWindow.twoBands
      (CdefWindow.twoBands.height4x4 * i))).reverse.Perm
        (List.range (verticalUnitsPerWindow PostFilter.ramp16x200 CdefWindow.twoBands
          (CdefWindow.twoBands.height4x4 * i)))) ∧ (16 = 16 ∨ 16 = 32) ∧
    ∃ result,
      applyCdefSuperBlockRows PostFilter.ramp16x200 Dsp.verticalMean 70 16 (fun _ => 0, fun _ => 0) =
        some result ∧
      ∀ plane y x, applyCdef PostFilter.ramp16x200 Dsp.verticalMean CdefWindow.twoBands 70
          (fun i _ => (List.range (verticalUnitsPerWindow PostFilter.ramp16x200 CdefWindow.twoBands
            (CdefWindow.twoBands.height4x4 * i))).reverse)
          (fun _ _ _ _ => 0) (fun _ => 0) (.frame plane y x) = result.2 (.frame plane y x) :=
  ⟨by decide, fun _ _ => List.reverse_perm _, .inl rfl,
    applyCdef_eq_superBlockRows PostFilter.ramp16x200 Dsp.verticalMean CdefWindow.twoBands (by decide)
      (fun _ _ => List.reverse_perm _) (fun _ _ _ _ => 0) (.inl rfl) (fun _ => 0, fun _ => 0)⟩

/-- What the superblock-row calls have left after any number of them. Without a thread pool,
once the first `k` calls `ApplyCdefForOneSuperBlockRow(n·sb4x4, sb4x4, n = K - 1)` of a frame
have run, which they do without failing an assertion, `cdef_buffer_` holds the final CDEF
output at every sample of the 4x4 rows they have finished (all but the last two rows above
the next call's first row, or the whole frame after the last call) and what it held before
everywhere else. -/
theorem applyCdefSuperBlockRows_prefix (pf : PostFilter) (dsp : Dsp) {stride : Nat}
    (hS : 64 + 2 * kCdefBorder ≤ stride) {sb4x4 : Nat} (hsb : sb4x4 = 16 ∨ sb4x4 = 32) {k : Nat}
    (hk : k ≤ superBlockRowCount pf.rows4x4 sb4x4) (st : (Nat → Nat) × (CdefAddr → Nat)) :
    ∃ result, (List.range k).foldlM (fun st n => applyCdefForOneSuperBlockRow pf dsp stride
        (n * sb4x4) sb4x4 (n == superBlockRowCount pf.rows4x4 sb4x4 - 1) st) st = some result ∧
      (∀ a, frameRows pf 0 (finishedRows4x4 pf.rows4x4 sb4x4 k) a →
        result.2 a = frameReference pf dsp a) ∧
      ∀ a, ¬frameRows pf 0 (finishedRows4x4 pf.rows4x4 sb4x4 k) a → result.2 a = st.2 a := by
  obtain ⟨strips, hrun, hstrips⟩ := superBlockRows_prefix_runStrips pf dsp stride hsb hk st
  have hwrites := runStrips_overwrites pf dsp hS hstrips (finishedRows4x4_le (by omega) hk) st.1
  exact ⟨_, hrun, hwrites.hit st.2, hwrites.miss st.2⟩

theorem applyCdefSuperBlockRows_prefix_ramp16x200 :
    64 + 2 * kCdefBorder ≤ 70 ∧ (16 = 16 ∨ 16 = 32) ∧
    2 ≤ superBlockRowCount PostFilter.ramp16x200.rows4x4 16 ∧
    ∃ result, (List.range 2).foldlM (fun st n => applyCdefForOneSuperBlockRow
        PostFilter.ramp16x200 Dsp.verticalMean 70 (n * 16) 16
        (n == superBlockRowCount PostFilter.ramp16x200.rows4x4 16 - 1) st)
        (fun _ => 0, fun _ => 0) = some result ∧
      (∀ a, frameRows PostFilter.ramp16x200 0
          (finishedRows4x4 PostFilter.ramp16x200.rows4x4 16 2) a →
        result.2 a = frameReference PostFilter.ramp16x200 Dsp.verticalMean a) ∧
      ∀ a, ¬frameRows PostFilter.ramp16x200 0
          (finishedRows4x4 PostFilter.ramp16x200.rows4x4 16 2) a →
        result.2 a = 0 :=
  ⟨by decide, .inl rfl, by decide,
    applyCdefSuperBlockRows_prefix PostFilter.ramp16x200 Dsp.verticalMean (by decide) (.inl rfl)
      (by decide) (fun _ => 0, fun _ => 0)⟩

/-! ## What CDEF reads -/

namespace PostFilter

/-- The source samples CDEF reads for sample `(y, x)` of plane `plane`: in that plane, those
within `kCdefBorder` of the sample's block, which the filter and the unfiltered copy read; in
the luma plane, the 8x8 block at the same place, from which the direction and the variance are
computed. -/
def cdefReads (pf : PostFilter) (plane y x : Nat) (q : Nat) (y' x' : Int) : Prop :=
  let blockHeight := 8 >>> pf.subsamplingY plane
  let blockWidth := 8 >>> pf.subsamplingX plane
  (q = plane ∧
    ((y / blockHeight * blockHeight : Nat) : Int) - kCdefBorder ≤ y' ∧
    y' < ((y / blockHeight * blockHeight + blockHeight + kCdefBorder : Nat) : Int) ∧
    ((x / blockWidth * blockWidth : Nat) : Int) - kCdefBorder ≤ x' ∧
    x' < ((x / blockWidth * blockWidth + blockWidth + kCdefBorder : Nat) : Int)) ∨
  (q = 0 ∧
    ((8 * (y / blockHeight) : Nat) : Int) ≤ y' ∧ y' < ((8 * (y / blockHeight) + 8 : Nat) : Int) ∧
    ((8 * (x / blockWidth) : Nat) : Int) ≤ x' ∧ x' < ((8 * (x / blockWidth) + 8 : Nat) : Int))

end PostFilter

/-- The first sample of the block holding sample `n`, in a plane subsampled by `s`. -/
theorem blockStart_shift {s : Nat} (hs : s ≤ 1) (n : Nat) :
    (4 * (2 * (n / (8 >>> s)))) >>> s = n / (8 >>> s) * (8 >>> s) := by
  rcases (by omega : s = 0 ∨ s = 1) with rfl | rfl <;>
    simp only [Nat.shiftRight_zero, Nat.shiftRight_one] <;> omega

/-- The reference output at a sample is the same for every source that agrees with the frame's
on the samples CDEF reads for it. -/
theorem cdefReference_reads (pf : PostFilter) (dsp : Dsp) {source : Nat → Int → Int → Nat}
    {plane y x : Nat}
    (hagree : ∀ q y' x', pf.cdefReads plane y x q y' x' → source q y' x' = pf.source q y' x') :
    PostFilter.cdefReference { pf with source := source } dsp plane y x =
      pf.cdefReference dsp plane y x := by
  have hsy := blockStart_shift (pf.subsamplingY_le plane) y
  have hsx := blockStart_shift (pf.subsamplingX_le plane) x
  have hmy := Nat.div_add_mod' y (8 >>> pf.subsamplingY plane)
  have hmx := Nat.div_add_mod' x (8 >>> pf.subsamplingX plane)
  have hly : y % (8 >>> pf.subsamplingY plane) < 8 >>> pf.subsamplingY plane :=
    Nat.mod_lt _ (by rcases pf.subsamplingY_cases plane with h | h <;> simp [h])
  have hlx : x % (8 >>> pf.subsamplingX plane) < 8 >>> pf.subsamplingX plane :=
    Nat.mod_lt _ (by rcases pf.subsamplingX_cases plane with h | h <;> simp [h])
  simp only [PostFilter.cdefReads] at hagree
  show PostFilter.cdefBlock { pf with source := source } dsp plane
      (2 * (y / (8 >>> pf.subsamplingY plane))) (2 * (x / (8 >>> pf.subsamplingX plane))) _ _ =
    pf.cdefBlock dsp plane (2 * (y / (8 >>> pf.subsamplingY plane)))
      (2 * (x / (8 >>> pf.subsamplingX plane))) _ _
  generalize y / (8 >>> pf.subsamplingY plane) = qy at *
  generalize x / (8 >>> pf.subsamplingX plane) = qx at *
  have hdir : PostFilter.directionBlock { pf with source := source } (4 * (2 * qy))
      (4 * (2 * qx)) = pf.directionBlock (4 * (2 * qy)) (4 * (2 * qx)) :=
    funext fun i => funext fun j => by
      simp only [PostFilter.directionBlock]
      split
      · exact hagree 0 _ _ (.inr ⟨rfl, by omega, by omega, by omega, by omega⟩)
      · rfl
  have hneighbourhood : PostFilter.neighbourhood { pf with source := source } plane (2 * qy)
      (2 * qx) = pf.neighbourhood plane (2 * qy) (2 * qx) :=
    funext fun i => funext fun j => by
      simp only [PostFilter.neighbourhood]
      split
      · exact available_source fun _ _ =>
          hagree plane _ _ (.inl ⟨rfl, by omega, by omega, by omega, by omega⟩)
      · rfl
  have hunfiltered := hagree plane
    (((4 * (2 * qy)) >>> pf.subsamplingY plane + y % (8 >>> pf.subsamplingY plane) : Nat) : Int)
    (((4 * (2 * qx)) >>> pf.subsamplingX plane + x % (8 >>> pf.subsamplingX plane) : Nat) : Int)
    (.inl ⟨rfl, by omega, by omega, by omega, by omega⟩)
  simp only [PostFilter.cdefBlock, PostFilter.cdefStrengths, PostFilter.allSkip, hdir,
    hneighbourhood]
  rw [hunfiltered]

/-- What CDEF reads. With a thread pool, whatever the window buffer's size, the order the
bands run in and their scratch contents, the value `ApplyCdef` leaves at a sample of
`cdef_buffer_` depends only on the source samples within `kCdefBorder` of the sample's block in
its plane and on the 8x8 luma block at the same place: two sources that agree there leave the
same value, whatever they hold elsewhere. -/
theorem applyCdef_reads (pf : PostFilter) (dsp : Dsp) (w : CdefWindow) {stride : Nat}
    (hS : 64 + 2 * kCdefBorder ≤ stride) {order : Nat → Nat → List Nat}
    (horder : ∀ i j, (order i j).Perm (List.range (verticalUnitsPerWindow pf w (w.height4x4 * i))))
    (scratch : Nat → Nat → Nat → Nat → Nat) (mem : CdefAddr → Nat)
    {source : Nat → Int → Int → Nat} {plane y x : Nat}
    (hagree : ∀ q y' x', pf.cdefReads plane y x q y' x' → source q y' x' = pf.source q y' x') :
    applyCdef { pf with source := source } dsp w stride order scratch mem (.frame plane y x) =
      applyCdef pf dsp w stride order scratch mem (.frame plane y x) := by
  rw [applyCdef_frameOutput { pf with source := source } dsp w hS horder,
    applyCdef_frameOutput pf dsp w hS horder]
  show (if plane < pf.planes ∧ y < pf.gridHeight plane ∧ x < pf.gridWidth plane then
      PostFilter.cdefReference { pf with source := source } dsp plane y x
    else mem (.frame plane y x)) = frameOutput pf dsp mem plane y x
  unfold frameOutput
  split_ifs
  · exact cdefReference_reads pf dsp hagree
  · rfl

theorem applyCdef_reads_ramp16x200 :
    64 + 2 * kCdefBorder ≤ 70 ∧
    (∀ i (_ : Nat), (List.range (verticalUnitsPerWindow PostFilter.ramp16x200 CdefWindow.twoBands
      (CdefWindow.twoBands.height4x4 * i))).reverse.Perm
        (List.range (verticalUnitsPerWindow PostFilter.ramp16x200 CdefWindow.twoBands
          (CdefWindow.twoBands.height4x4 * i)))) ∧
    (∀ q y' x', PostFilter.ramp16x200.cdefReads 1 50 3 q y' x' →
      (if y' < 40 then 7 else PostFilter.ramp16x200.source q y' x') =
        PostFilter.ramp16x200.source q y' x') ∧
    applyCdef { PostFilter.ramp16x200 with
        source := fun q y' x' => if y' < 40 then 7 else PostFilter.ramp16x200.source q y' x' }
      Dsp.verticalMean CdefWindow.twoBands 70
      (fun i _ => (List.range (verticalUnitsPerWindow PostFilter.ramp16x200 CdefWindow.twoBands
        (CdefWindow.twoBands.height4x4 * i))).reverse)
      (fun _ _ _ _ => 0) (fun _ => 0) (.frame 1 50 3) =
    applyCdef PostFilter.ramp16x200 Dsp.verticalMean CdefWindow.twoBands 70
      (fun i _ => (List.range (verticalUnitsPerWindow PostFilter.ramp16x200 CdefWindow.twoBands
        (CdefWindow.twoBands.height4x4 * i))).reverse)
      (fun _ _ _ _ => 0) (fun _ => 0) (.frame 1 50 3) :=
  have hagree : ∀ q y' x', PostFilter.ramp16x200.cdefReads 1 50 3 q y' x' →
      (if y' < 40 then 7 else PostFilter.ramp16x200.source q y' x') =
        PostFilter.ramp16x200.source q y' x' := fun q y' x' h => if_neg (by
    simp only [PostFilter.cdefReads, PostFilter.ramp16x200, kCdefBorder, min_self, Nat.reduceShiftRight] at h
    omega)
  ⟨by decide, fun _ _ => List.reverse_perm _, hagree,
    applyCdef_reads PostFilter.ramp16x200 Dsp.verticalMean CdefWindow.twoBands (by decide)
      (fun _ _ => List.reverse_perm _) (fun _ _ _ _ => 0) (fun _ => 0) hagree⟩

end Libgav1
