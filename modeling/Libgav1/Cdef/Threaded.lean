/-
# The threaded driver

With a thread pool, `ApplyCdefThreaded` filters the frame window by window, in raster
order. A window is `window_buffer_width_ × window_buffer_height_` luma samples, both
multiples of 64; its 64-row bands are independent jobs, some scheduled on the pool and
the rest run on the calling thread, each band filtering its units with its own scratch
block into the window buffer `threaded_window_buffer_`. After the barrier the window is
copied, plane by plane, into `cdef_buffer_`.

The band jobs of a window may run in any order: the model takes the order as a
parameter, with any contents for each job's uninitialized scratch block. The main
results: a band writes only its own rows of each plane's slice of the window buffer,
reads neither buffer, and the copy-back writes exactly the window's part of the grid, the
windows partitioning it (`applyCdefThreaded_windowWrites`); and for every order of the
bands, `ApplyCdefThreaded` leaves the reference CDEF output at every sample of the grid
(`applyCdefThreaded_reference`). Both rest on `applyCdefForOneUnit_overwrites`: the
window buffer holds, at each address a band writes, the reference output of the frame
sample the address stands for in the current window.
-/

import Libgav1.Cdef.SuperBlockRow

namespace Libgav1

namespace CdefWindow

variable (w : CdefWindow)

/-- Samples of one plane of the window buffer, `window_buffer_plane_size` in samples. -/
def planeSize : Nat := w.windowBufferWidth * w.windowBufferHeight

/-- `window_buffer_height4x4`: the window's height in 4x4 rows. -/
def height4x4 : Nat := w.windowBufferHeight / 4

/-- The window's width in 4x4 columns, `DivideBy4(window_buffer_width_)`. -/
def width4x4 : Nat := w.windowBufferWidth / 4

/-- The window is a whole number of 64-sample units high and wide, and at least one. -/
theorem height4x4_mod : w.height4x4 % 16 = 0 := by
  have := w.height_mod; simp only [height4x4]; omega

theorem width4x4_mod : w.width4x4 % 16 = 0 := by
  have := w.width_mod; simp only [width4x4]; omega

theorem height4x4_pos : 0 < w.height4x4 := by
  have := w.height_mod; have := w.height_pos; simp only [height4x4]; omega

/-- A block of 64 rows that starts inside the window ends inside it: the window's height is a
multiple of 64. -/
theorem block_le_height {k : Nat} (hk : 16 * k < w.height4x4) :
    64 * (k + 1) ≤ w.windowBufferHeight := by
  have := w.height_mod; simp only [height4x4] at hk; omega

/-- A block of 64 columns that starts inside the window ends inside it. -/
theorem block_le_width {k : Nat} (hk : 16 * k < w.width4x4) :
    64 * (k + 1) ≤ w.windowBufferWidth := by
  have := w.width_mod; simp only [width4x4] at hk; omega

end CdefWindow

/-- A 64x128 window, two 64-row bands, with two worker threads: the pool takes one band of
each window and the calling thread the other, and a frame taller than 128 rows has a
window cut at its bottom. -/
def CdefWindow.twoBands : CdefWindow where
  windowBufferWidth := 64
  windowBufferHeight := 128
  numThreads := 2
  width_mod := rfl
  width_pos := by decide
  height_mod := rfl
  height_pos := by decide
  numThreads_pos := by decide

/-- `actual_window_height4x4`: the 4x4 rows of the window at `row4x4` inside the grid. -/
def actualWindowHeight4x4 (pf : PostFilter) (w : CdefWindow) (row4x4 : Nat) : Nat :=
  min w.height4x4 (pf.rows4x4 - row4x4)

/-- `vertical_units_per_window`: the number of 64-row bands of the window at `row4x4`,
`DivideBy16(actual_window_height4x4 + 15)`. -/
def verticalUnitsPerWindow (pf : PostFilter) (w : CdefWindow) (row4x4 : Nat) : Nat :=
  (actualWindowHeight4x4 pf w row4x4 + 15) / 16

/-- The unit calls of `ApplyCdefForOneRowInWindow(row4x4, column4x4_start)`: the 64-column
units of the band across the window, left to right, each as tall as the band and cut at
the grid's edges. -/
def applyCdefForOneRowInWindowCalls (pf : PostFilter) (w : CdefWindow) (row4x4 column4x4Start : Nat) :
    List UnitCall :=
  (List.range (forCount (min w.width4x4 (pf.columns4x4 - column4x4Start)) kStep64x64)).map fun k =>
    let column4x4 := column4x4Start + kStep64x64 * k
    { index := pf.cdefIndex (row4x4 / 16) (column4x4 / 16)
      blockWidth4x4 := min kStep64x64 (pf.columns4x4 - column4x4)
      blockHeight4x4 := min kStep64x64 (pf.rows4x4 - row4x4)
      row4x4 := row4x4
      column4x4 := column4x4 }

/-- `ApplyCdefForOneRowInWindow`: the band's units with the job's own scratch block
`cdef_block`, output to the window buffer. -/
def applyCdefForOneRowInWindow (pixel16 : Bool) (pf : PostFilter) (dsp : Dsp) (w : CdefWindow)
    (stride row4x4 column4x4Start : Nat) (st : (Nat → Nat) × (CdefAddr → Nat)) :
    (Nat → Nat) × (CdefAddr → Nat) :=
  (applyCdefForOneRowInWindowCalls pf w row4x4 column4x4Start).foldl
    (runUnit pixel16 pf dsp (some w) stride) st

/-- Modelled from the spec: `CopyPlane`, which is outside the excerpt, as the copy back of a
window's scratch contents into the frame buffer: `height` rows of `width` samples from the
window buffer at `src`, rows `srcStride` apart, to `cdef_buffer_` from `dst`, reading the
window buffer as `windowBuffer` holds it. -/
def copyPlane (windowBuffer : CdefAddr → Nat) (src srcStride width height : Nat) (dst : CdefAddr)
    (mem : CdefAddr → Nat) : CdefAddr → Nat :=
  writeBlock dst 0 width (fun i j => windowBuffer (.window (src + i * srcStride + j))) height mem

/-- The copy of the window at `(row4x4, column4x4)` into `cdef_buffer_` after the barrier,
plane by plane, cut at the grid's edges. The copies write only `cdef_buffer_`, so each
reads the window buffer as the bands left it, `windowBuffer`. -/
def copyBackWindow (pf : PostFilter) (w : CdefWindow) (row4x4 column4x4 : Nat)
    (windowBuffer mem : CdefAddr → Nat) : CdefAddr → Nat :=
  (List.range pf.planes).foldl (fun mem plane =>
    let planeRow := (4 * row4x4) >>> pf.subsamplingY plane
    let planeColumn := (4 * column4x4) >>> pf.subsamplingX plane
    let copyWidth := (4 * min (pf.columns4x4 - column4x4) w.width4x4) >>> pf.subsamplingX plane
    let copyHeight := (4 * min (pf.rows4x4 - row4x4) w.height4x4) >>> pf.subsamplingY plane
    copyPlane windowBuffer (plane * w.planeSize) w.windowBufferWidth copyWidth copyHeight
      (.frame plane planeRow planeColumn) mem) mem

/-- One window of `ApplyCdefThreaded`: the band jobs `ApplyCdefForOneRowInWindow(row4x4 +
16·b, column4x4)`, run in the order `order` (a permutation of the bands), band `b`
starting from the scratch contents `scratch b`; then the copy-back. -/
def applyCdefWindow (pixel16 : Bool) (pf : PostFilter) (dsp : Dsp) (w : CdefWindow)
    (stride row4x4 column4x4 : Nat) (order : List Nat) (scratch : Nat → Nat → Nat)
    (mem : CdefAddr → Nat) : CdefAddr → Nat :=
  let bands := order.foldl (fun mem b =>
    (applyCdefForOneRowInWindow pixel16 pf dsp w stride (row4x4 + kStep64x64 * b) column4x4
      (scratch b, mem)).2) mem
  copyBackWindow pf w row4x4 column4x4 bands bands

/-- `ApplyCdefThreaded`: the windows in raster order, window `(i, j)` at
`(i·window_buffer_height4x4, j·DivideBy4(window_buffer_width_))` running its bands in the
order `order i j` from scratch contents `scratch i j`. -/
def applyCdefThreaded (pixel16 : Bool) (pf : PostFilter) (dsp : Dsp) (w : CdefWindow)
    (stride : Nat) (order : Nat → Nat → List Nat) (scratch : Nat → Nat → Nat → Nat → Nat)
    (mem : CdefAddr → Nat) : CdefAddr → Nat :=
  (List.range (forCount pf.rows4x4 w.height4x4)).foldl (fun mem i =>
    (List.range (forCount pf.columns4x4 w.width4x4)).foldl (fun mem j =>
      applyCdefWindow pixel16 pf dsp w stride (w.height4x4 * i) (w.width4x4 * j) (order i j)
        (scratch i j) mem) mem) mem

/-! ### Window coordinates -/

/-- A window `n` windows of `extent` samples (a multiple of 64) from the frame's edge
starts, in every plane, at `n` times the plane's window extent. -/
theorem windowShift {extent : Nat} (hextent : extent % 64 = 0) {subsampling : Nat}
    (hsubsampling : subsampling ≤ 1) (n t : Nat) :
    (4 * (extent / 4 * n + t)) >>> subsampling = (extent >>> subsampling) * n + (4 * t) >>> subsampling := by
  obtain ⟨m, rfl⟩ := Nat.dvd_of_mod_eq_zero hextent
  rw [show 64 * m / 4 = 16 * m by omega]
  rcases (by omega : subsampling = 0 ∨ subsampling = 1) with rfl | rfl <;>
    simp only [Nat.shiftRight_zero, Nat.shiftRight_one]
  · simp only [Nat.mul_assoc]; omega
  · rw [show 64 * m / 2 = 32 * m by omega]; simp only [Nat.mul_assoc]; omega

/-- A position `t` 4x4 blocks into a window is at its own offset modulo the window. -/
theorem windowShift_mod {extent : Nat} (hextent : extent % 64 = 0) {subsampling : Nat}
    (hsubsampling : subsampling ≤ 1) (n : Nat) {t : Nat} (ht : 4 * t < extent) :
    (4 * (extent / 4 * n + t)) >>> subsampling % (extent >>> subsampling) = (4 * t) >>> subsampling := by
  rw [windowShift hextent hsubsampling, Nat.mul_add_mod, Nat.mod_eq_of_lt]
  rcases (by omega : subsampling = 0 ∨ subsampling = 1) with rfl | rfl <;>
    simp only [Nat.shiftRight_zero, Nat.shiftRight_one] <;> omega

theorem shiftRight_le_self (n s : Nat) : n >>> s ≤ n := by
  rw [Nat.shiftRight_eq_div_pow]; exact Nat.div_le_self _ _

/-- Positions in 4x4 blocks stay additive when shifted by a subsampling: they are even. -/
theorem shift_add {subsampling : Nat} (hsubsampling : subsampling ≤ 1) (a b : Nat) :
    (4 * (a + b)) >>> subsampling = (4 * a) >>> subsampling + (4 * b) >>> subsampling := by
  rcases (by omega : subsampling = 0 ∨ subsampling = 1) with rfl | rfl <;>
    simp only [Nat.shiftRight_zero, Nat.shiftRight_one] <;> omega

/-- An address of a plane's slice of a buffer of `rows × cols` samples a plane decodes to its
plane, row and column. -/
theorem slice_decode {rows cols plane r c : Nat} (hr : r < rows) (hc : c < cols) :
    (plane * (cols * rows) + r * cols + c) / (cols * rows) = plane ∧
      (plane * (cols * rows) + r * cols + c) % (cols * rows) / cols = r ∧
      (plane * (cols * rows) + r * cols + c) % (cols * rows) % cols = c := by
  have hoffset : r * cols + c < cols * rows :=
    calc r * cols + c < (r + 1) * cols := by rw [Nat.succ_mul]; omega
      _ ≤ rows * cols := Nat.mul_le_mul_right _ hr
      _ = cols * rows := Nat.mul_comm _ _
  have hpos : 0 < cols * rows := by omega
  have hindex : plane * (cols * rows) + r * cols + c = r * cols + c + cols * rows * plane := by
    rw [Nat.mul_comm (cols * rows)]; omega
  rw [hindex, Nat.add_mul_div_left _ _ hpos, Nat.div_eq_of_lt hoffset, Nat.zero_add,
    Nat.add_mul_mod_self_left, Nat.mod_eq_of_lt hoffset, Nat.add_comm,
    Nat.add_mul_div_right _ _ (by omega), Nat.div_eq_of_lt hc, Nat.zero_add,
    Nat.add_mul_mod_self_right, Nat.mod_eq_of_lt hc]
  exact ⟨rfl, rfl, rfl⟩

/-- The reference output for the window at `(row4x4, column4x4)`: at a sample of
`cdef_buffer_` the reference there, and at an address of the window buffer the reference
at the frame sample the address stands for in this window. -/
def windowReference (pf : PostFilter) (dsp : Dsp) (w : CdefWindow) (row4x4 column4x4 : Nat) :
    CdefAddr → Nat
  | .frame plane y x => pf.cdefReference dsp plane y x
  | .window offset =>
    let plane := offset / w.planeSize
    let position := offset % w.planeSize
    pf.cdefReference dsp plane ((4 * row4x4) >>> pf.subsamplingY plane + position / w.windowBufferWidth)
      ((4 * column4x4) >>> pf.subsamplingX plane + position % w.windowBufferWidth)

theorem windowReference_window (pf : PostFilter) (dsp : Dsp) (w : CdefWindow) (row4x4 column4x4 : Nat)
    {plane r c : Nat} (hr : r < w.windowBufferHeight) (hc : c < w.windowBufferWidth) :
    windowReference pf dsp w row4x4 column4x4 (.window (plane * w.planeSize + r * w.windowBufferWidth + c)) =
      pf.cdefReference dsp plane ((4 * row4x4) >>> pf.subsamplingY plane + r)
        ((4 * column4x4) >>> pf.subsamplingX plane + c) := by
  obtain ⟨hplane, hrow, hcolumn⟩ := @slice_decode _ _ plane _ _ hr hc
  simp only [windowReference, CdefWindow.planeSize, hplane, hrow, hcolumn]

/-- With a thread pool, a unit's output is its rectangle in each plane's slice of the window
buffer, at its position modulo the window. -/
theorem unitRegion_some (pf : PostFilter) (w : CdefWindow) (u : UnitCall) (a : CdefAddr) :
    unitRegion pf (some w) u a ↔ ∃ plane < pf.planes,
      ∃ i < (4 * u.blockHeight4x4) >>> pf.subsamplingY plane,
      ∃ j < (4 * u.blockWidth4x4) >>> pf.subsamplingX plane,
      a = .window (plane * w.planeSize +
        ((4 * u.row4x4) >>> pf.subsamplingY plane % (w.windowBufferHeight >>> pf.subsamplingY plane) + i) *
          w.windowBufferWidth +
        ((4 * u.column4x4) >>> pf.subsamplingX plane % (w.windowBufferWidth >>> pf.subsamplingX plane) + j)) := by
  have hoffset : ∀ base r c i j : Nat,
      base + r * w.windowBufferWidth + c + i * w.windowBufferWidth + j =
        base + (r + i) * w.windowBufferWidth + (c + j) := fun base r c i j => by
    rw [Nat.add_mul]; omega
  simp only [unitRegion, unitDestination, getCdefBufferAndStride, blockRegion, CdefAddr.offset,
    CdefWindow.planeSize, hoffset]
  constructor
  · rintro ⟨plane, hplane, i, hi, j, hj, rfl⟩; exact ⟨plane, hplane, i, hi, j, hj, rfl⟩
  · rintro ⟨plane, hplane, i, hi, j, hj, rfl⟩; exact ⟨plane, hplane, i, hi, j, hj, rfl⟩

/-- The addresses band `b` of the window at `(row4x4, column4x4)` writes: its units'
outputs in the window buffer. -/
def bandWrites (pf : PostFilter) (w : CdefWindow) (row4x4 column4x4 b : Nat) (a : CdefAddr) : Prop :=
  ∃ u ∈ applyCdefForOneRowInWindowCalls pf w (row4x4 + kStep64x64 * b) column4x4,
    unitRegion pf (some w) u a

section Band

variable {pf : PostFilter} {w : CdefWindow} {i j b : Nat}

/-- Band `b` of a window starts inside the window's part of the grid. -/
theorem band_lt {row4x4 : Nat} (hb : b < verticalUnitsPerWindow pf w row4x4) :
    16 * b < actualWindowHeight4x4 pf w row4x4 := by
  simp only [verticalUnitsPerWindow] at hb; omega

/-- A 64x64 cell of the grid, cut at the grid's edges, is a unit the drivers may pass. -/
theorem PostFilter.driverUnit_cell (pf : PostFilter) {row4x4 column4x4 : Nat}
    (hrow : row4x4 % 16 = 0) (hcolumn : column4x4 % 16 = 0) (hr : row4x4 < pf.rows4x4)
    (hc : column4x4 < pf.columns4x4) :
    pf.DriverUnit (min 16 (pf.columns4x4 - column4x4)) (min 16 (pf.rows4x4 - row4x4)) row4x4
      column4x4 := by
  have := pf.rows4x4_even; have := pf.columns4x4_even
  constructor <;> omega

/-- The calls of a band of a window of the pass are calls the drivers may make. -/
theorem applyCdefForOneRowInWindowCalls_valid
    (hb : b < verticalUnitsPerWindow pf w (w.height4x4 * i)) :
    ∀ u ∈ applyCdefForOneRowInWindowCalls pf w (w.height4x4 * i + kStep64x64 * b) (w.width4x4 * j),
      u.Valid pf := by
  have hrow16 : w.height4x4 * i % 16 = 0 := by
    rw [Nat.mul_mod, w.height4x4_mod, Nat.zero_mul, Nat.zero_mod]
  have hcolumn16 : w.width4x4 * j % 16 = 0 := by
    rw [Nat.mul_mod, w.width4x4_mod, Nat.zero_mul, Nat.zero_mod]
  have hrow : w.height4x4 * i + 16 * b < pf.rows4x4 := by
    have := band_lt hb; simp only [actualWindowHeight4x4] at this; omega
  simp only [applyCdefForOneRowInWindowCalls, kStep64x64, List.mem_map, List.mem_range]
  rintro _ ⟨k, hk, rfl⟩
  have := lt_of_lt_forCount (by decide) hk
  exact ⟨pf.driverUnit_cell (by omega) (by omega) hrow (by omega), rfl⟩

/-- Where a unit `t` 4x4 rows and `c` 4x4 columns into window `(i, j)` writes, the window's
reference output is the unit's reference output. -/
theorem windowReference_unitDestination (pf : PostFilter) (dsp : Dsp) (w : CdefWindow)
    {i j t c blockHeight4x4 blockWidth4x4 plane r c' : Nat}
    (ht : 4 * (t + blockHeight4x4) ≤ w.windowBufferHeight)
    (hc : 4 * (c + blockWidth4x4) ≤ w.windowBufferWidth)
    (hr : r < (4 * blockHeight4x4) >>> pf.subsamplingY plane)
    (hc' : c' < (4 * blockWidth4x4) >>> pf.subsamplingX plane) :
    windowReference pf dsp w (w.height4x4 * i) (w.width4x4 * j)
        ((unitDestination pf (some w) (w.height4x4 * i + t) (w.width4x4 * j + c) plane).1.offset
          (unitDestination pf (some w) (w.height4x4 * i + t) (w.width4x4 * j + c) plane).2 r c') =
      pf.cdefReference dsp plane ((4 * (w.height4x4 * i + t)) >>> pf.subsamplingY plane + r)
        ((4 * (w.width4x4 * j + c)) >>> pf.subsamplingX plane + c') := by
  have hH := w.height_mod; have hW := w.width_mod
  have hy := pf.subsamplingY_le plane; have hx := pf.subsamplingX_le plane
  have hpos : 0 < blockHeight4x4 ∧ 0 < blockWidth4x4 :=
    ⟨Nat.pos_of_ne_zero fun h => by simp [h] at hr, Nat.pos_of_ne_zero fun h => by simp [h] at hc'⟩
  have hrow := windowShift hH hy i t; have hrow₀ := windowShift hH hy i 0
  have hcolumn := windowShift hW hx j c; have hcolumn₀ := windowShift hW hx j 0
  simp only [CdefWindow.height4x4, CdefWindow.width4x4, Nat.add_zero] at hrow hrow₀ hcolumn hcolumn₀ ⊢
  simp only [unitDestination, getCdefBufferAndStride, CdefAddr.offset,
    windowShift_mod hH hy i (by omega : 4 * t < w.windowBufferHeight),
    windowShift_mod hW hx j (by omega : 4 * c < w.windowBufferWidth)]
  have hoffset : plane * (w.windowBufferWidth * w.windowBufferHeight) +
      (4 * t) >>> pf.subsamplingY plane * w.windowBufferWidth + (4 * c) >>> pf.subsamplingX plane +
      r * w.windowBufferWidth + c' =
      plane * w.planeSize + ((4 * t) >>> pf.subsamplingY plane + r) * w.windowBufferWidth +
        ((4 * c) >>> pf.subsamplingX plane + c') := by
    rw [Nat.add_mul, CdefWindow.planeSize]; omega
  have hbound : (4 * t) >>> pf.subsamplingY plane + r < w.windowBufferHeight ∧
      (4 * c) >>> pf.subsamplingX plane + c' < w.windowBufferWidth := by
    have hrows := shiftRight_le_self (4 * (t + blockHeight4x4)) (pf.subsamplingY plane)
    have hcolumns := shiftRight_le_self (4 * (c + blockWidth4x4)) (pf.subsamplingX plane)
    rw [shift_add hy] at hrows
    rw [shift_add hx] at hcolumns
    omega
  rw [hoffset, windowReference_window pf dsp w _ _ hbound.1 hbound.2, hrow, hrow₀, hcolumn, hcolumn₀]
  simp only [Nat.mul_zero, Nat.zero_shiftRight, Nat.add_zero, Nat.add_assoc]

/-- A band of a window of the pass writes, at each address of its units' outputs, the
reference output of the frame sample the address stands for, whatever its scratch held. -/
theorem applyCdefForOneRowInWindow_overwrites (pixel16 : Bool) (dsp : Dsp) {stride : Nat}
    (hS : 64 + 2 * kCdefBorder ≤ stride) (hb : b < verticalUnitsPerWindow pf w (w.height4x4 * i)) :
    ScratchOverwrites
      (applyCdefForOneRowInWindow pixel16 pf dsp w stride (w.height4x4 * i + kStep64x64 * b)
        (w.width4x4 * j))
      (bandWrites pf w (w.height4x4 * i) (w.width4x4 * j) b)
      (windowReference pf dsp w (w.height4x4 * i) (w.width4x4 * j)) := by
  refine ScratchOverwrites.foldl _ fun u hu => runUnit_overwrites pixel16 pf dsp (some w) hS
    (applyCdefForOneRowInWindowCalls_valid hb u hu) fun plane _ r hr c hc => ?_
  simp only [applyCdefForOneRowInWindowCalls, kStep64x64, List.mem_map, List.mem_range] at hu
  obtain ⟨k, hk, rfl⟩ := hu
  have hrows := w.block_le_height ((band_lt hb).trans_le (Nat.min_le_left _ _))
  have hcolumns := w.block_le_width
    ((lt_of_lt_forCount (by decide) hk).trans_le (Nat.min_le_left _ _))
  exact windowReference_unitDestination pf dsp w (by dsimp only; omega) (by dsimp only; omega) hr hc

/-- Band `b` of a window of the pass writes, in each plane's slice of the window buffer,
the rows of the band from window row `(64·b) >> ssy` and the columns of the window inside
the grid from column 0. -/
theorem bandWrites_iff (hb : b < verticalUnitsPerWindow pf w (w.height4x4 * i)) (a : CdefAddr) :
    bandWrites pf w (w.height4x4 * i) (w.width4x4 * j) b a ↔ ∃ plane < pf.planes, ∃ wy wx,
      a = .window (plane * w.planeSize + wy * w.windowBufferWidth + wx) ∧
      (64 * b) >>> pf.subsamplingY plane ≤ wy ∧
      wy < (64 * b) >>> pf.subsamplingY plane +
        (4 * min 16 (pf.rows4x4 - (w.height4x4 * i + 16 * b))) >>> pf.subsamplingY plane ∧
      wx < (4 * min w.width4x4 (pf.columns4x4 - w.width4x4 * j)) >>> pf.subsamplingX plane := by
  have hband : 4 * (16 * b) < w.windowBufferHeight := by
    have := w.block_le_height ((band_lt hb).trans_le (Nat.min_le_left _ _)); omega
  have hrow : ∀ plane, (4 * (w.height4x4 * i + 16 * b)) >>> pf.subsamplingY plane %
      (w.windowBufferHeight >>> pf.subsamplingY plane) = (64 * b) >>> pf.subsamplingY plane :=
    fun plane => by
      simp only [CdefWindow.height4x4]
      rw [windowShift_mod w.height_mod (pf.subsamplingY_le plane) i hband, show 4 * (16 * b) = 64 * b by omega]
  have hcolumn : ∀ plane k, 16 * k < w.width4x4 →
      (4 * (w.width4x4 * j + 16 * k)) >>> pf.subsamplingX plane %
        (w.windowBufferWidth >>> pf.subsamplingX plane) = (4 * (0 + 16 * k)) >>> pf.subsamplingX plane :=
    fun plane k hk => by
      simp only [CdefWindow.width4x4] at hk ⊢
      rw [windowShift_mod w.width_mod (pf.subsamplingX_le plane) j (by omega), Nat.zero_add]
  have hcover : ∀ plane x, x < (4 * min w.width4x4 (pf.columns4x4 - w.width4x4 * j)) >>>
        pf.subsamplingX plane ↔
      ∃ k < forCount (min w.width4x4 (pf.columns4x4 - w.width4x4 * j)) 16,
        (4 * (16 * k)) >>> pf.subsamplingX plane ≤ x ∧ x < (4 * (16 * k)) >>> pf.subsamplingX plane +
          (4 * min 16 (pf.columns4x4 - (w.width4x4 * j + 16 * k))) >>> pf.subsamplingX plane :=
    fun plane x => by
      have hlast : min w.width4x4 (pf.columns4x4 - w.width4x4 * j) % 16 = 0 ∨
          0 + min w.width4x4 (pf.columns4x4 - w.width4x4 * j) = pf.columns4x4 - w.width4x4 * j := by
        have := w.width4x4_mod; omega
      have := unitColumns_cover (pf.subsamplingX_le plane)
        (by omega : 0 + min w.width4x4 (pf.columns4x4 - w.width4x4 * j) ≤ pf.columns4x4 - w.width4x4 * j)
        hlast x
      simpa only [Nat.zero_add, Nat.mul_zero, Nat.zero_shiftRight, Nat.zero_le, true_and,
        Nat.sub_sub] using this
  simp only [bandWrites, applyCdefForOneRowInWindowCalls, kStep64x64, List.mem_map, List.mem_range,
    exists_exists_and_eq_and, unitRegion_some, hrow]
  constructor
  · rintro ⟨k, hk, plane, hplane, r, hr, c, hc, rfl⟩
    have hk' := lt_of_lt_forCount (by decide) hk
    rw [hcolumn plane k (by omega), Nat.zero_add]
    exact ⟨plane, hplane, _, _, rfl, Nat.le_add_right _ _, by omega,
      (hcover plane _).2 ⟨k, hk, Nat.le_add_right _ _, by omega⟩⟩
  · rintro ⟨plane, hplane, wy, wx, rfl, hwy, hwy', hwx⟩
    obtain ⟨k, hk, hkx, hkx'⟩ := (hcover plane wx).1 hwx
    have hk' := lt_of_lt_forCount (by decide) hk
    refine ⟨k, hk, plane, hplane, wy - (64 * b) >>> pf.subsamplingY plane, by omega,
      wx - (4 * (16 * k)) >>> pf.subsamplingX plane, by omega, ?_⟩
    rw [hcolumn plane k (by omega), Nat.zero_add, Nat.add_sub_cancel' hwy, Nat.add_sub_cancel' hkx]

/-- Band `b` writes only inside its rows of each plane's slice of the window buffer. -/
theorem bandWrites_slice (hb : b < verticalUnitsPerWindow pf w (w.height4x4 * i)) {a : CdefAddr}
    (h : bandWrites pf w (w.height4x4 * i) (w.width4x4 * j) b a) :
    ∃ plane < pf.planes, ∃ wy wx,
      a = .window (plane * w.planeSize + wy * w.windowBufferWidth + wx) ∧
      (64 * b) >>> pf.subsamplingY plane ≤ wy ∧ wy < (64 * (b + 1)) >>> pf.subsamplingY plane ∧
      wx < w.windowBufferWidth >>> pf.subsamplingX plane := by
  obtain ⟨plane, hplane, wy, wx, rfl, hwy, hwy', hwx⟩ := (bandWrites_iff hb a).1 h
  refine ⟨plane, hplane, wy, wx, rfl, hwy, ?_, ?_⟩
  · rcases pf.subsamplingY_cases plane with h | h <;>
      simp only [h, Nat.shiftRight_zero, Nat.shiftRight_one] at hwy hwy' ⊢ <;> omega
  · simp only [CdefWindow.width4x4] at hwx
    rcases pf.subsamplingX_cases plane with h | h <;>
      simp only [h, Nat.shiftRight_zero, Nat.shiftRight_one] at hwx ⊢ <;> omega

/-- The rows of a band lie inside the window. -/
theorem bandRows_lt (hb : b < verticalUnitsPerWindow pf w (w.height4x4 * i)) (plane : Nat) :
    (64 * (b + 1)) >>> pf.subsamplingY plane ≤ w.windowBufferHeight := by
  have := w.block_le_height ((band_lt hb).trans_le (Nat.min_le_left _ _))
  rcases pf.subsamplingY_cases plane with h | h <;>
    simp only [h, Nat.shiftRight_zero, Nat.shiftRight_one] <;> omega

/-- Two bands of a window write disjoint sets of addresses. -/
theorem bandWrites_disjoint {b' : Nat} (hb : b < verticalUnitsPerWindow pf w (w.height4x4 * i))
    (hb' : b' < verticalUnitsPerWindow pf w (w.height4x4 * i)) (hne : b' ≠ b) {a : CdefAddr}
    (h : bandWrites pf w (w.height4x4 * i) (w.width4x4 * j) b a) :
    ¬bandWrites pf w (w.height4x4 * i) (w.width4x4 * j) b' a := fun h' => by
  obtain ⟨plane, -, wy, wx, rfl, hwy, hwy', hwx⟩ := bandWrites_slice hb h
  obtain ⟨plane', -, wy', wx', heq, hwy₂, hwy₂', hwx'⟩ := bandWrites_slice hb' h'
  have hrows := bandRows_lt hb plane; have hrows' := bandRows_lt hb' plane'
  have hx : wx < w.windowBufferWidth := Nat.lt_of_lt_of_le hwx (shiftRight_le_self _ _)
  have hx' : wx' < w.windowBufferWidth := Nat.lt_of_lt_of_le hwx' (shiftRight_le_self _ _)
  obtain ⟨hp, hr, -⟩ := @slice_decode w.windowBufferHeight w.windowBufferWidth plane wy wx
    (by omega) hx
  obtain ⟨hp', hr', -⟩ := @slice_decode w.windowBufferHeight w.windowBufferWidth plane' wy' wx'
    (by omega) hx'
  simp only [CdefWindow.planeSize, CdefAddr.window.injEq] at heq
  rw [heq, hp'] at hp
  rw [heq, hr'] at hr
  rw [hp, hr] at hwy₂ hwy₂'
  rcases pf.subsamplingY_cases plane with h | h <;>
    simp only [h, Nat.shiftRight_zero, Nat.shiftRight_one] at hwy hwy' hwy₂ hwy₂' <;> omega

/-- A band writes only inside the window buffer. -/
theorem bandWrites_lt (hb : b < verticalUnitsPerWindow pf w (w.height4x4 * i)) {a : CdefAddr}
    (h : bandWrites pf w (w.height4x4 * i) (w.width4x4 * j) b a) :
    ∃ offset, a = .window offset ∧ offset < pf.planes * w.planeSize := by
  obtain ⟨plane, hplane, wy, wx, rfl, -, hwy', hwx⟩ := bandWrites_slice hb h
  have hrows := bandRows_lt hb plane
  have hx : wx < w.windowBufferWidth := Nat.lt_of_lt_of_le hwx (shiftRight_le_self _ _)
  refine ⟨_, rfl, ?_⟩
  calc plane * w.planeSize + wy * w.windowBufferWidth + wx
      < plane * w.planeSize + (wy + 1) * w.windowBufferWidth := by rw [Nat.succ_mul]; omega
    _ ≤ plane * w.planeSize + w.planeSize := by
      rw [CdefWindow.planeSize, Nat.mul_comm w.windowBufferWidth]
      exact Nat.add_le_add_left (Nat.mul_le_mul_right _ (by omega)) _
    _ = (plane + 1) * w.planeSize := (Nat.succ_mul _ _).symm
    _ ≤ pf.planes * w.planeSize := Nat.mul_le_mul_right _ hplane

end Band

/-! ### The copy-back and the windows -/

/-- A sample is in the `n`-th window of `extent` samples exactly when `n` is the quotient of
its position by the extent. -/
theorem window_index {extent y n : Nat} (hextent : 0 < extent) :
    extent * n ≤ y ∧ y < extent * n + extent ↔ y / extent = n := by
  constructor
  · rintro ⟨hlow, hhigh⟩
    exact Nat.div_eq_of_lt_le (by rw [Nat.mul_comm]; exact hlow)
      (by rw [Nat.succ_mul, Nat.mul_comm]; exact hhigh)
  · rintro rfl
    exact ⟨by rw [Nat.mul_comm]; exact Nat.div_mul_le_self y extent,
      by rw [Nat.mul_comm]; exact Nat.lt_div_mul_add hextent⟩

/-- One axis of a window: the `n`-th window of `extent` samples (a multiple of 64), cut at
the edge of a grid of `grid4x4` 4x4 blocks, holds exactly the grid's samples whose quotient
by the extent is `n`. -/
theorem windowAxis_iff {extent grid4x4 n subsampling y : Nat} (hextent : extent % 64 = 0)
    (hpos : 0 < extent) (hsubsampling : subsampling ≤ 1) :
    ((4 * (extent / 4 * n)) >>> subsampling ≤ y ∧
      y < (4 * (extent / 4 * n)) >>> subsampling +
        (4 * min (grid4x4 - extent / 4 * n) (extent / 4)) >>> subsampling) ↔
    y < (4 * grid4x4) >>> subsampling ∧ y / (extent >>> subsampling) = n := by
  have hshift := windowShift hextent hsubsampling n 0
  simp only [Nat.add_zero, Nat.mul_zero, Nat.zero_shiftRight] at hshift
  have hextent' : 0 < extent >>> subsampling := by
    rcases (by omega : subsampling = 0 ∨ subsampling = 1) with rfl | rfl <;>
      simp only [Nat.shiftRight_zero, Nat.shiftRight_one] <;> omega
  rw [← window_index hextent', ← hshift]
  obtain ⟨E, rfl⟩ : ∃ E, extent = 4 * E := ⟨extent / 4, by omega⟩
  rw [Nat.mul_div_cancel_left E (by decide : 0 < 4)]
  generalize E * n = start
  clear hshift hextent hextent' hpos
  rcases (by omega : subsampling = 0 ∨ subsampling = 1) with rfl | rfl <;>
    simp only [Nat.shiftRight_zero, Nat.shiftRight_one] <;> omega

/-- The samples of `cdef_buffer_` the copy-back of the window at `(row4x4, column4x4)`
writes: in each plane, the window's rectangle cut at the grid's edges. -/
def copyRegion (pf : PostFilter) (w : CdefWindow) (row4x4 column4x4 : Nat) : CdefAddr → Prop
  | .frame plane y x => plane < pf.planes ∧
      (4 * row4x4) >>> pf.subsamplingY plane ≤ y ∧
      y < (4 * row4x4) >>> pf.subsamplingY plane +
        (4 * min (pf.rows4x4 - row4x4) w.height4x4) >>> pf.subsamplingY plane ∧
      (4 * column4x4) >>> pf.subsamplingX plane ≤ x ∧
      x < (4 * column4x4) >>> pf.subsamplingX plane +
        (4 * min (pf.columns4x4 - column4x4) w.width4x4) >>> pf.subsamplingX plane
  | .window _ => False

/-- What the copy-back writes at a sample of `cdef_buffer_`: the window-buffer sample at
the sample's position in the window. -/
def copyValue (pf : PostFilter) (w : CdefWindow) (row4x4 column4x4 : Nat)
    (windowBuffer : CdefAddr → Nat) : CdefAddr → Nat
  | .frame plane y x => windowBuffer (.window (plane * w.planeSize +
      (y - (4 * row4x4) >>> pf.subsamplingY plane) * w.windowBufferWidth +
      (x - (4 * column4x4) >>> pf.subsamplingX plane)))
  | .window _ => 0

/-- The copy-back writes the window's samples into the window's part of the grid, and
nothing else. -/
theorem copyBackWindow_overwrites (pf : PostFilter) (w : CdefWindow) (row4x4 column4x4 : Nat)
    (windowBuffer : CdefAddr → Nat) :
    Overwrites (copyBackWindow pf w row4x4 column4x4 windowBuffer)
      (copyRegion pf w row4x4 column4x4) (copyValue pf w row4x4 column4x4 windowBuffer) := by
  have hplanes : ∀ plane ∈ List.range pf.planes, Overwrites (fun mem =>
      copyPlane windowBuffer (plane * w.planeSize) w.windowBufferWidth
        ((4 * min (pf.columns4x4 - column4x4) w.width4x4) >>> pf.subsamplingX plane)
        ((4 * min (pf.rows4x4 - row4x4) w.height4x4) >>> pf.subsamplingY plane)
        (.frame plane ((4 * row4x4) >>> pf.subsamplingY plane) ((4 * column4x4) >>> pf.subsamplingX plane))
        mem)
      (blockRegion (.frame plane ((4 * row4x4) >>> pf.subsamplingY plane)
        ((4 * column4x4) >>> pf.subsamplingX plane)) 0
        ((4 * min (pf.rows4x4 - row4x4) w.height4x4) >>> pf.subsamplingY plane)
        ((4 * min (pf.columns4x4 - column4x4) w.width4x4) >>> pf.subsamplingX plane))
      (copyValue pf w row4x4 column4x4 windowBuffer) := fun plane _ =>
    writeBlock_overwrites _ _ _ _ _ fun i _ j _ => by
      simp only [copyValue, CdefAddr.offset, Nat.add_sub_cancel_left]
  refine (Overwrites.foldl _ hplanes).congr_region fun a => ?_
  cases a with
  | window => simp [blockRegion_frame, copyRegion]
  | frame plane y x =>
    simp only [List.mem_range, blockRegion_frame, CdefAddr.frame.injEq, copyRegion]
    constructor
    · rintro ⟨plane, hplane, y, x, ⟨rfl, rfl, rfl⟩, h⟩; exact ⟨hplane, h⟩
    · rintro ⟨hplane, h⟩; exact ⟨plane, hplane, y, x, ⟨rfl, rfl, rfl⟩, h⟩

section Window

variable {pf : PostFilter} {w : CdefWindow} {i j : Nat}

/-- The copy-back of window `(i, j)` writes, in each plane, exactly the samples of the grid
in the window: those whose quotients by the plane's window extents are `i` and `j`. -/
theorem copyRegion_iff (plane y x : Nat) :
    copyRegion pf w (w.height4x4 * i) (w.width4x4 * j) (.frame plane y x) ↔
      plane < pf.planes ∧ y < pf.gridHeight plane ∧ x < pf.gridWidth plane ∧
      y / (w.windowBufferHeight >>> pf.subsamplingY plane) = i ∧
      x / (w.windowBufferWidth >>> pf.subsamplingX plane) = j := by
  have hrow := @windowAxis_iff _ pf.rows4x4 i _ y w.height_mod w.height_pos (pf.subsamplingY_le plane)
  have hcolumn := @windowAxis_iff _ pf.columns4x4 j _ x w.width_mod w.width_pos
    (pf.subsamplingX_le plane)
  simp only [copyRegion, CdefWindow.height4x4, CdefWindow.width4x4, PostFilter.gridHeight,
    PostFilter.gridWidth]
  constructor
  · rintro ⟨hplane, hy, hy', hx, hx'⟩
    obtain ⟨hy, hi⟩ := hrow.1 ⟨hy, hy'⟩
    obtain ⟨hx, hj⟩ := hcolumn.1 ⟨hx, hx'⟩
    exact ⟨hplane, hy, hx, hi, hj⟩
  · rintro ⟨hplane, hy, hx, hi, hj⟩
    obtain ⟨hy, hy'⟩ := hrow.2 ⟨hy, hi⟩
    obtain ⟨hx, hx'⟩ := hcolumn.2 ⟨hx, hj⟩
    exact ⟨hplane, hy, hy', hx, hx'⟩

/-- A window's samples of the grid are all written by its bands: each stands at a window-buffer
address of a band of the window. -/
theorem copyRegion_bandWrites (hi : i < forCount pf.rows4x4 w.height4x4) {plane y x : Nat}
    (h : copyRegion pf w (w.height4x4 * i) (w.width4x4 * j) (.frame plane y x)) :
    ∃ b < verticalUnitsPerWindow pf w (w.height4x4 * i),
      bandWrites pf w (w.height4x4 * i) (w.width4x4 * j) b
        (.window (plane * w.planeSize +
          (y - (4 * (w.height4x4 * i)) >>> pf.subsamplingY plane) * w.windowBufferWidth +
          (x - (4 * (w.width4x4 * j)) >>> pf.subsamplingX plane))) := by
  have hH := w.height4x4_mod
  have hrow := lt_of_lt_forCount w.height4x4_pos hi
  obtain ⟨hplane, hy, hy', hx, hx'⟩ := h
  obtain ⟨b, hb, hlow, hhigh⟩ := (@unitColumns_cover _ (pf.subsamplingY_le plane)
    (pf.rows4x4 - w.height4x4 * i) 0 (actualWindowHeight4x4 pf w (w.height4x4 * i))
    (by simp only [actualWindowHeight4x4]; omega)
    (by simp only [actualWindowHeight4x4]; omega)
    (y - (4 * (w.height4x4 * i)) >>> pf.subsamplingY plane)).1
      ⟨by simp only [Nat.mul_zero, Nat.zero_shiftRight, Nat.zero_le],
        by rw [Nat.zero_add, actualWindowHeight4x4, Nat.min_comm]; omega⟩
  simp only [Nat.zero_add, Nat.sub_sub, show 4 * (16 * b) = 64 * b by omega] at hlow hhigh
  have hb' : b < verticalUnitsPerWindow pf w (w.height4x4 * i) := by
    simp only [verticalUnitsPerWindow, forCount] at hb ⊢; omega
  exact ⟨b, hb', (bandWrites_iff hb' _).2 ⟨plane, hplane, _, _, rfl, hlow, hhigh, by
    rw [Nat.min_comm]; omega⟩⟩

/-- The bands of a window, run in any order from any scratch contents, write the window's
reference output at the addresses they write. -/
theorem bands_overwrites (pixel16 : Bool) (dsp : Dsp) {stride : Nat}
    (hS : 64 + 2 * kCdefBorder ≤ stride) {order : List Nat}
    (horder : order.Perm (List.range (verticalUnitsPerWindow pf w (w.height4x4 * i))))
    (scratch : Nat → Nat → Nat) :
    Overwrites (fun mem => order.foldl (fun mem b =>
        (applyCdefForOneRowInWindow pixel16 pf dsp w stride (w.height4x4 * i + kStep64x64 * b)
          (w.width4x4 * j) (scratch b, mem)).2) mem)
      (fun a => ∃ b < verticalUnitsPerWindow pf w (w.height4x4 * i),
        bandWrites pf w (w.height4x4 * i) (w.width4x4 * j) b a)
      (windowReference pf dsp w (w.height4x4 * i) (w.width4x4 * j)) := by
  have hband : ∀ b ∈ order, Overwrites (fun mem =>
      (applyCdefForOneRowInWindow pixel16 pf dsp w stride (w.height4x4 * i + kStep64x64 * b)
        (w.width4x4 * j) (scratch b, mem)).2)
      (bandWrites pf w (w.height4x4 * i) (w.width4x4 * j) b)
      (windowReference pf dsp w (w.height4x4 * i) (w.width4x4 * j)) := fun b hb =>
    applyCdefForOneRowInWindow_overwrites pixel16 dsp hS (List.mem_range.1 (horder.mem_iff.1 hb))
      (scratch b)
  exact (Overwrites.foldl order hband).congr_region fun a => by
    simp only [horder.mem_iff, List.mem_range, exists_prop]

/-- A window of the pass writes, whatever order its bands run in and whatever their scratch
blocks held, the window's reference output at every address its bands or its copy-back
write: in particular the reference output at every sample of the grid in the window. -/
theorem applyCdefWindow_overwrites (pixel16 : Bool) (dsp : Dsp) {stride : Nat}
    (hS : 64 + 2 * kCdefBorder ≤ stride) (hi : i < forCount pf.rows4x4 w.height4x4)
    {order : List Nat}
    (horder : order.Perm (List.range (verticalUnitsPerWindow pf w (w.height4x4 * i))))
    (scratch : Nat → Nat → Nat) :
    Overwrites (applyCdefWindow pixel16 pf dsp w stride (w.height4x4 * i) (w.width4x4 * j) order scratch)
      (fun a => (∃ b < verticalUnitsPerWindow pf w (w.height4x4 * i),
          bandWrites pf w (w.height4x4 * i) (w.width4x4 * j) b a) ∨
        copyRegion pf w (w.height4x4 * i) (w.width4x4 * j) a)
      (windowReference pf dsp w (w.height4x4 * i) (w.width4x4 * j)) := by
  have hbands := bands_overwrites (j := j) pixel16 dsp hS horder scratch
  have hcopy := fun windowBuffer =>
    copyBackWindow_overwrites pf w (w.height4x4 * i) (w.width4x4 * j) windowBuffer
  constructor
  · intro mem a ha
    simp only [applyCdefWindow]
    by_cases hc : copyRegion pf w (w.height4x4 * i) (w.width4x4 * j) a
    · rw [(hcopy _).hit _ a hc]
      cases a with
      | window => exact hc.elim
      | frame plane y x =>
        have hband := copyRegion_bandWrites hi hc
        obtain ⟨hplane, hy, hy', hx, hx'⟩ := hc
        have hwy : y - (4 * (w.height4x4 * i)) >>> pf.subsamplingY plane < w.windowBufferHeight := by
          have := shiftRight_le_self (4 * min (pf.rows4x4 - w.height4x4 * i) w.height4x4)
            (pf.subsamplingY plane)
          simp only [CdefWindow.height4x4] at hy hy' this ⊢; omega
        have hwx : x - (4 * (w.width4x4 * j)) >>> pf.subsamplingX plane < w.windowBufferWidth := by
          have := shiftRight_le_self (4 * min (pf.columns4x4 - w.width4x4 * j) w.width4x4)
            (pf.subsamplingX plane)
          simp only [CdefWindow.width4x4] at hx hx' this ⊢; omega
        rw [copyValue, hbands.hit mem _ hband, windowReference_window pf dsp w _ _ hwy hwx,
          Nat.add_sub_cancel' hy, Nat.add_sub_cancel' hx]
        rfl
    · rw [(hcopy _).miss _ a hc]; exact hbands.hit mem a (ha.resolve_right hc)
  · intro mem a ha
    simp only [applyCdefWindow]
    rw [(hcopy _).miss _ a fun h => ha (.inr h), hbands.miss mem a fun h => ha (.inl h)]

/-- Addresses of `cdef_buffer_`. -/
def CdefAddr.InFrame : CdefAddr → Prop
  | .frame _ _ _ => True
  | .window _ => False

/-- `ApplyCdefThreaded`, whatever order the bands of each window run in and whatever their
scratch blocks held, writes the reference output at every sample of `cdef_buffer_` some
window's bands or copy-back write, and writes no other sample of it. -/
theorem applyCdefThreaded_overwritesOn (pixel16 : Bool) (dsp : Dsp) {stride : Nat}
    (hS : 64 + 2 * kCdefBorder ≤ stride) {order : Nat → Nat → List Nat}
    (horder : ∀ i j, (order i j).Perm (List.range (verticalUnitsPerWindow pf w (w.height4x4 * i))))
    (scratch : Nat → Nat → Nat → Nat → Nat) :
    OverwritesOn CdefAddr.InFrame (applyCdefThreaded pixel16 pf dsp w stride order scratch)
      (fun a => ∃ i ∈ List.range (forCount pf.rows4x4 w.height4x4),
        ∃ j ∈ List.range (forCount pf.columns4x4 w.width4x4),
          (∃ b < verticalUnitsPerWindow pf w (w.height4x4 * i),
            bandWrites pf w (w.height4x4 * i) (w.width4x4 * j) b a) ∨
          copyRegion pf w (w.height4x4 * i) (w.width4x4 * j) a)
      (frameReference pf dsp) :=
  OverwritesOn.foldl _ fun i hi => OverwritesOn.foldl _ fun j _ =>
    (applyCdefWindow_overwrites (j := j) pixel16 dsp hS (List.mem_range.1 hi) (horder i j)
      (scratch i j)).overwritesOn fun a hframe _ => by
        cases a with
        | window => exact hframe.elim
        | frame => rfl

end Window

/-- The scratch block a band job leaves depends on neither buffer. -/
theorem applyCdefForOneRowInWindow_fst (pixel16 : Bool) (pf : PostFilter) (dsp : Dsp)
    (w : CdefWindow) (stride row4x4 column4x4Start : Nat) (block : Nat → Nat)
    (mem mem' : CdefAddr → Nat) :
    (applyCdefForOneRowInWindow pixel16 pf dsp w stride row4x4 column4x4Start (block, mem)).1 =
      (applyCdefForOneRowInWindow pixel16 pf dsp w stride row4x4 column4x4Start (block, mem')).1 := by
  simp only [applyCdefForOneRowInWindow]
  generalize applyCdefForOneRowInWindowCalls pf w row4x4 column4x4Start = calls
  induction calls generalizing block mem mem' with
  | nil => rfl
  | cons u calls ih =>
    have hunit : (runUnit pixel16 pf dsp (some w) stride (block, mem) u).1 =
        (runUnit pixel16 pf dsp (some w) stride (block, mem') u).1 := by
      simp only [runUnit, applyCdefForOneUnit]; split <;> rfl
    simp only [List.foldl_cons]
    rw [show runUnit pixel16 pf dsp (some w) stride (block, mem) u =
        ((runUnit pixel16 pf dsp (some w) stride (block, mem) u).1,
          (runUnit pixel16 pf dsp (some w) stride (block, mem) u).2) from rfl, hunit]
    exact ih _ _ _

section Partition

variable {pf : PostFilter} {w : CdefWindow}

/-- Every sample of the grid is in the copy-back of exactly one window of the pass. -/
theorem copyRegion_partition {plane y x : Nat} (hplane : plane < pf.planes)
    (hy : y < pf.gridHeight plane) (hx : x < pf.gridWidth plane) :
    ∃! window : Nat × Nat, window.1 < forCount pf.rows4x4 w.height4x4 ∧
      window.2 < forCount pf.columns4x4 w.width4x4 ∧
      copyRegion pf w (w.height4x4 * window.1) (w.width4x4 * window.2) (.frame plane y x) := by
  have hH := w.height_mod; have hW := w.width_mod; have := w.height_pos; have := w.width_pos
  have hrow := windowShift hH (pf.subsamplingY_le plane) (y / (w.windowBufferHeight >>> pf.subsamplingY plane)) 0
  have hcolumn := windowShift hW (pf.subsamplingX_le plane) (x / (w.windowBufferWidth >>> pf.subsamplingX plane)) 0
  have hrow' := Nat.div_mul_le_self y (w.windowBufferHeight >>> pf.subsamplingY plane)
  have hcolumn' := Nat.div_mul_le_self x (w.windowBufferWidth >>> pf.subsamplingX plane)
  simp only [Nat.add_zero, Nat.mul_zero, Nat.zero_shiftRight] at hrow hcolumn
  rw [Nat.mul_comm] at hrow' hcolumn'
  refine ⟨(y / (w.windowBufferHeight >>> pf.subsamplingY plane),
      x / (w.windowBufferWidth >>> pf.subsamplingX plane)),
    ⟨lt_forCount (by simp only [CdefWindow.height4x4]; omega) ?_,
      lt_forCount (by simp only [CdefWindow.width4x4]; omega) ?_,
      (copyRegion_iff plane y x).2 ⟨hplane, hy, hx, rfl, rfl⟩⟩, ?_⟩
  · simp only [PostFilter.gridHeight, CdefWindow.height4x4] at hy hrow ⊢
    rcases pf.subsamplingY_cases plane with h | h <;>
      simp only [h, Nat.shiftRight_zero, Nat.shiftRight_one] at hy hrow hrow' ⊢ <;> omega
  · simp only [PostFilter.gridWidth, CdefWindow.width4x4] at hx hcolumn ⊢
    rcases pf.subsamplingX_cases plane with h | h <;>
      simp only [h, Nat.shiftRight_zero, Nat.shiftRight_one] at hx hcolumn hcolumn' ⊢ <;> omega
  · rintro ⟨i, j⟩ ⟨-, -, h⟩
    obtain ⟨-, -, -, hi, hj⟩ := (copyRegion_iff plane y x).1 h
    rw [hi, hj]

end Partition

/-- For every order the bands of each window run in and every contents of their scratch
blocks, `ApplyCdefThreaded` leaves in `cdef_buffer_`, at every sample of every plane inside
its 4x4 grid, the reference CDEF output. -/
theorem applyCdefThreaded_reference (pixel16 : Bool) (pf : PostFilter) (dsp : Dsp) (w : CdefWindow)
    {stride : Nat} (hS : 64 + 2 * kCdefBorder ≤ stride) {order : Nat → Nat → List Nat}
    (horder : ∀ i j, (order i j).Perm (List.range (verticalUnitsPerWindow pf w (w.height4x4 * i))))
    (scratch : Nat → Nat → Nat → Nat → Nat) (mem : CdefAddr → Nat) :
    ∀ plane < pf.planes, ∀ y < pf.gridHeight plane, ∀ x < pf.gridWidth plane,
      applyCdefThreaded pixel16 pf dsp w stride order scratch mem (.frame plane y x) =
        pf.cdefReference dsp plane y x := by
  intro plane hplane y hy x hx
  obtain ⟨⟨i, j⟩, ⟨hi, hj, hcopy⟩, -⟩ := copyRegion_partition (w := w) hplane hy hx
  exact (applyCdefThreaded_overwritesOn pixel16 dsp hS horder scratch).hit mem _ trivial
    ⟨i, List.mem_range.2 hi, j, List.mem_range.2 hj, .inr hcopy⟩

theorem applyCdefThreaded_reference_ramp16x200 :
    64 + 2 * kCdefBorder ≤ 70 ∧
    (∀ i (_ : Nat), (List.range (verticalUnitsPerWindow PostFilter.ramp16x200 CdefWindow.twoBands
      (CdefWindow.twoBands.height4x4 * i))).reverse.Perm
        (List.range (verticalUnitsPerWindow PostFilter.ramp16x200 CdefWindow.twoBands
          (CdefWindow.twoBands.height4x4 * i)))) ∧
    ∀ plane < PostFilter.ramp16x200.planes, ∀ y < PostFilter.ramp16x200.gridHeight plane,
      ∀ x < PostFilter.ramp16x200.gridWidth plane,
      applyCdefThreaded false PostFilter.ramp16x200 Dsp.verticalMean CdefWindow.twoBands 70
          (fun i _ => (List.range (verticalUnitsPerWindow PostFilter.ramp16x200 CdefWindow.twoBands
            (CdefWindow.twoBands.height4x4 * i))).reverse)
          (fun _ _ _ _ => 0) (fun _ => 0) (.frame plane y x) =
        PostFilter.ramp16x200.cdefReference Dsp.verticalMean plane y x :=
  ⟨by decide, fun _ _ => List.reverse_perm _,
    applyCdefThreaded_reference false PostFilter.ramp16x200 Dsp.verticalMean CdefWindow.twoBands
      (by decide) (fun _ _ => List.reverse_perm _) (fun _ _ _ _ => 0) (fun _ => 0)⟩

/-- In every window `(i, j)` of the pass, the job of band `b` writes, whatever its scratch
held, values that depend on neither buffer, and only at addresses of the window buffer in
the band's rows `[(64·b) >> ssy, (64·(b+1)) >> ssy)` and the columns
`[0, window_buffer_width_ >> ssx)` of each plane's slice; so the bands of a window write
disjoint sets of addresses, all inside the buffer. The copy-back after the barrier writes
exactly the window's samples of each plane's 4x4 grid, and these partition the grid. -/
theorem applyCdefThreaded_windowWrites (pixel16 : Bool) (pf : PostFilter) (dsp : Dsp)
    (w : CdefWindow) {stride : Nat} (hS : 64 + 2 * kCdefBorder ≤ stride) :
    (∀ i < forCount pf.rows4x4 w.height4x4, ∀ j < forCount pf.columns4x4 w.width4x4,
      ∀ b < verticalUnitsPerWindow pf w (w.height4x4 * i),
      ScratchOverwrites
        (applyCdefForOneRowInWindow pixel16 pf dsp w stride (w.height4x4 * i + kStep64x64 * b)
          (w.width4x4 * j))
        (bandWrites pf w (w.height4x4 * i) (w.width4x4 * j) b)
        (windowReference pf dsp w (w.height4x4 * i) (w.width4x4 * j)) ∧
      (∀ block mem mem',
        (applyCdefForOneRowInWindow pixel16 pf dsp w stride (w.height4x4 * i + kStep64x64 * b)
          (w.width4x4 * j) (block, mem)).1 =
        (applyCdefForOneRowInWindow pixel16 pf dsp w stride (w.height4x4 * i + kStep64x64 * b)
          (w.width4x4 * j) (block, mem')).1) ∧
      (∀ a, bandWrites pf w (w.height4x4 * i) (w.width4x4 * j) b a →
        ∃ plane < pf.planes, ∃ wy wx,
          a = .window (plane * w.planeSize + wy * w.windowBufferWidth + wx) ∧
          (64 * b) >>> pf.subsamplingY plane ≤ wy ∧ wy < (64 * (b + 1)) >>> pf.subsamplingY plane ∧
          wx < w.windowBufferWidth >>> pf.subsamplingX plane) ∧
      (∀ b' < verticalUnitsPerWindow pf w (w.height4x4 * i), b' ≠ b → ∀ a,
        bandWrites pf w (w.height4x4 * i) (w.width4x4 * j) b a →
        ¬bandWrites pf w (w.height4x4 * i) (w.width4x4 * j) b' a) ∧
      (∀ a, bandWrites pf w (w.height4x4 * i) (w.width4x4 * j) b a →
        ∃ offset, a = .window offset ∧ offset < pf.planes * w.planeSize)) ∧
    (∀ i j, ∀ windowBuffer : CdefAddr → Nat,
      Overwrites (copyBackWindow pf w (w.height4x4 * i) (w.width4x4 * j) windowBuffer)
        (copyRegion pf w (w.height4x4 * i) (w.width4x4 * j))
        (copyValue pf w (w.height4x4 * i) (w.width4x4 * j) windowBuffer) ∧
      (∀ offset, ¬copyRegion pf w (w.height4x4 * i) (w.width4x4 * j) (.window offset)) ∧
      ∀ plane y x, copyRegion pf w (w.height4x4 * i) (w.width4x4 * j) (.frame plane y x) ↔
        plane < pf.planes ∧ y < pf.gridHeight plane ∧ x < pf.gridWidth plane ∧
        y / (w.windowBufferHeight >>> pf.subsamplingY plane) = i ∧
        x / (w.windowBufferWidth >>> pf.subsamplingX plane) = j) ∧
    ∀ plane < pf.planes, ∀ y < pf.gridHeight plane, ∀ x < pf.gridWidth plane,
      ∃! window : Nat × Nat, window.1 < forCount pf.rows4x4 w.height4x4 ∧
        window.2 < forCount pf.columns4x4 w.width4x4 ∧
        copyRegion pf w (w.height4x4 * window.1) (w.width4x4 * window.2) (.frame plane y x) :=
  ⟨fun _ _ _ _ _ hb => ⟨applyCdefForOneRowInWindow_overwrites pixel16 dsp hS hb,
      applyCdefForOneRowInWindow_fst pixel16 pf dsp w stride _ _, fun _ => bandWrites_slice hb,
      fun _ hb' hne _ => bandWrites_disjoint hb hb' hne, fun _ => bandWrites_lt hb⟩,
    fun _ _ windowBuffer => ⟨copyBackWindow_overwrites pf w _ _ windowBuffer, fun _ => id,
      copyRegion_iff⟩,
    fun _ hplane _ hy _ hx => copyRegion_partition hplane hy hx⟩

theorem applyCdefThreaded_windowWrites_ramp16x200 :
    64 + 2 * kCdefBorder ≤ 70 ∧
    (∀ i < forCount PostFilter.ramp16x200.rows4x4 CdefWindow.twoBands.height4x4,
      ∀ j < forCount PostFilter.ramp16x200.columns4x4 CdefWindow.twoBands.width4x4,
      ∀ b < verticalUnitsPerWindow PostFilter.ramp16x200 CdefWindow.twoBands
        (CdefWindow.twoBands.height4x4 * i),
      ScratchOverwrites
        (applyCdefForOneRowInWindow false PostFilter.ramp16x200 Dsp.verticalMean CdefWindow.twoBands 70
          (CdefWindow.twoBands.height4x4 * i + kStep64x64 * b) (CdefWindow.twoBands.width4x4 * j))
        (bandWrites PostFilter.ramp16x200 CdefWindow.twoBands (CdefWindow.twoBands.height4x4 * i)
          (CdefWindow.twoBands.width4x4 * j) b)
        (windowReference PostFilter.ramp16x200 Dsp.verticalMean CdefWindow.twoBands
          (CdefWindow.twoBands.height4x4 * i) (CdefWindow.twoBands.width4x4 * j)) ∧
      (∀ block mem mem',
        (applyCdefForOneRowInWindow false PostFilter.ramp16x200 Dsp.verticalMean CdefWindow.twoBands 70
          (CdefWindow.twoBands.height4x4 * i + kStep64x64 * b) (CdefWindow.twoBands.width4x4 * j)
          (block, mem)).1 =
        (applyCdefForOneRowInWindow false PostFilter.ramp16x200 Dsp.verticalMean CdefWindow.twoBands 70
          (CdefWindow.twoBands.height4x4 * i + kStep64x64 * b) (CdefWindow.twoBands.width4x4 * j)
          (block, mem')).1) ∧
      (∀ a, bandWrites PostFilter.ramp16x200 CdefWindow.twoBands (CdefWindow.twoBands.height4x4 * i)
          (CdefWindow.twoBands.width4x4 * j) b a →
        ∃ plane < PostFilter.ramp16x200.planes, ∃ wy wx,
          a = .window (plane * CdefWindow.twoBands.planeSize +
            wy * CdefWindow.twoBands.windowBufferWidth + wx) ∧
          (64 * b) >>> PostFilter.ramp16x200.subsamplingY plane ≤ wy ∧
          wy < (64 * (b + 1)) >>> PostFilter.ramp16x200.subsamplingY plane ∧
          wx < CdefWindow.twoBands.windowBufferWidth >>> PostFilter.ramp16x200.subsamplingX plane) ∧
      (∀ b' < verticalUnitsPerWindow PostFilter.ramp16x200 CdefWindow.twoBands
          (CdefWindow.twoBands.height4x4 * i), b' ≠ b → ∀ a,
        bandWrites PostFilter.ramp16x200 CdefWindow.twoBands (CdefWindow.twoBands.height4x4 * i)
          (CdefWindow.twoBands.width4x4 * j) b a →
        ¬bandWrites PostFilter.ramp16x200 CdefWindow.twoBands (CdefWindow.twoBands.height4x4 * i)
          (CdefWindow.twoBands.width4x4 * j) b' a) ∧
      (∀ a, bandWrites PostFilter.ramp16x200 CdefWindow.twoBands (CdefWindow.twoBands.height4x4 * i)
          (CdefWindow.twoBands.width4x4 * j) b a →
        ∃ offset, a = .window offset ∧
          offset < PostFilter.ramp16x200.planes * CdefWindow.twoBands.planeSize)) ∧
    (∀ i j, ∀ windowBuffer : CdefAddr → Nat,
      Overwrites (copyBackWindow PostFilter.ramp16x200 CdefWindow.twoBands
          (CdefWindow.twoBands.height4x4 * i) (CdefWindow.twoBands.width4x4 * j) windowBuffer)
        (copyRegion PostFilter.ramp16x200 CdefWindow.twoBands (CdefWindow.twoBands.height4x4 * i)
          (CdefWindow.twoBands.width4x4 * j))
        (copyValue PostFilter.ramp16x200 CdefWindow.twoBands (CdefWindow.twoBands.height4x4 * i)
          (CdefWindow.twoBands.width4x4 * j) windowBuffer) ∧
      (∀ offset, ¬copyRegion PostFilter.ramp16x200 CdefWindow.twoBands
        (CdefWindow.twoBands.height4x4 * i) (CdefWindow.twoBands.width4x4 * j) (.window offset)) ∧
      ∀ plane y x, copyRegion PostFilter.ramp16x200 CdefWindow.twoBands
          (CdefWindow.twoBands.height4x4 * i) (CdefWindow.twoBands.width4x4 * j)
          (.frame plane y x) ↔
        plane < PostFilter.ramp16x200.planes ∧ y < PostFilter.ramp16x200.gridHeight plane ∧
        x < PostFilter.ramp16x200.gridWidth plane ∧
        y / (CdefWindow.twoBands.windowBufferHeight >>>
          PostFilter.ramp16x200.subsamplingY plane) = i ∧
        x / (CdefWindow.twoBands.windowBufferWidth >>>
          PostFilter.ramp16x200.subsamplingX plane) = j) ∧
    ∀ plane < PostFilter.ramp16x200.planes, ∀ y < PostFilter.ramp16x200.gridHeight plane,
      ∀ x < PostFilter.ramp16x200.gridWidth plane,
      ∃! window : Nat × Nat,
        window.1 < forCount PostFilter.ramp16x200.rows4x4 CdefWindow.twoBands.height4x4 ∧
        window.2 < forCount PostFilter.ramp16x200.columns4x4 CdefWindow.twoBands.width4x4 ∧
        copyRegion PostFilter.ramp16x200 CdefWindow.twoBands (CdefWindow.twoBands.height4x4 * window.1)
          (CdefWindow.twoBands.width4x4 * window.2) (.frame plane y x) :=
  ⟨by decide, applyCdefThreaded_windowWrites false PostFilter.ramp16x200 Dsp.verticalMean
    CdefWindow.twoBands (by decide)⟩

end Libgav1
