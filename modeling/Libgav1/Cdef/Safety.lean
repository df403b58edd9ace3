/-
# Memory safety of the CDEF drivers

`ApplyCdefForOneUnit` indexes `cdef_index_` and `block_parameters_` by its 4x4 position,
fills and reads the scratch block `cdef_block` plane slice by plane slice, and runs
do-while loops whose bodies execute before their tests. None of it checks its
arguments: the drivers' calls must keep every access in bounds and every loop count
positive.

`UnitCall.Safe` collects, for one call, what the code relies on: the index lookup and the
four `block_parameters_` entries of every 8x8 block lie in the grid, `PrepareCdefBlock`
writes and `cdef_filter` reads only the plane's slice of the scratch, and every do-while
loop runs its intended number of times. `UnitCall.Valid.safe` derives all of it from the
shape of the arguments, and `cdefDrivers_safe` shows that every call of both drivers has
that shape, the superblock driver's assertion `row4x4 >= 16` holding on the way.
-/

import Libgav1.Cdef.Threaded

namespace Libgav1

/-- Scratch address `a` is sample `(ρ, c)` of plane `plane`'s slice of `stride × stride`
samples. -/
def InSlice (stride plane a : Nat) : Prop :=
  ∃ ρ < stride, ∃ c < stride, a = plane * stride * stride + ρ * stride + c

/-- An address of a plane's slice lies between the slice's first and last samples. -/
theorem InSlice.bounds {stride plane a : Nat} (h : InSlice stride plane a) :
    plane * stride * stride ≤ a ∧ a < (plane + 1) * stride * stride := by
  obtain ⟨ρ, hρ, c, hc, rfl⟩ := h
  have := rowMajor_lt hρ hc
  rw [Nat.succ_mul, Nat.add_mul]
  omega

/-- A `CopyPixels` given a positive height copies that many rows. -/
theorem decrementLoopCount_of_pos {height : Nat} (h : 0 < height) :
    decrementLoopCount height = height :=
  if_neg (Nat.pos_iff_ne_zero.1 h)

/-- What one `ApplyCdefForOneUnit(index, block_width4x4, block_height4x4, row4x4_start,
column4x4_start)` call relies on, for a scratch block of `stride × stride` samples a
plane: the places it indexes and the counts of its loops. -/
structure UnitCall.Safe (pf : PostFilter) (stride : Nat) (u : UnitCall) : Prop where
  /-- The arguments are ones the drivers may pass. -/
  valid : u.Valid pf
  /-- `cdef_index_[DivideBy16(row4x4)][DivideBy16(column4x4)]` lies in the table of
  `⌈rows4x4 / 16⌉ × ⌈columns4x4 / 16⌉` cells. -/
  cdefIndex_lt : u.row4x4 / 16 < forCount pf.rows4x4 16 ∧
    u.column4x4 / 16 < forCount pf.columns4x4 16
  /-- The row and column do-while loops run exactly over the unit's 8x8 blocks. -/
  stepLoops : 2 * stepLoopCount u.blockHeight4x4 = u.blockHeight4x4 ∧
    2 * stepLoopCount u.blockWidth4x4 = u.blockWidth4x4
  /-- At iteration `(m, k)` of the loops, `bp0`, `bp0 + 1`, `bp1` and `bp1 + 1` are 4x4
  blocks of the grid, `bp1 + 1` the last of them in `block_parameters_`. -/
  blockParameters : ∀ m < stepLoopCount u.blockHeight4x4, ∀ k < stepLoopCount u.blockWidth4x4,
    ∀ dest cdefStride,
      let cur := unitCursorAt pf dest cdefStride u.row4x4 u.column4x4 m k
      cur.row4x4 + 1 < pf.rows4x4 ∧ cur.column4x4 + 1 < pf.columns4x4 ∧
        cur.bp1 + 1 < pf.rows4x4 * pf.columns4x4
  /-- `PrepareCdefBlock` changes nothing outside the plane's slice. -/
  prepareWrites : ∀ pixel16 block, ∀ plane < pf.planes, ∀ a,
    prepareCdefPlane pixel16 pf stride u.blockWidth4x4 u.blockHeight4x4 u.row4x4 u.column4x4
      block plane a ≠ block a → InSlice stride plane a
  /-- The body loop of `PrepareCdefBlock` runs once a row of the block, the bottom loop
  `kCdefBorder` times. -/
  prepareLoops : ∀ plane < pf.planes,
    let l := prepareLocals pf u.blockWidth4x4 u.blockHeight4x4 u.row4x4 u.column4x4 plane
    incrementLoopCount l.blockHeight = l.blockHeight ∧
      incrementLoopCount (kCdefBorder + l.unitHeight - l.blockHeight) = kCdefBorder
  /-- Every sample of the window `cdef_filter` reads around the block at iteration
  `(m, k)` lies in the plane's slice. -/
  filterWindow : ∀ plane < pf.planes, ∀ m < stepLoopCount u.blockHeight4x4,
    ∀ k < stepLoopCount u.blockWidth4x4, ∀ dest cdefStride,
    ∀ i < (8 >>> pf.subsamplingY plane) + 2 * kCdefBorder,
    ∀ j < (8 >>> pf.subsamplingX plane) + 2 * kCdefBorder,
      InSlice stride plane (cdefSource pf stride u.row4x4 u.column4x4
        (unitCursorAt pf dest cdefStride u.row4x4 u.column4x4 m k) plane -
          kCdefBorder * stride - kCdefBorder + i * stride + j)
  /-- Every `CopyPixels`, of the whole unit or of one 8x8 block, is given a positive
  height. -/
  copyHeights : ∀ plane < pf.planes,
    decrementLoopCount ((4 * u.blockHeight4x4) >>> pf.subsamplingY plane) =
        (4 * u.blockHeight4x4) >>> pf.subsamplingY plane ∧
      decrementLoopCount (8 >>> pf.subsamplingY plane) = 8 >>> pf.subsamplingY plane

namespace PostFilter.DriverUnit

variable {pf : PostFilter} {blockWidth4x4 blockHeight4x4 row4x4 column4x4 : Nat}
  (hu : pf.DriverUnit blockWidth4x4 blockHeight4x4 row4x4 column4x4)
include hu

theorem cdefIndex_lt :
    row4x4 / 16 < forCount pf.rows4x4 16 ∧ column4x4 / 16 < forCount pf.columns4x4 16 := by
  have := hu.bottom_le; have := hu.height_pos; have := hu.right_le; have := hu.width_pos
  exact ⟨lt_forCount (by decide) (by omega), lt_forCount (by decide) (by omega)⟩

/-- The 8x8 block at iteration `(m, k)` lies in the grid, and so does the last of its
4x4 blocks in row-major order. -/
theorem blockParameters_lt {m k : Nat} (hm : m < stepLoopCount blockHeight4x4)
    (hk : k < stepLoopCount blockWidth4x4) :
    row4x4 + 2 * m + 1 < pf.rows4x4 ∧ column4x4 + 2 * k + 1 < pf.columns4x4 ∧
      (row4x4 + 2 * m + 1) * pf.columns4x4 + (column4x4 + 2 * k) + 1 <
        pf.rows4x4 * pf.columns4x4 := by
  rw [hu.stepLoopCount_height] at hm; rw [hu.stepLoopCount_width] at hk
  have := hu.bottom_le; have := hu.right_le
  have hrow : row4x4 + 2 * m + 1 < pf.rows4x4 := by omega
  have hcolumn : column4x4 + 2 * k + 1 < pf.columns4x4 := by omega
  exact ⟨hrow, hcolumn, rowMajor_lt hrow hcolumn⟩

/-- What `PrepareCdefBlock` changes in a plane is a sample of the plane's slice: its
bordered block is at most `64 + 2·kCdefBorder` samples on a side. -/
theorem prepareCdefPlane_inSlice {stride : Nat} (hS : 64 + 2 * kCdefBorder ≤ stride)
    (pixel16 : Bool) (block : Nat → Nat) {plane a : Nat}
    (ha : prepareCdefPlane pixel16 pf stride blockWidth4x4 blockHeight4x4 row4x4 column4x4
      block plane a ≠ block a) :
    InSlice stride plane a := by
  refine Classical.byContradiction fun hout =>
    ha (Overwrites.miss (prepareCdefPlane_overwrites hu pixel16 hS plane) block a ?_)
  rintro ⟨ρ, hρ, j, hj, rfl⟩
  have hx := (axisFacts_x hu (rfl : prepareLocals pf blockWidth4x4 blockHeight4x4 row4x4
    column4x4 plane = _)).block_le
  have hy := (axisFacts_y hu (rfl : prepareLocals pf blockWidth4x4 blockHeight4x4 row4x4
    column4x4 plane = _)).block_le
  exact hout ⟨ρ, by omega, j, by omega, rfl⟩

/-- The window `cdef_filter` reads around the block at iteration `(m, k)`, `kCdefBorder`
samples beyond the block on each side, lies in the plane's slice. -/
theorem filterWindow_inSlice {stride : Nat} (hS : 64 + 2 * kCdefBorder ≤ stride)
    {plane m k : Nat} (hm : m < stepLoopCount blockHeight4x4)
    (hk : k < stepLoopCount blockWidth4x4) (dest : Nat → CdefAddr) (cdefStride : Nat → Nat)
    {i j : Nat} (hi : i < (8 >>> pf.subsamplingY plane) + 2 * kCdefBorder)
    (hj : j < (8 >>> pf.subsamplingX plane) + 2 * kCdefBorder) :
    InSlice stride plane (cdefSource pf stride row4x4 column4x4
      (unitCursorAt pf dest cdefStride row4x4 column4x4 m k) plane -
        kCdefBorder * stride - kCdefBorder + i * stride + j) := by
  rw [hu.stepLoopCount_height] at hm; rw [hu.stepLoopCount_width] at hk
  have := hu.height_le; have := hu.width_le
  simp only [cdefSource, unitCursorAt, Nat.add_sub_cancel_left]
  refine ⟨(4 * (2 * m)) >>> pf.subsamplingY plane + i, ?_,
    (4 * (2 * k)) >>> pf.subsamplingX plane + j, ?_, ?_⟩
  · rcases pf.subsamplingY_cases plane with h | h <;>
      simp only [h, Nat.shiftRight_zero, Nat.shiftRight_one] at hi ⊢ <;> omega
  · rcases pf.subsamplingX_cases plane with h | h <;>
      simp only [h, Nat.shiftRight_zero, Nat.shiftRight_one] at hj ⊢ <;> omega
  · generalize (4 * (2 * m)) >>> pf.subsamplingY plane = rowOffset
    generalize (4 * (2 * k)) >>> pf.subsamplingX plane = columnOffset
    rw [Nat.add_mul]; omega

theorem copyHeights (plane : Nat) :
    decrementLoopCount ((4 * blockHeight4x4) >>> pf.subsamplingY plane) =
        (4 * blockHeight4x4) >>> pf.subsamplingY plane ∧
      decrementLoopCount (8 >>> pf.subsamplingY plane) = 8 >>> pf.subsamplingY plane := by
  have := hu.height_pos
  refine ⟨decrementLoopCount_of_pos ?_, decrementLoopCount_of_pos ?_⟩ <;>
    rcases pf.subsamplingY_cases plane with h | h <;>
    simp only [h, Nat.shiftRight_zero, Nat.shiftRight_one] <;> omega

end PostFilter.DriverUnit

/-- Every call the drivers may make is safe. -/
theorem UnitCall.Valid.safe {pf : PostFilter} {stride : Nat} (hS : 64 + 2 * kCdefBorder ≤ stride)
    {u : UnitCall} (hu : u.Valid pf) : u.Safe pf stride where
  valid := hu
  cdefIndex_lt := hu.driverUnit.cdefIndex_lt
  stepLoops := by
    have := hu.driverUnit.height_even; have := hu.driverUnit.width_even
    rw [hu.driverUnit.stepLoopCount_height, hu.driverUnit.stepLoopCount_width]
    omega
  blockParameters _ hm _ hk _ _ := hu.driverUnit.blockParameters_lt hm hk
  prepareWrites pixel16 block _ _ _ ha := hu.driverUnit.prepareCdefPlane_inSlice hS pixel16 block ha
  prepareLoops _ _ := prepareLoopCounts hu.driverUnit rfl
  filterWindow _ _ _ hm _ hk dest cdefStride _ hi _ hj :=
    hu.driverUnit.filterWindow_inSlice hS hm hk dest cdefStride hi hj
  copyHeights plane _ := hu.driverUnit.copyHeights plane

/-- Both drivers call `ApplyCdefForOneUnit` only safely: over the superblock rows of a
frame, whose every call passes the assertion `row4x4 >= 16` and returns its strips, and
over every band of every window of the threaded pass. -/
theorem cdefDrivers_safe (pf : PostFilter) (w : CdefWindow) {stride sb4x4 : Nat}
    (hS : 64 + 2 * kCdefBorder ≤ stride) (hsb : sb4x4 = 16 ∨ sb4x4 = 32) :
    (∀ k < superBlockRowCount pf.rows4x4 sb4x4, ∃ strips,
      superBlockRowStrips pf.rows4x4 (k * sb4x4) sb4x4
          (k == superBlockRowCount pf.rows4x4 sb4x4 - 1) = some strips ∧
        ∀ s ∈ strips, ∀ u ∈ superBlockRowHelperCalls pf s.row4x4 s.blockHeight4x4,
          u.Safe pf stride) ∧
    (∀ i < forCount pf.rows4x4 w.height4x4, ∀ j < forCount pf.columns4x4 w.width4x4,
      ∀ b < verticalUnitsPerWindow pf w (w.height4x4 * i),
      ∀ u ∈ applyCdefForOneRowInWindowCalls pf w (w.height4x4 * i + kStep64x64 * b)
        (w.width4x4 * j), u.Safe pf stride) := by
  obtain ⟨strips, hcalls, hall⟩ :=
    superBlockRows_strips pf.rows4x4 hsb pf.rows4x4_even pf.rows4x4_pos
  refine ⟨fun k hk => ⟨strips k, (hcalls k hk).1, fun s hs u hu => ?_⟩,
    fun _ _ _ _ _ hb u hu => (applyCdefForOneRowInWindowCalls_valid hb u hu).safe hS⟩
  obtain ⟨hvalid, -, hbottom⟩ := hall.mem (List.mem_flatMap.2 ⟨k, List.mem_range.2 hk, hs⟩)
  exact (superBlockRowHelperCalls_valid pf hvalid hbottom u hu).safe hS

theorem cdefDrivers_safe_ramp16x200 :
    64 + 2 * kCdefBorder ≤ 70 ∧ (16 = 16 ∨ 16 = 32) ∧
    (∀ k < superBlockRowCount PostFilter.ramp16x200.rows4x4 16, ∃ strips,
      superBlockRowStrips PostFilter.ramp16x200.rows4x4 (k * 16) 16
          (k == superBlockRowCount PostFilter.ramp16x200.rows4x4 16 - 1) = some strips ∧
        ∀ s ∈ strips, ∀ u ∈ superBlockRowHelperCalls PostFilter.ramp16x200 s.row4x4 s.blockHeight4x4,
          u.Safe PostFilter.ramp16x200 70) ∧
    (∀ i < forCount PostFilter.ramp16x200.rows4x4 CdefWindow.twoBands.height4x4,
      ∀ j < forCount PostFilter.ramp16x200.columns4x4 CdefWindow.twoBands.width4x4,
      ∀ b < verticalUnitsPerWindow PostFilter.ramp16x200 CdefWindow.twoBands
        (CdefWindow.twoBands.height4x4 * i),
      ∀ u ∈ applyCdefForOneRowInWindowCalls PostFilter.ramp16x200 CdefWindow.twoBands
        (CdefWindow.twoBands.height4x4 * i + kStep64x64 * b) (CdefWindow.twoBands.width4x4 * j),
        u.Safe PostFilter.ramp16x200 70) :=
  ⟨by decide, .inl rfl, cdefDrivers_safe PostFilter.ramp16x200 CdefWindow.twoBands (by decide) (.inl rfl)⟩

end Libgav1
