/-
# Frame geometry, CDEF parameters and the filter backend

The inputs of the CDEF pass as `PostFilter` reads them: the frame size and its
4x4 grid, the planes and their subsampling, the frame header's CDEF parameters,
the per-64x64 `cdef_index_` grid, the skip flags of `block_parameters_` and the
source planes. The grid dimensions are stored together with the relation the
decoder establishes between them and the frame size, so no other geometry can
be built.

The filter backend `dsp_` is a parameter: nothing is assumed of what
`cdef_direction` and `cdef_filter` compute, only of which samples they are
given. `cdefReference` states, from the specification, the value CDEF should
leave at each sample; the pipeline modules prove that both drivers leave it.
-/

import Mathlib.Data.Nat.Bitwise
import Mathlib.Data.Nat.BinaryRec

namespace Libgav1

/-- Width of the border around a CDEF block (`kCdefBorder`, defined in a libgav1
header outside this excerpt). -/
def kCdefBorder : Nat := 2

/-- The sentinel for samples outside the frame (`kCdefLargeValue`, defined in a
libgav1 header outside this excerpt): above every 12-bit sample. -/
def kCdefLargeValue : Nat := 0x4000

/-- 64 luma samples in 4x4 units. -/
def kStep64x64 : Nat := 16

/-- `kMaxPlanes`. -/
def kMaxPlanes : Nat := 3

/-- `kCdefUvDirection[subsampling_x][subsampling_y][direction]`. -/
def kCdefUvDirection : List (List (List Nat)) :=
  [[[0, 1, 2, 3, 4, 5, 6, 7], [1, 2, 2, 2, 3, 4, 6, 0]],
   [[7, 0, 2, 4, 5, 6, 6, 6], [0, 1, 2, 3, 4, 5, 6, 7]]]

/-- The lookup `kCdefUvDirection[subsamplingX][subsamplingY][direction]`. -/
def cdefUvDirection (subsamplingX subsamplingY direction : Nat) : Nat :=
  ((kCdefUvDirection.getD subsamplingX []).getD subsamplingY []).getD direction 0

/-- `RightShiftWithRounding` of `common.h`. -/
def rightShiftWithRounding (value bits : Nat) : Nat :=
  (value + ((1 <<< bits) >>> 1)) >>> bits

/-- `Align(value, alignment)` of `common.h`; for the power-of-two alignments it is
called with, the mask rounds up to a multiple of `alignment`. -/
def align (value alignment : Nat) : Nat :=
  (value + alignment - 1) / alignment * alignment

@[simp] theorem rightShiftWithRounding_zero (value : Nat) :
    rightShiftWithRounding value 0 = value := rfl

@[simp] theorem rightShiftWithRounding_one (value : Nat) :
    rightShiftWithRounding value 1 = (value + 1) / 2 := rfl

/-- `FloorLog2` of `common.h`. -/
def floorLog2 (n : Nat) : Nat := Nat.log2 n

theorem lor_eq_zero_iff {a b : Nat} : a ||| b = 0 ↔ a = 0 ∧ b = 0 := by
  refine ⟨fun h => ?_, fun h => by simp [h.1, h.2]⟩
  have hbit : ∀ i, a.testBit i = false ∧ b.testBit i = false := fun i => by
    simpa [Nat.testBit_lor] using congrArg (Nat.testBit · i) h
  exact ⟨Nat.eq_of_testBit_eq fun i => by simp [(hbit i).1],
    Nat.eq_of_testBit_eq fun i => by simp [(hbit i).2]⟩

/-- The CDEF parameters of the frame header (`frame_header_.cdef`). -/
structure CdefParams where
  damping : Nat
  yPrimaryStrength : Nat → UInt8
  ySecondaryStrength : Nat → UInt8
  uvPrimaryStrength : Nat → UInt8
  uvSecondaryStrength : Nat → UInt8

/-- What the CDEF pass reads of `PostFilter`: frame size and 4x4 grid, planes and
subsampling (`subsampling_x_[plane]`), bit depth, CDEF parameters, the strength index
of each 64x64 cell, the skip flag of each 4x4 block and the source planes (`source`
plane row column; rows and columns are signed as pointer offsets are). -/
structure PostFilter where
  width : Nat
  height : Nat
  rows4x4 : Nat
  columns4x4 : Nat
  planes : Nat
  subsamplingX : Nat → Nat
  subsamplingY : Nat → Nat
  bitdepth : Nat
  cdef : CdefParams
  cdefIndex : Nat → Nat → Int
  skip : Nat → Nat → Bool
  source : Nat → Int → Int → Nat
  width_pos : 0 < width
  height_pos : 0 < height
  rows4x4_eq : rows4x4 = 2 * ((height + 7) / 8)
  columns4x4_eq : columns4x4 = 2 * ((width + 7) / 8)
  planes_le : planes ≤ kMaxPlanes
  subsamplingX_luma : subsamplingX 0 = 0
  subsamplingY_luma : subsamplingY 0 = 0
  subsamplingX_le : ∀ plane, subsamplingX plane ≤ 1
  subsamplingY_le : ∀ plane, subsamplingY plane ≤ 1
  cdefIndex_valid : ∀ r c, cdefIndex r c = -1 ∨ (0 ≤ cdefIndex r c ∧ cdefIndex r c < 8)

/-- The filter entries of the DSP table `dsp_`. `cdefDirection` is given the 8x8 luma
block (zero outside it) and returns the direction and the variance; `cdefFilter` is
given its block's neighbourhood, a `(blockHeight + 2·kCdefBorder) ×
(blockWidth + 2·kCdefBorder)` array of scratch samples (zero outside it), then the
block width and height, the primary and secondary strengths, the damping and the
direction, and returns the filtered block. -/
structure Dsp where
  cdefDirection : (Nat → Nat → Nat) → Fin 8 × Nat
  cdefFilter : (Nat → Nat → Nat) → Nat → Nat → Nat → Nat → Int → Nat → Nat → Nat → Nat

namespace PostFilter

variable (pf : PostFilter)

/-- The samples `CopyRowForCdef` and `CopyPixels` move are 16 bits wide (`Pixel` is
`uint16_t`) from bit depth 10 on. -/
def pixel16 : Bool := decide (10 ≤ pf.bitdepth)

/-- Width of plane `plane`'s 4x4 grid in samples. -/
def gridWidth (plane : Nat) : Nat := (4 * pf.columns4x4) >>> pf.subsamplingX plane

/-- Height of plane `plane`'s 4x4 grid in samples. -/
def gridHeight (plane : Nat) : Nat := (4 * pf.rows4x4) >>> pf.subsamplingY plane

/-- A sample as CDEF sees it: the source inside the plane's 4x4 grid,
`kCdefLargeValue` outside. -/
def available (plane : Nat) (y x : Int) : Nat :=
  if 0 ≤ y ∧ y < pf.gridHeight plane ∧ 0 ≤ x ∧ x < pf.gridWidth plane then
    pf.source plane y x
  else kCdefLargeValue

theorem available_inside {plane : Nat} {y x : Int} (hy : 0 ≤ y ∧ y < pf.gridHeight plane)
    (hx : 0 ≤ x ∧ x < pf.gridWidth plane) : pf.available plane y x = pf.source plane y x :=
  if_pos ⟨hy.1, hy.2, hx⟩

theorem available_row_outside {plane : Nat} {y : Int} (x : Int)
    (hy : y < 0 ∨ pf.gridHeight plane ≤ y) : pf.available plane y x = kCdefLargeValue :=
  if_neg fun h => by omega

theorem available_column_outside {plane : Nat} (y : Int) {x : Int}
    (hx : x < 0 ∨ pf.gridWidth plane ≤ x) : pf.available plane y x = kCdefLargeValue :=
  if_neg fun h => by omega

/-- The skip flag of the block at flat index `i` of `block_parameters_`, a row-major
array of `columns4x4` columns. -/
def skipAt (i : Nat) : Bool := pf.skip (i / pf.columns4x4) (i % pf.columns4x4)

/-- The units both drivers pass to `ApplyCdefForOneUnit`: even 4x4 coordinates with the
column a multiple of 16, even sizes from 2 to 16, inside the grid and inside one 64x64
cell. -/
structure DriverUnit (blockWidth4x4 blockHeight4x4 row4x4 column4x4 : Nat) : Prop where
  row_even : row4x4 % 2 = 0
  column_mod : column4x4 % 16 = 0
  width_even : blockWidth4x4 % 2 = 0
  height_even : blockHeight4x4 % 2 = 0
  width_pos : 2 ≤ blockWidth4x4
  width_le : blockWidth4x4 ≤ 16
  height_pos : 2 ≤ blockHeight4x4
  height_le : row4x4 % 16 + blockHeight4x4 ≤ 16
  right_le : column4x4 + blockWidth4x4 ≤ pf.columns4x4
  bottom_le : row4x4 + blockHeight4x4 ≤ pf.rows4x4

theorem subsamplingX_cases (plane : Nat) :
    pf.subsamplingX plane = 0 ∨ pf.subsamplingX plane = 1 := by
  have := pf.subsamplingX_le plane; omega

theorem subsamplingY_cases (plane : Nat) :
    pf.subsamplingY plane = 0 ∨ pf.subsamplingY plane = 1 := by
  have := pf.subsamplingY_le plane; omega

theorem rows4x4_even : pf.rows4x4 % 2 = 0 := by rw [pf.rows4x4_eq]; omega

theorem columns4x4_even : pf.columns4x4 % 2 = 0 := by rw [pf.columns4x4_eq]; omega

theorem rows4x4_pos : 0 < pf.rows4x4 := by have := pf.height_pos; rw [pf.rows4x4_eq]; omega

theorem columns4x4_pos : 0 < pf.columns4x4 := by
  have := pf.width_pos; rw [pf.columns4x4_eq]; omega

end PostFilter

/-- A 16x200 frame in 4:2:0 with CDEF on, on a ramp of samples: strength index 0 (primary
and secondary strengths) in the first 64 rows and index 1 (secondary strengths only) below
them. Its 50 4x4 rows make four superblock rows of 16, the last one short, so the
superblock-row calls defer rows to the next call and the windows of a pass cut the frame. -/
def PostFilter.ramp16x200 : PostFilter where
  width := 16
  height := 200
  rows4x4 := 50
  columns4x4 := 4
  planes := 3
  subsamplingX plane := min plane 1
  subsamplingY plane := min plane 1
  bitdepth := 8
  cdef := ⟨3, fun i => if i = 0 then 4 else 0, fun _ => 1, fun i => if i = 0 then 2 else 0,
    fun _ => 1⟩
  cdefIndex r _ := ((min r 1 : Nat) : Int)
  skip _ _ := false
  source _ y x := ((y + x) % 256).toNat
  width_pos := by decide
  height_pos := by decide
  rows4x4_eq := by decide
  columns4x4_eq := by decide
  planes_le := by decide
  subsamplingX_luma := rfl
  subsamplingY_luma := rfl
  subsamplingX_le _ := Nat.min_le_right _ _
  subsamplingY_le _ := Nat.min_le_right _ _
  cdefIndex_valid _ _ := .inr ⟨Int.natCast_nonneg _, by dsimp only; omega⟩

/-- A backend that finds direction 2 with variance 4096, so that the luma primary strength
is scaled, and filters each sample to the mean of itself and its two vertical neighbours. -/
def Dsp.verticalMean : Dsp where
  cdefDirection _ := (2, 4096)
  cdefFilter neighbourhood _ _ _ _ _ _ i j :=
    (neighbourhood (i + 1) (j + 2) + neighbourhood (i + 2) (j + 2) +
      neighbourhood (i + 3) (j + 2)) / 3

/-- The 8x8 block at the top of the frame's second superblock row is a unit the drivers
pass. -/
theorem PostFilter.ramp16x200_driverUnit : PostFilter.ramp16x200.DriverUnit 2 2 16 0 := by
  constructor <;> decide

/-- The luma primary strength scaled by the block's variance, as the specification
gives it: `(V != 0) ? (primary * (4 + variance_strength) + 8) >> 4 : 0`. -/
def effectivePrimary (variance primary : Nat) : Nat :=
  let varianceStrength :=
    if variance >>> 6 ≠ 0 then min (floorLog2 (variance >>> 6)) 12 else 0
  if variance ≠ 0 then (primary * (4 + varianceStrength) + 8) >>> 4 else 0

/-- `FloorLog2` grows with its argument. -/
theorem floorLog2_mono {a b : Nat} (h : a ≤ b) : floorLog2 a ≤ floorLog2 b := by
  rcases Nat.eq_zero_or_pos a with rfl | ha
  · simp [floorLog2]
  · exact (Nat.le_log2 (by omega)).2 (Nat.le_trans (Nat.log2_self_le (by omega)) h)

/-- `variance_strength` of `ApplyCdefForOneUnit`:
`(variance >> 6 != 0) ? min(FloorLog2(variance >> 6), 12) : 0`. -/
def varianceStrength (variance : Nat) : Nat :=
  if variance >>> 6 ≠ 0 then min (floorLog2 (variance >>> 6)) 12 else 0

theorem effectivePrimary_eq (variance primary : Nat) :
    effectivePrimary variance primary =
      if variance ≠ 0 then (primary * (4 + varianceStrength variance) + 8) >>> 4 else 0 := rfl

/-- The variance strength is at most 12. -/
theorem varianceStrength_le (variance : Nat) : varianceStrength variance ≤ 12 := by
  unfold varianceStrength
  split
  · exact Nat.min_le_right _ _
  · omega

/-- The scaled strength never exceeds the configured one. -/
theorem effectivePrimary_le (variance primary : Nat) :
    effectivePrimary variance primary ≤ primary := by
  rw [effectivePrimary_eq]
  split
  · rw [Nat.shiftRight_eq_div_pow]
    have := Nat.mul_le_mul_left primary (Nat.add_le_add_left (varianceStrength_le variance) 4)
    omega
  · exact Nat.zero_le _

/-- The variance strength grows with the variance. -/
theorem varianceStrength_mono {variance variance' : Nat} (h : variance ≤ variance') :
    varianceStrength variance ≤ varianceStrength variance' := by
  have hshift : variance >>> 6 ≤ variance' >>> 6 := by
    simp only [Nat.shiftRight_eq_div_pow]; exact Nat.div_le_div_right h
  unfold varianceStrength
  split
  · rw [if_pos (by omega)]
    have := floorLog2_mono hshift
    omega
  · exact Nat.zero_le _

/-- From a variance of `2^18` on, `variance >> 6` is at least `2^12` and the strength
is clamped at 12. -/
theorem varianceStrength_of_le {variance : Nat} (h : 2 ^ 18 ≤ variance) :
    varianceStrength variance = 12 := by
  have hshift : 2 ^ 12 ≤ variance >>> 6 := by
    rw [Nat.shiftRight_eq_div_pow]; exact (Nat.le_div_iff_mul_le (by decide)).2 h
  have hlog : 12 ≤ floorLog2 (variance >>> 6) := (Nat.le_log2 (by omega)).2 hshift
  simp only [varianceStrength, if_pos (show variance >>> 6 ≠ 0 by omega), Nat.min_eq_right hlog]

/-- The scaled strength grows with the variance. -/
theorem effectivePrimary_mono (primary : Nat) {variance variance' : Nat}
    (h : variance ≤ variance') :
    effectivePrimary variance primary ≤ effectivePrimary variance' primary := by
  rw [effectivePrimary_eq, effectivePrimary_eq]
  split
  · rw [if_pos (by omega), Nat.shiftRight_eq_div_pow, Nat.shiftRight_eq_div_pow]
    exact Nat.div_le_div_right (Nat.add_le_add_right
      (Nat.mul_le_mul_left primary (Nat.add_le_add_left (varianceStrength_mono h) 4)) 8)
  · exact Nat.zero_le _

/-- From a variance of `2^18` on, the scaled strength is the configured one. -/
theorem effectivePrimary_of_le (primary : Nat) {variance : Nat} (h : 2 ^ 18 ≤ variance) :
    effectivePrimary variance primary = primary := by
  rw [effectivePrimary_eq, if_pos (by omega), varianceStrength_of_le h, Nat.shiftRight_eq_div_pow]
  omega

/-- The strengths and the direction a block of one plane is filtered with. -/
structure CdefStrengths where
  primaryStrength : Nat
  secondaryStrength : Nat
  direction : Nat

namespace PostFilter

variable (pf : PostFilter) (dsp : Dsp)

/-- The four 4x4 blocks of the 8x8 luma block at `(r, c)` are all skip. -/
def allSkip (r c : Nat) : Bool :=
  pf.skip r c && pf.skip r (c + 1) && pf.skip (r + 1) c && pf.skip (r + 1) (c + 1)

/-- The 8x8 source block of the luma plane at sample `(y, x)`, zero outside it: what
`cdef_direction` reads. -/
def directionBlock (y x : Nat) (i j : Nat) : Nat :=
  if i < 8 ∧ j < 8 then pf.source 0 (y + i : Nat) (x + j : Nat) else 0

/-- The neighbourhood of plane `plane`'s block of the 8x8 luma block at `(r, c)`: the
block and `kCdefBorder` samples around it as `available` gives them, zero outside. -/
def neighbourhood (plane r c : Nat) (i j : Nat) : Nat :=
  let blockWidth := 8 >>> pf.subsamplingX plane
  let blockHeight := 8 >>> pf.subsamplingY plane
  if i < blockHeight + 2 * kCdefBorder ∧ j < blockWidth + 2 * kCdefBorder then
    pf.available plane ((((4 * r) >>> pf.subsamplingY plane) + i : Nat) - kCdefBorder : Int)
      ((((4 * c) >>> pf.subsamplingX plane) + j : Nat) - kCdefBorder : Int)
  else 0

/-- The specification's strengths and direction for plane `plane`'s block of the 8x8
luma block at `(r, c)` under strength index `k`: the luma primary strength scaled by the
luma variance, the chroma strengths as configured, and the luma direction (remapped for
chroma), zero without primary strength. -/
def cdefStrengths (plane r c k : Nat) : CdefStrengths :=
  let lumaDirection := dsp.cdefDirection (pf.directionBlock (4 * r) (4 * c))
  if plane = 0 then
    let primary := (pf.cdef.yPrimaryStrength k).toNat
    { primaryStrength := effectivePrimary lumaDirection.2 primary
      secondaryStrength := (pf.cdef.ySecondaryStrength k).toNat
      direction := if primary = 0 then 0 else lumaDirection.1.val }
  else
    let primary := (pf.cdef.uvPrimaryStrength k).toNat
    { primaryStrength := primary
      secondaryStrength := (pf.cdef.uvSecondaryStrength k).toNat
      direction := if primary = 0 then 0
        else cdefUvDirection (pf.subsamplingX plane) (pf.subsamplingY plane) lumaDirection.1.val }

/-- The specification's CDEF output for plane `plane`'s block of the 8x8 luma block at
even 4x4 position `(r, c)`, at row `i` and column `j` of the block: the source when the
cell's index is -1, when the four 4x4 blocks are skip or when both strengths are zero;
otherwise `cdef_filter` on the block's neighbourhood with the block's strengths, the
damping one less for chroma, and the block's direction. -/
def cdefBlock (plane r c : Nat) (i j : Nat) : Nat :=
  let unfiltered := pf.source plane (((4 * r) >>> pf.subsamplingY plane) + i : Nat)
    (((4 * c) >>> pf.subsamplingX plane) + j : Nat)
  let index := pf.cdefIndex (r / 16) (c / 16)
  if index = -1 ∨ pf.allSkip r c = true then unfiltered
  else
    let s := pf.cdefStrengths dsp plane r c index.toNat
    if s.primaryStrength = 0 ∧ s.secondaryStrength = 0 then unfiltered
    else
      dsp.cdefFilter (pf.neighbourhood plane r c) (8 >>> pf.subsamplingX plane)
        (8 >>> pf.subsamplingY plane) s.primaryStrength s.secondaryStrength
        (pf.cdef.damping - if plane = 0 then 0 else 1) s.direction i j

/-- The specification's CDEF output at sample `(y, x)` of plane `plane`: the value of
`cdefBlock` for the 8x8 luma block covering the sample. -/
def cdefReference (plane y x : Nat) : Nat :=
  let blockWidth := 8 >>> pf.subsamplingX plane
  let blockHeight := 8 >>> pf.subsamplingY plane
  pf.cdefBlock dsp plane (2 * (y / blockHeight)) (2 * (x / blockWidth))
    (y % blockHeight) (x % blockWidth)

end PostFilter

end Libgav1
