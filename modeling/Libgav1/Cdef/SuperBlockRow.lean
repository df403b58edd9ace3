/-
# The superblock-row driver

Without a thread pool the decoder filters each superblock row as soon as it is decoded:
`ApplyCdefForOneSuperBlockRow` hands row strips to `ApplyCdefForOneSuperBlockRowHelper`,
which runs `ApplyCdefForOneUnit` on each 64-column unit of the strip, writing straight
into `cdef_buffer_`. The filter of the bottom 8x8 blocks of a 64-row unit reads two
sample rows below them, which belong to the next superblock row; so every call but the
frame's last leaves the last two 4x4 rows of each of its 64-row units for later and
filters them, as a strip of their own, at the start of the next call.

The main results: the strips of a frame's calls are consecutive from the top row to the
bottom one, each inside one 64-row unit, and a call reads no source row below the next
call's first strip (`superBlockRows_schedule`); and the calls leave the reference CDEF
output at every sample of the frame (`applyCdefSuperBlockRows_reference`). The second
rests on the first and on `applyCdefForOneUnit_overwrites`: every unit writes its final
values, so filtering a 64-row unit in two strips leaves what one call would.
-/

import Mathlib.Data.List.Basic
import Libgav1.Cdef.Unit

namespace Libgav1

/-- Number of iterations of `for (i = 0; i < extent; i += step)`. -/
def forCount (extent step : Nat) : Nat := (extent + step - 1) / step

theorem lt_of_lt_forCount {extent step k : Nat} (hstep : 0 < step) (hk : k < forCount extent step) :
    step * k < extent := by
  simp only [forCount] at hk
  have := (Nat.le_div_iff_mul_le hstep).1 hk
  rw [Nat.succ_mul, Nat.mul_comm] at this
  omega

theorem lt_forCount {extent step k : Nat} (hstep : 0 < step) (hk : step * k < extent) :
    k < forCount extent step := by
  simp only [forCount]
  exact (Nat.le_div_iff_mul_le hstep).2 (by rw [Nat.succ_mul, Nat.mul_comm]; omega)

/-- The arguments of one `ApplyCdefForOneUnit` call. -/
structure UnitCall where
  index : Int
  blockWidth4x4 : Nat
  blockHeight4x4 : Nat
  row4x4 : Nat
  column4x4 : Nat
  deriving DecidableEq, Repr

/-- One `ApplyCdefForOneUnit` call on the scratch block and the output memory. -/
def runUnit (pixel16 : Bool) (pf : PostFilter) (dsp : Dsp) (threadPool : Option CdefWindow)
    (stride : Nat) (st : (Nat → Nat) × (CdefAddr → Nat)) (u : UnitCall) :
    (Nat → Nat) × (CdefAddr → Nat) :=
  applyCdefForOneUnit pixel16 pf dsp threadPool stride st.1 u.index u.blockWidth4x4
    u.blockHeight4x4 u.row4x4 u.column4x4 st.2

/-- The output samples of a unit call, in every plane. -/
def unitRegion (pf : PostFilter) (threadPool : Option CdefWindow) (u : UnitCall) (a : CdefAddr) :
    Prop :=
  ∃ plane < pf.planes,
    blockRegion (unitDestination pf threadPool u.row4x4 u.column4x4 plane).1
      (unitDestination pf threadPool u.row4x4 u.column4x4 plane).2
      ((4 * u.blockHeight4x4) >>> pf.subsamplingY plane)
      ((4 * u.blockWidth4x4) >>> pf.subsamplingX plane) a

/-- A call the drivers make: a unit they pass, with the strength index of its 64x64
cell. -/
structure UnitCall.Valid (pf : PostFilter) (u : UnitCall) : Prop where
  driverUnit : pf.DriverUnit u.blockWidth4x4 u.blockHeight4x4 u.row4x4 u.column4x4
  index_eq : u.index = pf.cdefIndex (u.row4x4 / 16) (u.column4x4 / 16)

/-- A call the drivers make writes, at each of its output samples, the value `V` has there,
when `V` is the reference output at the samples of the unit. -/
theorem runUnit_overwrites (pixel16 : Bool) (pf : PostFilter) (dsp : Dsp)
    (threadPool : Option CdefWindow) {stride : Nat} (hS : 64 + 2 * kCdefBorder ≤ stride)
    {u : UnitCall} (hu : u.Valid pf) {V : CdefAddr → Nat}
    (hV : ∀ plane < pf.planes, ∀ i < (4 * u.blockHeight4x4) >>> pf.subsamplingY plane,
      ∀ j < (4 * u.blockWidth4x4) >>> pf.subsamplingX plane,
      V ((unitDestination pf threadPool u.row4x4 u.column4x4 plane).1.offset
          (unitDestination pf threadPool u.row4x4 u.column4x4 plane).2 i j) =
        pf.cdefReference dsp plane ((4 * u.row4x4) >>> pf.subsamplingY plane + i)
          ((4 * u.column4x4) >>> pf.subsamplingX plane + j)) :
    ScratchOverwrites (fun st => runUnit pixel16 pf dsp threadPool stride st u)
      (unitRegion pf threadPool u) V := fun block => by
  obtain ⟨hdriver, hindex⟩ := hu
  simp only [runUnit, hindex]
  exact applyCdefForOneUnit_overwrites pixel16 pf dsp threadPool hS block hdriver hV

/-- The reference output at each sample of `cdef_buffer_`; the window buffer is not
read. -/
def frameReference (pf : PostFilter) (dsp : Dsp) : CdefAddr → Nat
  | .frame plane y x => pf.cdefReference dsp plane y x
  | .window _ => 0

/-- The samples of `cdef_buffer_` in the plane rows of 4x4 rows `[top4x4, bottom4x4)`, in
every plane and across the grid. -/
def frameRows (pf : PostFilter) (top4x4 bottom4x4 : Nat) : CdefAddr → Prop
  | .frame plane y x => plane < pf.planes ∧ (4 * top4x4) >>> pf.subsamplingY plane ≤ y ∧
      y < (4 * bottom4x4) >>> pf.subsamplingY plane ∧ x < pf.gridWidth plane
  | .window _ => False

/-- Adjacent row ranges join. -/
theorem frameRows_union (pf : PostFilter) {top middle bottom : Nat} (h₁ : top ≤ middle)
    (h₂ : middle ≤ bottom) (a : CdefAddr) :
    frameRows pf top middle a ∨ frameRows pf middle bottom a ↔ frameRows pf top bottom a := by
  cases a with
  | window => simp [frameRows]
  | frame plane y x =>
    rcases pf.subsamplingY_cases plane with h | h <;>
      simp only [frameRows, h, Nat.shiftRight_zero, Nat.shiftRight_one] <;> omega

/-- An empty row range. -/
theorem frameRows_self (pf : PostFilter) (row : Nat) (a : CdefAddr) : ¬frameRows pf row row a := by
  cases a <;> simp [frameRows]; omega

/-- The units of a row, from 4x4 column `start`, 16 columns each and the last one cut at
the grid's edge, cover the row's samples: `extent` columns, a whole number of units unless
the row ends at the grid's edge. -/
theorem unitColumns_cover {subsampling : Nat} (hsubsampling : subsampling ≤ 1)
    {columns4x4 start extent : Nat} (hend : start + extent ≤ columns4x4)
    (hlast : extent % 16 = 0 ∨ start + extent = columns4x4) (x : Nat) :
    ((4 * start) >>> subsampling ≤ x ∧ x < (4 * (start + extent)) >>> subsampling) ↔
      ∃ k < forCount extent 16, (4 * (start + 16 * k)) >>> subsampling ≤ x ∧
        x < (4 * (start + 16 * k)) >>> subsampling +
          (4 * min 16 (columns4x4 - (start + 16 * k))) >>> subsampling := by
  constructor
  · rintro ⟨hx, hx'⟩
    refine ⟨(x - (4 * start) >>> subsampling) / (64 >>> subsampling), lt_forCount (by omega) ?_, ?_⟩ <;>
      rcases (by omega : subsampling = 0 ∨ subsampling = 1) with h | h <;>
      simp only [h, Nat.shiftRight_zero, Nat.shiftRight_one] at hx hx' ⊢ <;> omega
  · rintro ⟨k, hk, hx, hx'⟩
    have := lt_of_lt_forCount (by omega) hk
    rcases (by omega : subsampling = 0 ∨ subsampling = 1) with h | h <;>
      simp only [h, Nat.shiftRight_zero, Nat.shiftRight_one] at hx hx' ⊢ <;> omega

/-- The output of a call without a thread pool, in `cdef_buffer_`: the unit's rectangle in
every plane. -/
theorem unitRegion_none (pf : PostFilter) (u : UnitCall) (plane y x : Nat) :
    unitRegion pf none u (.frame plane y x) ↔ plane < pf.planes ∧
      (4 * u.row4x4) >>> pf.subsamplingY plane ≤ y ∧
      y < (4 * u.row4x4) >>> pf.subsamplingY plane + (4 * u.blockHeight4x4) >>> pf.subsamplingY plane ∧
      (4 * u.column4x4) >>> pf.subsamplingX plane ≤ x ∧
      x < (4 * u.column4x4) >>> pf.subsamplingX plane + (4 * u.blockWidth4x4) >>> pf.subsamplingX plane := by
  simp only [unitRegion, unitDestination, getCdefBufferAndStride, blockRegion_frame,
    CdefAddr.frame.injEq]
  constructor
  · rintro ⟨plane', hplane, y', x', ⟨rfl, rfl, rfl⟩, h⟩
    exact ⟨hplane, h⟩
  · rintro ⟨hplane, h⟩
    exact ⟨plane, hplane, y, x, ⟨rfl, rfl, rfl⟩, h⟩

theorem unitRegion_none_window (pf : PostFilter) (u : UnitCall) (offset : Nat) :
    ¬unitRegion pf none u (.window offset) := by
  simp [unitRegion, unitDestination, getCdefBufferAndStride, blockRegion_frame]

/-- Without a thread pool, the reference output satisfies the hypothesis of
`runUnit_overwrites` for every unit. -/
theorem frameReference_unit (pf : PostFilter) (dsp : Dsp) (u : UnitCall) (plane i j : Nat) :
    frameReference pf dsp ((unitDestination pf none u.row4x4 u.column4x4 plane).1.offset
        (unitDestination pf none u.row4x4 u.column4x4 plane).2 i j) =
      pf.cdefReference dsp plane ((4 * u.row4x4) >>> pf.subsamplingY plane + i)
        ((4 * u.column4x4) >>> pf.subsamplingX plane + j) := rfl

/-- The call of `ApplyCdefForOneSuperBlockRowHelper` on the 4x4 rows
`[row4x4, row4x4 + blockHeight4x4)`. -/
structure RowStrip where
  row4x4 : Nat
  blockHeight4x4 : Nat
  deriving DecidableEq, Repr

/-- A strip of an even number of 4x4 rows from an even row, inside one 64-row unit. -/
structure RowStrip.Valid (s : RowStrip) : Prop where
  row_even : s.row4x4 % 2 = 0
  height_even : s.blockHeight4x4 % 2 = 0
  height_pos : 2 ≤ s.blockHeight4x4
  height_le : s.row4x4 % 16 + s.blockHeight4x4 ≤ 16

/-- Every row of a valid strip is in the strip's 64-row unit, whose `cdef_index_` row the
helper reads. -/
theorem RowStrip.Valid.unit_eq {s : RowStrip} (hs : s.Valid) {row4x4 : Nat}
    (hlow : s.row4x4 ≤ row4x4) (hhigh : row4x4 < s.row4x4 + s.blockHeight4x4) :
    row4x4 / 16 = s.row4x4 / 16 := by
  have := hs.height_le; omega

/-- The unit calls of `ApplyCdefForOneSuperBlockRowHelper(row4x4, block_height4x4)`, left to
right: one per 64-column unit, `DivideBy16` picking the unit's `cdef_index_`. -/
def superBlockRowHelperCalls (pf : PostFilter) (row4x4 blockHeight4x4 : Nat) : List UnitCall :=
  (List.range (forCount pf.columns4x4 kStep64x64)).map fun k =>
    let column4x4 := kStep64x64 * k
    { index := pf.cdefIndex (row4x4 / 16) (column4x4 / 16)
      blockWidth4x4 := min kStep64x64 (pf.columns4x4 - column4x4)
      blockHeight4x4 := blockHeight4x4
      row4x4 := row4x4
      column4x4 := column4x4 }

/-- `ApplyCdefForOneSuperBlockRowHelper`: the strip's units, with the pass's scratch block
`cdef_block_` and the pixel width the bit depth picks, output to `cdef_buffer_`. -/
def applyCdefForOneSuperBlockRowHelper (pf : PostFilter) (dsp : Dsp) (stride row4x4 blockHeight4x4 : Nat)
    (st : (Nat → Nat) × (CdefAddr → Nat)) : (Nat → Nat) × (CdefAddr → Nat) :=
  (superBlockRowHelperCalls pf row4x4 blockHeight4x4).foldl (runUnit pf.pixel16 pf dsp none stride) st

/-- The helper passes on a valid strip inside the grid only calls the drivers may make. -/
theorem superBlockRowHelperCalls_valid (pf : PostFilter) {s : RowStrip} (hs : s.Valid)
    (hbottom : s.row4x4 + s.blockHeight4x4 ≤ pf.rows4x4) :
    ∀ u ∈ superBlockRowHelperCalls pf s.row4x4 s.blockHeight4x4, u.Valid pf := by
  simp only [superBlockRowHelperCalls, kStep64x64, List.mem_map, List.mem_range]
  rintro _ ⟨k, hk, rfl⟩
  have := lt_of_lt_forCount (by decide) hk
  have := pf.columns4x4_even
  obtain ⟨_, _, _, _⟩ := hs
  refine ⟨⟨?_, ?_, ?_, ?_, ?_, ?_, ?_, ?_, ?_, ?_⟩, rfl⟩ <;> dsimp only <;> omega

/-- The helper writes the reference output over the strip's rows, across the grid in every
plane, and nothing else. -/
theorem applyCdefForOneSuperBlockRowHelper_overwrites (pf : PostFilter) (dsp : Dsp) {stride : Nat}
    (hS : 64 + 2 * kCdefBorder ≤ stride) {s : RowStrip} (hs : s.Valid)
    (hbottom : s.row4x4 + s.blockHeight4x4 ≤ pf.rows4x4) :
    ScratchOverwrites (applyCdefForOneSuperBlockRowHelper pf dsp stride s.row4x4 s.blockHeight4x4)
      (frameRows pf s.row4x4 (s.row4x4 + s.blockHeight4x4)) (frameReference pf dsp) := by
  refine (ScratchOverwrites.foldl _ fun u hu => runUnit_overwrites pf.pixel16 pf dsp none hS
    (superBlockRowHelperCalls_valid pf hs hbottom u hu)
    fun plane _ i _ j _ => frameReference_unit pf dsp u plane i j).congr_region fun a => ?_
  cases a with
  | window offset => simp [unitRegion_none_window, frameRows]
  | frame plane y x =>
    have hcover := unitColumns_cover (pf.subsamplingX_le plane)
      (Nat.le_of_eq (Nat.zero_add pf.columns4x4) : 0 + pf.columns4x4 ≤ pf.columns4x4)
      (.inr (Nat.zero_add _)) x
    simp only [Nat.zero_add, Nat.mul_zero, Nat.zero_shiftRight, Nat.zero_le, true_and] at hcover
    simp only [superBlockRowHelperCalls, kStep64x64, List.mem_map, List.mem_range,
      exists_exists_and_eq_and, unitRegion_none, frameRows, PostFilter.gridWidth, hcover]
    have hrows : (4 * s.row4x4) >>> pf.subsamplingY plane + (4 * s.blockHeight4x4) >>> pf.subsamplingY plane =
        (4 * (s.row4x4 + s.blockHeight4x4)) >>> pf.subsamplingY plane := by
      rcases pf.subsamplingY_cases plane with h | h <;>
        simp only [h, Nat.shiftRight_zero, Nat.shiftRight_one] <;> omega
    rw [hrows]
    constructor
    · rintro ⟨k, hk, hplane, hy, hy', hx, hx'⟩
      exact ⟨hplane, hy, hy', k, hk, by simpa using hx, hx'⟩
    · rintro ⟨hplane, hy, hy', k, hk, hx, hx'⟩
      exact ⟨k, hk, hplane, hy, hy', by simpa using hx, hx'⟩

/-- The helper on each strip in turn. -/
def runStrips (pf : PostFilter) (dsp : Dsp) (stride : Nat) (strips : List RowStrip)
    (st : (Nat → Nat) × (CdefAddr → Nat)) : (Nat → Nat) × (CdefAddr → Nat) :=
  strips.foldl (fun st s => applyCdefForOneSuperBlockRowHelper pf dsp stride s.row4x4 s.blockHeight4x4 st) st

/-- Iteration `y` of the loop of `ApplyCdefForOneSuperBlockRow`, above the frame's last row:
the two 4x4 rows left over above `row4x4` (unless `row4x4` is 0, or this is the second
64-row unit of a last superblock row of 128x128 superblocks), then the unit's rows but its
last two, or all of them in the frame's last superblock row. `none` when the assertion
`row4x4 >= 16` fails. The code's `height4x4` is signed; a negative height and a zero one
alike skip the call, so the truncated difference decides the same. -/
def superBlockRowStep (rows4x4 row4x4Start : Nat) (isLastRow : Bool) (y : Nat) :
    Option (List RowStrip) := do
  let row4x4 := row4x4Start + y
  let lag ← if 0 < row4x4 ∧ (isLastRow = false ∨ y = 0) then
      if 16 ≤ row4x4 then some [⟨row4x4 - 2, 2⟩] else none
    else some []
  let blockHeight4x4 := min kStep64x64 (rows4x4 - row4x4)
  let height4x4 := blockHeight4x4 - if isLastRow then 0 else 2
  pure (lag ++ if 0 < height4x4 then [⟨row4x4, height4x4⟩] else [])

/-- The loop over `y` of `ApplyCdefForOneSuperBlockRow`, which returns at the frame's last
row. -/
def superBlockRowLoop (rows4x4 row4x4Start : Nat) (isLastRow : Bool) :
    List Nat → Option (List RowStrip)
  | [] => some []
  | y :: ys =>
    if rows4x4 ≤ row4x4Start + y then some []
    else do
      let strips ← superBlockRowStep rows4x4 row4x4Start isLastRow y
      let rest ← superBlockRowLoop rows4x4 row4x4Start isLastRow ys
      pure (strips ++ rest)

/-- The strips `ApplyCdefForOneSuperBlockRow(row4x4_start, sb4x4, is_last_row)` hands to the
helper, in order; `none` when an assertion fails. -/
def superBlockRowStrips (rows4x4 row4x4Start sb4x4 : Nat) (isLastRow : Bool) :
    Option (List RowStrip) :=
  superBlockRowLoop rows4x4 row4x4Start isLastRow
    ((List.range (forCount sb4x4 kStep64x64)).map (kStep64x64 * ·))

/-- `ApplyCdefForOneSuperBlockRow`: the helper on the call's strips. -/
def applyCdefForOneSuperBlockRow (pf : PostFilter) (dsp : Dsp) (stride row4x4Start sb4x4 : Nat)
    (isLastRow : Bool) (st : (Nat → Nat) × (CdefAddr → Nat)) :
    Option ((Nat → Nat) × (CdefAddr → Nat)) :=
  (superBlockRowStrips pf.rows4x4 row4x4Start sb4x4 isLastRow).map (runStrips pf dsp stride · st)

theorem applyCdefForOneSuperBlockRow_of_strips {pf : PostFilter} {dsp : Dsp}
    {stride row4x4Start sb4x4 : Nat} {isLastRow : Bool} {strips : List RowStrip}
    (h : superBlockRowStrips pf.rows4x4 row4x4Start sb4x4 isLastRow = some strips)
    (st : (Nat → Nat) × (CdefAddr → Nat)) :
    applyCdefForOneSuperBlockRow pf dsp stride row4x4Start sb4x4 isLastRow st =
      some (runStrips pf dsp stride strips st) := by
  rw [applyCdefForOneSuperBlockRow, h]; rfl

/-- Number of superblock rows of the frame, `⌈rows4x4 / sb4x4⌉`. -/
def superBlockRowCount (rows4x4 sb4x4 : Nat) : Nat := forCount rows4x4 sb4x4

/-- The decoder's calls for a frame without a thread pool:
`ApplyCdefForOneSuperBlockRow(k·sb4x4, sb4x4, k = K - 1)` for `k = 0, …, K - 1`, on the
scratch block and `cdef_buffer_`. -/
def applyCdefSuperBlockRows (pf : PostFilter) (dsp : Dsp) (stride sb4x4 : Nat)
    (st : (Nat → Nat) × (CdefAddr → Nat)) : Option ((Nat → Nat) × (CdefAddr → Nat)) :=
  let K := superBlockRowCount pf.rows4x4 sb4x4
  (List.range K).foldlM (fun st k =>
    applyCdefForOneSuperBlockRow pf dsp stride (k * sb4x4) sb4x4 (k == K - 1) st) st

/-- Valid strips, each starting where the previous one ends, from 4x4 row `top` to
`bottom`. -/
def Consecutive : Nat → Nat → List RowStrip → Prop
  | top, bottom, [] => top = bottom
  | top, bottom, s :: strips =>
    s.row4x4 = top ∧ s.Valid ∧ Consecutive (top + s.blockHeight4x4) bottom strips

namespace Consecutive

theorem append {top middle bottom : Nat} {strips strips' : List RowStrip}
    (h : Consecutive top middle strips) (h' : Consecutive middle bottom strips') :
    Consecutive top bottom (strips ++ strips') := by
  induction strips generalizing top with
  | nil => cases h; exact h'
  | cons s strips ih => exact ⟨h.1, h.2.1, ih h.2.2⟩

theorem le {top bottom : Nat} {strips : List RowStrip} (h : Consecutive top bottom strips) :
    top ≤ bottom := by
  induction strips generalizing top with
  | nil => exact Nat.le_of_eq h
  | cons s strips ih => exact Nat.le_trans (Nat.le_add_right _ _) (ih h.2.2)

theorem mem {top bottom : Nat} {strips : List RowStrip} (h : Consecutive top bottom strips)
    {s : RowStrip} (hs : s ∈ strips) :
    s.Valid ∧ top ≤ s.row4x4 ∧ s.row4x4 + s.blockHeight4x4 ≤ bottom := by
  induction strips generalizing top with
  | nil => cases hs
  | cons s' strips ih =>
    obtain ⟨rfl, hvalid, hrest⟩ := h
    rcases List.mem_cons.1 hs with rfl | hs
    · exact ⟨hvalid, Nat.le_refl _, hrest.le⟩
    · have := ih hrest hs; exact ⟨this.1, by omega, this.2.2⟩

/-- A single valid strip. -/
theorem single {row4x4 blockHeight4x4 bottom : Nat} (hrow : row4x4 % 2 = 0)
    (hheight : blockHeight4x4 % 2 = 0) (hpos : 2 ≤ blockHeight4x4)
    (hunit : row4x4 % 16 + blockHeight4x4 ≤ 16) (hbottom : row4x4 + blockHeight4x4 = bottom) :
    Consecutive row4x4 bottom [⟨row4x4, blockHeight4x4⟩] :=
  ⟨rfl, ⟨hrow, hheight, hpos, hunit⟩, hbottom⟩

/-- The strip of a 64-row unit above the last superblock row: 14 rows from the unit's top. -/
theorem full {row4x4 bottom : Nat} (hrow : row4x4 % 16 = 0) (hbottom : row4x4 + 14 = bottom) :
    Consecutive row4x4 bottom [⟨row4x4, 14⟩] :=
  single (by omega) rfl (by decide) (by omega) hbottom

/-- The strip of a 64-row unit in the last superblock row: to the unit's end or the frame's. -/
theorem last {rows4x4 row4x4 bottom : Nat} (heven : rows4x4 % 2 = 0) (hrow : row4x4 % 16 = 0)
    (hlt : row4x4 < rows4x4) (hbottom : row4x4 + min 16 (rows4x4 - row4x4) = bottom) :
    Consecutive row4x4 bottom [⟨row4x4, min 16 (rows4x4 - row4x4)⟩] :=
  single (by omega) (by omega) (by omega) (by omega) hbottom

end Consecutive

/-- Consecutive strips inside the grid write the reference output over their rows. -/
theorem runStrips_overwrites (pf : PostFilter) (dsp : Dsp) {stride : Nat}
    (hS : 64 + 2 * kCdefBorder ≤ stride) {top bottom : Nat} {strips : List RowStrip}
    (h : Consecutive top bottom strips) (hbottom : bottom ≤ pf.rows4x4) :
    ScratchOverwrites (runStrips pf dsp stride strips) (frameRows pf top bottom)
      (frameReference pf dsp) := by
  induction strips generalizing top with
  | nil =>
    cases h
    exact fun _ => Overwrites.id.congr_region fun a => iff_of_false id (frameRows_self pf _ a)
  | cons s strips ih =>
    obtain ⟨rfl, hvalid, hrest⟩ := h
    exact ((applyCdefForOneSuperBlockRowHelper_overwrites pf dsp hS hvalid
      (Nat.le_trans hrest.le hbottom)).comp (ih hrest)).congr_region
      (frameRows_union pf (Nat.le_add_right _ _) hrest.le)

/-- The strip `ApplyCdefForOneSuperBlockRowHelper(row4x4 - 2, 2)` the loop filters before the
unit at `row4x4`, if it does: the two rows left over above the unit. -/
def lagStrips (row4x4 : Nat) : List RowStrip :=
  if 0 < row4x4 then [⟨row4x4 - 2, 2⟩] else []

/-- The two rows a call leaves above a 64-row unit, filtered by the next call first. -/
theorem Consecutive.lagStrips {row4x4 : Nat} (hrow : row4x4 % 16 = 0) :
    Consecutive (row4x4 - 2) row4x4 (lagStrips row4x4) := by
  unfold Libgav1.lagStrips
  split
  · refine ⟨rfl, ⟨?_, ?_, ?_, ?_⟩, ?_⟩ <;> dsimp only [Consecutive] <;> omega
  · show row4x4 - 2 = row4x4; omega

section Schedule

variable {rows4x4 row4x4Start row4x4 y : Nat}

theorem superBlockRowLoop_cons {isLastRow : Bool} {ys : List Nat}
    (hrow : row4x4Start + y < rows4x4) {strips rest : List RowStrip}
    (hstep : superBlockRowStep rows4x4 row4x4Start isLastRow y = some strips)
    (hrest : superBlockRowLoop rows4x4 row4x4Start isLastRow ys = some rest) :
    superBlockRowLoop rows4x4 row4x4Start isLastRow (y :: ys) = some (strips ++ rest) := by
  simp [superBlockRowLoop, Nat.not_le.2 hrow, hstep, hrest]

theorem superBlockRowLoop_stop {isLastRow : Bool} {ys : List Nat}
    (hrow : rows4x4 ≤ row4x4Start + y) :
    superBlockRowLoop rows4x4 row4x4Start isLastRow (y :: ys) = some [] := by
  simp [superBlockRowLoop, hrow]

/-- An iteration above the last superblock row, once its assertion holds. -/
theorem superBlockRowStep_false (hassert : 0 < row4x4Start + y → 16 ≤ row4x4Start + y) :
    superBlockRowStep rows4x4 row4x4Start false y =
      some (lagStrips (row4x4Start + y) ++
        if 0 < min 16 (rows4x4 - (row4x4Start + y)) - 2 then
          [⟨row4x4Start + y, min 16 (rows4x4 - (row4x4Start + y)) - 2⟩]
        else []) := by
  unfold superBlockRowStep lagStrips
  by_cases h : 0 < row4x4Start + y
  · rw [if_pos ⟨h, .inl rfl⟩, if_pos (hassert h), if_pos h]; rfl
  · rw [if_neg fun h' => h h'.1, if_neg h]; rfl

/-- An iteration of the last superblock row, once its assertion holds. -/
theorem superBlockRowStep_true (hassert : y = 0 → 0 < row4x4Start + y → 16 ≤ row4x4Start + y) :
    superBlockRowStep rows4x4 row4x4Start true y =
      some ((if y = 0 then lagStrips (row4x4Start + y) else []) ++
        if 0 < min 16 (rows4x4 - (row4x4Start + y)) then
          [⟨row4x4Start + y, min 16 (rows4x4 - (row4x4Start + y))⟩]
        else []) := by
  unfold superBlockRowStep lagStrips
  by_cases h : 0 < row4x4Start + y ∧ y = 0
  · rw [if_pos ⟨h.1, .inr h.2⟩, if_pos (hassert h.2 h.1), if_pos h.2, if_pos h.1]; rfl
  · rw [if_neg fun h' => h ⟨h'.1, h'.2.resolve_left Bool.noConfusion⟩]
    by_cases hy : y = 0
    · rw [if_pos hy, if_neg fun h' => h ⟨h', hy⟩]; rfl
    · rw [if_neg hy]; rfl

/-- Above the last superblock row, an iteration filters the two rows left over above its
unit, then the unit but its last two rows. -/
theorem superBlockRowStep_notLast (hrow4x4 : row4x4Start + y = row4x4)
    (hrow : row4x4 + 16 < rows4x4) (hassert : 0 < row4x4 → 16 ≤ row4x4) :
    superBlockRowStep rows4x4 row4x4Start false y =
      some (lagStrips row4x4 ++ [⟨row4x4, 14⟩]) := by
  subst hrow4x4
  have hmin : min 16 (rows4x4 - (row4x4Start + y)) - 2 = 14 := by omega
  rw [superBlockRowStep_false hassert, hmin, if_pos (by decide)]

/-- In the last superblock row, the first iteration filters the two rows the previous call
left, then its whole unit. -/
theorem superBlockRowStep_last_zero (hrow : row4x4Start < rows4x4)
    (hassert : 0 < row4x4Start → 16 ≤ row4x4Start) :
    superBlockRowStep rows4x4 row4x4Start true 0 =
      some (lagStrips row4x4Start ++ [⟨row4x4Start, min 16 (rows4x4 - row4x4Start)⟩]) := by
  rw [superBlockRowStep_true fun _ => hassert, if_pos rfl, Nat.add_zero, if_pos (by omega)]

/-- In the last superblock row of 128x128 superblocks, the second iteration filters its
whole unit, with nothing left over above it. -/
theorem superBlockRowStep_last_pos (hy : 0 < y) (hrow4x4 : row4x4Start + y = row4x4)
    (hrow : row4x4 < rows4x4) :
    superBlockRowStep rows4x4 row4x4Start true y =
      some [⟨row4x4, min 16 (rows4x4 - row4x4)⟩] := by
  subst hrow4x4
  rw [superBlockRowStep_true fun h => absurd h (by omega), if_neg (by omega), if_pos (by omega),
    List.nil_append]

end Schedule

/-! ### What a call reads of the source -/

section SourceReads

variable {pf : PostFilter} {source : Nat → Int → Int → Nat}

/-- A sample as CDEF sees it depends only on the source at that sample. -/
theorem available_source {plane : Nat} {y x : Int}
    (h : 0 ≤ y → y < pf.gridHeight plane → source plane y x = pf.source plane y x) :
    PostFilter.available { pf with source := source } plane y x = pf.available plane y x := by
  simp only [PostFilter.available, PostFilter.gridHeight, PostFilter.gridWidth] at h ⊢
  split
  next hin => exact h hin.1 hin.2.1
  next => rfl

theorem shift_le_shift {a b : Nat} (h : a ≤ b) (subsampling : Nat) :
    (4 * a) >>> subsampling ≤ (4 * b) >>> subsampling := by
  simp only [Nat.shiftRight_eq_div_pow]
  exact Nat.div_le_div_right (Nat.mul_le_mul_left 4 h)

/-- The reference output of the 8x8 luma block at 4x4 row `r` reads no source row from two
`kCdefBorder` rows below the block on, in any plane. -/
theorem cdefBlock_source (dsp : Dsp) {r : Nat} (hr : r % 2 = 0)
    (hagree : ∀ q (y : Int) x, y < ((4 * (r + 2)) >>> pf.subsamplingY q + kCdefBorder : Nat) →
      source q y x = pf.source q y x)
    (plane c : Nat) {i j : Nat} (hi : i < 8 >>> pf.subsamplingY plane) :
    PostFilter.cdefBlock { pf with source := source } dsp plane r c i j =
      pf.cdefBlock dsp plane r c i j := by
  have hblock : (4 * r) >>> pf.subsamplingY plane + 8 >>> pf.subsamplingY plane =
      (4 * (r + 2)) >>> pf.subsamplingY plane := by
    rcases pf.subsamplingY_cases plane with h | h <;>
      simp only [h, Nat.shiftRight_zero, Nat.shiftRight_one] <;> omega
  have hdir : PostFilter.directionBlock { pf with source := source } (4 * r) (4 * c) =
      pf.directionBlock (4 * r) (4 * c) := funext fun i => funext fun j => by
    simp only [PostFilter.directionBlock]
    split
    · exact hagree 0 _ _ (by rw [pf.subsamplingY_luma, Nat.shiftRight_zero]; omega)
    · rfl
  have hneighbourhood : PostFilter.neighbourhood { pf with source := source } plane r c =
      pf.neighbourhood plane r c := funext fun i => funext fun j => by
    simp only [PostFilter.neighbourhood]
    split
    · exact available_source fun _ _ => hagree plane _ _ (by omega)
    · rfl
  have hunfiltered := hagree plane (((4 * r) >>> pf.subsamplingY plane + i : Nat) : Int)
    (((4 * c) >>> pf.subsamplingX plane + j : Nat) : Int) (by omega)
  simp only [PostFilter.cdefBlock, PostFilter.cdefStrengths, PostFilter.allSkip, hdir, hneighbourhood]
  rw [hunfiltered]

/-- The reference output at a sample reads no source row from two `kCdefBorder` rows below
its 8x8 block on. -/
theorem cdefReference_source (dsp : Dsp) {plane y : Nat} (x : Nat) {bottom4x4 : Nat}
    (heven : bottom4x4 % 2 = 0) (hy : y < (4 * bottom4x4) >>> pf.subsamplingY plane)
    (hagree : ∀ q (y : Int) x, y < ((4 * bottom4x4) >>> pf.subsamplingY q + kCdefBorder : Nat) →
      source q y x = pf.source q y x) :
    PostFilter.cdefReference { pf with source := source } dsp plane y x =
      pf.cdefReference dsp plane y x := by
  have hblock : 2 * (y / (8 >>> pf.subsamplingY plane)) + 2 ≤ bottom4x4 := by
    rcases pf.subsamplingY_cases plane with h | h <;>
      simp only [h, Nat.shiftRight_zero, Nat.shiftRight_one] at hy ⊢ <;> omega
  show PostFilter.cdefBlock { pf with source := source } dsp plane
      (2 * (y / (8 >>> pf.subsamplingY plane))) (2 * (x / (8 >>> pf.subsamplingX plane)))
      (y % (8 >>> pf.subsamplingY plane)) (x % (8 >>> pf.subsamplingX plane)) = _
  exact cdefBlock_source dsp (by omega)
    (fun q y x hy => hagree q y x (by have := shift_le_shift hblock (pf.subsamplingY q); omega))
    plane _ (Nat.mod_lt _ (by rcases pf.subsamplingY_cases plane with h | h <;> simp [h]))

variable {pixel16 : Bool} {dsp : Dsp} {stride : Nat}

/-- A unit reads no source row from two `kCdefBorder` rows below it on: its scratch and its
output are the same for any source that agrees above that row. -/
theorem runUnit_source (hS : 64 + 2 * kCdefBorder ≤ stride) {u : UnitCall} (hu : u.Valid pf)
    (hagree : ∀ q (y : Int) x,
      y < ((4 * (u.row4x4 + u.blockHeight4x4)) >>> pf.subsamplingY q + kCdefBorder : Nat) →
      source q y x = pf.source q y x)
    (st : (Nat → Nat) × (CdefAddr → Nat)) :
    runUnit pixel16 { pf with source := source } dsp none stride st u =
      runUnit pixel16 pf dsp none stride st u := by
  have hd := hu.driverUnit
  have hu' : u.Valid { pf with source := source } :=
    ⟨⟨hd.row_even, hd.column_mod, hd.width_even, hd.height_even, hd.width_pos, hd.width_le,
      hd.height_pos, hd.height_le, hd.right_le, hd.bottom_le⟩, hu.index_eq⟩
  refine Prod.ext ?_ ?_
  · simp only [runUnit, applyCdefForOneUnit]
    split
    · rfl
    · refine (prepareCdefBlock_overwrites hu'.driverUnit pixel16 hS).eq_of_agree
        (prepareCdefBlock_overwrites hd pixel16 hS) (fun a ha => ?_) st.1
      obtain ⟨plane, hplane, ρ, hρ, k, hk, rfl⟩ := ha
      rw [cdefScratch_row hu'.driverUnit rfl hS hρ hk, cdefScratch_row hd rfl hS hρ hk]
      refine available_source fun _ _ => hagree plane _ _ ?_
      simp only [prepareLocals] at hρ ⊢
      have hrows : (4 * u.row4x4) >>> pf.subsamplingY plane +
          (4 * u.blockHeight4x4) >>> pf.subsamplingY plane =
          (4 * (u.row4x4 + u.blockHeight4x4)) >>> pf.subsamplingY plane := by
        rcases pf.subsamplingY_cases plane with h | h <;>
          simp only [h, Nat.shiftRight_zero, Nat.shiftRight_one] <;> omega
      omega
  · refine ((runUnit_overwrites pixel16 _ dsp none hS hu' fun plane _ i _ j _ =>
      frameReference_unit _ dsp u plane i j) st.1).eq_of_agree
      ((runUnit_overwrites pixel16 pf dsp none hS hu fun plane _ i _ j _ =>
        frameReference_unit pf dsp u plane i j) st.1) (fun a ha => ?_) st.2
    cases a with
    | window offset => exact absurd ha (unitRegion_none_window _ u offset)
    | frame plane y x =>
      have hrows : (4 * u.row4x4) >>> pf.subsamplingY plane +
          (4 * u.blockHeight4x4) >>> pf.subsamplingY plane =
          (4 * (u.row4x4 + u.blockHeight4x4)) >>> pf.subsamplingY plane := by
        rcases pf.subsamplingY_cases plane with h | h <;>
          simp only [h, Nat.shiftRight_zero, Nat.shiftRight_one] <;> omega
      have hy := ((unitRegion_none _ u plane y x).1 ha).2.2.1
      exact cdefReference_source dsp x (by have := hd.row_even; have := hd.height_even; omega)
        (by rw [← hrows]; exact hy) hagree

/-- A strip reads no source row from two `kCdefBorder` rows below its last row on. -/
theorem applyCdefForOneSuperBlockRowHelper_source (hS : 64 + 2 * kCdefBorder ≤ stride)
    {s : RowStrip} (hs : s.Valid) (hbottom : s.row4x4 + s.blockHeight4x4 ≤ pf.rows4x4)
    (hagree : ∀ q (y : Int) x,
      y < ((4 * (s.row4x4 + s.blockHeight4x4)) >>> pf.subsamplingY q + kCdefBorder : Nat) →
      source q y x = pf.source q y x)
    (st : (Nat → Nat) × (CdefAddr → Nat)) :
    applyCdefForOneSuperBlockRowHelper { pf with source := source } dsp stride s.row4x4
        s.blockHeight4x4 st =
      applyCdefForOneSuperBlockRowHelper pf dsp stride s.row4x4 s.blockHeight4x4 st := by
  show (superBlockRowHelperCalls pf s.row4x4 s.blockHeight4x4).foldl
      (runUnit pf.pixel16 { pf with source := source } dsp none stride) st = _
  refine List.foldl_ext _ _ _ fun st u hu => ?_
  have hvalid := superBlockRowHelperCalls_valid pf hs hbottom u hu
  simp only [superBlockRowHelperCalls, List.mem_map] at hu
  obtain ⟨k, -, rfl⟩ := hu
  exact runUnit_source hS hvalid hagree st

/-- Consecutive strips read no source row from two `kCdefBorder` rows below the last one
on. -/
theorem runStrips_source (hS : 64 + 2 * kCdefBorder ≤ stride) {top bottom : Nat}
    {strips : List RowStrip} (h : Consecutive top bottom strips) (hbottom : bottom ≤ pf.rows4x4)
    (hagree : ∀ q (y : Int) x, y < ((4 * bottom) >>> pf.subsamplingY q + kCdefBorder : Nat) →
      source q y x = pf.source q y x)
    (st : (Nat → Nat) × (CdefAddr → Nat)) :
    runStrips { pf with source := source } dsp stride strips st = runStrips pf dsp stride strips st :=
  List.foldl_ext _ _ _ fun st s hs =>
    have hmem := h.mem hs
    applyCdefForOneSuperBlockRowHelper_source hS hmem.1 (by omega)
      (fun q y x hy => hagree q y x (by have := shift_le_shift hmem.2.2 (pf.subsamplingY q); omega)) st

end SourceReads

/-- Each call of a frame's sequence passes its assertion and hands the helper consecutive
strips, from two rows above its first row to two rows above the next call's first row, or
to the frame's last row for the last call. -/
theorem superBlockRowStrips_consecutive {rows4x4 sb4x4 k : Nat} (hsb : sb4x4 = 16 ∨ sb4x4 = 32)
    (heven : rows4x4 % 2 = 0) (hk : k < superBlockRowCount rows4x4 sb4x4) :
    ∃ strips, superBlockRowStrips rows4x4 (k * sb4x4) sb4x4
        (k == superBlockRowCount rows4x4 sb4x4 - 1) = some strips ∧
      Consecutive (k * sb4x4 - 2)
        (if k + 1 = superBlockRowCount rows4x4 sb4x4 then rows4x4 else (k + 1) * sb4x4 - 2) strips := by
  have hpos : 0 < sb4x4 := by omega
  have hstart := lt_of_lt_forCount hpos hk
  by_cases hlast : k + 1 = superBlockRowCount rows4x4 sb4x4
  · have hend : rows4x4 ≤ sb4x4 * (k + 1) :=
      Nat.not_lt.1 fun h => Nat.lt_irrefl _ (hlast ▸ lt_forCount hpos h)
    have hflag : (k == superBlockRowCount rows4x4 sb4x4 - 1) = true := beq_iff_eq.2 (by omega)
    rw [hflag, if_pos hlast]
    rcases hsb with rfl | rfl
    · have hys : (List.range (forCount 16 kStep64x64)).map (kStep64x64 * ·) = [0] := by decide
      refine ⟨lagStrips (k * 16) ++ [⟨k * 16, min 16 (rows4x4 - k * 16)⟩] ++ [], ?_, ?_⟩
      · rw [superBlockRowStrips, hys]
        exact superBlockRowLoop_cons (by omega)
          (superBlockRowStep_last_zero (by omega) (by omega)) rfl
      · rw [List.append_nil]
        exact (Consecutive.lagStrips (by omega)).append
          (Consecutive.last heven (by omega) (by omega) (by omega))
    · have hys : (List.range (forCount 32 kStep64x64)).map (kStep64x64 * ·) = [0, 16] := by decide
      rw [superBlockRowStrips, hys]
      by_cases hsecond : rows4x4 ≤ k * 32 + 16
      · refine ⟨lagStrips (k * 32) ++ [⟨k * 32, min 16 (rows4x4 - k * 32)⟩] ++ [], ?_, ?_⟩
        · exact superBlockRowLoop_cons (by omega)
            (superBlockRowStep_last_zero (by omega) (by omega)) (superBlockRowLoop_stop hsecond)
        · rw [List.append_nil]
          exact (Consecutive.lagStrips (by omega)).append
            (Consecutive.last heven (by omega) (by omega) (by omega))
      · refine ⟨lagStrips (k * 32) ++ [⟨k * 32, min 16 (rows4x4 - k * 32)⟩] ++
          ([⟨k * 32 + 16, min 16 (rows4x4 - (k * 32 + 16))⟩] ++ []), ?_, ?_⟩
        · exact superBlockRowLoop_cons (by omega)
            (superBlockRowStep_last_zero (by omega) (by omega))
            (superBlockRowLoop_cons (by omega) (superBlockRowStep_last_pos (by decide) rfl (by omega)) rfl)
        · rw [List.append_nil]
          exact ((Consecutive.lagStrips (by omega)).append
            (Consecutive.last heven (by omega) (by omega) (by omega))).append
            (Consecutive.last heven (by omega) (by omega) (by omega))
  · have hnext : sb4x4 * (k + 1) < rows4x4 :=
      lt_of_lt_forCount hpos (by unfold superBlockRowCount at hlast hk; omega)
    have hflag : (k == superBlockRowCount rows4x4 sb4x4 - 1) = false := by simp; omega
    rw [hflag, if_neg hlast]
    rcases hsb with rfl | rfl
    · have hys : (List.range (forCount 16 kStep64x64)).map (kStep64x64 * ·) = [0] := by decide
      refine ⟨lagStrips (k * 16) ++ [⟨k * 16, 14⟩] ++ [], ?_, ?_⟩
      · rw [superBlockRowStrips, hys]
        exact superBlockRowLoop_cons (by omega)
          (superBlockRowStep_notLast (Nat.add_zero _) (by omega) (by omega)) rfl
      · rw [List.append_nil]
        exact (Consecutive.lagStrips (by omega)).append (Consecutive.full (by omega) (by omega))
    · have hys : (List.range (forCount 32 kStep64x64)).map (kStep64x64 * ·) = [0, 16] := by decide
      refine ⟨lagStrips (k * 32) ++ [⟨k * 32, 14⟩] ++
        (lagStrips (k * 32 + 16) ++ [⟨k * 32 + 16, 14⟩] ++ []), ?_, ?_⟩
      · rw [superBlockRowStrips, hys]
        exact superBlockRowLoop_cons (by omega)
          (superBlockRowStep_notLast (Nat.add_zero _) (by omega) (by omega))
          (superBlockRowLoop_cons (by omega) (superBlockRowStep_notLast rfl (by omega) (by omega)) rfl)
      · rw [List.append_nil]
        exact ((Consecutive.lagStrips (by omega)).append (Consecutive.full (by omega) (by omega))).append
          ((Consecutive.lagStrips (by omega)).append (Consecutive.full (by omega) (by omega)))

/-- The strips of the first `n` calls of a frame's sequence are consecutive from the frame's
top row to two rows above the next call's first row, or to its last row after every call. -/
theorem superBlockRows_prefix_consecutive {rows4x4 sb4x4 : Nat} (hsb : sb4x4 = 16 ∨ sb4x4 = 32)
    (heven : rows4x4 % 2 = 0) (hpos : 0 < rows4x4) {n : Nat}
    (hn : n ≤ superBlockRowCount rows4x4 sb4x4) :
    Consecutive 0 (if n = superBlockRowCount rows4x4 sb4x4 then rows4x4 else n * sb4x4 - 2)
      ((List.range n).flatMap fun k => (superBlockRowStrips rows4x4 (k * sb4x4) sb4x4
        (k == superBlockRowCount rows4x4 sb4x4 - 1)).getD []) := by
  induction n with
  | zero =>
    have hK : 0 < superBlockRowCount rows4x4 sb4x4 := lt_forCount (by omega) (by omega)
    rw [if_neg (by omega)]
    show 0 = 0 * sb4x4 - 2; omega
  | succ n ih =>
    obtain ⟨strips, hstrips, hconsecutive⟩ := superBlockRowStrips_consecutive hsb heven
      (show n < superBlockRowCount rows4x4 sb4x4 by omega)
    rw [List.range_succ, List.flatMap_append, List.flatMap_singleton, hstrips, Option.getD_some]
    exact (if_neg (by omega : ¬n = superBlockRowCount rows4x4 sb4x4) ▸ ih (by omega)).append
      hconsecutive

/-- The strips of a frame's calls: each call passes its assertion and hands the helper
consecutive strips, which together run from the top of the frame to its bottom. -/
theorem superBlockRows_strips (rows4x4 : Nat) {sb4x4 : Nat} (hsb : sb4x4 = 16 ∨ sb4x4 = 32)
    (heven : rows4x4 % 2 = 0) (hpos : 0 < rows4x4) :
    let K := superBlockRowCount rows4x4 sb4x4
    ∃ strips : Nat → List RowStrip,
      (∀ k < K, superBlockRowStrips rows4x4 (k * sb4x4) sb4x4 (k == K - 1) = some (strips k) ∧
        Consecutive (k * sb4x4 - 2) (if k + 1 = K then rows4x4 else (k + 1) * sb4x4 - 2) (strips k)) ∧
      Consecutive 0 rows4x4 ((List.range K).flatMap strips) := by
  intro K
  refine ⟨fun k => (superBlockRowStrips rows4x4 (k * sb4x4) sb4x4 (k == K - 1)).getD [],
    fun k hk => ?_, ?_⟩
  · obtain ⟨strips, hstrips, hconsecutive⟩ := superBlockRowStrips_consecutive hsb heven hk
    simp only [hstrips, Option.getD_some, true_and]
    exact hconsecutive
  · simpa using superBlockRows_prefix_consecutive hsb heven hpos (Nat.le_refl K)

/-- Running the calls of a frame's sequence is running all their strips in order. -/
theorem foldlM_superBlockRows (pf : PostFilter) (dsp : Dsp) (stride sb4x4 : Nat)
    (strips : Nat → List RowStrip) (K : Nat)
    (hstrips : ∀ k ∈ List.range K,
      superBlockRowStrips pf.rows4x4 (k * sb4x4) sb4x4 (k == K - 1) = some (strips k))
    (l : List Nat) (hl : ∀ k ∈ l, k ∈ List.range K) (st : (Nat → Nat) × (CdefAddr → Nat)) :
    l.foldlM (fun st k => applyCdefForOneSuperBlockRow pf dsp stride (k * sb4x4) sb4x4 (k == K - 1) st)
        st = some (runStrips pf dsp stride (l.flatMap strips) st) := by
  induction l generalizing st with
  | nil => rfl
  | cons k l ih =>
    rw [List.foldlM_cons,
      applyCdefForOneSuperBlockRow_of_strips (hstrips k (hl k (List.mem_cons_self k l)))]
    show List.foldlM _ (runStrips pf dsp stride (strips k) st) l = _
    rw [ih (fun k hk => hl k (List.mem_cons_of_mem _ hk)), List.flatMap_cons, runStrips, runStrips,
      runStrips, List.foldl_append]

/-- The calls `ApplyCdefForOneSuperBlockRow(k·sb4x4, sb4x4, k = K - 1)` of a frame hand
the helper strips that are consecutive from the frame's top row to its bottom row, each
inside one 64-row unit, and each call runs the helper on its own strips and nothing else;
each call but the last filters from two rows above its first row
to two rows above the next call's first row and reads no source sample from
`kCdefBorder` rows below that point on, in any plane, and the last call filters to the
frame's bottom. -/
theorem superBlockRows_schedule (pf : PostFilter) (dsp : Dsp) {stride : Nat}
    (hS : 64 + 2 * kCdefBorder ≤ stride) {sb4x4 : Nat} (hsb : sb4x4 = 16 ∨ sb4x4 = 32) :
    let K := superBlockRowCount pf.rows4x4 sb4x4
    ∃ strips : Nat → List RowStrip,
      (∀ k < K, superBlockRowStrips pf.rows4x4 (k * sb4x4) sb4x4 (k == K - 1) = some (strips k) ∧
        ∀ st, applyCdefForOneSuperBlockRow pf dsp stride (k * sb4x4) sb4x4 (k == K - 1) st =
          some (runStrips pf dsp stride (strips k) st)) ∧
      Consecutive 0 pf.rows4x4 ((List.range K).flatMap strips) ∧
      (∀ k < K - 1, Consecutive (k * sb4x4 - 2) ((k + 1) * sb4x4 - 2) (strips k) ∧
        ∀ source : Nat → Int → Int → Nat,
          (∀ plane (y : Int) x,
            y < ((4 * ((k + 1) * sb4x4 - 2)) >>> pf.subsamplingY plane + kCdefBorder : Nat) →
            source plane y x = pf.source plane y x) →
          ∀ st, applyCdefForOneSuperBlockRow { pf with source := source } dsp stride (k * sb4x4)
              sb4x4 (k == K - 1) st =
            applyCdefForOneSuperBlockRow pf dsp stride (k * sb4x4) sb4x4 (k == K - 1) st) ∧
      Consecutive ((K - 1) * sb4x4 - 2) pf.rows4x4 (strips (K - 1)) := by
  intro K
  obtain ⟨strips, hcalls, hall⟩ := superBlockRows_strips pf.rows4x4 hsb pf.rows4x4_even pf.rows4x4_pos
  have hK : 0 < K := lt_forCount (by omega) (by have := pf.rows4x4_pos; omega)
  refine ⟨strips, fun k hk => ⟨(hcalls k hk).1,
    applyCdefForOneSuperBlockRow_of_strips (hcalls k hk).1⟩, hall, fun k hk => ?_, ?_⟩
  · have hconsecutive := (hcalls k (by omega)).2
    rw [if_neg (by omega)] at hconsecutive
    refine ⟨hconsecutive, fun source hagree st => ?_⟩
    have hbottom : (k + 1) * sb4x4 - 2 ≤ pf.rows4x4 := by
      have := lt_of_lt_forCount (by omega : 0 < sb4x4) (show k + 1 < K by omega); rw [Nat.mul_comm]; omega
    show Option.map _ (superBlockRowStrips pf.rows4x4 (k * sb4x4) sb4x4 (k == K - 1)) = _
    rw [applyCdefForOneSuperBlockRow, (hcalls k (by omega)).1, Option.map_some', Option.map_some',
      runStrips_source hS hconsecutive hbottom hagree]
  · have := (hcalls (K - 1) (by omega)).2
    rwa [if_pos (by omega)] at this

theorem superBlockRows_schedule_ramp16x200 :
    64 + 2 * kCdefBorder ≤ 70 ∧ (16 = 16 ∨ 16 = 32) ∧
    let K := superBlockRowCount PostFilter.ramp16x200.rows4x4 16
    ∃ strips : Nat → List RowStrip,
      (∀ k < K, superBlockRowStrips PostFilter.ramp16x200.rows4x4 (k * 16) 16 (k == K - 1) =
          some (strips k) ∧
        ∀ st, applyCdefForOneSuperBlockRow PostFilter.ramp16x200 Dsp.verticalMean 70 (k * 16) 16
            (k == K - 1) st =
          some (runStrips PostFilter.ramp16x200 Dsp.verticalMean 70 (strips k) st)) ∧
      Consecutive 0 PostFilter.ramp16x200.rows4x4 ((List.range K).flatMap strips) ∧
      (∀ k < K - 1, Consecutive (k * 16 - 2) ((k + 1) * 16 - 2) (strips k) ∧
        ∀ source : Nat → Int → Int → Nat,
          (∀ plane (y : Int) x,
            y < ((4 * ((k + 1) * 16 - 2)) >>> PostFilter.ramp16x200.subsamplingY plane +
              kCdefBorder : Nat) →
            source plane y x = PostFilter.ramp16x200.source plane y x) →
          ∀ st, applyCdefForOneSuperBlockRow { PostFilter.ramp16x200 with source := source }
              Dsp.verticalMean 70 (k * 16) 16 (k == K - 1) st =
            applyCdefForOneSuperBlockRow PostFilter.ramp16x200 Dsp.verticalMean 70 (k * 16) 16
              (k == K - 1) st) ∧
      Consecutive ((K - 1) * 16 - 2) PostFilter.ramp16x200.rows4x4 (strips (K - 1)) :=
  ⟨by decide, .inl rfl,
    superBlockRows_schedule PostFilter.ramp16x200 Dsp.verticalMean (by decide) (.inl rfl)⟩

/-- Without a thread pool, the calls `ApplyCdefForOneSuperBlockRow(k·sb4x4, sb4x4,
k = K - 1)` of a frame pass their assertions and leave in `cdef_buffer_`, at every sample
of every plane inside its 4x4 grid, the reference CDEF output, whatever the scratch block
and the buffer held before. -/
theorem applyCdefSuperBlockRows_reference (pf : PostFilter) (dsp : Dsp) {stride : Nat}
    (hS : 64 + 2 * kCdefBorder ≤ stride) {sb4x4 : Nat} (hsb : sb4x4 = 16 ∨ sb4x4 = 32)
    (st : (Nat → Nat) × (CdefAddr → Nat)) :
    ∃ result, applyCdefSuperBlockRows pf dsp stride sb4x4 st = some result ∧
      ∀ plane < pf.planes, ∀ y < pf.gridHeight plane, ∀ x < pf.gridWidth plane,
        result.2 (.frame plane y x) = pf.cdefReference dsp plane y x := by
  obtain ⟨strips, hcalls, hall⟩ := superBlockRows_strips pf.rows4x4 hsb pf.rows4x4_even pf.rows4x4_pos
  refine ⟨_, foldlM_superBlockRows pf dsp stride sb4x4 strips _
    (fun k hk => (hcalls k (List.mem_range.1 hk)).1) _ (fun _ => id) st, fun plane hplane y hy x hx => ?_⟩
  exact (runStrips_overwrites pf dsp hS hall (Nat.le_refl _) st.1).hit st.2 _
    ⟨hplane, by simp, hy, hx⟩

theorem applyCdefSuperBlockRows_reference_ramp16x200 :
    64 + 2 * kCdefBorder ≤ 70 ∧ (16 = 16 ∨ 16 = 32) ∧
    ∃ result,
      applyCdefSuperBlockRows PostFilter.ramp16x200 Dsp.verticalMean 70 16 (fun _ => 0, fun _ => 0) =
        some result ∧
      ∀ plane < PostFilter.ramp16x200.planes, ∀ y < PostFilter.ramp16x200.gridHeight plane,
        ∀ x < PostFilter.ramp16x200.gridWidth plane,
        result.2 (.frame plane y x) =
          PostFilter.ramp16x200.cdefReference Dsp.verticalMean plane y x :=
  ⟨by decide, .inl rfl, applyCdefSuperBlockRows_reference PostFilter.ramp16x200 Dsp.verticalMean
    (by decide) (.inl rfl) (fun _ => 0, fun _ => 0)⟩

end Libgav1
