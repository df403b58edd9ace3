/-
# The bordered scratch block

`PrepareCdefBlock` copies a unit of every plane, with `kCdefBorder` samples
around it, into that plane's slice of the scratch block, replacing samples
beyond the frame's left, right, top or bottom edge by `kCdefLargeValue`. The
edges are tested on pixel sizes (`plane_width` rounds the frame width), while
the specification speaks of the 4x4 grid; on the units the drivers pass the
two agree, and the slice then holds `available` at every sample of the
bordered unit, with either pixel width.
-/

import Libgav1.Cdef.Memory
import Libgav1.Cdef.Frame

namespace Libgav1

/-- `CopyRowForCdef` into the scratch row whose block starts at `dst`: `kCdefBorder`
samples left of the block, the block, and the rest of the unit with `kCdefBorder`
samples right of it, the two sides `kCdefLargeValue` at a frame edge. `src x` is the
source sample `x` columns right of the block's left edge. With 16-bit pixels the three
parts are `memcpy` or `Memset`, with 8-bit pixels element loops. -/
def copyRowForCdef (pixel16 : Bool) (src : Int → Nat) (blockWidth unitWidth : Nat)
    (isFrameLeft isFrameRight : Bool) (dst : Nat) (block : Nat → Nat) : Nat → Nat :=
  let rightCount := unitWidth + kCdefBorder - blockWidth
  if pixel16 then
    let block :=
      if isFrameLeft then fillRow (dst - kCdefBorder + ·) (fun _ => kCdefLargeValue) kCdefBorder block
      else fillRow (dst - kCdefBorder + ·) (fun k => src ((k : Int) - kCdefBorder)) kCdefBorder block
    let block := fillRow (dst + ·) (fun k => src k) blockWidth block
    if isFrameRight then
      fillRow (dst + blockWidth + ·) (fun _ => kCdefLargeValue) rightCount block
    else fillRow (dst + blockWidth + ·) (fun k => src (blockWidth + k : Nat)) rightCount block
  else
    let block := fillRow (dst - kCdefBorder + ·)
      (fun k => if isFrameLeft then kCdefLargeValue else src ((k : Int) - kCdefBorder))
      kCdefBorder block
    let block := fillRow (dst + ·) (fun k => src k) blockWidth block
    fillRow (dst + blockWidth + ·)
      (fun k => if isFrameRight then kCdefLargeValue else src (blockWidth + k : Nat))
      rightCount block

/-- The two branches of `CopyRowForCdef` write the same row. -/
theorem copyRowForCdef_eq_loops (pixel16 : Bool) (src : Int → Nat)
    (blockWidth unitWidth : Nat) (isFrameLeft isFrameRight : Bool) (dst : Nat) :
    copyRowForCdef pixel16 src blockWidth unitWidth isFrameLeft isFrameRight dst =
      copyRowForCdef false src blockWidth unitWidth isFrameLeft isFrameRight dst := by
  funext block
  cases pixel16 <;> cases isFrameLeft <;> cases isFrameRight <;> rfl

/-- The row `CopyRowForCdef` writes, given the value each of its three parts must
leave. -/
theorem copyRowForCdef_overwrites (pixel16 : Bool) (src : Int → Nat)
    (blockWidth unitWidth : Nat) (isFrameLeft isFrameRight : Bool) (dst : Nat)
    {V : Nat → Nat} (hdst : kCdefBorder ≤ dst) (hwidth : blockWidth ≤ unitWidth)
    (hleft : ∀ k < kCdefBorder, V (dst - kCdefBorder + k) =
      if isFrameLeft then kCdefLargeValue else src ((k : Int) - kCdefBorder))
    (hmid : ∀ k < blockWidth, V (dst + k) = src k)
    (hright : ∀ k < unitWidth + kCdefBorder - blockWidth, V (dst + blockWidth + k) =
      if isFrameRight then kCdefLargeValue else src (blockWidth + k : Nat)) :
    Overwrites (copyRowForCdef pixel16 src blockWidth unitWidth isFrameLeft isFrameRight dst)
      (fun a => ∃ k < unitWidth + 2 * kCdefBorder, dst - kCdefBorder + k = a) V := by
  rw [copyRowForCdef_eq_loops]
  have h := ((fillRow_overwrites _ _ _ fun k hk => (hleft k hk).symm).comp
    (fillRow_overwrites _ _ _ fun k hk => (hmid k hk).symm)).comp
    (fillRow_overwrites _ _ _ fun k hk => (hright k hk).symm)
  refine h.congr_region fun a => ⟨?_, ?_⟩
  · rintro ((⟨k, hk, rfl⟩ | ⟨k, hk, rfl⟩) | ⟨k, hk, rfl⟩)
    · exact ⟨k, by simp only [kCdefBorder] at *; omega, rfl⟩
    · exact ⟨kCdefBorder + k, by simp only [kCdefBorder] at *; omega, by omega⟩
    · exact ⟨kCdefBorder + blockWidth + k, by simp only [kCdefBorder] at *; omega, by omega⟩
  · rintro ⟨k, hk, rfl⟩
    by_cases h1 : k < kCdefBorder
    · exact .inl (.inl ⟨k, h1, rfl⟩)
    by_cases h2 : k < kCdefBorder + blockWidth
    · exact .inl (.inr ⟨k - kCdefBorder, by omega, by omega⟩)
    · exact .inr ⟨k - kCdefBorder - blockWidth, by simp only [kCdefBorder] at *; omega,
        by omega⟩

/-- The locals `PrepareCdefBlock` computes for one plane. -/
structure PrepareLocals where
  startX : Nat
  startY : Nat
  planeWidth : Nat
  planeHeight : Nat
  blockWidth : Nat
  blockHeight : Nat
  unitWidth : Nat
  unitHeight : Nat
  isFrameLeft : Bool
  isFrameRight : Bool
  isFrameTop : Bool
  isFrameBottom : Bool

/-- The locals of plane `plane` for the unit at `(row4x4, column4x4)` of
`blockWidth4x4 × blockHeight4x4` 4x4 blocks. -/
def prepareLocals (pf : PostFilter) (blockWidth4x4 blockHeight4x4 row4x4 column4x4 plane : Nat) :
    PrepareLocals :=
  let subsamplingX := pf.subsamplingX plane
  let subsamplingY := pf.subsamplingY plane
  let startX := (4 * column4x4) >>> subsamplingX
  let startY := (4 * row4x4) >>> subsamplingY
  let planeWidth := rightShiftWithRounding pf.width subsamplingX
  let planeHeight := rightShiftWithRounding pf.height subsamplingY
  let blockWidth := (4 * blockWidth4x4) >>> subsamplingX
  let blockHeight := (4 * blockHeight4x4) >>> subsamplingY
  { startX, startY, planeWidth, planeHeight, blockWidth, blockHeight
    unitWidth := align blockWidth (if subsamplingX > 0 then 4 else 8)
    unitHeight := align blockHeight (if subsamplingY > 0 then 4 else 8)
    isFrameLeft := column4x4 == 0
    isFrameRight := decide (startX + blockWidth ≥ planeWidth)
    isFrameTop := row4x4 == 0
    isFrameBottom := decide (startY + blockHeight ≥ planeHeight) }

namespace PrepareLocals

variable (l : PrepareLocals) (pixel16 : Bool) (src : Int → Int → Nat)

/-- `CopyRowForCdef` of source row `srcRow` into the scratch row whose block starts at
`cdefSrc`. -/
def copyRow (srcRow : Int) (cdefSrc : Nat) (block : Nat → Nat) : Nat → Nat :=
  copyRowForCdef pixel16 (fun x => src srcRow (l.startX + x)) l.blockWidth l.unitWidth
    l.isFrameLeft l.isFrameRight cdefSrc block

/-- The `Memset` of a whole bordered scratch row to `kCdefLargeValue`. -/
def memsetRow (cdefSrc : Nat) (block : Nat → Nat) : Nat → Nat :=
  fillRow (cdefSrc - kCdefBorder + ·) (fun _ => kCdefLargeValue)
    (l.unitWidth + 2 * kCdefBorder) block

/-- One iteration of the top or bottom loop: at a frame edge a row of
`kCdefLargeValue`, otherwise a copied source row after which the source moves one row
down; the scratch moves one row down either way. -/
def borderRowStep (edge : Bool) (stride : Nat) :
    (Nat → Nat) × Nat × Int → (Nat → Nat) × Nat × Int
  | (block, cdefSrc, srcRow) =>
    if edge then (l.memsetRow cdefSrc block, cdefSrc + stride, srcRow)
    else (l.copyRow pixel16 src srcRow cdefSrc block, cdefSrc + stride, srcRow + 1)

/-- One iteration of the body loop. -/
def bodyRowStep (stride : Nat) : (Nat → Nat) × Nat × Int → (Nat → Nat) × Nat × Int
  | (block, cdefSrc, srcRow) =>
    (l.copyRow pixel16 src srcRow cdefSrc block, cdefSrc + stride, srcRow + 1)

end PrepareLocals

/-- The iterations of `int y = 0; do { ... } while (++y < count);`. -/
def incrementLoopCount (count : Nat) : Nat := max 1 count

/-- `PrepareCdefBlock` for one plane: the top `kCdefBorder` rows, the body and the
bottom rows into the plane's slice of the scratch, `stride` samples a row. -/
def prepareCdefPlane (pixel16 : Bool) (pf : PostFilter) (stride : Nat)
    (blockWidth4x4 blockHeight4x4 row4x4 column4x4 : Nat) (block : Nat → Nat) (plane : Nat) :
    Nat → Nat :=
  let l := prepareLocals pf blockWidth4x4 blockHeight4x4 row4x4 column4x4 plane
  let src := pf.source plane
  let srcBuffer : Int := l.startY - if l.isFrameTop then 0 else kCdefBorder
  let cdefSrc := plane * stride * stride + kCdefBorder
  let top := (l.borderRowStep pixel16 src l.isFrameTop stride)^[kCdefBorder]
    (block, cdefSrc, srcBuffer)
  let body := (l.bodyRowStep pixel16 src stride)^[incrementLoopCount l.blockHeight] top
  ((l.borderRowStep pixel16 src l.isFrameBottom stride)^[incrementLoopCount
    (kCdefBorder + l.unitHeight - l.blockHeight)] body).1

/-- `PrepareCdefBlock`: every plane of the unit, each in its slice of the scratch. -/
def prepareCdefBlock (pixel16 : Bool) (pf : PostFilter) (stride : Nat)
    (blockWidth4x4 blockHeight4x4 row4x4 column4x4 : Nat) (block : Nat → Nat) : Nat → Nat :=
  (List.range pf.planes).foldl
    (prepareCdefPlane pixel16 pf stride blockWidth4x4 blockHeight4x4 row4x4 column4x4) block

/-- What `PrepareCdefBlock` needs of one axis of a unit: the block starts at `start` and
is `block` samples long, the aligned unit is the block, it ends inside the plane's grid
of `grid` samples, the low and high edge tests hold exactly at the grid's edges, and away
from an edge there are `kCdefBorder` samples of the grid beyond the block. -/
structure AxisFacts (start block unit grid : Nat) (isLow isHigh : Bool) : Prop where
  unit_eq : unit = block
  block_pos : 0 < block
  block_le : block ≤ 64
  high_le : start + block ≤ grid
  isHigh_iff : isHigh = true ↔ start + block = grid
  border_high : isHigh = false → start + block + kCdefBorder ≤ grid
  isLow_iff : isLow = true ↔ start = 0
  border_low : isLow = false → kCdefBorder ≤ start

/-- One axis of a unit `size4x4` 4x4 blocks long from 4x4 position `start4x4`, in a grid of
`grid4x4 = 2·⌈dimension / 8⌉` blocks, at a subsampling of at most one: the facts
`PrepareCdefBlock` needs of the locals it computes for the axis. -/
theorem axisFacts_of {start4x4 size4x4 grid4x4 dimension subsampling : Nat}
    (hsubsampling : subsampling ≤ 1) (hgrid : grid4x4 = 2 * ((dimension + 7) / 8))
    (hstart : start4x4 % 2 = 0) (heven : size4x4 % 2 = 0) (hpos : 2 ≤ size4x4)
    (hle : size4x4 ≤ 16) (hend : start4x4 + size4x4 ≤ grid4x4) :
    AxisFacts ((4 * start4x4) >>> subsampling) ((4 * size4x4) >>> subsampling)
      (align ((4 * size4x4) >>> subsampling) (if subsampling > 0 then 4 else 8))
      ((4 * grid4x4) >>> subsampling) (start4x4 == 0)
      (decide ((4 * start4x4) >>> subsampling + (4 * size4x4) >>> subsampling ≥
        rightShiftWithRounding dimension subsampling)) := by
  -- the even position and size, and the grid through `(dimension + 7) / 8`, as linear facts
  obtain ⟨a, rfl⟩ : ∃ a, start4x4 = 2 * a := ⟨start4x4 / 2, by omega⟩
  obtain ⟨b, rfl⟩ : ∃ b, size4x4 = 2 * b := ⟨size4x4 / 2, by omega⟩
  have hdimension := Nat.div_add_mod (dimension + 7) 8
  have := Nat.mod_lt (dimension + 7) (by decide : 0 < 8)
  subst hgrid
  generalize (dimension + 7) / 8 = D at *
  generalize (dimension + 7) % 8 = R at *
  clear hstart heven
  rcases (by omega : subsampling = 0 ∨ subsampling = 1) with rfl | rfl <;>
    simp only [Nat.shiftRight_zero, Nat.shiftRight_one, rightShiftWithRounding_zero,
      rightShiftWithRounding_one, align, gt_iff_lt, Nat.lt_irrefl, Nat.zero_lt_one, if_true,
      if_false] <;>
    refine ⟨?_, ?_, ?_, ?_, ?_, ?_, ?_, ?_⟩ <;>
    (try simp only [decide_eq_true_eq, decide_eq_false_iff_not, beq_iff_eq, beq_eq_false_iff_ne,
      kCdefBorder]) <;> omega

section Geometry

variable {pf : PostFilter} {blockWidth4x4 blockHeight4x4 row4x4 column4x4 : Nat}
  (hu : pf.DriverUnit blockWidth4x4 blockHeight4x4 row4x4 column4x4) {plane : Nat}
  {l : PrepareLocals} (hl : prepareLocals pf blockWidth4x4 blockHeight4x4 row4x4 column4x4 plane = l)
include hu hl

theorem axisFacts_x :
    AxisFacts l.startX l.blockWidth l.unitWidth (pf.gridWidth plane) l.isFrameLeft
      l.isFrameRight := by
  subst hl
  exact axisFacts_of (pf.subsamplingX_le plane) pf.columns4x4_eq
    (by have := hu.column_mod; omega) hu.width_even hu.width_pos hu.width_le hu.right_le

theorem axisFacts_y :
    AxisFacts l.startY l.blockHeight l.unitHeight (pf.gridHeight plane) l.isFrameTop
      l.isFrameBottom := by
  subst hl
  exact axisFacts_of (pf.subsamplingY_le plane) pf.rows4x4_eq hu.row_even hu.height_even
    hu.height_pos (by have := hu.height_le; omega) hu.bottom_le

/-- The body loop runs once a row of the block and the bottom loop `kCdefBorder` times:
neither do-while is entered with a count below one. -/
theorem prepareLoopCounts :
    incrementLoopCount l.blockHeight = l.blockHeight ∧
      incrementLoopCount (kCdefBorder + l.unitHeight - l.blockHeight) = kCdefBorder := by
  have hy := axisFacts_y hu hl
  have := hy.block_pos
  simp only [incrementLoopCount, hy.unit_eq, kCdefBorder]
  omega

end Geometry

/-- The scratch contents the unit at `(row4x4, column4x4)` should leave: sample
`(r, c)` of plane `p`'s slice of `stride × stride` samples holds `available` at the
position `kCdefBorder` rows and columns above and left of `(start_y + r, start_x + c)`. -/
def PostFilter.cdefScratch (pf : PostFilter) (stride row4x4 column4x4 index : Nat) : Nat :=
  let plane := index / (stride * stride)
  let offset := index % (stride * stride)
  pf.available plane
    ((((4 * row4x4) >>> pf.subsamplingY plane) + offset / stride : Nat) - kCdefBorder : Int)
    ((((4 * column4x4) >>> pf.subsamplingX plane) + offset % stride : Nat) - kCdefBorder : Int)

theorem cdefScratch_slice (pf : PostFilter) {stride r c : Nat} (hr : r < stride)
    (hc : c < stride) (row4x4 column4x4 plane : Nat) :
    pf.cdefScratch stride row4x4 column4x4 (plane * stride * stride + r * stride + c) =
      pf.available plane
        ((((4 * row4x4) >>> pf.subsamplingY plane) + r : Nat) - kCdefBorder : Int)
        ((((4 * column4x4) >>> pf.subsamplingX plane) + c : Nat) - kCdefBorder : Int) := by
  have hoffset : r * stride + c < stride * stride :=
    calc r * stride + c < (r + 1) * stride := by rw [Nat.succ_mul]; omega
      _ ≤ stride * stride := Nat.mul_le_mul_right _ hr
  have hpos : 0 < stride := by omega
  have hindex : plane * stride * stride + r * stride + c =
      r * stride + c + stride * stride * plane := by rw [Nat.mul_comm (stride * stride), Nat.mul_assoc]; omega
  have hrow : (r * stride + c) / stride = r := by
    rw [Nat.add_comm, Nat.add_mul_div_right _ _ hpos, Nat.div_eq_of_lt hc, Nat.zero_add]
  have hcol : (r * stride + c) % stride = c := by
    rw [Nat.add_comm, Nat.add_mul_mod_self_right, Nat.mod_eq_of_lt hc]
  simp only [PostFilter.cdefScratch, hindex, Nat.add_mul_div_left _ _ (Nat.mul_pos hpos hpos),
    Nat.div_eq_of_lt hoffset, Nat.zero_add, Nat.add_mul_mod_self_left, Nat.mod_eq_of_lt hoffset,
    hrow, hcol]

section Rows

variable {pf : PostFilter} {blockWidth4x4 blockHeight4x4 row4x4 column4x4 : Nat}
  (hu : pf.DriverUnit blockWidth4x4 blockHeight4x4 row4x4 column4x4) {plane : Nat}
  {l : PrepareLocals} (hl : prepareLocals pf blockWidth4x4 blockHeight4x4 row4x4 column4x4 plane = l)
  (pixel16 : Bool) {stride : Nat} (hS : 64 + 2 * kCdefBorder ≤ stride)
include hu hl hS

/-- Sample `k` of scratch row `ρ` of the slice should hold `available` at
`(start_y + ρ - kCdefBorder, start_x + k - kCdefBorder)`. -/
theorem cdefScratch_row {ρ k : Nat} (hρ : ρ < l.blockHeight + 2 * kCdefBorder)
    (hk : k < l.blockWidth + 2 * kCdefBorder) :
    pf.cdefScratch stride row4x4 column4x4 (plane * stride * stride + ρ * stride + k) =
      pf.available plane ((l.startY + ρ : Nat) - kCdefBorder : Int)
        ((l.startX + k : Nat) - kCdefBorder : Int) := by
  have := (axisFacts_x hu hl).block_le
  have := (axisFacts_y hu hl).block_le
  rw [cdefScratch_slice pf (by omega) (by omega)]
  subst hl; rfl

/-- A scratch row copied from a source row inside the grid. -/
theorem copyRow_overwrites {ρ : Nat} (hρ : ρ < l.blockHeight + 2 * kCdefBorder)
    (hrow : 0 ≤ ((l.startY + ρ : Nat) : Int) - kCdefBorder ∧
      ((l.startY + ρ : Nat) : Int) - kCdefBorder < pf.gridHeight plane) :
    Overwrites (l.copyRow pixel16 (pf.source plane) ((l.startY + ρ : Nat) - kCdefBorder : Int)
        (plane * stride * stride + kCdefBorder + ρ * stride))
      (fun a => ∃ k < l.blockWidth + 2 * kCdefBorder, plane * stride * stride + ρ * stride + k = a)
      (pf.cdefScratch stride row4x4 column4x4) := by
  obtain ⟨hunit, -, -, hhigh, hright, hborderRight, hleft, hborderLeft⟩ := axisFacts_x hu hl
  have hslot := fun k (hk : k < l.blockWidth + 2 * kCdefBorder) =>
    cdefScratch_row hu hl hS hρ hk
  have hindex : ∀ k, plane * stride * stride + kCdefBorder + ρ * stride - kCdefBorder + k =
      plane * stride * stride + ρ * stride + k := fun k => by omega
  refine (copyRowForCdef_overwrites pixel16
    (fun x => pf.source plane ((l.startY + ρ : Nat) - kCdefBorder : Int) (l.startX + x))
    l.blockWidth l.unitWidth l.isFrameLeft l.isFrameRight
    (plane * stride * stride + kCdefBorder + ρ * stride) (by omega) (by rw [hunit]) (fun k hk => ?_) (fun k hk => ?_)
    (fun k hk => ?_)).congr_region fun a => ⟨?_, ?_⟩
  · rw [hindex, hslot k (by omega)]
    cases hl' : l.isFrameLeft
    · have := hborderLeft hl'
      rw [pf.available_inside hrow, if_neg Bool.false_ne_true]
      · congr 1; omega
      · omega
    · have := hleft.1 hl'
      rw [pf.available_column_outside, if_pos rfl]; omega
  · rw [show plane * stride * stride + kCdefBorder + ρ * stride + k =
      plane * stride * stride + ρ * stride + (kCdefBorder + k) by omega,
      hslot _ (by omega), pf.available_inside hrow]
    · congr 1; omega
    · omega
  · rw [hunit] at hk
    rw [show plane * stride * stride + kCdefBorder + ρ * stride + l.blockWidth + k =
      plane * stride * stride + ρ * stride + (kCdefBorder + l.blockWidth + k) by omega,
      hslot _ (by omega)]
    cases hr' : l.isFrameRight
    · have := hborderRight hr'
      rw [pf.available_inside hrow, if_neg Bool.false_ne_true]
      · congr 1; omega
      · omega
    · have := hright.1 hr'
      rw [pf.available_column_outside, if_pos rfl]; omega
  · rintro ⟨k, hk, rfl⟩; exact ⟨k, by omega, (hindex k).symm⟩
  · rintro ⟨k, hk, rfl⟩; exact ⟨k, by omega, hindex k⟩

/-- A scratch row of `kCdefLargeValue` for a source row outside the grid. -/
theorem memsetRow_overwrites {ρ : Nat} (hρ : ρ < l.blockHeight + 2 * kCdefBorder)
    (hrow : ((l.startY + ρ : Nat) : Int) - kCdefBorder < 0 ∨
      (pf.gridHeight plane : Int) ≤ ((l.startY + ρ : Nat) : Int) - kCdefBorder) :
    Overwrites (l.memsetRow (plane * stride * stride + kCdefBorder + ρ * stride))
      (fun a => ∃ k < l.blockWidth + 2 * kCdefBorder, plane * stride * stride + ρ * stride + k = a)
      (pf.cdefScratch stride row4x4 column4x4) := by
  have hx := axisFacts_x hu hl
  have hindex : ∀ k, plane * stride * stride + kCdefBorder + ρ * stride - kCdefBorder + k =
      plane * stride * stride + ρ * stride + k := fun k => by omega
  refine (fillRow_overwrites _ _ _ fun k hk => ?_).congr_region fun a => ⟨?_, ?_⟩
  · rw [hindex, cdefScratch_row hu hl hS hρ (by rw [← hx.unit_eq]; exact hk),
      pf.available_row_outside _ hrow]
  · rintro ⟨k, hk, rfl⟩; exact ⟨k, by rw [← hx.unit_eq]; exact hk, (hindex k).symm⟩
  · rintro ⟨k, hk, rfl⟩; exact ⟨k, by rw [hx.unit_eq]; exact hk, hindex k⟩

end Rows

theorem PrepareLocals.bodyRowStep_eq (l : PrepareLocals) (pixel16 : Bool) (src : Int → Int → Nat)
    (stride : Nat) : l.bodyRowStep pixel16 src stride = l.borderRowStep pixel16 src false stride := by
  funext st; rfl

/-- A loop's state split into what it wrote and where its pointers ended. -/
theorem iterate_eq_pair {β σ : Type} {step : β × σ → β × σ} {n : Nat} {x : β × σ} {p : σ}
    (h : (step^[n] x).2 = p) : step^[n] x = ((step^[n] x).1, p) :=
  Prod.ext rfl h

section Loops

variable {pf : PostFilter} {blockWidth4x4 blockHeight4x4 row4x4 column4x4 : Nat}
  (hu : pf.DriverUnit blockWidth4x4 blockHeight4x4 row4x4 column4x4) {plane : Nat}
  {l : PrepareLocals} (hl : prepareLocals pf blockWidth4x4 blockHeight4x4 row4x4 column4x4 plane = l)
  (pixel16 : Bool) {stride : Nat} (hS : 64 + 2 * kCdefBorder ≤ stride)
include hu hl hS

/-- `n` iterations of the top or bottom loop, from scratch row `ρ₀` and source row `r`:
rows outside the grid at a frame edge, rows inside it read in order otherwise. -/
theorem borderLoop_overwrites (edge : Bool) (ρ₀ n : Nat) (c : Nat)
    (hc : c = plane * stride * stride + kCdefBorder + ρ₀ * stride) (r : Int)
    (hn : ρ₀ + n ≤ l.blockHeight + 2 * kCdefBorder)
    (hout : edge = true → ∀ k < n, ((l.startY + (ρ₀ + k) : Nat) : Int) - kCdefBorder < 0 ∨
      (pf.gridHeight plane : Int) ≤ ((l.startY + (ρ₀ + k) : Nat) : Int) - kCdefBorder)
    (hin : edge = false → r = ((l.startY + ρ₀ : Nat) : Int) - kCdefBorder ∧
      ∀ k < n, 0 ≤ ((l.startY + (ρ₀ + k) : Nat) : Int) - kCdefBorder ∧
        ((l.startY + (ρ₀ + k) : Nat) : Int) - kCdefBorder < pf.gridHeight plane) :
    Overwrites (fun m => ((l.borderRowStep pixel16 (pf.source plane) edge stride)^[n]
        (m, c, r)).1)
      (fun a => ∃ k < n, ∃ j < l.blockWidth + 2 * kCdefBorder,
        plane * stride * stride + (ρ₀ + k) * stride + j = a)
      (pf.cdefScratch stride row4x4 column4x4) ∧
    ∀ m, ((l.borderRowStep pixel16 (pf.source plane) edge stride)^[n] (m, c, r)).2 =
      (plane * stride * stride + kCdefBorder + (ρ₀ + n) * stride, r + if edge then 0 else n) := by
  subst hc
  let pos : Nat → Nat × Int := fun k =>
    (plane * stride * stride + kCdefBorder + (ρ₀ + k) * stride, r + if edge then 0 else k)
  have hstart : (plane * stride * stride + kCdefBorder + ρ₀ * stride, r) = pos 0 := by
    simp [pos]
  have hnext : ∀ k, plane * stride * stride + kCdefBorder + (ρ₀ + k) * stride + stride =
      plane * stride * stride + kCdefBorder + (ρ₀ + (k + 1)) * stride := fun k => by
    rw [← Nat.add_assoc ρ₀, Nat.succ_mul]; omega
  rw [hstart]
  cases edge with
  | true =>
    have hstep : ∀ m k, l.borderRowStep pixel16 (pf.source plane) true stride (m, pos k) =
        (l.memsetRow (plane * stride * stride + kCdefBorder + (ρ₀ + k) * stride) m, pos (k + 1)) :=
      fun m k => by simp [PrepareLocals.borderRowStep, pos, hnext]
    exact Overwrites.iterate hstep n fun k hk => memsetRow_overwrites hu hl hS (by omega) (hout rfl k hk)
  | false =>
    obtain ⟨hr, hrows⟩ := hin rfl
    have hstep : ∀ m k, l.borderRowStep pixel16 (pf.source plane) false stride (m, pos k) =
        (l.copyRow pixel16 (pf.source plane) ((l.startY + (ρ₀ + k) : Nat) - kCdefBorder : Int)
          (plane * stride * stride + kCdefBorder + (ρ₀ + k) * stride) m, pos (k + 1)) :=
      fun m k => by
        have e : r + (k : Int) = ((l.startY + (ρ₀ + k) : Nat) : Int) - kCdefBorder := by
          rw [hr]; push_cast; omega
        simp only [PrepareLocals.borderRowStep, pos, hnext, Bool.false_eq_true, if_false, e]
        exact Prod.ext rfl (Prod.ext rfl (by push_cast; omega))
    exact Overwrites.iterate hstep n fun k hk =>
      copyRow_overwrites hu hl pixel16 hS (by omega) (hrows k hk)

end Loops

section Plane

variable {pf : PostFilter} {blockWidth4x4 blockHeight4x4 row4x4 column4x4 : Nat}
  (hu : pf.DriverUnit blockWidth4x4 blockHeight4x4 row4x4 column4x4)
  (pixel16 : Bool) {stride : Nat} (hS : 64 + 2 * kCdefBorder ≤ stride)
include hu hS

/-- `PrepareCdefBlock` for one plane fills the plane's bordered unit in its slice. -/
theorem prepareCdefPlane_overwrites (plane : Nat) :
    let l := prepareLocals pf blockWidth4x4 blockHeight4x4 row4x4 column4x4 plane
    Overwrites (fun block =>
        prepareCdefPlane pixel16 pf stride blockWidth4x4 blockHeight4x4 row4x4 column4x4 block plane)
      (fun a => ∃ ρ < l.blockHeight + 2 * kCdefBorder, ∃ j < l.blockWidth + 2 * kCdefBorder,
        plane * stride * stride + ρ * stride + j = a)
      (pf.cdefScratch stride row4x4 column4x4) := by
  simp only [prepareCdefPlane]
  generalize hl : prepareLocals pf blockWidth4x4 blockHeight4x4 row4x4 column4x4 plane = l
  obtain ⟨-, hpos, -, hhigh, hbottom, hborderBottom, htop, hborderTop⟩ := axisFacts_y hu hl
  obtain ⟨hcount₁, hcount₂⟩ := prepareLoopCounts hu hl
  rw [hcount₁, hcount₂, PrepareLocals.bodyRowStep_eq]
  have hloop₁ := borderLoop_overwrites hu hl pixel16 hS l.isFrameTop 0 kCdefBorder
    (plane * stride * stride + kCdefBorder) (by rw [Nat.zero_mul, Nat.add_zero])
    (l.startY - ((if l.isFrameTop = true then 0 else kCdefBorder : Nat) : Int)) (by omega)
    (fun h k hk => by have := htop.1 h; omega)
    (fun h => ⟨by simp [h], fun k hk => by have := hborderTop h; omega⟩)
  have hloop₂ := borderLoop_overwrites hu hl pixel16 hS false kCdefBorder l.blockHeight
    (plane * stride * stride + kCdefBorder + (0 + kCdefBorder) * stride) (by rw [Nat.zero_add]) (l.startY) (by omega) (fun h => absurd h Bool.false_ne_true)
    (fun _ => ⟨by omega, fun k hk => by omega⟩)
  have hloop₃ := borderLoop_overwrites hu hl pixel16 hS l.isFrameBottom
    (kCdefBorder + l.blockHeight) kCdefBorder
    (plane * stride * stride + kCdefBorder + (kCdefBorder + l.blockHeight) * stride) rfl
    ((l.startY + l.blockHeight : Nat) : Int)
    (by omega) (fun h k hk => by have := hbottom.1 h; omega)
    (fun h => ⟨by omega, fun k hk => by have := hborderBottom h; omega⟩)
  have hr₁ : ((l.startY : Int) - ((if l.isFrameTop = true then 0 else kCdefBorder : Nat) : Int)) +
      ((if l.isFrameTop = true then 0 else kCdefBorder : Nat) : Int) = l.startY := by omega
  have hr₂ : (l.startY : Int) + ((if false = true then 0 else l.blockHeight : Nat) : Int) =
      ((l.startY + l.blockHeight : Nat) : Int) := by simp
  refine ((hloop₁.1.comp hloop₂.1).comp hloop₃.1).congr_fun (fun block => ?_)
    |>.congr_region fun a => ⟨?_, ?_⟩
  · rw [iterate_eq_pair (hloop₁.2 block), hr₁, iterate_eq_pair (hloop₂.2 _), hr₂]
  · rintro ((⟨k, hk, j, hj, rfl⟩ | ⟨k, hk, j, hj, rfl⟩) | ⟨k, hk, j, hj, rfl⟩)
    · exact ⟨0 + k, by omega, j, hj, rfl⟩
    · exact ⟨kCdefBorder + k, by omega, j, hj, rfl⟩
    · exact ⟨kCdefBorder + l.blockHeight + k, by omega, j, hj, rfl⟩
  · rintro ⟨ρ, hρ, j, hj, rfl⟩
    by_cases h₁ : ρ < kCdefBorder
    · exact .inl (.inl ⟨ρ, h₁, j, hj, by rw [Nat.zero_add]⟩)
    by_cases h₂ : ρ < kCdefBorder + l.blockHeight
    · exact .inl (.inr ⟨ρ - kCdefBorder, by omega, j, hj, by rw [Nat.add_sub_cancel' (by omega)]⟩)
    · exact .inr ⟨ρ - (kCdefBorder + l.blockHeight), by omega, j, hj,
        by rw [Nat.add_sub_cancel' (by omega)]⟩

/-- `PrepareCdefBlock` fills every plane's bordered unit in its slice. -/
theorem prepareCdefBlock_overwrites :
    Overwrites (prepareCdefBlock pixel16 pf stride blockWidth4x4 blockHeight4x4 row4x4 column4x4)
      (fun a => ∃ plane ∈ List.range pf.planes,
        let l := prepareLocals pf blockWidth4x4 blockHeight4x4 row4x4 column4x4 plane
        ∃ ρ < l.blockHeight + 2 * kCdefBorder, ∃ j < l.blockWidth + 2 * kCdefBorder,
          plane * stride * stride + ρ * stride + j = a)
      (pf.cdefScratch stride row4x4 column4x4) :=
  Overwrites.foldl (List.range pf.planes) fun plane _ =>
    prepareCdefPlane_overwrites hu pixel16 hS plane

end Plane

/-- After `PrepareCdefBlock`, with either pixel width, plane `plane`'s slice holds at row
`ρ` and column `j` of the bordered unit the source sample `kCdefBorder` rows and columns
above and left of `(start_y + ρ, start_x + j)` inside the plane's 4x4 grid and
`kCdefLargeValue` outside it; the right and bottom edge tests on pixel sizes hold exactly
when the unit reaches the edge of the grid. -/
theorem prepareCdefBlock_scratch (pixel16 : Bool) (pf : PostFilter) {stride : Nat}
    (hS : 64 + 2 * kCdefBorder ≤ stride) {blockWidth4x4 blockHeight4x4 row4x4 column4x4 : Nat}
    (hu : pf.DriverUnit blockWidth4x4 blockHeight4x4 row4x4 column4x4) (block : Nat → Nat)
    {plane : Nat} (hplane : plane < pf.planes) :
    let l := prepareLocals pf blockWidth4x4 blockHeight4x4 row4x4 column4x4 plane
    (∀ ρ < l.blockHeight + 2 * kCdefBorder, ∀ j < l.blockWidth + 2 * kCdefBorder,
      prepareCdefBlock pixel16 pf stride blockWidth4x4 blockHeight4x4 row4x4 column4x4 block
          (plane * stride * stride + ρ * stride + j) =
        pf.available plane ((l.startY + ρ : Nat) - kCdefBorder : Int)
          ((l.startX + j : Nat) - kCdefBorder : Int)) ∧
    (l.planeWidth ≤ l.startX + l.blockWidth ↔ l.startX + l.blockWidth = pf.gridWidth plane) ∧
    (l.planeHeight ≤ l.startY + l.blockHeight ↔ l.startY + l.blockHeight = pf.gridHeight plane) := by
  intro l
  have hx := axisFacts_x hu (rfl : _ = l)
  have hy := axisFacts_y hu (rfl : _ = l)
  refine ⟨fun ρ hρ j hj => ?_, ?_, ?_⟩
  · rw [(prepareCdefBlock_overwrites hu pixel16 hS).hit block _
      ⟨plane, List.mem_range.2 hplane, ρ, hρ, j, hj, rfl⟩]
    exact cdefScratch_row hu rfl hS hρ hj
  · simpa [l, prepareLocals] using hx.isHigh_iff
  · simpa [l, prepareLocals] using hy.isHigh_iff

theorem prepareCdefBlock_scratch_ramp16x200 :
    64 + 2 * kCdefBorder ≤ 70 ∧ PostFilter.ramp16x200.DriverUnit 2 2 16 0 ∧
      1 < PostFilter.ramp16x200.planes ∧
    let l := prepareLocals PostFilter.ramp16x200 2 2 16 0 1
    (∀ ρ < l.blockHeight + 2 * kCdefBorder, ∀ j < l.blockWidth + 2 * kCdefBorder,
      prepareCdefBlock true PostFilter.ramp16x200 70 2 2 16 0 (fun _ => 0)
          (1 * 70 * 70 + ρ * 70 + j) =
        PostFilter.ramp16x200.available 1 ((l.startY + ρ : Nat) - kCdefBorder : Int)
          ((l.startX + j : Nat) - kCdefBorder : Int)) ∧
    (l.planeWidth ≤ l.startX + l.blockWidth ↔
      l.startX + l.blockWidth = PostFilter.ramp16x200.gridWidth 1) ∧
    (l.planeHeight ≤ l.startY + l.blockHeight ↔
      l.startY + l.blockHeight = PostFilter.ramp16x200.gridHeight 1) :=
  ⟨by decide, PostFilter.ramp16x200_driverUnit, by decide,
    prepareCdefBlock_scratch true PostFilter.ramp16x200 (by decide)
      PostFilter.ramp16x200_driverUnit (fun _ => 0) (by decide)⟩

end Libgav1
