/-
# One CDEF unit

`ApplyCdefForOneUnit` filters a unit of at most 64x64 luma samples, all of it in
one 64x64 cell and so under one strength index: it copies the unit unfiltered
when the index is -1, and otherwise prepares the bordered scratch block and
walks the unit's 8x8 luma blocks row by row, each block plane by plane, copying
skipped or zero-strength blocks and handing the others to `cdef_filter`. The
output goes where `GetCdefBufferAndStride` points: the window buffer when a
thread pool exists, `cdef_buffer_` otherwise.

The main result, `applyCdefForOneUnit_overwrites`, says that on every unit the
drivers pass the call writes, at each sample of the unit in every plane, the
value `cdefReference` gives, and nothing else; every store of the call writes
that final value.
-/

import Libgav1.Cdef.Prepare

namespace Libgav1

/-- The window buffer of the threaded pass: `window_buffer_width_` and
`window_buffer_height_`, positive multiples of 64, and the thread pool's
`num_threads()`. -/
structure CdefWindow where
  windowBufferWidth : Nat
  windowBufferHeight : Nat
  numThreads : Nat
  width_mod : windowBufferWidth % 64 = 0
  width_pos : 0 < windowBufferWidth
  height_mod : windowBufferHeight % 64 = 0
  height_pos : 0 < windowBufferHeight
  numThreads_pos : 0 < numThreads

/-- `GetCdefBufferAndStride`: where the output of plane `plane` at `(start_y, start_x)`
goes and the row stride there. With a thread pool it is the plane's slice of the window
buffer, at the position modulo the window; otherwise `cdef_buffer_`, whose stride plays
no part in its addresses. -/
def getCdefBufferAndStride (pf : PostFilter) (threadPool : Option CdefWindow)
    (startX startY plane windowBufferPlaneSize : Nat) : CdefAddr × Nat :=
  match threadPool with
  | some w =>
    let cdefStride := w.windowBufferWidth
    let columnWindow := startX % (w.windowBufferWidth >>> pf.subsamplingX plane)
    let rowWindow := startY % (w.windowBufferHeight >>> pf.subsamplingY plane)
    (.window (plane * windowBufferPlaneSize + rowWindow * cdefStride + columnWindow), cdefStride)
  | none => (.frame plane startY startX, 0)

/-- The `rows × cols` samples of the scratch block from `origin`, `stride` apart, zero
outside them: what `cdef_filter` reads around its block. -/
def scratchWindow (block : Nat → Nat) (origin stride rows cols : Nat) (i j : Nat) : Nat :=
  if i < rows ∧ j < cols then block (origin + i * stride + j) else 0

/-- The pointers `ApplyCdefForOneUnit` advances over the unit, for the current 8x8
block: per plane the output (`cdef_buffer_base`) and the source position
(`src_buffer_base`), the two rows of `block_parameters_` (`bp0`, `bp1`) and the loop
counters. -/
structure UnitCursor where
  cdefBuffer : Nat → CdefAddr
  srcRow : Nat → Nat
  srcColumn : Nat → Nat
  bp0 : Nat
  bp1 : Nat
  row4x4 : Nat
  column4x4 : Nat

namespace UnitCursor

variable (pf : PostFilter) (cdefStride : Nat → Nat)

/-- The end of the column loop's body: every pointer one 8x8 block to the right. -/
def advanceColumn (cur : UnitCursor) : UnitCursor where
  cdefBuffer plane := (cur.cdefBuffer plane).offset (cdefStride plane) 0 (8 >>> pf.subsamplingX plane)
  srcRow := cur.srcRow
  srcColumn plane := cur.srcColumn plane + (8 >>> pf.subsamplingX plane)
  bp0 := cur.bp0 + 2
  bp1 := cur.bp1 + 2
  row4x4 := cur.row4x4
  column4x4 := cur.column4x4 + 2

/-- The end of the row loop's body: every row base one 8x8 block down. -/
def advanceRow (cur : UnitCursor) : UnitCursor where
  cdefBuffer plane := (cur.cdefBuffer plane).offset (cdefStride plane) (8 >>> pf.subsamplingY plane) 0
  srcRow plane := cur.srcRow plane + (8 >>> pf.subsamplingY plane)
  srcColumn := cur.srcColumn
  bp0 := cur.bp0 + 2 * pf.columns4x4
  bp1 := cur.bp1 + 2 * pf.columns4x4
  row4x4 := cur.row4x4 + 2
  column4x4 := cur.column4x4

end UnitCursor

/-- The strengths and direction `ApplyCdefForOneUnit` uses for plane `plane` of a block,
and the luma direction it leaves in `direction_y`. For luma the direction and variance
come from `cdef_direction` when `compute_direction_and_variance` holds and are the
previous `direction_y` and 0 otherwise, and the primary strength is scaled by the
variance and stored in a `uint8_t`; chroma remaps `direction_y`. -/
def blockStrengths (pf : PostFilter) (dsp : Dsp) (index : Int) (computeDirectionAndVariance : Bool)
    (srcRow srcColumn plane : Nat) (directionY : Fin 8) : Fin 8 × CdefStrengths :=
  let k := index.toNat
  if plane = 0 then
    let directionAndVariance :=
      if computeDirectionAndVariance then dsp.cdefDirection (pf.directionBlock srcRow srcColumn)
      else (directionY, 0)
    let variance := directionAndVariance.2
    let primaryStrength := (pf.cdef.yPrimaryStrength k).toNat
    let varianceStrength :=
      if variance >>> 6 ≠ 0 then min (floorLog2 (variance >>> 6)) 12 else 0
    (directionAndVariance.1,
      { primaryStrength :=
          (if variance ≠ 0 then (primaryStrength * (4 + varianceStrength) + 8) >>> 4 else 0) % 256
        secondaryStrength := (pf.cdef.ySecondaryStrength k).toNat
        direction := if primaryStrength = 0 then 0 else directionAndVariance.1.val })
  else
    let primaryStrength := (pf.cdef.uvPrimaryStrength k).toNat
    (directionY,
      { primaryStrength
        secondaryStrength := (pf.cdef.uvSecondaryStrength k).toNat
        direction := if primaryStrength = 0 then 0
          else cdefUvDirection (pf.subsamplingX plane) (pf.subsamplingY plane) directionY.val })

/-- `cdef_src` of the plane loop: the block's place in its plane's slice of the scratch
block, past the border. -/
def cdefSource (pf : PostFilter) (stride row4x4Start column4x4Start : Nat) (cur : UnitCursor)
    (plane : Nat) : Nat :=
  plane * stride * stride + kCdefBorder * stride + kCdefBorder +
    ((4 * (cur.row4x4 - row4x4Start)) >>> pf.subsamplingY plane) * stride +
    ((4 * (cur.column4x4 - column4x4Start)) >>> pf.subsamplingX plane)

/-- The body of the plane loop for one 8x8 block: copy it when skipped or when both
strengths are zero, otherwise `cdef_filter` it from the scratch block, `stride` samples
a row. The state is the output memory and `direction_y`. -/
def applyCdefBlockPlane (pf : PostFilter) (dsp : Dsp) (stride : Nat) (cdefBlock : Nat → Nat)
    (index : Int) (computeDirectionAndVariance skip : Bool) (row4x4Start column4x4Start : Nat)
    (cdefStride : Nat → Nat) (cur : UnitCursor) (st : (CdefAddr → Nat) × Fin 8) (plane : Nat) :
    (CdefAddr → Nat) × Fin 8 :=
  let blockWidth := 8 >>> pf.subsamplingX plane
  let blockHeight := 8 >>> pf.subsamplingY plane
  let copied := copyPixels (pf.source plane) (cur.srcRow plane) (cur.srcColumn plane)
    (cur.cdefBuffer plane) (cdefStride plane) blockWidth blockHeight st.1
  if skip then (copied, st.2)
  else
    let strengths := blockStrengths pf dsp index computeDirectionAndVariance (cur.srcRow plane)
      (cur.srcColumn plane) plane st.2
    let s := strengths.2
    if s.primaryStrength ||| s.secondaryStrength = 0 then (copied, strengths.1)
    else
      let cdefSrc := cdefSource pf stride row4x4Start column4x4Start cur plane
      let filtered := dsp.cdefFilter
        (scratchWindow cdefBlock (cdefSrc - kCdefBorder * stride - kCdefBorder) stride
          (blockHeight + 2 * kCdefBorder) (blockWidth + 2 * kCdefBorder))
        blockWidth blockHeight s.primaryStrength s.secondaryStrength
        (pf.cdef.damping - if plane = 0 then 0 else 1) s.direction
      (writeBlock (cur.cdefBuffer plane) (cdefStride plane) blockWidth filtered blockHeight st.1,
        strengths.1)

/-- The body of the column loop: the block's skip flag from its four 4x4 blocks, then
every plane, `direction_y` starting undefined (0 in the model). -/
def applyCdefBlock (pf : PostFilter) (dsp : Dsp) (stride : Nat) (cdefBlock : Nat → Nat)
    (index : Int) (computeDirectionAndVariance : Bool) (row4x4Start column4x4Start : Nat)
    (cdefStride : Nat → Nat) (cur : UnitCursor) (mem : CdefAddr → Nat) : CdefAddr → Nat :=
  let skip := pf.skipAt cur.bp0 && pf.skipAt (cur.bp0 + 1) && pf.skipAt cur.bp1 &&
    pf.skipAt (cur.bp1 + 1)
  ((List.range pf.planes).foldl
    (applyCdefBlockPlane pf dsp stride cdefBlock index computeDirectionAndVariance skip
      row4x4Start column4x4Start cdefStride cur) (mem, 0)).1

/-- The iterations of `do { ...; counter += 2; } while (counter < start + extent);`
from `counter = start`. -/
def stepLoopCount (extent : Nat) : Nat := max 1 ((extent + 1) / 2)

/-- One iteration of the column loop. -/
def columnStep (pf : PostFilter) (dsp : Dsp) (stride : Nat) (cdefBlock : Nat → Nat)
    (index : Int) (computeDirectionAndVariance : Bool) (row4x4Start column4x4Start : Nat)
    (cdefStride : Nat → Nat) :
    (CdefAddr → Nat) × UnitCursor → (CdefAddr → Nat) × UnitCursor
  | (mem, cur) =>
    (applyCdefBlock pf dsp stride cdefBlock index computeDirectionAndVariance row4x4Start
      column4x4Start cdefStride cur mem, cur.advanceColumn pf cdefStride)

/-- One iteration of the row loop: the column loop over the row from its row bases,
then the row bases one block down. -/
def rowStep (pf : PostFilter) (dsp : Dsp) (stride : Nat) (cdefBlock : Nat → Nat)
    (index : Int) (computeDirectionAndVariance : Bool) (blockWidth4x4 row4x4Start column4x4Start : Nat)
    (cdefStride : Nat → Nat) :
    (CdefAddr → Nat) × UnitCursor → (CdefAddr → Nat) × UnitCursor
  | (mem, cur) =>
    (((columnStep pf dsp stride cdefBlock index computeDirectionAndVariance row4x4Start
      column4x4Start cdefStride)^[stepLoopCount blockWidth4x4] (mem, cur)).1,
      cur.advanceRow pf cdefStride)

/-- The output pointer and stride of every plane for the unit at
`(row4x4Start, column4x4Start)`. -/
def unitDestination (pf : PostFilter) (threadPool : Option CdefWindow) (row4x4Start column4x4Start : Nat)
    (plane : Nat) : CdefAddr × Nat :=
  let windowBufferPlaneSize :=
    match threadPool with
    | some w => w.windowBufferWidth * w.windowBufferHeight
    | none => 0
  getCdefBufferAndStride pf threadPool ((4 * column4x4Start) >>> pf.subsamplingX plane)
    ((4 * row4x4Start) >>> pf.subsamplingY plane) plane windowBufferPlaneSize

/-- The pointers at the unit's first block. -/
def unitStart (pf : PostFilter) (threadPool : Option CdefWindow) (row4x4Start column4x4Start : Nat) :
    UnitCursor where
  cdefBuffer plane := (unitDestination pf threadPool row4x4Start column4x4Start plane).1
  srcRow plane := (4 * row4x4Start) >>> pf.subsamplingY plane
  srcColumn plane := (4 * column4x4Start) >>> pf.subsamplingX plane
  bp0 := row4x4Start * pf.columns4x4 + column4x4Start
  bp1 := row4x4Start * pf.columns4x4 + column4x4Start + pf.columns4x4
  row4x4 := row4x4Start
  column4x4 := column4x4Start

/-- `ApplyCdefForOneUnit`, with scratch block `cdefBlock` of `stride × stride` samples a
plane: the scratch and the output memory after the call. -/
def applyCdefForOneUnit (pixel16 : Bool) (pf : PostFilter) (dsp : Dsp)
    (threadPool : Option CdefWindow) (stride : Nat) (cdefBlock : Nat → Nat) (index : Int)
    (blockWidth4x4 blockHeight4x4 row4x4Start column4x4Start : Nat) (mem : CdefAddr → Nat) :
    (Nat → Nat) × (CdefAddr → Nat) :=
  let cdefStride plane := (unitDestination pf threadPool row4x4Start column4x4Start plane).2
  let start := unitStart pf threadPool row4x4Start column4x4Start
  if index = -1 then
    (cdefBlock, (List.range pf.planes).foldl (fun mem plane =>
      copyPixels (pf.source plane) (start.srcRow plane) (start.srcColumn plane)
        (start.cdefBuffer plane) (cdefStride plane) ((4 * blockWidth4x4) >>> pf.subsamplingX plane)
        ((4 * blockHeight4x4) >>> pf.subsamplingY plane) mem) mem)
  else
    let cdefBlock := prepareCdefBlock pixel16 pf stride blockWidth4x4 blockHeight4x4
      row4x4Start column4x4Start cdefBlock
    let k := index.toNat
    let computeDirectionAndVariance :=
      (pf.cdef.yPrimaryStrength k).toNat ||| (pf.cdef.uvPrimaryStrength k).toNat != 0
    (cdefBlock, ((rowStep pf dsp stride cdefBlock index computeDirectionAndVariance blockWidth4x4
      row4x4Start column4x4Start cdefStride)^[stepLoopCount blockHeight4x4] (mem, start)).1)

/-- The code's strengths and direction for a block are the specification's: luma scales
its primary strength by the variance `cdef_direction` returns (the `uint8_t` store
loses nothing, the scaled strength being at most the configured one), and chroma
remaps the direction plane 0 left in `direction_y`. -/
theorem blockStrengths_eq (pf : PostFilter) (dsp : Dsp) {index : Int} {computeDirectionAndVariance : Bool}
    {srcRow srcColumn plane r c : Nat} {directionY : Fin 8}
    (hcompute : computeDirectionAndVariance = ((pf.cdef.yPrimaryStrength index.toNat).toNat |||
      (pf.cdef.uvPrimaryStrength index.toNat).toNat != 0))
    (hluma : plane = 0 → srcRow = 4 * r ∧ srcColumn = 4 * c)
    (hchroma : plane ≠ 0 → (pf.cdef.uvPrimaryStrength index.toNat).toNat ≠ 0 →
      directionY = (dsp.cdefDirection (pf.directionBlock (4 * r) (4 * c))).1) :
    (blockStrengths pf dsp index computeDirectionAndVariance srcRow srcColumn plane directionY).2 =
      pf.cdefStrengths dsp plane r c index.toNat := by
  by_cases hplane : plane = 0
  · obtain ⟨rfl, rfl⟩ := hluma hplane
    cases computeDirectionAndVariance with
    | false =>
      have hzero := (lor_eq_zero_iff.1 (by simpa using hcompute.symm)).1
      simp [blockStrengths, PostFilter.cdefStrengths, hplane, hzero, effectivePrimary]
    | true =>
      have hbound := (effectivePrimary_le (dsp.cdefDirection (pf.directionBlock (4 * r) (4 * c))).2
        (pf.cdef.yPrimaryStrength index.toNat).toNat).trans_lt (UInt8.toNat_lt_size _)
      simp only [blockStrengths, PostFilter.cdefStrengths, hplane, if_true]
      rw [← effectivePrimary, Nat.mod_eq_of_lt hbound]
  · simp only [blockStrengths, PostFilter.cdefStrengths, hplane, if_false]
    by_cases hprimary : (pf.cdef.uvPrimaryStrength index.toNat).toNat = 0
    · simp [hprimary]
    · simp [hprimary, hchroma hplane hprimary]

/-- The luma primary strength `ApplyCdefForOneUnit` stores in its `uint8_t` is the configured
strength scaled by the variance `cdef_direction` returned (0 when it was not computed),
untruncated. For every variance the scaled strength is at most the configured one, it
grows with the variance, and from a variance of `2^18` on it is the configured one. -/
theorem effectivePrimary_strength :
    (∀ (pf : PostFilter) (dsp : Dsp) (index : Int) (computeDirectionAndVariance : Bool)
        (srcRow srcColumn : Nat) (directionY : Fin 8),
      (blockStrengths pf dsp index computeDirectionAndVariance srcRow srcColumn 0
          directionY).2.primaryStrength =
        effectivePrimary
          (if computeDirectionAndVariance then (dsp.cdefDirection (pf.directionBlock srcRow srcColumn)).2
            else 0)
          (pf.cdef.yPrimaryStrength index.toNat).toNat) ∧
    (∀ variance primary : Nat, effectivePrimary variance primary ≤ primary) ∧
    (∀ primary variance variance' : Nat, variance ≤ variance' →
      effectivePrimary variance primary ≤ effectivePrimary variance' primary) ∧
    ∀ primary variance : Nat, 2 ^ 18 ≤ variance → effectivePrimary variance primary = primary := by
  refine ⟨fun pf dsp index compute srcRow srcColumn directionY => ?_, effectivePrimary_le,
    fun primary _ _ => effectivePrimary_mono primary, fun primary _ => effectivePrimary_of_le primary⟩
  have hstore := fun variance => (effectivePrimary_le variance
    (pf.cdef.yPrimaryStrength index.toNat).toNat).trans_lt (UInt8.toNat_lt_size _)
  cases compute
  · exact Nat.mod_eq_of_lt (hstore 0)
  · exact Nat.mod_eq_of_lt (hstore _)

/-- The skip flag of the 4x4 block at `(r, c)`, read through its flat address. -/
theorem PostFilter.skipAt_address (pf : PostFilter) {r c : Nat} (hc : c < pf.columns4x4) :
    pf.skipAt (r * pf.columns4x4 + c) = pf.skip r c := by
  have hpos : 0 < pf.columns4x4 := by omega
  simp only [PostFilter.skipAt, Nat.add_comm (r * pf.columns4x4), Nat.add_mul_div_right _ _ hpos,
    Nat.div_eq_of_lt hc, Nat.zero_add, Nat.add_mul_mod_self_right, Nat.mod_eq_of_lt hc]

/-- The cursor stands at the 8x8 block at 4x4 position `(r, c)`. -/
structure UnitCursor.At (pf : PostFilter) (cur : UnitCursor) (r c : Nat) : Prop where
  row4x4 : cur.row4x4 = r
  column4x4 : cur.column4x4 = c
  bp0 : cur.bp0 = r * pf.columns4x4 + c
  bp1 : cur.bp1 = (r + 1) * pf.columns4x4 + c
  srcRow : ∀ plane, cur.srcRow plane = (4 * r) >>> pf.subsamplingY plane
  srcColumn : ∀ plane, cur.srcColumn plane = (4 * c) >>> pf.subsamplingX plane

theorem UnitCursor.At.skip {pf : PostFilter} {cur : UnitCursor} {r c : Nat} (hat : cur.At pf r c)
    (hc : c + 2 ≤ pf.columns4x4) :
    (pf.skipAt cur.bp0 && pf.skipAt (cur.bp0 + 1) && pf.skipAt cur.bp1 && pf.skipAt (cur.bp1 + 1)) =
      pf.allSkip r c := by
  rw [hat.bp0, hat.bp1, Nat.add_assoc, Nat.add_assoc, pf.skipAt_address (by omega),
    pf.skipAt_address (by omega), pf.skipAt_address (by omega), pf.skipAt_address (by omega),
    PostFilter.allSkip]

section BlockPlane

variable {pf : PostFilter} {dsp : Dsp} {stride : Nat} {cdefBlock : Nat → Nat} {index : Int}
  {computeDirectionAndVariance skip : Bool} {row4x4Start column4x4Start : Nat}
  {cdefStride : Nat → Nat} {cur : UnitCursor} {r c : Nat} (hat : cur.At pf r c)
  (hindex : index = pf.cdefIndex (r / 16) (c / 16)) (hvalid : index ≠ -1)
  (hskip : skip = pf.allSkip r c)
  (hcompute : computeDirectionAndVariance = ((pf.cdef.yPrimaryStrength index.toNat).toNat |||
    (pf.cdef.uvPrimaryStrength index.toNat).toNat != 0))
include hat hindex hvalid hskip hcompute

/-- The body of the plane loop writes the specification's block: a copy of the source
when the block is skipped or has no strength, `cdef_filter` on the block's neighbourhood
otherwise. -/
theorem applyCdefBlockPlane_overwrites {plane : Nat} {directionY : Fin 8}
    (hchroma : plane ≠ 0 → skip = false → (pf.cdef.uvPrimaryStrength index.toNat).toNat ≠ 0 →
      directionY = (dsp.cdefDirection (pf.directionBlock (4 * r) (4 * c))).1)
    (hscratch : scratchWindow cdefBlock
        (cdefSource pf stride row4x4Start column4x4Start cur plane - kCdefBorder * stride - kCdefBorder)
        stride ((8 >>> pf.subsamplingY plane) + 2 * kCdefBorder)
        ((8 >>> pf.subsamplingX plane) + 2 * kCdefBorder) = pf.neighbourhood plane r c)
    {V : CdefAddr → Nat}
    (hV : ∀ i < 8 >>> pf.subsamplingY plane, ∀ j < 8 >>> pf.subsamplingX plane,
      V ((cur.cdefBuffer plane).offset (cdefStride plane) i j) = pf.cdefBlock dsp plane r c i j) :
    Overwrites (fun mem => (applyCdefBlockPlane pf dsp stride cdefBlock index
        computeDirectionAndVariance skip row4x4Start column4x4Start cdefStride cur (mem, directionY)
        plane).1)
      (blockRegion (cur.cdefBuffer plane) (cdefStride plane) (8 >>> pf.subsamplingY plane)
        (8 >>> pf.subsamplingX plane)) V := by
  have hunfiltered : (pf.allSkip r c = true ∨
      (pf.cdefStrengths dsp plane r c index.toNat).primaryStrength = 0 ∧
        (pf.cdefStrengths dsp plane r c index.toNat).secondaryStrength = 0) →
      Overwrites (fun mem => copyPixels (pf.source plane) (cur.srcRow plane) (cur.srcColumn plane)
        (cur.cdefBuffer plane) (cdefStride plane) (8 >>> pf.subsamplingX plane)
        (8 >>> pf.subsamplingY plane) mem)
      (blockRegion (cur.cdefBuffer plane) (cdefStride plane) (8 >>> pf.subsamplingY plane)
        (8 >>> pf.subsamplingX plane)) V := fun h =>
    copyPixels_overwrites _ _ _ _ _ _ _ (by rcases pf.subsamplingY_cases plane with h | h <;>
      simp [h]) fun i hi j hj => by
      rw [hV i hi j hj, hat.srcRow, hat.srcColumn]
      simp only [PostFilter.cdefBlock, ← hindex]
      rcases h with h | h <;> simp [h]
  simp only [applyCdefBlockPlane]
  cases hs : skip
  · have hluma : plane = 0 → cur.srcRow plane = 4 * r ∧ cur.srcColumn plane = 4 * c := fun h =>
      ⟨by rw [hat.srcRow, h, pf.subsamplingY_luma, Nat.shiftRight_zero],
        by rw [hat.srcColumn, h, pf.subsamplingX_luma, Nat.shiftRight_zero]⟩
    have hstrengths := blockStrengths_eq pf dsp hcompute hluma fun h₁ h₂ => hchroma h₁ hs h₂
    simp only [Bool.false_eq_true, if_false, hstrengths, lor_eq_zero_iff]
    split
    · exact hunfiltered (.inr ‹_›)
    · refine writeBlock_overwrites _ _ _ _ _ fun i hi j hj => ?_
      rw [hV i hi j hj, PostFilter.cdefBlock, ← hindex, hscratch, ← hskip, hs]
      simp only [Bool.false_eq_true, or_false, hvalid, if_false, if_neg ‹_›]
  · exact hunfiltered (.inl (hskip ▸ hs))

end BlockPlane

/-- A fold whose second component no step changes. -/
theorem foldl_snd_const {β γ ι : Type} (f : β × γ → ι → β × γ) (l : List ι)
    (h : ∀ p ∈ l, ∀ st, (f st p).2 = st.2) (x : β × γ) :
    l.foldl f x = (l.foldl (fun m p => (f (m, x.2) p).1) x.1, x.2) := by
  induction l generalizing x with
  | nil => rfl
  | cons p l ih =>
    rw [List.foldl_cons, ih (fun p hp => h p (List.mem_cons_of_mem _ hp)),
      h p (List.mem_cons_self p l)]
    rfl

/-- The luma direction `blockStrengths` leaves in `direction_y`: from `cdef_direction`
for plane 0 when `compute_direction_and_variance` holds, unchanged otherwise. -/
theorem blockStrengths_fst (pf : PostFilter) (dsp : Dsp) (index : Int)
    (computeDirectionAndVariance : Bool) (srcRow srcColumn plane : Nat) (directionY : Fin 8) :
    (blockStrengths pf dsp index computeDirectionAndVariance srcRow srcColumn plane directionY).1 =
      if plane = 0 ∧ computeDirectionAndVariance = true then
        (dsp.cdefDirection (pf.directionBlock srcRow srcColumn)).1
      else directionY := by
  by_cases hplane : plane = 0 <;> cases computeDirectionAndVariance <;>
    simp [blockStrengths, hplane]

/-- What the plane loop leaves in `direction_y`: the value `blockStrengths` leaves, or
the previous one for a skipped block. -/
theorem applyCdefBlockPlane_snd (pf : PostFilter) (dsp : Dsp) (stride : Nat)
    (cdefBlock : Nat → Nat) (index : Int) (computeDirectionAndVariance skip : Bool)
    (row4x4Start column4x4Start : Nat) (cdefStride : Nat → Nat) (cur : UnitCursor)
    (st : (CdefAddr → Nat) × Fin 8) (plane : Nat) :
    (applyCdefBlockPlane pf dsp stride cdefBlock index computeDirectionAndVariance skip row4x4Start
      column4x4Start cdefStride cur st plane).2 =
      if skip then st.2
      else (blockStrengths pf dsp index computeDirectionAndVariance (cur.srcRow plane)
        (cur.srcColumn plane) plane st.2).1 := by
  simp only [applyCdefBlockPlane]
  split
  · rfl
  · split <;> rfl

section Block

variable {pf : PostFilter} {dsp : Dsp} {stride : Nat} {cdefBlock : Nat → Nat} {index : Int}
  {computeDirectionAndVariance : Bool} {row4x4Start column4x4Start : Nat}
  {cdefStride : Nat → Nat} {cur : UnitCursor} {r c : Nat} (hat : cur.At pf r c)
  (hc : c + 2 ≤ pf.columns4x4)
  (hindex : index = pf.cdefIndex (r / 16) (c / 16)) (hvalid : index ≠ -1)
  (hcompute : computeDirectionAndVariance = ((pf.cdef.yPrimaryStrength index.toNat).toNat |||
    (pf.cdef.uvPrimaryStrength index.toNat).toNat != 0))
include hat hc hindex hvalid hcompute

/-- The body of the column loop writes the specification's block in every plane. -/
theorem applyCdefBlock_overwrites
    (hscratch : ∀ plane < pf.planes, scratchWindow cdefBlock
        (cdefSource pf stride row4x4Start column4x4Start cur plane - kCdefBorder * stride - kCdefBorder)
        stride ((8 >>> pf.subsamplingY plane) + 2 * kCdefBorder)
        ((8 >>> pf.subsamplingX plane) + 2 * kCdefBorder) = pf.neighbourhood plane r c)
    {V : CdefAddr → Nat}
    (hV : ∀ plane < pf.planes, ∀ i < 8 >>> pf.subsamplingY plane, ∀ j < 8 >>> pf.subsamplingX plane,
      V ((cur.cdefBuffer plane).offset (cdefStride plane) i j) = pf.cdefBlock dsp plane r c i j) :
    Overwrites (applyCdefBlock pf dsp stride cdefBlock index computeDirectionAndVariance
        row4x4Start column4x4Start cdefStride cur)
      (fun a => ∃ plane < pf.planes, blockRegion (cur.cdefBuffer plane) (cdefStride plane)
        (8 >>> pf.subsamplingY plane) (8 >>> pf.subsamplingX plane) a) V := by
  have hskip := hat.skip hc
  set skip := pf.skipAt cur.bp0 && pf.skipAt (cur.bp0 + 1) && pf.skipAt cur.bp1 &&
    pf.skipAt (cur.bp1 + 1)
  set step := applyCdefBlockPlane pf dsp stride cdefBlock index computeDirectionAndVariance skip
    row4x4Start column4x4Start cdefStride cur
  set directionY : Fin 8 := if skip = false ∧ computeDirectionAndVariance = true then
    (dsp.cdefDirection (pf.directionBlock (cur.srcRow 0) (cur.srcColumn 0))).1 else 0
  have hluma : ∀ st : (CdefAddr → Nat) × Fin 8, st.2 = 0 → (step st 0).2 = directionY := by
    rintro st hst
    rw [applyCdefBlockPlane_snd, blockStrengths_fst, hst]
    by_cases h : skip = false ∧ computeDirectionAndVariance = true
    · simp [directionY, h]
    · cases hs : skip <;> simp_all [directionY]
  have hchroma : ∀ p ≠ 0, ∀ st, (step st p).2 = st.2 := fun p hp st => by
    rw [applyCdefBlockPlane_snd, blockStrengths_fst]; simp [hp]
  have hdirection : skip = false → (pf.cdef.uvPrimaryStrength index.toNat).toNat ≠ 0 →
      directionY = (dsp.cdefDirection (pf.directionBlock (4 * r) (4 * c))).1 := fun hs hp => by
    have hc : computeDirectionAndVariance = true := by
      simpa [hcompute, lor_eq_zero_iff] using fun _ => hp
    simp only [directionY, hs, hc, and_self, if_true, hat.srcRow, hat.srcColumn,
      pf.subsamplingY_luma, pf.subsamplingX_luma, Nat.shiftRight_zero]
  rcases Nat.eq_zero_or_pos pf.planes with hzero | hpos
  · refine (Overwrites.id.congr_fun fun mem => ?_).congr_region fun a => ?_
    · simp [applyCdefBlock, hzero]
    · simp [hzero]
  have hplanes : List.range pf.planes = 0 :: (List.range (pf.planes - 1)).map Nat.succ := by
    rw [← List.range_succ_eq_map, Nat.sub_add_cancel hpos]
  have hfold : ∀ mem, applyCdefBlock pf dsp stride cdefBlock index computeDirectionAndVariance
      row4x4Start column4x4Start cdefStride cur mem =
      ((List.range (pf.planes - 1)).map Nat.succ).foldl (fun m p => (step (m, directionY) p).1)
        (step (mem, 0) 0).1 := fun mem => by
    simp only [applyCdefBlock, hplanes, List.foldl_cons]
    change (List.foldl step (step (mem, 0) 0) _).1 = _
    rw [foldl_snd_const step _ (fun p hp => hchroma p (by
        simp only [List.mem_map] at hp; obtain ⟨q, -, rfl⟩ := hp; exact Nat.succ_ne_zero q)),
      hluma _ rfl]
  have hfirst : Overwrites (fun mem => (step (mem, 0) 0).1) _ V :=
    applyCdefBlockPlane_overwrites hat hindex hvalid hskip hcompute (fun h => absurd rfl h)
      (hscratch 0 hpos) (hV 0 hpos)
  have hrest : Overwrites (fun m => ((List.range (pf.planes - 1)).map Nat.succ).foldl
      (fun m p => (step (m, directionY) p).1) m)
      (fun a => ∃ p ∈ (List.range (pf.planes - 1)).map Nat.succ, blockRegion (cur.cdefBuffer p)
        (cdefStride p) (8 >>> pf.subsamplingY p) (8 >>> pf.subsamplingX p) a) V :=
    Overwrites.foldl _ fun p hp => by
    simp only [List.mem_map, List.mem_range] at hp
    obtain ⟨q, hq, rfl⟩ := hp
    exact applyCdefBlockPlane_overwrites hat hindex hvalid hskip hcompute
      (fun _ hs hp => hdirection hs hp) (hscratch (q + 1) (by omega)) (hV (q + 1) (by omega))
  refine (hfirst.comp hrest).congr_fun (fun mem => hfold mem) |>.congr_region fun a => ⟨?_, ?_⟩
  · rintro (h | ⟨p, hp, h⟩)
    · exact ⟨0, hpos, h⟩
    · simp only [List.mem_map, List.mem_range] at hp
      obtain ⟨q, hq, rfl⟩ := hp
      exact ⟨q + 1, by omega, h⟩
  · rintro ⟨p, hp, h⟩
    rcases p with _ | q
    · exact .inl h
    · exact .inr ⟨q + 1, List.mem_map.2 ⟨q, List.mem_range.2 (by omega), rfl⟩, h⟩

end Block

/-! ### `direction_y` before the luma plane writes it -/

/-- A fold whose steps write first components that do not read the second one writes a
first component that does not depend on the second one it starts from. -/
theorem foldl_fst_congr {β γ ι : Type} (f : β × γ → ι → β × γ) (l : List ι)
    (h : ∀ p ∈ l, ∀ st st' : β × γ, st.1 = st'.1 → (f st p).1 = (f st' p).1) :
    ∀ st st' : β × γ, st.1 = st'.1 → (l.foldl f st).1 = (l.foldl f st').1 := by
  induction l with
  | nil => exact fun _ _ hst => hst
  | cons p l ih =>
    exact fun st st' hst => ih (fun q hq => h q (List.mem_cons_of_mem p hq)) _ _
      (h p (List.mem_cons_self p l) st st' hst)

section DirectionY

variable {pf : PostFilter} {dsp : Dsp} {stride : Nat} {cdefBlock : Nat → Nat} {index : Int}
  {computeDirectionAndVariance skip : Bool} {row4x4Start column4x4Start : Nat}
  {cdefStride : Nat → Nat} {cur : UnitCursor} {mem : CdefAddr → Nat} {plane : Nat}
  {directionY directionY' : Fin 8}

/-- When `cdef_direction` is not called, both primary strengths are 0, so no plane's
strengths and direction read `direction_y`. -/
theorem blockStrengths_snd_of_not_compute
    (hcompute : computeDirectionAndVariance = ((pf.cdef.yPrimaryStrength index.toNat).toNat |||
      (pf.cdef.uvPrimaryStrength index.toNat).toNat != 0))
    (hnot : computeDirectionAndVariance = false) (srcRow srcColumn : Nat) :
    (blockStrengths pf dsp index computeDirectionAndVariance srcRow srcColumn plane directionY).2 =
      (blockStrengths pf dsp index computeDirectionAndVariance srcRow srcColumn plane
        directionY').2 := by
  obtain ⟨hy, huv⟩ := lor_eq_zero_iff.1 (by simpa [hnot] using hcompute.symm)
  by_cases hplane : plane = 0 <;> simp [blockStrengths, hplane, hnot, hy, huv]

/-- The body of the plane loop reads `direction_y` only through the block's strengths and
direction, and not at all for a skipped block. -/
theorem applyCdefBlockPlane_fst_congr
    (h : skip = false →
      (blockStrengths pf dsp index computeDirectionAndVariance (cur.srcRow plane)
        (cur.srcColumn plane) plane directionY).2 =
      (blockStrengths pf dsp index computeDirectionAndVariance (cur.srcRow plane)
        (cur.srcColumn plane) plane directionY').2) :
    (applyCdefBlockPlane pf dsp stride cdefBlock index computeDirectionAndVariance skip
        row4x4Start column4x4Start cdefStride cur (mem, directionY) plane).1 =
      (applyCdefBlockPlane pf dsp stride cdefBlock index computeDirectionAndVariance skip
        row4x4Start column4x4Start cdefStride cur (mem, directionY') plane).1 := by
  cases skip
  · simp only [applyCdefBlockPlane, h rfl, Bool.false_eq_true, if_false]
    split <;> rfl
  · rfl

/-- A filtered block's luma plane, with `cdef_direction` called, neither reads `direction_y`
nor leaves it as it found it. -/
theorem applyCdefBlockPlane_luma :
    applyCdefBlockPlane pf dsp stride cdefBlock index true false row4x4Start column4x4Start
        cdefStride cur (mem, directionY) 0 =
      applyCdefBlockPlane pf dsp stride cdefBlock index true false row4x4Start column4x4Start
        cdefStride cur (mem, directionY') 0 := by
  have hluma : ∀ srcRow srcColumn, blockStrengths pf dsp index true srcRow srcColumn 0 directionY =
      blockStrengths pf dsp index true srcRow srcColumn 0 directionY' := fun _ _ => by
    simp [blockStrengths]
  simp only [applyCdefBlockPlane, hluma, Bool.false_eq_true, if_false]

end DirectionY

/-- `direction_y` is declared without a value in every iteration of the column loop, and
only the luma plane writes it, after `cdef_direction`. `ApplyCdefForOneUnit` never reads it
before: with `compute_direction_and_variance` computed as the code does, whatever
`direction_y` holds when the plane loop of a block starts, skipped or not, the loop writes
the same samples. -/
theorem applyCdefBlock_directionY (pf : PostFilter) (dsp : Dsp) (stride : Nat)
    (cdefBlock : Nat → Nat) (index : Int) {computeDirectionAndVariance : Bool}
    (hcompute : computeDirectionAndVariance = ((pf.cdef.yPrimaryStrength index.toNat).toNat |||
      (pf.cdef.uvPrimaryStrength index.toNat).toNat != 0))
    (skip : Bool) (row4x4Start column4x4Start : Nat) (cdefStride : Nat → Nat) (cur : UnitCursor)
    (mem : CdefAddr → Nat) (directionY directionY' : Fin 8) :
    ((List.range pf.planes).foldl (applyCdefBlockPlane pf dsp stride cdefBlock index
        computeDirectionAndVariance skip row4x4Start column4x4Start cdefStride cur)
        (mem, directionY)).1 =
      ((List.range pf.planes).foldl (applyCdefBlockPlane pf dsp stride cdefBlock index
        computeDirectionAndVariance skip row4x4Start column4x4Start cdefStride cur)
        (mem, directionY')).1 := by
  by_cases hfiltered : skip = false ∧ computeDirectionAndVariance = true
  · -- the luma plane writes `direction_y` first
    obtain ⟨rfl, rfl⟩ := hfiltered
    rcases Nat.eq_zero_or_pos pf.planes with hzero | hpos
    · simp [hzero]
    · rw [← Nat.sub_add_cancel hpos, List.range_succ_eq_map, List.foldl_cons, List.foldl_cons,
        applyCdefBlockPlane_luma]
  · -- no plane reads it
    refine foldl_fst_congr _ _ (fun plane _ st st' hst => ?_) _ _ rfl
    obtain ⟨m, d⟩ := st
    obtain ⟨m', d'⟩ := st'
    cases hst
    exact applyCdefBlockPlane_fst_congr fun hskip =>
      blockStrengths_snd_of_not_compute hcompute (by simpa [hskip] using hfiltered) _ _

theorem applyCdefBlock_directionY_ramp16x200 :
    true = ((PostFilter.ramp16x200.cdef.yPrimaryStrength (0 : Int).toNat).toNat |||
      (PostFilter.ramp16x200.cdef.uvPrimaryStrength (0 : Int).toNat).toNat != 0) ∧
    ((List.range PostFilter.ramp16x200.planes).foldl (applyCdefBlockPlane PostFilter.ramp16x200
        Dsp.verticalMean 70 (fun _ => 0) 0 true false 0 0 (fun _ => 70)
        (unitStart PostFilter.ramp16x200 none 0 0)) (fun _ => 0, 0)).1 =
      ((List.range PostFilter.ramp16x200.planes).foldl (applyCdefBlockPlane PostFilter.ramp16x200
        Dsp.verticalMean 70 (fun _ => 0) 0 true false 0 0 (fun _ => 70)
        (unitStart PostFilter.ramp16x200 none 0 0)) (fun _ => 0, 5)).1 :=
  ⟨rfl, applyCdefBlock_directionY PostFilter.ramp16x200 Dsp.verticalMean 70 (fun _ => 0) 0 rfl
    false 0 0 (fun _ => 70) (unitStart PostFilter.ramp16x200 none 0 0) (fun _ => 0) 0 5⟩

/-- The pointers at the block `m` rows and `k` columns into the unit at
`(row4x4Start, column4x4Start)`, whose planes' outputs start at `dest`. -/
def unitCursorAt (pf : PostFilter) (dest : Nat → CdefAddr) (cdefStride : Nat → Nat)
    (row4x4Start column4x4Start m k : Nat) : UnitCursor where
  cdefBuffer plane := (dest plane).offset (cdefStride plane) (m * (8 >>> pf.subsamplingY plane))
    (k * (8 >>> pf.subsamplingX plane))
  srcRow plane := (4 * row4x4Start) >>> pf.subsamplingY plane + m * (8 >>> pf.subsamplingY plane)
  srcColumn plane :=
    (4 * column4x4Start) >>> pf.subsamplingX plane + k * (8 >>> pf.subsamplingX plane)
  bp0 := (row4x4Start + 2 * m) * pf.columns4x4 + (column4x4Start + 2 * k)
  bp1 := (row4x4Start + 2 * m + 1) * pf.columns4x4 + (column4x4Start + 2 * k)
  row4x4 := row4x4Start + 2 * m
  column4x4 := column4x4Start + 2 * k

section Cursor

variable (pf : PostFilter) (dest : Nat → CdefAddr) (cdefStride : Nat → Nat)
  (row4x4Start column4x4Start : Nat)

theorem advanceColumn_unitCursorAt (m k : Nat) :
    (unitCursorAt pf dest cdefStride row4x4Start column4x4Start m k).advanceColumn pf cdefStride =
      unitCursorAt pf dest cdefStride row4x4Start column4x4Start m (k + 1) := by
  simp only [UnitCursor.advanceColumn, unitCursorAt, CdefAddr.offset_offset, UnitCursor.mk.injEq]
  refine ⟨funext fun plane => ?_, trivial, funext fun plane => ?_, ?_, ?_, trivial, ?_⟩ <;>
    simp only [Nat.add_zero, Nat.succ_mul] <;> omega

theorem advanceRow_unitCursorAt (m : Nat) :
    (unitCursorAt pf dest cdefStride row4x4Start column4x4Start m 0).advanceRow pf cdefStride =
      unitCursorAt pf dest cdefStride row4x4Start column4x4Start (m + 1) 0 := by
  simp only [UnitCursor.advanceRow, unitCursorAt, CdefAddr.offset_offset, UnitCursor.mk.injEq]
  refine ⟨funext fun plane => ?_, funext fun plane => ?_, trivial, ?_, ?_, ?_, trivial⟩ <;>
    simp only [Nat.add_zero, Nat.succ_mul, Nat.mul_succ, Nat.add_mul] <;> omega

/-- On an even row and column the cursor at block `(m, k)` stands at the 8x8 block at 4x4
position `(row4x4Start + 2m, column4x4Start + 2k)`. -/
theorem unitCursorAt_at (hrow : row4x4Start % 2 = 0) (hcolumn : column4x4Start % 2 = 0)
    (m k : Nat) :
    (unitCursorAt pf dest cdefStride row4x4Start column4x4Start m k).At pf
      (row4x4Start + 2 * m) (column4x4Start + 2 * k) where
  row4x4 := rfl
  column4x4 := rfl
  bp0 := rfl
  bp1 := rfl
  srcRow plane := by
    rcases pf.subsamplingY_cases plane with h | h <;>
      simp only [unitCursorAt, h, Nat.shiftRight_zero, Nat.shiftRight_one] <;> omega
  srcColumn plane := by
    rcases pf.subsamplingX_cases plane with h | h <;>
      simp only [unitCursorAt, h, Nat.shiftRight_zero, Nat.shiftRight_one] <;> omega

end Cursor

/-- Row `i` of a unit starting at an even 4x4 row, as block row `i / blockHeight` and
row `i % blockHeight` inside it. -/
theorem shift_blockRow {subsampling : Nat} (hsubsampling : subsampling ≤ 1) {start : Nat}
    (hstart : start % 2 = 0) (i : Nat) :
    (4 * (start + 2 * (i / (8 >>> subsampling)))) >>> subsampling + i % (8 >>> subsampling) =
      (4 * start) >>> subsampling + i := by
  rcases (by omega : subsampling = 0 ∨ subsampling = 1) with rfl | rfl <;>
    simp only [Nat.shiftRight_zero, Nat.shiftRight_one] <;> omega

/-- Sample `i` of block `m` of a unit `size4x4` 4x4 rows high (even) lies in the unit, at the
block's own position. -/
theorem blockSample {subsampling : Nat} (hsubsampling : subsampling ≤ 1) (start : Nat)
    {size4x4 m i : Nat} (hsize : size4x4 % 2 = 0) (hm : 2 * m < size4x4)
    (hi : i < 8 >>> subsampling) :
    m * (8 >>> subsampling) + i < (4 * size4x4) >>> subsampling ∧
      (4 * start) >>> subsampling + (m * (8 >>> subsampling) + i) =
        (4 * (start + 2 * m)) >>> subsampling + i := by
  rcases (by omega : subsampling = 0 ∨ subsampling = 1) with rfl | rfl <;>
    simp only [Nat.shiftRight_zero, Nat.shiftRight_one] at hi ⊢ <;> omega

/-- Sample `i` of the neighbourhood of block `m`, its border included, lies in the unit's
scratch rows, at the block's own position. -/
theorem borderSample {subsampling : Nat} (hsubsampling : subsampling ≤ 1) (start : Nat)
    {size4x4 m i : Nat} (hsize : size4x4 % 2 = 0) (hm : 2 * m < size4x4)
    (hi : i < 8 >>> subsampling + 2 * kCdefBorder) :
    (4 * (2 * m)) >>> subsampling + i < (4 * size4x4) >>> subsampling + 2 * kCdefBorder ∧
      (4 * start) >>> subsampling + ((4 * (2 * m)) >>> subsampling + i) =
        (4 * (start + 2 * m)) >>> subsampling + i := by
  rcases (by omega : subsampling = 0 ∨ subsampling = 1) with rfl | rfl <;>
    simp only [Nat.shiftRight_zero, Nat.shiftRight_one, kCdefBorder] at hi ⊢ <;> omega

/-- Sample `i` of the block at an even 4x4 row `r` is in block row `r / 2`, at row `i` of
it. -/
theorem blockPosition {subsampling : Nat} (hsubsampling : subsampling ≤ 1) {r i : Nat}
    (hr : r % 2 = 0) (hi : i < 8 >>> subsampling) :
    2 * (((4 * r) >>> subsampling + i) / (8 >>> subsampling)) = r ∧
      ((4 * r) >>> subsampling + i) % (8 >>> subsampling) = i := by
  rcases (by omega : subsampling = 0 ∨ subsampling = 1) with rfl | rfl <;>
    simp only [Nat.shiftRight_zero, Nat.shiftRight_one] at hi ⊢ <;> omega

/-- The specification's value at sample `(i, j)` of the block at even `(r, c)` is that
block's. -/
theorem cdefReference_eq_cdefBlock (pf : PostFilter) (dsp : Dsp) {plane r c i j : Nat}
    (hr : r % 2 = 0) (hc : c % 2 = 0) (hi : i < 8 >>> pf.subsamplingY plane)
    (hj : j < 8 >>> pf.subsamplingX plane) :
    pf.cdefReference dsp plane ((4 * r) >>> pf.subsamplingY plane + i)
      ((4 * c) >>> pf.subsamplingX plane + j) = pf.cdefBlock dsp plane r c i j := by
  simp only [PostFilter.cdefReference, blockPosition (pf.subsamplingY_le plane) hr hi,
    blockPosition (pf.subsamplingX_le plane) hc hj]

/-- A unit of an even number of 4x4 blocks is a whole number of 8x8 blocks in every
plane. -/
theorem unitSize_eq {subsampling : Nat} (hsubsampling : subsampling ≤ 1) {size4x4 : Nat}
    (heven : size4x4 % 2 = 0) :
    (4 * size4x4) >>> subsampling = size4x4 / 2 * (8 >>> subsampling) := by
  rcases (by omega : subsampling = 0 ∨ subsampling = 1) with rfl | rfl <;>
    simp only [Nat.shiftRight_zero, Nat.shiftRight_one] <;> omega

/-- A sample of such a unit lies in one of its 8x8 blocks. -/
theorem blockIndex_lt {subsampling : Nat} (hsubsampling : subsampling ≤ 1) {size4x4 i : Nat}
    (heven : size4x4 % 2 = 0) (hi : i < (4 * size4x4) >>> subsampling) :
    2 * (i / (8 >>> subsampling)) < size4x4 := by
  rw [unitSize_eq hsubsampling heven, Nat.mul_comm] at hi
  have := Nat.div_lt_of_lt_mul hi
  omega

section UnitLoops

variable {pixel16 : Bool} {pf : PostFilter} {dsp : Dsp} {stride : Nat} {block : Nat → Nat}
  {index : Int} {blockWidth4x4 blockHeight4x4 row4x4Start column4x4Start : Nat}
  (hu : pf.DriverUnit blockWidth4x4 blockHeight4x4 row4x4Start column4x4Start)
  {dest : Nat → CdefAddr} {cdefStride : Nat → Nat} {V : CdefAddr → Nat}
  (hV : ∀ plane < pf.planes, ∀ i < (4 * blockHeight4x4) >>> pf.subsamplingY plane,
    ∀ j < (4 * blockWidth4x4) >>> pf.subsamplingX plane,
    V ((dest plane).offset (cdefStride plane) i j) =
      pf.cdefReference dsp plane ((4 * row4x4Start) >>> pf.subsamplingY plane + i)
        ((4 * column4x4Start) >>> pf.subsamplingX plane + j))
include hu

/-- The row loop runs once per 8x8 row of the unit: the height is even and positive. -/
theorem PostFilter.DriverUnit.stepLoopCount_height :
    stepLoopCount blockHeight4x4 = blockHeight4x4 / 2 := by
  have := hu.height_even; have := hu.height_pos
  simp only [stepLoopCount]; omega

/-- The column loop runs once per 8x8 column of the unit. -/
theorem PostFilter.DriverUnit.stepLoopCount_width :
    stepLoopCount blockWidth4x4 = blockWidth4x4 / 2 := by
  have := hu.width_even; have := hu.width_pos
  simp only [stepLoopCount]; omega

/-- Every block of a unit lies in the unit's 64x64 cell. -/
theorem PostFilter.DriverUnit.cdefIndex_block {m k : Nat} (hm : 2 * m < blockHeight4x4)
    (hk : 2 * k < blockWidth4x4) :
    pf.cdefIndex ((row4x4Start + 2 * m) / 16) ((column4x4Start + 2 * k) / 16) =
      pf.cdefIndex (row4x4Start / 16) (column4x4Start / 16) := by
  have := hu.height_le; have := hu.width_le; have := hu.column_mod
  congr 1 <;> omega

include hV in
/-- The output of block `(m, k)` should hold the specification's block. -/
theorem PostFilter.DriverUnit.blockValues {m k plane : Nat} (hm : 2 * m < blockHeight4x4)
    (hk : 2 * k < blockWidth4x4) (hplane : plane < pf.planes) {i j : Nat}
    (hi : i < 8 >>> pf.subsamplingY plane) (hj : j < 8 >>> pf.subsamplingX plane) :
    V (((unitCursorAt pf dest cdefStride row4x4Start column4x4Start m k).cdefBuffer plane).offset
        (cdefStride plane) i j) =
      pf.cdefBlock dsp plane (row4x4Start + 2 * m) (column4x4Start + 2 * k) i j := by
  have hrow := blockSample (pf.subsamplingY_le plane) row4x4Start hu.height_even hm hi
  have hcolumn := blockSample (pf.subsamplingX_le plane) column4x4Start hu.width_even hk hj
  have := hu.row_even; have := hu.column_mod
  simp only [unitCursorAt, CdefAddr.offset_offset]
  rw [hV plane hplane _ hrow.1 _ hcolumn.1, hrow.2, hcolumn.2,
    cdefReference_eq_cdefBlock pf dsp (by omega) (by omega) hi hj]

/-- The scratch window `cdef_filter` is given for block `(m, k)` of a prepared unit is the
block's neighbourhood. -/
theorem PostFilter.DriverUnit.blockScratch {stride : Nat} (hS : 64 + 2 * kCdefBorder ≤ stride) (pixel16 : Bool)
    (block : Nat → Nat) {m k plane : Nat} (hm : 2 * m < blockHeight4x4) (hk : 2 * k < blockWidth4x4)
    (hplane : plane < pf.planes) :
    scratchWindow
        (prepareCdefBlock pixel16 pf stride blockWidth4x4 blockHeight4x4 row4x4Start column4x4Start block)
        (cdefSource pf stride row4x4Start column4x4Start
          (unitCursorAt pf dest cdefStride row4x4Start column4x4Start m k) plane -
          kCdefBorder * stride - kCdefBorder) stride
        ((8 >>> pf.subsamplingY plane) + 2 * kCdefBorder) ((8 >>> pf.subsamplingX plane) + 2 * kCdefBorder) =
      pf.neighbourhood plane (row4x4Start + 2 * m) (column4x4Start + 2 * k) := by
  funext i j
  simp only [scratchWindow, PostFilter.neighbourhood]
  split
  · rename_i hij
    have hrow : (4 * (2 * m)) >>> pf.subsamplingY plane + i <
          (prepareLocals pf blockWidth4x4 blockHeight4x4 row4x4Start column4x4Start plane).blockHeight +
            2 * kCdefBorder ∧
        (prepareLocals pf blockWidth4x4 blockHeight4x4 row4x4Start column4x4Start plane).startY +
            ((4 * (2 * m)) >>> pf.subsamplingY plane + i) =
          (4 * (row4x4Start + 2 * m)) >>> pf.subsamplingY plane + i :=
      borderSample (pf.subsamplingY_le plane) row4x4Start hu.height_even hm hij.1
    have hcolumn : (4 * (2 * k)) >>> pf.subsamplingX plane + j <
          (prepareLocals pf blockWidth4x4 blockHeight4x4 row4x4Start column4x4Start plane).blockWidth +
            2 * kCdefBorder ∧
        (prepareLocals pf blockWidth4x4 blockHeight4x4 row4x4Start column4x4Start plane).startX +
            ((4 * (2 * k)) >>> pf.subsamplingX plane + j) =
          (4 * (column4x4Start + 2 * k)) >>> pf.subsamplingX plane + j :=
      borderSample (pf.subsamplingX_le plane) column4x4Start hu.width_even hk hij.2
    rw [show cdefSource pf stride row4x4Start column4x4Start
        (unitCursorAt pf dest cdefStride row4x4Start column4x4Start m k) plane -
          kCdefBorder * stride - kCdefBorder + i * stride + j =
        plane * stride * stride + ((4 * (2 * m)) >>> pf.subsamplingY plane + i) * stride +
          ((4 * (2 * k)) >>> pf.subsamplingX plane + j) by
      simp only [cdefSource, unitCursorAt, Nat.add_sub_cancel_left, Nat.add_mul]
      generalize (4 * (2 * m)) >>> pf.subsamplingY plane = a
      generalize (4 * (2 * k)) >>> pf.subsamplingX plane = b
      omega,
      (prepareCdefBlock_overwrites hu pixel16 hS).hit block _
        ⟨plane, List.mem_range.2 hplane, _, hrow.1, _, hcolumn.1, rfl⟩,
      cdefScratch_row hu rfl hS hrow.1 hcolumn.1, hrow.2, hcolumn.2]
  · rfl

include hV in
/-- A unit whose `cdef_index_` is -1 is copied from the source plane by plane, which is the
specification's output there. -/
theorem PostFilter.DriverUnit.copyPlanes_overwrites
    (hindex : pf.cdefIndex (row4x4Start / 16) (column4x4Start / 16) = -1) :
    Overwrites (fun mem => (List.range pf.planes).foldl (fun mem plane =>
        copyPixels (pf.source plane) ((4 * row4x4Start) >>> pf.subsamplingY plane)
          ((4 * column4x4Start) >>> pf.subsamplingX plane) (dest plane) (cdefStride plane)
          ((4 * blockWidth4x4) >>> pf.subsamplingX plane)
          ((4 * blockHeight4x4) >>> pf.subsamplingY plane) mem) mem)
      (fun a => ∃ plane < pf.planes, blockRegion (dest plane) (cdefStride plane)
        ((4 * blockHeight4x4) >>> pf.subsamplingY plane)
        ((4 * blockWidth4x4) >>> pf.subsamplingX plane) a) V := by
  have := hu.row_even; have := hu.column_mod; have := hu.height_pos
  have hplanes : ∀ plane ∈ List.range pf.planes, Overwrites (fun mem =>
      copyPixels (pf.source plane) ((4 * row4x4Start) >>> pf.subsamplingY plane)
        ((4 * column4x4Start) >>> pf.subsamplingX plane) (dest plane) (cdefStride plane)
        ((4 * blockWidth4x4) >>> pf.subsamplingX plane) ((4 * blockHeight4x4) >>> pf.subsamplingY plane)
        mem)
      (blockRegion (dest plane) (cdefStride plane) ((4 * blockHeight4x4) >>> pf.subsamplingY plane)
        ((4 * blockWidth4x4) >>> pf.subsamplingX plane)) V := fun plane hplane => by
    have hplane := List.mem_range.1 hplane
    refine copyPixels_overwrites _ _ _ _ _ _ _
      (by rcases pf.subsamplingY_cases plane with h | h <;> simp only [h] <;> omega)
      fun i hi j hj => ?_
    have hrow := shift_blockRow (pf.subsamplingY_le plane) hu.row_even i
    have hcolumn := shift_blockRow (pf.subsamplingX_le plane) (by omega : column4x4Start % 2 = 0) j
    rw [hV plane hplane i hi j hj, ← hrow, ← hcolumn,
      cdefReference_eq_cdefBlock pf dsp (by omega) (by omega)
        (Nat.mod_lt _ (by rcases pf.subsamplingY_cases plane with h | h <;> simp [h]))
        (Nat.mod_lt _ (by rcases pf.subsamplingX_cases plane with h | h <;> simp [h])),
      PostFilter.cdefBlock, hu.cdefIndex_block (blockIndex_lt (pf.subsamplingY_le plane) hu.height_even hi)
        (blockIndex_lt (pf.subsamplingX_le plane) hu.width_even hj), if_pos (.inl hindex), hrow, hcolumn]
  exact (Overwrites.foldl _ hplanes).congr_region fun a => by simp only [List.mem_range]

include hV in
/-- A unit with a `cdef_index_` other than -1 is prepared and then filtered 8x8 block by
block, row by row, which writes the specification's output over the unit. -/
theorem PostFilter.DriverUnit.filterBlocks_overwrites (hS : 64 + 2 * kCdefBorder ≤ stride)
    (hvalid : pf.cdefIndex (row4x4Start / 16) (column4x4Start / 16) ≠ -1) :
    Overwrites (fun mem => ((rowStep pf dsp stride
        (prepareCdefBlock pixel16 pf stride blockWidth4x4 blockHeight4x4 row4x4Start column4x4Start
          block)
        (pf.cdefIndex (row4x4Start / 16) (column4x4Start / 16))
        ((pf.cdef.yPrimaryStrength (pf.cdefIndex (row4x4Start / 16) (column4x4Start / 16)).toNat).toNat |||
          (pf.cdef.uvPrimaryStrength (pf.cdefIndex (row4x4Start / 16) (column4x4Start / 16)).toNat).toNat
            != 0)
        blockWidth4x4 row4x4Start column4x4Start cdefStride)^[stepLoopCount blockHeight4x4]
          (mem, unitCursorAt pf dest cdefStride row4x4Start column4x4Start 0 0)).1)
      (fun a => ∃ plane < pf.planes, blockRegion (dest plane) (cdefStride plane)
        ((4 * blockHeight4x4) >>> pf.subsamplingY plane)
        ((4 * blockWidth4x4) >>> pf.subsamplingX plane) a) V := by
  have htiles : ∀ plane a, blockRegion (dest plane) (cdefStride plane)
      ((4 * blockHeight4x4) >>> pf.subsamplingY plane) ((4 * blockWidth4x4) >>> pf.subsamplingX plane) a ↔
      ∃ m < blockHeight4x4 / 2, ∃ k < blockWidth4x4 / 2,
        blockRegion ((unitCursorAt pf dest cdefStride row4x4Start column4x4Start m k).cdefBuffer plane)
          (cdefStride plane) (8 >>> pf.subsamplingY plane) (8 >>> pf.subsamplingX plane) a :=
    fun plane a => by
      rw [unitSize_eq (pf.subsamplingY_le plane) hu.height_even,
        unitSize_eq (pf.subsamplingX_le plane) hu.width_even]
      exact blockRegion_tiles _ _
        (by rcases pf.subsamplingY_cases plane with h | h <;> simp [h])
        (by rcases pf.subsamplingX_cases plane with h | h <;> simp [h]) _ _ a
  have := hu.column_mod; have := hu.height_even; have := hu.width_even; have := hu.right_le
  set prepared := prepareCdefBlock pixel16 pf stride blockWidth4x4 blockHeight4x4 row4x4Start
    column4x4Start block
  set index := pf.cdefIndex (row4x4Start / 16) (column4x4Start / 16)
  set compute := (pf.cdef.yPrimaryStrength index.toNat).toNat |||
    (pf.cdef.uvPrimaryStrength index.toNat).toNat != 0
  set cursor := unitCursorAt pf dest cdefStride row4x4Start column4x4Start
  have hcolumns : ∀ m, 2 * m < blockHeight4x4 →
      Overwrites (fun mem => ((columnStep pf dsp stride prepared index compute row4x4Start
          column4x4Start cdefStride)^[blockWidth4x4 / 2] (mem, cursor m 0)).1)
        (fun a => ∃ k < blockWidth4x4 / 2, ∃ plane < pf.planes, blockRegion
          ((cursor m k).cdefBuffer plane) (cdefStride plane) (8 >>> pf.subsamplingY plane)
          (8 >>> pf.subsamplingX plane) a) V ∧
      ∀ mem, ((columnStep pf dsp stride prepared index compute row4x4Start
          column4x4Start cdefStride)^[blockWidth4x4 / 2] (mem, cursor m 0)).2 =
        cursor m (blockWidth4x4 / 2) := fun m hm => by
    have hstep : ∀ mem k, columnStep pf dsp stride prepared index compute row4x4Start
        column4x4Start cdefStride (mem, cursor m k) =
        (applyCdefBlock pf dsp stride prepared index compute row4x4Start column4x4Start
          cdefStride (cursor m k) mem, cursor m (k + 1)) := fun mem k => by
      simp only [columnStep, cursor, advanceColumn_unitCursorAt]
    exact Overwrites.iterate hstep _ fun k hk =>
      applyCdefBlock_overwrites (unitCursorAt_at pf dest cdefStride _ _ hu.row_even (by omega) m k)
        (by omega) (hu.cdefIndex_block hm (by omega)).symm hvalid rfl
        (fun plane hplane => hu.blockScratch hS pixel16 block hm (by omega) hplane)
        (fun plane hplane i hi j hj => hu.blockValues hV hm (by omega) hplane hi hj)
  have hstep : ∀ mem m, rowStep pf dsp stride prepared index compute blockWidth4x4 row4x4Start
      column4x4Start cdefStride (mem, cursor m 0) =
      (((columnStep pf dsp stride prepared index compute row4x4Start
          column4x4Start cdefStride)^[blockWidth4x4 / 2] (mem, cursor m 0)).1, cursor (m + 1) 0) :=
    fun mem m => by simp only [rowStep, hu.stepLoopCount_width, cursor, advanceRow_unitCursorAt]
  have hrows := Overwrites.iterate hstep (blockHeight4x4 / 2) fun m hm => (hcolumns m (by omega)).1
  refine (hrows.1.congr_fun fun mem => by simp only [hu.stepLoopCount_height]).congr_region
    fun a => ⟨?_, ?_⟩
  · rintro ⟨m, hm, k, hk, plane, hplane, h⟩
    exact ⟨plane, hplane, (htiles plane a).2 ⟨m, hm, k, hk, h⟩⟩
  · rintro ⟨plane, hplane, h⟩
    obtain ⟨m, hm, k, hk, h⟩ := (htiles plane a).1 h
    exact ⟨m, hm, k, hk, plane, hplane, h⟩

end UnitLoops

/-- On every unit the drivers pass, `ApplyCdefForOneUnit` writes the specification's value
at every sample of the unit in every plane, at the place `GetCdefBufferAndStride` gives
for it, and writes nothing else. -/
theorem applyCdefForOneUnit_overwrites (pixel16 : Bool) (pf : PostFilter) (dsp : Dsp)
    (threadPool : Option CdefWindow) {stride : Nat} (hS : 64 + 2 * kCdefBorder ≤ stride)
    (block : Nat → Nat) {blockWidth4x4 blockHeight4x4 row4x4Start column4x4Start : Nat}
    (hu : pf.DriverUnit blockWidth4x4 blockHeight4x4 row4x4Start column4x4Start)
    {V : CdefAddr → Nat}
    (hV : ∀ plane < pf.planes, ∀ i < (4 * blockHeight4x4) >>> pf.subsamplingY plane,
      ∀ j < (4 * blockWidth4x4) >>> pf.subsamplingX plane,
      V ((unitDestination pf threadPool row4x4Start column4x4Start plane).1.offset
          (unitDestination pf threadPool row4x4Start column4x4Start plane).2 i j) =
        pf.cdefReference dsp plane ((4 * row4x4Start) >>> pf.subsamplingY plane + i)
          ((4 * column4x4Start) >>> pf.subsamplingX plane + j)) :
    Overwrites (fun mem => (applyCdefForOneUnit pixel16 pf dsp threadPool stride block
        (pf.cdefIndex (row4x4Start / 16) (column4x4Start / 16)) blockWidth4x4 blockHeight4x4
        row4x4Start column4x4Start mem).2)
      (fun a => ∃ plane < pf.planes,
        blockRegion (unitDestination pf threadPool row4x4Start column4x4Start plane).1
          (unitDestination pf threadPool row4x4Start column4x4Start plane).2
          ((4 * blockHeight4x4) >>> pf.subsamplingY plane)
          ((4 * blockWidth4x4) >>> pf.subsamplingX plane) a) V := by
  set dest := fun plane => (unitDestination pf threadPool row4x4Start column4x4Start plane).1
  set cdefStride := fun plane => (unitDestination pf threadPool row4x4Start column4x4Start plane).2
  simp only [applyCdefForOneUnit]
  split
  · exact hu.copyPlanes_overwrites hV ‹_›
  · have hstart : unitStart pf threadPool row4x4Start column4x4Start =
        unitCursorAt pf dest cdefStride row4x4Start column4x4Start 0 0 := by
      simp only [unitStart, unitCursorAt, dest, Nat.zero_mul, Nat.mul_zero, Nat.add_zero,
        CdefAddr.offset_zero, UnitCursor.mk.injEq, Nat.succ_mul]
      exact ⟨trivial, trivial, trivial, trivial, by omega, trivial, trivial⟩
    rw [hstart]
    exact hu.filterBlocks_overwrites hV hS ‹_›

end Libgav1
