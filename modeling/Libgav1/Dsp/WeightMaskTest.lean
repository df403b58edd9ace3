/-
# The weight-mask test harness

`weight_mask_test.cc` checks the `weight_mask` kernels of the DSP table against MD5 digests of
their output on random inputs, and against a known mask on constant inputs. The kernels, the
digest computation, the generator `ACMRandom` and the timing are outside this excerpt; what is
modelled is the harness's own logic: `DimensionsToBlockSize`, the digest index `Test` computes
from it, the kernel index `SetUp` computes, and the inputs `SetInputData` writes.

The main result is about the inputs: every sample `SetInputData` draws lies in
`kPredictionRange` and survives the 16-bit store (`setInputData_random`). The digest index and
the kernel index are modelled as the harness computes them; what they satisfy is a fact about
the 34 parameters of `weight_mask_test_param`, which running the suite checks.
-/

import Libgav1.Cdef.Frame
import Libgav1.Cdef.Memory

namespace Libgav1

/-- `BlockSize` of `constants.h`, a header outside this excerpt. Its enumerators are listed in
the order `DimensionsToBlockSize` names them, which is their order there: the empty digests of
both tables stand at `kBlock16x4 - 4 = 3`. `kBlockInvalid` equals `kMaxBlockSizes`. -/
inductive BlockSize
  | block4x4 | block4x8 | block4x16
  | block8x4 | block8x8 | block8x16 | block8x32
  | block16x4 | block16x8 | block16x16 | block16x32 | block16x64
  | block32x8 | block32x16 | block32x32 | block32x64
  | block64x16 | block64x32 | block64x64 | block64x128
  | block128x64 | block128x128
  | blockInvalid
  deriving DecidableEq, Repr

/-- `kMaxBlockSizes`, the number of block sizes. -/
def kMaxBlockSizes : Nat := BlockSize.blockInvalid.toCtorIdx

namespace WeightMaskTest

/-- `DimensionsToBlockSize`. -/
def dimensionsToBlockSize (width height : Nat) : BlockSize :=
  if width = 4 then
    if height = 4 then .block4x4
    else if height = 8 then .block4x8
    else if height = 16 then .block4x16
    else .blockInvalid
  else if width = 8 then
    if height = 4 then .block8x4
    else if height = 8 then .block8x8
    else if height = 16 then .block8x16
    else if height = 32 then .block8x32
    else .blockInvalid
  else if width = 16 then
    if height = 4 then .block16x4
    else if height = 8 then .block16x8
    else if height = 16 then .block16x16
    else if height = 32 then .block16x32
    else if height = 64 then .block16x64
    else .blockInvalid
  else if width = 32 then
    if height = 8 then .block32x8
    else if height = 16 then .block32x16
    else if height = 32 then .block32x32
    else if height = 64 then .block32x64
    else .blockInvalid
  else if width = 64 then
    if height = 16 then .block64x16
    else if height = 32 then .block64x32
    else if height = 64 then .block64x64
    else if height = 128 then .block64x128
    else .blockInvalid
  else if width = 128 then
    if height = 64 then .block128x64
    else if height = 128 then .block128x128
    else .blockInvalid
  else .blockInvalid

/-! ## The digests -/

/-- `kDigest` of `GetDigest8bpp`: the digests of the plain masks, then of the inverse ones. -/
def kDigest8bpp : List String :=
  ["25a1d6d1b3e75213e12800676686703e", "b93b38e538dcb072e4b492a781f909ca",
   "50b5e6680ecdaa95c4e95c220abe5bd8", "" /- kBlock16x4 -/,
   "fdc4a868311d629c99507f728f56d575", "b6da56bbefac4ca4edad1b8f68791606",
   "2dbe65f1cfbe37134bf1dbff11c222f2", "6d77edaf6fa479a669a6309722d8f352",
   "4f58c12179012ae1cd1c21e01258a39b", "9b3e1ce01d886db45d1295878c3b9e00",
   "97b5be2d7bb19a045b3815a972b918b7", "5b2cba7e06155bb4e9e281d6668633df",
   "ca6ea9f694ebfc6fc0c9fc4d22d140ec", "0efca5b9f6e5c287ff8683c558382987",
   "36941879ee00efb746c45cad08d6559b", "6d8ee22d7dd051f391f295c4fdb617d7",
   "e99ada080a5ddf9df50544301d0b6f6e", "acd821f8e49d47a0735ed1027f43d64b",
   "c9cd4ae74ed092198f812e864cfca8a2", "77125e2710c78613283fe279f179b59d",
   "52df4dae64ef06f913351c61d1082e93", "" /- kBlock16x4 -/,
   "1fa861d6ca726db3b6ac4fa78bdcb465", "4f42297f3fb4cfc3afc3b89b30943c32",
   "730fefde2cd8d65ae8ceca7fb1d1e9f3", "cc53bf23217146c77797d3c21fac35b8",
   "55be7f6f22c02f43ccced3131c8ba02b", "bf1e12cd57424aee4a35969ad72cbdd3",
   "bea31fa1581e19b7819400f417130ec3", "fb42a215163ee9e13b9d7db1838caca2",
   "0747f7ab50b564ad30d73381337ed845", "74f5bdb72ae505376596c2d91fd67d27",
   "56b5053da761ffbfd856677bbc34e353", "15001c7c9b585e19de875ec6926c2451",
   "35d49b7ec45c42b84fdb30f89ace00fb", "9fcb7a44be4ce603a95978acf0fb54d7"]

/-- `kDigest` of `GetDigest10bpp`. -/
def kDigest10bpp : List String :=
  ["3cba49e84f5ef8c91e4f4b8c264da6a3", "6848aee4d8a773f04251af76def65acf",
   "17174ec7b8a3066df2648c2e18df4c75", "" /- kBlock4x16 -/,
   "a5231e091c1c2a3dc24519f5331f59fb", "2fd787b791a45a1c0f54088462a27e3a",
   "5a5d0cc09b275470c5123377e8119705", "83fb0781045a6315a538fa6205d74683",
   "21747a80d989c946d97eced279208d1a", "b4c40c1d62a39133f86acb211d7a77f5",
   "826c23b4064c5178305fb2af45640b3f", "83ff425cf2d0d97404482cae717a3a73",
   "29667f4ca4b82ed89993a13fdfcb5303", "024740a99a8cd72b3996cc6a0e44608a",
   "1b047f39211c9887366663d3558e25a4", "c234fbdc219ff29794bcef5258042392",
   "e541956018c8ffc17290cfb3d4e4ae77", "15e939efaacffd2660a25385fd33414f",
   "7e01e584ebd09eb256280cca0077ddbe", "72b60ce0c123dd074b6bcedc94f854e9",
   "35a0764bf525863dab08927aa1763500", "" /- kBlock4x16 -/,
   "aba1198a2e14ebddd7ae60329b3905ca", "bd16795b64437c3437b1eb8e1d53021f",
   "6da2aec8f98f4df9251b731232981b1c", "c69d8cb3b4ef88e3e8981d5ebed6f23d",
   "a2241995d2e7009e2dd3e8e9fc77e7d5", "76e3431f11b139e2caaf52a4b0e70dfb",
   "5332b9645605e8760225888da5df5b92", "8a7f4b75fc7ae23ba8c72cd0d04b8d20",
   "2742bc65b1d23dd423451696e6e2439c", "15c01dcd7e43e5d10c579ec4c9ed6960",
   "5882f79bc6a0ea52415ae8de331fc12f", "ae7616e818cbe5bc2f7e96ee91281a8e",
   "b59dd900801da0753af28a8b90995cf1", "1558b0ef8ee9e18422291b63f8abadf8"]

/-- `GetDigest8bpp(id)`: `kDigest[id]`, none where the index is outside the array. -/
def getDigest8bpp (id : Int) : Option String :=
  if 0 ≤ id then kDigest8bpp.get? id.toNat else none

/-- `GetDigest10bpp(id)`. -/
def getDigest10bpp (id : Int) : Option String :=
  if 0 ≤ id then kDigest10bpp.get? id.toNat else none

/-- The digest index `Test` computes for random inputs:
`id_offset + DimensionsToBlockSize(width_, height_) - 4`, where `id_offset` is
`kMaxBlockSizes - 4` for an inverse mask and 0 otherwise. -/
def digestId (width height : Nat) (maskIsInverse : Bool) : Int :=
  (if maskIsInverse then (kMaxBlockSizes : Int) - 4 else 0) +
    ((dimensionsToBlockSize width height).toCtorIdx : Int) - 4

/-! ## Array accesses -/

/-- `kMaxPredictionSize`: the prediction blocks and the mask are this many samples square. -/
def kMaxPredictionSize : Nat := 128

/-- `SetUp`'s index into `weight_mask` for a dimension: `FloorLog2(n) - 3`. -/
def kernelIndex (n : Nat) : Int := floorLog2 n - 3

/-- `Test`'s expected mask value on constant inputs: 38 where the two predictions are equal and
64 where they differ, mirrored for an inverse mask. -/
def fixedValue (value1 value2 : Int) (maskIsInverse : Bool) : Int :=
  let fixedValue : Int := if value1 - value2 = 0 then 38 else 64
  if maskIsInverse then 64 - fixedValue else fixedValue

/-- `Test`'s check of a run on constant inputs: `mask_[y * kMaxPredictionSize + x]` is the
fixed value at every `y < height_` and `x < width_`. -/
def checkFixedValues (mask : Nat → UInt8) (width height : Nat) (value1 value2 : Int)
    (maskIsInverse : Bool) : Bool :=
  (List.range height).all fun y => (List.range width).all fun x =>
    ((mask (y * kMaxPredictionSize + x)).toNat : Int) == fixedValue value1 value2 maskIsInverse

/-! ## The inputs -/

/-- `kPredictionRange[bitdepth_index]`: the least and the greatest prediction of each bit
depth. -/
def kPredictionRange : List (Int × Int) := [(-5132, 9212), (3988, 61352), (3974, 61559)]

/-- `bitdepth_index`. -/
def bitdepthIndex (bitdepth : Nat) : Nat := (bitdepth - 8) >>> 1

/-- `kPredictionRange[bitdepth_index]`. -/
def predictionRange (bitdepth : Nat) : Int × Int :=
  kPredictionRange.getD (bitdepthIndex bitdepth) (0, 0)

/-- `offset` of `SetInputData`: it moves the 8-bit range, which starts below zero, to start at
0. -/
def predictionOffset (bitdepth : Nat) : Int :=
  if bitdepth = 8 then -(kPredictionRange.getD 0 (0, 0)).1 else 0

/-- The prediction blocks `block_1_` and `block_2_`, as `uint16_t` words. -/
structure PredictionBlocks where
  block1 : Nat → BitVec 16
  block2 : Nat → BitVec 16

/-- The `get_value` lambda of `SetInputData`: draws `rnd(max + 1)` until a draw is at least
`min`. A draw is `next` from the generator's state. The loop ends only when a draw passes;
`fuel` bounds the draws, and `none` is a run that needs more. -/
def getValue {σ : Type} (next : σ → Nat → Nat × σ) (min max : Int) : Nat → σ → Option (Int × σ)
  | 0, _ => none
  | fuel + 1, rnd =>
    let draw := next rnd (max + 1).toNat
    if (draw.1 : Int) < min then getValue next min max fuel draw.2 else some (draw.1, draw.2)

/-- One pass of `SetInputData`'s inner loop at sample `i`: a value for `block_1_[i]`, then one
for `block_2_[i]`, each less `offset` and stored as `uint16_t`. -/
def setSample {σ : Type} (next : σ → Nat → Nat × σ) (min max offset : Int) (fuel i : Nat)
    (st : σ × PredictionBlocks) : Option (σ × PredictionBlocks) := do
  let value1 ← getValue next min max fuel st.1
  let value2 ← getValue next min max fuel value1.2
  pure (value2.2, ⟨Function.update st.2.block1 i (BitVec.ofInt 16 (value1.1 - offset)),
    Function.update st.2.block2 i (BitVec.ofInt 16 (value2.1 - offset))⟩)

/-- `SetInputData`: with fixed values both blocks are filled with `value_1` and `value_2`;
otherwise each of the `height_` rows of `width_` samples gets two values from `get_value`, on a
generator started at `seed`, shifted by `offset` so that `kPredictionRange` starts at 0 at 8
bits. -/
def setInputData {σ : Type} (bitdepth : Nat) (next : σ → Nat → Nat × σ) (seed : σ)
    (fuel width height : Nat) (useFixedValues : Bool) (value1 value2 : Int)
    (blocks : PredictionBlocks) : Option PredictionBlocks :=
  if useFixedValues then
    some ⟨fun i => if i < kMaxPredictionSize * kMaxPredictionSize then BitVec.ofInt 16 value1
        else blocks.block1 i,
      fun i => if i < kMaxPredictionSize * kMaxPredictionSize then BitVec.ofInt 16 value2
        else blocks.block2 i⟩
  else
    let offset := predictionOffset bitdepth
    let min := (predictionRange bitdepth).1 + offset
    let max := (predictionRange bitdepth).2 + offset
    ((List.range height).foldlM (fun st y => (List.range width).foldlM
      (fun st x => setSample next min max offset fuel (y * width + x) st) st)
      (seed, blocks)).map (·.2)

/-- A prediction in `kPredictionRange[bitdepth_index]`. -/
def InPredictionRange (bitdepth : Nat) (value : Int) : Prop :=
  (predictionRange bitdepth).1 ≤ value ∧ value ≤ (predictionRange bitdepth).2

/-- A stored sample as the kernels read it: `int16_t` at 8 bits, where predictions can be
negative, and `uint16_t` from 10 bits on. -/
def predictionValue (bitdepth : Nat) (sample : BitVec 16) : Int :=
  if bitdepth = 8 then sample.toInt else sample.toNat

/-- `f` leaves in both blocks, at every sample of `S`, a value `good` accepts, and every other
sample as it was, whenever it returns. -/
def SetsSamples {σ : Type} (S : Nat → Prop) (good : BitVec 16 → Prop)
    (f : σ × PredictionBlocks → Option (σ × PredictionBlocks)) : Prop :=
  ∀ st st', f st = some st' → ∀ i, (S i → good (st'.2.block1 i) ∧ good (st'.2.block2 i)) ∧
    (¬S i → st'.2.block1 i = st.2.block1 i ∧ st'.2.block2 i = st.2.block2 i)

section Draws

variable {σ : Type} {next : σ → Nat → Nat × σ} (hnext : ∀ rnd n, 0 < n → (next rnd n).1 < n)
include hnext

/-- Every value `get_value` returns lies in `[min, max]`. -/
theorem getValue_mem {min max : Int} (hmax : 0 ≤ max) :
    ∀ {fuel : Nat} {rnd : σ} {value : Int × σ}, getValue next min max fuel rnd = some value →
      min ≤ value.1 ∧ value.1 ≤ max
  | 0, _, _, h => by cases h
  | fuel + 1, rnd, value, h => by
    have hdraw := hnext rnd (max + 1).toNat (by omega)
    simp only [getValue] at h
    split at h
    · exact getValue_mem hmax h
    · cases h
      exact ⟨by omega, by omega⟩

theorem setSample_setsSamples (min max offset : Int) (hmax : 0 ≤ max) {good : BitVec 16 → Prop}
    (hgood : ∀ v, min ≤ v → v ≤ max → good (BitVec.ofInt 16 (v - offset))) (fuel i : Nat) :
    SetsSamples (· = i) good (setSample next min max offset fuel i) := by
  intro st st' h j
  simp only [setSample, bind, Option.bind_eq_some, pure, Option.some.injEq] at h
  obtain ⟨value1, h1, value2, h2, rfl⟩ := h
  have hv1 := getValue_mem hnext hmax h1
  have hv2 := getValue_mem hnext hmax h2
  refine ⟨?_, fun hj => ?_⟩
  · rintro rfl
    simp only [Function.update_same]
    exact ⟨hgood _ hv1.1 hv1.2, hgood _ hv2.1 hv2.2⟩
  · simp only [Function.update_noteq hj, and_self]

end Draws

/-- A loop whose passes each set their samples sets the union of them. -/
theorem SetsSamples.foldlM {σ ι : Type} {good : BitVec 16 → Prop} (l : List ι)
    {S : ι → Nat → Prop} {f : ι → σ × PredictionBlocks → Option (σ × PredictionBlocks)}
    (hf : ∀ a ∈ l, SetsSamples (S a) good (f a)) :
    SetsSamples (fun i => ∃ a ∈ l, S a i) good (fun st => l.foldlM (fun st a => f a st) st) := by
  induction l with
  | nil =>
    rintro st st' h i
    cases h
    exact ⟨fun ⟨_, ha, _⟩ => absurd ha (List.not_mem_nil _), fun _ => ⟨rfl, rfl⟩⟩
  | cons a l ih =>
    intro st st' h i
    obtain ⟨st1, h1, h2⟩ := Option.bind_eq_some.1 h
    have e1 := hf a (List.mem_cons_self _ _) st st1 h1 i
    have e2 := ih (fun b hb => hf b (List.mem_cons_of_mem _ hb)) st1 st' h2 i
    by_cases hl : ∃ b ∈ l, S b i
    · exact ⟨fun _ => e2.1 hl, fun hn => absurd (hl.imp fun b hb => ⟨.tail _ hb.1, hb.2⟩) hn⟩
    · rw [e2.2 hl |>.1, e2.2 hl |>.2]
      simp only [List.mem_cons, exists_eq_or_imp]
      exact ⟨fun hi => e1.1 (hi.resolve_right hl), fun hi => e1.2 (fun ha => hi (.inl ha))⟩

/-- The samples `y * width + x` of the rows `y < height` and the columns `x < width` are the
first `width * height` samples. -/
theorem rowMajor_mem_iff {width height i : Nat} :
    (∃ y ∈ List.range height, ∃ x ∈ List.range width, i = y * width + x) ↔ i < width * height := by
  simp only [List.mem_range]
  constructor
  · rintro ⟨y, hy, x, hx, rfl⟩
    rw [Nat.mul_comm width]
    exact rowMajor_lt hy hx
  · intro hi
    have hw : 0 < width := Nat.pos_of_ne_zero fun h => by simp [h] at hi
    exact ⟨i / width, (Nat.div_lt_iff_lt_mul hw).2 (by rwa [Nat.mul_comm]), i % width,
      Nat.mod_lt _ hw, (Nat.div_add_mod' i width).symm⟩

/-- At 8 and 10 bits every value `get_value` can return, less `offset` and stored in 16 bits,
reads back as a prediction in `kPredictionRange`. -/
theorem predictionValue_ofInt {bitdepth : Nat} (hbitdepth : bitdepth = 8 ∨ bitdepth = 10)
    (v : Int) (hmin : (predictionRange bitdepth).1 + predictionOffset bitdepth ≤ v)
    (hmax : v ≤ (predictionRange bitdepth).2 + predictionOffset bitdepth) :
    InPredictionRange bitdepth
      (predictionValue bitdepth (BitVec.ofInt 16 (v - predictionOffset bitdepth))) := by
  rcases hbitdepth with rfl | rfl
  · have hrange : predictionRange 8 = (-5132, 9212) := rfl
    have hoffset : predictionOffset 8 = 5132 := rfl
    simp only [InPredictionRange, predictionValue, hrange, hoffset, if_true] at hmin hmax ⊢
    rw [BitVec.toInt_ofInt, Int.bmod_def]
    split <;> omega
  · have hrange : predictionRange 10 = (3988, 61352) := rfl
    have hoffset : predictionOffset 10 = 0 := rfl
    simp only [InPredictionRange, predictionValue, hrange, hoffset] at hmin hmax ⊢
    rw [if_neg (by decide), BitVec.toNat_ofInt]
    omega

/-- On random inputs, at 8 and 10 bits and with any generator whose `rnd(n)` is below `n`,
`SetInputData`, whenever its draws end, gives each of the first `width_ * height_` samples of
both blocks a value that reads back as a prediction in `kPredictionRange[bitdepth_index]`, and
leaves every later sample as it was. -/
theorem setInputData_random {σ : Type} {bitdepth : Nat} (hbitdepth : bitdepth = 8 ∨ bitdepth = 10)
    {next : σ → Nat → Nat × σ} (hnext : ∀ rnd n, 0 < n → (next rnd n).1 < n) {seed : σ}
    {fuel width height : Nat} {value1 value2 : Int} {blocks blocks' : PredictionBlocks}
    (h : setInputData bitdepth next seed fuel width height false value1 value2 blocks =
      some blocks') :
    ∀ i, (i < width * height →
        InPredictionRange bitdepth (predictionValue bitdepth (blocks'.block1 i)) ∧
          InPredictionRange bitdepth (predictionValue bitdepth (blocks'.block2 i))) ∧
      (width * height ≤ i → blocks'.block1 i = blocks.block1 i ∧
        blocks'.block2 i = blocks.block2 i) := by
  simp only [setInputData, Bool.false_eq_true, if_false, Option.map_eq_some'] at h
  obtain ⟨st', hst, rfl⟩ := h
  have hmax : 0 ≤ (predictionRange bitdepth).2 + predictionOffset bitdepth := by
    rcases hbitdepth with rfl | rfl <;> decide
  have hsample : ∀ i, SetsSamples (· = i)
      (fun sample => InPredictionRange bitdepth (predictionValue bitdepth sample))
      (setSample next ((predictionRange bitdepth).1 + predictionOffset bitdepth)
        ((predictionRange bitdepth).2 + predictionOffset bitdepth) (predictionOffset bitdepth)
        fuel i) :=
    setSample_setsSamples hnext _ _ _ hmax (predictionValue_ofInt hbitdepth) fuel
  have hrows := SetsSamples.foldlM (List.range height) fun y _ =>
    SetsSamples.foldlM (List.range width) fun x _ => hsample (y * width + x)
  intro i
  have e := hrows _ _ hst i
  simp only [rowMajor_mem_iff] at e
  exact ⟨e.1, fun hi => e.2 (by omega)⟩

theorem setInputData_random_counter :
    ∃ blocks', setInputData 8 (fun s n => (s % n, s + 1)) 0 1 1 1 false 0 0
        ⟨fun _ => 0, fun _ => 0⟩ = some blocks' ∧
      ∀ i, (i < 1 * 1 → InPredictionRange 8 (predictionValue 8 (blocks'.block1 i)) ∧
          InPredictionRange 8 (predictionValue 8 (blocks'.block2 i))) ∧
        (1 * 1 ≤ i → blocks'.block1 i = 0 ∧ blocks'.block2 i = 0) :=
  have h : setInputData 8 (fun s n => (s % n, s + 1)) 0 1 1 1 false 0 0
      ⟨fun _ => 0, fun _ => 0⟩ = some _ := rfl
  ⟨_, h, setInputData_random (Or.inl rfl) (fun _ _ hn => Nat.mod_lt _ hn) h⟩

end WeightMaskTest

end Libgav1
