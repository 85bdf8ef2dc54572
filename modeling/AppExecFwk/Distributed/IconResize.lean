import Mathlib.Tactic.Ring
import AppExecFwk.Distributed.ImageCompress

/-!
# Resizing stays inside the buffers

The indices in the input grow with those in the output, so the last pixel that is
looked up decides whether the input is large enough.  The output is large enough
exactly when its size is not cut off to 32 bits: otherwise the indices, which are
cut off too, go up to the end of the 32 bits.
-/

namespace AppExecFwk

open Sampling

namespace ImageCompress

section Output

variable {rows columns components channels row column channel : Nat}

theorem writeIndex_eq :
    (row * (columns * components % 2 ^ 32) + column * components + channel) % 2 ^ 32 =
      ((row * columns + column) * components + channel) % 2 ^ 32 := by
  have spread : (row * columns + column) * components + channel =
      row * (columns * components) + (column * components + channel) := by
    ring
  rw [spread, Nat.add_assoc, Nat.add_mod, Nat.mul_mod_mod, ← Nat.add_mod]

theorem pixel_lt (rowLt : row < rows) (columnLt : column < columns) :
    row * columns + column < rows * columns := by
  calc
    row * columns + column < row * columns + columns := by omega
    _ = (row + 1) * columns := by ring
    _ ≤ rows * columns := Nat.mul_le_mul_right columns rowLt

/-- Every pixel of the output is written. -/
theorem exists_pixel {pixel : Nat} (pixelLt : pixel < rows * columns) :
    ∃ row < rows, ∃ column < columns, row * columns + column = pixel := by
  have positive : 0 < columns := by
    apply Nat.pos_of_ne_zero
    rintro rfl
    exact absurd pixelLt (Nat.not_lt_zero pixel)
  refine ⟨pixel / columns, ?_, pixel % columns, Nat.mod_lt pixel positive, ?_⟩
  · exact Nat.div_lt_of_lt_mul (by rwa [Nat.mul_comm])
  · exact Nat.div_add_mod' pixel columns

/-- When the size of the output takes more than 32 bits, some index is at the end of
the 32 bits. -/
theorem exists_writeIndex_ge (componentsEq : components = 3 ∨ components = 4)
    (channelsGe : 3 ≤ channels) (large : 2 ^ 32 ≤ rows * columns * components) :
    ∃ pixel < rows * columns, ∃ channel < channels,
      rows * columns * components % 2 ^ 32 ≤
        (pixel * components + channel) % 2 ^ 32 := by
  rcases componentsEq with rfl | rfl
  · refine ⟨(2 ^ 32 - 1) / 3, ?_, 0, ?_, ?_⟩ <;> omega
  · refine ⟨2 ^ 30 - 1, ?_, 2, ?_, ?_⟩ <;> omega

/-- The writes stay inside the output when its size has at most 32 bits and a pixel
has the channels that are written. -/
theorem writes_iff (componentsEq : components = 3 ∨ components = 4)
    (channelsEq : channels = 3 ∨ channels = 4) (someRow : 0 < rows)
    (someColumn : 0 < columns) :
    (∀ row < rows, ∀ column < columns, ∀ channel < channels,
      ((row * columns + column) * components + channel) % 2 ^ 32 <
        rows * columns * components % 2 ^ 32) ↔
      channels ≤ components ∧ rows * columns * components < 2 ^ 32 := by
  constructor
  · intro inside
    have every : ∀ pixel < rows * columns, ∀ channel < channels,
        (pixel * components + channel) % 2 ^ 32 <
          rows * columns * components % 2 ^ 32 := by
      intro pixel pixelLt
      obtain ⟨row, rowLt, column, columnLt, rfl⟩ := exists_pixel pixelLt
      exact inside row rowLt column columnLt
    have small : rows * columns * components < 2 ^ 32 := by
      by_contra large
      have channelsGe : 3 ≤ channels := by omega
      obtain ⟨pixel, pixelLt, channel, channelLt, ge⟩ :=
        exists_writeIndex_ge componentsEq channelsGe (Nat.le_of_not_lt large)
      exact absurd (every pixel pixelLt channel channelLt) ge.not_gt
    refine ⟨?_, small⟩
    have somePixel : 0 < rows * columns := Nat.mul_pos someRow someColumn
    have last := every (rows * columns - 1) (by omega) (channels - 1) (by omega)
    rcases componentsEq with rfl | rfl <;> omega
  · rintro ⟨channelsLe, small⟩ row rowLt column columnLt channel channelLt
    have pixelLt : row * columns + column < rows * columns := pixel_lt rowLt columnLt
    generalize row * columns + column = pixel at pixelLt ⊢
    generalize rows * columns = pixels at pixelLt small ⊢
    have writeLt : pixel * components + channel < pixels * components := by
      rcases componentsEq with rfl | rfl <;> omega
    rw [Nat.mod_eq_of_lt small, Nat.mod_eq_of_lt (writeLt.trans small)]
    exact writeLt

end Output

section Input

/-- The reads stay inside the input when the last channel of the last pixel does, since
the indices that are looked up do not decrease. -/
theorem reads_iff {rows columns channels stride components allocated : Nat}
    {rowAt columnAt : Nat → Nat} (rowMono : Monotone rowAt) (columnMono : Monotone columnAt)
    (someRow : 0 < rows) (someColumn : 0 < columns) (someChannel : 0 < channels) :
    (∀ row < rows, ∀ column < columns, ∀ channel < channels,
      rowAt row * stride + columnAt column * components + channel < allocated) ↔
      rowAt (rows - 1) * stride + columnAt (columns - 1) * components + channels ≤
        allocated := by
  constructor
  · intro inside
    have last := inside (rows - 1) (by omega) (columns - 1) (by omega) (channels - 1)
      (by omega)
    omega
  · intro last row rowLt column columnLt channel channelLt
    have rowLe : rowAt row * stride ≤ rowAt (rows - 1) * stride :=
      Nat.mul_le_mul_right stride (rowMono (by omega))
    have columnLe :
        columnAt column * components ≤ columnAt (columns - 1) * components :=
      Nat.mul_le_mul_right components (columnMono (by omega))
    omega

/-- An index of the input is not cut off to 64 bits. -/
theorem readIndex_lt {width height row column channel components : Nat}
    (widthLt : width < 2 ^ 32) (heightLt : height < 2 ^ 32)
    (componentsEq : components = 3 ∨ components = 4) (rowLt : row < height)
    (columnLt : column < width) (channelLt : channel < 4) :
    row * (width * components % 2 ^ 32) + column * components + channel < 2 ^ 64 := by
  have rowLe : row ≤ 2 ^ 32 - 2 := by omega
  rcases componentsEq with rfl | rfl
  · have strideLe : width * 3 % 2 ^ 32 ≤ 2 ^ 32 - 1 := by omega
    have product := Nat.mul_le_mul rowLe strideLe
    omega
  · have strideLe : width * 4 % 2 ^ 32 ≤ 2 ^ 32 - 4 := by omega
    have product := Nat.mul_le_mul rowLe strideLe
    omega

end Input

section Resize

variable {channels : Nat} {ratio : ℚ} {image : DecodedImage}
  {imageBufferIn imageBufferOut : ImageBuffer}

/-- The last row or column of the input that is looked up for a side. -/
def lastLookedUp (side : Nat) (ratio : ℚ) : Nat :=
  nearest (((scaled side ratio - 1 : Nat) : ℚ) / ratio)

/-- What an image, a ratio and a number of channels have to be like.  Either nothing
is accessed, or a pixel has the channels, the size of the output has at most 32 bits
and the last pixel that is looked up ends before the size of the input that is left
in 32 bits. -/
def Fits (channels : Nat) (ratio : ℚ) (image : ImageBuffer) : Prop :=
  ratio ≤ epsilon ∨ scaled image.height ratio = 0 ∨ scaled image.width ratio = 0 ∨
    channels ≤ image.components ∧
      scaled image.height ratio * scaled image.width ratio * image.components <
        2 ^ 32 ∧
      lastLookedUp image.height ratio * (image.width * image.components % 2 ^ 32) +
          lastLookedUp image.width ratio * image.components + channels ≤
        image.width * image.components * image.height % 2 ^ 32

/-- Below the size, the clamp changes nothing. -/
theorem clampIndex_of_lt {index size : Nat} (below : index < size) :
    clampIndex index size = index :=
  if_neg (by omega)

theorem doubleEqual_zero (nonneg : 0 ≤ ratio) :
    doubleEqual ratio 0 = true ↔ ratio ≤ epsilon := by
  rw [doubleEqual, sub_zero, abs_of_nonneg nonneg, decide_eq_true_iff]

/-- The assignments for one pixel, when nothing has to be clamped. -/
theorem forall_pixelAccesses_iff (positive : 0 < ratio) (atMost : ratio ≤ 1)
    (channelsLe : channels ≤ 4) {row column : Nat}
    (rowLt : row < scaled image.header.height ratio)
    (columnLt : column < scaled image.header.width ratio)
    (sameComponents : imageBufferOut.components = image.header.components)
    {Good : PixelAccess → Prop} :
    (∀ access ∈ pixelAccesses channels ratio image.buffer imageBufferOut row column,
      Good access) ↔
      ∀ channel < channels, Good
        { writeIndex := ((row * imageBufferOut.width + column) *
            image.header.components + channel) % 2 ^ 32
          readIndex := nearest ((row : ℚ) / ratio) *
              (image.header.width * image.header.components % 2 ^ 32) +
            nearest ((column : ℚ) / ratio) * image.header.components + channel } := by
  have lookedRow := nearest_div_lt positive atMost rowLt
  have lookedColumn := nearest_div_lt positive atMost columnLt
  simp only [pixelAccesses, List.forall_mem_map, List.mem_range,
    DecodedImage.width_buffer, DecodedImage.height_buffer,
    DecodedImage.components_buffer, sameComponents, clampIndex_of_lt lookedRow,
    clampIndex_of_lt lookedColumn, writeIndex_eq]
  apply forall₂_congr
  intro channel channelLt
  rw [Nat.mod_eq_of_lt (readIndex_lt image.width_lt image.height_lt
    image.components_eq lookedRow lookedColumn (by omega))]

/-- The assignments of the whole loop, which are reads of the input and writes of the
output. -/
theorem forall_accesses_iff (positive : 0 < ratio) (atMost : ratio ≤ 1)
    (channelsLe : channels ≤ 4) {rows columns inputSize outputSize : Nat}
    (rowsEq : rows = scaled image.header.height ratio)
    (columnsEq : columns = scaled image.header.width ratio)
    (widthEq : imageBufferOut.width = columns)
    (sameComponents : imageBufferOut.components = image.header.components) :
    (∀ row < rows, ∀ column < columns, ∀ access ∈
      pixelAccesses channels ratio image.buffer imageBufferOut row column,
      access.readIndex < inputSize ∧ access.writeIndex < outputSize) ↔
      (∀ row < rows, ∀ column < columns, ∀ channel < channels,
        nearest ((row : ℚ) / ratio) *
              (image.header.width * image.header.components % 2 ^ 32) +
            nearest ((column : ℚ) / ratio) * image.header.components + channel <
          inputSize) ∧
      ∀ row < rows, ∀ column < columns, ∀ channel < channels,
        ((row * columns + column) * image.header.components + channel) % 2 ^ 32 <
          outputSize := by
  subst rowsEq columnsEq
  constructor
  · intro inside
    constructor <;> intro row rowLt column columnLt channel channelLt
    all_goals
      have pixel := (forall_pixelAccesses_iff positive atMost channelsLe rowLt columnLt
        sameComponents).mp (inside row rowLt column columnLt) channel channelLt
      rw [widthEq] at pixel
    · exact pixel.1
    · exact pixel.2
  · rintro ⟨reads, writes⟩ row rowLt column columnLt
    refine (forall_pixelAccesses_iff positive atMost channelsLe rowLt columnLt
      sameComponents).mpr ?_
    intro channel channelLt
    rw [widthEq]
    exact ⟨reads row rowLt column columnLt channel channelLt,
      writes row rowLt column columnLt channel channelLt⟩

/-- What a call does when nothing is wrong with the ratio and something is accessed. -/
theorem staysInside_resizeImage_of_some (channelsEq : channels = 3 ∨ channels = 4)
    (large : epsilon < ratio) (atMost : ratio ≤ 1)
    {rows columns : Nat} (rowsEq : rows = scaled image.header.height ratio)
    (columnsEq : columns = scaled image.header.width ratio)
    (someRow : 0 < rows) (someColumn : 0 < columns) :
    (resizeImage channels ratio image.buffer imageBufferOut).StaysInside image.buffer ↔
      (∀ row < rows, ∀ column < columns, ∀ channel < channels,
        nearest ((row : ℚ) / ratio) *
              (image.header.width * image.header.components % 2 ^ 32) +
            nearest ((column : ℚ) / ratio) * image.header.components + channel <
          image.header.width * image.header.components * image.header.height % 2 ^ 32) ∧
      ∀ row < rows, ∀ column < columns, ∀ channel < channels,
        ((row * columns + column) * image.header.components + channel) % 2 ^ 32 <
          rows * columns * image.header.components % 2 ^ 32 := by
  have positive : 0 < ratio := (by norm_num [epsilon] : (0 : ℚ) < epsilon).trans large
  have proceeds : ¬doubleEqual ratio 0 = true := by
    rw [doubleEqual_zero positive.le]
    exact large.not_ge
  rw [resizeImage, if_neg proceeds]
  simp only [ResizeRun.StaysInside, List.forall_mem_flatMap, List.mem_range,
    ImageBuffer.width_mallocImageMap, ImageBuffer.height_mallocImageMap,
    DecodedImage.width_buffer, DecodedImage.height_buffer,
    DecodedImage.components_buffer, DecodedImage.allocated_buffer, ← rowsEq,
    ← columnsEq]
  rw [ImageBuffer.allocated_mallocImageMap someColumn.ne' someRow.ne',
    (by ring : columns * image.header.components * rows =
      rows * columns * image.header.components)]
  exact forall_accesses_iff positive atMost (by omega) rowsEq columnsEq
    (ImageBuffer.width_mallocImageMap _ _) (ImageBuffer.components_mallocImageMap _ _)

/-- A side of the output that is 0 leads to no access. -/
theorem accesses_of_empty
    (empty : (resizeImage channels ratio imageBufferIn imageBufferOut).imageBufferOut.width
        = 0 ∨
      (resizeImage channels ratio imageBufferIn imageBufferOut).imageBufferOut.height
        = 0) :
    (resizeImage channels ratio imageBufferIn imageBufferOut).accesses = [] := by
  unfold resizeImage at empty ⊢
  split at empty
  case isTrue equal => rw [if_pos equal]
  case isFalse unequal =>
    rw [if_neg unequal]
    dsimp only at empty ⊢
    rcases empty with noColumn | noRow
    · rw [noColumn]
      simp
    · rw [noRow]
      rfl

theorem accesses_of_scaled_zero
    (none : scaled imageBufferIn.width ratio = 0 ∨
      scaled imageBufferIn.height ratio = 0) :
    (resizeImage channels ratio imageBufferIn imageBufferOut).accesses = [] := by
  by_cases equal : doubleEqual ratio 0 = true
  · rw [resizeImage, if_pos equal]
  · apply accesses_of_empty
    rw [resizeImage, if_neg equal, ImageBuffer.width_mallocImageMap,
      ImageBuffer.height_mallocImageMap]
    exact none

/-- Resizing stays inside the buffers exactly when the image fits. -/
theorem isSafe_resizeImage_iff (channelsEq : channels = 3 ∨ channels = 4)
    (nonneg : 0 ≤ ratio) (atMost : ratio ≤ 1) :
    (resizeImage channels ratio image.buffer imageBufferOut).IsSafe image.buffer ↔
      Fits channels ratio image.buffer := by
  have safe : (resizeImage channels ratio image.buffer imageBufferOut).IsSafe
      image.buffer ↔
      (resizeImage channels ratio image.buffer imageBufferOut).StaysInside
        image.buffer :=
    ⟨fun safe => safe.staysInside, fun inside => ⟨inside, accesses_of_empty⟩⟩
  rw [safe]
  simp only [Fits, DecodedImage.width_buffer, DecodedImage.height_buffer,
    DecodedImage.components_buffer]
  rcases le_or_gt ratio epsilon with small | large
  · rw [resizeImage, if_pos ((doubleEqual_zero nonneg).mpr small)]
    exact iff_of_true nofun (.inl small)
  rcases Nat.eq_zero_or_pos (scaled image.header.height ratio) with noRow | someRow
  · refine iff_of_true ?_ (.inr (.inl noRow))
    rw [ResizeRun.StaysInside, accesses_of_scaled_zero]
    · exact nofun
    · rw [DecodedImage.height_buffer]
      exact .inr noRow
  rcases Nat.eq_zero_or_pos (scaled image.header.width ratio) with noColumn | someColumn
  · refine iff_of_true ?_ (.inr (.inr (.inl noColumn)))
    rw [ResizeRun.StaysInside, accesses_of_scaled_zero]
    · exact nofun
    · rw [DecodedImage.width_buffer]
      exact .inl noColumn
  have positive : 0 < ratio := (by norm_num [epsilon] : (0 : ℚ) < epsilon).trans large
  have rowMono : Monotone fun row : Nat => nearest ((row : ℚ) / ratio) :=
    fun _ _ le => nearest_div_mono positive le
  rw [staysInside_resizeImage_of_some channelsEq large atMost rfl rfl someRow
      someColumn,
    reads_iff rowMono rowMono someRow someColumn (by omega),
    writes_iff image.components_eq channelsEq someRow someColumn]
  simp only [large.not_ge, someRow.ne', someColumn.ne', false_or, lastLookedUp]
  rw [and_comm, and_assoc]

/-- An image whose size has at most 32 bits fits, when its pixels have the channels that
are copied. -/
theorem fits_of_size_lt (atMost : ratio ≤ 1)
    (channelsLe : channels ≤ imageBufferIn.components)
    (small : imageBufferIn.height * imageBufferIn.width * imageBufferIn.components <
      2 ^ 32) : Fits channels ratio imageBufferIn := by
  rcases le_or_gt ratio epsilon with tiny | large
  · exact .inl tiny
  rcases Nat.eq_zero_or_pos (scaled imageBufferIn.height ratio) with noRow | someRow
  · exact .inr (.inl noRow)
  rcases Nat.eq_zero_or_pos (scaled imageBufferIn.width ratio) with noColumn | someColumn
  · exact .inr (.inr (.inl noColumn))
  have positive : 0 < ratio := (by norm_num [epsilon] : (0 : ℚ) < epsilon).trans large
  have rowLt : lastLookedUp imageBufferIn.height ratio < imageBufferIn.height :=
    nearest_div_lt positive atMost (by omega)
  have columnLt : lastLookedUp imageBufferIn.width ratio < imageBufferIn.width :=
    nearest_div_lt positive atMost (by omega)
  refine .inr (.inr (.inr ⟨channelsLe, ?_, ?_⟩))
  · calc
      scaled imageBufferIn.height ratio * scaled imageBufferIn.width ratio *
            imageBufferIn.components ≤
          imageBufferIn.height * imageBufferIn.width * imageBufferIn.components :=
        Nat.mul_le_mul_right _ (Nat.mul_le_mul (scaled_le atMost) (scaled_le atMost))
      _ < 2 ^ 32 := small
  · generalize lastLookedUp imageBufferIn.height ratio = row at rowLt ⊢
    generalize lastLookedUp imageBufferIn.width ratio = column at columnLt ⊢
    generalize imageBufferIn.components = components at channelsLe small ⊢
    rw [Nat.mul_assoc] at small
    have stride : imageBufferIn.width * components < 2 ^ 32 :=
      (Nat.le_mul_of_pos_left _ (by omega)).trans_lt small
    rw [Nat.mul_comm] at small
    rw [Nat.mod_eq_of_lt stride, Nat.mod_eq_of_lt small]
    have inRow : column * components + components ≤ imageBufferIn.width * components := by
      rw [← Nat.succ_mul]
      exact Nat.mul_le_mul_right components columnLt
    have inImage : row * (imageBufferIn.width * components) +
          imageBufferIn.width * components ≤
        imageBufferIn.width * components * imageBufferIn.height := by
      rw [← Nat.succ_mul, Nat.mul_comm]
      exact Nat.mul_le_mul_left _ rowLt
    omega

end Resize

/-- `ResizeRGBAImage` and `ResizeRGBImage` are safe exactly for the images that fit. -/
theorem resizeImage_isSafe_iff (image : DecodedImage) (imageBufferOut : ImageBuffer) :
    ((resizeRGBAImage image.buffer imageBufferOut).IsSafe image.buffer ↔
      Fits rgbaComponents
        (image.header.ratio * ((image.header.pngComponents : ℚ) / rgbaComponents))
        image.buffer) ∧
    ((resizeRGBImage image.buffer imageBufferOut).IsSafe image.buffer ↔
      Fits rgbComponents image.header.ratio image.buffer) := by
  have positive := image.ratio_pos
  constructor
  · have share : (image.header.pngComponents : ℚ) / rgbaComponents ≤ 1 := by
      rw [div_le_one (by norm_num [rgbaComponents])]
      exact_mod_cast image.pngComponents_le
    have atMost : image.header.ratio *
        ((image.header.pngComponents : ℚ) / rgbaComponents) ≤ 1 :=
      mul_le_one₀ image.ratio_le (by positivity) share
    rw [resizeRGBAImage, DecodedImage.ratio_buffer, DecodedImage.pngComponents_buffer]
    exact isSafe_resizeImage_iff (.inr rfl) (by positivity) atMost
  · rw [resizeRGBImage, DecodedImage.ratio_buffer]
    exact isSafe_resizeImage_iff (.inl rfl) positive.le image.ratio_le

/-- A grey image of 65536 times 65536 pixels, in a file of 604224 bytes. -/
def largeImage : DecodedImage where
  header :=
    { width := 65536, height := 65536, components := 4, pngComponents := 1
      ratio := 1 / 12, colorType := 0, bitDepth := 1 }
  width_lt := by decide
  height_lt := by decide
  components_eq := .inr rfl
  pngComponents_le := by decide
  ratio_pos := by norm_num
  ratio_le := by norm_num
  imageDataSize_eq := rfl

/-- Nothing is allocated for the large image, and it is read. -/
theorem not_isSafe_largeImage :
    ¬(resizeRGBAImage largeImage.buffer
      { width := 0, height := 0, components := 0, pngComponents := 0, ratio := 0,
        colorType := 0, bitDepth := 0 }).IsSafe largeImage.buffer := by
  have ratioEq : largeImage.buffer.ratio *
      ((largeImage.buffer.pngComponents : ℚ) / rgbaComponents) = 1 / 48 := by
    rw [DecodedImage.ratio_buffer, DecodedImage.pngComponents_buffer]
    norm_num [largeImage, rgbaComponents]
  have unfit : ¬Fits rgbaComponents (1 / 48) largeImage.buffer := by
    unfold Fits
    decide +kernel
  rw [resizeRGBAImage, ratioEq]
  intro safe
  apply unfit
  exact (isSafe_resizeImage_iff (.inr rfl) (by norm_num) (by norm_num)).mp safe

end ImageCompress

end AppExecFwk
