import AppExecFwk.Library.Sampling

/-!
# Resizing icons

Icons of large files are decoded into a buffer of pixels, scaled down by a ratio
and encoded again.  Sizes, strides and the indices of the output are computed in
32 bits, the indices of the input in 64 bits; a ratio is a rational number.
-/

namespace AppExecFwk

open Sampling

/-- The header of an image, and the size of its pixel buffer when it has one. -/
structure ImageBuffer where
  width : Nat
  height : Nat
  components : Nat
  pngComponents : Nat
  ratio : ℚ
  colorType : UInt8
  bitDepth : UInt8
  imageDataSize : Option Nat := none

namespace ImageBuffer

def mallocImageMap (buffer : ImageBuffer) (components : Nat) : Bool × ImageBuffer :=
  if buffer.width = 0 ∨ buffer.height = 0 then (false, buffer)
  else
    let rowStride := buffer.width * components % 2 ^ 32
    (true, { buffer with imageDataSize := some (rowStride * buffer.height % 2 ^ 32) })

@[simp]
theorem width_mallocImageMap (buffer : ImageBuffer) (components : Nat) :
    (buffer.mallocImageMap components).2.width = buffer.width := by
  unfold mallocImageMap
  split <;> rfl

@[simp]
theorem height_mallocImageMap (buffer : ImageBuffer) (components : Nat) :
    (buffer.mallocImageMap components).2.height = buffer.height := by
  unfold mallocImageMap
  split <;> rfl

@[simp]
theorem components_mallocImageMap (buffer : ImageBuffer) (components : Nat) :
    (buffer.mallocImageMap components).2.components = buffer.components := by
  unfold mallocImageMap
  split <;> rfl

@[simp]
theorem ratio_mallocImageMap (buffer : ImageBuffer) (components : Nat) :
    (buffer.mallocImageMap components).2.ratio = buffer.ratio := by
  unfold mallocImageMap
  split <;> rfl

@[simp]
theorem pngComponents_mallocImageMap (buffer : ImageBuffer) (components : Nat) :
    (buffer.mallocImageMap components).2.pngComponents = buffer.pngComponents := by
  unfold mallocImageMap
  split <;> rfl

/-- The number of bytes that may be accessed. -/
def allocated (buffer : ImageBuffer) : Nat :=
  buffer.imageDataSize.getD 0

theorem allocated_mallocImageMap {buffer : ImageBuffer} (someWidth : buffer.width ≠ 0)
    (someHeight : buffer.height ≠ 0) (components : Nat) :
    (buffer.mallocImageMap components).2.allocated =
      buffer.width * components * buffer.height % 2 ^ 32 := by
  rw [mallocImageMap, if_neg (by simp [someWidth, someHeight])]
  exact Nat.mod_mul_mod _ _ _

end ImageBuffer

/-- One assignment of the loop: the byte at an index of the input goes to an index
of the output. -/
structure PixelAccess where
  writeIndex : Nat
  readIndex : Nat
  deriving DecidableEq

/-- A call that resizes an image. -/
structure ResizeRun where
  result : Int
  imageBufferOut : ImageBuffer
  accesses : List PixelAccess

/-- All assignments stay inside the buffers. -/
def ResizeRun.StaysInside (run : ResizeRun) (imageBufferIn : ImageBuffer) : Prop :=
  ∀ access ∈ run.accesses, access.readIndex < imageBufferIn.allocated ∧
    access.writeIndex < run.imageBufferOut.allocated

/-- A call is safe when it stays inside the buffers, and accesses nothing when a side
of the output is 0. -/
structure ResizeRun.IsSafe (run : ResizeRun) (imageBufferIn : ImageBuffer) : Prop where
  staysInside : run.StaysInside imageBufferIn
  ofEmpty : run.imageBufferOut.width = 0 ∨ run.imageBufferOut.height = 0 →
    run.accesses = []

namespace ImageCompress

def rgbaComponents : Nat := 4
def rgbComponents : Nat := 3
def epsilon : ℚ := 1 / 100000

def doubleEqual (left right : ℚ) : Bool :=
  |left - right| ≤ epsilon

/-- An index that is greater than the size becomes the last one. -/
def clampIndex (index size : Nat) : Nat :=
  if index > size then (if size = 0 then 0 else size - 1) else index

/-- The assignments for one pixel, of as many channels as the function copies. -/
def pixelAccesses (channels : Nat) (ratio : ℚ) (imageBufferIn imageBufferOut : ImageBuffer)
    (h w : Nat) : List PixelAccess :=
  let outRowStride := imageBufferOut.width * imageBufferOut.components % 2 ^ 32
  let inRowStride := imageBufferIn.width * imageBufferIn.components % 2 ^ 32
  let components := imageBufferIn.components
  let heightIndex := clampIndex (nearest (h / ratio)) imageBufferIn.height
  let widthIndex := clampIndex (nearest (w / ratio)) imageBufferIn.width
  (List.range channels).map fun channel =>
    { writeIndex := (h * outRowStride + w * components + channel) % 2 ^ 32
      readIndex :=
        (heightIndex * inRowStride + widthIndex * components + channel) % 2 ^ 64 }

/-- The common text of `ResizeRGBAImage` and `ResizeRGBImage`. -/
def resizeImage (channels : Nat) (ratio : ℚ) (imageBufferIn imageBufferOut : ImageBuffer) :
    ResizeRun :=
  if doubleEqual ratio 0 then { result := -1, imageBufferOut, accesses := [] }
  else
    let header : ImageBuffer :=
      { imageBufferOut with
        width := scaled imageBufferIn.width ratio
        height := scaled imageBufferIn.height ratio
        components := imageBufferIn.components
        colorType := imageBufferIn.colorType
        bitDepth := imageBufferIn.bitDepth }
    let imageBufferOut := (header.mallocImageMap header.components).2
    { result := 0
      imageBufferOut
      accesses := (List.range imageBufferOut.height).flatMap fun h =>
        (List.range imageBufferOut.width).flatMap fun w =>
          pixelAccesses channels ratio imageBufferIn imageBufferOut h w }

/-- `ResizeRGBAImage` copies four channels, and takes the number of channels that the
file has into the ratio. -/
def resizeRGBAImage (imageBufferIn imageBufferOut : ImageBuffer) : ResizeRun :=
  resizeImage rgbaComponents
    (imageBufferIn.ratio * ((imageBufferIn.pngComponents : ℚ) / rgbaComponents))
    imageBufferIn imageBufferOut

def resizeRGBImage (imageBufferIn imageBufferOut : ImageBuffer) : ResizeRun :=
  resizeImage rgbComponents imageBufferIn.ratio imageBufferIn imageBufferOut

end ImageCompress

/-- An image as a decoder leaves it: the sides have 32 bits, there are 3 or 4
components, a PNG file has at most 4 channels, the ratio is in (0, 1], and there is
no pixel buffer yet. -/
structure DecodedImage where
  header : ImageBuffer
  width_lt : header.width < 2 ^ 32
  height_lt : header.height < 2 ^ 32
  components_eq : header.components = 3 ∨ header.components = 4
  pngComponents_le : header.pngComponents ≤ 4
  ratio_pos : 0 < header.ratio
  ratio_le : header.ratio ≤ 1
  imageDataSize_eq : header.imageDataSize = none

namespace DecodedImage

/-- The image with the pixel buffer that `MallocImageMap` allocates. -/
def buffer (image : DecodedImage) : ImageBuffer :=
  (image.header.mallocImageMap image.header.components).2

variable (image : DecodedImage)

@[simp]
theorem width_buffer : image.buffer.width = image.header.width :=
  ImageBuffer.width_mallocImageMap _ _

@[simp]
theorem height_buffer : image.buffer.height = image.header.height :=
  ImageBuffer.height_mallocImageMap _ _

@[simp]
theorem components_buffer : image.buffer.components = image.header.components :=
  ImageBuffer.components_mallocImageMap _ _

@[simp]
theorem ratio_buffer : image.buffer.ratio = image.header.ratio :=
  ImageBuffer.ratio_mallocImageMap _ _

@[simp]
theorem pngComponents_buffer :
    image.buffer.pngComponents = image.header.pngComponents :=
  ImageBuffer.pngComponents_mallocImageMap _ _

/-- The product of the sides and the components is cut off to 32 bits. -/
theorem allocated_buffer : image.buffer.allocated =
    image.header.width * image.header.components * image.header.height % 2 ^ 32 := by
  by_cases empty : image.header.width = 0 ∨ image.header.height = 0
  · rw [buffer, ImageBuffer.mallocImageMap, if_pos empty, ImageBuffer.allocated,
      image.imageDataSize_eq]
    rcases empty with none | none <;> simp [none]
  · rw [not_or] at empty
    exact ImageBuffer.allocated_mallocImageMap empty.1 empty.2 _

end DecodedImage

end AppExecFwk
