/-
Images with 32 bits for each pixel.

Of an image in its own format only the size and the conversion are used.  The
type of such images is a parameter, taken up to the comparison of images, so
that two images which compare equal are one and the same here.
-/

import KRdp.Qt.Geometry
import Mathlib.Data.List.Forall2

namespace KRdp

structure Argb32 where
  alpha : UInt8
  red : UInt8
  green : UInt8
  blue : UInt8
  deriving DecidableEq, Repr

/-- An image in `Format_ARGB32`. -/
structure Argb32Image where
  width : Nat
  height : Nat
  rows : List (List Argb32)
  rowCount : rows.length = height
  rowLength : ∀ row ∈ rows, row.length = width
  deriving DecidableEq, Repr

/-- Images in any format; a conversion keeps the size. -/
class QImage (Image : Type) where
  isNull : Image → Bool
  width : Image → Int32
  height : Image → Int32
  convertToArgb32 : Image → Argb32Image
  width_converted : ∀ image, ((convertToArgb32 image).width : Int) = (width image).toInt
  height_converted : ∀ image, ((convertToArgb32 image).height : Int) = (height image).toInt

namespace Argb32Image

def mirrored (image : Argb32Image) : Argb32Image where
  width := image.width
  height := image.height
  rows := image.rows.reverse
  rowCount := by rw [List.length_reverse, image.rowCount]
  rowLength := fun row member => image.rowLength row (List.mem_reverse.mp member)

end Argb32Image

namespace Argb32

def rgbSwapped (pixel : Argb32) : Argb32 :=
  { pixel with
    red := pixel.blue
    blue := pixel.red }

/-- The bytes of a pixel on a little-endian host. -/
def bytes (pixel : Argb32) : List UInt8 := [pixel.blue, pixel.green, pixel.red, pixel.alpha]

def ofBytes : List UInt8 → List Argb32
  | blue :: green :: red :: alpha :: rest =>
      { alpha := alpha
        red := red
        green := green
        blue := blue } :: ofBytes rest
  | _ => []

@[simp] theorem rgbSwapped_rgbSwapped (pixel : Argb32) : pixel.rgbSwapped.rgbSwapped = pixel := rfl

theorem ofBytes_bytes (pixels : List Argb32) : ofBytes (pixels.flatMap bytes) = pixels := by
  induction pixels with
  | nil => rfl
  | cons pixel rest ih => exact congrArg (pixel :: ·) ih

theorem length_bytes (pixels : List Argb32) :
    (pixels.flatMap bytes).length = 4 * pixels.length := by
  induction pixels with
  | nil => rfl
  | cons pixel rest ih =>
      rw [List.flatMap_cons, List.length_append, ih, List.length_cons]
      exact Nat.add_comm 4 _

end Argb32

namespace Argb32Image

def rgbSwapped (image : Argb32Image) : Argb32Image where
  width := image.width
  height := image.height
  rows := image.rows.map (List.map Argb32.rgbSwapped)
  rowCount := by rw [List.length_map, image.rowCount]
  rowLength := by
    intro row member
    obtain ⟨source, sourceMember, rfl⟩ := List.mem_map.mp member
    rw [List.length_map, image.rowLength source sourceMember]

def bits (image : Argb32Image) : List UInt8 := image.rows.flatten.flatMap Argb32.bytes

theorem length_bits (image : Argb32Image) :
    image.bits.length = 4 * (image.width * image.height) := by
  have flattened (rows : List (List Argb32)) (width : Nat)
      (lengths : ∀ row ∈ rows, row.length = width) :
      rows.flatten.length = width * rows.length := by
    induction rows with
    | nil => rfl
    | cons row rest ih =>
        obtain ⟨here, later⟩ := List.forall_mem_cons.mp lengths
        rw [List.flatten_cons, List.length_append, ih later, here, List.length_cons,
          Nat.mul_succ, Nat.add_comm]
  rw [bits, Argb32.length_bytes, flattened image.rows image.width image.rowLength, image.rowCount]

def splitRows {α : Type} (width : Nat) : Nat → List α → List (List α)
  | 0, _ => []
  | count + 1, cells => cells.take width :: splitRows width count (cells.drop width)

theorem splitRows_flatten {α : Type} {width : Nat} {rows : List (List α)}
    (lengths : ∀ row ∈ rows, row.length = width) :
    splitRows width rows.length rows.flatten = rows := by
  induction rows with
  | nil => rfl
  | cons row rest ih =>
      obtain ⟨here, later⟩ := List.forall_mem_cons.mp lengths
      rw [List.flatten_cons, List.length_cons, splitRows, ← here, List.take_left', List.drop_left',
        here, ih later]
      · rfl
      · rfl

/-- The rows that were turned upside down and swapped into some bytes. -/
def readBack (width height : Nat) (data : List UInt8) : List (List Argb32) :=
  ((splitRows width height (Argb32.ofBytes data)).map (List.map Argb32.rgbSwapped)).reverse

theorem readBack_bits (image : Argb32Image) :
    readBack image.width image.height image.mirrored.rgbSwapped.bits = image.rows := by
  have rows := splitRows_flatten image.mirrored.rgbSwapped.rowLength
  rw [image.mirrored.rgbSwapped.rowCount] at rows
  change splitRows image.width image.height image.mirrored.rgbSwapped.rows.flatten = _ at rows
  rw [readBack, bits, Argb32.ofBytes_bytes, rows]
  have twice : List.map Argb32.rgbSwapped ∘ List.map Argb32.rgbSwapped =
      (id : List Argb32 → List Argb32) := by
    funext row
    simp [Function.comp_def]
  change ((image.rows.reverse.map _).map _).reverse = _
  rw [List.map_map, twice, List.map_id, List.reverse_reverse]

end Argb32Image

/-! ### Images in the format itself -/

abbrev Sized : Type := { image : Argb32Image // image.width < 2 ^ 31 ∧ image.height < 2 ^ 31 }

namespace Argb32Image

private theorem toInt_ofNat {extent : Nat} (small : extent < 2 ^ 31) :
    (extent : Int) = (Int32.ofNat extent).toInt :=
  (Int32.toInt_ofNat_of_lt small).symm

instance : QImage Sized where
  isNull image := image.1.width = 0 || image.1.height = 0
  width image := .ofNat image.1.width
  height image := .ofNat image.1.height
  convertToArgb32 image := image.1
  width_converted image := toInt_ofNat image.2.1
  height_converted image := toInt_ofNat image.2.2

def fill (width height : Nat) (pixel : Argb32) : Argb32Image where
  width := width
  height := height
  rows := .replicate height (.replicate width pixel)
  rowCount := List.length_replicate
  rowLength := by
    intro row member
    rw [List.eq_of_mem_replicate member, List.length_replicate]

end Argb32Image

end KRdp
