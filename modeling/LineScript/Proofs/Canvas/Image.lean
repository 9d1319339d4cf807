import LineScript.Canvas.Image
import LineScript.Proofs.Canvas.Pixels
import LineScript.Proofs.Number.Numeral

/-!
Image files. The bytes of an image begin with its size in decimal digits and go on with the
components of its pixels, row by row. A reader of such files gets size and pixels back, also where a
component looks like a digit or like the end of a line.
-/

namespace LineScript

/-- What a reader of image files sees: a size and the pixels, row by row from the top. -/
structure Picture where
  width : ℕ
  height : ℕ
  pixels : List Color
deriving DecidableEq

namespace Picture

/-! ## Reading image files -/

def charOf (byte : UInt8) : Char :=
  Char.ofNat byte.toNat

def isDigit (byte : UInt8) : Bool :=
  48 ≤ byte && byte ≤ 57

/-- Whether a byte is blank space: a tabulator, an end of a line or a page, or a space. -/
def isBlank (byte : UInt8) : Bool :=
  (9 ≤ byte && byte ≤ 13) || byte == 32

def readNumber? : List UInt8 → Option (ℕ × List UInt8)
  | [] => none
  | blank :: bytes =>
      let rest := bytes.dropWhile isBlank
      let digits := (rest.takeWhile isDigit).map charOf
      if isBlank blank && !digits.isEmpty then
        some (Nat.ofDigitChars 10 digits 0, rest.dropWhile isDigit)
      else none

def readPixels? : (count : ℕ) → List UInt8 → Option (List Color × List UInt8)
  | 0, bytes => some ([], bytes)
  | count + 1, red :: green :: blue :: bytes => do
      let (pixels, rest) ← readPixels? count bytes
      return (⟨red, green, blue⟩ :: pixels, rest)
  | _ + 1, _ => none

/-- Reads an image from the beginning of a file: the letter `P` and the digit `6`, width, height and
the greatest component, which is 255, one newline, and then the pixels. What follows is left. -/
def read? : List UInt8 → Option (Picture × List UInt8)
  | 0x50 :: 0x36 :: bytes => do
      let (width, bytes) ← readNumber? bytes
      let (height, bytes) ← readNumber? bytes
      match ← readNumber? bytes with
      | (255, 0x0a :: bytes) =>
          let (pixels, rest) ← readPixels? (width * height) bytes
          return (⟨width, height, pixels⟩, rest)
      | _ => none
  | _ => none

/-! ## Numbers -/

def digitBytes (n : ℕ) : List UInt8 :=
  (Nat.toDigits 10 n).map fun c => c.toNat.toUInt8

theorem isDigit_iff {byte : UInt8} : isDigit byte = true ↔ 48 ≤ byte.toNat ∧ byte.toNat ≤ 57 := by
  simp [isDigit, UInt8.le_iff_toNat_le]

theorem isBlank_digit {byte : UInt8} (digit : isDigit byte = true) : isBlank byte = false := by
  have bounds := isDigit_iff.mp digit
  simp only [isBlank, UInt8.le_iff_toNat_le, ← UInt8.toNat_inj, Bool.or_eq_false_iff,
    Bool.and_eq_false_iff, decide_eq_false_iff_not, beq_eq_false_iff_ne, ne_eq]
  simp
  omega

theorem toNat_byte {c : Char} (digit : c.isDigit = true) : c.toNat.toUInt8.toNat = c.toNat := by
  have bounds := Number.isDigit_iff.mp digit
  exact Nat.mod_eq_of_lt (by omega)

theorem charOf_byte {c : Char} (digit : c.isDigit = true) : charOf c.toNat.toUInt8 = c := by
  rw [charOf, toNat_byte digit, Char.ofNat_toNat]

theorem isDigit_of_mem_digitBytes {n : ℕ} {byte : UInt8} (member : byte ∈ digitBytes n) :
    isDigit byte = true := by
  obtain ⟨c, listed, rfl⟩ := List.mem_map.mp member
  have digit : c.isDigit = true := Nat.isDigit_of_mem_toDigits (by decide) le_rfl listed
  rw [isDigit_iff, toNat_byte digit]
  exact Number.isDigit_iff.mp digit

theorem map_charOf_digitBytes (n : ℕ) : (digitBytes n).map charOf = Nat.toDigits 10 n := by
  rw [digitBytes, List.map_map]
  refine (List.map_congr_left fun c listed => ?_).trans (List.map_id _)
  exact charOf_byte (Nat.isDigit_of_mem_toDigits (by decide) le_rfl listed)

theorem readNumber?_digitBytes {blank : UInt8} {rest : List UInt8} (n : ℕ)
    (apart : isBlank blank = true) (ends : ∀ byte, rest.head? = some byte → isDigit byte = false) :
    readNumber? (blank :: (digitBytes n ++ rest)) = some (n, rest) := by
  have filled : digitBytes n ≠ [] := by simp [digitBytes]
  have solid : (digitBytes n ++ rest).dropWhile isBlank = digitBytes n ++ rest := by
    obtain ⟨first, more, split⟩ := List.exists_cons_of_ne_nil filled
    have digit : isDigit first = true := isDigit_of_mem_digitBytes (split ▸ List.mem_cons_self)
    rw [split, List.cons_append, List.dropWhile_cons_of_neg (by simp [isBlank_digit digit])]
  have others : rest.takeWhile isDigit = [] ∧ rest.dropWhile isDigit = rest := by
    cases rest with
    | nil => exact ⟨rfl, rfl⟩
    | cons byte more => simp [ends byte rfl]
  have digits : (digitBytes n ++ rest).takeWhile isDigit = digitBytes n := by
    rw [List.takeWhile_append_of_pos fun _ => isDigit_of_mem_digitBytes, others.1, List.append_nil]
  have left : (digitBytes n ++ rest).dropWhile isDigit = rest := by
    rw [List.dropWhile_append_of_pos fun _ => isDigit_of_mem_digitBytes, others.2]
  unfold readNumber?
  dsimp only
  rw [solid, digits, left, map_charOf_digitBytes, Nat.ofDigitChars_ten_toDigits]
  simp [apart]

end Picture

namespace Canvas

variable {canvas other : Canvas}

def picture (canvas : Canvas) : Picture :=
  ⟨canvas.width, canvas.height, canvas.pixels.toList⟩

def raster (pixels : List Color) : List UInt8 :=
  pixels.flatMap colorBytes

theorem toList_toImage (canvas : Canvas) :
    canvas.toImage.data.toList =
      asciiBytes (imageHeader canvas.width canvas.height) ++ raster canvas.pixels.toList := by
  have pushed (pixels : List Color) (bytes : ByteArray) :
      (pixels.foldl (fun bytes color => ((bytes.push color.red).push color.green).push color.blue)
        bytes).data.toList = bytes.data.toList ++ raster pixels := by
    induction pixels generalizing bytes with
    | nil => exact (List.append_nil _).symm
    | cons color rest ih =>
        rw [List.foldl_cons, ih, raster, raster, List.flatMap_cons, ← List.append_assoc]
        simp [ByteArray.data_push, colorBytes]
  rw [toImage, ← Array.foldl_toList, pushed]

theorem imageHeader_eq (width height : ℕ) :
    asciiBytes (imageHeader width height) =
      0x50 :: 0x36 :: 0x0a :: (Picture.digitBytes width ++
        0x20 :: (Picture.digitBytes height ++ 0x0a :: (Picture.digitBytes 255 ++ [0x0a]))) := by
  have text : imageHeader width height =
      "P6\n" ++ toString width ++ " " ++ toString height ++ "\n255\n" := by
    rfl
  have greatest : Picture.digitBytes 255 = [0x32, 0x35, 0x35] := by decide +kernel
  rw [text, asciiBytes, greatest]
  simp [Picture.digitBytes]

theorem length_raster (pixels : List Color) : (raster pixels).length = 3 * pixels.length := by
  induction pixels with
  | nil => rfl
  | cons color rest ih =>
      rw [raster, List.flatMap_cons, List.length_append, ← raster, ih, List.length_cons]
      simp only [colorBytes, List.length_cons, List.length_nil]
      omega

theorem take_drop_raster {pixels : List Color} {place : ℕ} {color : Color}
    (there : pixels[place]? = some color) :
    ((raster pixels).drop (3 * place)).take 3 = colorBytes color := by
  induction pixels generalizing place with
  | nil => cases there
  | cons first rest ih =>
      cases place with
      | zero =>
          cases there
          rfl
      | succ place => exact ih there

theorem readPixels?_raster (pixels : List Color) (rest : List UInt8) :
    Picture.readPixels? pixels.length (raster pixels ++ rest) = some (pixels, rest) := by
  induction pixels with
  | nil => rfl
  | cons color more ih =>
      change (Picture.readPixels? more.length (raster more ++ rest) >>= fun found =>
        some (color :: found.1, found.2)) = _
      rw [ih]
      rfl

theorem read?_toImage (canvas : Canvas) (rest : List UInt8) :
    Picture.read? (canvas.toImage.data.toList ++ rest) = some (canvas.picture, rest) := by
  have count : canvas.pixels.toList.length = canvas.width * canvas.height := by
    rw [Array.length_toList, canvas.size_eq]
  have pixels := readPixels?_raster canvas.pixels.toList rest
  rw [count] at pixels
  have stop {byte : UInt8} {more : List UInt8} (other : Picture.isDigit byte = false) :
      ∀ first, (byte :: more).head? = some first → Picture.isDigit first = false :=
    fun first same => Option.some.inj same ▸ other
  rw [toList_toImage, imageHeader_eq]
  simp only [List.cons_append, List.append_assoc, List.nil_append, Picture.read?]
  rw [Picture.readNumber?_digitBytes _ (by decide) (stop (by decide))]
  simp only [Option.bind_eq_bind, Option.bind_some]
  rw [Picture.readNumber?_digitBytes _ (by decide) (stop (by decide))]
  simp only [Option.bind_some]
  rw [Picture.readNumber?_digitBytes _ (by decide) (stop (by decide))]
  simp only [Option.bind_some]
  rw [pixels]
  rfl

/-- The bytes are the size in decimal digits, and then the three components of each pixel, row by
row from the top and each row from the left. -/
structure Encoded (canvas : Canvas) (bytes : List UInt8) : Prop where
  split : ∃ components, bytes = asciiBytes ("P6\n" ++ toString canvas.width ++ " " ++
    toString canvas.height ++ "\n255\n") ++ components ∧
    components.length = 3 * canvas.width * canvas.height ∧
    ∀ i j color, canvas.pixel? i j = some color →
      (components.drop (3 * (j * canvas.width + i))).take 3 = [color.red, color.green, color.blue]

theorem encoded_toImage (canvas : Canvas) : canvas.Encoded canvas.toImage.data.toList := by
  refine ⟨raster canvas.pixels.toList, ?_, ?_, fun i j color there => ?_⟩
  · rw [toList_toImage]
    rfl
  · rw [length_raster, Array.length_toList, canvas.size_eq, Nat.mul_assoc]
  · have inside := pixel?_isSome.mp (Option.isSome_of_eq_some there)
    rw [pixel?_inside inside.1 inside.2, ← Array.getElem?_toList] at there
    exact take_drop_raster there

theorem eq_of_picture (same : canvas.picture = other.picture) :
    canvas.width = other.width ∧ canvas.height = other.height ∧
      ∀ i j, canvas.pixel? i j = other.pixel? i j := by
  obtain ⟨width, height, pixels⟩ := Picture.mk.inj same
  refine ⟨width, height, fun i j => ?_⟩
  rw [pixel?, pixel?, width, height, Array.toList_inj.mp pixels]

/-- The image of a canvas is its size and its components row by row, from which size and pixels are
read back, so that canvases with the same image have the same size and pixels. -/
theorem image_lossless (canvas : Canvas) :
    canvas.Encoded canvas.toImage.data.toList ∧
    (∀ rest, Picture.read? (canvas.toImage.data.toList ++ rest) = some (canvas.picture, rest)) ∧
    ∀ other : Canvas, canvas.toImage = other.toImage →
      canvas.width = other.width ∧ canvas.height = other.height ∧
        ∀ i j, canvas.pixel? i j = other.pixel? i j := by
  refine ⟨canvas.encoded_toImage, canvas.read?_toImage, fun other same => eq_of_picture ?_⟩
  have first := canvas.read?_toImage []
  rw [same, other.read?_toImage []] at first
  exact (congrArg Prod.fst (Option.some.inj first)).symm

/-- Components that look like an end of a line and like digits are read as components, and a pen is
no part of an image. -/
theorem image_lossless_newlineExample :
    let canvas := (blank 2 1).fill ⟨10, 50, 53⟩
    let other := canvas.withPen (.ofColor Color.black)
    (canvas.toImage = other.toImage ∧ canvas.pixel? 1 0 = some ⟨10, 50, 53⟩) ∧
      Picture.read? (canvas.toImage.data.toList ++ [10, 51]) =
        some (⟨2, 1, [⟨10, 50, 53⟩, ⟨10, 50, 53⟩]⟩, [10, 51]) ∧
      canvas.pixel? 1 0 = other.pixel? 1 0 := by
  intro canvas other
  have same : canvas.toImage = other.toImage := rfl
  have lossless := image_lossless canvas
  exact ⟨⟨same, rfl⟩, lossless.2.1 [10, 51], (lossless.2.2 other same).2.2 1 0⟩

end Canvas

end LineScript
