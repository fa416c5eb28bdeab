import Mathlib.Tactic

/-!
# Memory images of C structures

A C structure lays its members out in order, each at the next multiple of its alignment, and
pads its end to a multiple of the largest one.  Two programs that agree on the members agree on
the image, whatever stands in the padding.

* `Endian.bytes` and `Endian.value` — integers in memory, inverse to each other by
  **`Endian.value_bytes`** and **`Endian.bytes_value`**.
* `image` — the bytes of a structure with given members and padding.
* `readMembers` — the bytes of the members, read back by size and alignment alone.
* **`readMembers_image`** and **`length_image`** — reading inverts writing, and an image is as
  long as `sizeof` says.
-/

namespace Layout

abbrev Byte := BitVec 8

/-! ## Integers in memory -/

inductive Endian
  | little
  | big
  deriving DecidableEq

/-- The low `width` bytes of a number, least significant first. -/
def littleBytes : ℕ → ℕ → List Byte
  | 0, _ => []
  | width + 1, value => BitVec.ofNat 8 value :: littleBytes width (value / 256)

/-- The number that bytes denote, least significant first. -/
def littleValue : List Byte → ℕ
  | [] => 0
  | b :: bs => b.toNat + 256 * littleValue bs

@[simp] lemma length_littleBytes (width value : ℕ) : (littleBytes width value).length = width := by
  induction width generalizing value with
  | zero => rfl
  | succ width ih => rw [littleBytes, List.length_cons, ih]

lemma littleValue_littleBytes (width value : ℕ) :
    littleValue (littleBytes width value) = value % 256 ^ width := by
  induction width generalizing value with
  | zero => simp [littleBytes, littleValue, Nat.mod_one]
  | succ width ih =>
      have hbyte : (BitVec.ofNat 8 value).toNat = value % 256 := BitVec.toNat_ofNat value 8
      rw [littleBytes, littleValue, ih, hbyte, pow_succ', Nat.mod_mul]

/-- The bytes one by one. -/
lemma littleBytes_eq_map (width : ℕ) : ∀ value : ℕ,
    littleBytes width value = (List.range width).map fun i => BitVec.ofNat 8 (value / 256 ^ i) := by
  induction width with
  | zero => exact fun _ => rfl
  | succ width ih =>
      intro value
      rw [littleBytes, ih, List.range_succ_eq_map, List.map_cons, List.map_map]
      simp [Function.comp_def, Nat.div_div_eq_div_mul, pow_succ']

namespace Endian

/-- An integer of `width` bytes in memory. -/
def bytes : Endian → ℕ → ℕ → List Byte
  | little, width, value => littleBytes width value
  | big, width, value => (littleBytes width value).reverse

/-- The integer that stands in memory. -/
def value : Endian → List Byte → ℕ
  | little, bs => littleValue bs
  | big, bs => littleValue bs.reverse

@[simp] lemma length_bytes (e : Endian) (width value : ℕ) :
    (e.bytes width value).length = width := by
  cases e <;> simp [bytes]

/-- The bytes in network order, one by one. -/
lemma bytes_big (width value : ℕ) : big.bytes width value
    = (List.range width).map fun i => BitVec.ofNat 8 (value / 256 ^ (width - 1 - i)) := by
  refine List.ext_getElem (by simp) fun i hi _ => ?_
  simp only [bytes, littleBytes_eq_map, List.getElem_reverse, List.getElem_map, List.getElem_range,
    List.length_map, List.length_range]

lemma value_singleton (e : Endian) (b : Byte) : e.value [b] = b.toNat := by
  cases e <;> simp [value, littleValue]

/-- What `n` bytes can denote. -/
lemma value_lt (e : Endian) (bs : List Byte) : e.value bs < 256 ^ bs.length := by
  have hlittle : ∀ bs : List Byte, littleValue bs < 256 ^ bs.length := by
    intro bs
    induction bs with
    | nil => simp [littleValue]
    | cons b bs ih =>
        have hb : b.toNat < 256 := b.isLt
        rw [littleValue, List.length_cons, pow_succ']
        omega
  cases e with
  | little => exact hlittle bs
  | big => exact (hlittle bs.reverse).trans_eq (by rw [List.length_reverse])

/-- Reading an integer back, as far as it fits. -/
theorem value_bytes (e : Endian) {width v : ℕ} (h : v < 256 ^ width) :
    e.value (e.bytes width v) = v := by
  cases e <;> simp [value, bytes, littleValue_littleBytes, Nat.mod_eq_of_lt h]

/-- Writing back what was read. -/
theorem bytes_value (e : Endian) (bs : List Byte) : e.bytes bs.length (e.value bs) = bs := by
  have hlittle : ∀ bs : List Byte, littleBytes bs.length (littleValue bs) = bs := by
    intro bs
    induction bs with
    | nil => rfl
    | cons b bs ih =>
        have hb : b.toNat < 256 := b.isLt
        have hdiv : (b.toNat + 256 * littleValue bs) / 256 = littleValue bs := by omega
        have hbyte : BitVec.ofNat 8 (b.toNat + 256 * littleValue bs) = b := by
          apply BitVec.eq_of_toNat_eq
          have hmod := BitVec.toNat_ofNat (b.toNat + 256 * littleValue bs) 8
          omega
        rw [littleValue, List.length_cons, littleBytes, hdiv, hbyte, ih]
  cases e with
  | little => exact hlittle bs
  | big =>
      have h := hlittle bs.reverse
      rw [List.length_reverse] at h
      rw [bytes, value, h, List.reverse_reverse]

end Endian

/-! ## Structures -/

/-- A member of a structure, as a compiler sees it. -/
structure Member where
  size : ℕ
  align : ℕ

/-- The padding between `offset` and the next multiple of `align`. -/
def gap (offset align : ℕ) : ℕ := (align - offset % align) % align

/-- The offset behind the last member. -/
def endFrom : ℕ → List Member → ℕ
  | offset, [] => offset
  | offset, m :: ms => endFrom (offset + gap offset m.align + m.size) ms

/-- The largest alignment of a member. -/
def maxAlign (ms : List Member) : ℕ := ms.foldr (fun m a => max m.align a) 1

/-- `sizeof`. -/
def sizeof (ms : List Member) : ℕ := endFrom 0 ms + gap (endFrom 0 ms) (maxAlign ms)

/-- The members that a list of aligned contents stands for. -/
def shape (fields : List (ℕ × List Byte)) : List Member :=
  fields.map fun f => ⟨f.2.length, f.1⟩

/-- `n` bytes of padding at an offset.  Their content is unspecified. -/
def padding (pad : ℕ → Byte) (offset n : ℕ) : List Byte := (List.range' offset n).map pad

@[simp] lemma length_padding (pad : ℕ → Byte) (offset n : ℕ) :
    (padding pad offset n).length = n := by simp [padding]

/-- The bytes of the members from `offset` on, with padding between them. -/
def layOut (pad : ℕ → Byte) : ℕ → List (ℕ × List Byte) → List Byte
  | _, [] => []
  | offset, (align, content) :: fields =>
      padding pad offset (gap offset align) ++ content
        ++ layOut pad (offset + gap offset align + content.length) fields

/-- The bytes of a structure: its members, and the padding at its end. -/
def image (pad : ℕ → Byte) (fields : List (ℕ × List Byte)) : List Byte :=
  layOut pad 0 fields
    ++ padding pad (endFrom 0 (shape fields))
      (gap (endFrom 0 (shape fields)) (maxAlign (shape fields)))

/-- The bytes of the members, read from memory that starts at `offset`. -/
def readFrom : ℕ → List Member → List Byte → List (List Byte)
  | _, [], _ => []
  | offset, m :: ms, raw =>
      (raw.drop (gap offset m.align)).take m.size
        :: readFrom (offset + gap offset m.align + m.size) ms
          (raw.drop (gap offset m.align + m.size))

/-- The bytes of the members of a structure in memory. -/
def readMembers (ms : List Member) (raw : List Byte) : List (List Byte) := readFrom 0 ms raw

lemma readFrom_layOut (pad : ℕ → Byte) (fields : List (ℕ × List Byte)) :
    ∀ (offset : ℕ) (rest : List Byte),
      readFrom offset (shape fields) (layOut pad offset fields ++ rest) = fields.map Prod.snd := by
  induction fields with
  | nil => intro offset rest; rfl
  | cons f fields ih =>
      intro offset rest
      obtain ⟨align, content⟩ := f
      have hdrop : (layOut pad offset ((align, content) :: fields) ++ rest).drop (gap offset align)
          = content
            ++ (layOut pad (offset + gap offset align + content.length) fields ++ rest) := by
        simp [layOut]
      have hskip : (layOut pad offset ((align, content) :: fields) ++ rest).drop
            (gap offset align + content.length)
          = layOut pad (offset + gap offset align + content.length) fields ++ rest := by
        rw [← List.drop_drop, hdrop, List.drop_left]
      rw [shape, List.map_cons, readFrom, hdrop, hskip, List.take_left, List.map_cons]
      exact congrArg _ (ih _ rest)

/-- **Reading inverts writing**, whatever stands in the padding. -/
theorem readMembers_image (pad : ℕ → Byte) (fields : List (ℕ × List Byte)) :
    readMembers (shape fields) (image pad fields) = fields.map Prod.snd :=
  readFrom_layOut pad fields 0 _

lemma length_layOut (pad : ℕ → Byte) (fields : List (ℕ × List Byte)) :
    ∀ offset, offset + (layOut pad offset fields).length = endFrom offset (shape fields) := by
  induction fields with
  | nil => intro offset; rfl
  | cons f fields ih =>
      intro offset
      obtain ⟨align, content⟩ := f
      have h := ih (offset + gap offset align + content.length)
      rw [shape, List.map_cons, endFrom, ← shape, ← h, layOut]
      simp only [List.length_append, length_padding]
      omega

/-- **An image is as long as `sizeof` says.** -/
theorem length_image (pad : ℕ → Byte) (fields : List (ℕ × List Byte)) :
    (image pad fields).length = sizeof (shape fields) := by
  have h := length_layOut pad fields 0
  rw [image, List.length_append, length_padding, sizeof]
  omega

end Layout
