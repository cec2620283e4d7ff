import Mathlib
import Demux.Proofs.Identifiers

/-!
# What a field denotes

The bytes of an integer are the digits of its number to the base 256, the lowest first; dividing with
rounding downwards gives a negative number the digits of its two's complement.  The elements of an array
stand one behind the other (`Format.Denotes`).  An identifier has just one such field, its encoding
(`denotes_iff`), so reading a field and writing it are inverse to each other.
-/

namespace Demux

/-- Numbers that differ by a multiple of a power have the same digits below it. -/
theorem digit_congr {a b : ℤ} {n i : ℕ} (h : a % 256 ^ n = b % 256 ^ n) (hi : i < n) :
    a / 256 ^ i % 256 = b / 256 ^ i % 256 := by
  obtain ⟨k, hk⟩ := Int.ModEq.dvd (show b ≡ a [ZMOD 256 ^ n] from h.symm)
  have hsplit : (256 : ℤ) ^ n = 256 ^ i * (256 * 256 ^ (n - i - 1)) := by
    rw [← pow_succ', ← pow_add]
    congr 1
    omega
  have hshift : a = b + 256 ^ i * (256 * (256 ^ (n - i - 1) * k)) := by
    rw [hsplit] at hk
    linear_combination hk
  rw [hshift, Int.add_mul_ediv_left _ _ (by positivity), Int.add_mul_emod_self_left]

namespace Signedness

/-- The number that a machine word stands for. -/
def number {size : ℕ} : Signedness → BitVec size → ℤ
  | unsigned, word => word.toNat
  | signed, word => word.toInt

variable (sign : Signedness) {bytes : ℕ} (word : BitVec (8 * bytes))

/-- The number of a word is the word itself, up to a multiple of the number of words. -/
theorem number_emod : sign.number word % 256 ^ bytes = (word.toNat : ℤ) % 256 ^ bytes := by
  cases sign with
  | unsigned => rfl
  | signed =>
      have hpow : ((2 ^ (8 * bytes) : ℕ) : ℤ) = 256 ^ bytes := by
        rw [Nat.pow_mul]
        norm_cast
      rw [number, BitVec.toInt_eq_toNat_bmod, ← hpow, Int.bmod_emod]

/-- The number of a word has the digits of the word. -/
theorem digit_number {i : ℕ} (hi : i < bytes) :
    sign.number word / 256 ^ i % 256 = ((word.toNat / 256 ^ i % 256 : ℕ) : ℤ) := by
  rw [digit_congr (sign.number_emod word) hi]
  norm_cast

end Signedness

namespace Format

/-- A field holds an identifier: an integer by the digits of its number, an array by fields for its
elements, and the identifier of width zero by nothing. -/
def Denotes : (f : Format) → Bytes → f.Value → Prop
  | integer sign bytes, field, (word : BitVec (8 * bytes)) =>
      field.length = bytes ∧
        ∀ i byte, field[i]? = some byte → (byte.toNat : ℤ) = sign.number word / 256 ^ i % 256
  | array _ element, field, (items : Vector element.Value _) =>
      ∃ parts : List Bytes, field = parts.flatten ∧
        List.Forall₂ element.Denotes parts items.toList
  | unit, field, _ => field = []

/-- The field of an integer is its encoding. -/
theorem denotes_integer_iff (sign : Signedness) (bytes : ℕ) (field : Bytes)
    (word : BitVec (8 * bytes)) :
    (integer sign bytes).Denotes field word ↔ field = (integer sign bytes).encode word := by
  have hdigit (i : ℕ) (hi : i < bytes) :
      ((UInt8.ofNat (word.toNat / 256 ^ i)).toNat : ℤ) = sign.number word / 256 ^ i % 256 := by
    rw [sign.digit_number word hi, UInt8.toNat_ofNat']
  constructor
  · rintro ⟨hlength, hdigits⟩
    apply List.ext_getElem?
    intro i
    rcases Nat.lt_or_ge i bytes with hi | hi
    · have hbyte : field[i]? = some field[i] := List.getElem?_eq_getElem (hlength ▸ hi)
      have hsame : field[i] = UInt8.ofNat (word.toNat / 256 ^ i) := by
        have hvalue := (hdigits i field[i] hbyte).trans (hdigit i hi).symm
        exact UInt8.toNat_inj.mp (by exact_mod_cast hvalue)
      rw [encode, Bytes.getElem?_toLittleEndian hi, hbyte, hsame]
    · rw [List.getElem?_eq_none (hlength ▸ hi), List.getElem?_eq_none]
      rwa [encode, Bytes.length_toLittleEndian]
  · rintro rfl
    refine ⟨length_encode (integer sign bytes) word, fun i byte hbyte => ?_⟩
    obtain ⟨hinside, -⟩ := List.getElem?_eq_some_iff.mp hbyte
    have hi : i < bytes := hinside.trans_eq (length_encode (integer sign bytes) word)
    rw [encode, Bytes.getElem?_toLittleEndian hi, Option.some.injEq] at hbyte
    rw [← hbyte, hdigit i hi]

/-- An identifier is denoted by its encoding and by nothing else. -/
theorem denotes_iff : (f : Format) → (field : Bytes) → (id : f.Value) →
    (f.Denotes field id ↔ field = f.encode id)
  | integer sign bytes, field, (word : BitVec (8 * bytes)) =>
      denotes_integer_iff sign bytes field word
  | array _ element, field, (items : Vector element.Value _) => by
      have hparts (parts : List Bytes) : List.Forall₂ element.Denotes parts items.toList ↔
          parts = items.toList.map element.encode := by
        have hitem : element.Denotes = fun part item => part = element.encode item := by
          funext part item
          exact propext (denotes_iff element part item)
        rw [hitem, ← List.forall₂_map_right_iff, List.forall₂_eq_eq_eq]
      simp only [Denotes, hparts, exists_eq_right, encode, List.flatMap_def]
  | unit, _, _ => Iff.rfl

variable (f : Format)

/-- Two fields of the same frame or of others hold the same identifier if they hold the same bytes, and
only then. -/
theorem readAt_eq_iff {frame frame' : Bytes} {offset offset' : ℕ}
    (hthere : offset + f.width ≤ frame.length) (hthere' : offset' + f.width ≤ frame'.length) :
    f.readAt frame offset = f.readAt frame' offset' ↔
      (frame.drop offset).take f.width = (frame'.drop offset').take f.width := by
  constructor
  · intro hsame
    have hsome : f.readAt frame offset = some (f.decode ((frame.drop offset).take f.width)) := by
      rw [readAt, field?_eq, if_pos hthere, Option.map_some]
    have hhere := ((f.readAt_eq_some_iff _ _ _).mp hsome).2
    have hother := ((f.readAt_eq_some_iff _ _ _).mp (hsame.symm.trans hsome)).2
    exact hhere.trans hother.symm
  · intro hbytes
    rw [readAt, readAt, field?_eq, field?_eq, if_pos hthere, if_pos hthere', hbytes]

/-- Fields of the width of a format and identifiers correspond to each other. -/
theorem bijective_decode :
    Function.Bijective fun field : {field : Bytes // field.length = f.width} => f.decode field := by
  have hrestored (field : {field : Bytes // field.length = f.width}) :
      f.encode (f.decode field) = field := by
    rw [encode_decode f field field.2.ge, List.take_of_length_le field.2.le]
  constructor
  · intro x y hxy
    apply Subtype.ext
    rw [← hrestored x, ← hrestored y]
    exact congrArg f.encode hxy
  · intro id
    refine ⟨⟨f.encode id, length_encode f id⟩, ?_⟩
    have htaken := decode_encode_append f id []
    rwa [List.append_nil] at htaken

/-- **Reading identifiers inverts writing them.**  An identifier has one encoding, little-endian and in
two's complement, elements in order.  There is an identifier at an offset of a frame exactly if the frame
does not end before the field does, and then the field is the encoding of the identifier.  What was
encoded is read back wherever it stands.  So fields of the right width and identifiers correspond to each
other, and two fields hold equal identifiers exactly if their bytes are equal.  Of every frame that a memory
of `2 ^ 64` bytes has room for, positions that are machine words give the same: an end of a field that is
too far for them is past the end of the frame. -/
theorem reading_inverts_encoding :
    (∀ field id, f.Denotes field id ↔ field = f.encode id) ∧
    (∀ frame offset, (f.readAt frame offset).isSome = true ↔ offset + f.width ≤ frame.length) ∧
    (∀ frame offset id, f.readAt frame offset = some id →
      (frame.drop offset).take f.width = f.encode id) ∧
    (∀ id before after,
      f.readAt (before ++ f.encode id ++ after) before.length = some id) ∧
    Function.Bijective
      (fun field : {field : Bytes // field.length = f.width} => f.decode field) ∧
    (∀ frame offset frame' offset',
      offset + f.width ≤ frame.length → offset' + f.width ≤ frame'.length →
      (f.readAt frame offset = f.readAt frame' offset' ↔
        (frame.drop offset).take f.width = (frame'.drop offset').take f.width)) ∧
    ∀ (frame : Bytes) offset, frame.length < 2 ^ 64 →
      f.readChecked frame offset = f.readAt frame offset := by
  refine ⟨denotes_iff f, ?_, ?_, ?_, bijective_decode f, fun _ _ _ _ => readAt_eq_iff f,
    fun _ offset hframe => f.readChecked_eq hframe offset⟩
  · intro frame offset
    simp only [readAt, field?_eq, Option.isSome_map]
    split <;> simp_all
  · intro frame offset id hid
    exact ((f.readAt_eq_some_iff frame offset id).mp hid).2
  · intro id before after
    have hlength := length_encode f id
    refine (f.readAt_eq_some_iff _ _ _).mpr ⟨?_, ?_⟩
    · simp only [List.length_append, hlength]
      omega
    · rw [List.append_assoc, List.drop_left, List.take_left' hlength]

/-- Two signed integers of two bytes, the lower one negative, and an offset at which no field ends at a
position. -/
theorem reading_inverts_encoding_of_negative_pair :
    let f : Format := .array 2 (.integer .signed 2)
    let id : f.Value := (#v[BitVec.ofInt 16 (-2), 258#16] : Vector (BitVec 16) 2)
    let frame : Bytes := [9, 0xFE, 0xFF, 0x02, 0x01, 7]
    f.encode id = [0xFE, 0xFF, 0x02, 0x01] ∧ f.readAt frame 1 = some id ∧
      (frame.drop 1).take f.width = f.encode id ∧
      (f.readAt frame 1 = f.readAt (frame.drop 1) 0 ↔
        (frame.drop 1).take f.width = ((frame.drop 1).drop 0).take f.width) ∧
      f.readChecked frame (2 ^ 64 - 1) = f.readAt frame (2 ^ 64 - 1) := by
  intro f id frame
  obtain ⟨-, -, hfield, hread, -, hsame, hwords⟩ := reading_inverts_encoding f
  have hencode : f.encode id = [0xFE, 0xFF, 0x02, 0x01] := by decide
  have hid : f.readAt frame 1 = some id := by
    have h := hread id [9] [7]
    rwa [hencode] at h
  exact ⟨hencode, hid, hfield frame 1 id hid,
    hsame frame 1 (frame.drop 1) 0 (by decide) (by decide),
    hwords frame (2 ^ 64 - 1) (by decide)⟩

end Format

end Demux
