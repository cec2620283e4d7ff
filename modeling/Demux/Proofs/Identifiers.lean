import Mathlib
import Demux.Identifier

/-!
# A field and its value determine each other

A numeral of `n` bytes denotes a number below `256 ^ n` (`ofLittleEndian_lt`), and writing a number
into `n` bytes keeps it up to multiples of `256 ^ n` (`ofLittleEndian_toLittleEndian`).

Encoding an identifier fills exactly the width of its format (`length_encode`), decoding takes it back
whatever bytes follow (`decode_encode_append`), and encoding what was decoded restores the field
(`encode_decode`).  So reading an identifier out of a frame is the same as finding its encoding there,
byte for byte (`readAt_eq_some_iff`).
-/

namespace Demux.Bytes

/-- A numeral of `n` bytes denotes a number below `256 ^ n`. -/
theorem ofLittleEndian_lt (bytes : Bytes) : ofLittleEndian bytes < 256 ^ bytes.length := by
  induction bytes with
  | nil => simp [ofLittleEndian]
  | cons b rest ih =>
      have hb : b.toNat < 256 := b.toNat_lt
      simp only [ofLittleEndian, List.length_cons, Nat.pow_succ]
      omega

/-- Writing a number and reading it back keeps what fits into the bytes. -/
theorem ofLittleEndian_toLittleEndian (n value : Nat) :
    ofLittleEndian (toLittleEndian n value) = value % 256 ^ n := by
  induction n generalizing value with
  | zero => simp [toLittleEndian, ofLittleEndian, Nat.mod_one]
  | succ n ih =>
      have hb : (UInt8.ofNat value).toNat = value % 256 := by simp
      rw [toLittleEndian, ofLittleEndian, ih, hb, Nat.pow_succ, Nat.mul_comm (256 ^ n) 256,
        Nat.mod_mul]

/-- The bytes of a numeral are the digits of its number, the lowest first. -/
theorem getElem?_toLittleEndian {n i : ℕ} (hi : i < n) (value : ℕ) :
    (toLittleEndian n value)[i]? = some (UInt8.ofNat (value / 256 ^ i)) := by
  induction n generalizing i value with
  | zero => omega
  | succ n ih =>
      cases i with
      | zero => rw [toLittleEndian, List.getElem?_cons_zero, pow_zero, Nat.div_one]
      | succ i =>
          rw [toLittleEndian, List.getElem?_cons_succ, ih (Nat.lt_of_succ_lt_succ hi),
            Nat.div_div_eq_div_mul, ← pow_succ']

end Demux.Bytes

namespace Demux.Format

/-- An encoding is as long as its format is wide. -/
@[simp] theorem length_encode : (f : Format) → (v : f.Value) → (f.encode v).length = f.width
  | integer _ bytes, (word : BitVec (8 * bytes)) => Bytes.length_toLittleEndian bytes word.toNat
  | array count element, (items : Vector element.Value count) => by
      have hitem (v : element.Value) : (element.encode v).length = element.width :=
        length_encode element v
      simp [encode, width, List.length_flatMap, hitem]
  | unit, _ => rfl

/-- The bytes of an element stand behind those of the elements before it. -/
theorem drop_flatMap_encode (element : Format) (items : List element.Value) (i : ℕ)
    (hi : i < items.length) (rest : Bytes) :
    (items.flatMap element.encode ++ rest).drop (i * element.width) =
      element.encode items[i] ++ ((items.drop (i + 1)).flatMap element.encode ++ rest) := by
  induction items generalizing i with
  | nil => simp at hi
  | cons item items ih =>
      cases i with
      | zero => simp
      | succ i =>
          have hskip : (i + 1) * element.width = (element.encode item).length + i * element.width := by
            rw [length_encode]
            ring
          have hrest := ih i (by simpa using hi)
          rw [List.flatMap_cons, List.append_assoc, hskip, ← List.drop_drop, List.drop_left, hrest]
          simp

/-- Decoding takes back what was encoded, whatever follows. -/
theorem decode_encode_append :
    (f : Format) → (v : f.Value) → (rest : Bytes) → f.decode (f.encode v ++ rest) = v
  | integer _ bytes, (word : BitVec (8 * bytes)), rest => by
      have hfield : (Bytes.toLittleEndian bytes word.toNat ++ rest).take bytes =
          Bytes.toLittleEndian bytes word.toNat := by
        rw [List.take_left' (Bytes.length_toLittleEndian bytes word.toNat)]
      have hfits : word.toNat % 256 ^ bytes = word.toNat := by
        apply Nat.mod_eq_of_lt
        have hlt := word.isLt
        rwa [Nat.pow_mul] at hlt
      simp only [encode, decode, hfield, Bytes.ofLittleEndian_toLittleEndian, hfits]
      exact (BitVec.ofNat_toNat _ word).trans (BitVec.setWidth_eq word)
  | array count element, (items : Vector element.Value count), rest => by
      simp only [encode, decode]
      apply Vector.ext
      intro i hi
      rw [Vector.getElem_ofFn, drop_flatMap_encode element items.toList i (by simpa using hi)]
      exact decode_encode_append element _ _
  | unit, _, _ => rfl

/-- Elements that were decoded one behind the other encode to the stretch they were read from, if
each of them encodes to its own part of it. -/
theorem flatMap_encode_decode (element : Format)
    (hitem : ∀ bytes : Bytes, element.width ≤ bytes.length →
      element.encode (element.decode bytes) = bytes.take element.width)
    (count : ℕ) (bytes : Bytes) (h : count * element.width ≤ bytes.length) :
    (List.ofFn fun i : Fin count => element.decode (bytes.drop (i * element.width))).flatMap
      element.encode = bytes.take (count * element.width) := by
  induction count generalizing bytes with
  | zero => simp
  | succ count ih =>
      have hlength : element.width + count * element.width ≤ bytes.length := by linarith
      have hlater (i : Fin count) : bytes.drop (i.succ * element.width) =
          (bytes.drop element.width).drop (i * element.width) := by
        rw [List.drop_drop, Fin.val_succ]
        congr 1
        ring
      have hrest := ih (bytes.drop element.width) (by rw [List.length_drop]; omega)
      simp only [List.ofFn_succ, List.flatMap_cons, hlater, hrest]
      rw [Fin.val_zero, Nat.zero_mul, List.drop_zero, hitem bytes (by omega), ← List.take_add]
      congr 1
      ring

/-- Encoding what was decoded restores the bytes of the field. -/
theorem encode_decode : (f : Format) → (bytes : Bytes) → f.width ≤ bytes.length →
    f.encode (f.decode bytes) = bytes.take f.width
  | integer _ width, bytes, h => by
      have hlength : (bytes.take width).length = width := List.length_take_of_le h
      have hlt := Bytes.ofLittleEndian_lt (bytes.take width)
      rw [hlength] at hlt
      have hword : (BitVec.ofNat (8 * width) (Bytes.ofLittleEndian (bytes.take width))).toNat =
          Bytes.ofLittleEndian (bytes.take width) := by
        rw [BitVec.toNat_ofNat, Nat.pow_mul]
        exact Nat.mod_eq_of_lt hlt
      have hrestored := Bytes.toLittleEndian_ofLittleEndian (bytes.take width)
      rw [hlength] at hrestored
      simp only [encode, decode, hword]
      exact hrestored
  | array count element, bytes, h => by
      simp only [encode, decode, Vector.toList_ofFn]
      exact flatMap_encode_decode element (encode_decode element) count bytes h
  | unit, _, _ => rfl

variable (f : Format)

/-- A frame carries an identifier at an offset: the field is there as a whole, and its bytes are those
of the identifier. -/
def Carries (frame : Bytes) (offset : ℕ) (id : f.Value) : Prop :=
  offset + f.width ≤ frame.length ∧ (frame.drop offset).take f.width = f.encode id

/-- Reading an identifier is finding its encoding in the frame. -/
theorem readAt_eq_some_iff (frame : Bytes) (offset : ℕ) (id : f.Value) :
    f.readAt frame offset = some id ↔ f.Carries frame offset id := by
  rw [readAt, field?_eq, Carries]
  by_cases hthere : offset + f.width ≤ frame.length
  · have hlength : f.width ≤ (frame.drop offset).length := by
      rw [List.length_drop]
      omega
    have hfield : ((frame.drop offset).take f.width).length = f.width :=
      List.length_take_of_le hlength
    rw [if_pos hthere, Option.map_some, Option.some.injEq]
    constructor
    · rintro rfl
      have hrestored := encode_decode f ((frame.drop offset).take f.width) hfield.ge
      rw [List.take_take, Nat.min_self] at hrestored
      exact ⟨hthere, hrestored.symm⟩
    · rintro ⟨-, hbytes⟩
      have htaken := decode_encode_append f id []
      rwa [List.append_nil, ← hbytes] at htaken
  · simp [hthere]

end Demux.Format
