import Demux.Bytes

/-!
# Identifiers

Every frame carries a fixed-width identifier at a fixed offset.  A `Format` says how such a field is
laid out: a fixed-width integer, a fixed number of equal elements one after another, or nothing at
all.  Integers are stored little-endian in two's complement and no byte is ever swapped, so a field
and its value determine each other.

`Format.readAt` takes the identifier out of a frame.  It gives nothing exactly when the frame ends
before the field does, and a field of width zero is there at every offset up to the frame's length.
Positions are natural numbers there.  `Format.readChecked` does the same on machine words, where the
end of a field can be past the last position that a word has room for; then nothing is read.  From every
frame with a position for its own end both read the same (`readChecked_eq`).
-/

namespace Demux

/-- Whether the top bit of an integer counts as a sign. -/
inductive Signedness
  | unsigned
  | signed
  deriving DecidableEq, Repr

/-- The layout of an identifier field. -/
inductive Format
  /-- An integer of so many bytes. -/
  | integer (sign : Signedness) (bytes : Nat)
  /-- So many elements of one format, without gaps. -/
  | array (count : Nat) (element : Format)
  /-- A field of width zero, with a single value. -/
  | unit
  deriving DecidableEq, Repr

namespace Format

/-- The width of a field in bytes. -/
def width : Format → Nat
  | integer _ bytes => bytes
  | array count element => count * element.width
  | unit => 0

/-- The identifiers of a format.  An integer is kept as its machine word; the sign matters only
when it is shown. -/
def Value : Format → Type
  | integer _ bytes => BitVec (8 * bytes)
  | array count element => Vector element.Value count
  | unit => Unit

/-- Equality of identifiers of one format is decided word by word. -/
def decEqValue : (f : Format) → DecidableEq f.Value
  | integer _ bytes => inferInstanceAs (DecidableEq (BitVec (8 * bytes)))
  | array count element =>
      have := element.decEqValue
      inferInstanceAs (DecidableEq (Vector element.Value count))
  | unit => inferInstanceAs (DecidableEq Unit)

instance (f : Format) : DecidableEq f.Value := f.decEqValue

/-- The bytes of an identifier, elements in order. -/
def encode : (f : Format) → f.Value → Bytes
  | integer _ bytes, (word : BitVec (8 * bytes)) => Bytes.toLittleEndian bytes word.toNat
  | array _ element, (items : Vector element.Value _) => items.toList.flatMap element.encode
  | unit, _ => []

/-- The identifier in the first `f.width` of the given bytes. -/
def decode : (f : Format) → Bytes → f.Value
  | integer _ width, bytes =>
      BitVec.ofNat (8 * width) (Bytes.ofLittleEndian (bytes.take width))
  | array count element, bytes =>
      Vector.ofFn fun i : Fin count => element.decode (bytes.drop (i * element.width))
  | unit, _ => ()

/-- The bytes of the identifier field at `offset`, if the frame holds all of them. -/
def field? (f : Format) (frame : Bytes) (offset : Nat) : Option Bytes :=
  frame.slice? offset (offset + f.width)

theorem field?_eq (f : Format) (frame : Bytes) (offset : Nat) :
    f.field? frame offset =
      if offset + f.width ≤ frame.length then some ((frame.drop offset).take f.width) else none :=
  frame.slice?_add offset f.width

/-- The identifier at `offset`, if the frame does not end before it does. -/
def readAt (f : Format) (frame : Bytes) (offset : Nat) : Option f.Value :=
  (f.field? frame offset).map f.decode

/-- Where the identifier field at `offset` ends, if a machine word has room for the position. -/
def fieldEnd? (f : Format) (offset : Nat) : Option Nat :=
  if offset + f.width < UInt64.size then some (offset + f.width) else none

/-- The identifier at `offset`, with positions that are machine words: nothing is read if there is no
position for the end of the field, or if the frame ends before it. -/
def readChecked (f : Format) (frame : Bytes) (offset : Nat) : Option f.Value := do
  let stop ← f.fieldEnd? offset
  let field ← frame.slice? offset stop
  return f.decode field

/-- Of a frame with a position for its own end, machine words read the same.  Where there is no position
for the end of the field, the frame ends before it. -/
theorem readChecked_eq (f : Format) {frame : Bytes} (h : frame.length < UInt64.size) (offset : Nat) :
    f.readChecked frame offset = f.readAt frame offset := by
  unfold readChecked fieldEnd?
  by_cases hend : offset + f.width < UInt64.size
  · rw [if_pos hend, readAt, field?, Option.map_eq_bind]
    rfl
  · have hshort : ¬ offset + f.width ≤ frame.length := fun hle => hend (Nat.lt_of_le_of_lt hle h)
    rw [if_neg hend, readAt, field?_eq, if_neg hshort]
    rfl

/-- An identifier as text: integers in decimal, elements in brackets separated by a comma and a
blank, and a pair of parentheses for the field of width zero. -/
def text : (f : Format) → f.Value → String
  | integer .unsigned _, (word : BitVec _) => Nat.repr word.toNat
  | integer .signed _, (word : BitVec _) => Int.repr word.toInt
  | array _ element, (items : Vector element.Value _) =>
      "[" ++ ", ".intercalate (items.toList.map element.text) ++ "]"
  | unit, _ => "()"

end Format

end Demux
