import Mathlib
import Demux.Json.Quoted

/-!
# How a text is spelled

Between quotation marks a character may be written as itself, as a short escape or as the one or two
units of sixteen bits that it has (`Spelling`), and a text is spelled character by character
(`Spells`).  What stands between the marks may also be a run of pieces (`Cut`) that spells no text,
because a surrogate in it lacks its partner; then it denotes nothing (`Denotes`).

A quoted text is read exactly as what it denotes (`read_iff`), so it does not matter how it is
spelled, and what is written between the marks spells the text that was given (`spells_escape`).
-/

namespace Demux.Json.Quoted

/-- The short escapes, each with the character that it stands for. -/
def shortEscapes : List (Char × Char) :=
  [('"', '"'), ('\\', '\\'), ('/', '/'), ('b', '\x08'), ('f', '\x0c'), ('n', '\n'), ('r', '\r'),
    ('t', '\t')]

/-- A character is the hexadecimal digit of a value, in either case. -/
def IsHexDigit (d : Char) (value : ℕ) : Prop :=
  value < 16 ∧ (d = value.digitChar ∨ d = value.digitChar.toUpper)

instance (d : Char) (value : ℕ) : Decidable (IsHexDigit d value) :=
  inferInstanceAs (Decidable (_ ∧ _))

/-- Four hexadecimal digits make a unit of sixteen bits. -/
def IsUnit (value : ℕ) (digits : List Char) : Prop :=
  List.Forall₂ IsHexDigit digits [value / 4096, value / 256 % 16, value / 16 % 16, value % 16]

/-- A character in units of sixteen bits: one unit, or a high and a low surrogate. -/
def units (c : Char) : List ℕ :=
  if c.toNat < 0x10000 then [c.toNat]
  else [0xD800 + (c.toNat - 0x10000) / 0x400, 0xDC00 + (c.toNat - 0x10000) % 0x400]

/-- The ways to write a character between quotation marks. -/
inductive Spelling (c : Char) : List Char → Prop
  | plain (hblank : ' ' ≤ c) (hquote : c ≠ '"') (hslash : c ≠ '\\') : Spelling c [c]
  | short {letter : Char} (hletter : (letter, c) ∈ shortEscapes) : Spelling c ['\\', letter]
  | units {digits : List (List Char)} (hdigits : List.Forall₂ IsUnit (units c) digits) :
      Spelling c (digits.flatMap fun ds => '\\' :: 'u' :: ds)

/-- The ways to write a text between quotation marks. -/
inductive Spells : List Char → List Char → Prop
  | nil : Spells [] []
  | cons {c : Char} {text part source : List Char} (hpart : Spelling c part)
      (hsource : Spells text source) : Spells (c :: text) (part ++ source)

/-- What stands between quotation marks, cut into its pieces. -/
inductive Cut : List Char → List Piece → Prop
  | nil : Cut [] []
  | plain {c : Char} {source : List Char} {pieces : List Piece} (hblank : ' ' ≤ c)
      (hquote : c ≠ '"') (hslash : c ≠ '\\') (hrest : Cut source pieces) :
      Cut (c :: source) (.char c :: pieces)
  | short {letter c : Char} {source : List Char} {pieces : List Piece}
      (hletter : (letter, c) ∈ shortEscapes) (hrest : Cut source pieces) :
      Cut ('\\' :: letter :: source) (.char c :: pieces)
  | unit {value : ℕ} {digits source : List Char} {pieces : List Piece}
      (hdigits : IsUnit value digits) (hrest : Cut source pieces) :
      Cut ('\\' :: 'u' :: (digits ++ source)) (.unit value :: pieces)

/-- What a quoted text denotes, given what stands between its quotation marks: the text that it
spells, or nothing if it is a run of pieces that spells no text. -/
def Denotes (source : List Char) : Text → Prop
  | some text => Spells text source
  | none => (∃ pieces, Cut source pieces) ∧ ∀ text, ¬ Spells text source

/-! ### Pieces -/

/-- Hexadecimal digits are among the first characters, so that all of them can be gone through. -/
theorem toNat_lt_of_hexDigit? {d : Char} {value : ℕ} (h : hexDigit? d = some value) :
    d.toNat < 128 := by
  have hle {last : Char} (hlast : last.toNat < 128) (hd : d ≤ last) : d.toNat < 128 :=
    lt_of_le_of_lt (UInt32.le_iff_toNat_le.mp hd) hlast
  unfold hexDigit? at h
  split_ifs at h with hdigit hlower hupper
  · exact hle (by decide) hdigit.2
  · exact hle (by decide) hlower.2
  · exact hle (by decide) hupper.2

theorem hexDigit?_eq_some_iff {d : Char} {value : ℕ} :
    hexDigit? d = some value ↔ IsHexDigit d value := by
  constructor
  · intro h
    have hall : ∀ n < 128, ∀ value ∈ hexDigit? (Char.ofNat n), IsHexDigit (Char.ofNat n) value := by
      decide
    have hd := hall d.toNat (toNat_lt_of_hexDigit? h)
    rw [Char.ofNat_toNat] at hd
    exact hd value h
  · rintro ⟨hvalue, rfl | rfl⟩
    · revert value
      decide
    · revert value
      decide

theorem hexUnit?_eq_some_iff {a b c d : Char} {value : ℕ} :
    hexUnit? a b c d = some value ↔ IsUnit value [a, b, c, d] := by
  simp only [hexUnit?, IsUnit, List.forall₂_cons, List.forall₂_nil_left_iff, and_true,
    ← hexDigit?_eq_some_iff, Option.bind_eq_bind, Option.bind_eq_some_iff, Option.pure_def,
    Option.some.injEq]
  constructor
  · rintro ⟨w, hw, x, hx, y, hy, z, hz, rfl⟩
    have hx' := (hexDigit?_eq_some_iff.mp hx).1
    have hy' := (hexDigit?_eq_some_iff.mp hy).1
    have hz' := (hexDigit?_eq_some_iff.mp hz).1
    rw [hw, hx, hy, hz]
    simp only [Option.some.injEq]
    omega
  · rintro ⟨ha, hb, hc, hd⟩
    refine ⟨_, ha, _, hb, _, hc, _, hd, ?_⟩
    omega

/-- A unit has four digits and sixteen bits. -/
theorem IsUnit.digits {value : ℕ} {digits : List Char} (h : IsUnit value digits) :
    (∃ a b c d, digits = [a, b, c, d]) ∧ value < 0x10000 := by
  rcases digits with _ | ⟨a, _ | ⟨b, _ | ⟨c, _ | ⟨d, _ | ⟨e, digits⟩⟩⟩⟩⟩ <;>
    simp only [IsUnit, List.forall₂_cons, List.forall₂_nil_left_iff, List.forall₂_nil_right_iff,
      reduceCtorEq, and_false] at h
  exact ⟨⟨a, b, c, d, rfl⟩, by have := h.1.1; omega⟩

theorem shortEscape?_eq_some_iff {letter c : Char} :
    shortEscape? letter = some c ↔ (letter, c) ∈ shortEscapes := by
  unfold shortEscape?
  split_ifs with hself hb hf hn hr ht
  · rcases hself with rfl | rfl | rfl <;> simp [shortEscapes, eq_comm]
  · simp [shortEscapes, hb, eq_comm]
  · simp [shortEscapes, hf, eq_comm]
  · simp [shortEscapes, hn, eq_comm]
  · simp [shortEscapes, hr, eq_comm]
  · simp [shortEscapes, ht, eq_comm]
  · have hother : ∀ x ∈ shortEscapes, letter ≠ x.1 := by
      simp only [not_or] at hself
      simp [shortEscapes, hself, hb, hf, hn, hr, ht]
    exact ⟨nofun, fun hmem => absurd rfl (hother _ hmem)⟩

section Body

variable (rest : List Char)

theorem body?_quote : body? ('"' :: rest) = some ([], rest) := by
  rw [body?.eq_def]
  rfl

theorem body?_plain {c : Char} (hblank : ' ' ≤ c) (hquote : c ≠ '"') (hslash : c ≠ '\\') :
    body? (c :: rest) = (body? rest).map fun x => (.char c :: x.1, x.2) := by
  rw [body?.eq_def]
  simp only [if_neg hquote, if_neg hslash, if_neg (not_lt.mpr hblank)]
  cases body? rest <;> rfl

theorem body?_short {letter c : Char} (hletter : (letter, c) ∈ shortEscapes) :
    body? ('\\' :: letter :: rest) = (body? rest).map fun x => (.char c :: x.1, x.2) := by
  have hescape := shortEscape?_eq_some_iff.mpr hletter
  have hne : letter ≠ 'u' := by
    rintro rfl
    contradiction
  rw [body?.eq_3 _ _ _ fun _ _ _ _ _ h => absurd h hne, hescape, if_neg (by decide), if_pos rfl]
  cases body? rest <;> rfl

theorem body?_unit {value : ℕ} {digits : List Char} (hdigits : IsUnit value digits) :
    body? ('\\' :: 'u' :: (digits ++ rest)) =
      (body? rest).map fun x => (.unit value :: x.1, x.2) := by
  obtain ⟨⟨a, b, c, d, rfl⟩, -⟩ := hdigits.digits
  have hvalue := hexUnit?_eq_some_iff.mpr hdigits
  rw [List.cons_append, List.cons_append, List.cons_append, List.cons_append, List.nil_append,
    body?.eq_2, hvalue, if_neg (by decide), if_pos rfl]
  cases body? rest <;> rfl

end Body

/-- The pieces before a closing quotation mark are cut off. -/
theorem Cut.body? {source : List Char} {pieces : List Piece} (h : Cut source pieces)
    (rest : List Char) : body? (source ++ '"' :: rest) = some (pieces, rest) := by
  induction h with
  | nil => exact body?_quote rest
  | plain hblank hquote hslash hrest ih =>
      rw [List.cons_append, body?_plain _ hblank hquote hslash, ih]
      rfl
  | short hletter hrest ih =>
      rw [List.cons_append, List.cons_append, body?_short _ hletter, ih]
      rfl
  | unit hdigits hrest ih =>
      rw [List.cons_append, List.cons_append, List.append_assoc, body?_unit _ hdigits, ih]
      rfl

/-- Pieces that are cut off are what stands before the closing quotation mark. -/
theorem cut_of_body? {input rest : List Char} {pieces : List Piece}
    (h : body? input = some (pieces, rest)) :
    ∃ source, input = source ++ '"' :: rest ∧ Cut source pieces := by
  fun_induction Quoted.body? input generalizing pieces rest with
  | case1 => contradiction
  | case2 rest' =>
      cases h
      exact ⟨[], rfl, .nil⟩
  | case3 a b c d rest' hslash ih =>
      simp only [Option.bind_eq_bind, Option.bind_eq_some_iff, Option.pure_def, Option.some.injEq,
        Prod.mk.injEq] at h
      obtain ⟨value, hvalue, ⟨pieces', rest⟩, hbody, rfl, rfl⟩ := h
      obtain ⟨source, rfl, hcut⟩ := ih hbody
      exact ⟨'\\' :: 'u' :: ([a, b, c, d] ++ source), rfl,
        .unit (hexUnit?_eq_some_iff.mp hvalue) hcut⟩
  | case4 letter rest' hunit hslash ih =>
      simp only [Option.bind_eq_bind, Option.bind_eq_some_iff, Option.pure_def, Option.some.injEq,
        Prod.mk.injEq] at h
      obtain ⟨c, hletter, ⟨pieces', rest⟩, hbody, rfl, rfl⟩ := h
      obtain ⟨source, rfl, hcut⟩ := ih hbody
      exact ⟨'\\' :: letter :: source, rfl, .short (shortEscape?_eq_some_iff.mp hletter) hcut⟩
  | case5 => contradiction
  | case6 => contradiction
  | case7 c rest' hquote hslash hblank ih =>
      simp only [Option.bind_eq_bind, Option.bind_eq_some_iff, Option.pure_def, Option.some.injEq,
        Prod.mk.injEq] at h
      obtain ⟨⟨pieces', rest⟩, hbody, rfl, rfl⟩ := h
      obtain ⟨source, rfl, hcut⟩ := ih hbody
      exact ⟨c :: source, rfl, .plain (not_lt.mp hblank) hquote hslash hcut⟩

/-! ### Texts -/

/-- A character is not half of a pair. -/
theorem toNat_not_surrogate (c : Char) :
    isHighSurrogate c.toNat = false ∧ isLowSurrogate c.toNat = false := by
  have hvalid : c.toNat < 0xD800 ∨ 0xDFFF < c.toNat ∧ c.toNat < 0x110000 := c.valid
  simp only [isHighSurrogate, isLowSurrogate, Bool.and_eq_false_iff, decide_eq_false_iff_not]
  omega

/-- The two halves of a pair are put together again. -/
theorem ofSurrogates_units {c : Char} (h : 0x10000 ≤ c.toNat) :
    ofSurrogates (0xD800 + (c.toNat - 0x10000) / 0x400)
      (0xDC00 + (c.toNat - 0x10000) % 0x400) = c := by
  have hsum : 0x10000 + (0xD800 + (c.toNat - 0x10000) / 0x400 - 0xD800) * 0x400 +
      (0xDC00 + (c.toNat - 0x10000) % 0x400 - 0xDC00) = c.toNat := by omega
  rw [ofSurrogates, hsum, Char.ofNat_toNat]

/-- A unit that is no half of a pair is a character. -/
theorem join?_unit {value : ℕ} (hhigh : isHighSurrogate value = false)
    (hlow : isLowSurrogate value = false) (pieces : List Piece) :
    join? (.unit value :: pieces) = (join? pieces).map (Char.ofNat value :: ·) := by
  rw [join?.eq_def]
  simp only [hhigh, hlow, Bool.false_eq_true, if_false]

theorem join?_pair {high low : ℕ} (hhigh : isHighSurrogate high = true)
    (hlow : isLowSurrogate low = true) (pieces : List Piece) :
    join? (.unit high :: .unit low :: pieces) =
      (join? pieces).map (ofSurrogates high low :: ·) := by
  rw [join?.eq_def]
  simp only [hhigh, hlow, if_true]

/-- The units of a character are read as the character. -/
theorem join?_units (c : Char) (pieces : List Piece) :
    join? ((units c).map .unit ++ pieces) = (join? pieces).map (c :: ·) := by
  have hvalid : c.toNat < 0xD800 ∨ 0xDFFF < c.toNat ∧ c.toNat < 0x110000 := c.valid
  unfold units
  by_cases hsmall : c.toNat < 0x10000
  · obtain ⟨hhigh, hlow⟩ := toNat_not_surrogate c
    rw [if_pos hsmall, List.map_singleton, List.singleton_append, join?_unit hhigh hlow,
      Char.ofNat_toNat]
  · have hlarge := not_lt.mp hsmall
    have hhigh : isHighSurrogate (0xD800 + (c.toNat - 0x10000) / 0x400) = true := by
      simp only [isHighSurrogate, Bool.and_eq_true, decide_eq_true_eq]
      omega
    have hlow : isLowSurrogate (0xDC00 + (c.toNat - 0x10000) % 0x400) = true := by
      simp only [isLowSurrogate, Bool.and_eq_true, decide_eq_true_eq]
      omega
    rw [if_neg hsmall, List.map_cons, List.map_singleton, List.cons_append, List.singleton_append,
      join?_pair hhigh hlow, ofSurrogates_units hlarge]

theorem cut_units {values : List ℕ} {digits : List (List Char)}
    (h : List.Forall₂ IsUnit values digits) {source : List Char} {pieces : List Piece}
    (hrest : Cut source pieces) :
    Cut ((digits.flatMap fun ds => '\\' :: 'u' :: ds) ++ source) (values.map .unit ++ pieces) := by
  induction h with
  | nil => exact hrest
  | cons hunit _ ih =>
      rw [List.flatMap_cons, List.append_assoc]
      exact .unit hunit ih

/-- A text that is spelled is made of pieces that are read as the text. -/
theorem Spells.cut {text source : List Char} (h : Spells text source) :
    ∃ pieces, Cut source pieces ∧ join? pieces = some text := by
  induction h with
  | nil => exact ⟨[], .nil, rfl⟩
  | @cons c text part source hpart hsource ih =>
      obtain ⟨pieces, hcut, hjoin⟩ := ih
      cases hpart with
      | plain hblank hquote hslash =>
          exact ⟨_, .plain hblank hquote hslash hcut, by rw [join?, hjoin]; rfl⟩
      | short hletter => exact ⟨_, .short hletter hcut, by rw [join?, hjoin]; rfl⟩
      | units hdigits => exact ⟨_, cut_units hdigits hcut, by rw [join?_units, hjoin]; rfl⟩

/-- A unit that is no half of a pair spells one character. -/
theorem units_ofNat {value : ℕ} (hsmall : value < 0x10000) (hhigh : isHighSurrogate value = false)
    (hlow : isLowSurrogate value = false) : units (Char.ofNat value) = [value] := by
  have hvalid : value.isValidChar := by
    simp only [isHighSurrogate, isLowSurrogate, Bool.and_eq_false_iff, decide_eq_false_iff_not]
      at hhigh hlow
    unfold Nat.isValidChar
    omega
  rw [units, Char.toNat_ofNat, if_pos hvalid, if_pos hsmall]

/-- Two units that are the halves of a pair spell one character. -/
theorem units_ofSurrogates {high low : ℕ} (hhigh : isHighSurrogate high = true)
    (hlow : isLowSurrogate low = true) : units (ofSurrogates high low) = [high, low] := by
  simp only [isHighSurrogate, isLowSurrogate, Bool.and_eq_true, decide_eq_true_eq] at hhigh hlow
  have hvalid : (0x10000 + (high - 0xD800) * 0x400 + (low - 0xDC00)).isValidChar := by
    unfold Nat.isValidChar
    omega
  rw [units, ofSurrogates, Char.toNat_ofNat, if_pos hvalid, if_neg (by omega)]
  simp only [List.cons.injEq, and_true]
  omega

/-- Pieces that are read as a text spell it. -/
theorem Cut.spells {source : List Char} {pieces : List Piece} (hcut : Cut source pieces)
    {text : List Char} (h : join? pieces = some text) : Spells text source := by
  fun_induction join? pieces generalizing source text with
  | case1 =>
      cases hcut
      cases h
      exact .nil
  | case2 c pieces ih =>
      obtain ⟨text, hjoin, rfl⟩ := Option.map_eq_some_iff.mp h
      cases hcut with
      | plain hblank hquote hslash hrest =>
          exact .cons (.plain hblank hquote hslash) (ih hrest hjoin)
      | short hletter hrest => exact .cons (.short hletter) (ih hrest hjoin)
  | case3 high hhigh low pieces hlow ih =>
      obtain ⟨text, hjoin, rfl⟩ := Option.map_eq_some_iff.mp h
      cases hcut with
      | @unit _ digits _ _ hdigits hrest =>
          cases hrest with
          | @unit _ digits' _ _ hdigits' hrest =>
              have hpair :
                  List.Forall₂ IsUnit (units (ofSurrogates high low)) [digits, digits'] := by
                rw [units_ofSurrogates hhigh hlow]
                exact .cons hdigits (.cons hdigits' .nil)
              simpa using Spells.cons (.units hpair) (ih hrest hjoin)
  | case4 => contradiction
  | case5 => contradiction
  | case6 => contradiction
  | case7 value pieces hhigh hlow ih =>
      obtain ⟨text, hjoin, rfl⟩ := Option.map_eq_some_iff.mp h
      cases hcut with
      | @unit _ digits _ _ hdigits hrest =>
          have hunit : List.Forall₂ IsUnit (units (Char.ofNat value)) [digits] := by
            rw [units_ofNat hdigits.digits.2 (Bool.eq_false_of_not_eq_true hhigh)
              (Bool.eq_false_of_not_eq_true hlow)]
            exact .cons hdigits .nil
          simpa using Spells.cons (.units hunit) (ih hrest hjoin)

/-- **A quoted text is read as what it denotes**, up to its closing quotation mark. -/
theorem read_iff {input rest : List Char} {text : Text} :
    (∃ pieces, body? input = some (pieces, rest) ∧ join? pieces = text) ↔
      ∃ source, input = source ++ '"' :: rest ∧ Denotes source text := by
  constructor
  · rintro ⟨pieces, hbody, rfl⟩
    obtain ⟨source, rfl, hcut⟩ := cut_of_body? hbody
    refine ⟨source, rfl, ?_⟩
    cases hjoin : join? pieces with
    | some text => exact hcut.spells hjoin
    | none =>
        refine ⟨⟨pieces, hcut⟩, fun text hspells => ?_⟩
        -- The same source would be cut in another way, which cannot be.
        obtain ⟨pieces', hcut', hjoin'⟩ := hspells.cut
        rw [hcut'.body?] at hbody
        cases hbody
        rw [hjoin] at hjoin'
        contradiction
  · rintro ⟨source, rfl, hdenotes⟩
    cases text with
    | some text =>
        obtain ⟨pieces, hcut, hjoin⟩ := Spells.cut hdenotes
        exact ⟨pieces, hcut.body? rest, hjoin⟩
    | none =>
        obtain ⟨⟨pieces, hcut⟩, hnone⟩ := hdenotes
        refine ⟨pieces, hcut.body? rest, ?_⟩
        cases hjoin : join? pieces with
        | none => rfl
        | some text => exact absurd (hcut.spells hjoin) (hnone text)

/-! ### Writing -/

theorem isHexDigit_hexDigit : ∀ value < 16, IsHexDigit (hexDigit value) value := by
  decide

/-- The digits that are written for a unit of one byte. -/
theorem isUnit_hexDigit {value : ℕ} (h : value < 0x100) :
    IsUnit value ['0', '0', hexDigit (value / 16), hexDigit (value % 16)] := by
  have hhigh : value / 4096 = 0 := by omega
  have hnext : value / 256 % 16 = 0 := by omega
  have hmod : value / 16 % 16 = value / 16 := by omega
  rw [IsUnit, hhigh, hnext, hmod]
  exact .cons (by decide) (.cons (by decide)
    (.cons (isHexDigit_hexDigit _ (by omega)) (.cons (isHexDigit_hexDigit _ (by omega)) .nil)))

theorem spelling_escape (c : Char) : Spelling c (escape c) := by
  have hshort {letter : Char} (h : (letter, c) ∈ shortEscapes) : Spelling c ['\\', letter] :=
    .short h
  unfold escape
  split_ifs with hquote hslash hb hf hn hr ht hblank
  · exact hshort (by simp [shortEscapes, hquote])
  · exact hshort (by simp [shortEscapes, hslash])
  · exact hshort (by simp [shortEscapes, hb])
  · exact hshort (by simp [shortEscapes, hf])
  · exact hshort (by simp [shortEscapes, hn])
  · exact hshort (by simp [shortEscapes, hr])
  · exact hshort (by simp [shortEscapes, ht])
  · have hsmall : c.toNat < 32 := UInt32.lt_iff_toNat_lt.mp hblank
    have hunits : units c = [c.toNat] := by
      rw [units, if_pos (by omega)]
    have hdigits : List.Forall₂ IsUnit (units c)
        [['0', '0', hexDigit (c.toNat / 16), hexDigit (c.toNat % 16)]] := by
      rw [hunits]
      exact .cons (isUnit_hexDigit (by omega)) .nil
    exact .units hdigits
  · exact .plain (not_lt.mp hblank) hquote hslash

theorem spells_escape (text : List Char) : Spells text (text.flatMap escape) := by
  induction text with
  | nil => exact .nil
  | cons c text ih => exact .cons (spelling_escape c) ih

/-! ### Control characters -/

theorem IsHexDigit.blank_le {d : Char} {value : ℕ} (h : IsHexDigit d value) : ' ' ≤ d := by
  have hall : ∀ value < 16, ' ' ≤ Nat.digitChar value ∧ ' ' ≤ (Nat.digitChar value).toUpper := by
    decide
  obtain ⟨hvalue, rfl | rfl⟩ := h
  · exact (hall value hvalue).1
  · exact (hall value hvalue).2

theorem IsUnit.blank_le {value : ℕ} {digits : List Char} (h : IsUnit value digits) :
    ∀ d ∈ digits, ' ' ≤ d := by
  intro d hd
  obtain ⟨i, hi, rfl⟩ := List.getElem_of_mem hd
  exact (h.get hi (h.length_eq ▸ hi)).blank_le

theorem blank_le_of_units {values : List ℕ} {digits : List (List Char)}
    (h : List.Forall₂ IsUnit values digits) :
    ∀ d ∈ digits.flatMap fun ds => '\\' :: 'u' :: ds, ' ' ≤ d := by
  induction h with
  | nil => simp
  | @cons value ds values digits hunit hrest ih =>
      have hhead : ∀ d ∈ '\\' :: 'u' :: ds, ' ' ≤ d := by
        rw [List.forall_mem_cons, List.forall_mem_cons]
        exact ⟨by decide, by decide, hunit.blank_le⟩
      rw [List.flatMap_cons]
      exact List.forall_mem_append.mpr ⟨hhead, ih⟩

/-- A control character is not written as itself. -/
theorem Spelling.blank_le {c : Char} {part : List Char} (h : Spelling c part) :
    ∀ d ∈ part, ' ' ≤ d := by
  cases h with
  | plain hblank hquote hslash => simpa using hblank
  | @short letter hletter =>
      have hall : ∀ x ∈ shortEscapes, ' ' ≤ x.1 := by decide
      rw [List.forall_mem_cons, List.forall_mem_singleton]
      exact ⟨by decide, hall _ hletter⟩
  | units hdigits => exact blank_le_of_units hdigits

/-- Between quotation marks there are no control characters. -/
theorem Spells.blank_le {text source : List Char} (h : Spells text source) :
    ∀ d ∈ source, ' ' ≤ d := by
  induction h with
  | nil => simp
  | cons hpart hsource ih => exact List.forall_mem_append.mpr ⟨hpart.blank_le, ih⟩

end Demux.Json.Quoted
