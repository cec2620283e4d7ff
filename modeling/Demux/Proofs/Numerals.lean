import Mathlib
import Demux.Json.Token

/-!
# How a number is spelled

A number is an optional minus sign, a whole part, an optional fraction and an optional exponent, one
after another (`Spelled`).  The test for numbers accepts exactly these (`isNumber_iff`).  A number that
is made of digits alone is the decimal numeral of its value, because its whole part has no leading zero
(`eq_toDigits`).
-/

namespace Demux.Json.Number

/-- One or more digits. -/
structure Digits (s : List Char) : Prop where
  nonempty : s ≠ []
  digits : ∀ c ∈ s, c.isDigit = true

/-- A zero, or digits of which the first one is no zero. -/
inductive Whole : List Char → Prop
  | zero : Whole ['0']
  | digits {c : Char} {s : List Char} (hdigit : c.isDigit = true) (hzero : c ≠ '0')
      (hrest : ∀ d ∈ s, d.isDigit = true) : Whole (c :: s)

inductive Fraction : List Char → Prop
  | absent : Fraction []
  | point {s : List Char} (hdigits : Digits s) : Fraction ('.' :: s)

inductive Exponent : List Char → Prop
  | absent : Exponent []
  | plain {e : Char} {s : List Char} (hmark : e = 'e' ∨ e = 'E') (hdigits : Digits s) :
      Exponent (e :: s)
  | signed {e sign : Char} {s : List Char} (hmark : e = 'e' ∨ e = 'E')
      (hsign : sign = '+' ∨ sign = '-') (hdigits : Digits s) : Exponent (e :: sign :: s)

/-- The ways to write a number without a sign. -/
inductive Unsigned : List Char → Prop
  | parts {whole fraction exponent : List Char} (hwhole : Whole whole)
      (hfraction : Fraction fraction) (hexponent : Exponent exponent) :
      Unsigned (whole ++ (fraction ++ exponent))

/-- The ways to write a number. -/
inductive Spelled : List Char → Prop
  | positive {s : List Char} (hunsigned : Unsigned s) : Spelled s
  | negative {s : List Char} (hunsigned : Unsigned s) : Spelled ('-' :: s)

/-- A run of characters of one kind ends where another kind begins. -/
theorem span_append {p : Char → Bool} {run rest : List Char} (hrun : ∀ c ∈ run, p c = true)
    (hrest : ∀ c ∈ rest.head?, p c = false) :
    (run ++ rest).takeWhile p = run ∧ (run ++ rest).dropWhile p = rest := by
  rw [List.takeWhile_append_of_pos hrun, List.dropWhile_append_of_pos hrun]
  cases rest with
  | nil => simp
  | cons c rest =>
      have hc : p c = false := hrest c rfl
      simp [hc]

/-! ### The parts of a number -/

theorem isDigits_iff (s : List Char) : isDigits s = true ↔ Digits s := by
  simp only [isDigits, Bool.and_eq_true, Bool.not_eq_true', List.isEmpty_eq_false_iff,
    List.all_eq_true]
  exact ⟨fun h => ⟨h.1, h.2⟩, fun h => ⟨h.1, h.2⟩⟩

theorem isExponentPart_iff (s : List Char) : isExponentPart s = true ↔ Exponent s := by
  constructor
  · intro h
    match s with
    | [] => exact .absent
    | [e] => simp [isExponentPart] at h
    | e :: sign :: rest =>
        simp only [isExponentPart, Bool.and_eq_true, Bool.or_eq_true, beq_iff_eq] at h
        obtain ⟨hmark, hrest⟩ := h
        split at hrest
        · rename_i hsign
          exact .signed hmark hsign ((isDigits_iff rest).mp hrest)
        · exact .plain hmark ((isDigits_iff _).mp hrest)
  · intro h
    cases h with
    | absent => rfl
    | @plain e s hmark hdigits =>
        obtain ⟨d, rest, rfl⟩ := List.exists_cons_of_ne_nil hdigits.nonempty
        have hd := hdigits.digits d List.mem_cons_self
        have hsign : ¬ (d = '+' ∨ d = '-') := by
          rintro (rfl | rfl) <;> contradiction
        simp only [isExponentPart, Bool.and_eq_true, Bool.or_eq_true, beq_iff_eq, if_neg hsign]
        exact ⟨hmark, (isDigits_iff _).mpr hdigits⟩
    | signed hmark hsign hdigits =>
        simp only [isExponentPart, Bool.and_eq_true, Bool.or_eq_true, beq_iff_eq, if_pos hsign]
        exact ⟨hmark, (isDigits_iff _).mpr hdigits⟩

/-- A digit does not start an exponent, nor a fraction with an exponent after it. -/
theorem Exponent.head_not_digit {s : List Char} (h : Exponent s) :
    ∀ c ∈ s.head?, c.isDigit = false ∧ c ≠ '.' := by
  cases h with
  | absent => simp
  | plain hmark hdigits => rcases hmark with rfl | rfl <;> simp
  | signed hmark hsign hdigits => rcases hmark with rfl | rfl <;> simp

theorem head_not_digit {fraction exponent : List Char} (hfraction : Fraction fraction)
    (hexponent : Exponent exponent) : ∀ c ∈ (fraction ++ exponent).head?, c.isDigit = false := by
  cases hfraction with
  | absent => exact fun c hc => (hexponent.head_not_digit c hc).1
  | point hdigits => simp

theorem isFractionPart_iff (s : List Char) :
    isFractionPart s = true ↔
      ∃ fraction exponent, Fraction fraction ∧ Exponent exponent ∧ fraction ++ exponent = s := by
  constructor
  · intro h
    unfold isFractionPart at h
    split at h
    · rename_i rest
      simp only [Bool.and_eq_true, isDigits_iff, isExponentPart_iff] at h
      exact ⟨_, _, .point h.1, h.2, congrArg _ List.takeWhile_append_dropWhile⟩
    · exact ⟨[], s, .absent, (isExponentPart_iff s).mp h, rfl⟩
  · rintro ⟨fraction, exponent, hfraction, hexponent, rfl⟩
    have hhead := hexponent.head_not_digit
    cases hfraction with
    | absent =>
        rw [List.nil_append, isFractionPart.eq_2 _ fun rest h => ?_]
        · exact (isExponentPart_iff exponent).mpr hexponent
        · exact (hhead '.' (h ▸ rfl)).2 rfl
    | point hdigits =>
        obtain ⟨htake, hdrop⟩ := span_append hdigits.digits fun c hc => (hhead c hc).1
        simp only [List.cons_append, isFractionPart, htake, hdrop, Bool.and_eq_true]
        exact ⟨(isDigits_iff _).mpr hdigits, (isExponentPart_iff _).mpr hexponent⟩

theorem isUnsigned_iff (s : List Char) : isUnsigned s = true ↔ Unsigned s := by
  constructor
  · intro h
    match s with
    | [] => contradiction
    | c :: rest =>
        rw [isUnsigned] at h
        split at h
        · rename_i hzero
          obtain ⟨fraction, exponent, hfraction, hexponent, rfl⟩ := (isFractionPart_iff _).mp h
          subst hzero
          exact .parts .zero hfraction hexponent
        · rename_i hzero
          obtain ⟨hdigit, hrest⟩ := Bool.and_eq_true_iff.mp h
          obtain ⟨fraction, exponent, hfraction, hexponent, heq⟩ := (isFractionPart_iff _).mp hrest
          have hwhole : Whole (c :: rest.takeWhile Char.isDigit) :=
            .digits hdigit hzero fun d hd => List.mem_takeWhile_imp hd
          have hparts := Unsigned.parts hwhole hfraction hexponent
          rwa [heq, List.cons_append, List.takeWhile_append_dropWhile] at hparts
  · rintro ⟨hwhole, hfraction, hexponent⟩
    have hrest := (isFractionPart_iff _).mpr ⟨_, _, hfraction, hexponent, rfl⟩
    have hhead := head_not_digit hfraction hexponent
    cases hwhole with
    | zero => simpa [isUnsigned] using hrest
    | digits hdigit hzero hdigits =>
        rw [List.cons_append, isUnsigned, if_neg hzero, (span_append hdigits hhead).2, hdigit,
          hrest]
        rfl

/-- What has no sign starts with a digit. -/
theorem Unsigned.exists_cons {s : List Char} (h : Unsigned s) :
    ∃ c rest, s = c :: rest ∧ c.isDigit = true := by
  rcases h with ⟨_ | ⟨hdigit, -, -⟩, -, -⟩
  · exact ⟨'0', _, rfl, rfl⟩
  · exact ⟨_, _, rfl, hdigit⟩

/-- The test for numbers accepts exactly the ways to write one. -/
theorem isNumber_iff (s : List Char) : isNumber s = true ↔ Spelled s := by
  constructor
  · intro h
    unfold isNumber at h
    split at h
    · exact .negative ((isUnsigned_iff _).mp h)
    · exact .positive ((isUnsigned_iff _).mp h)
  · intro h
    cases h with
    | negative hunsigned => exact (isUnsigned_iff _).mpr hunsigned
    | positive hunsigned =>
        have hsign : ∀ rest, s = '-' :: rest → False := by
          rintro rest rfl
          obtain ⟨c, _, hs, hdigit⟩ := hunsigned.exists_cons
          cases hs
          contradiction
        rw [isNumber.eq_2 _ hsign]
        exact (isUnsigned_iff s).mpr hunsigned

/-! ### The characters of a number -/

theorem isNumberChar_of_isDigit {c : Char} (h : c.isDigit = true) : isNumberChar c = true := by
  simp [isNumberChar, h]

theorem blank_le_of_isNumberChar {c : Char} (h : isNumberChar c = true) : ' ' ≤ c := by
  simp only [isNumberChar, Bool.or_eq_true, beq_iff_eq] at h
  rcases h with ((((h | rfl) | rfl) | rfl) | rfl) | rfl
  · have hdigit : '0' ≤ c := (Char.isDigit_iff_toNat.mp h).1
    exact le_trans (by decide) hdigit
  all_goals decide

theorem Digits.isNumberChar {s : List Char} (h : Digits s) : ∀ c ∈ s, isNumberChar c = true :=
  fun c hc => isNumberChar_of_isDigit (h.digits c hc)

theorem Unsigned.isNumberChar {s : List Char} (h : Unsigned s) :
    ∀ c ∈ s, isNumberChar c = true := by
  obtain ⟨hwhole, hfraction, hexponent⟩ := h
  refine List.forall_mem_append.mpr ⟨?_, List.forall_mem_append.mpr ⟨?_, ?_⟩⟩
  · cases hwhole with
    | zero => simp [Number.isNumberChar]
    | digits hdigit hzero hrest =>
        exact List.forall_mem_cons.mpr ⟨isNumberChar_of_isDigit hdigit,
          fun c hc => isNumberChar_of_isDigit (hrest c hc)⟩
  · cases hfraction with
    | absent => simp
    | point hdigits => exact List.forall_mem_cons.mpr ⟨by decide, hdigits.isNumberChar⟩
  · cases hexponent with
    | absent => simp
    | plain hmark hdigits =>
        refine List.forall_mem_cons.mpr ⟨?_, hdigits.isNumberChar⟩
        rcases hmark with rfl | rfl <;> decide
    | signed hmark hsign hdigits =>
        refine List.forall_mem_cons.mpr ⟨?_, List.forall_mem_cons.mpr ⟨?_, hdigits.isNumberChar⟩⟩
        · rcases hmark with rfl | rfl <;> decide
        · rcases hsign with rfl | rfl <;> decide

theorem Spelled.isNumberChar {s : List Char} (h : Spelled s) : ∀ c ∈ s, isNumberChar c = true := by
  cases h with
  | positive hunsigned => exact hunsigned.isNumberChar
  | negative hunsigned => exact List.forall_mem_cons.mpr ⟨by decide, hunsigned.isNumberChar⟩

/-- A number starts with a minus sign or with a digit. -/
theorem Spelled.exists_cons {s : List Char} (h : Spelled s) :
    ∃ c rest, s = c :: rest ∧ (c = '-' ∨ c.isDigit = true) := by
  cases h with
  | negative hunsigned => exact ⟨'-', _, rfl, Or.inl rfl⟩
  | positive hunsigned =>
      obtain ⟨c, rest, hs, hdigit⟩ := hunsigned.exists_cons
      exact ⟨c, rest, hs, Or.inr hdigit⟩

/-! ### Decimal numerals -/

theorem exists_digitChar {c : Char} (h : c.isDigit = true) : ∃ n < 10, c = n.digitChar := by
  simp only [Char.isDigit, Bool.and_eq_true, decide_eq_true_eq] at h
  have hlow : 48 ≤ c.toNat := UInt32.le_iff_toNat_le.mp h.1
  have hhigh : c.toNat ≤ 57 := UInt32.le_iff_toNat_le.mp h.2
  refine ⟨c.toNat - 48, by omega, Char.toNat_inj.mp ?_⟩
  rw [Nat.toNat_digitChar_of_lt_ten (by omega)]
  omega

/-- The decimal numeral of a number has no leading zero. -/
theorem whole_toDigits (n : ℕ) : Whole (Nat.toDigits 10 n) := by
  induction n using Nat.strong_induction_on with
  | _ n ih =>
      by_cases hsmall : n < 10
      · rw [Nat.toDigits_of_lt_base hsmall]
        by_cases hzero : n = 0
        · subst hzero
          exact .zero
        · have hdigit : n.digitChar.isDigit = true := by
            rw [Nat.isDigit_digitChar, decide_eq_true hsmall]
          exact .digits hdigit (mt Nat.digitChar_eq_zero.mp hzero) (by simp)
      · have hlarge : 10 ≤ n := not_lt.mp hsmall
        have hlast : (n % 10).digitChar.isDigit = true := by
          rw [Nat.isDigit_digitChar, decide_eq_true (Nat.mod_lt n (by decide))]
        have hvalue := Nat.ofDigitChars_ten_toDigits (n := n / 10)
        have hwhole := ih (n / 10) (by omega)
        rw [Nat.toDigits_of_base_le (by decide) hlarge]
        generalize Nat.toDigits 10 (n / 10) = front at hvalue hwhole ⊢
        cases hwhole with
        | zero =>
            have hquotient : n / 10 = 0 := hvalue.symm
            omega
        | digits hdigit hzero hrest =>
            refine .digits hdigit hzero (List.forall_mem_append.mpr ⟨hrest, ?_⟩)
            simpa using hlast

/-- A decimal numeral without a leading zero is the numeral of its value. -/
theorem Whole.toDigits_eq {s : List Char} (h : Whole s) :
    Nat.toDigits 10 (Nat.ofDigitChars 10 s 0) = s := by
  cases h with
  | zero => rfl
  | @digits c s hdigit hzero hrest =>
      obtain ⟨n, hn, rfl⟩ := exists_digitChar hdigit
      have hpos : 0 < n := Nat.pos_of_ne_zero fun h => hzero (Nat.digitChar_eq_zero.mpr h)
      induction s using List.reverseRecOn with
      | nil =>
          rw [Nat.ofDigitChars_cons_digitChar_of_lt_ten hn, Nat.ofDigitChars_nil, Nat.mul_zero,
            Nat.zero_add, Nat.toDigits_of_lt_base hn]
      | append_singleton s d ih =>
          obtain ⟨hs, hd⟩ := List.forall_mem_append.mp hrest
          obtain ⟨m, hm, rfl⟩ := exists_digitChar (hd d List.mem_cons_self)
          have hnumeral := ih hs
          have hvalue : 0 < Nat.ofDigitChars 10 (n.digitChar :: s) 0 := by
            rw [Nat.ofDigitChars_cons_digitChar_of_lt_ten hn,
              Nat.ofDigitChars_eq_ofDigitChars_zero]
            positivity
          rw [← List.cons_append, Nat.ofDigitChars_append,
            Nat.ofDigitChars_cons_digitChar_of_lt_ten hm, Nat.ofDigitChars_nil,
            ← Nat.toDigits_append_toDigits (by decide) hvalue hm, hnumeral,
            Nat.toDigits_of_lt_base hm]

/-- A number that is made of digits alone is the decimal numeral of its value. -/
theorem Spelled.eq_toDigits {s : List Char} (h : Spelled s) (hdigits : ∀ c ∈ s, c.isDigit = true) :
    s = Nat.toDigits 10 (Nat.ofDigitChars 10 s 0) := by
  cases h with
  | negative hunsigned => exact absurd (hdigits '-' List.mem_cons_self) (by decide)
  | positive hunsigned =>
      obtain ⟨hwhole, hfraction, hexponent⟩ := hunsigned
      obtain ⟨-, hdigits⟩ := List.forall_mem_append.mp hdigits
      cases hfraction with
      | point => exact absurd (hdigits '.' (by simp)) (by decide)
      | absent =>
          cases hexponent with
          | absent => simpa using hwhole.toDigits_eq.symm
          | plain hmark =>
              have hmark' := hdigits _ (List.mem_cons_self)
              rcases hmark with rfl | rfl <;> contradiction
          | signed hmark =>
              have hmark' := hdigits _ (List.mem_cons_self)
              rcases hmark with rfl | rfl <;> contradiction

/-- The decimal numeral of a number is a way to write it. -/
theorem spelled_toDigits (n : ℕ) : Spelled (Nat.toDigits 10 n) := by
  simpa using Spelled.positive (.parts (whole_toDigits n) .absent .absent)

end Demux.Json.Number
