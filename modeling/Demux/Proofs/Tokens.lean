import Mathlib
import Demux.Proofs.Numerals
import Demux.Proofs.Spelling

/-!
# How tokens are spelled

Every token has its ways to be written (`Token.Spells`), and a text is made of tokens if it is made of
their spellings, in order, with any blanks before, between and after them (`Lexed`).

Cutting a text into tokens finds such tokens (`lexed_of_scan?`).  They are not always the only ones,
since two numbers without a blank between them look like one; but where no number follows a number
(`Separate`), as in every JSON value, the tokens that a text is made of are the ones that are found
(`Lexed.scan?`).
-/

namespace Demux.Json.Token

/-- The ways to write a token. -/
inductive Spells : Token → List Char → Prop
  | openBrace : Spells .openBrace ['\x7b']
  | closeBrace : Spells .closeBrace ['\x7d']
  | openBracket : Spells .openBracket ['[']
  | closeBracket : Spells .closeBracket [']']
  | colon : Spells .colon [':']
  | comma : Spells .comma [',']
  | null : Spells .null ['n', 'u', 'l', 'l']
  | yes : Spells (.bool true) ['t', 'r', 'u', 'e']
  | no : Spells (.bool false) ['f', 'a', 'l', 's', 'e']
  | number {spelling : List Char} (hnumber : Number.Spelled spelling) :
      Spells (.number spelling) spelling
  | string {text : Text} {source : List Char} (hdenotes : Quoted.Denotes source text) :
      Spells (.string text) ('"' :: (source ++ ['"']))

/-- Nothing but characters that may stand between tokens. -/
def Blanks (s : List Char) : Prop := ∀ c ∈ s, c ∈ [' ', '\n', '\t', '\r']

/-- Texts that are made of tokens and blanks. -/
inductive Lexed : List Token → List Char → Prop
  | blanks {blanks : List Char} (hblanks : Blanks blanks) : Lexed [] blanks
  | token {t : Token} {tokens : List Token} {blanks word rest : List Char}
      (hblanks : Blanks blanks) (hword : Spells t word) (hrest : Lexed tokens rest) :
      Lexed (t :: tokens) (blanks ++ (word ++ rest))

/-- Whether a token is a number. -/
def isNumber : Token → Bool
  | number _ => true
  | _ => false

/-- No number comes right after a number. -/
def Separate (tokens : List Token) : Prop :=
  tokens.IsChain fun a b => a.isNumber = true → b.isNumber = false

/-! ### One token -/

theorem isBlank_iff (c : Char) : isBlank c = true ↔ c ∈ [' ', '\n', '\t', '\r'] := by
  simp [isBlank, or_assoc]

/-- A token starts with a character of its own. -/
theorem Spells.exists_cons {t : Token} {word : List Char} (h : Spells t word) :
    ∃ c rest, word = c :: rest ∧ isBlank c = false ∧
      (t.isNumber = false → Number.isNumberChar c = false) := by
  cases h with
  | number hnumber =>
      obtain ⟨c, rest, rfl, hc⟩ := hnumber.exists_cons
      refine ⟨c, rest, rfl, ?_, nofun⟩
      by_contra hblank
      rw [Bool.not_eq_false, isBlank_iff] at hblank
      simp only [List.mem_cons, List.not_mem_nil, or_false] at hblank
      rcases hblank with rfl | rfl | rfl | rfl <;> revert hc <;> decide
  | _ => exact ⟨_, _, rfl, by decide, fun _ => by decide⟩

/-- No token that is written holds a character below the blank. -/
theorem blank_le_spell {t : Token} (h : t.Spells t.spell) : ∀ c ∈ t.spell, ' ' ≤ c := by
  cases t with
  | number spelling =>
      cases h with
      | number hnumber =>
          exact fun c hc => Number.blank_le_of_isNumberChar (hnumber.isNumberChar c hc)
  | string text =>
      have hsource : ∀ source : List Char, (∀ c ∈ source, ' ' ≤ c) →
          ∀ c ∈ '"' :: (source ++ ['"']), ' ' ≤ c := fun source hsource => by
        have hquote : ' ' ≤ '"' := by decide
        exact List.forall_mem_cons.mpr
          ⟨hquote, List.forall_mem_append.mpr ⟨hsource, List.forall_mem_singleton.mpr hquote⟩⟩
      cases text with
      | none => exact hsource ['\\', 'u', 'd', '8', '0', '0'] (by simp)
      | some text => exact hsource _ (Quoted.spells_escape text).blank_le
  | bool b => cases b <;> simp [spell]
  | _ => simp [spell]

/-- What starts like a number is a number, or no token. -/
theorem next?_number {c : Char} (hc : c = '-' ∨ c.isDigit = true) (rest : List Char) :
    next? c rest =
      if Number.isNumber (c :: rest.takeWhile Number.isNumberChar) then
        some (.number (c :: rest.takeWhile Number.isNumberChar),
          rest.dropWhile Number.isNumberChar)
      else none := by
  have hne : ∀ d ∈ ['\x7b', '\x7d', '[', ']', ':', ',', '"'], c ≠ d := by
    rintro d hd rfl
    revert hc
    simp only [List.mem_cons, List.not_mem_nil, or_false] at hd
    rcases hd with rfl | rfl | rfl | rfl | rfl | rfl | rfl <;> decide
  simp only [List.forall_mem_cons, List.not_mem_nil, false_imp_iff, implies_true, and_true] at hne
  obtain ⟨h₁, h₂, h₃, h₄, h₅, h₆, h₇⟩ := hne
  rw [next?.eq_def, if_neg h₁, if_neg h₂, if_neg h₃, if_neg h₄, if_neg h₅, if_neg h₆, if_neg h₇,
    if_pos hc]

/-- A token is found where it is written, unless it is a number that goes on. -/
theorem next?_of_spells {t : Token} {c : Char} {word rest : List Char} (h : Spells t (c :: word))
    (hrest : t.isNumber = true → ∀ d ∈ rest.head?, Number.isNumberChar d = false) :
    next? c (word ++ rest) = some (t, rest) := by
  generalize hspelling : c :: word = spelling at h
  cases h with
  | number hnumber =>
      subst hspelling
      obtain ⟨_, _, hcons, hc⟩ := hnumber.exists_cons
      cases hcons
      have hword : ∀ d ∈ word, Number.isNumberChar d = true := fun d hd =>
        hnumber.isNumberChar d (List.mem_cons_of_mem c hd)
      obtain ⟨htake, hdrop⟩ := Number.span_append hword (hrest rfl)
      rw [next?_number hc, htake, hdrop, if_pos ((Number.isNumber_iff _).mpr hnumber)]
  | @string text source hdenotes =>
      cases hspelling
      obtain ⟨pieces, hbody, hjoin⟩ :=
        Quoted.read_iff.mpr ⟨source, List.append_assoc source ['"'] rest, hdenotes⟩
      have hquote : next? '"' (source ++ ['"'] ++ rest) =
          (Quoted.body? (source ++ ['"'] ++ rest)).map fun x =>
            (.string (Quoted.join? x.1), x.2) := rfl
      rw [hquote, hbody, Option.map_some, hjoin]
      rfl
  | _ =>
      cases hspelling
      rfl

/-- What is found as a token is one. -/
theorem spells_of_next? {t : Token} {c : Char} {input rest : List Char}
    (h : next? c input = some (t, rest)) :
    ∃ word, input = word ++ rest ∧ Spells t (c :: word) := by
  by_cases hc : c = '-' ∨ c.isDigit = true
  · rw [next?_number hc] at h
    split at h
    · rename_i hnumber
      cases h
      exact ⟨_, List.takeWhile_append_dropWhile.symm, .number ((Number.isNumber_iff _).mp hnumber)⟩
    · contradiction
  · unfold next? at h
    split_ifs at h with h₁ h₂ h₃ h₄ h₅ h₆ h₇
    · cases h
      exact ⟨[], rfl, h₁ ▸ .openBrace⟩
    · cases h
      exact ⟨[], rfl, h₂ ▸ .closeBrace⟩
    · cases h
      exact ⟨[], rfl, h₃ ▸ .openBracket⟩
    · cases h
      exact ⟨[], rfl, h₄ ▸ .closeBracket⟩
    · cases h
      exact ⟨[], rfl, h₅ ▸ .colon⟩
    · cases h
      exact ⟨[], rfl, h₆ ▸ .comma⟩
    · obtain ⟨⟨pieces, rest⟩, hbody, hread⟩ := Option.map_eq_some_iff.mp h
      cases hread
      obtain ⟨source, rfl, hdenotes⟩ := Quoted.read_iff.mp ⟨pieces, hbody, rfl⟩
      exact ⟨source ++ ['"'], (List.append_assoc source ['"'] _).symm, h₇ ▸ .string hdenotes⟩
    · split at h
      · cases h
        exact ⟨['u', 'l', 'l'], rfl, .null⟩
      · cases h
        exact ⟨['r', 'u', 'e'], rfl, .yes⟩
      · cases h
        exact ⟨['a', 'l', 's', 'e'], rfl, .no⟩
      · contradiction

/-! ### All tokens -/

theorem length_of_next? {t : Token} {c : Char} {input rest : List Char}
    (h : next? c input = some (t, rest)) : rest.length ≤ input.length := by
  obtain ⟨word, rfl, -⟩ := spells_of_next? h
  rw [List.length_append]
  exact Nat.le_add_left _ _

theorem scanWithin_cons (fuel : ℕ) (c : Char) (rest : List Char) :
    scanWithin (fuel + 1) (c :: rest) = if isBlank c then scanWithin fuel rest
      else (next? c rest).bind fun x => (scanWithin fuel x.2).map (x.1 :: ·) := by
  rw [scanWithin]
  split
  · rfl
  · rcases next? c rest with _ | ⟨t, rest'⟩
    · rfl
    · cases hscan : scanWithin fuel rest' <;> simp [hscan]

/-- As many steps as there are characters are enough, and more of them change nothing. -/
theorem scanWithin_congr {fuel fuel' : ℕ} {input : List Char} (h : input.length ≤ fuel)
    (h' : input.length ≤ fuel') : scanWithin fuel input = scanWithin fuel' input := by
  induction fuel generalizing input fuel' with
  | zero =>
      obtain rfl := List.length_eq_zero_iff.mp (Nat.le_zero.mp h)
      cases fuel' <;> rfl
  | succ fuel ih =>
      rcases input with _ | ⟨c, rest⟩
      · cases fuel' <;> rfl
      · rcases fuel' with _ | fuel'
        · contradiction
        · have hrest : rest.length ≤ fuel := Nat.le_of_succ_le_succ h
          have hrest' : rest.length ≤ fuel' := Nat.le_of_succ_le_succ h'
          rw [scanWithin_cons, scanWithin_cons, ih hrest hrest']
          rcases hnext : next? c rest with _ | ⟨t, after⟩
          · rfl
          · have hafter : after.length ≤ rest.length := length_of_next? hnext
            rw [Option.bind_some, Option.bind_some,
              ih (hafter.trans hrest) (hafter.trans hrest')]

theorem scan?_cons (c : Char) (rest : List Char) :
    scan? (c :: rest) = if isBlank c then scan? rest
      else (next? c rest).bind fun x => (scan? x.2).map (x.1 :: ·) := by
  rw [scan?, List.length_cons, scanWithin_cons]
  rcases hnext : next? c rest with _ | ⟨t, after⟩
  · rfl
  · rw [Option.bind_some, Option.bind_some,
      scanWithin_congr (length_of_next? hnext) (Nat.le_refl after.length)]
    rfl

/-- A byte order mark is no token and no blank. -/
theorem scan?_byteOrderMark (rest : List Char) : scan? ('\uFEFF' :: rest) = none := by
  rw [scan?_cons]
  rfl

theorem scan?_blanks {blanks : List Char} (h : Blanks blanks) (rest : List Char) :
    scan? (blanks ++ rest) = scan? rest := by
  induction blanks with
  | nil => rfl
  | cons c blanks ih =>
      obtain ⟨hc, hblanks⟩ := List.forall_mem_cons.mp h
      rw [List.cons_append, scan?_cons, if_pos ((isBlank_iff c).mpr hc)]
      exact ih hblanks

/-- A token is cut off where it is written, unless it is a number that goes on. -/
theorem scan?_token {t : Token} {word : List Char} (h : Spells t word) {rest : List Char}
    (hrest : t.isNumber = true → ∀ d ∈ rest.head?, Number.isNumberChar d = false) :
    scan? (word ++ rest) = (scan? rest).map (t :: ·) := by
  obtain ⟨c, word, rfl, hblank, -⟩ := h.exists_cons
  rw [List.cons_append, scan?_cons, if_neg (by rw [hblank]; decide), next?_of_spells h hrest,
    Option.bind_some]

theorem not_numberChar_of_blanks {blanks : List Char} (h : Blanks blanks) :
    ∀ d ∈ blanks, Number.isNumberChar d = false := by
  intro d hd
  have hmem := h d hd
  simp only [List.mem_cons, List.not_mem_nil, or_false] at hmem
  rcases hmem with rfl | rfl | rfl | rfl <;> rfl

/-- Where no number comes first, no character of a number does. -/
theorem Lexed.head_not_number {tokens : List Token} {rest : List Char} (h : Lexed tokens rest)
    (hfirst : ∀ t ∈ tokens.head?, t.isNumber = false) :
    ∀ d ∈ rest.head?, Number.isNumberChar d = false := by
  cases h with
  | blanks hblanks =>
      exact fun d hd => not_numberChar_of_blanks hblanks d (List.mem_of_mem_head? hd)
  | @token t tokens blanks word rest hblanks hword hrest =>
      rcases blanks with _ | ⟨b, blanks⟩
      · obtain ⟨c, word, rfl, -, hc⟩ := hword.exists_cons
        simpa using hc (hfirst t rfl)
      · simpa using not_numberChar_of_blanks hblanks b List.mem_cons_self

/-- A number is not gone on with by what comes after it. -/
theorem Lexed.number_ends {t : Token} {tokens : List Token} {rest : List Char}
    (h : Lexed tokens rest) (hseparate : Separate (t :: tokens)) (ht : t.isNumber = true)
    {extra : List Char} (hextra : tokens = [] → extra = []) :
    ∀ d ∈ (rest ++ extra).head?, Number.isNumberChar d = false := by
  rcases tokens with _ | ⟨u, tokens⟩
  · rw [hextra rfl, List.append_nil]
    exact h.head_not_number (by simp)
  · have hu : u.isNumber = false := hseparate.rel ht
    have hhead := h.head_not_number (by simpa using hu)
    have hne : rest ≠ [] := by
      cases h with
      | token hblanks hword hrest =>
          obtain ⟨c, word, rfl, -⟩ := hword.exists_cons
          simp
    rwa [List.head?_append_of_ne_nil _ hne]

/-- **Tokens that a text is made of are found** if no number follows a number, whatever comes after the
text; only nothing may come after a number. -/
theorem Lexed.scan?_append {tokens : List Token} {text : List Char} (h : Lexed tokens text)
    (hseparate : Separate tokens) {extra : List Char}
    (hextra : ∀ t ∈ tokens.getLast?, t.isNumber = true → extra = []) :
    scan? (text ++ extra) = (scan? extra).map (tokens ++ ·) := by
  induction h with
  | blanks hblanks =>
      rw [scan?_blanks hblanks]
      exact Option.map_id'.symm
  | @token t tokens blanks word rest hblanks hword hrest ih =>
      have hends : t.isNumber = true →
          ∀ d ∈ (rest ++ extra).head?, Number.isNumberChar d = false := by
        intro ht
        refine hrest.number_ends hseparate ht ?_
        rintro rfl
        exact hextra t rfl ht
      have hextra' : ∀ u ∈ tokens.getLast?, u.isNumber = true → extra = [] := by
        intro u hu
        exact hextra u (List.mem_getLast?_cons hu)
      rw [List.append_assoc, scan?_blanks hblanks, List.append_assoc, scan?_token hword hends,
        ih hseparate.tail hextra']
      cases scan? extra <;> rfl

theorem Lexed.scan? {tokens : List Token} {text : List Char} (h : Lexed tokens text)
    (hseparate : Separate tokens) : Token.scan? text = some tokens := by
  have happend : Token.scan? (text ++ []) = (Token.scan? []).map (tokens ++ ·) :=
    h.scan?_append hseparate fun _ _ _ => rfl
  rw [List.append_nil] at happend
  rw [happend, show Token.scan? [] = some [] from rfl, Option.map_some, List.append_nil]

/-- Every token of a text is spelled in it. -/
theorem Lexed.exists_spells {tokens : List Token} {text : List Char} (h : Lexed tokens text) :
    ∀ t ∈ tokens, ∃ word, Spells t word := by
  induction h with
  | blanks _ => exact nofun
  | token _ hword _ ih => exact List.forall_mem_cons.mpr ⟨⟨_, hword⟩, ih⟩

/-- A token may stand at the very start. -/
theorem Lexed.word {t : Token} {tokens : List Token} {word rest : List Char} (hword : Spells t word)
    (hrest : Lexed tokens rest) : Lexed (t :: tokens) (word ++ rest) :=
  Lexed.token (show Blanks [] from nofun) hword hrest

/-- Tokens as they are written, without blanks, make a text. -/
theorem lexed_flatMap_spell {tokens : List Token} (h : ∀ t ∈ tokens, Spells t t.spell) :
    Lexed tokens (tokens.flatMap spell) := by
  induction tokens with
  | nil => exact .blanks (by simp [Blanks])
  | cons t tokens ih =>
      obtain ⟨ht, htokens⟩ := List.forall_mem_cons.mp h
      exact .word ht (ih htokens)

/-- A blank in front changes nothing. -/
theorem Lexed.cons_blank {tokens : List Token} {text : List Char} (h : Lexed tokens text) {c : Char}
    (hc : c ∈ [' ', '\n', '\t', '\r']) : Lexed tokens (c :: text) := by
  cases h with
  | blanks hblanks => exact .blanks (List.forall_mem_cons.mpr ⟨hc, hblanks⟩)
  | token hblanks hword hrest => exact .token (List.forall_mem_cons.mpr ⟨hc, hblanks⟩) hword hrest

/-- What is cut into tokens is made of them. -/
theorem lexed_of_scan? {text : List Char} {tokens : List Token} (h : scan? text = some tokens) :
    Lexed tokens text := by
  induction hn : text.length using Nat.strong_induction_on generalizing text tokens with
  | _ n ih =>
      rcases text with _ | ⟨c, rest⟩
      · cases h
        exact .blanks (by simp [Blanks])
      · subst hn
        rw [scan?_cons] at h
        split at h
        · rename_i hblank
          have hlexed := ih rest.length (Nat.lt_succ_self _) h rfl
          exact hlexed.cons_blank ((isBlank_iff c).mp hblank)
        · obtain ⟨⟨t, after⟩, hnext, hscan⟩ := Option.bind_eq_some_iff.mp h
          obtain ⟨tokens, hafter, rfl⟩ := Option.map_eq_some_iff.mp hscan
          have hle : after.length ≤ rest.length := length_of_next? hnext
          obtain ⟨word, rfl, hword⟩ := spells_of_next? hnext
          have hlexed := ih after.length (Nat.lt_succ_of_le hle) hafter rfl
          exact .word hword hlexed

end Demux.Json.Token
