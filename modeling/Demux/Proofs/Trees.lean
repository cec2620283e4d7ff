import Mathlib
import Demux.Json
import Demux.Proofs.Tokens

/-!
# How a value is spelled

A text spells a value if it is made of the tokens of the value (`Json.Spells`).  Reading finds exactly
the value that a text spells (`parse?_eq_some_iff`), so no text spells two, and nothing but blanks may
come after it.
-/

namespace Demux.Json

/-- A text is made of the tokens of a value, with blanks before, between and after them. -/
def Spells (j : Json) (text : List Char) : Prop := Token.Lexed j.tokens text

/-! ### The tokens of a value -/

theorem itemTokens_cons_cons (item next : Json) (items : List Json) :
    itemTokens (item :: next :: items) = item.tokens ++ .comma :: itemTokens (next :: items) := rfl

theorem memberTokens_cons_cons (key : Text) (value : Json) (next : Text × Json)
    (members : List (Text × Json)) :
    memberTokens ((key, value) :: next :: members) =
      .string key :: .colon :: (value.tokens ++ .comma :: memberTokens (next :: members)) := rfl

theorem tokens_subset_itemTokens {item : Json} {items : List Json} (h : item ∈ items) :
    item.tokens ⊆ itemTokens items := by
  induction items with
  | nil => contradiction
  | cons first items ih =>
      rcases List.mem_cons.mp h with rfl | h
      · rcases items with _ | ⟨next, items⟩ <;> exact List.subset_append_left _ _
      · obtain ⟨next, items, rfl⟩ := List.exists_cons_of_ne_nil (List.ne_nil_of_mem h)
        intro t ht
        rw [itemTokens_cons_cons]
        exact List.mem_append_right _ (List.mem_cons_of_mem _ (ih h ht))

theorem tokens_subset_memberTokens {key : Text} {value : Json} {members : List (Text × Json)}
    (h : (key, value) ∈ members) : value.tokens ⊆ memberTokens members := by
  induction members with
  | nil => contradiction
  | cons first members ih =>
      rcases List.mem_cons.mp h with rfl | h
      · rcases members with _ | ⟨next, members⟩ <;> intro t ht
        · exact List.mem_cons_of_mem _ (List.mem_cons_of_mem _ (List.mem_append_left _ ht))
        · exact List.mem_cons_of_mem _ (List.mem_cons_of_mem _ (List.mem_append_left _ ht))
      · obtain ⟨next, members, rfl⟩ := List.exists_cons_of_ne_nil (List.ne_nil_of_mem h)
        intro t ht
        rw [memberTokens_cons_cons]
        refine List.mem_cons_of_mem _ (List.mem_cons_of_mem _ (List.mem_append_right _ ?_))
        exact List.mem_cons_of_mem _ (ih h ht)

theorem forall_mem_itemTokens {P : Token → Prop} (hclose : P .closeBracket) (hcomma : P .comma)
    {items : List Json} (hitems : ∀ item ∈ items, ∀ t ∈ item.tokens, P t) :
    ∀ t ∈ itemTokens items, P t := by
  induction items with
  | nil => exact List.forall_mem_singleton.mpr hclose
  | cons item items ih =>
      obtain ⟨hitem, hitems⟩ := List.forall_mem_cons.mp hitems
      rcases items with _ | ⟨next, items⟩
      · exact List.forall_mem_append.mpr ⟨hitem, List.forall_mem_singleton.mpr hclose⟩
      · exact List.forall_mem_append.mpr ⟨hitem, List.forall_mem_cons.mpr ⟨hcomma, ih hitems⟩⟩

theorem forall_mem_memberTokens {P : Token → Prop} (hclose : P .closeBrace) (hcomma : P .comma)
    (hcolon : P .colon) {members : List (Text × Json)}
    (hmembers : ∀ m ∈ members, P (.string m.1) ∧ ∀ t ∈ m.2.tokens, P t) :
    ∀ t ∈ memberTokens members, P t := by
  induction members with
  | nil => exact List.forall_mem_singleton.mpr hclose
  | cons member members ih =>
      rcases member with ⟨key, value⟩
      obtain ⟨⟨hkey, hvalue⟩, hmembers⟩ := List.forall_mem_cons.mp hmembers
      rcases members with _ | ⟨next, members⟩
      · have hrest := List.forall_mem_append.mpr ⟨hvalue, List.forall_mem_singleton.mpr hclose⟩
        exact List.forall_mem_cons.mpr ⟨hkey, List.forall_mem_cons.mpr ⟨hcolon, hrest⟩⟩
      · have hrest :=
          List.forall_mem_append.mpr ⟨hvalue, List.forall_mem_cons.mpr ⟨hcomma, ih hmembers⟩⟩
        exact List.forall_mem_cons.mpr ⟨hkey, List.forall_mem_cons.mpr ⟨hcolon, hrest⟩⟩

theorem getLast?_itemTokens (items : List Json) :
    (itemTokens items).getLast? = some .closeBracket := by
  induction items with
  | nil => rfl
  | cons item items ih =>
      rcases items with _ | ⟨next, items⟩
      · exact List.getLast?_concat
      · rw [itemTokens_cons_cons, List.getLast?_append, List.getLast?_cons, ih]
        rfl

theorem getLast?_memberTokens (members : List (Text × Json)) :
    (memberTokens members).getLast? = some .closeBrace := by
  induction members with
  | nil => rfl
  | cons member members ih =>
      rcases member with ⟨key, value⟩
      rcases members with _ | ⟨next, members⟩
      · have htokens : memberTokens [(key, value)] =
            (.string key :: .colon :: value.tokens) ++ [.closeBrace] := rfl
        rw [htokens, List.getLast?_concat]
      · have htokens : memberTokens ((key, value) :: next :: members) =
            (.string key :: .colon :: (value.tokens ++ [.comma])) ++
              memberTokens (next :: members) := by
          simp [memberTokens_cons_cons]
        rw [htokens, List.getLast?_append, ih]
        rfl

/-! ### Reading tokens -/

/-- A value does not start with a closing bracket. -/
theorem tokens_eq_cons (j : Json) : ∃ t rest, j.tokens = t :: rest ∧ t ≠ .closeBracket := by
  cases j with
  | null => exact ⟨.null, [], rfl, nofun⟩
  | bool b => exact ⟨.bool b, [], rfl, nofun⟩
  | number spelling => exact ⟨.number spelling, [], rfl, nofun⟩
  | string text => exact ⟨.string text, [], rfl, nofun⟩
  | array items => exact ⟨.openBracket, itemTokens items, rfl, nofun⟩
  | object members => exact ⟨.openBrace, memberTokens members, rfl, nofun⟩

theorem itemTokens_eq_cons (item : Json) (items : List Json) :
    ∃ t rest, itemTokens (item :: items) = t :: rest ∧ t ≠ .closeBracket := by
  obtain ⟨t, rest, htokens, ht⟩ := tokens_eq_cons item
  cases items <;> exact ⟨t, _, congrArg (· ++ _) htokens, ht⟩

theorem readValue_array {fuel : ℕ} {t : Token} (ht : t ≠ .closeBracket) (rest : List Token) :
    readValue (fuel + 1) (.openBracket :: t :: rest) =
      (readItems fuel (t :: rest)).map fun x => (array x.1, x.2) := by
  cases t with
  | closeBracket => contradiction
  | _ => rfl

/-- Values, items and members are read from their tokens, whatever comes after them. -/
structure ReadsBack (fuel : ℕ) : Prop where
  value : ∀ j rest, j.tokens.length ≤ fuel → readValue fuel (j.tokens ++ rest) = some (j, rest)
  items : ∀ item items rest, (itemTokens (item :: items)).length ≤ fuel →
    readItems fuel (itemTokens (item :: items) ++ rest) = some (item :: items, rest)
  members : ∀ member members rest, (memberTokens (member :: members)).length ≤ fuel →
    readMembers fuel (memberTokens (member :: members) ++ rest) = some (member :: members, rest)

theorem ReadsBack.value_succ {fuel : ℕ} (h : ReadsBack fuel) (j : Json) (rest : List Token)
    (hfuel : j.tokens.length ≤ fuel + 1) :
    readValue (fuel + 1) (j.tokens ++ rest) = some (j, rest) := by
  cases j with
  | array items =>
      rcases items with _ | ⟨item, items⟩
      · rfl
      · have hfuel' : (itemTokens (item :: items)).length ≤ fuel := Nat.le_of_succ_le_succ hfuel
        have hread := h.items item items rest hfuel'
        obtain ⟨t, more, htokens, ht⟩ := itemTokens_eq_cons item items
        rw [htokens, List.cons_append] at hread
        rw [tokens, htokens, List.cons_append, List.cons_append, readValue_array ht, hread]
        rfl
  | object members =>
      rcases members with _ | ⟨⟨key, value⟩, members⟩
      · rfl
      · have hfuel' : (memberTokens ((key, value) :: members)).length ≤ fuel :=
          Nat.le_of_succ_le_succ hfuel
        have hread := h.members (key, value) members rest hfuel'
        have hopen : readValue (fuel + 1) (tokens (object ((key, value) :: members)) ++ rest) =
            (readMembers fuel (memberTokens ((key, value) :: members) ++ rest)).map
              fun x => (object x.1, x.2) := by
          cases members <;> rfl
        rw [hopen, hread]
        rfl
  | _ => rfl

theorem ReadsBack.items_succ {fuel : ℕ} (h : ReadsBack fuel) (item : Json) (items : List Json)
    (rest : List Token) (hfuel : (itemTokens (item :: items)).length ≤ fuel + 1) :
    readItems (fuel + 1) (itemTokens (item :: items) ++ rest) = some (item :: items, rest) := by
  rcases items with _ | ⟨next, items⟩
  · rw [itemTokens, List.length_append, List.length_singleton] at hfuel
    rw [itemTokens, List.append_assoc, readItems, h.value item _ (by omega)]
    rfl
  · rw [itemTokens_cons_cons, List.length_append, List.length_cons] at hfuel
    have hvalue := h.value item (.comma :: (itemTokens (next :: items) ++ rest)) (by omega)
    have hitems := h.items next items rest (by omega)
    rw [itemTokens_cons_cons, List.append_assoc, List.cons_append, readItems, hvalue]
    simp only [Option.bind_eq_bind, Option.bind_some, hitems]
    rfl

theorem ReadsBack.members_succ {fuel : ℕ} (h : ReadsBack fuel) (member : Text × Json)
    (members : List (Text × Json)) (rest : List Token)
    (hfuel : (memberTokens (member :: members)).length ≤ fuel + 1) :
    readMembers (fuel + 1) (memberTokens (member :: members) ++ rest) =
      some (member :: members, rest) := by
  rcases member with ⟨key, value⟩
  rcases members with _ | ⟨next, members⟩
  · have htokens : memberTokens [(key, value)] =
        .string key :: .colon :: (value.tokens ++ [.closeBrace]) := rfl
    simp only [htokens, List.length_cons, List.length_append, List.length_nil] at hfuel
    have hvalue := h.value value (.closeBrace :: rest) (by omega)
    rw [htokens, List.cons_append, List.cons_append, List.append_assoc, List.singleton_append,
      readMembers, hvalue]
    rfl
  · simp only [memberTokens_cons_cons, List.length_cons, List.length_append] at hfuel
    have hvalue := h.value value (.comma :: (memberTokens (next :: members) ++ rest)) (by omega)
    have hmembers := h.members next members rest (by omega)
    rw [memberTokens_cons_cons, List.cons_append, List.cons_append, List.append_assoc,
      List.cons_append, readMembers, hvalue]
    simp only [Option.bind_eq_bind, Option.bind_some, hmembers]
    rfl

theorem readsBack (fuel : ℕ) : ReadsBack fuel := by
  induction fuel with
  | zero =>
      refine ⟨?_, ?_, ?_⟩
      · intro j rest h
        obtain ⟨t, more, htokens, -⟩ := tokens_eq_cons j
        rw [htokens] at h
        contradiction
      · intro item items rest h
        obtain ⟨t, more, htokens, -⟩ := itemTokens_eq_cons item items
        rw [htokens] at h
        contradiction
      · rintro ⟨key, value⟩ members rest h
        cases members <;> contradiction
  | succ fuel ih => exact ⟨ih.value_succ, ih.items_succ, ih.members_succ⟩

/-- Nothing is read but the tokens of a value, of items or of members. -/
structure ReadsTokens (fuel : ℕ) : Prop where
  value : ∀ {ts j rest}, readValue fuel ts = some (j, rest) → ts = j.tokens ++ rest
  items : ∀ {ts items rest}, readItems fuel ts = some (items, rest) →
    items ≠ [] ∧ ts = itemTokens items ++ rest
  members : ∀ {ts members rest}, readMembers fuel ts = some (members, rest) →
    members ≠ [] ∧ ts = memberTokens members ++ rest

theorem ReadsTokens.value_succ {fuel : ℕ} (h : ReadsTokens fuel) {ts : List Token} {j : Json}
    {rest : List Token} (hread : readValue (fuel + 1) ts = some (j, rest)) :
    ts = j.tokens ++ rest := by
  rw [readValue.eq_def] at hread
  dsimp only at hread
  split at hread
  · cases hread
    rfl
  · cases hread
    rfl
  · cases hread
    rfl
  · cases hread
    rfl
  · cases hread
    rfl
  · obtain ⟨⟨items, rest⟩, hitems, heq⟩ := Option.map_eq_some_iff.mp hread
    cases heq
    exact congrArg _ (h.items hitems).2
  · cases hread
    rfl
  · obtain ⟨⟨members, rest⟩, hmembers, heq⟩ := Option.map_eq_some_iff.mp hread
    cases heq
    exact congrArg _ (h.members hmembers).2
  · contradiction

theorem ReadsTokens.items_succ {fuel : ℕ} (h : ReadsTokens fuel) {ts : List Token}
    {items : List Json} {rest : List Token}
    (hread : readItems (fuel + 1) ts = some (items, rest)) :
    items ≠ [] ∧ ts = itemTokens items ++ rest := by
  rw [readItems] at hread
  obtain ⟨⟨item, after⟩, hitem, hafter⟩ := Option.bind_eq_some_iff.mp hread
  clear hread
  obtain rfl := h.value hitem
  dsimp only at hafter
  split at hafter
  · cases hafter
    exact ⟨List.cons_ne_nil _ _, by rw [itemTokens, List.append_assoc]; rfl⟩
  · obtain ⟨⟨items, rest⟩, hitems, heq⟩ := Option.bind_eq_some_iff.mp hafter
    cases heq
    obtain ⟨hne, rfl⟩ := h.items hitems
    obtain ⟨next, items, rfl⟩ := List.exists_cons_of_ne_nil hne
    exact ⟨List.cons_ne_nil _ _, by rw [itemTokens_cons_cons, List.append_assoc]; rfl⟩
  · contradiction

theorem ReadsTokens.members_succ {fuel : ℕ} (h : ReadsTokens fuel) {ts : List Token}
    {members : List (Text × Json)} {rest : List Token}
    (hread : readMembers (fuel + 1) ts = some (members, rest)) :
    members ≠ [] ∧ ts = memberTokens members ++ rest := by
  rw [readMembers.eq_def] at hread
  dsimp only at hread
  split at hread
  · rename_i key ts
    obtain ⟨⟨value, after⟩, hvalue, hafter⟩ := Option.bind_eq_some_iff.mp hread
    clear hread
    obtain rfl := h.value hvalue
    dsimp only at hafter
    split at hafter
    · cases hafter
      refine ⟨List.cons_ne_nil _ _, ?_⟩
      have htokens : memberTokens [(key, value)] =
          .string key :: .colon :: (value.tokens ++ [.closeBrace]) := rfl
      rw [htokens, List.cons_append, List.cons_append, List.append_assoc]
      rfl
    · obtain ⟨⟨members, rest⟩, hmembers, heq⟩ := Option.bind_eq_some_iff.mp hafter
      cases heq
      obtain ⟨hne, rfl⟩ := h.members hmembers
      obtain ⟨next, members, rfl⟩ := List.exists_cons_of_ne_nil hne
      refine ⟨List.cons_ne_nil _ _, ?_⟩
      rw [memberTokens_cons_cons, List.cons_append, List.cons_append, List.append_assoc]
      rfl
    · contradiction
  · contradiction

theorem readsTokens (fuel : ℕ) : ReadsTokens fuel := by
  induction fuel with
  | zero => exact ⟨nofun, nofun, nofun⟩
  | succ fuel ih => exact ⟨ih.value_succ, ih.items_succ, ih.members_succ⟩

/-- A value is read from tokens if they are its own, and only then. -/
theorem ofTokens?_eq_some_iff {ts : List Token} {j : Json} :
    ofTokens? ts = some j ↔ ts = j.tokens := by
  constructor
  · intro h
    unfold ofTokens? at h
    split at h
    · rename_i value hread
      cases h
      simpa using (readsTokens _).value hread
    · contradiction
  · rintro rfl
    have hread := (readsBack j.tokens.length).value j [] le_rfl
    rw [List.append_nil] at hread
    rw [ofTokens?, hread]

/-- The tokens of a value do not go on as those of another one. -/
theorem tokens_append_eq {j j' : Json} {more : List Token} (h : j.tokens ++ more = j'.tokens) :
    j = j' ∧ more = [] := by
  have hlength : j.tokens.length ≤ j'.tokens.length := by
    rw [← h, List.length_append]
    exact Nat.le_add_right _ _
  have hread := (readsBack j'.tokens.length).value j more hlength
  have hread' := (readsBack j'.tokens.length).value j' [] le_rfl
  rw [List.append_nil] at hread'
  rw [h, hread'] at hread
  cases hread
  exact ⟨rfl, rfl⟩

/-! ### Reading text -/

theorem separate_cons {t : Token} {ts : List Token} (ht : t.isNumber = false)
    (hts : Token.Separate ts) : Token.Separate (t :: ts) := by
  refine List.isChain_cons.mpr ⟨fun _ _ hnumber => ?_, hts⟩
  rw [ht] at hnumber
  contradiction

theorem separate_append {ts more : List Token} {t : Token} (hts : Token.Separate ts)
    (ht : t.isNumber = false) (hmore : Token.Separate more) :
    Token.Separate (ts ++ t :: more) := by
  refine List.isChain_append.mpr ⟨hts, separate_cons ht hmore, fun _ _ u hu _ => ?_⟩
  cases hu
  exact ht

mutual

/-- In a value, no number comes right after a number. -/
theorem separate_tokens : ∀ j : Json, Token.Separate j.tokens
  | null => List.isChain_singleton _
  | bool _ => List.isChain_singleton _
  | number _ => List.isChain_singleton _
  | string _ => List.isChain_singleton _
  | array items => separate_cons rfl (separate_itemTokens items)
  | object members => separate_cons rfl (separate_memberTokens members)

theorem separate_itemTokens : ∀ items : List Json, Token.Separate (itemTokens items)
  | [] => List.isChain_singleton _
  | [item] => separate_append (separate_tokens item) rfl .nil
  | item :: next :: items =>
      separate_append (separate_tokens item) rfl (separate_itemTokens (next :: items))

theorem separate_memberTokens :
    ∀ members : List (Text × Json), Token.Separate (memberTokens members)
  | [] => List.isChain_singleton _
  | [(_, value)] =>
      separate_cons rfl (separate_cons rfl (separate_append (separate_tokens value) rfl .nil))
  | (_, value) :: next :: members =>
      separate_cons rfl (separate_cons rfl
        (separate_append (separate_tokens value) rfl (separate_memberTokens (next :: members))))

end

/-- **A text is read as the value that it spells**, and as none if it spells none. -/
theorem parse?_eq_some_iff {text : List Char} {j : Json} :
    parse? text = some j ↔ j.Spells text := by
  constructor
  · intro h
    obtain ⟨ts, hscan, hread⟩ := Option.bind_eq_some_iff.mp h
    obtain rfl := ofTokens?_eq_some_iff.mp hread
    exact Token.lexed_of_scan? hscan
  · intro h
    have hscan : Token.scan? text = some j.tokens := Token.Lexed.scan? h (separate_tokens j)
    rw [parse?, hscan, Option.bind_some]
    exact ofTokens?_eq_some_iff.mpr rfl

/-- A value that consists of tokens as they are written spells what is written. -/
theorem spells_render {j : Json} (h : ∀ t ∈ j.tokens, t.Spells t.spell) : j.Spells j.render :=
  Token.lexed_flatMap_spell h

/-- A text spells one value at most. -/
theorem Spells.unique {j j' : Json} {text : List Char} (h : j.Spells text) (h' : j'.Spells text) :
    j = j' := by
  rw [← parse?_eq_some_iff] at h h'
  rw [h] at h'
  exact Option.some.inj h'

/-- Only blanks may come after a value that does not end in a number. -/
theorem Spells.trailing {j j' : Json} {text extra : List Char} (h : j.Spells text)
    (hlast : ∀ t ∈ j.tokens.getLast?, t.isNumber = false) (h' : j'.Spells (text ++ extra)) :
    Token.Blanks extra := by
  have hextra : ∀ t ∈ j.tokens.getLast?, t.isNumber = true → extra = [] := by
    intro t ht hnumber
    rw [hlast t ht] at hnumber
    contradiction
  have happend : Token.scan? (text ++ extra) = (Token.scan? extra).map (j.tokens ++ ·) :=
    Token.Lexed.scan?_append h (separate_tokens j) hextra
  rw [Token.Lexed.scan? h' (separate_tokens j'), eq_comm, Option.map_eq_some_iff] at happend
  obtain ⟨more, hmore, htokens⟩ := happend
  obtain ⟨-, rfl⟩ := tokens_append_eq htokens
  cases Token.lexed_of_scan? hmore with
  | blanks hblanks => exact hblanks

end Demux.Json
