import Mathlib
import Demux.Stats.Telemetry
import Demux.Proofs.Records

/-!
# How statistics are presented

Statistics have many presentations as JSON: each of their records may be an array or an object, with
members in any order and among others, and the identifier of the default route may be left out
(`Stats.Presented`).  A text is read as the statistics that it presents, and as none if it presents none
(`Stats.decode?_eq_some_iff`).  What is written for statistics is one of their presentations
(`Stats.presented_toJson`), so it is read as the same statistics (`Stats.decode?_encode`).
-/

namespace Demux

/-- Every token of a value can be written. -/
def Json.Spellable (j : Json) : Prop := ∀ t ∈ j.tokens, ∃ word, t.Spells word

/-- The values that present drop counters: their tallies in plain decimal. -/
def DropCounters.Presented (c : DropCounters) : Json → Prop :=
  Json.Record [
    .required "dropped" (· = c.dropped.toJson),
    .required "partial" (· = c.partials.toJson),
    .required "overflowed_bytes" (· = c.overflow.toJson)]

/-- The values that present global counters. -/
def GlobalCounters.Presented (g : GlobalCounters) : Json → Prop :=
  Json.Record [
    .required "drops" g.drops.Presented,
    .required "unmatched" (· = g.unmatched.toJson)]

/-- What may stand for the identifier of a route; the default route has none. -/
def ListenerStats.IdPresented : Option String → Option Json → Prop
  | none, value => value = none ∨ value = some .null
  | some id, value => value = some (.string (some id.toList))

/-- The values that present the counters of a route. -/
def ListenerStats.Presented (l : ListenerStats) : Json → Prop :=
  Json.Record [
    ⟨"id", IdPresented l.id⟩,
    .required "drop_partial" (· = .bool l.dropPartial),
    .required "counters" l.counters.Presented]

/-- The values that present statistics. -/
def Stats.Presented (s : Stats) : Json → Prop :=
  Json.Record [
    .required "global" s.global.Presented,
    .required "listeners" fun j =>
      ∃ items, j = .array items ∧ List.Forall₂ ListenerStats.Presented s.listeners items]

/-! ### Reading presentations -/

namespace Json

theorem Spells.spellable {j : Json} {text : List Char} (h : j.Spells text) : j.Spellable :=
  Token.Lexed.exists_spells h

theorem Spellable.field {names : List String} {j value : Json} {values : List (Option Json)}
    (h : j.Spellable) (hfields : j.fields? names = some values) (hvalue : some value ∈ values) :
    value.Spellable :=
  fun t ht => h t (tokens_subset_of_fields? hfields hvalue ht)

theorem Spellable.item {items : List Json} {item : Json} (h : (array items).Spellable)
    (hitem : item ∈ items) : item.Spellable :=
  fun t ht => h t (List.mem_cons_of_mem _ (tokens_subset_itemTokens hitem ht))

/-- A record is what its fields are read from, if they are read from what they admit. -/
theorem Spellable.record_iff {fields : List Field} {j : Json} (hj : j.Spellable) {α : Type}
    {read : List (Option Json) → Option α} {a : α}
    (hread : ∀ values, (∀ value, some value ∈ values → value.Spellable) →
      (read values = some a ↔ List.Forall₂ (fun field value => field.Admits value) fields values)) :
    Record fields j ↔ (j.fields? (fields.map Field.name)).bind read = some a := by
  rw [Json.record_iff, Option.bind_eq_some_iff]
  refine exists_congr fun values => and_congr_right fun hfields => ?_
  exact (hread values fun value hvalue => hj.field hfields hvalue).symm

theorem toBool?_eq_some_iff {j : Json} {b : Bool} : j.toBool? = some b ↔ j = .bool b := by
  cases j <;> simp [toBool?]

end Json

theorem Tally.ofNat?_eq_some_iff {n : ℕ} {t : Tally} : ofNat? n = some t ↔ t.val = n := by
  constructor
  · intro h
    obtain ⟨hle, hsome⟩ := Option.dite_none_right_eq_some.mp h
    cases hsome
    rfl
  · rintro rfl
    exact dif_pos t.val_le

/-- A tally is read from its numeral in plain decimal, and from nothing else. -/
theorem Tally.ofJson?_eq_some_iff {j : Json} (hj : j.Spellable) {t : Tally} :
    ofJson? j = some t ↔ j = t.toJson := by
  constructor
  · intro h
    unfold ofJson? at h
    split at h
    · rename_i spelling
      obtain ⟨hdigits, hvalue⟩ := Option.ite_none_right_eq_some.mp h
      obtain ⟨word, hword⟩ := hj (.number spelling) (List.mem_singleton_self _)
      cases hword with
      | number hspelled =>
          rw [toJson, ofNat?_eq_some_iff.mp hvalue]
          exact congrArg Json.number (hspelled.eq_toDigits (List.all_eq_true.mp hdigits))
    · contradiction
  · rintro rfl
    have hdigits : (Nat.toDigits 10 t.val).all Char.isDigit = true :=
      List.all_eq_true.mpr fun _ => Nat.isDigit_of_mem_toDigits (by decide) (by decide)
    rw [toJson, ofJson?, if_pos hdigits, Nat.ofDigitChars_ten_toDigits]
    exact ofNat?_eq_some_iff.mpr rfl

/-- Drop counters are read from their presentations, and from nothing else. -/
theorem DropCounters.ofJson?_eq_some_iff {j : Json} (hj : j.Spellable) {c : DropCounters} :
    ofJson? j = some c ↔ c.Presented j := by
  rw [iff_comm]
  refine hj.record_iff fun values hvalue => ?_
  constructor
  · intro h
    split at h
    · simp only [Option.bind_eq_bind, Option.bind_eq_some_iff, Option.pure_def] at h
      obtain ⟨dropped, hdropped, partials, hpartials, overflow, hoverflow, h⟩ := h
      cases h
      rw [Tally.ofJson?_eq_some_iff (hvalue _ (by simp))] at hdropped hpartials hoverflow
      exact .cons ⟨_, rfl, hdropped⟩ (.cons ⟨_, rfl, hpartials⟩ (.cons ⟨_, rfl, hoverflow⟩ .nil))
    · contradiction
  · rintro (_ | ⟨⟨dropped, rfl, hdropped⟩, _ | ⟨⟨partials, rfl, hpartials⟩,
      _ | ⟨⟨overflow, rfl, hoverflow⟩, _ | _⟩⟩⟩)
    rw [← Tally.ofJson?_eq_some_iff (hvalue _ (by simp))] at hdropped hpartials hoverflow
    simp [hdropped, hpartials, hoverflow]

theorem GlobalCounters.ofJson?_eq_some_iff {j : Json} (hj : j.Spellable) {g : GlobalCounters} :
    ofJson? j = some g ↔ g.Presented j := by
  rw [iff_comm]
  refine hj.record_iff fun values hvalue => ?_
  constructor
  · intro h
    split at h
    · simp only [Option.bind_eq_bind, Option.bind_eq_some_iff, Option.pure_def] at h
      obtain ⟨drops, hdrops, unmatched, hunmatched, h⟩ := h
      cases h
      rw [DropCounters.ofJson?_eq_some_iff (hvalue _ (by simp))] at hdrops
      rw [Tally.ofJson?_eq_some_iff (hvalue _ (by simp))] at hunmatched
      exact .cons ⟨_, rfl, hdrops⟩ (.cons ⟨_, rfl, hunmatched⟩ .nil)
    · contradiction
  · rintro (_ | ⟨⟨drops, rfl, hdrops⟩, _ | ⟨⟨unmatched, rfl, hunmatched⟩, _ | _⟩⟩)
    rw [← DropCounters.ofJson?_eq_some_iff (hvalue _ (by simp))] at hdrops
    rw [← Tally.ofJson?_eq_some_iff (hvalue _ (by simp))] at hunmatched
    simp [hdrops, hunmatched]

namespace ListenerStats

theorem idOfJson?_eq_some_iff {value : Option Json} {id : Option String} :
    idOfJson? value = some id ↔ IdPresented id value := by
  constructor
  · intro h
    unfold idOfJson? at h
    split at h
    · cases h
      exact .inl rfl
    · cases h
      exact .inr rfl
    · cases h
      exact congrArg (fun text => some (Json.string (some text))) String.toList_ofList.symm
    · contradiction
  · cases id with
    | none =>
        rintro (rfl | rfl) <;> rfl
    | some id =>
        rintro rfl
        exact congrArg (fun text => some (some text)) String.ofList_toList

theorem ofJson?_eq_some_iff {j : Json} (hj : j.Spellable) {l : ListenerStats} :
    ofJson? j = some l ↔ l.Presented j := by
  rw [iff_comm]
  refine hj.record_iff fun values hvalue => ?_
  constructor
  · intro h
    split at h
    · simp only [Option.bind_eq_bind, Option.bind_eq_some_iff, Option.pure_def] at h
      obtain ⟨id, hid, dropPartial, hdropPartial, counters, hcounters, h⟩ := h
      cases h
      rw [idOfJson?_eq_some_iff] at hid
      rw [Json.toBool?_eq_some_iff] at hdropPartial
      rw [DropCounters.ofJson?_eq_some_iff (hvalue _ (by simp))] at hcounters
      exact .cons hid (.cons ⟨_, rfl, hdropPartial⟩ (.cons ⟨_, rfl, hcounters⟩ .nil))
    · contradiction
  · rintro (_ | ⟨hid, _ | ⟨⟨dropPartial, rfl, hdropPartial⟩,
      _ | ⟨⟨counters, rfl, hcounters⟩, _ | _⟩⟩⟩)
    have hid := idOfJson?_eq_some_iff.mpr hid
    rw [← Json.toBool?_eq_some_iff] at hdropPartial
    rw [← DropCounters.ofJson?_eq_some_iff (hvalue _ (by simp))] at hcounters
    simp [hid, hdropPartial, hcounters]

theorem mapM_ofJson?_eq_some_iff {items : List Json} (hitems : ∀ item ∈ items, item.Spellable)
    {listeners : List ListenerStats} :
    items.mapM ofJson? = some listeners ↔ List.Forall₂ Presented listeners items := by
  rw [Json.mapM_eq_some_iff]
  induction items generalizing listeners with
  | nil => cases listeners <;> simp
  | cons item items ih =>
      obtain ⟨hitem, hitems⟩ := List.forall_mem_cons.mp hitems
      cases listeners <;> simp [ofJson?_eq_some_iff hitem, ih hitems]

end ListenerStats

namespace Stats

theorem ofJson?_eq_some_iff {j : Json} (hj : j.Spellable) {s : Stats} :
    ofJson? j = some s ↔ s.Presented j := by
  rw [iff_comm]
  refine hj.record_iff fun values hvalue => ?_
  have hitem {items : List Json} (hmem : some (.array items) ∈ values) :
      ∀ item ∈ items, item.Spellable := fun _ => (hvalue _ hmem).item
  constructor
  · intro h
    split at h
    · simp only [Option.bind_eq_bind, Option.bind_eq_some_iff, Option.pure_def] at h
      obtain ⟨global, hglobal, listeners, hitems, h⟩ := h
      cases h
      rw [GlobalCounters.ofJson?_eq_some_iff (hvalue _ (by simp))] at hglobal
      rw [ListenerStats.mapM_ofJson?_eq_some_iff (hitem (by simp))] at hitems
      exact .cons ⟨_, rfl, hglobal⟩ (.cons ⟨_, rfl, _, rfl, hitems⟩ .nil)
    · contradiction
  · rintro (_ | ⟨⟨global, rfl, hglobal⟩, _ | ⟨⟨_, rfl, items, rfl, hitems⟩, _ | _⟩⟩)
    rw [← GlobalCounters.ofJson?_eq_some_iff (hvalue _ (by simp))] at hglobal
    rw [← ListenerStats.mapM_ofJson?_eq_some_iff (hitem (by simp))] at hitems
    simp [hglobal, hitems]

/-- Statistics are read from the texts that spell one of their presentations. -/
theorem decode?_eq_some_iff {text : String} {s : Stats} :
    decode? text = some s ↔ ∃ j : Json, j.Spells text.toList ∧ s.Presented j := by
  rw [decode?, Option.bind_eq_some_iff]
  refine exists_congr fun j => ?_
  rw [Json.parse?_eq_some_iff]
  exact and_congr_right fun hspells => ofJson?_eq_some_iff hspells.spellable

end Stats

/-! ### Writing a presentation -/

/-- A value is written token by token. -/
def Json.Writable (j : Json) : Prop := ∀ t ∈ j.tokens, t.Spells t.spell

theorem Tally.writable_toJson (t : Tally) : t.toJson.Writable :=
  List.forall_mem_singleton.mpr (.number (Json.Number.spelled_toDigits t.val))

namespace DropCounters

theorem presented_toJson (c : DropCounters) : c.Presented c.toJson :=
  Json.record_ofFields [c.dropped.toJson, c.partials.toJson, c.overflow.toJson]
    (show ["dropped", "partial", "overflowed_bytes"].Nodup by decide)
    (.cons ⟨_, rfl, rfl⟩ (.cons ⟨_, rfl, rfl⟩ (.cons ⟨_, rfl, rfl⟩ .nil)))

theorem writable_toJson (c : DropCounters) : c.toJson.Writable := by
  refine Json.spells_of_mem_tokens_ofFields ?_
  simp only [List.forall_mem_cons, List.not_mem_nil, false_imp_iff, implies_true, and_true]
  exact ⟨c.dropped.writable_toJson, c.partials.writable_toJson, c.overflow.writable_toJson⟩

end DropCounters

namespace GlobalCounters

theorem presented_toJson (g : GlobalCounters) : g.Presented g.toJson :=
  Json.record_ofFields [g.drops.toJson, g.unmatched.toJson]
    (show ["drops", "unmatched"].Nodup by decide)
    (.cons ⟨_, rfl, g.drops.presented_toJson⟩ (.cons ⟨_, rfl, rfl⟩ .nil))

theorem writable_toJson (g : GlobalCounters) : g.toJson.Writable := by
  refine Json.spells_of_mem_tokens_ofFields ?_
  simp only [List.forall_mem_cons, List.not_mem_nil, false_imp_iff, implies_true, and_true]
  exact ⟨g.drops.writable_toJson, g.unmatched.writable_toJson⟩

end GlobalCounters

namespace ListenerStats

theorem idPresented_idToJson (id : Option String) : IdPresented id (some (idToJson id)) := by
  cases id with
  | none => exact .inr rfl
  | some id => rfl

theorem presented_toJson (l : ListenerStats) : l.Presented l.toJson :=
  Json.record_ofFields [idToJson l.id, .bool l.dropPartial, l.counters.toJson]
    (show ["id", "drop_partial", "counters"].Nodup by decide)
    (.cons (idPresented_idToJson l.id)
      (.cons ⟨_, rfl, rfl⟩ (.cons ⟨_, rfl, l.counters.presented_toJson⟩ .nil)))

theorem writable_idToJson (id : Option String) : (idToJson id).Writable := by
  cases id with
  | none => exact List.forall_mem_singleton.mpr .null
  | some id => exact List.forall_mem_singleton.mpr (.string (Json.Quoted.spells_escape id.toList))

theorem writable_toJson (l : ListenerStats) : l.toJson.Writable := by
  refine Json.spells_of_mem_tokens_ofFields ?_
  simp only [List.forall_mem_cons, List.not_mem_nil, false_imp_iff, implies_true, and_true]
  have hdropPartial : (Json.bool l.dropPartial).Writable := by
    refine List.forall_mem_singleton.mpr ?_
    cases l.dropPartial
    · exact .no
    · exact .yes
  exact ⟨writable_idToJson l.id, hdropPartial, l.counters.writable_toJson⟩

end ListenerStats

namespace Stats

theorem presented_toJson (s : Stats) : s.Presented s.toJson := by
  have hlisteners :
      List.Forall₂ ListenerStats.Presented s.listeners (s.listeners.map ListenerStats.toJson) :=
    List.forall₂_map_right_iff.mpr (List.forall₂_same.mpr fun l _ => l.presented_toJson)
  exact Json.record_ofFields
    [s.global.toJson, .array (s.listeners.map ListenerStats.toJson)]
    (show ["global", "listeners"].Nodup by decide)
    (.cons ⟨_, rfl, s.global.presented_toJson⟩ (.cons ⟨_, rfl, _, rfl, hlisteners⟩ .nil))

theorem writable_toJson (s : Stats) : s.toJson.Writable := by
  refine Json.spells_of_mem_tokens_ofFields ?_
  simp only [List.forall_mem_cons, List.not_mem_nil, false_imp_iff, implies_true, and_true]
  have hlisteners : (Json.array (s.listeners.map ListenerStats.toJson)).Writable := by
    refine List.forall_mem_cons.mpr ⟨.openBracket, ?_⟩
    refine Json.forall_mem_itemTokens .closeBracket .comma ?_
    exact List.forall_mem_map.mpr fun l _ => l.writable_toJson
  exact ⟨s.global.writable_toJson, hlisteners⟩

/-- What is written for statistics is read as the same statistics. -/
theorem decode?_encode (s : Stats) : decode? s.encode = some s := by
  refine decode?_eq_some_iff.mpr ⟨s.toJson, ?_, s.presented_toJson⟩
  rw [encode, String.toList_ofList]
  exact Json.spells_render s.writable_toJson

/-- **Statistics survive being written and read.**  What is written for them has no raw control
character, is read as the same statistics, and is written for no others. -/
theorem encode_round_trips (s : Stats) :
    (∀ c ∈ s.encode.toList, ' ' ≤ c) ∧ decode? s.encode = some s ∧
      ∀ s' : Stats, s'.encode = s.encode ↔ s' = s := by
  refine ⟨?_, s.decode?_encode, fun s' => ⟨fun h => ?_, congrArg encode⟩⟩
  · rw [encode, String.toList_ofList, Json.render]
    intro c hc
    obtain ⟨t, ht, hmem⟩ := List.mem_flatMap.mp hc
    exact Json.Token.blank_le_spell (s.writable_toJson t ht) c hmem
  · have hread : decode? s'.encode = some s' := s'.decode?_encode
    rw [h, s.decode?_encode] at hread
    exact (Option.some.inj hread).symm

/-! ### All presentations and no others -/

/-- **Every presentation is read**, whatever text spells it, and what is read does not depend on
it. -/
theorem reads_every_presentation {s : Stats} {j : Json} {text : String} (hpresented : s.Presented j)
    (hspells : j.Spells text.toList) : decode? text = some s :=
  decode?_eq_some_iff.mpr ⟨j, hspells, hpresented⟩

/-- Global counters with their members in another order and one that is no field. -/
def looseGlobal : Json := .object [
  (some "unmatched".toList, .number ['7']),
  (some ['x'], .array [.number ['1', 'e', '5']]),
  (some "drops".toList, .array [.number ['0'], .number ['0'], .number ['0']])]

/-- The default route, without its identifier. -/
def looseListener : Json := .object [
  (some "counters".toList, .array [.number ['0'], .number ['1'], .number ['2']]),
  (some "drop_partial".toList, .bool true)]

theorem presented_looseGlobal :
    GlobalCounters.Presented ⟨⟨.zero, .zero, .zero⟩, Tally.zero.add 7⟩ looseGlobal := by
  let unmatched : List Char × Json := ("unmatched".toList, .number ['7'])
  let drops : List Char × Json :=
    ("drops".toList, .array [.number ['0'], .number ['0'], .number ['0']])
  let unknown : List Char × Json := (['x'], .array [.number ['1', 'e', '5']])
  have hdrops : DropCounters.Presented ⟨.zero, .zero, .zero⟩ drops.2 :=
    .cons ⟨_, rfl, rfl⟩ (.cons ⟨_, rfl, rfl⟩ (.cons ⟨_, rfl, rfl⟩ .nil))
  have hfields : GlobalCounters.Presented ⟨⟨.zero, .zero, .zero⟩, Tally.zero.add 7⟩
      (.object ([drops, unmatched].map fun m => (some m.1, m.2))) :=
    Json.record_ofFields [drops.2, unmatched.2] (show ["drops", "unmatched"].Nodup by decide)
      (.cons ⟨_, rfl, hdrops⟩ (.cons ⟨_, rfl, rfl⟩ .nil))
  have hperm : [unmatched, unknown, drops].Perm ([drops, unmatched] ++ [unknown]) :=
    ((List.Perm.swap _ _ _).cons _).trans (List.Perm.swap _ _ _)
  exact Json.Record.perm [unknown] hfields hperm (by simp [Json.Field.required, unknown])

theorem presented_looseListener :
    ListenerStats.Presented ⟨none, true, ⟨.zero, Tally.zero.add 1, Tally.zero.add 2⟩⟩
      looseListener := by
  have hcounters : DropCounters.Presented ⟨.zero, Tally.zero.add 1, Tally.zero.add 2⟩
      (.array [.number ['0'], .number ['1'], .number ['2']]) :=
    .cons ⟨_, rfl, rfl⟩ (.cons ⟨_, rfl, rfl⟩ (.cons ⟨_, rfl, rfl⟩ .nil))
  refine ⟨[("counters".toList, _), ("drop_partial".toList, _)], rfl, ?_⟩
  simp only [List.forall_mem_cons, List.not_mem_nil, false_imp_iff, implies_true, and_true]
  exact ⟨⟨none, .inl rfl, rfl⟩, ⟨some _, ⟨_, rfl, rfl⟩, rfl⟩, ⟨some _, ⟨_, rfl, hcounters⟩, rfl⟩⟩

/-- Arrays and objects, an escape in a key, blanks in between. -/
theorem reads_loose_presentation :
    decode? " [\x7b\"\\u0075nmatched\":7,\"x\":[1e5],\"drops\":[0,0,0]\x7d,
      [\x7b\"counters\":[0,1,2],\"drop_partial\":true\x7d]]" =
    some ⟨⟨⟨.zero, .zero, .zero⟩, Tally.zero.add 7⟩,
      [⟨none, true, ⟨.zero, Tally.zero.add 1, Tally.zero.add 2⟩⟩]⟩ := by
  refine reads_every_presentation (j := .array [looseGlobal, .array [looseListener]]) ?_ ?_
  · exact .cons ⟨_, rfl, presented_looseGlobal⟩
      (.cons ⟨_, rfl, _, rfl, .cons presented_looseListener .nil⟩ .nil)
  · exact Json.parse?_eq_some_iff.mp (by cbv)

/-- **Nothing but presentations is read.**  A text that is read spells one value and no other, and it
presents the statistics that were read.  There is no byte order mark before it and nothing but blanks
may follow it. -/
theorem reads_only_presentations {s : Stats} {text : String} (h : decode? text = some s) :
    (∃ j : Json, (j.Spells text.toList ∧ s.Presented j) ∧
      ∀ j' : Json, j'.Spells text.toList → j' = j) ∧
    text.toList.head? ≠ some '\uFEFF' ∧
    ∀ extra : String, (decode? (text ++ extra)).isSome → Json.Token.Blanks extra.toList := by
  obtain ⟨j, hspells, hpresented⟩ := decode?_eq_some_iff.mp h
  refine ⟨⟨j, ⟨hspells, hpresented⟩, fun j' hspells' => hspells'.unique hspells⟩, ?_, ?_⟩
  · intro hmark
    have hscan := Json.Token.Lexed.scan? hspells (Json.separate_tokens j)
    rw [← List.cons_head?_tail hmark, Json.Token.scan?_byteOrderMark] at hscan
    contradiction
  · intro extra hextra
    obtain ⟨s', hs'⟩ := Option.isSome_iff_exists.mp hextra
    obtain ⟨j', hspells', -⟩ := decode?_eq_some_iff.mp hs'
    rw [String.toList_append] at hspells'
    exact hspells.trailing (Json.Record.last_not_number hpresented) hspells'

/-- A bracket too many is no presentation. -/
theorem rejects_surplus_bracket :
    decode? "[[[0,0,0],7],[]]" = some ⟨⟨⟨.zero, .zero, .zero⟩, Tally.zero.add 7⟩, []⟩ ∧
      decode? ("[[[0,0,0],7],[]]" ++ "]") = none := by
  have hread : decode? "[[[0,0,0],7],[]]" =
      some ⟨⟨⟨.zero, .zero, .zero⟩, Tally.zero.add 7⟩, []⟩ := by cbv
  refine ⟨hread, ?_⟩
  by_contra hne
  have hblanks : Json.Token.Blanks "]".toList :=
    (reads_only_presentations hread).2.2 "]" (Option.isSome_iff_ne_none.mpr hne)
  have hbracket := hblanks ']' (by decide)
  simp at hbracket

end Stats

end Demux
