import Mathlib
import Demux.Json
import Demux.Proofs.Trees

/-!
# How a record is presented

A record has fields, and each of them says what may stand in its place (`Json.Field`).  It is presented
by an array of exactly its fields, or by an object that gives under the name of each field what the
field admits (`Json.Record`).  The members of such an object come in any order and among others
(`Record.perm`), and a record that is written is such an object (`record_ofFields`).

The fields of a record are read from everything that presents it, and from nothing else
(`record_iff`).
-/

namespace Demux.Json

/-- A field of a record. -/
structure Field where
  name : String
  /-- What may stand in its place; nothing stands in the place of a field that is left out. -/
  Admits : Option Json → Prop

/-- A field that has to be given. -/
def Field.required (name : String) (P : Json → Prop) : Field :=
  ⟨name, fun value => ∃ j ∈ value, P j⟩

/-- Members give a value under a name once, or not at all. -/
def Gives (members : List (List Char × Json)) (name : String) (value : Option Json) : Prop :=
  (members.filter (·.1 = name.toList)).map (·.2) = value.toList

/-- The values that present a record: an array of its fields in order, or an object whose keys are
texts. -/
def Record (fields : List Field) : Json → Prop
  | array items => List.Forall₂ (fun field item => field.Admits (some item)) fields items
  | object members => ∃ named : List (List Char × Json),
      members = named.map (fun m => (some m.1, m.2)) ∧
        ∀ field ∈ fields, ∃ value, field.Admits value ∧ Gives named field.name value
  | _ => False

/-! ### Presenting -/

/-- The order of members does not matter, nor do members under other names. -/
theorem Gives.perm {members members' unknown : List (List Char × Json)} {name : String}
    {value : Option Json} (h : Gives members name value)
    (hperm : members'.Perm (members ++ unknown)) (hunknown : ∀ m ∈ unknown, m.1 ≠ name.toList) :
    Gives members' name value := by
  have hnone : unknown.filter (·.1 = name.toList) = [] := by
    rw [List.filter_eq_nil_iff]
    intro m hm
    simpa using hunknown m hm
  have hfilter : ((members'.filter (·.1 = name.toList)).map (·.2)).Perm value.toList := by
    rw [← show _ = value.toList from h, ← List.append_nil (members.filter _), ← hnone,
      ← List.filter_append]
    exact (hperm.filter _).map _
  cases value with
  | none => exact hfilter.eq_nil
  | some j => exact hfilter.eq_singleton

/-- The order of the members of an object does not matter, nor do members that are no fields. -/
theorem Record.perm {fields : List Field} {members members' : List (List Char × Json)}
    (unknown : List (List Char × Json))
    (h : Record fields (.object (members.map fun m => (some m.1, m.2))))
    (hperm : members'.Perm (members ++ unknown))
    (hunknown : ∀ field ∈ fields, ∀ m ∈ unknown, m.1 ≠ field.name.toList) :
    Record fields (.object (members'.map fun m => (some m.1, m.2))) := by
  obtain ⟨named, hnamed, hgives⟩ := h
  have hinjective : Function.Injective fun m : List Char × Json => (some m.1, m.2) := by
    rintro ⟨key, value⟩ ⟨key', value'⟩ heq
    simpa using heq
  obtain rfl := hinjective.list_map hnamed
  refine ⟨members', rfl, fun field hfield => ?_⟩
  obtain ⟨value, hadmits, hvalue⟩ := hgives field hfield
  exact ⟨value, hadmits, hvalue.perm hperm (hunknown field hfield)⟩

/-- Under different names every value is given where it stands. -/
theorem gives_zip {fields : List Field} {values : List Json}
    (hnames : (fields.map Field.name).Nodup)
    (hvalues : List.Forall₂ (fun field value => field.Admits (some value)) fields values) :
    ∀ field ∈ fields, ∃ value, field.Admits value ∧
      Gives ((fields.zip values).map fun m => (m.1.name.toList, m.2)) field.name value := by
  induction hvalues with
  | nil => exact nofun
  | @cons first value fields values hadmits hvalues ih =>
      rw [List.map_cons, List.nodup_cons] at hnames
      obtain ⟨hfirst, hnames⟩ := hnames
      have hne {field : Field} (hfield : field ∈ fields) :
          first.name.toList ≠ field.name.toList := fun heq =>
        hfirst (String.toList_injective heq ▸ List.mem_map_of_mem hfield)
      rw [List.zip_cons_cons, List.map_cons]
      refine List.forall_mem_cons.mpr ⟨⟨some value, hadmits, ?_⟩, fun field hfield => ?_⟩
      · have hrest : ((fields.zip values).map fun m => (m.1.name.toList, m.2)).filter
            (·.1 = first.name.toList) = [] := by
          simp only [List.filter_eq_nil_iff, List.forall_mem_map, decide_eq_true_eq]
          intro m hm
          exact (hne (List.of_mem_zip hm).1).symm
        rw [Gives, List.filter_cons_of_pos (by simp), hrest]
        rfl
      · obtain ⟨value', hadmits', hgives⟩ := ih hnames field hfield
        refine ⟨value', hadmits', ?_⟩
        rw [Gives, List.filter_cons_of_neg (by simpa using hne hfield)]
        exact hgives

/-- A record is presented by what is written for it. -/
theorem record_ofFields {fields : List Field} (values : List Json)
    (hnames : (fields.map Field.name).Nodup)
    (hvalues : List.Forall₂ (fun field value => field.Admits (some value)) fields values) :
    Record fields (ofFields ((fields.zip values).map fun m => (m.1.name, m.2))) := by
  refine ⟨_, ?_, gives_zip hnames hvalues⟩
  rw [List.map_map, List.map_map]
  rfl

/-- A record is written as tokens that are spelled if its fields are. -/
theorem spells_of_mem_tokens_ofFields {fields : List (String × Json)}
    (h : ∀ field ∈ fields, ∀ t ∈ field.2.tokens, t.Spells t.spell) :
    ∀ t ∈ (ofFields fields).tokens, t.Spells t.spell := by
  refine List.forall_mem_cons.mpr ⟨.openBrace, ?_⟩
  refine forall_mem_memberTokens .closeBrace .comma .colon ?_
  exact List.forall_mem_map.mpr fun field hfield =>
    ⟨.string (Quoted.spells_escape field.1.toList), h field hfield⟩

/-- A record ends in a closing bracket or brace. -/
theorem Record.last_not_number {fields : List Field} {j : Json} (h : Record fields j) :
    ∀ t ∈ j.tokens.getLast?, t.isNumber = false := by
  cases j with
  | array items =>
      rw [tokens, List.getLast?_cons, getLast?_itemTokens]
      rintro t ⟨⟩
      rfl
  | object members =>
      rw [tokens, List.getLast?_cons, getLast?_memberTokens]
      rintro t ⟨⟩
      rfl
  | _ => exact h.elim

/-! ### Reading -/

/-- Reading a list succeeds if reading each of its members does. -/
theorem mapM_eq_some_iff {α β : Type} {f : α → Option β} {xs : List α} {ys : List β} :
    xs.mapM f = some ys ↔ List.Forall₂ (fun x y => f x = some y) xs ys := by
  induction xs generalizing ys with
  | nil => cases ys <;> simp
  | cons x xs ih =>
      rw [List.mapM_cons]
      rcases hx : f x with _ | y
      · cases ys <;> simp [hx]
      · rcases hxs : xs.mapM f with _ | ys'
        · cases ys <;> simp [← ih, hx, hxs]
        · cases ys <;> simp [← ih, hx, hxs]

theorem forall₂_and {α β : Type} {R S : α → β → Prop} {xs : List α} {ys : List β}
    (hR : List.Forall₂ R xs ys) (hS : List.Forall₂ S xs ys) :
    List.Forall₂ (fun x y => R x y ∧ S x y) xs ys := by
  induction hR with
  | nil => exact .nil
  | cons hx _ ih =>
      obtain ⟨hx', hxs⟩ := List.forall₂_cons.mp hS
      exact .cons ⟨hx, hx'⟩ (ih hxs)

theorem Forall₂.exists_right {α β : Type} {R : α → β → Prop} {xs : List α} {ys : List β}
    (h : List.Forall₂ R xs ys) : ∀ x ∈ xs, ∃ y ∈ ys, R x y := by
  induction h with
  | nil => exact nofun
  | cons hx _ ih =>
      refine List.forall_mem_cons.mpr ⟨⟨_, List.mem_cons_self, hx⟩, fun x hx => ?_⟩
      obtain ⟨y, hy, hR⟩ := ih x hx
      exact ⟨y, List.mem_cons_of_mem _ hy, hR⟩

theorem exists_forall₂ {α β : Type} {R : α → β → Prop} {xs : List α} (h : ∀ x ∈ xs, ∃ y, R x y) :
    ∃ ys, List.Forall₂ R xs ys := by
  induction xs with
  | nil => exact ⟨[], .nil⟩
  | cons x xs ih =>
      obtain ⟨⟨y, hy⟩, hxs⟩ := List.forall_mem_cons.mp h
      obtain ⟨ys, hys⟩ := ih hxs
      exact ⟨y :: ys, .cons hy hys⟩

/-- The fields of an array are its items. -/
theorem fields?_array {names : List String} {items : List Json} {values : List (Option Json)} :
    fields? names (array items) = some values ↔
      items.length = names.length ∧ values = items.map some := by
  rw [fields?]
  split
  · rename_i hlength
    simp [hlength, eq_comm]
  · rename_i hlength
    simp [hlength]

/-- The fields of an object are what its members give, if its keys are texts. -/
theorem fields?_object {names : List String} {members : List (Text × Json)}
    {values : List (Option Json)} :
    fields? names (object members) = some values ↔
      ∃ named : List (List Char × Json), members = named.map (fun m => (some m.1, m.2)) ∧
        List.Forall₂ (Gives named) names values := by
  have hkeys (named : List (List Char × Json)) :
      (members.mapM fun m => m.1.map (·, m.2)) = some named ↔
        members = named.map fun m => (some m.1, m.2) := by
    rw [mapM_eq_some_iff]
    constructor
    · intro h
      induction h with
      | nil => rfl
      | @cons m m' members named hm _ ih =>
          obtain ⟨key, hkey, rfl⟩ := Option.map_eq_some_iff.mp hm
          rw [List.map_cons, ← ih, ← hkey]
    · rintro rfl
      rw [List.forall₂_map_left_iff]
      exact List.forall₂_same.mpr fun m _ => rfl
  rw [fields?, Option.bind_eq_bind, Option.bind_eq_some_iff]
  refine exists_congr fun named => and_congr (hkeys named) ?_
  rw [mapM_eq_some_iff]
  refine iff_of_eq (congrArg (List.Forall₂ · names values) (funext₂ fun name value => propext ?_))
  rw [Gives]
  generalize named.filter (·.1 = name.toList) = found
  rcases found with _ | ⟨m, _ | ⟨m', found⟩⟩ <;> cases value <;> simp

/-- The fields that are read are parts of the value they are read from. -/
theorem tokens_subset_of_fields? {names : List String} {j value : Json}
    {values : List (Option Json)} (h : j.fields? names = some values)
    (hvalue : some value ∈ values) : value.tokens ⊆ j.tokens := by
  cases j with
  | array items =>
      obtain ⟨-, rfl⟩ := fields?_array.mp h
      obtain ⟨item, hitem, hsome⟩ := List.mem_map.mp hvalue
      cases hsome
      exact List.subset_cons_of_subset _ (tokens_subset_itemTokens hitem)
  | object members =>
      obtain ⟨named, rfl, hgives⟩ := fields?_object.mp h
      obtain ⟨name, -, hname⟩ := Forall₂.exists_right hgives.flip (some value) hvalue
      have hfound : value ∈ (named.filter (·.1 = name.toList)).map (·.2) := by
        rw [show _ = (some value).toList from hname]
        exact List.mem_singleton_self value
      obtain ⟨⟨key, value⟩, hmember, rfl⟩ := List.mem_map.mp hfound
      have hnamed : (key, value) ∈ named := List.mem_of_mem_filter hmember
      exact List.subset_cons_of_subset _
        (tokens_subset_memberTokens (List.mem_map_of_mem (f := fun m => (some m.1, m.2)) hnamed))
  | _ => contradiction

/-- **The fields of a record are read from what presents it**, and only then are they what the record
admits. -/
theorem record_iff {fields : List Field} {j : Json} :
    Record fields j ↔ ∃ values, j.fields? (fields.map Field.name) = some values ∧
      List.Forall₂ (fun field value => field.Admits value) fields values := by
  cases j with
  | array items =>
      simp only [fields?_array, List.length_map]
      constructor
      · intro h
        exact ⟨_, ⟨h.length_eq.symm, rfl⟩, List.forall₂_map_right_iff.mpr h⟩
      · rintro ⟨values, ⟨-, rfl⟩, hvalues⟩
        exact List.forall₂_map_right_iff.mp hvalues
  | object members =>
      simp only [fields?_object, List.forall₂_map_left_iff]
      constructor
      · rintro ⟨named, rfl, hfields⟩
        obtain ⟨values, hvalues⟩ := exists_forall₂ hfields
        exact ⟨values, ⟨named, rfl, hvalues.imp fun _ _ h => h.2⟩, hvalues.imp fun _ _ h => h.1⟩
      · rintro ⟨values, ⟨named, rfl, hgives⟩, hadmits⟩
        refine ⟨named, rfl, fun field hfield => ?_⟩
        obtain ⟨value, -, hvalue⟩ := Forall₂.exists_right (forall₂_and hadmits hgives) field hfield
        exact ⟨value, hvalue⟩
  | _ =>
    constructor
    · exact False.elim
    · rintro ⟨values, hvalues, -⟩
      contradiction

end Demux.Json
