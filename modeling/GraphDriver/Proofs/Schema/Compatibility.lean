import GraphDriver.Proofs.Schema.Messages
import Mathlib.Data.List.Perm.Basic

/-!
# Older and newer peers

A peer of another version writes a message differently: the entries of a record in another order,
entries for fields that the reader does not have, no entry for an option that is absent. Each such
difference is an edit at one place of the value that is written, at any depth; a value that is got
by any number of edits spells the same message, and is read as it, whichever way it is written down.

* §1 edits
* §2 the fields of a record
* §3 one edit
* §4 any number of edits
-/

namespace GraphDriver

open Pack (Value)

/-! ## §1  Edits -/

/-- The fields of a record, each with its schema and its stand-in. -/
def Fields.toList : Fields → List (String × Schema × Option Value)
  | .nil => []
  | .cons name s standIn rest => (name, s, standIn) :: rest.toList

/-- The variants of a choice that have content, each with the schema of its content. -/
def Variants.contents : Variants → List (String × Schema)
  | .nil => []
  | .unit _ rest => rest.contents
  | .value name s rest => (name, s) :: rest.contents
  | .fields name fs rest => (name, .record name fs) :: rest.contents

/-- `s.Edit depth v v'`: the second value is the first, nested at most `depth` deep, with one change
at one place. The entries of a record or a dictionary are put in another order, a record gets an
entry with a key that is none of its fields, or it loses the entry of an option that is absent. -/
inductive Schema.Edit : Schema → (depth : Nat) → Value → Value → Prop
  | reorder {name : String} {fs : Fields} {depth : Nat} {entries entries' : List (String × Value)}
      (hperm : entries.Perm entries') :
      Edit (.record name fs) (depth + 1) (mapOf entries) (mapOf entries')
  | extend {name : String} {fs : Fields} {depth : Nat} (before after : List (String × Value))
      (key : String) (v : Value) (hkey : key ∉ fs.names) (hnesting : v.nesting ≤ depth) :
      Edit (.record name fs) (depth + 1) (mapOf (before ++ after))
        (mapOf (before ++ (key, v) :: after))
  | thin {name : String} {fs : Fields} {depth : Nat} (before after : List (String × Value))
      (field : String) (s : Schema) (hfield : (field, .option s, none) ∈ fs.toList) :
      Edit (.record name fs) (depth + 1) (mapOf (before ++ (field, .nil) :: after))
        (mapOf (before ++ after))
  | field {name : String} {fs : Fields} {depth : Nat} (before after : List (String × Value))
      {field : String} {s : Schema} {standIn : Option Value} {v v' : Value}
      (hfield : (field, s, standIn) ∈ fs.toList) (hedit : Edit s depth v v') :
      Edit (.record name fs) (depth + 1) (mapOf (before ++ (field, v) :: after))
        (mapOf (before ++ (field, v') :: after))
  | content {vs : Variants} {depth : Nat} {name : String} {s : Schema} {v v' : Value}
      (hcontent : (name, s) ∈ vs.contents) (hedit : Edit s depth v v') :
      Edit (.choice vs) depth (mapOf [(name, v)]) (mapOf [(name, v')])
  | item {s : Schema} {depth : Nat} (before after : List Value) {v v' : Value}
      (hedit : Edit s depth v v') :
      Edit (.list s) (depth + 1) (.array (before ++ v :: after)) (.array (before ++ v' :: after))
  | shuffle {s : Schema} {depth : Nat} {entries entries' : List (String × Value)}
      (hperm : entries.Perm entries') :
      Edit (.dict s) (depth + 1) (mapOf entries) (mapOf entries')
  | entry {s : Schema} {depth : Nat} (before after : List (String × Value)) (key : String)
      {v v' : Value} (hedit : Edit s depth v v') :
      Edit (.dict s) (depth + 1) (mapOf (before ++ (key, v) :: after))
        (mapOf (before ++ (key, v') :: after))
  | option {s : Schema} {depth : Nat} {v v' : Value} (hedit : Edit s depth v v') :
      Edit (.option s) depth v v'
  | named {name : String} {s : Schema} {depth : Nat} {v v' : Value} (hedit : Edit s depth v v') :
      Edit (.named name s) depth v v'

theorem mapOf_inj {entries entries' : List (String × Value)} :
    mapOf entries = mapOf entries' ↔ entries = entries' := by
  have hinj : Function.Injective fun e : String × Value => (Value.ofString e.1, e.2) := by
    rintro ⟨key, v⟩ ⟨key', v'⟩ h
    simpa [Value.ofString, String.toByteArray_inj] using h
  rw [mapOf, mapOf, Value.map.injEq, List.map_inj_right (fun a b h => hinj h)]

/-- Only arrays and maps are edited. -/
theorem Schema.Edit.ne_nil {s : Schema} {depth : Nat} {v v' : Value} (h : s.Edit depth v v') :
    v ≠ .nil := by
  induction h with
  | option _ ih | named _ ih => exact ih
  | _ => simp [mapOf]

/-! ## §2  The fields of a record -/

variable {depth : Nat} {entries entries' before after : List (String × Value)} {name : String}

theorem under_append (name : String) (entries entries' : List (String × Value)) :
    under name (entries ++ entries') = under name entries ++ under name entries' := by
  simp [under]

theorem under_cons_self (name : String) (v : Value) (entries : List (String × Value)) :
    under name ((name, v) :: entries) = v :: under name entries := by
  simp [under]

theorem under_cons_ne {key : String} (hkey : key ≠ name) (v : Value)
    (entries : List (String × Value)) : under name ((key, v) :: entries) = under name entries := by
  simp [under, hkey]

theorem under_map_self (name : String) (values : List Value) :
    under name (values.map (name, ·)) = values := by
  induction values with
  | nil => rfl
  | cons v values ih => rw [List.map_cons, under_cons_self, ih]

theorem under_map_ne {key : String} (hkey : key ≠ name) (values : List Value) :
    under name (values.map (key, ·)) = [] := by
  induction values with
  | nil => rfl
  | cons v values ih => rw [List.map_cons, under_cons_ne hkey, ih]

theorem under_perm (hperm : entries.Perm entries') (name : String) :
    (under name entries).Perm (under name entries') :=
  (hperm.filter _).map _

/-- The values that stand for a field say what the field holds: it is the only one, or there is none
and the stand-in says it. -/
def Schema.SpelledBy (s : Schema) (standIn : Option Value) (depth : Nat) (a : s.Carrier) :
    List Value → Prop
  | [] => ∃ v, s.absent standIn = some v ∧ s.Spells depth a v
  | [v] => s.Spells depth a v
  | _ => False

theorem Fields.mem_names {s : Schema} {standIn : Option Value} : ∀ {fs : Fields},
    (name, s, standIn) ∈ fs.toList → name ∈ fs.names
  | .cons .., h => by
      rcases List.mem_cons.mp h with h | h
      · rw [Prod.mk.injEq] at h
        exact h.1 ▸ List.mem_cons_self
      · exact List.mem_cons_of_mem _ (mem_names h)

/-- Fields with distinct names are told by their names. -/
theorem Fields.unique : ∀ {fs : Fields}, fs.names.Nodup → ∀ {x y : Schema × Option Value},
    (name, x) ∈ fs.toList → (name, y) ∈ fs.toList → x = y
  | .cons other s standIn rest, hnodup, x, y, hx, hy => by
      have hother : ∀ z : Schema × Option Value, (name, z) ∈ rest.toList → name ≠ other :=
        fun _ hz => ne_of_nodup hnodup (mem_names hz)
      rcases List.mem_cons.mp hx with hx | hx <;> rcases List.mem_cons.mp hy with hy | hy
      · rw [Prod.mk.injEq] at hx hy
        exact hx.2.trans hy.2.symm
      · rw [Prod.mk.injEq] at hx
        exact absurd hx.1 (hother y hy)
      · rw [Prod.mk.injEq] at hy
        exact absurd hy.1 (hother x hx)
      · exact unique (List.nodup_cons.mp hnodup).2 hx hy

theorem Fields.isLegible_of_mem {s : Schema} {standIn : Option Value} : ∀ {fs : Fields},
    fs.isLegible = true → (name, s, standIn) ∈ fs.toList → s.isLegible = true
  | .cons .., hlegible, h => by
      rw [Fields.isLegible, Bool.and_eq_true] at hlegible
      rcases List.mem_cons.mp h with h | h
      · simp only [Prod.mk.injEq] at h
        exact h.2.1 ▸ hlegible.1
      · exact isLegible_of_mem hlegible.2 h

/-- What a record says depends on nothing but the values that stand under the names of its
fields. -/
theorem Fields.Spells.congr : ∀ {fs : Fields} {r : fs.Carrier},
    (∀ name s standIn, (name, s, standIn) ∈ fs.toList → ∀ a,
      s.SpelledBy standIn depth a (under name entries) →
        s.SpelledBy standIn depth a (under name entries')) →
    fs.Spells depth r entries → fs.Spells depth r entries'
  | .nil, _, _, _ => trivial
  | .cons name s standIn rest, (a, r), hfields, ⟨hfirst, hrest⟩ => by
      constructor
      · exact hfields name s standIn List.mem_cons_self a hfirst
      · apply congr _ hrest
        intro name s standIn hmem
        exact hfields name s standIn (List.mem_cons_of_mem _ hmem)

theorem Schema.SpelledBy.perm {s : Schema} {standIn : Option Value} {a : s.Carrier}
    {values values' : List Value} (h : s.SpelledBy standIn depth a values)
    (hperm : values.Perm values') : s.SpelledBy standIn depth a values' := by
  match values with
  | [] =>
      obtain rfl := hperm.nil_eq
      exact h
  | [v] =>
      obtain rfl := List.perm_singleton.mp hperm.symm
      exact h
  | _ :: _ :: _ => exact h.elim

/-- A field that has a value has no other. -/
theorem Schema.SpelledBy.single {s : Schema} {standIn : Option Value} {a : s.Carrier}
    {values values' : List Value} {v : Value}
    (h : s.SpelledBy standIn depth a (values ++ v :: values')) :
    values = [] ∧ values' = [] ∧ s.Spells depth a v := by
  match values, values' with
  | [], [] => exact ⟨rfl, rfl, h⟩
  | [], _ :: _ => exact h.elim
  | [_], _ => exact h.elim
  | _ :: _ :: _, _ => exact h.elim

/-! ## §3  One edit -/

/-- A member of a list is replaced by one that says the same. -/
theorem forall₂_replace {α β : Type} {R : α → β → Prop} {as : List α} {before after : List β}
    {b b' : β} (h : List.Forall₂ R as (before ++ b :: after)) (hb : ∀ a, R a b → R a b') :
    List.Forall₂ R as (before ++ b' :: after) := by
  induction before generalizing as with
  | nil =>
      cases h with
      | cons hfirst hrest => exact .cons (hb _ hfirst) hrest
  | cons first before ih =>
      cases h with
      | cons hfirst hrest => exact .cons hfirst (ih hrest)

theorem Variants.mem_names {s : Schema} : ∀ (vs : Variants), (name, s) ∈ vs.contents →
    name ∈ vs.names
  | .unit _ rest, h => List.mem_cons_of_mem _ (rest.mem_names h)
  | .value _ _ rest, h | .fields _ _ rest, h => by
      rcases List.mem_cons.mp h with h | h
      · rw [Prod.mk.injEq] at h
        exact h.1 ▸ List.mem_cons_self
      · exact List.mem_cons_of_mem _ (rest.mem_names h)

theorem Variants.isLegible_of_mem {s : Schema} : ∀ (vs : Variants), vs.isLegible = true →
    (name, s) ∈ vs.contents → s.isLegible = true
  | .unit _ rest, hlegible, h => rest.isLegible_of_mem hlegible h
  | .value _ _ rest, hlegible, h | .fields _ _ rest, hlegible, h => by
      rw [Variants.isLegible, Bool.and_eq_true] at hlegible
      rcases List.mem_cons.mp h with h | h
      · rw [Prod.mk.injEq] at h
        exact h.2 ▸ hlegible.1
      · exact rest.isLegible_of_mem hlegible.2 h

/-- A map that says a variant has the name of the variant for its key. -/
theorem Variants.mem_names_of_spells {v : Value} : ∀ (vs : Variants) (x : vs.Carrier),
    vs.Spells depth x (mapOf [(name, v)]) → name ∈ vs.names
  | .unit _ _, .inl _, h => by simp [Variants.Spells, mapOf, Value.ofString] at h
  | .value _ _ _, .inl _, ⟨_, h, _⟩ | .fields _ _ _, .inl _, ⟨_, h, _⟩ => by
      rw [mapOf_inj, List.cons.injEq, Prod.mk.injEq] at h
      exact h.1.1 ▸ List.mem_cons_self
  | .unit _ rest, .inr x, h | .value _ _ rest, .inr x, h | .fields _ _ rest, .inr x, h =>
      List.mem_cons_of_mem _ (rest.mem_names_of_spells x h)

/-- The content of a variant is replaced by one that says the same. -/
theorem Variants.spells_congr {s : Schema} {v v' : Value}
    (hcontent : ∀ a, s.Spells depth a v → s.Spells depth a v') : ∀ (vs : Variants) (x : vs.Carrier),
    vs.names.Nodup → (name, s) ∈ vs.contents → vs.Spells depth x (mapOf [(name, v)]) →
    vs.Spells depth x (mapOf [(name, v')])
  | .unit _ _, .inl _, _, _, h => by simp [Variants.Spells, mapOf, Value.ofString] at h
  | .unit _ rest, .inr x, hnodup, hmem, h =>
      rest.spells_congr hcontent x (List.nodup_cons.mp hnodup).2 hmem h
  | .value _ _ rest, .inl _, hnodup, hmem, ⟨_, hmap, h⟩
  | .fields _ _ rest, .inl _, hnodup, hmem, ⟨_, hmap, h⟩ => by
      rw [mapOf_inj, List.cons.injEq, Prod.mk.injEq] at hmap
      obtain ⟨⟨rfl, rfl⟩, -⟩ := hmap
      rcases List.mem_cons.mp hmem with hmem | hmem
      · obtain ⟨-, rfl⟩ := Prod.mk.inj hmem
        exact ⟨_, rfl, hcontent _ h⟩
      · exact absurd rfl (ne_of_nodup hnodup (rest.mem_names hmem))
  | .value _ _ rest, .inr x, hnodup, hmem, h | .fields _ _ rest, .inr x, hnodup, hmem, h => by
      rcases List.mem_cons.mp hmem with hmem | hmem
      · obtain ⟨rfl, -⟩ := Prod.mk.inj hmem
        exact absurd rfl (ne_of_nodup hnodup (rest.mem_names_of_spells x h))
      · exact rest.spells_congr hcontent x (List.nodup_cons.mp hnodup).2 hmem h

/-- A record goes on to say the same if its fields do and it gets no entry that is nested too
deep. -/
theorem Schema.spells_record {name : String} {fs : Fields} {r : fs.Carrier}
    (h : (Schema.record name fs).Spells (depth + 1) r (mapOf entries))
    (hfields : ∀ name s standIn, (name, s, standIn) ∈ fs.toList → ∀ a,
      s.SpelledBy standIn depth a (under name entries) →
        s.SpelledBy standIn depth a (under name entries'))
    (hothers : ∀ e ∈ entries', e ∈ entries ∨ e.1 ∈ fs.names ∨ e.2.nesting ≤ depth) :
    (Schema.record name fs).Spells (depth + 1) r (mapOf entries') := by
  obtain ⟨_, hmap, htold, hshallow⟩ := h
  obtain rfl := mapOf_inj.mp hmap
  refine ⟨entries', rfl, htold.congr hfields, fun e he => ?_⟩
  rcases hothers e he with hold | hnew
  · exact hshallow e hold
  · exact hnew

/-- The values of one field are replaced by others that say the same. -/
theorem Schema.spells_field {name field : String} {fs : Fields} {s : Schema}
    {standIn : Option Value} {r : fs.Carrier} {v : Value} (values : List Value)
    (hnodup : fs.names.Nodup) (hfield : (field, s, standIn) ∈ fs.toList)
    (hself : ∀ a, s.Spells depth a v → s.SpelledBy standIn depth a values)
    (h : (Schema.record name fs).Spells (depth + 1) r (mapOf (before ++ (field, v) :: after))) :
    (Schema.record name fs).Spells (depth + 1) r
      (mapOf (before ++ (values.map (field, ·) ++ after))) := by
  apply Schema.spells_record h
  · intro other s' standIn' hmem a hspelled
    rw [under_append] at hspelled
    rw [under_append, under_append]
    by_cases hother : field = other
    · subst hother
      obtain ⟨rfl, rfl⟩ := Prod.mk.inj (Fields.unique hnodup hmem hfield)
      rw [under_cons_self] at hspelled
      obtain ⟨hbefore, hafter, hv⟩ := hspelled.single
      rw [hbefore, hafter, under_map_self, List.nil_append, List.append_nil]
      exact hself a hv
    · rw [under_cons_ne hother] at hspelled
      rwa [under_map_ne hother]
  · intro e he
    rcases List.mem_append.mp he with he | he
    · exact .inl (List.mem_append_left _ he)
    · rcases List.mem_append.mp he with he | he
      · obtain ⟨v', -, rfl⟩ := List.mem_map.mp he
        exact .inr (.inl (Fields.mem_names hfield))
      · exact .inl (List.mem_append_right _ (List.mem_cons_of_mem _ he))

/-- **One edit.** Whatever a value says under a schema, it says after an edit. -/
theorem Schema.Edit.spells {s : Schema} {v v' : Value} (h : s.Edit depth v v')
    (hlegible : s.isLegible = true) (a : s.Carrier) (hv : s.Spells depth a v) :
    s.Spells depth a v' := by
  induction h with
  | reorder hperm =>
      apply Schema.spells_record hv
      · intro name s standIn _ a hspelled
        exact hspelled.perm (under_perm hperm name)
      · intro e he
        exact .inl (hperm.mem_iff.mpr he)
  | extend before after key v hkey hnesting =>
      apply Schema.spells_record hv
      · intro name s standIn hmem a hspelled
        have hne : key ≠ name := fun heq => hkey (heq ▸ Fields.mem_names hmem)
        rwa [under_append, under_cons_ne hne, ← under_append]
      · intro e he
        rcases List.mem_append.mp he with he | he
        · exact .inl (List.mem_append_left _ he)
        · rcases List.mem_cons.mp he with rfl | he
          · exact .inr (.inr hnesting)
          · exact .inl (List.mem_append_right _ he)
  | thin before after field s hfield =>
      rw [Schema.isLegible, Bool.and_eq_true] at hlegible
      refine Schema.spells_field [] (nodup_of_wellNamed hlegible.1) hfield ?_ hv
      exact fun a hnil => ⟨.nil, rfl, hnil⟩
  | @field _ _ _ before after _ _ _ v v' hfield hedit ih =>
      rw [Schema.isLegible, Bool.and_eq_true] at hlegible
      refine Schema.spells_field [v'] (nodup_of_wellNamed hlegible.1) hfield ?_ hv
      exact ih (Fields.isLegible_of_mem hlegible.2 hfield)
  | content hcontent hedit ih =>
      rw [Schema.isLegible, Bool.and_eq_true] at hlegible
      apply Variants.spells_congr _ _ _ (nodup_of_wellNamed hlegible.1) hcontent hv
      exact fun a => ih (Variants.isLegible_of_mem _ hlegible.2 hcontent) a
  | item before after hedit ih =>
      obtain ⟨items, hitems, hall⟩ := hv
      obtain rfl := Value.array.inj hitems
      exact ⟨_, rfl, forall₂_replace hall fun a => ih hlegible a⟩
  | shuffle hperm =>
      obtain ⟨as, entries, has, hmap, hall⟩ := hv
      obtain rfl := mapOf_inj.mp hmap
      -- the entries of the dictionary are put in the order of those that say them
      obtain ⟨as', has', hall'⟩ :=
        List.forall₂_comp_perm_eq_perm_comp_forall₂.le _ _ ⟨_, hall, hperm⟩
      exact ⟨as', _, has'.symm.trans has, rfl, hall'⟩
  | entry before after key hedit ih =>
      obtain ⟨as, entries, has, hmap, hall⟩ := hv
      obtain rfl := mapOf_inj.mp hmap
      exact ⟨as, _, has, rfl, forall₂_replace hall fun a ha => ⟨ha.1, ih hlegible a.2 ha.2⟩⟩
  | option hedit ih =>
      rw [Schema.isLegible, Bool.and_eq_true] at hlegible
      match a with
      | none => exact absurd hv hedit.ne_nil
      | some a => exact ih hlegible.2 a hv
  | named hedit ih => exact ih hlegible a hv

/-! ## §4  Any number of edits -/

section

variable {α : Type} [Described α]

/-- A value that is got by edits from what is written of a message. -/
def Varies (m : α) (v : Value) : Prop :=
  Relation.ReflTransGen ((schema α).Edit depthLimit) ((schema α).toValue (toCarrier m)) v

/-- **Any number of edits.** A value that is got by edits from what is written of a message says the
message. -/
theorem Varies.means {m : α} {v : Value} (h : Varies m v) (hlegible : IsLegible α) :
    Means v m := by
  induction h with
  | refl => exact means_toValue hlegible m
  | tail _ hedit ih => exact hedit.spells hlegible.1 _ ih

/-- An edited message is read as the message that was there before, from any bytes that spell it. -/
theorem Varies.decode? {m : α} {v : Value} {bytes : ByteArray} (h : Varies m v)
    (hlegible : IsLegible α) (hwritten : v.Written bytes.data.toList) (rest : ByteArray) :
    decode? α (bytes ++ rest) = some m ∧
      (Fits m → decode? α (bytes ++ rest) = decode? α (encode m ++ rest)) := by
  have hread := decode?_of_written hlegible (h.means hlegible) hwritten rest
  refine ⟨hread, fun hfits => ?_⟩
  rw [hread, decode?_encode hlegible hfits]

end

/-- **Older and newer peers stay compatible.** Take what a server writes of a message, and edit it
in any number of places, at any depth: put the entries of a record in another order, add entries
under keys that are none of its fields, with any values that are nested no deeper than a reader
allows, leave out the entries of options that are absent. Whichever way the outcome is written down,
and whatever follows it, it is read as the same message: what is not known is skipped up to its last
byte. -/
theorem peers_stay_compatible (rest : ByteArray) :
    (∀ (m : ServerMessage) (v : Value) (bytes : ByteArray), Varies m v →
      v.Written bytes.data.toList → decode? ServerMessage (bytes ++ rest) = some m ∧
        (Fits m → decode? ServerMessage (bytes ++ rest) =
          decode? ServerMessage (encode m ++ rest))) ∧
    (∀ (m : UnaryResponse) (v : Value) (bytes : ByteArray), Varies m v →
      v.Written bytes.data.toList → decode? UnaryResponse (bytes ++ rest) = some m ∧
        (Fits m → decode? UnaryResponse (bytes ++ rest) =
          decode? UnaryResponse (encode m ++ rest))) ∧
    (∀ (m : ServerError) (v : Value) (bytes : ByteArray), Varies m v →
      v.Written bytes.data.toList → decode? ServerError (bytes ++ rest) = some m ∧
        (Fits m → decode? ServerError (bytes ++ rest) =
          decode? ServerError (encode m ++ rest))) := by
  have hlegible (name : String) (s : Schema) (h : (name, s) ∈ Catalogue.entries) :
      s.isLegible = true ∧ s.levels ≤ depthLimit := Catalogue.legible _ h
  have hmessage := hlegible "ServerMessage" (schema ServerMessage) (by simp [Catalogue.entries])
  have hresponse := hlegible "UnaryResponse" (schema UnaryResponse) (by simp [Catalogue.entries])
  have herror := hlegible "ServerError" (schema ServerError) (by simp [Catalogue.entries])
  refine ⟨?_, ?_, ?_⟩
  · intro m v bytes hvaries hwritten
    exact hvaries.decode? hmessage hwritten rest
  · intro m v bytes hvaries hwritten
    exact hvaries.decode? hresponse hwritten rest
  · intro m v bytes hvaries hwritten
    exact hvaries.decode? herror hwritten rest

/-- The answer to a request for a type that has a label without a scope. -/
def answer : ServerMessage :=
  .response ⟨⟨7⟩, .ok (.conceptManager (.thingType (some
    (.entityType ⟨.unscoped "person", false, true⟩))))⟩

/-- What is written of the answer, but for its label and the order of the outermost record. -/
def answerWith (label : Value) (arrange : List (String × Value) → List (String × Value)) : Value :=
  mapOf [("Response", mapOf (arrange [("id", .unsigned 7), ("result", mapOf [("Ok",
    mapOf [("ConceptManager", mapOf [("ThingType", mapOf [("EntityType", mapOf
      [("label", label), ("is_root", .bool false), ("is_abstract", .bool true)])])])])])]))]

/-- The answer, where the label loses the entry of its absent scope and gets one that nobody asks
for, and the outermost record comes in the other order; an answer to a unary request, with a count
and a length that take more bytes than they need; and an error that is extended and rearranged. -/
theorem peers_stay_compatible_nested :
    let colours : Value :=
      .array [.binary [0, 255].toByteArray, mapOf [("hue", .single 0x3f800000)]]
    let edited : Value :=
      answerWith (mapOf [("colours", colours), ("name", .ofString "person")]) List.reverse
    let alive : Value := mapOf [("alive", .bool true)]
    let wide : ByteArray := (Pack.tagged 0xdf 4 1 ++ (Pack.tagged 0xda 2 12 ++
      "SessionPulse".toUTF8.data.toList ++ (alive.encode.data.toList ++ []))).toByteArray
    let error : Value := mapOf
      [("message", .ofString "no"), ("trace", .extension 1 [1, 2, 3].toByteArray),
        ("code", .ofString "Internal")]
    Varies answer edited ∧
      decode? ServerMessage (edited.encode ++ [0xc1].toByteArray) = some answer ∧
      decode? UnaryResponse (wide ++ [0xc1].toByteArray) = some (.sessionPulse true) ∧
      decode? ServerError (error.encode ++ [0xc1].toByteArray) = some ⟨.internal, "no"⟩ := by
  intro colours edited alive wide error
  obtain ⟨hserver, hunary, hfailure⟩ := peers_stay_compatible [0xc1].toByteArray
  have hlabel : ∀ label label', (schema Label).Edit (depthLimit - 2) label label' →
      (schema ServerMessage).Edit depthLimit (answerWith label id) (answerWith label' id) := by
    intro label label' h
    exact .content (.head _) (.field [_] [] (.tail _ (.head _)) (.content (.head _)
      (.content (.tail _ (.head _)) (.content (.head _) (.option (.content (.head _)
        (.field [] _ (.head _) h)))))))
  have hvaries : Varies answer edited := by
    have hthin : (schema Label).Edit (depthLimit - 2) _ (mapOf [("name", .ofString "person")]) :=
      .thin [] _ "scope" .text (.head _)
    have hextend : (schema Label).Edit (depthLimit - 2) (mapOf [("name", .ofString "person")])
        (mapOf [("colours", colours), ("name", .ofString "person")]) :=
      .extend [] _ "colours" colours (by decide) (by decide)
    have hreorder : (schema ServerMessage).Edit depthLimit (answerWith _ id) edited :=
      .content (.head _) (.reorder (.swap _ _ _))
    exact .tail (.tail (.tail .refl (hlabel _ _ hthin)) (hlabel _ _ hextend)) hreorder
  have hwide : (mapOf [("SessionPulse", alive)]).Written wide.data.toList := by
    rw [List.data_toByteArray]
    exact ⟨_, _, rfl, .map 0xdf 4 1 (by simp) (by decide), _, _, _, rfl,
      .text 0xda 2 "SessionPulse".toUTF8 (by simp) (by decide),
      alive.written_encode (Value.fits_of_size _ (by decide +kernel)), rfl⟩
  have herror : Varies (⟨.internal, "no"⟩ : ServerError) error := by
    have hextend : (schema ServerError).Edit depthLimit
        (mapOf [("code", .ofString "Internal"), ("message", .ofString "no")]) _ :=
      .extend [_] [_] "trace" (.extension 1 [1, 2, 3].toByteArray) (by decide) (by decide)
    have hreorder : (schema ServerError).Edit depthLimit _ error :=
      .reorder (.trans (.swap _ _ _) (.trans (.cons _ (.swap _ _ _)) (.swap _ _ _)))
    exact .tail (.tail .refl hextend) hreorder
  refine ⟨hvaries, ?_, ?_, ?_⟩
  · exact (hserver answer edited _ hvaries
      (edited.written_encode (Value.fits_of_size _ (by decide +kernel)))).1
  · exact (hunary (.sessionPulse true) _ wide .refl hwide).1
  · exact (hfailure ⟨.internal, "no"⟩ error _ herror
      (error.written_encode (Value.fits_of_size _ (by decide +kernel)))).1

end GraphDriver
