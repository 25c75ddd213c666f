import GraphDriver.Schema.Encode
import GraphDriver.Schema.Decode
import GraphDriver.Proofs.Pack.RoundTrip
import Mathlib.Data.List.Forall2

/-!
# Reading back messages

A value says more than it has to: the entries of a map may stand in any order, a record may hold
entries that nobody asks for and may leave out options that are absent. `Schema.Spells` tells what a
value says under a schema, and reading finds exactly that. What `Schema.toValue` writes is one
spelling among them.

* §1 dictionaries
* §2 schemas that can be read
* §3 spellings
* §4 reading a spelling
* §5 writing
* §6 described types
-/

namespace GraphDriver

open Pack (Value)

/-! ## §1  Dictionaries -/

namespace Dict

variable {α : Type}

theorem perm_insertEntry {key : String} {value : α} {l : List (String × α)}
    (h : key ∉ l.map (·.1)) : (insertEntry key value l).Perm ((key, value) :: l) := by
  induction l with
  | nil => exact .refl _
  | cons e rest ih =>
      obtain ⟨k, v⟩ := e
      rw [List.map_cons, List.mem_cons, not_or] at h
      unfold insertEntry
      split
      · exact .refl _
      · rw [if_neg h.1]
        exact ((ih h.2).cons _).trans (.swap _ _ _)

theorem perm_foldl_insert {entries : List (String × α)} {d : Dict α}
    (h : (entries.map (·.1) ++ d.entries.map (·.1)).Nodup) :
    (entries.foldl (fun d (key, value) => d.insert key value) d).entries.Perm
      (entries ++ d.entries) := by
  induction entries generalizing d with
  | nil => exact .refl _
  | cons e rest ih =>
      obtain ⟨key, value⟩ := e
      rw [List.map_cons, List.cons_append, List.nodup_cons, List.mem_append, not_or] at h
      have hinsert : (d.insert key value).entries.Perm ((key, value) :: d.entries) :=
        perm_insertEntry h.1.2
      have hkeys : (rest.map (·.1) ++ (d.insert key value).entries.map (·.1)).Nodup := by
        refine ((hinsert.map (·.1)).append_left _).nodup_iff.mpr ?_
        exact List.perm_middle.nodup_iff.mpr (List.nodup_cons.mpr ⟨by simpa using h.1, h.2⟩)
      exact (ih hkeys).trans ((hinsert.append_left rest).trans List.perm_middle)

/-- A dictionary is made of its entries in any order. -/
theorem ofList_of_perm {entries : List (String × α)} {d : Dict α} (h : entries.Perm d.entries) :
    ofList entries = d := by
  have hdistinct : (d.entries.map (·.1)).Nodup := by
    refine List.pairwise_map.mpr (d.sorted.imp fun {a b} hlt (heq : a.1 = b.1) => ?_)
    exact String.lt_irrefl _ (heq ▸ hlt)
  have hkeys : (entries.map (·.1) ++ (empty : Dict α).entries.map (·.1)).Nodup := by
    simpa [empty] using (h.map (·.1)).nodup_iff.mpr hdistinct
  have hperm : (ofList entries).entries.Perm d.entries :=
    (perm_foldl_insert hkeys).trans (by simpa [empty] using h)
  refine ext (hperm.eq_of_pairwise ?_ (ofList entries).sorted d.sorted)
  exact fun a b _ _ hab hba => absurd (String.lt_trans hab hba) (String.lt_irrefl _)

end Dict

/-! ## §2  Schemas that can be read -/

/-- Whether a length can be written. -/
def isShort (length : Nat) : Bool := length < 0x100000000

theorem lt_of_isShort {length : Nat} (h : isShort length = true) : length < 0x100000000 :=
  of_decide_eq_true h

/-- Names of fields or variants that are told apart and can be written. -/
def wellNamed (names : List String) : Bool :=
  decide names.Nodup && names.all (isShort ·.utf8ByteSize) && isShort names.length

theorem nodup_of_wellNamed {names : List String} (h : wellNamed names = true) : names.Nodup := by
  simp only [wellNamed, Bool.and_eq_true, decide_eq_true_eq] at h
  exact h.1.1

theorem size_of_wellNamed {names : List String} (h : wellNamed names = true) :
    ∀ name ∈ names, isShort name.utf8ByteSize = true := by
  simp only [wellNamed, Bool.and_eq_true, List.all_eq_true] at h
  exact h.1.2

theorem length_of_wellNamed {names : List String} (h : wellNamed names = true) :
    names.length < 0x100000000 := by
  simp only [wellNamed, Bool.and_eq_true] at h
  exact lt_of_isShort h.2

theorem ne_of_nodup {name other : String} {names : List String} (h : (name :: names).Nodup)
    (hmem : other ∈ names) : other ≠ name :=
  fun heq => (List.nodup_cons.mp h).1 (heq ▸ hmem)

def Fields.names : Fields → List String
  | .nil => []
  | .cons name _ _ rest => name :: rest.names

def Variants.names : Variants → List String
  | .nil => []
  | .unit name rest | .value name _ rest | .fields name _ rest => name :: rest.names

/-- Whether a value of a schema is never written as nil. -/
def Schema.isPresent : Schema → Bool
  | .option _ => false
  | .named _ s => s.isPresent
  | _ => true

mutual

/-- Whether the values of a schema can be told apart when they are read: no name comes twice, and an
option is not the content of an option. -/
def Schema.isLegible : Schema → Bool
  | .option s => s.isPresent && s.isLegible
  | .list s | .dict s | .named _ s => s.isLegible
  | .record _ fs => wellNamed fs.names && fs.isLegible
  | .choice vs => wellNamed vs.names && vs.isLegible
  | _ => true

def Fields.isLegible : Fields → Bool
  | .nil => true
  | .cons _ s _ rest => s.isLegible && rest.isLegible

def Variants.isLegible : Variants → Bool
  | .nil => true
  | .unit _ rest => rest.isLegible
  | .value _ s rest => s.isLegible && rest.isLegible
  | .fields _ fs rest => wellNamed fs.names && fs.isLegible && rest.isLegible

end

mutual

/-- How many lists, dictionaries and records of a schema are nested inside each other. -/
def Schema.levels : Schema → Nat
  | .option s | .named _ s => s.levels
  | .list s | .dict s => s.levels + 1
  | .record _ fs => fs.levels + 1
  | .choice vs => vs.levels
  | .span => 1
  | _ => 0

def Fields.levels : Fields → Nat
  | .nil => 0
  | .cons _ s _ rest => max s.levels rest.levels

def Variants.levels : Variants → Nat
  | .nil => 0
  | .unit _ rest => rest.levels
  | .value _ s rest => max s.levels rest.levels
  | .fields _ fs rest => max (fs.levels + 1) rest.levels

end

/-! ## §3  Spellings -/

/-- The values that stand under a name. -/
def under (name : String) (entries : List (String × Value)) : List Value :=
  (entries.filter (·.1 = name)).map (·.2)

/-- A map with text keys. -/
def mapOf (entries : List (String × Value)) : Value :=
  .map (entries.map fun (key, v) => (.ofString key, v))

/-- A map, nested at most `depth` deep, whose entries say something; of the names that are not asked
for, the values are nested no deeper either. -/
def Tells (names : List String) (told : (depth : Nat) → List (String × Value) → Prop) :
    (depth : Nat) → Value → Prop
  | 0, _ => False
  | depth + 1, v => ∃ entries, v = mapOf entries ∧ told depth entries ∧
      ∀ e ∈ entries, e.1 ∈ names ∨ e.2.nesting ≤ depth

mutual

/-- `s.Spells depth a v`: the value `v`, nested at most `depth` deep, says `a` under the schema. -/
def Schema.Spells : (s : Schema) → (depth : Nat) → s.Carrier → Value → Prop
  | .flag, _, a, v => v = Schema.flag.toValue a
  | .word, _, a, v => v = Schema.word.toValue a
  | .count, _, a, v => v = Schema.count.toValue a
  | .long, _, a, v => v = Schema.long.toValue a
  | .double, _, a, v => v = Schema.double.toValue a
  | .text, _, a, v => v = Schema.text.toValue a
  | .bytes, _, a, v => v = Schema.bytes.toValue a
  | .span, depth, a, v => depth ≠ 0 ∧ v = Schema.span.toValue a
  | .option s, depth, a, v => match a with
    | none => v = .nil
    | some a => s.Spells depth a v
  | .list s, depth, as, v => match depth with
    | 0 => False
    | depth + 1 => ∃ items, v = .array items ∧ List.Forall₂ (s.Spells depth) as items
  | .dict s, depth, d, v => match depth with
    | 0 => False
    | depth + 1 => ∃ as entries, as.Perm d.entries ∧ v = mapOf entries ∧
        List.Forall₂ (fun a e => e.1 = a.1 ∧ s.Spells depth a.2 e.2) as entries
  | .record _ fs, depth, r, v =>
    Tells fs.names (fun depth entries => fs.Spells depth r entries) depth v
  | .choice vs, depth, x, v => vs.Spells depth x v
  | .named _ s, depth, a, v => s.Spells depth a v

/-- The entries of a map say the fields of a record: each field has one value under its name, or
none and its stand-in says it. -/
def Fields.Spells : (fs : Fields) → (depth : Nat) → fs.Carrier → List (String × Value) → Prop
  | .nil, _, _, _ => True
  | .cons name s standIn rest, depth, (a, r), entries =>
    (match under name entries with
      | [] => ∃ v, s.absent standIn = some v ∧ s.Spells depth a v
      | [v] => s.Spells depth a v
      | _ => False) ∧ rest.Spells depth r entries

/-- A value says a variant: its name, or a map from its name to its content. -/
def Variants.Spells : (vs : Variants) → (depth : Nat) → vs.Carrier → Value → Prop
  | .unit name _, _, .inl _, v => v = .ofString name
  | .value name s _, depth, .inl a, v => ∃ content, v = mapOf [(name, content)] ∧
      s.Spells depth a content
  | .fields name fs _, depth, .inl r, v => ∃ content, v = mapOf [(name, content)] ∧
      Tells fs.names (fun depth entries => fs.Spells depth r entries) depth content
  | .unit _ rest, depth, .inr x, v => rest.Spells depth x v
  | .value _ _ rest, depth, .inr x, v => rest.Spells depth x v
  | .fields _ _ rest, depth, .inr x, v => rest.Spells depth x v

end

/-! ## §4  Reading a spelling -/

variable {depth position : Nat} {name : String} {entries : List (String × Value)} {v : Value}

/-- The entries of a map with text keys as a record sees them. -/
def identify (entries : List (String × Value)) : List (Identifier × Value) :=
  entries.map fun (key, v) => (.name key.toUTF8, v)

theorem toUTF8_inj {a b : String} : a.toUTF8 = b.toUTF8 ↔ a = b := String.toByteArray_inj

theorem denotes_name (key : String) (position : Nat) (name : String) :
    (Identifier.name key.toUTF8).denotes position name = decide (key = name) := by
  simp only [Identifier.denotes, toUTF8_inj]

theorem identified_mapOf (entries : List (String × Value)) :
    identified (entries.map fun (key, v) => (.ofString key, v)) = some (identify entries) := by
  induction entries with
  | nil => rfl
  | cons e rest ih =>
      rw [List.map_cons, identified, ih]
      rfl

theorem valuesAt_identify (position : Nat) (name : String) (entries : List (String × Value)) :
    valuesAt position name (identify entries) = under name entries := by
  simp only [valuesAt, identify, under, List.filter_map, List.map_map, Function.comp_def,
    denotes_name]

theorem denoted_name : ∀ (fs : Fields) (position : Nat) (key : String),
    fs.denoted position (.name key.toUTF8) = decide (key ∈ fs.names)
  | .nil, _, _ => rfl
  | .cons name s standIn rest, position, key => by
      rw [Fields.denoted, denoted_name rest, denotes_name, Fields.names]
      simp

/-- The entries that a record does not ask for are nested no deeper than those that it reads. -/
theorem Fields.all_identify (fs : Fields)
    (h : ∀ e ∈ entries, e.1 ∈ fs.names ∨ e.2.nesting ≤ depth) :
    (identify entries).all (fun (id, value) => fs.denoted 0 id || value.nesting ≤ depth) =
      true := by
  rw [identify, List.all_map, List.all_eq_true]
  intro e he
  simpa [denoted_name, -String.toUTF8_eq_toByteArray] using h e he

theorem mapM_of_forall₂ {α β : Type} {f : β → Option α} {as : List α} {bs : List β}
    (h : List.Forall₂ (fun a b => f b = some a) as bs) : bs.mapM f = some as := by
  induction h with
  | nil => rfl
  | cons hab _ ih => simp [hab, ih]

theorem fromUTF8?_toUTF8 (t : String) : String.fromUTF8? t.toUTF8 = some t := by
  rw [String.toUTF8_eq_toByteArray, String.fromUTF8?, dif_pos t.isValidUTF8]
  rfl

theorem readText?_ofString (t : String) : readText? (.ofString t) = some t := fromUTF8?_toUTF8 t

theorem readWord?_toUInt64 (n : UInt32) : readWord? (.unsigned n.toUInt64) = some n := by
  have hn := n.toNat_lt
  have hrange : (0 : Int) ≤ n.toUInt64.toNat ∧ (n.toUInt64.toNat : Int) < 0x100000000 := by
    rw [UInt32.toNat_toUInt64]
    omega
  rw [readWord?, Value.toInt?, Option.bind_some, if_pos hrange, Int.toNat_natCast,
    UInt32.toNat_toUInt64, UInt32.ofNat_toNat]

theorem readCount?_unsigned (n : UInt64) : readCount? (.unsigned n) = some n := by
  rw [readCount?, Value.toInt?, Option.bind_some, if_pos (Int.natCast_nonneg _), Int.toNat_natCast,
    UInt64.ofNat_toNat]

theorem readLong?_ofInt (n : Int64) : readLong? (.ofInt n.toInt) = some n := by
  have hlt : n.toInt < 0x8000000000000000 := n.toInt_lt
  unfold Value.ofInt
  split
  · rename_i h
    have hback : ((UInt64.ofNat n.toInt.toNat).toNat : Int) = n.toInt := by
      have hword : n.toInt.toNat < 2 ^ 64 := by omega
      rw [UInt64.toNat_ofNat_of_lt' hword]
      exact Int.toNat_of_nonneg h
    rw [readLong?, Value.toInt?, Option.bind_some, hback, if_pos hlt, Int64.ofInt_toInt]
  · rw [readLong?, Value.toInt?, Option.bind_some, Int64.ofInt_toInt, if_pos hlt,
      Int64.ofInt_toInt]

theorem Span.normalise?_parts (s : Span) : normalise? s.secs s.nanos = some s := by
  obtain ⟨secs, nanos, hnanos⟩ := s
  have hsecs := secs.toNat_lt
  have hnone : nanos.toNat / 1000000000 = 0 := Nat.div_eq_of_lt hnanos
  have hall : nanos.toNat % 1000000000 = nanos.toNat := Nat.mod_eq_of_lt hnanos
  simp [normalise?, hnone, hall, hsecs]

theorem readSpan?_toValue (s : Span) (hdepth : depth ≠ 0) :
    readSpan? depth s.toValue = some s := by
  have hsecs : onlyUnder "secs" [("secs".toUTF8, .unsigned s.secs),
      ("nanos".toUTF8, .unsigned s.nanos.toUInt64)] = some (.unsigned s.secs) := by
    simp [onlyUnder, toUTF8_inj, -String.toUTF8_eq_toByteArray]
  have hnanos : onlyUnder "nanos" [("secs".toUTF8, .unsigned s.secs),
      ("nanos".toUTF8, .unsigned s.nanos.toUInt64)] = some (.unsigned s.nanos.toUInt64) := by
    simp [onlyUnder, toUTF8_inj, -String.toUTF8_eq_toByteArray]
  have hentries : [(Value.ofString "secs", Value.unsigned s.secs),
      (Value.ofString "nanos", Value.unsigned s.nanos.toUInt64)].mapM nameAndValue? =
        some [("secs".toUTF8, .unsigned s.secs), ("nanos".toUTF8, .unsigned s.nanos.toUInt64)] :=
    rfl
  rw [Span.toValue, readSpan?, if_neg (by simpa using hdepth), hentries, Option.bind_some, hsecs,
    Option.bind_some, hnanos, Option.bind_some, readCount?_unsigned, Option.bind_some,
    readWord?_toUInt64, Option.bind_some, s.normalise?_parts]

theorem Schema.ofValue?_option (s : Schema) (hv : v ≠ .nil) :
    (Schema.option s).ofValue? depth v = (s.ofValue? depth v).map some := by
  cases v <;> first | contradiction | simp [Schema.ofValue?]

theorem Schema.ofValue?_choice_name (vs : Variants) (name : String) :
    (Schema.choice vs).ofValue? depth (.ofString name) =
      vs.select? depth 0 (.name name.toUTF8) none := by
  simp [Schema.ofValue?, Value.ofString, Identifier.ofValue?]

theorem Schema.ofValue?_choice_entry (vs : Variants) (name : String) (content : Value) :
    (Schema.choice vs).ofValue? depth (mapOf [(name, content)]) =
      vs.select? depth 0 (.name name.toUTF8) (some content) := by
  simp [Schema.ofValue?, mapOf, Value.ofString, Identifier.ofValue?]

/-- Nil is no value of anything but an option. -/
theorem Schema.ofValue?_nil : ∀ (s : Schema) (depth : Nat), s.isPresent = true →
    s.ofValue? depth .nil = none
  | .flag, _, _ | .word, _, _ | .count, _, _ | .long, _, _ | .double, _, _ | .text, _, _
  | .bytes, _, _ | .span, _, _ | .choice _, _, _ => by simp only [Schema.ofValue?] <;> rfl
  | .list s, depth, _ | .dict s, depth, _ => by cases depth <;> simp [Schema.ofValue?]
  | .record _ fs, depth, _ => by cases depth <;> simp [Schema.ofValue?, Fields.ofValue?]
  | .named _ s, depth, h => by
      rw [Schema.ofValue?]
      exact s.ofValue?_nil depth h

/-- A record is read from a map once its fields are read from the entries. -/
theorem Fields.ofValue?_of_tells {fs : Fields} {r : fs.Carrier}
    (hread : ∀ depth entries, fs.Spells depth r entries →
      fs.ofEntries? depth 0 (identify entries) = some r)
    (h : Tells fs.names (fun depth entries => fs.Spells depth r entries) depth v) :
    fs.ofValue? depth v = some r := by
  cases depth with
  | zero => exact h.elim
  | succ depth =>
      obtain ⟨entries, rfl, hentries, hothers⟩ := h
      rw [mapOf, Fields.ofValue?, identified_mapOf, Option.bind_some,
        if_pos (fs.all_identify hothers)]
      exact hread depth entries hentries

/-- The wire form of a variant by its name and its content, if it has one. -/
def variantOf (name : String) : Option Value → Value
  | none => .ofString name
  | some content => mapOf [(name, content)]

theorem Schema.ofValue?_variantOf (vs : Variants) (name : String) (content : Option Value) :
    (Schema.choice vs).ofValue? depth (variantOf name content) =
      vs.select? depth 0 (.name name.toUTF8) content := by
  cases content with
  | none => exact ofValue?_choice_name vs name
  | some content => exact ofValue?_choice_entry vs name content

mutual

/-- What a value says under a schema is what is read from it. -/
theorem Schema.ofValue?_of_spells : ∀ (s : Schema) (depth : Nat) (a : s.Carrier) (v : Value),
    s.isLegible = true → s.Spells depth a v → s.ofValue? depth v = some a
  | .flag, _, a, _, _, h => by
      rw [h, Schema.toValue, Schema.ofValue?]
  | .word, _, n, _, _, h => by
      rw [h, Schema.toValue, Schema.ofValue?, readWord?_toUInt64]
  | .count, _, n, _, _, h => by
      rw [h, Schema.toValue, Schema.ofValue?, readCount?_unsigned]
  | .long, _, n, _, _, h => by
      rw [h, Schema.toValue, Schema.ofValue?, readLong?_ofInt]
  | .double, _, _, _, _, h => by
      rw [h, Schema.toValue, Schema.ofValue?]
      rfl
  | .text, _, t, _, _, h => by
      rw [h, Schema.toValue, Schema.ofValue?, readText?_ofString]
  | .bytes, _, _, _, _, h => by
      rw [h, Schema.toValue, Schema.ofValue?]
      rfl
  | .span, _, s, _, _, h => by
      rw [h.2, Schema.toValue, Schema.ofValue?, readSpan?_toValue s h.1]
  | .option s, _, none, _, _, h => by
      rw [Schema.Spells] at h
      rw [h, Schema.ofValue?]
  | .option s, depth, some a, v, hlegible, h => by
      rw [Schema.isLegible, Bool.and_eq_true] at hlegible
      rw [Schema.Spells] at h
      have hread := s.ofValue?_of_spells depth a v hlegible.2 h
      -- an option takes nil for itself, so its content must not be spelled as nil
      have hv : v ≠ .nil := by
        rintro rfl
        rw [s.ofValue?_nil depth hlegible.1] at hread
        simp at hread
      rw [s.ofValue?_option hv, hread, Option.map_some]
  | .list s, 0, _, _, _, h => by
      rw [Schema.Spells] at h
      exact h.elim
  | .list s, depth + 1, as, _, hlegible, h => by
      rw [Schema.Spells] at h
      obtain ⟨items, rfl, hitems⟩ := h
      rw [Schema.ofValue?]
      exact mapM_of_forall₂ (hitems.imp fun a item =>
        s.ofValue?_of_spells depth a item hlegible)
  | .dict s, 0, _, _, _, h => by
      rw [Schema.Spells] at h
      exact h.elim
  | .dict s, depth + 1, d, _, hlegible, h => by
      rw [Schema.Spells] at h
      obtain ⟨as, entries, hperm, rfl, hentries⟩ := h
      have hread : (entries.map fun (key, v) => (Value.ofString key, v)).mapM
          (fun (key, value) => (readText? key).bind fun key =>
            (s.ofValue? depth value).map fun a => (key, a)) = some as := by
        rw [List.mapM_map]
        refine mapM_of_forall₂ (hentries.imp fun a e hae => ?_)
        simp [readText?_ofString, s.ofValue?_of_spells depth a.2 e.2 hlegible hae.2, hae.1]
      -- the entries may have come in any order
      rw [mapOf, Schema.ofValue?, hread, Option.map_some, Dict.ofList_of_perm hperm]
  | .record _ fs, depth, r, v, hlegible, h => by
      rw [Schema.isLegible, Bool.and_eq_true] at hlegible
      rw [Schema.Spells] at h
      rw [Schema.ofValue?]
      exact Fields.ofValue?_of_tells
        (fun depth entries => fs.ofEntries?_of_spells depth 0 r entries hlegible.2) h
  | .choice vs, depth, x, v, hlegible, h => by
      rw [Schema.isLegible, Bool.and_eq_true] at hlegible
      rw [Schema.Spells] at h
      obtain ⟨name, content, -, rfl, hselect⟩ :=
        vs.select?_of_spells depth 0 x v (nodup_of_wellNamed hlegible.1) hlegible.2 h
      rw [Schema.ofValue?_variantOf, hselect]
  | .named _ s, depth, a, v, hlegible, h => by
      rw [Schema.ofValue?]
      exact s.ofValue?_of_spells depth a v hlegible h

theorem Fields.ofEntries?_of_spells : ∀ (fs : Fields) (depth position : Nat) (r : fs.Carrier)
    (entries : List (String × Value)), fs.isLegible = true → fs.Spells depth r entries →
    fs.ofEntries? depth position (identify entries) = some r
  | .nil, _, _, _, _, _, _ => by rw [Fields.ofEntries?]
  | .cons name s standIn rest, depth, position, (a, r), entries, hlegible, h => by
      rw [Fields.isLegible, Bool.and_eq_true] at hlegible
      rw [Fields.Spells] at h
      obtain ⟨hfield, hrest⟩ := h
      obtain ⟨value, hgiven, hvalue⟩ : ∃ value,
          givenOnce (s.absent standIn) (under name entries) = some value ∧
            s.Spells depth a value := by
        split at hfield
        · rename_i hunder
          rw [hunder]
          exact hfield
        · rename_i value hunder
          rw [hunder]
          exact ⟨value, rfl, hfield⟩
        · exact hfield.elim
      rw [Fields.ofEntries?, valuesAt_identify, hgiven, Option.bind_some,
        s.ofValue?_of_spells depth a value hlegible.1 hvalue, Option.bind_some,
        rest.ofEntries?_of_spells depth (position + 1) r entries hlegible.2 hrest, Option.map_some]

theorem Variants.select?_of_spells : ∀ (vs : Variants) (depth position : Nat) (x : vs.Carrier)
    (v : Value), vs.names.Nodup → vs.isLegible = true → vs.Spells depth x v →
    ∃ name content, name ∈ vs.names ∧ v = variantOf name content ∧
      vs.select? depth position (.name name.toUTF8) content = some x
  | .unit name rest, depth, position, .inl _, v, _, _, h => by
      rw [Variants.Spells] at h
      refine ⟨name, none, List.mem_cons_self, h, ?_⟩
      rw [Variants.select?, denotes_name, if_pos (by simp)]
  | .value name s rest, depth, position, .inl a, v, _, hlegible, h => by
      rw [Variants.isLegible, Bool.and_eq_true] at hlegible
      rw [Variants.Spells] at h
      obtain ⟨content, rfl, hcontent⟩ := h
      refine ⟨name, some content, List.mem_cons_self, rfl, ?_⟩
      rw [Variants.select?, denotes_name, if_pos (by simp), Option.bind_some,
        s.ofValue?_of_spells depth a content hlegible.1 hcontent, Option.map_some]
  | .fields name fs rest, depth, position, .inl r, v, _, hlegible, h => by
      rw [Variants.isLegible, Bool.and_eq_true, Bool.and_eq_true] at hlegible
      rw [Variants.Spells] at h
      obtain ⟨content, rfl, hcontent⟩ := h
      refine ⟨name, some content, List.mem_cons_self, rfl, ?_⟩
      rw [Variants.select?, denotes_name, if_pos (by simp), Option.bind_some,
        Fields.ofValue?_of_tells
          (fun depth entries => fs.ofEntries?_of_spells depth 0 r entries hlegible.1.2) hcontent,
        Option.map_some]
  | .unit name rest, depth, position, .inr x, v, hnames, hlegible, h => by
      rw [Variants.Spells] at h
      obtain ⟨other, content, hmem, hv, hselect⟩ :=
        rest.select?_of_spells depth (position + 1) x v hnames.of_cons hlegible h
      -- names are distinct, so the name of a later variant passes by this one
      refine ⟨other, content, List.mem_cons_of_mem _ hmem, hv, ?_⟩
      rw [Variants.select?.eq_def]
      dsimp only
      rw [denotes_name, if_neg (by simpa using ne_of_nodup hnames hmem), hselect, Option.map_some]
  | .value name s rest, depth, position, .inr x, v, hnames, hlegible, h => by
      rw [Variants.isLegible, Bool.and_eq_true] at hlegible
      rw [Variants.Spells] at h
      obtain ⟨other, content, hmem, hv, hselect⟩ :=
        rest.select?_of_spells depth (position + 1) x v hnames.of_cons hlegible.2 h
      refine ⟨other, content, List.mem_cons_of_mem _ hmem, hv, ?_⟩
      rw [Variants.select?, denotes_name, if_neg (by simpa using ne_of_nodup hnames hmem), hselect,
        Option.map_some]
  | .fields name fs rest, depth, position, .inr x, v, hnames, hlegible, h => by
      rw [Variants.isLegible, Bool.and_eq_true] at hlegible
      rw [Variants.Spells] at h
      obtain ⟨other, content, hmem, hv, hselect⟩ :=
        rest.select?_of_spells depth (position + 1) x v hnames.of_cons hlegible.2 h
      refine ⟨other, content, List.mem_cons_of_mem _ hmem, hv, ?_⟩
      rw [Variants.select?, denotes_name, if_neg (by simpa using ne_of_nodup hnames hmem), hselect,
        Option.map_some]

end

/-! ## §5  Writing -/

/-- The entries that a record is written as, under their names. -/
def Fields.listing : (fs : Fields) → fs.Carrier → List (String × Value)
  | .nil, _ => []
  | .cons name s _ rest, (a, r) => (name, s.toValue a) :: rest.listing r

theorem Fields.map_toEntries : ∀ (fs : Fields) (r : fs.Carrier),
    Value.map (fs.toEntries r) = mapOf (fs.listing r)
  | .nil, _ => rfl
  | .cons name s _ rest, (a, r) => by
      have hrest := rest.map_toEntries r
      rw [mapOf, Value.map.injEq] at hrest ⊢
      rw [Fields.toEntries, hrest, Fields.listing, List.map_cons]

theorem Fields.keys_listing : ∀ (fs : Fields) (r : fs.Carrier),
    (fs.listing r).map (·.1) = fs.names
  | .nil, _ => rfl
  | .cons name s _ rest, (a, r) => by
      rw [Fields.listing, List.map_cons, rest.keys_listing r, Fields.names]

theorem under_of_mem {e : String × Value} (hnodup : (entries.map (·.1)).Nodup) (he : e ∈ entries) :
    under e.1 entries = [e.2] := by
  induction entries with
  | nil => exact absurd he List.not_mem_nil
  | cons first rest ih =>
      rw [List.map_cons, List.nodup_cons] at hnodup
      rw [under, List.filter_cons]
      rcases List.mem_cons.mp he with rfl | he
      · have hothers : rest.filter (fun other => other.1 = e.1) = [] := by
          refine List.filter_eq_nil_iff.mpr fun other hother heq => hnodup.1 ?_
          exact (of_decide_eq_true heq) ▸ List.mem_map_of_mem hother
        rw [if_pos (decide_eq_true rfl), hothers]
        rfl
      · have hne : first.1 ≠ e.1 := fun heq => hnodup.1 (heq ▸ List.mem_map_of_mem he)
        rw [if_neg (by simpa using hne)]
        exact ih hnodup.2 he

/-- A record is written as a map that tells its fields. -/
theorem Fields.tells_listing {fs : Fields} {r : fs.Carrier} (hnamed : wellNamed fs.names = true)
    (hdepth : fs.levels + 1 ≤ depth)
    (hspells : ∀ depth entries, fs.levels ≤ depth →
      (∀ e ∈ fs.listing r, under e.1 entries = [e.2]) → fs.Spells depth r entries) :
    Tells fs.names (fun depth entries => fs.Spells depth r entries) depth
      (.map (fs.toEntries r)) := by
  cases depth with
  | zero => exact absurd hdepth (Nat.not_succ_le_zero _)
  | succ depth =>
      have hnodup : ((fs.listing r).map (·.1)).Nodup := by
        rw [fs.keys_listing r]
        exact nodup_of_wellNamed hnamed
      refine ⟨fs.listing r, fs.map_toEntries r, ?_, fun e he => .inl ?_⟩
      · exact hspells depth _ (Nat.le_of_succ_le_succ hdepth) fun e he => under_of_mem hnodup he
      · exact fs.keys_listing r ▸ List.mem_map_of_mem he

mutual

/-- What is written says what was meant. -/
theorem Schema.spells_toValue : ∀ (s : Schema) (depth : Nat) (a : s.Carrier),
    s.isLegible = true → s.levels ≤ depth → s.Spells depth a (s.toValue a)
  | .flag, _, _, _, _ | .word, _, _, _, _ | .count, _, _, _, _ | .long, _, _, _, _
  | .double, _, _, _, _ | .text, _, _, _, _ | .bytes, _, _, _, _ => by rw [Schema.Spells]
  | .span, depth, a, _, hdepth => by
      rw [Schema.Spells]
      exact ⟨Nat.ne_of_gt hdepth, rfl⟩
  | .option s, _, none, _, _ => by rw [Schema.Spells, Schema.toValue]
  | .option s, depth, some a, hlegible, hdepth => by
      rw [Schema.isLegible, Bool.and_eq_true] at hlegible
      rw [Schema.Spells, Schema.toValue]
      exact s.spells_toValue depth a hlegible.2 hdepth
  | .list s, 0, _, _, hdepth | .dict s, 0, _, _, hdepth => absurd hdepth (Nat.not_succ_le_zero _)
  | .list s, depth + 1, as, hlegible, hdepth => by
      rw [Schema.Spells, Schema.toValue]
      refine ⟨_, rfl, List.forall₂_map_right_iff.mpr (List.forall₂_same.mpr fun a _ => ?_)⟩
      exact s.spells_toValue depth a hlegible (Nat.le_of_succ_le_succ hdepth)
  | .dict s, depth + 1, d, hlegible, hdepth => by
      rw [Schema.Spells, Schema.toValue]
      refine ⟨d.entries, d.entries.map fun (key, a) => (key, s.toValue a), .refl _, ?_, ?_⟩
      · simp [mapOf]
      · refine List.forall₂_map_right_iff.mpr (List.forall₂_same.mpr fun e _ => ⟨rfl, ?_⟩)
        exact s.spells_toValue depth e.2 hlegible (Nat.le_of_succ_le_succ hdepth)
  | .record _ fs, depth, r, hlegible, hdepth => by
      rw [Schema.isLegible, Bool.and_eq_true] at hlegible
      rw [Schema.Spells, Schema.toValue]
      exact Fields.tells_listing hlegible.1 hdepth
        fun depth entries => fs.spells_of_under depth r entries hlegible.2
  | .choice vs, depth, x, hlegible, hdepth => by
      rw [Schema.isLegible, Bool.and_eq_true] at hlegible
      rw [Schema.Spells, Schema.toValue]
      exact vs.spells_toValue depth x hlegible.2 hdepth
  | .named _ s, depth, a, hlegible, hdepth => by
      rw [Schema.Spells, Schema.toValue]
      exact s.spells_toValue depth a hlegible hdepth

theorem Fields.spells_of_under : ∀ (fs : Fields) (depth : Nat) (r : fs.Carrier)
    (entries : List (String × Value)), fs.isLegible = true → fs.levels ≤ depth →
    (∀ e ∈ fs.listing r, under e.1 entries = [e.2]) → fs.Spells depth r entries
  | .nil, _, _, _, _, _, _ => by
      rw [Fields.Spells]
      trivial
  | .cons name s standIn rest, depth, (a, r), entries, hlegible, hdepth, h => by
      rw [Fields.isLegible, Bool.and_eq_true] at hlegible
      have hlevels := Nat.max_le.mp hdepth
      have hfirst : under name entries = [s.toValue a] := h (name, s.toValue a) List.mem_cons_self
      rw [Fields.Spells, hfirst]
      exact ⟨s.spells_toValue depth a hlegible.1 hlevels.1,
        rest.spells_of_under depth r entries hlegible.2 hlevels.2
          fun e he => h e (List.mem_cons_of_mem _ he)⟩

theorem Variants.spells_toValue : ∀ (vs : Variants) (depth : Nat) (x : vs.Carrier),
    vs.isLegible = true → vs.levels ≤ depth → vs.Spells depth x (vs.toValue x)
  | .unit name _, _, .inl _, _, _ => by rw [Variants.Spells, Variants.toValue]
  | .value name s rest, depth, .inl a, hlegible, hdepth => by
      rw [Variants.isLegible, Bool.and_eq_true] at hlegible
      rw [Variants.Spells, Variants.toValue]
      exact ⟨s.toValue a, rfl, s.spells_toValue depth a hlegible.1 (Nat.max_le.mp hdepth).1⟩
  | .fields name fs rest, depth, .inl r, hlegible, hdepth => by
      rw [Variants.isLegible, Bool.and_eq_true, Bool.and_eq_true] at hlegible
      rw [Variants.Spells, Variants.toValue]
      exact ⟨.map (fs.toEntries r), rfl, Fields.tells_listing hlegible.1.1 (Nat.max_le.mp hdepth).1
        fun depth entries => fs.spells_of_under depth r entries hlegible.1.2⟩
  | .unit _ rest, depth, .inr x, hlegible, hdepth => by
      rw [Variants.Spells, Variants.toValue]
      exact rest.spells_toValue depth x hlegible hdepth
  | .value _ _ rest, depth, .inr x, hlegible, hdepth => by
      rw [Variants.isLegible, Bool.and_eq_true] at hlegible
      rw [Variants.Spells, Variants.toValue]
      exact rest.spells_toValue depth x hlegible.2 (Nat.max_le.mp hdepth).2
  | .fields _ _ rest, depth, .inr x, hlegible, hdepth => by
      rw [Variants.isLegible, Bool.and_eq_true] at hlegible
      rw [Variants.Spells, Variants.toValue]
      exact rest.spells_toValue depth x hlegible.2 (Nat.max_le.mp hdepth).2

end

/-! ## §6  Lengths -/

mutual

/-- Whether all texts, byte strings, lists and dictionaries of a value are shorter than `2 ^ 32`. -/
def Schema.fits : (s : Schema) → s.Carrier → Bool
  | .flag, _ | .word, _ | .count, _ | .long, _ | .double, _ | .span, _ => true
  | .text, t => isShort t.utf8ByteSize
  | .bytes, b => isShort b.size
  | .option s, a => match a with
    | none => true
    | some a => s.fits a
  | .list s, as => isShort as.length && as.all s.fits
  | .dict s, d => isShort d.entries.length &&
      d.entries.all fun (key, a) => isShort key.utf8ByteSize && s.fits a
  | .record _ fields, r => fields.fits r
  | .choice variants, x => variants.fits x
  | .named _ s, a => s.fits a

def Fields.fits : (fs : Fields) → fs.Carrier → Bool
  | .nil, _ => true
  | .cons _ s _ rest, (a, r) => s.fits a && rest.fits r

def Variants.fits : (vs : Variants) → vs.Carrier → Bool
  | .unit _ _, .inl _ => true
  | .value _ s _, .inl a => s.fits a
  | .fields _ fs _, .inl r => fs.fits r
  | .unit _ rest, .inr x | .value _ _ rest, .inr x | .fields _ _ rest, .inr x => rest.fits x

end

theorem fits_ofString {t : String} (h : isShort t.utf8ByteSize = true) : (Value.ofString t).Fits :=
  lt_of_isShort h

theorem Fields.length_toEntries : ∀ (fs : Fields) (r : fs.Carrier),
    (fs.toEntries r).length = fs.names.length
  | .nil, _ => rfl
  | .cons _ _ _ rest, (_, r) => congrArg (· + 1) (rest.length_toEntries r)

/-- A record is short enough once its contents are. -/
theorem Fields.fits_record {fs : Fields} {r : fs.Carrier} (hnamed : wellNamed fs.names = true)
    (hentries : (∀ name ∈ fs.names, isShort name.utf8ByteSize = true) →
      Pack.EntriesFit (fs.toEntries r)) : (Value.map (fs.toEntries r)).Fits := by
  refine ⟨?_, hentries (size_of_wellNamed hnamed)⟩
  rw [fs.length_toEntries r]
  exact length_of_wellNamed hnamed

theorem fits_mapOf_single {content : Value} (hname : isShort name.utf8ByteSize = true)
    (hcontent : content.Fits) : (Value.map [(.ofString name, content)]).Fits :=
  ⟨by simp, fits_ofString hname, hcontent, trivial⟩

mutual

/-- Of a value whose lengths are below `2 ^ 32` all lengths can be written. -/
theorem Schema.fits_toValue : ∀ (s : Schema) (a : s.Carrier), s.isLegible = true → s.fits a = true →
    (s.toValue a).Fits
  | .flag, _, _, _ | .word, _, _, _ | .count, _, _, _ | .double, _, _, _ => trivial
  | .long, n, _, _ => by
      rw [Schema.toValue, Value.ofInt]
      split <;> trivial
  | .text, t, _, h => fits_ofString h
  | .bytes, _, _, h => lt_of_isShort h
  | .span, s, _, _ => by
      rw [Schema.toValue, Span.toValue]
      exact ⟨by simp, fits_ofString (by decide), trivial, fits_ofString (by decide), trivial,
        trivial⟩
  | .option _, none, _, _ => trivial
  | .option s, some a, hlegible, h => by
      rw [Schema.isLegible, Bool.and_eq_true] at hlegible
      rw [Schema.toValue]
      exact s.fits_toValue a hlegible.2 h
  | .list s, as, hlegible, h => by
      rw [Schema.fits, Bool.and_eq_true, List.all_eq_true] at h
      rw [Schema.toValue]
      refine ⟨by simpa using lt_of_isShort h.1, Pack.itemsFit_iff.mpr fun item hitem => ?_⟩
      obtain ⟨a, ha, rfl⟩ := List.mem_map.mp hitem
      exact s.fits_toValue a hlegible (h.2 a ha)
  | .dict s, d, hlegible, h => by
      rw [Schema.fits, Bool.and_eq_true, List.all_eq_true] at h
      rw [Schema.toValue]
      refine ⟨by simpa using lt_of_isShort h.1, Pack.entriesFit_iff.mpr fun entry hentry => ?_⟩
      obtain ⟨e, he, rfl⟩ := List.mem_map.mp hentry
      have hshort := Bool.and_eq_true_iff.mp (h.2 e he)
      exact ⟨fits_ofString hshort.1, s.fits_toValue e.2 hlegible hshort.2⟩
  | .record _ fs, r, hlegible, h => by
      rw [Schema.isLegible, Bool.and_eq_true] at hlegible
      rw [Schema.toValue]
      exact Fields.fits_record hlegible.1 fun hnames => fs.fits_toEntries r hnames hlegible.2 h
  | .choice vs, x, hlegible, h => by
      rw [Schema.isLegible, Bool.and_eq_true] at hlegible
      rw [Schema.toValue]
      exact vs.fits_toValue x (size_of_wellNamed hlegible.1) hlegible.2 h
  | .named _ s, a, hlegible, h => by
      rw [Schema.toValue]
      exact s.fits_toValue a hlegible h

theorem Fields.fits_toEntries : ∀ (fs : Fields) (r : fs.Carrier),
    (∀ name ∈ fs.names, isShort name.utf8ByteSize = true) → fs.isLegible = true → fs.fits r = true →
    Pack.EntriesFit (fs.toEntries r)
  | .nil, _, _, _, _ => trivial
  | .cons name s _ rest, (a, r), hnames, hlegible, h => by
      rw [Fields.isLegible, Bool.and_eq_true] at hlegible
      rw [Fields.fits, Bool.and_eq_true] at h
      exact ⟨fits_ofString (hnames name List.mem_cons_self), s.fits_toValue a hlegible.1 h.1,
        rest.fits_toEntries r (fun other hother => hnames other (List.mem_cons_of_mem _ hother))
          hlegible.2 h.2⟩

theorem Variants.fits_toValue : ∀ (vs : Variants) (x : vs.Carrier),
    (∀ name ∈ vs.names, isShort name.utf8ByteSize = true) → vs.isLegible = true → vs.fits x = true →
    (vs.toValue x).Fits
  | .unit name _, .inl _, hnames, _, _ => fits_ofString (hnames name List.mem_cons_self)
  | .value name s rest, .inl a, hnames, hlegible, h => by
      rw [Variants.isLegible, Bool.and_eq_true] at hlegible
      exact fits_mapOf_single (hnames name List.mem_cons_self) (s.fits_toValue a hlegible.1 h)
  | .fields name fs rest, .inl r, hnames, hlegible, h => by
      rw [Variants.isLegible, Bool.and_eq_true, Bool.and_eq_true] at hlegible
      exact fits_mapOf_single (hnames name List.mem_cons_self)
        (Fields.fits_record hlegible.1.1 fun hfields => fs.fits_toEntries r hfields hlegible.1.2 h)
  | .unit _ rest, .inr x, hnames, hlegible, h =>
      rest.fits_toValue x (fun other hother => hnames other (List.mem_cons_of_mem _ hother))
        hlegible h
  | .value _ _ rest, .inr x, hnames, hlegible, h => by
      rw [Variants.isLegible, Bool.and_eq_true] at hlegible
      exact rest.fits_toValue x (fun other hother => hnames other (List.mem_cons_of_mem _ hother))
        hlegible.2 h
  | .fields _ _ rest, .inr x, hnames, hlegible, h => by
      rw [Variants.isLegible, Bool.and_eq_true] at hlegible
      exact rest.fits_toValue x (fun other hother => hnames other (List.mem_cons_of_mem _ hother))
        hlegible.2 h

end

/-! ## §7  Described types -/

section

variable {α : Type} [Described α] {m : α}

/-- Whether all lengths of a message are below `2 ^ 32`. -/
def Fits (m : α) : Prop := (schema α).fits (toCarrier m) = true

instance (m : α) : Decidable (Fits m) := inferInstanceAs (Decidable (_ = true))

/-- Whether a value says a message and is nested no deeper than a reader allows. -/
def Means (v : Value) (m : α) : Prop := (schema α).Spells depthLimit (toCarrier m) v

/-- Types whose messages can be told apart and are nested no deeper than a reader allows. -/
def IsLegible (α : Type) [Described α] : Prop :=
  (schema α).isLegible = true ∧ (schema α).levels ≤ depthLimit

/-- A value that says a message is read as that message, whichever way it is written down and
whatever follows it. -/
theorem decode?_of_written {bytes : ByteArray} (hlegible : IsLegible α) (hmeans : Means v m)
    (hwritten : v.Written bytes.data.toList) (rest : ByteArray) :
    decode? α (bytes ++ rest) = some m := by
  have hread := (schema α).ofValue?_of_spells depthLimit _ v hlegible.1 hmeans
  rw [decode?, Schema.decode?, ByteArray.toList_data_append, Pack.parse_of_written hwritten,
    Option.bind_some]
  dsimp only
  rw [hread, Option.map_some, ofCarrier_toCarrier]

theorem decode?_of_means (hlegible : IsLegible α) (hmeans : Means v m) (hfits : v.Fits)
    (rest : ByteArray) : decode? α (v.encode ++ rest) = some m :=
  decode?_of_written hlegible hmeans (v.written_encode hfits) rest

theorem means_toValue (hlegible : IsLegible α) (m : α) :
    Means ((schema α).toValue (toCarrier m)) m :=
  (schema α).spells_toValue depthLimit _ hlegible.1 hlegible.2

/-- Reading undoes writing. -/
theorem decode?_encode (hlegible : IsLegible α) (hfits : Fits m) (rest : ByteArray) :
    decode? α (encode m ++ rest) = some m :=
  decode?_of_means hlegible (means_toValue hlegible m)
    ((schema α).fits_toValue _ hlegible.1 hfits) rest

end

end GraphDriver
