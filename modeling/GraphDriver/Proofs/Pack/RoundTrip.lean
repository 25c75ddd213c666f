import GraphDriver.Proofs.Pack.Spelling

/-!
# Reading back values

What `Value.encode` writes, `parse` reads back, whatever bytes follow: it is one spelling among
others. The only condition is that every length in the value can be written at all, that is, in four
bytes.

* §1 heads
* §2 lengths that can be written
* §3 values
-/

namespace GraphDriver.Pack

variable {count : Nat}

/-! ## §1  Heads -/

namespace Head

theorem written_unsigned (n : UInt64) :
    (Head.scalar (.unsigned n)).Written (unsignedHead n.toNat) := by
  unfold unsignedHead
  -- a small number is its own marker; the others follow one, in the narrowest width that fits
  split
  · exact .smallUnsigned n ‹_›
  split
  · exact .unsigned 0xcc 1 n (by simp) ‹_›
  split
  · exact .unsigned 0xcd 2 n (by simp) ‹_›
  split
  · exact .unsigned 0xce 4 n (by simp) ‹_›
  · exact .unsigned 0xcf 8 n (by simp) n.toNat_lt

theorem written_signed (n : Int64) : (Head.scalar (.signed n)).Written (signedHead n.toInt) := by
  have hlower : -0x8000000000000000 ≤ n.toInt := n.minValue_le_toInt
  have hupper : n.toInt < 0x8000000000000000 := n.toInt_lt
  unfold signedHead
  split
  · rename_i h
    exact .smallSigned n h.1 h.2
  split
  · exact .signed 0xd0 1 n (by simp) (by omega) (by omega)
  split
  · exact .signed 0xd1 2 n (by simp) (by omega) (by omega)
  split
  · exact .signed 0xd2 4 n (by simp) (by omega) (by omega)
  · exact .signed 0xd3 8 n (by simp) (by omega) (by omega)

theorem written_text (bytes : ByteArray) (h : bytes.size < 0x100000000) :
    (Head.scalar (.text bytes)).Written (textHead bytes.size ++ bytes.data.toList) := by
  unfold textHead
  split
  · exact .shortText bytes ‹_›
  split
  · exact .text 0xd9 1 bytes (by simp) ‹_›
  split
  · exact .text 0xda 2 bytes (by simp) ‹_›
  · exact .text 0xdb 4 bytes (by simp) h

theorem written_binary (bytes : ByteArray) (h : bytes.size < 0x100000000) :
    (Head.scalar (.binary bytes)).Written (binaryHead bytes.size ++ bytes.data.toList) := by
  unfold binaryHead
  split
  · exact .binary 0xc4 1 bytes (by simp) ‹_›
  split
  · exact .binary 0xc5 2 bytes (by simp) ‹_›
  · exact .binary 0xc6 4 bytes (by simp) h

theorem written_array (h : count < 0x100000000) : (Head.array count).Written (arrayHead count) := by
  unfold arrayHead
  split
  · exact .shortArray count ‹_›
  split
  · exact .array 0xdc 2 count (by simp) ‹_›
  · exact .array 0xdd 4 count (by simp) h

theorem written_map (h : count < 0x100000000) : (Head.map count).Written (mapHead count) := by
  unfold mapHead
  split
  · exact .shortMap count ‹_›
  split
  · exact .map 0xde 2 count (by simp) ‹_›
  · exact .map 0xdf 4 count (by simp) h

theorem written_extension (kind : UInt8) (bytes : ByteArray) (h : bytes.size < 0x100000000) :
    (Head.scalar (.extension kind bytes)).Written
      (extensionHead kind bytes.size ++ bytes.data.toList) := by
  unfold extensionHead
  dsimp only
  rw [List.append_assoc]
  -- the five sizes that have a marker of their own
  iterate 5
    split
    · rename_i hsize
      exact .fixedExtension _ kind bytes (by simp [hsize])
  split
  · exact .extension 0xc7 1 kind bytes (by simp) ‹_›
  split
  · exact .extension 0xc8 2 kind bytes (by simp) ‹_›
  · exact .extension 0xc9 4 kind bytes (by simp) h

end Head

/-! ## §2  Lengths that can be written -/

mutual

/-- Every text, byte string, array and map in a value is shorter than `2 ^ 32`. -/
def Value.Fits : Value → Prop
  | .text bytes | .binary bytes | .extension _ bytes => bytes.size < 0x100000000
  | .array items => items.length < 0x100000000 ∧ ItemsFit items
  | .map entries => entries.length < 0x100000000 ∧ EntriesFit entries
  | _ => True

def ItemsFit : List Value → Prop
  | [] => True
  | item :: rest => item.Fits ∧ ItemsFit rest

def EntriesFit : List (Value × Value) → Prop
  | [] => True
  | (key, value) :: rest => key.Fits ∧ value.Fits ∧ EntriesFit rest

end

theorem itemsFit_iff {items : List Value} : ItemsFit items ↔ ∀ item ∈ items, item.Fits := by
  induction items with
  | nil => simp [ItemsFit]
  | cons item rest ih => simp [ItemsFit, ih]

theorem entriesFit_iff {entries : List (Value × Value)} :
    EntriesFit entries ↔ ∀ e ∈ entries, e.1.Fits ∧ e.2.Fits := by
  induction entries with
  | nil => simp [EntriesFit]
  | cons e rest ih => simp [EntriesFit, ih, and_assoc]

/-- A value takes at least one byte. -/
theorem Value.size_encode_pos (v : Value) : 0 < v.encode.size := by
  have hhead (head : List UInt8) (bytes : ByteArray) (h : head ≠ []) :
      0 < (head.toByteArray ++ bytes).size := by
    have := List.length_pos_iff.mpr h
    simp only [ByteArray.size_append, List.size_toByteArray]
    omega
  have hbare (head : List UInt8) (h : head ≠ []) : 0 < head.toByteArray.size := by
    simpa using List.length_pos_iff.mpr h
  cases v with
  | nil => decide
  | bool b => cases b <;> decide
  | unsigned n => exact hbare _ (by grind [unsignedHead, tagged])
  | signed n => exact hbare _ (by grind [signedHead, tagged])
  | single bits => exact hbare _ (by simp [tagged])
  | double bits => exact hbare _ (by simp [tagged])
  | text bytes => exact hhead _ _ (by grind [textHead, tagged])
  | binary bytes => exact hhead _ _ (by grind [binaryHead, tagged])
  | array items => exact hhead _ _ (by grind [arrayHead, tagged])
  | map entries => exact hhead _ _ (by grind [mapHead, tagged])
  | extension kind bytes => exact hhead _ _ (by simp [extensionHead])

theorem length_le_size_encodeItems (items : List Value) :
    items.length ≤ (encodeItems items).size := by
  induction items with
  | nil => simp
  | cons item rest ih =>
      have := item.size_encode_pos
      simp only [List.length_cons, encodeItems, ByteArray.size_append]
      omega

theorem length_le_size_encodeEntries (entries : List (Value × Value)) :
    entries.length ≤ (encodeEntries entries).size := by
  induction entries with
  | nil => simp
  | cons e rest ih =>
      obtain ⟨key, value⟩ := e
      have := key.size_encode_pos
      simp only [List.length_cons, encodeEntries, ByteArray.size_append]
      omega

mutual

/-- In less than `2 ^ 32` bytes there is no length that cannot be written. -/
theorem Value.fits_of_size : ∀ v : Value, v.encode.size < 0x100000000 → v.Fits
  | .nil, _ | .bool _, _ | .unsigned _, _ | .signed _, _ | .single _, _ | .double _, _ => trivial
  | .text bytes, h | .binary bytes, h | .extension _ bytes, h => by
      simp only [Value.encode, ByteArray.size_append] at h
      exact Nat.lt_of_le_of_lt (Nat.le_add_left _ _) h
  | .array items, h => by
      simp only [Value.encode, ByteArray.size_append] at h
      have hitems := Nat.lt_of_le_of_lt (Nat.le_add_left _ _) h
      exact ⟨Nat.lt_of_le_of_lt (length_le_size_encodeItems items) hitems,
        itemsFit_of_size items hitems⟩
  | .map entries, h => by
      simp only [Value.encode, ByteArray.size_append] at h
      have hentries := Nat.lt_of_le_of_lt (Nat.le_add_left _ _) h
      exact ⟨Nat.lt_of_le_of_lt (length_le_size_encodeEntries entries) hentries,
        entriesFit_of_size entries hentries⟩

theorem itemsFit_of_size : ∀ items, (encodeItems items).size < 0x100000000 → ItemsFit items
  | [], _ => trivial
  | item :: rest, h => by
      simp only [encodeItems, ByteArray.size_append] at h
      exact ⟨item.fits_of_size (by omega), itemsFit_of_size rest (by omega)⟩

theorem entriesFit_of_size :
    ∀ entries, (encodeEntries entries).size < 0x100000000 → EntriesFit entries
  | [], _ => trivial
  | (key, value) :: rest, h => by
      simp only [encodeEntries, ByteArray.size_append] at h
      exact ⟨key.fits_of_size (by omega), value.fits_of_size (by omega),
        entriesFit_of_size rest (by omega)⟩

end

/-! ## §3  Values -/

mutual

/-- What is written of a value is one of its spellings. -/
theorem Value.written_encode : ∀ v : Value, v.Fits → v.Written v.encode.data.toList
  | .nil, _ => .nil
  | .bool false, _ => .no
  | .bool true, _ => .yes
  | .unsigned n, _ => by simpa [Value.encode, Value.Written] using Head.written_unsigned n
  | .signed n, _ => by simpa [Value.encode, Value.Written] using Head.written_signed n
  | .single bits, _ => by simpa [Value.encode, Value.Written] using Head.Written.single bits
  | .double bits, _ => by simpa [Value.encode, Value.Written] using Head.Written.double bits
  | .text bytes, h => by simpa [Value.encode, Value.Written] using Head.written_text bytes h
  | .binary bytes, h => by simpa [Value.encode, Value.Written] using Head.written_binary bytes h
  | .extension kind bytes, h => by
      simpa [Value.encode, Value.Written] using Head.written_extension kind bytes h
  | .array items, h => by
      rw [Value.encode, ByteArray.toList_data_append, List.data_toByteArray]
      exact ⟨_, _, rfl, Head.written_array h.1, itemsWritten_encodeItems items h.2⟩
  | .map entries, h => by
      rw [Value.encode, ByteArray.toList_data_append, List.data_toByteArray]
      exact ⟨_, _, rfl, Head.written_map h.1, entriesWritten_encodeEntries entries h.2⟩

theorem itemsWritten_encodeItems : ∀ items, ItemsFit items →
    ItemsWritten items (encodeItems items).data.toList
  | [], _ => rfl
  | item :: items, h => by
      rw [encodeItems, ByteArray.toList_data_append]
      exact ⟨_, _, rfl, item.written_encode h.1, itemsWritten_encodeItems items h.2⟩

theorem entriesWritten_encodeEntries : ∀ entries, EntriesFit entries →
    EntriesWritten entries (encodeEntries entries).data.toList
  | [], _ => rfl
  | (key, value) :: entries, h => by
      rw [encodeEntries, ByteArray.toList_data_append, ByteArray.toList_data_append]
      exact ⟨_, _, _, rfl, key.written_encode h.1, value.written_encode h.2.1,
        entriesWritten_encodeEntries entries h.2.2⟩

end

/-- **Reading undoes writing.** A value whose lengths can be written is read back from the front of
its bytes, whatever follows them. -/
theorem parse_encode {v : Value} (h : v.Fits) (rest : List UInt8) :
    parse (v.encode.data.toList ++ rest) = some (v, rest) :=
  parse_of_written (v.written_encode h) rest

end GraphDriver.Pack
