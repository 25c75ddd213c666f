import GraphDriver.Message.Catalogue
import GraphDriver.Message.Unary
import GraphDriver.Proofs.Schema.RoundTrip

/-!
# Messages on the wire

Nothing is lost between the ends of a connection. The schemas of all messages keep names apart and
are shallow, so that a message is read back from its bytes, whichever order a writer gives to the
entries of its maps.
-/

namespace GraphDriver

/-- Every type of the catalogue is legible. -/
theorem Catalogue.legible :
    ∀ e ∈ entries, e.2.isLegible = true ∧ e.2.levels ≤ depthLimit := by
  decide +kernel

/-- A message is what any of its spellings is read as, the one that is written among them, whatever
bytes follow. -/
theorem decode?_of_catalogue {α : Type} [Described α] {name : String}
    (hmem : (name, schema α) ∈ Catalogue.entries) {m : α} (hfits : Fits m) (rest : ByteArray) :
    decode? α (encode m ++ rest) = some m ∧
      ∀ v : Pack.Value, Means v m → v.Fits → decode? α (v.encode ++ rest) = some m :=
  have hlegible : IsLegible α := Catalogue.legible _ hmem
  ⟨decode?_encode hlegible hfits rest,
    fun _ hmeans hv => decode?_of_means hlegible hmeans hv rest⟩

/-- A message that is written in less than `2 ^ 32` bytes is read back. -/
theorem decode?_of_size {α : Type} [Described α] {name : String}
    (hmem : (name, schema α) ∈ Catalogue.entries) {m : α} (hsize : (encode m).size < 0x100000000) :
    decode? α (encode m) = some m := by
  have hlegible : IsLegible α := Catalogue.legible _ hmem
  have hread := decode?_of_means hlegible (means_toValue hlegible m)
    (Pack.Value.fits_of_size _ hsize) .empty
  rwa [ByteArray.append_empty] at hread

/-- **The wire is lossless.** A message whose texts, byte strings, lists and maps are shorter than
`2 ^ 32` is read back from the bytes that are written of it, whatever bytes follow. The entries of
its maps may as well be written in any other order, and anything else that spells the message is
read as it. -/
theorem wire_is_lossless (rest : ByteArray) :
    (∀ m : ClientMessage, Fits m → decode? ClientMessage (encode m ++ rest) = some m ∧
      ∀ v, Means v m → v.Fits → decode? ClientMessage (v.encode ++ rest) = some m) ∧
    (∀ m : ServerMessage, Fits m → decode? ServerMessage (encode m ++ rest) = some m ∧
      ∀ v, Means v m → v.Fits → decode? ServerMessage (v.encode ++ rest) = some m) ∧
    (∀ m : UnaryRequest, Fits m → decode? UnaryRequest (encode m ++ rest) = some m ∧
      ∀ v, Means v m → v.Fits → decode? UnaryRequest (v.encode ++ rest) = some m) ∧
    (∀ m : UnaryResponse, Fits m → decode? UnaryResponse (encode m ++ rest) = some m ∧
      ∀ v, Means v m → v.Fits → decode? UnaryResponse (v.encode ++ rest) = some m) ∧
    (∀ m : ServerError, Fits m → decode? ServerError (encode m ++ rest) = some m ∧
      ∀ v, Means v m → v.Fits → decode? ServerError (v.encode ++ rest) = some m) := by
  have hmem (name : String) (s : Schema) (h : (name, s) ∈ Catalogue.entries) := h
  refine ⟨fun m hm => ?_, fun m hm => ?_, fun m hm => ?_, fun m hm => ?_, fun m hm => ?_⟩
  · exact decode?_of_catalogue (hmem "ClientMessage" _ (by simp [Catalogue.entries])) hm rest
  · exact decode?_of_catalogue (hmem "ServerMessage" _ (by simp [Catalogue.entries])) hm rest
  · exact decode?_of_catalogue (hmem "UnaryRequest" _ (by simp [Catalogue.entries])) hm rest
  · exact decode?_of_catalogue (hmem "UnaryResponse" _ (by simp [Catalogue.entries])) hm rest
  · exact decode?_of_catalogue (hmem "ServerError" _ (by simp [Catalogue.entries])) hm rest

/-- A part of an answer that maps three variables: to the least of all longs, to a double that is
not a number and to the root of all types. -/
def answerPart : ServerMessage :=
  .responsePart ⟨⟨0xffffffff⟩, .query (.match [.ofList [
    ("x", .attribute ⟨⟨[0, 255].toByteArray⟩, ⟨some "person", "näme"⟩, true,
      .long (-0x8000000000000000)⟩),
    ("not a number", .attribute ⟨⟨.empty⟩, ⟨none, "height"⟩, false, .double ⟨0x7ff8000000000001⟩⟩),
    ("", .rootThingType)]])⟩

/-- An error with its fields in another order and an entry that nobody asks for. -/
def reorderedError : Pack.Value :=
  mapOf [("message", .ofString "no"), ("trace", .array [.nil]), ("code", .ofString "Internal")]

theorem means_reorderedError : Means reorderedError (⟨.internal, "no"⟩ : ServerError) := by
  refine ⟨_, rfl, ⟨?code, ?message, trivial⟩, ?others⟩
  case code => exact rfl
  case message => exact rfl
  case others => decide

theorem wire_is_lossless_nested :
    (Fits answerPart ∧
      decode? ServerMessage (encode answerPart ++ [0xc1].toByteArray) = some answerPart) ∧
    (Means reorderedError (⟨.internal, "no"⟩ : ServerError) ∧ reorderedError.Fits ∧
      decode? ServerError (reorderedError.encode ++ [0xc1].toByteArray) =
        some ⟨.internal, "no"⟩) := by
  have hpart : Fits answerPart := by decide +kernel
  have herror : Fits (⟨.internal, "no"⟩ : ServerError) := by decide +kernel
  have hshort : reorderedError.Fits := Pack.Value.fits_of_size _ (by decide +kernel)
  obtain ⟨-, hserver, -, -, hfailure⟩ := wire_is_lossless [0xc1].toByteArray
  exact ⟨⟨hpart, (hserver answerPart hpart).1⟩, means_reorderedError, hshort,
    (hfailure _ herror).2 _ means_reorderedError hshort⟩

end GraphDriver
