import GraphDriver.Pack.Parse
import Mathlib.Algebra.Group.Nat.Defs
import Mathlib.Data.List.Induction
import Mathlib.Tactic.FinCases

/-!
# Spellings of values

The same value can be written in several ways: a number, a length or a count may take more bytes
than it needs, and the marker before it tells how many it takes. `Value.Written` holds of every byte
string that spells a value. `parse` reads any of them, and it takes exactly the bytes of the value,
whatever follows.

* §1 numbers
* §2 heads
* §3 values
-/

namespace GraphDriver.Pack

variable {width n : Nat} {rest : List UInt8}

/-! ## §1  Numbers -/

@[simp] theorem length_bigEndian (width n : Nat) : (bigEndian width n).length = width := by
  induction width generalizing n with
  | zero => rfl
  | succ width ih => simp [bigEndian, ih]

theorem ofBigEndian_snoc (bytes : List UInt8) (byte : UInt8) :
    ofBigEndian (bytes ++ [byte]) = ofBigEndian bytes * 256 + byte.toNat := by
  simp [ofBigEndian]

theorem ofBigEndian_bigEndian (width n : Nat) :
    ofBigEndian (bigEndian width n) = n % 256 ^ width := by
  induction width generalizing n with
  | zero => simp [bigEndian, ofBigEndian, Nat.mod_one]
  | succ width ih =>
      have hbyte : (UInt8.ofNat n).toNat = n % 256 := by simp
      rw [bigEndian, ofBigEndian_snoc, ih, hbyte, Nat.pow_succ, Nat.mul_comm (256 ^ width),
        Nat.mod_mul]
      omega

theorem ofBigEndian_lt (bytes : List UInt8) : ofBigEndian bytes < 256 ^ bytes.length := by
  induction bytes using List.reverseRecOn with
  | nil => simp [ofBigEndian]
  | append_singleton bytes byte ih =>
      have hbyte := byte.toNat_lt
      rw [ofBigEndian_snoc, List.length_append, List.length_singleton, Nat.pow_succ]
      omega

theorem bigEndian_ofBigEndian (bytes : List UInt8) :
    bigEndian bytes.length (ofBigEndian bytes) = bytes := by
  induction bytes using List.reverseRecOn with
  | nil => rfl
  | append_singleton bytes byte ih =>
      have hbyte := byte.toNat_lt
      have hhigh : (ofBigEndian bytes * 256 + byte.toNat) / 256 = ofBigEndian bytes := by omega
      have hlow : UInt8.ofNat (ofBigEndian bytes * 256 + byte.toNat) = byte := by
        refine UInt8.toNat_inj.mp ?_
        rw [UInt8.toNat_ofNat']
        omega
      rw [ofBigEndian_snoc, List.length_append, List.length_singleton, bigEndian, hhigh, hlow, ih]

theorem takeBytes_append {front : List UInt8} (h : front.length = n) (rest : List UInt8) :
    takeBytes n (front ++ rest) = some (front, rest) := by
  subst h
  simp [takeBytes]

theorem takeNumber_bigEndian (h : n < 256 ^ width) (rest : List UInt8) :
    takeNumber width (bigEndian width n ++ rest) = some (n, rest) := by
  rw [takeNumber, takeBytes_append (length_bigEndian width n), Option.map_some]
  dsimp only
  rw [ofBigEndian_bigEndian, Nat.mod_eq_of_lt h]

theorem numeric_bigEndian (width : Nat) (make : Nat → Head) (h : n < 256 ^ width)
    (rest : List UInt8) :
    numeric make width (bigEndian width n ++ rest) = some (make n, rest) := by
  rw [numeric, takeNumber_bigEndian h, Option.map_some]

theorem contents_append (make : ByteArray → Value) (bytes : ByteArray) (rest : List UInt8) :
    contents make bytes.size (bytes.data.toList ++ rest) = some (.scalar (make bytes), rest) := by
  have hfront : bytes.data.toList.toByteArray = bytes := ByteArray.ext (by simp)
  rw [contents, takeBytes_append (by simp), Option.map_some]
  dsimp only
  rw [hfront]

theorem sized_append (width : Nat) (make : ByteArray → Value) (bytes : ByteArray)
    (h : bytes.size < 256 ^ width) (rest : List UInt8) :
    sized make width (bigEndian width bytes.size ++ (bytes.data.toList ++ rest)) =
      some (.scalar (make bytes), rest) := by
  rw [sized, takeNumber_bigEndian h, Option.bind_some]
  exact contents_append make bytes rest

/-- A number in two's complement is read back if it has a sign bit to spare. -/
theorem signedOf_twosComplement (n : Int64) (hlower : -(256 ^ width : Nat) ≤ 2 * n.toInt)
    (hupper : 2 * n.toInt < (256 ^ width : Nat)) :
    signedOf width (n.toInt % (256 ^ width : Nat)).toNat = .signed n := by
  have hmodulus : 1 <<< (8 * width) = 256 ^ width := by
    rw [Nat.one_shiftLeft, Nat.pow_mul]
  have hpos : (0 : Int) < (256 ^ width : Nat) := by omega
  have hcast : (((n.toInt % (256 ^ width : Nat)).toNat : Nat) : Int) =
      n.toInt % (256 ^ width : Nat) :=
    Int.toNat_of_nonneg (Int.emod_nonneg _ (Int.ne_of_gt hpos))
  rw [signedOf, hmodulus, hcast, Int.emod_bmod, Int.bmod_eq_of_le_mul_two (by omega) (by omega),
    Int64.ofInt_toInt]

/-! ## §2  Heads -/

theorem toNat_marker (h : n < 256) : (UInt8.ofNat n).toNat = n := by
  rw [UInt8.toNat_ofNat', Nat.mod_eq_of_lt h]

/-- The spellings of a head. A small number, length or count has a marker of its own; any other
follows a marker that tells in how many bytes it is written. -/
inductive Head.Written : Head → List UInt8 → Prop
  | nil : Written (.scalar .nil) [0xc0]
  | no : Written (.scalar (.bool false)) [0xc2]
  | yes : Written (.scalar (.bool true)) [0xc3]
  | smallUnsigned (n : UInt64) (h : n.toNat < 128) :
      Written (.scalar (.unsigned n)) [UInt8.ofNat n.toNat]
  | unsigned (marker : UInt8) (width : Nat) (n : UInt64)
      (hmarker : (marker, width) ∈ [(0xcc, 1), (0xcd, 2), (0xce, 4), (0xcf, 8)])
      (h : n.toNat < 256 ^ width) : Written (.scalar (.unsigned n)) (tagged marker width n.toNat)
  | smallSigned (n : Int64) (hlower : -32 ≤ n.toInt) (hupper : n.toInt < 0) :
      Written (.scalar (.signed n)) [UInt8.ofNat (n.toInt + 256).toNat]
  | signed (marker : UInt8) (width : Nat) (n : Int64)
      (hmarker : (marker, width) ∈ [(0xd0, 1), (0xd1, 2), (0xd2, 4), (0xd3, 8)])
      (hlower : -(256 ^ width : Nat) ≤ 2 * n.toInt) (hupper : 2 * n.toInt < (256 ^ width : Nat)) :
      Written (.scalar (.signed n)) (tagged marker width (n.toInt % (256 ^ width : Nat)).toNat)
  | single (bits : UInt32) : Written (.scalar (.single bits)) (tagged 0xca 4 bits.toNat)
  | double (bits : UInt64) : Written (.scalar (.double bits)) (tagged 0xcb 8 bits.toNat)
  | shortText (bytes : ByteArray) (h : bytes.size < 32) :
      Written (.scalar (.text bytes)) (UInt8.ofNat (0xa0 + bytes.size) :: bytes.data.toList)
  | text (marker : UInt8) (width : Nat) (bytes : ByteArray)
      (hmarker : (marker, width) ∈ [(0xd9, 1), (0xda, 2), (0xdb, 4)])
      (h : bytes.size < 256 ^ width) :
      Written (.scalar (.text bytes)) (tagged marker width bytes.size ++ bytes.data.toList)
  | binary (marker : UInt8) (width : Nat) (bytes : ByteArray)
      (hmarker : (marker, width) ∈ [(0xc4, 1), (0xc5, 2), (0xc6, 4)])
      (h : bytes.size < 256 ^ width) :
      Written (.scalar (.binary bytes)) (tagged marker width bytes.size ++ bytes.data.toList)
  | fixedExtension (marker kind : UInt8) (bytes : ByteArray)
      (hmarker : (marker, bytes.size) ∈
        [(0xd4, 1), (0xd5, 2), (0xd6, 4), (0xd7, 8), (0xd8, 16)]) :
      Written (.scalar (.extension kind bytes)) (marker :: kind :: bytes.data.toList)
  | extension (marker : UInt8) (width : Nat) (kind : UInt8) (bytes : ByteArray)
      (hmarker : (marker, width) ∈ [(0xc7, 1), (0xc8, 2), (0xc9, 4)])
      (h : bytes.size < 256 ^ width) :
      Written (.scalar (.extension kind bytes))
        (tagged marker width bytes.size ++ kind :: bytes.data.toList)
  | shortArray (count : Nat) (h : count < 16) : Written (.array count) [UInt8.ofNat (0x90 + count)]
  | array (marker : UInt8) (width count : Nat)
      (hmarker : (marker, width) ∈ [(0xdc, 2), (0xdd, 4)]) (h : count < 256 ^ width) :
      Written (.array count) (tagged marker width count)
  | shortMap (count : Nat) (h : count < 16) : Written (.map count) [UInt8.ofNat (0x80 + count)]
  | map (marker : UInt8) (width count : Nat)
      (hmarker : (marker, width) ∈ [(0xde, 2), (0xdf, 4)]) (h : count < 256 ^ width) :
      Written (.map count) (tagged marker width count)

theorem Head.Written.ne_nil {head : Head} {bytes : List UInt8} (h : head.Written bytes) :
    bytes ≠ [] := by
  cases h <;> simp [tagged]

theorem extensionOf_cons (kind : UInt8) (bytes : ByteArray) (rest : List UInt8) :
    extensionOf bytes.size (kind :: (bytes.data.toList ++ rest)) =
      some (.scalar (.extension kind bytes), rest) :=
  contents_append (.extension kind) bytes rest

theorem takeNumber_extension (width : Nat) (kind : UInt8) (bytes : ByteArray)
    (h : bytes.size < 256 ^ width) (rest : List UInt8) :
    (takeNumber width (bigEndian width bytes.size ++ (kind :: (bytes.data.toList ++ rest)))).bind
      (fun (length, rest) => extensionOf length rest) =
      some (.scalar (.extension kind bytes), rest) := by
  rw [takeNumber_bigEndian h, Option.bind_some]
  exact extensionOf_cons kind bytes rest

/-- Any spelling of a head is read as that head, up to its last byte. -/
theorem Head.parse_of_written {head : Head} {bytes : List UInt8} (h : head.Written bytes)
    (rest : List UInt8) : Head.parse (bytes ++ rest) = some (head, rest) := by
  cases h with
  | nil | no | yes => rfl
  | smallUnsigned n h =>
      rw [List.singleton_append, Head.parse, toNat_marker (by omega), if_pos h, UInt64.ofNat_toNat]
  | unsigned marker width n hmarker h =>
      have hnumber := numeric_bigEndian width (fun n => .scalar (.unsigned (UInt64.ofNat n))) h rest
      rw [UInt64.ofNat_toNat] at hnumber
      fin_cases hmarker <;> exact hnumber
  | smallSigned n hlower hupper =>
      have hmarker : (UInt8.ofNat (n.toInt + 256).toNat).toNat = (n.toInt + 256).toNat :=
        toNat_marker (by omega)
      have hback : (((n.toInt + 256).toNat : Nat) : Int) - 256 = n.toInt := by omega
      rw [List.singleton_append, Head.parse, hmarker, if_neg (by omega), if_neg (by omega),
        if_neg (by omega), if_neg (by omega), if_pos (by omega), hback, Int64.ofInt_toInt]
  | signed marker width n hmarker hlower hupper =>
      have hpos : (0 : Int) < (256 ^ width : Nat) := by omega
      have hlt : (n.toInt % (256 ^ width : Nat)).toNat < 256 ^ width := by
        have := Int.emod_lt_of_pos n.toInt hpos
        omega
      have hnumber := numeric_bigEndian width (fun n => .scalar (signedOf width n)) hlt rest
      rw [signedOf_twosComplement n hlower hupper] at hnumber
      fin_cases hmarker <;> exact hnumber
  | single bits =>
      have hbits := numeric_bigEndian 4 (fun n => .scalar (.single (UInt32.ofNat n)))
        bits.toNat_lt rest
      rw [UInt32.ofNat_toNat] at hbits
      exact hbits
  | double bits =>
      have hbits := numeric_bigEndian 8 (fun n => .scalar (.double (UInt64.ofNat n)))
        bits.toNat_lt rest
      rw [UInt64.ofNat_toNat] at hbits
      exact hbits
  | shortText bytes h =>
      rw [List.cons_append, Head.parse, toNat_marker (by omega), if_neg (by omega),
        if_neg (by omega), if_neg (by omega), if_pos (by omega), Nat.add_sub_cancel_left,
        contents_append]
  | text marker width bytes hmarker h =>
      have hsized := sized_append width .text bytes h rest
      rw [List.append_assoc]
      fin_cases hmarker <;> exact hsized
  | binary marker width bytes hmarker h =>
      have hsized := sized_append width .binary bytes h rest
      rw [List.append_assoc]
      fin_cases hmarker <;> exact hsized
  | fixedExtension marker kind bytes hmarker =>
      have hfixed := extensionOf_cons kind bytes rest
      generalize hsize : bytes.size = size at hmarker hfixed
      fin_cases hmarker <;> exact hfixed
  | extension marker width kind bytes hmarker h =>
      have hsized := takeNumber_extension width kind bytes h rest
      rw [List.append_assoc]
      fin_cases hmarker <;> exact hsized
  | shortArray count h =>
      rw [List.singleton_append, Head.parse, toNat_marker (by omega), if_neg (by omega),
        if_neg (by omega), if_pos (by omega), Nat.add_sub_cancel_left]
  | array marker width count hmarker h =>
      have hcount := numeric_bigEndian width .array h rest
      fin_cases hmarker <;> exact hcount
  | shortMap count h =>
      rw [List.singleton_append, Head.parse, toNat_marker (by omega), if_neg (by omega),
        if_pos (by omega), Nat.add_sub_cancel_left]
  | map marker width count hmarker h =>
      have hcount := numeric_bigEndian width .map h rest
      fin_cases hmarker <;> exact hcount

/-! ## §3  Values -/

mutual

/-- The spellings of a value: the head of an array or a map counts what follows it. -/
def Value.Written : Value → List UInt8 → Prop
  | .array items, bytes => ∃ head body, bytes = head ++ body ∧
      (Head.array items.length).Written head ∧ ItemsWritten items body
  | .map entries, bytes => ∃ head body, bytes = head ++ body ∧
      (Head.map entries.length).Written head ∧ EntriesWritten entries body
  | v, bytes => (Head.scalar v).Written bytes

/-- The spellings of the values of an array, one after the other. -/
def ItemsWritten : List Value → List UInt8 → Prop
  | [], bytes => bytes = []
  | item :: items, bytes => ∃ front back, bytes = front ++ back ∧ item.Written front ∧
      ItemsWritten items back

/-- The spellings of the keys and values of a map, in turn. -/
def EntriesWritten : List (Value × Value) → List UInt8 → Prop
  | [], bytes => bytes = []
  | (key, value) :: entries, bytes => ∃ front middle back, bytes = front ++ (middle ++ back) ∧
      key.Written front ∧ value.Written middle ∧ EntriesWritten entries back

end

mutual

/-- Each level of nesting takes a byte. -/
theorem Value.nesting_le_length : ∀ (v : Value) (bytes : List UInt8), v.Written bytes →
    v.nesting ≤ bytes.length
  | .nil, _, _ | .bool _, _, _ | .unsigned _, _, _ | .signed _, _, _ | .single _, _, _
  | .double _, _, _ | .text _, _, _ | .binary _, _, _ => Nat.zero_le _
  | .extension _ _, _, h => List.length_pos_iff.mpr (Head.Written.ne_nil h)
  | .array items, _, ⟨head, body, hbytes, hhead, hbody⟩ => by
      have hpos := List.length_pos_iff.mpr hhead.ne_nil
      have hitems := itemsNesting_le_length items body hbody
      rw [hbytes, List.length_append, Value.nesting]
      omega
  | .map entries, _, ⟨head, body, hbytes, hhead, hbody⟩ => by
      have hpos := List.length_pos_iff.mpr hhead.ne_nil
      have hentries := entriesNesting_le_length entries body hbody
      rw [hbytes, List.length_append, Value.nesting]
      omega

theorem itemsNesting_le_length : ∀ (items : List Value) (bytes : List UInt8),
    ItemsWritten items bytes → itemsNesting items ≤ bytes.length
  | [], _, _ => Nat.zero_le _
  | item :: items, _, ⟨front, back, hbytes, hfront, hback⟩ => by
      have hitem := item.nesting_le_length front hfront
      have hitems := itemsNesting_le_length items back hback
      rw [hbytes, List.length_append, itemsNesting]
      omega

theorem entriesNesting_le_length : ∀ (entries : List (Value × Value)) (bytes : List UInt8),
    EntriesWritten entries bytes → entriesNesting entries ≤ bytes.length
  | [], _, _ => Nat.zero_le _
  | (key, value) :: entries, _, ⟨front, middle, back, hbytes, hfront, hmiddle, hback⟩ => by
      have hkey := key.nesting_le_length front hfront
      have hvalue := value.nesting_le_length middle hmiddle
      have hentries := entriesNesting_le_length entries back hback
      rw [hbytes, List.length_append, List.length_append, entriesNesting]
      omega

end

/-- A head that is a whole scalar is a whole value. -/
theorem parseWithin_of_scalar {levels : Nat} {bytes : List UInt8} {v : Value}
    (h : (Head.scalar v).Written bytes) (rest : List UInt8) :
    parseWithin (levels + 1) (bytes ++ rest) = some (v, rest) := by
  rw [parseWithin, Head.parse_of_written h]

mutual

/-- Any spelling of a value is read as that value, up to its last byte. -/
theorem parseWithin_of_written : ∀ (v : Value) (levels : Nat) (bytes rest : List UInt8),
    v.Written bytes → v.nesting < levels → parseWithin levels (bytes ++ rest) = some (v, rest)
  | _, 0, _, _, _, h => absurd h (Nat.not_lt_zero _)
  | .nil, _ + 1, _, rest, h, _ | .bool _, _ + 1, _, rest, h, _ | .unsigned _, _ + 1, _, rest, h, _
  | .signed _, _ + 1, _, rest, h, _ | .single _, _ + 1, _, rest, h, _
  | .double _, _ + 1, _, rest, h, _ | .text _, _ + 1, _, rest, h, _
  | .binary _, _ + 1, _, rest, h, _ | .extension _ _, _ + 1, _, rest, h, _ =>
      parseWithin_of_scalar h rest
  | .array items, levels + 1, _, rest, ⟨head, body, hbytes, hhead, hbody⟩, hlevels => by
      have hitems := repeatParse_of_itemsWritten items levels body rest hbody
        (Nat.lt_of_succ_lt_succ hlevels)
      rw [hbytes, List.append_assoc, parseWithin, Head.parse_of_written hhead]
      dsimp only
      rw [hitems, Option.map_some]
  | .map entries, levels + 1, _, rest, ⟨head, body, hbytes, hhead, hbody⟩, hlevels => by
      have hentries := repeatParse_of_entriesWritten entries levels body rest hbody
        (Nat.lt_of_succ_lt_succ hlevels)
      rw [hbytes, List.append_assoc, parseWithin, Head.parse_of_written hhead]
      dsimp only
      rw [hentries, Option.map_some]

theorem repeatParse_of_itemsWritten : ∀ (items : List Value) (levels : Nat)
    (bytes rest : List UInt8), ItemsWritten items bytes → itemsNesting items < levels →
    repeatParse (parseWithin levels) items.length (bytes ++ rest) = some (items, rest)
  | [], _, _, _, hbytes, _ => by
      rw [show _ = [] from hbytes]
      rfl
  | item :: items, levels, _, rest, ⟨front, back, hbytes, hfront, hback⟩, hlevels => by
      have hnesting := Nat.max_lt.mp hlevels
      have hitem := parseWithin_of_written item levels front (back ++ rest) hfront hnesting.1
      have hitems := repeatParse_of_itemsWritten items levels back rest hback hnesting.2
      rw [hbytes, List.append_assoc, List.length_cons, repeatParse, hitem]
      dsimp only
      rw [hitems, Option.map_some]

theorem repeatParse_of_entriesWritten : ∀ (entries : List (Value × Value)) (levels : Nat)
    (bytes rest : List UInt8), EntriesWritten entries bytes → entriesNesting entries < levels →
    repeatParse (pairParse (parseWithin levels)) entries.length (bytes ++ rest) =
      some (entries, rest)
  | [], _, _, _, hbytes, _ => by
      rw [show _ = [] from hbytes]
      rfl
  | (key, value) :: entries, levels, _, rest,
      ⟨front, middle, back, hbytes, hfront, hmiddle, hback⟩, hlevels => by
      have hnesting := Nat.max_lt.mp hlevels
      have hpair := Nat.max_lt.mp hnesting.1
      have hkey := parseWithin_of_written key levels front (middle ++ (back ++ rest)) hfront hpair.1
      have hvalue := parseWithin_of_written value levels middle (back ++ rest) hmiddle hpair.2
      have hentries := repeatParse_of_entriesWritten entries levels back rest hback hnesting.2
      rw [hbytes, List.append_assoc, List.append_assoc, List.length_cons, repeatParse, pairParse,
        hkey]
      dsimp only
      rw [hvalue, Option.map_some]
      dsimp only
      rw [hentries, Option.map_some]

end

/-- **Reading any spelling.** Whichever way a value is written, it is read from the front of its
bytes, and what follows them is left. -/
theorem parse_of_written {v : Value} {bytes : List UInt8} (h : v.Written bytes)
    (rest : List UInt8) : parse (bytes ++ rest) = some (v, rest) := by
  apply parseWithin_of_written v _ bytes rest h
  have hnesting := v.nesting_le_length bytes h
  rw [List.length_append]
  omega

end GraphDriver.Pack
