import AviPlayback.Container.Header

/-!
Header records as bytes. A word read from a record is written back to the bytes it was read from
(`ofUInt32_uint32At`), and a written word is read back behind whatever was written before it
(`uint32At_of_length_le`). So each of the three header parsers takes the payloads that are long
enough, writing what it read gives the record's bytes back, and it reads what was written
(`header_records_round_trip`).
-/
set_option autoImplicit false

namespace AviPlayback

namespace LittleEndian

variable {bytes front : List UInt8} {i : Nat}

theorem length_take_drop {width : Nat} (h : i + width ≤ bytes.length) :
    ((bytes.drop i).take width).length = width := by
  rw [List.length_take, List.length_drop]
  omega

theorem toNat_take_drop_lt {width : Nat} (h : i + width ≤ bytes.length) :
    toNat ((bytes.drop i).take width) < Nat.pow 256 width := by
  have hlt := toNat_lt ((bytes.drop i).take width)
  rwa [length_take_drop h] at hlt

/-- A number is written back to the bytes it was read from. -/
theorem ofNat_toNat_take_drop {width : Nat} (h : i + width ≤ bytes.length) :
    ofNat width (toNat ((bytes.drop i).take width)) = (bytes.drop i).take width := by
  have hwritten := ofNat_toNat ((bytes.drop i).take width)
  rwa [length_take_drop h] at hwritten

theorem ofUInt32_uint32At (h : i + 4 ≤ bytes.length) :
    ofUInt32 (uint32At bytes i) = (bytes.drop i).take 4 := by
  rw [ofUInt32, uint32At, UInt32.toNat_ofNat_of_lt' (toNat_take_drop_lt h), ofNat_toNat_take_drop h]

theorem ofUInt16_uint16At (h : i + 2 ≤ bytes.length) :
    ofUInt16 (uint16At bytes i) = (bytes.drop i).take 2 := by
  rw [ofUInt16, uint16At, UInt16.toNat_ofNat_of_lt' (toNat_take_drop_lt h), ofNat_toNat_take_drop h]

@[simp] theorem toUInt32_int32At (bytes : List UInt8) (i : Nat) :
    (int32At bytes i).toUInt32 = uint32At bytes i :=
  UInt32.toUInt32_toInt32 _

/-- Two runs of bytes, one right behind the other, are one run. -/
theorem take_drop_append {j m n : Nat} (h : j = i + m) :
    (bytes.drop i).take m ++ (bytes.drop j).take n = (bytes.drop i).take (m + n) := by
  rw [h, ← List.drop_drop, ← List.take_add]

theorem append_take_drop_append {j m n : Nat} (h : j = i + m) :
    front ++ (bytes.drop i).take m ++ (bytes.drop j).take n =
      front ++ (bytes.drop i).take (m + n) := by
  rw [List.append_assoc, take_drop_append h]

theorem drop_append_of_length_le (h : front.length ≤ i) :
    (front ++ bytes).drop i = bytes.drop (i - front.length) := by
  rw [List.drop_append, List.drop_of_length_le h, List.nil_append]

theorem uint32At_of_length_le (h : front.length ≤ i) :
    uint32At (front ++ bytes) i = uint32At bytes (i - front.length) := by
  rw [uint32At, uint32At, drop_append_of_length_le h]

theorem uint16At_of_length_le (h : front.length ≤ i) :
    uint16At (front ++ bytes) i = uint16At bytes (i - front.length) := by
  rw [uint16At, uint16At, drop_append_of_length_le h]

@[simp] theorem uint32At_ofUInt32 (w : UInt32) (rest : List UInt8) :
    uint32At (ofUInt32 w ++ rest) 0 = w :=
  uint32At_append [] rest w

@[simp] theorem uint16At_ofUInt16 (w : UInt16) (rest : List UInt8) :
    uint16At (ofUInt16 w ++ rest) 0 = w :=
  uint16At_append [] rest w

end LittleEndian

namespace FourCc

theorem readFrom_eq (bytes : List UInt8) (i : Nat) :
    readFrom bytes i = readFrom (bytes.drop i) 0 := by
  simp [readFrom, List.getD_eq_getElem?_getD, List.getElem?_drop]

theorem toBytes_readFrom {bytes : List UInt8} {i : Nat} (h : i + 4 ≤ bytes.length) :
    (readFrom bytes i).toBytes = (bytes.drop i).take 4 := by
  have hroom : 4 ≤ (bytes.drop i).length := by
    rw [List.length_drop]
    omega
  rw [readFrom_eq]
  match bytes.drop i, hroom with
  | _ :: _ :: _ :: _ :: _, _ => rfl

theorem readFrom_of_length_le {front bytes : List UInt8} {i : Nat} (h : front.length ≤ i) :
    readFrom (front ++ bytes) i = readFrom bytes (i - front.length) := by
  rw [readFrom_eq, LittleEndian.drop_append_of_length_le h, ← readFrom_eq]

end FourCc

open LittleEndian

/-- A parser and an encoder agree: the parser takes the payloads that are long enough, writing what
was read from a payload gives the bytes that the record keeps of it, and a written record is read
back exactly when what follows it lets it. -/
structure RoundTrip {Record : Type} (parse : List UInt8 → Except ContainerFault Record)
    (encode : Record → List UInt8) (minLength : Nat) (kept : List UInt8 → List UInt8)
    (ReadsBack : Record → List UInt8 → Prop) : Prop where
  parses_iff : ∀ payload, (∃ r, parse payload = .ok r) ↔ minLength ≤ payload.length
  encode_parse : ∀ payload r, parse payload = .ok r → encode r = kept payload
  parse_encode : ∀ r rest, parse (encode r ++ rest) = .ok r ↔ ReadsBack r rest

section Guard

variable {α : Type} {n m : Nat} {fault : ContainerFault} {a r : α}

theorem exists_ok_iff :
    (∃ r, (if n < m then Except.error fault else .ok a) = .ok r) ↔ m ≤ n := by
  split <;> simp <;> omega

theorem le_and_eq_of_ok (h : (if n < m then Except.error fault else .ok a) = .ok r) :
    m ≤ n ∧ a = r := by
  have hle := exists_ok_iff.mp ⟨r, h⟩
  rw [if_neg (Nat.not_lt.mpr hle)] at h
  exact ⟨hle, Except.ok.inj h⟩

end Guard

namespace MainHeader

/-- The bytes of the record, with the unknown bits of the flags cleared. -/
def kept (payload : List UInt8) : List UInt8 :=
  payload.take 12 ++ ofUInt32 (uint32At payload 12 &&& 0x00030930) ++ (payload.drop 16).take 24

theorem encode_parse {payload : List UInt8} {h : MainHeader} (hparse : parse payload = .ok h) :
    encode h = kept payload := by
  obtain ⟨hlong, rfl⟩ := le_and_eq_of_ok hparse
  rw [minLength] at hlong
  simp (disch := omega) only [encode, ofUInt32_uint32At, FlagSet.bits_ofBits, take_drop_append,
    append_take_drop_append, Nat.reduceAdd]
  rfl

theorem length_encode (h : MainHeader) : (encode h).length = minLength := by
  simp [encode, minLength]

theorem parse_encode (h : MainHeader) (rest : List UInt8) : parse (encode h ++ rest) = .ok h := by
  have hlong : ¬ (encode h ++ rest).length < minLength := by
    rw [List.length_append, length_encode]
    omega
  rw [parse, if_neg hlong]
  simp [encode, uint32At_of_length_le]

theorem roundTrip : RoundTrip parse encode minLength kept fun _ _ => True where
  parses_iff _ := exists_ok_iff
  encode_parse _ _ := encode_parse
  parse_encode h rest := iff_true_intro (parse_encode h rest)

end MainHeader

namespace StreamHeader

/-- The bytes of the record. -/
def kept (payload : List UInt8) : List UInt8 := payload.take minLength

theorem encode_parse {payload : List UInt8} {h : StreamHeader} (hparse : parse payload = .ok h) :
    encode h = kept payload := by
  obtain ⟨hlong, rfl⟩ := le_and_eq_of_ok hparse
  rw [minLength] at hlong
  simp (disch := omega) only [encode, ofUInt32_uint32At, ofUInt16_uint16At, toUInt32_int32At,
    FourCc.toBytes_readFrom, take_drop_append, Nat.reduceAdd]
  rfl

theorem length_encode (h : StreamHeader) : (encode h).length = minLength := by
  simp [encode, minLength]

theorem parse_encode (h : StreamHeader) (rest : List UInt8) : parse (encode h ++ rest) = .ok h := by
  have hlong : ¬ (encode h ++ rest).length < minLength := by
    rw [List.length_append, length_encode]
    omega
  rw [parse, if_neg hlong]
  -- Taken as facts, since the simp lemma holds by definition and proves no bound for `simp`.
  have htype := h.type.length_toBytes
  have hhandler := h.handler.length_toBytes
  simp [encode, int32At, uint32At_of_length_le, uint16At_of_length_le, FourCc.readFrom_of_length_le,
    htype, hhandler, -FourCc.length_toBytes]

theorem roundTrip : RoundTrip parse encode minLength kept fun _ _ => True where
  parses_iff _ := exists_ok_iff
  encode_parse _ _ := encode_parse
  parse_encode h rest := iff_true_intro (parse_encode h rest)

end StreamHeader

namespace BitmapInfo

/-- The bytes of the record, with the masks where they are read. -/
def kept (payload : List UInt8) : List UInt8 :=
  if uint32At payload 16 = bitFields ∧ minLength + masksLength ≤ payload.length then
    payload.take (minLength + masksLength)
  else payload.take minLength

/-- The masks are read back, or their absence is. -/
def MasksReadBack (h : BitmapInfo) (rest : List UInt8) : Prop :=
  match h.masks with
  | some _ => h.compression = bitFields
  | none => h.compression = bitFields → rest.length < masksLength

theorem encodeMasks_parseMasks (payload : List UInt8) :
    payload.take minLength ++ encodeMasks (parseMasks payload) = kept payload := by
  unfold parseMasks kept
  split
  · next hmasks =>
    have hroom : 52 ≤ payload.length := hmasks.2
    simp (disch := omega) only [encodeMasks, ofUInt32_uint32At, take_drop_append, Nat.reduceAdd]
    have hrun : (payload.drop 0).take 40 ++ (payload.drop 40).take 12 = (payload.drop 0).take 52 :=
      take_drop_append rfl
    exact hrun
  · exact List.append_nil _

theorem encode_parse {payload : List UInt8} {h : BitmapInfo} (hparse : parse payload = .ok h) :
    encode h = kept payload := by
  obtain ⟨hlong, rfl⟩ := le_and_eq_of_ok hparse
  rw [minLength] at hlong
  rw [← encodeMasks_parseMasks payload]
  simp (disch := omega) only [encode, ofUInt32_uint32At, ofUInt16_uint16At, toUInt32_int32At,
    take_drop_append, Nat.reduceAdd]
  rfl

theorem length_encode (h : BitmapInfo) :
    (encode h).length = minLength + (encodeMasks h.masks).length := by
  simp [encode, minLength]
  omega

theorem parse_encode_eq (h : BitmapInfo) (rest : List UInt8) :
    parse (encode h ++ rest) = .ok { h with masks := parseMasks (encode h ++ rest) } := by
  have hlong : ¬ (encode h ++ rest).length < minLength := by
    rw [List.length_append, length_encode]
    omega
  rw [parse, if_neg hlong]
  simp [encode, int32At, uint32At_of_length_le, uint16At_of_length_le]

theorem parseMasks_encode (h : BitmapInfo) (rest : List UInt8) :
    parseMasks (encode h ++ rest) =
      if h.compression = bitFields ∧ masksLength ≤ (encodeMasks h.masks ++ rest).length then
        some (uint32At (encodeMasks h.masks ++ rest) 0, uint32At (encodeMasks h.masks ++ rest) 4,
          uint32At (encodeMasks h.masks ++ rest) 8)
      else none := by
  have hlength : (encode h ++ rest).length = minLength + (encodeMasks h.masks ++ rest).length := by
    rw [List.length_append, List.length_append, length_encode, Nat.add_assoc]
  simp only [parseMasks, hlength, Nat.add_le_add_iff_left]
  simp [encode, uint32At_of_length_le]

/-- What is read behind a written record are its own masks exactly when they can be told. -/
theorem parseMasks_encode_iff (h : BitmapInfo) (rest : List UInt8) :
    parseMasks (encode h ++ rest) = h.masks ↔ MasksReadBack h rest := by
  rw [parseMasks_encode, MasksReadBack]
  cases h.masks with
  | none =>
    rw [encodeMasks, List.nil_append, ite_eq_right_iff]
    simp
  | some masks =>
    obtain ⟨red, green, blue⟩ := masks
    have hroom : masksLength ≤ (encodeMasks (some (red, green, blue)) ++ rest).length := by
      simp [encodeMasks, masksLength]
      omega
    simp only [hroom, and_true]
    simp [encodeMasks, uint32At_of_length_le]

theorem parse_encode (h : BitmapInfo) (rest : List UInt8) :
    parse (encode h ++ rest) = .ok h ↔ MasksReadBack h rest := by
  rw [parse_encode_eq, ← parseMasks_encode_iff]
  generalize parseMasks (encode h ++ rest) = found
  cases h
  simp

theorem roundTrip : RoundTrip parse encode minLength kept MasksReadBack where
  parses_iff _ := exists_ok_iff
  encode_parse _ _ := encode_parse
  parse_encode := parse_encode

end BitmapInfo

/-- Each of the three records is read from exactly the payloads that have its shortest length, is
written back to the bytes it was read from, and is read back from its written form whatever follows.
Of the main header the unknown flags are lost. A bitmap record reads its masks, or their absence,
back exactly when they stand with the tag that calls for them, or are absent and not made up by what
follows. -/
theorem header_records_round_trip :
    RoundTrip MainHeader.parse MainHeader.encode MainHeader.minLength MainHeader.kept
      (fun _ _ => True) ∧
    RoundTrip StreamHeader.parse StreamHeader.encode StreamHeader.minLength StreamHeader.kept
      (fun _ _ => True) ∧
    RoundTrip BitmapInfo.parse BitmapInfo.encode BitmapInfo.minLength BitmapInfo.kept
      BitmapInfo.MasksReadBack :=
  ⟨MainHeader.roundTrip, StreamHeader.roundTrip, BitmapInfo.roundTrip⟩

end AviPlayback
