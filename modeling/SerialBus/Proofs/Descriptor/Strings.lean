import SerialBus.Descriptor.Strings
import SerialBus.Proofs.Text.Utf16

/-! The codec of string descriptors. The reader takes the words that the writer put down, and no
others; a text that the writer has to cut is lost if the cut goes through a pair of surrogates. -/
namespace SerialBus.StringDescriptor

/-! Words and their bytes. -/

/-- A word from its low and its high byte. -/
def word (low high : UInt8) : UInt16 := low.toUInt16 ||| (high.toUInt16 <<< 8)

theorem toNat_word (low high : UInt8) : (word low high).toNat = low.toNat + 256 * high.toNat := by
  have hlow : low.toNat < 2 ^ 8 := low.toNat_lt
  have hshift : (high.toUInt16 <<< 8).toNat = high.toNat <<< 8 := by
    rw [UInt16.toNat_shiftLeft, UInt8.toNat_toUInt16]
    apply Nat.mod_eq_of_lt
    have hhigh : high.toNat < 2 ^ 8 := high.toNat_lt
    change high.toNat <<< 8 < 2 ^ 16
    rw [Nat.shiftLeft_eq]
    omega
  rw [word, UInt16.toNat_or, hshift, UInt8.toNat_toUInt16, Nat.or_comm,
    ← Nat.shiftLeft_add_eq_or_of_lt hlow, Nat.shiftLeft_eq]
  omega

theorem toUInt8_word (low high : UInt8) : (word low high).toUInt8 = low := by
  have hlow : low.toNat < 2 ^ 8 := low.toNat_lt
  rw [← UInt8.toNat_inj, UInt16.toNat_toUInt8, toNat_word]
  omega

theorem toUInt8_word_shiftRight (low high : UInt8) : (word low high >>> 8).toUInt8 = high := by
  have hlow : low.toNat < 2 ^ 8 := low.toNat_lt
  have hhigh : high.toNat < 2 ^ 8 := high.toNat_lt
  rw [← UInt8.toNat_inj, UInt16.toNat_toUInt8, UInt16.toNat_shiftRight, toNat_word]
  change (low.toNat + 256 * high.toNat) >>> 8 % 2 ^ 8 = high.toNat
  rw [Nat.shiftRight_eq_div_pow]
  omega

theorem word_bytes (w : UInt16) : word w.toUInt8 (w >>> 8).toUInt8 = w := by
  have hw : w.toNat < 2 ^ 16 := w.toNat_lt
  rw [← UInt16.toNat_inj, toNat_word, UInt16.toNat_toUInt8, UInt16.toNat_toUInt8,
    UInt16.toNat_shiftRight]
  change w.toNat % 2 ^ 8 + 256 * (w.toNat >>> 8 % 2 ^ 8) = w.toNat
  rw [Nat.shiftRight_eq_div_pow]
  omega

theorem wordsOf_cons (low high : UInt8) (bytes : List UInt8) :
    wordsOf (low :: high :: bytes) = word low high :: wordsOf bytes :=
  rfl

theorem bytesOf_cons (w : UInt16) (words : List UInt16) :
    bytesOf (w :: words) = w.toUInt8 :: (w >>> 8).toUInt8 :: bytesOf words :=
  rfl

theorem length_bytesOf (words : List UInt16) : (bytesOf words).length = 2 * words.length := by
  induction words with
  | nil => rfl
  | cons w words ih =>
    rw [bytesOf_cons, List.length_cons, List.length_cons, List.length_cons, ih]
    omega

theorem wordsOf_bytesOf (words : List UInt16) : wordsOf (bytesOf words) = words := by
  induction words with
  | nil => rfl
  | cons w words ih => rw [bytesOf_cons, wordsOf_cons, word_bytes, ih]

theorem length_wordsOf : ∀ bytes : List UInt8, (wordsOf bytes).length = bytes.length / 2
  | [] => rfl
  | [_] => show 0 = 1 / 2 from rfl
  | low :: high :: rest => by
    rw [wordsOf_cons, List.length_cons, length_wordsOf rest, List.length_cons, List.length_cons]
    omega

/-- Bytes are what their words are written as, up to an odd last byte. -/
theorem bytesOf_wordsOf :
    ∀ bytes : List UInt8, bytesOf (wordsOf bytes) = bytes.take (2 * (bytes.length / 2))
  | [] => rfl
  | [byte] => show [] = [byte].take (2 * (1 / 2)) from rfl
  | low :: high :: rest => by
    have hlength : 2 * ((low :: high :: rest).length / 2) = 2 * (rest.length / 2) + 1 + 1 := by
      rw [List.length_cons, List.length_cons]
      omega
    rw [hlength, List.take_succ_cons, List.take_succ_cons, ← bytesOf_wordsOf rest, wordsOf_cons,
      bytesOf_cons, toUInt8_word, toUInt8_word_shiftRight]

/-- Each word stands in two bytes, the low one first. -/
theorem getElem?_wordsOf : ∀ (bytes : List UInt8) (k : Nat),
    (wordsOf bytes)[k]? = (bytes[2 * k]?).bind fun low => (bytes[2 * k + 1]?).map (word low)
  | [], _ => rfl
  | [_], 0 => rfl
  | [_], _ + 1 => rfl
  | _ :: _ :: _, 0 => rfl
  | low :: high :: rest, k + 1 => by
    have hnext : 2 * (k + 1) = 2 * k + 1 + 1 := by omega
    rw [wordsOf_cons, List.getElem?_cons_succ, getElem?_wordsOf rest k, hnext]
    rfl

/-! Descriptors. -/

theorem payload_of_type_ne {length type : UInt8} {rest : List UInt8} (h : type ≠ typeCode) :
    payload (length :: type :: rest) = .error (.unexpectedType typeCode type) := if_pos h

theorem payload_of_length {length : UInt8} {rest : List UInt8}
    (h : length.toNat < 2 ∨ (length :: typeCode :: rest).length < length.toNat) :
    payload (length :: typeCode :: rest) =
      .error (.malformed length.toNat (length :: typeCode :: rest).length) := by
  rw [payload, if_neg (not_not_intro rfl), if_pos h]

theorem payload_of_header {length : UInt8} {rest : List UInt8} (hmin : 2 ≤ length.toNat)
    (hmax : length.toNat ≤ (length :: typeCode :: rest).length) :
    payload (length :: typeCode :: rest) = .ok (rest.take (length.toNat - 2)) := by
  rw [payload, if_neg (not_not_intro rfl), if_neg (by omega), List.drop_take]
  rfl

/-- A header is accepted that has the type of a string and announces no more than there is. -/
theorem payload_eq_ok_iff {raw body : List UInt8} :
    payload raw = .ok body ↔ ∃ length rest, raw = length :: typeCode :: rest ∧
      2 ≤ length.toNat ∧ length.toNat ≤ raw.length ∧ rest.take (length.toNat - 2) = body := by
  constructor
  · intro h
    match raw with
    | [] => cases h
    | [_] => cases h
    | length :: type :: rest =>
      by_cases htype : type = typeCode
      · subst htype
        by_cases hlength : length.toNat < 2 ∨ (length :: typeCode :: rest).length < length.toNat
        · rw [payload_of_length hlength] at h
          cases h
        · rw [payload_of_header (by omega) (by omega)] at h
          exact ⟨length, rest, rfl, by omega, by omega, Except.ok.inj h⟩
      · rw [payload_of_type_ne htype] at h
        cases h
  · rintro ⟨length, rest, rfl, hmin, hmax, rfl⟩
    exact payload_of_header hmin hmax

theorem length_of_payload {raw body : List UInt8} (h : payload raw = .ok body) :
    body.length = (raw.getD 0 0).toNat - 2 := by
  obtain ⟨length, rest, rfl, -, hmax, rfl⟩ := payload_eq_ok_iff.1 h
  rw [List.length_cons, List.length_cons] at hmax
  change (rest.take (length.toNat - 2)).length = length.toNat - 2
  rw [List.length_take]
  omega

/-- The words are the first `count` little-endian ones behind a header of two bytes. -/
structure Spells (raw : List UInt8) (count : Nat) (words : List UInt16) : Prop where
  length_eq : words.length = count
  word : ∀ k w, words[k]? = some w → ∃ low high, raw[2 + 2 * k]? = some low ∧
    raw[3 + 2 * k]? = some high ∧ w.toNat = low.toNat + 256 * high.toNat

/-- Behind an accepted header stand as many words as it announces. -/
theorem spells_wordsOf {raw body : List UInt8} (h : payload raw = .ok body) :
    Spells raw (((raw.getD 0 0).toNat - 2) / 2) (wordsOf body) := by
  refine ⟨by rw [length_wordsOf, length_of_payload h], fun k w hw => ?_⟩
  obtain ⟨length, rest, rfl, -, -, rfl⟩ := payload_eq_ok_iff.1 h
  have hrest : ∀ {i b}, (rest.take (length.toNat - 2))[i]? = some b →
      (length :: typeCode :: rest)[i + 1 + 1]? = some b := by
    intro i b hb
    rw [List.getElem?_take] at hb
    split at hb
    · exact hb
    · cases hb
  rw [getElem?_wordsOf] at hw
  obtain ⟨low, hlow, hw⟩ := Option.bind_eq_some_iff.1 hw
  obtain ⟨high, hhigh, rfl⟩ := Option.map_eq_some_iff.1 hw
  have hlowIndex : 2 + 2 * k = 2 * k + 1 + 1 := by omega
  have hhighIndex : 3 + 2 * k = 2 * k + 1 + 1 + 1 := by omega
  rw [hlowIndex, hhighIndex]
  exact ⟨low, high, hrest hlow, hrest hhigh, toNat_word low high⟩

theorem length_encodeLangids (words : List UInt16) :
    (encodeLangids words).length = 2 + 2 * min maxWords words.length := by
  rw [encodeLangids, List.length_cons, List.length_cons, length_bytesOf, List.length_take]
  omega

/-- The length byte is the length. -/
theorem head?_encodeLangids (words : List UInt16) :
    ((encodeLangids words).head?.map UInt8.toNat) = some (encodeLangids words).length := by
  have hlength := length_encodeLangids words
  have hbytes : (2 + (bytesOf (words.take maxWords)).length).toUInt8.toNat =
      2 + 2 * min maxWords words.length := by
    rw [length_bytesOf, List.length_take]
    apply Nat.mod_eq_of_lt
    have hmin : min maxWords words.length ≤ 126 := Nat.min_le_left _ _
    omega
  rw [hlength, ← hbytes]
  rfl

theorem payload_encodeLangids (words : List UInt16) :
    payload (encodeLangids words) = .ok (bytesOf (words.take maxWords)) := by
  have hhead := Option.some.inj (head?_encodeLangids words)
  have hlength := length_encodeLangids words
  refine payload_eq_ok_iff.2 ⟨_, _, rfl, ?_, Nat.le_of_eq hhead, ?_⟩
  · rw [hhead, hlength]
    omega
  · refine List.take_of_length_le ?_
    rw [hhead, hlength, length_bytesOf, List.length_take]
    omega

/-- A table is read as the identifiers that fit. -/
theorem decodeLangids_encodeLangids (words : List UInt16) :
    decodeLangids (encodeLangids words) = .ok (words.take maxWords) := by
  rw [decodeLangids, payload_encodeLangids, Except.map, wordsOf_bytesOf]

theorem decode_of_payload {raw body : List UInt8} (h : payload raw = .ok body) :
    decode raw =
      (Text.Utf16.decode? (wordsOf body)).elim (.error .invalidUtf16) Except.ok := by
  simp only [decode, h, bind, Except.bind]
  cases Text.Utf16.decode? (wordsOf body) <;> rfl

/-- A text is read as the beginning that fits, unless the cut goes through a pair. -/
theorem decode_encode (text : List Char) :
    decode (encode text) = if Text.Utf16.splitsPair maxWords text then .error .invalidUtf16
      else .ok (Text.Utf16.fitting maxWords text) := by
  rw [encode, decode_of_payload (payload_encodeLangids _), wordsOf_bytesOf,
    Text.Utf16.decode?_take_encode]
  cases Text.Utf16.splitsPair maxWords text <;> rfl

/-- A descriptor is read as the text whose code units its words are. -/
theorem decode_eq_ok_iff {raw : List UInt8} {text : List Char} :
    decode raw = .ok text ↔
      ∃ body, payload raw = .ok body ∧ wordsOf body = Text.Utf16.encode text := by
  constructor
  · intro h
    cases hpayload : payload raw with
    | error e =>
      rw [decode, hpayload] at h
      cases h
    | ok body =>
      rw [decode_of_payload hpayload] at h
      cases hread : Text.Utf16.decode? (wordsOf body) with
      | none =>
        rw [hread] at h
        cases h
      | some kept =>
        rw [hread] at h
        cases h
        exact ⟨body, rfl, (Text.Utf16.decode?_eq_some_iff.1 hread).symm⟩
  · rintro ⟨body, hpayload, hwords⟩
    rw [decode_of_payload hpayload, hwords, Text.Utf16.decode?_encode]
    rfl

/-- An accepted descriptor without an odd last byte is the one that its text is written as. -/
theorem encode_of_decode {raw : List UInt8} {length : UInt8} {text : List Char}
    (hhead : raw.head? = some length) (heven : length.toNat % 2 = 0) (h : decode raw = .ok text) :
    encode text = raw.take length.toNat := by
  obtain ⟨body, hpayload, hwords⟩ := decode_eq_ok_iff.1 h
  have hlength := length_of_payload hpayload
  obtain ⟨_, rest, rfl, hmin, -, hbody⟩ := payload_eq_ok_iff.1 hpayload
  cases hhead
  change body.length = length.toNat - 2 at hlength
  have hbyte : length.toNat < 2 ^ 8 := length.toNat_lt
  -- One length byte announces no more words than the writer keeps, so that nothing is cut.
  have hfits : (wordsOf body).length ≤ maxWords := by
    rw [length_wordsOf]
    change body.length / 2 ≤ 126
    omega
  have hbytes : bytesOf ((wordsOf body).take maxWords) = body := by
    rw [List.take_of_length_le hfits, bytesOf_wordsOf, List.take_of_length_le (by omega)]
  have htotal : 2 + body.length = length.toNat := by omega
  have hsucc : length.toNat = length.toNat - 2 + 1 + 1 := by omega
  rw [encode, encodeLangids, ← hwords, hbytes, htotal, Nat.toUInt8, UInt8.ofNat_toNat, hsucc,
    List.take_succ_cons, List.take_succ_cons, hbody]

/-- Texts of at most 126 code units are read as they were written, accepted descriptors of an even
length are written as they were read, and what is written has the header of a string. -/
theorem decode_inverts_encode :
    (∀ text : List Char, (Text.Utf16.encode text).length ≤ 126 → decode (encode text) = .ok text) ∧
    (∀ (raw : List UInt8) (length : UInt8) (text : List Char), raw.head? = some length →
      length.toNat % 2 = 0 → decode raw = .ok text → encode text = raw.take length.toNat) ∧
    ∀ text : List Char, (encode text).length % 2 = 0 ∧ (encode text).length ≤ 254 ∧
      (encode text).head?.map UInt8.toNat = some (encode text).length ∧
      (encode text)[1]? = some typeCode := by
  refine ⟨fun text hfits => ?_, fun _ _ _ => encode_of_decode, fun text => ?_⟩
  · obtain ⟨hwhole, hfitting⟩ := Text.Utf16.fitting_of_le (k := maxWords) hfits
    rw [decode_encode, hwhole, hfitting]
    rfl
  · have hlength := length_encodeLangids (Text.Utf16.encode text)
    have hmin : min maxWords (Text.Utf16.encode text).length ≤ 126 := Nat.min_le_left _ _
    rw [← encode] at hlength
    exact ⟨by omega, by omega, head?_encodeLangids _, rfl⟩

theorem decode_inverts_encode_clef :
    (Text.Utf16.encode ['U', '𝄞']).length ≤ 126 ∧ decode (encode ['U', '𝄞']) = .ok ['U', '𝄞'] ∧
    decode [8, 3, 85, 0, 0x34, 0xD8, 0x1E, 0xDD, 9] = .ok ['U', '𝄞'] ∧
    encode ['U', '𝄞'] = [8, 3, 85, 0, 0x34, 0xD8, 0x1E, 0xDD, 9].take 8 :=
  have hread : decode [8, 3, 85, 0, 0x34, 0xD8, 0x1E, 0xDD, 9] = .ok ['U', '𝄞'] := rfl
  ⟨by decide, decode_inverts_encode.1 _ (by decide), hread,
    decode_inverts_encode.2.1 _ 8 _ rfl (by decide) hread⟩

end SerialBus.StringDescriptor
