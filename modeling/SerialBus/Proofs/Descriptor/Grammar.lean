import SerialBus.Proofs.Descriptor.Strings

/-! The byte strings that are read as string descriptors. A header is refused for its first fault;
behind an accepted one only the announced words count, and nothing that follows is looked at. -/
namespace SerialBus.StringDescriptor

/-! The grammar. -/

/-- The headers that are refused, each for its first fault: there are fewer than two bytes, the type
is not that of a string, or the announced length does not reach over the header or goes past the
end. -/
inductive Refused : List UInt8 → DescriptorError → Prop
  | short {raw : List UInt8} (h : raw.length < 2) : Refused raw (.bufferTooSmall 2 raw.length)
  | type {length type : UInt8} {rest : List UInt8} (h : type ≠ 3) :
      Refused (length :: type :: rest) (.unexpectedType 3 type)
  | length {length : UInt8} {rest : List UInt8}
      (h : length.toNat < 2 ∨ (length :: 3 :: rest).length < length.toNat) :
      Refused (length :: 3 :: rest) (.malformed length.toNat (length :: 3 :: rest).length)

/-- The byte string starts with a header that announces a length within it. -/
structure Accepted (raw : List UInt8) (length : UInt8) : Prop where
  announced : raw[0]? = some length
  type : raw[1]? = some 3
  header : 2 ≤ length.toNat
  inside : length.toNat ≤ raw.length

/-- The words that an accepted header announces. -/
def Announces (raw : List UInt8) (words : List UInt16) : Prop :=
  ∃ length, Accepted raw length ∧ Spells raw ((length.toNat - 2) / 2) words

/-- Words are determined by the bytes that they stand in. -/
theorem Spells.unique {raw : List UInt8} {count : Nat} {words others : List UInt16}
    (h : Spells raw count words) (h' : Spells raw count others) : words = others := by
  refine List.ext_getElem (h.length_eq.trans h'.length_eq.symm) fun k hk hk' => ?_
  obtain ⟨low, high, hlow, hhigh, hword⟩ := h.word k _ (List.getElem?_eq_getElem hk)
  obtain ⟨low', high', hlow', hhigh', hword'⟩ := h'.word k _ (List.getElem?_eq_getElem hk')
  cases hlow.symm.trans hlow'
  cases hhigh.symm.trans hhigh'
  exact UInt16.toNat_inj.1 (hword.trans hword'.symm)

/-! The header. -/

theorem Accepted.eq_cons {raw : List UInt8} {length : UInt8} (h : Accepted raw length) :
    ∃ rest, raw = length :: typeCode :: rest := by
  match raw, h.announced, h.type with
  | _ :: _ :: rest, rfl, rfl => exact ⟨rest, rfl⟩

theorem accepted_cons {length : UInt8} {rest : List UInt8} (hmin : 2 ≤ length.toNat)
    (hmax : length.toNat ≤ (length :: typeCode :: rest).length) :
    Accepted (length :: typeCode :: rest) length := ⟨rfl, rfl, hmin, hmax⟩

/-- The body is what stands between the header and the announced end. -/
theorem Accepted.payload {raw : List UInt8} {length : UInt8} (h : Accepted raw length) :
    payload raw = .ok ((raw.take length.toNat).drop 2) := by
  obtain ⟨rest, rfl⟩ := h.eq_cons
  rw [payload_of_header h.header h.inside, List.drop_take]
  rfl

/-- The body stands between the header and the announced end, all of which there is. -/
theorem payload_eq_ok_iff_accepted {raw body : List UInt8} :
    payload raw = .ok body ↔ ∃ length more, Accepted raw length ∧
      raw = length :: 3 :: (body ++ more) ∧ body.length + 2 = length.toNat := by
  constructor
  · intro h
    have hlength := length_of_payload h
    obtain ⟨length, rest, rfl, hmin, hmax, rfl⟩ := payload_eq_ok_iff.1 h
    refine ⟨length, rest.drop (length.toNat - 2), accepted_cons hmin hmax, ?_, ?_⟩
    · rw [List.take_append_drop]
      rfl
    · rw [hlength]
      exact Nat.sub_add_cancel hmin
  · rintro ⟨length, more, hraw, rfl, hlength⟩
    have htake : (body ++ more).take (length.toNat - 2) = body := List.take_left' (by omega)
    exact (payload_of_header hraw.header hraw.inside).trans (congrArg _ htake)

theorem payload_eq_error_iff {raw : List UInt8} {e : DescriptorError} :
    payload raw = .error e ↔ Refused raw e := by
  constructor
  · intro h
    match raw with
    | [] =>
      cases h
      exact .short (by decide)
    | [byte] =>
      cases h
      exact .short (Nat.lt_succ_self 1)
    | length :: type :: rest =>
      by_cases htype : type = typeCode
      · subst htype
        by_cases hlength : length.toNat < 2 ∨ (length :: typeCode :: rest).length < length.toNat
        · rw [payload_of_length hlength] at h
          cases h
          exact .length hlength
        · rw [payload_of_header (by omega) (by omega)] at h
          cases h
      · rw [payload_of_type_ne htype] at h
        cases h
        exact .type htype
  · intro h
    cases h with
    | short hshort =>
      match raw with
      | [] => rfl
      | [_] => rfl
      | _ :: _ :: _ => exact absurd hshort (by simp)
    | type htype => exact payload_of_type_ne htype
    | length hlength => exact payload_of_length hlength

/-- Bytes behind the announced end are not looked at. -/
theorem Accepted.payload_congr {raw other : List UInt8} {length : UInt8} (h : Accepted raw length)
    (hsame : ∀ i < length.toNat, other[i]? = raw[i]?) :
    StringDescriptor.payload other = StringDescriptor.payload raw := by
  have htake : other.take length.toNat = raw.take length.toNat := by
    refine List.ext_getElem? fun i => ?_
    rw [List.getElem?_take, List.getElem?_take]
    split
    · exact hsame i ‹_›
    · rfl
  have hinside : length.toNat ≤ other.length := by
    have hlengths := congrArg List.length htake
    have hraw := h.inside
    rw [List.length_take, List.length_take] at hlengths
    omega
  have hother : Accepted other length :=
    { announced := (hsame 0 (by have := h.header; omega)).trans h.announced
      type := (hsame 1 (by have := h.header; omega)).trans h.type
      header := h.header
      inside := hinside }
  rw [hother.payload, h.payload, htake]

/-! The words behind it. -/

theorem announces_iff {raw : List UInt8} {words : List UInt16} :
    Announces raw words ↔ ∃ body, payload raw = .ok body ∧ wordsOf body = words := by
  constructor
  · rintro ⟨length, hraw, hwords⟩
    have hread := spells_wordsOf hraw.payload
    rw [List.getD_eq_getElem?_getD, hraw.announced] at hread
    exact ⟨_, hraw.payload, hread.unique hwords⟩
  · rintro ⟨body, hbody, rfl⟩
    obtain ⟨length, -, hraw, -⟩ := payload_eq_ok_iff_accepted.1 hbody
    have hread := spells_wordsOf hbody
    rw [List.getD_eq_getElem?_getD, hraw.announced] at hread
    exact ⟨length, hraw, hread⟩

theorem decodeLangids_eq_error_iff {raw : List UInt8} {e : DescriptorError} :
    decodeLangids raw = .error e ↔ Refused raw e := by
  rw [← payload_eq_error_iff, decodeLangids]
  cases payload raw <;> simp [Except.map]

theorem decodeLangids_eq_ok_iff {raw : List UInt8} {words : List UInt16} :
    decodeLangids raw = .ok words ↔ Announces raw words := by
  rw [announces_iff, decodeLangids]
  cases payload raw <;> simp [Except.map]

theorem decode_eq_ok_iff_announces {raw : List UInt8} {text : List Char} :
    decode raw = .ok text ↔ Announces raw (Text.Utf16.encode text) :=
  decode_eq_ok_iff.trans announces_iff.symm

theorem decode_eq_error_iff {raw : List UInt8} {e : DescriptorError} :
    decode raw = .error e ↔ Refused raw e ∨
      e = .invalidUtf16 ∧ ∃ words, Announces raw words ∧ Text.Utf16.HasUnpaired words := by
  simp only [announces_iff, ← payload_eq_error_iff, ← Text.Utf16.decode?_eq_none_iff]
  cases hbody : payload raw with
  | error refused => simp [decode, hbody, bind, Except.bind]
  | ok body =>
    rw [decode_of_payload hbody]
    cases hread : Text.Utf16.decode? (wordsOf body) with
    | none => simp [hread, eq_comm]
    | some text => simp [hread]

/-- The announced words say all that is read. -/
theorem decoded_of_announces {raw : List UInt8} {words : List UInt16} (h : Announces raw words) :
    decodeLangids raw = .ok words ∧
      decode raw = (Text.Utf16.decode? words).elim (.error .invalidUtf16) Except.ok := by
  obtain ⟨body, hbody, rfl⟩ := announces_iff.1 h
  exact ⟨decodeLangids_eq_ok_iff.2 h, decode_of_payload hbody⟩

/-- The decoders look at nothing but the body. -/
theorem decoded_congr {raw other : List UInt8} (h : payload other = payload raw) :
    decodeLangids other = decodeLangids raw ∧ decode other = decode raw := by
  rw [decodeLangids, decodeLangids, decode, decode, h]
  exact ⟨rfl, rfl⟩

/-- Both decoders refuse a header for its first fault, and read what an accepted one announces: the
words, or the text that is written with them unless a surrogate is unpaired. The body lies within
the byte string, and nothing behind its end changes the result. -/
theorem decoders_accept_grammar :
    (∀ raw e, (decodeLangids raw = .error e ↔ Refused raw e) ∧
      (decode raw = .error e ↔ Refused raw e ∨
        e = .invalidUtf16 ∧ ∃ words, Announces raw words ∧ Text.Utf16.HasUnpaired words)) ∧
    (∀ raw words, decodeLangids raw = .ok words ↔ Announces raw words) ∧
    (∀ raw text, decode raw = .ok text ↔ Announces raw (Text.Utf16.encode text)) ∧
    (∀ raw other words, Announces raw words → Announces other words →
      decodeLangids other = decodeLangids raw ∧ decode other = decode raw) ∧
    (∀ raw body, payload raw = .ok body ↔ ∃ length more, Accepted raw length ∧
      raw = length :: 3 :: (body ++ more) ∧ body.length + 2 = length.toNat) ∧
    ∀ raw length, Accepted raw length →
      (∀ more, decodeLangids (raw ++ more) = decodeLangids raw ∧
        decode (raw ++ more) = decode raw) ∧
      ∀ other : List UInt8, (∀ i < length.toNat, other[i]? = raw[i]?) →
        decodeLangids other = decodeLangids raw ∧ decode other = decode raw := by
  refine ⟨fun _ _ => ⟨decodeLangids_eq_error_iff, decode_eq_error_iff⟩,
    fun _ _ => decodeLangids_eq_ok_iff, fun _ _ => decode_eq_ok_iff_announces,
    fun raw other words hraw hother => ?_, fun _ _ => payload_eq_ok_iff_accepted,
    fun raw length hraw => ⟨fun more => ?_, ?_⟩⟩
  · obtain ⟨hlangids, htext⟩ := decoded_of_announces hraw
    obtain ⟨hlangids', htext'⟩ := decoded_of_announces hother
    exact ⟨hlangids'.trans hlangids.symm, htext'.trans htext.symm⟩
  · have hmore : ∀ i < length.toNat, (raw ++ more)[i]? = raw[i]? := fun i hi =>
      List.getElem?_append_left (Nat.lt_of_lt_of_le hi hraw.inside)
    exact decoded_congr (hraw.payload_congr hmore)
  · exact fun other hsame => decoded_congr (hraw.payload_congr hsame)

/-- An odd length byte, with bytes behind the announced end that are changed, and half a pair. -/
theorem decoders_accept_grammar_clef :
    Accepted [7, 3, 0x34, 0xD8, 0x1E, 0xDD, 0x41, 0] 7 ∧
    decode ([7, 3, 0x34, 0xD8, 0x1E, 0xDD, 0x41, 0] ++ [5, 6]) = .ok ['𝄞'] ∧
    decode [7, 3, 0x34, 0xD8, 0x1E, 0xDD, 0x41, 9] = .ok ['𝄞'] ∧
    Text.Utf16.HasUnpaired [0xD834] ∧ decode [4, 3, 0x34, 0xD8] = .error .invalidUtf16 := by
  have hread : decode [7, 3, 0x34, 0xD8, 0x1E, 0xDD, 0x41, 0] = .ok ['𝄞'] := rfl
  have hraw : Accepted [7, 3, 0x34, 0xD8, 0x1E, 0xDD, 0x41, 0] 7 :=
    ⟨rfl, rfl, by decide, by decide⟩
  obtain ⟨hfailed, hwords, -, -, -, hbehind⟩ := decoders_accept_grammar
  obtain ⟨happended, hchanged⟩ := hbehind _ _ hraw
  have hhalf : Text.Utf16.HasUnpaired [0xD834] := ⟨[], 0xD834, [], rfl, .inl ⟨rfl, rfl⟩⟩
  have hannounced : Announces [4, 3, 0x34, 0xD8] [0xD834] := (hwords _ _).1 rfl
  exact ⟨hraw, (happended [5, 6]).2.trans hread, (hchanged _ (by decide)).2.trans hread, hhalf,
    (hfailed _ _).2.2 (.inr ⟨rfl, _, hannounced, hhalf⟩)⟩

end SerialBus.StringDescriptor
