import SerialBus.Text.Utf16

/-! UTF-16 is read back as it was written, and nothing else can be read: what is no text has an
unpaired surrogate. A text that is cut after a number of code units is the beginning that fits,
unless the cut leaves one half of a pair. -/
namespace SerialBus.Text.Utf16

/-! One scalar value. -/

private theorem toNat_ofNat {n : Nat} (h : n.isValidChar) : (Char.ofNat n).toNat = n := by
  rw [Char.ofNat, dif_pos h]
  rfl

private theorem toNat_toUInt16 {n : Nat} (h : n < 0x10000) : n.toUInt16.toNat = n :=
  UInt16.toNat_ofNat_of_lt' h

theorem isHighSurrogate_iff {u : UInt16} :
    isHighSurrogate u = true ↔ 0xD800 ≤ u.toNat ∧ u.toNat < 0xDC00 := by
  simp [isHighSurrogate]

theorem isLowSurrogate_iff {u : UInt16} :
    isLowSurrogate u = true ↔ 0xDC00 ≤ u.toNat ∧ u.toNat < 0xE000 := by
  simp [isLowSurrogate]

theorem isHighSurrogate_of_isLowSurrogate {u : UInt16} (h : isLowSurrogate u = true) :
    isHighSurrogate u = false := by
  rw [isLowSurrogate_iff] at h
  rw [← Bool.not_eq_true, isHighSurrogate_iff]
  omega

/-- A code unit that stands for a scalar value by itself. -/
def IsSingle (u : UInt16) : Prop := u.toNat < 0xD800 ∨ 0xE000 ≤ u.toNat

theorem isSingle_iff {u : UInt16} :
    IsSingle u ↔ isHighSurrogate u = false ∧ isLowSurrogate u = false := by
  rw [← Bool.not_eq_true, ← Bool.not_eq_true, isHighSurrogate_iff, isLowSurrogate_iff, IsSingle]
  omega

theorem unitsOf_single {u : UInt16} (hu : IsSingle u) : unitsOf (Char.ofNat u.toNat) = [u] := by
  have hlt : u.toNat < 0x10000 := u.toNat_lt
  have hvalid : u.toNat.isValidChar := by
    unfold IsSingle at hu
    unfold Nat.isValidChar
    omega
  rw [unitsOf, toNat_ofNat hvalid, if_pos hlt, Nat.toUInt16, UInt16.ofNat_toNat]

theorem toNat_joinSurrogates {high low : UInt16} (hh : isHighSurrogate high = true)
    (hl : isLowSurrogate low = true) : (joinSurrogates high low).toNat =
      0x10000 + (high.toNat - 0xD800) * 0x400 + (low.toNat - 0xDC00) := by
  rw [isHighSurrogate_iff] at hh
  rw [isLowSurrogate_iff] at hl
  apply toNat_ofNat
  unfold Nat.isValidChar
  omega

theorem unitsOf_joinSurrogates {high low : UInt16} (hh : isHighSurrogate high = true)
    (hl : isLowSurrogate low = true) : unitsOf (joinSurrogates high low) = [high, low] := by
  have hjoin := toNat_joinSurrogates hh hl
  rw [isHighSurrogate_iff] at hh
  rw [isLowSurrogate_iff] at hl
  generalize joinSurrogates high low = c at hjoin
  have hhigh : 0xD800 + (c.toNat - 0x10000) / 0x400 = high.toNat := by omega
  have hlow : 0xDC00 + (c.toNat - 0x10000) % 0x400 = low.toNat := by omega
  rw [unitsOf, if_neg (by omega)]
  simp only [hhigh, hlow, Nat.toUInt16, UInt16.ofNat_toNat]

/-- A scalar value is one unit, or a pair of surrogates. -/
theorem unitsOf_cases (c : Char) :
    (∃ u, IsSingle u ∧ unitsOf c = [u] ∧ Char.ofNat u.toNat = c) ∨
      ∃ high low, isHighSurrogate high = true ∧ isLowSurrogate low = true ∧
        unitsOf c = [high, low] ∧ joinSurrogates high low = c := by
  have hvalid : c.toNat < 0xD800 ∨ 0xDFFF < c.toNat ∧ c.toNat < 0x110000 := c.valid
  unfold unitsOf
  split
  next hlt =>
    refine .inl ⟨c.toNat.toUInt16, ?_, rfl, ?_⟩
    · rw [IsSingle, toNat_toUInt16 hlt]
      omega
    · rw [toNat_toUInt16 hlt, Char.ofNat_toNat]
  next hge =>
    let offset := c.toNat - 0x10000
    have hhigh : (0xD800 + offset / 0x400).toUInt16.toNat = 0xD800 + offset / 0x400 :=
      toNat_toUInt16 (by omega)
    have hlow : (0xDC00 + offset % 0x400).toUInt16.toNat = 0xDC00 + offset % 0x400 :=
      toNat_toUInt16 (by omega)
    refine .inr ⟨(0xD800 + offset / 0x400).toUInt16, (0xDC00 + offset % 0x400).toUInt16, ?_, ?_,
      rfl, ?_⟩
    · rw [isHighSurrogate_iff, hhigh]
      omega
    · rw [isLowSurrogate_iff, hlow]
      omega
    · have hsum : 0x10000 + (0xD800 + offset / 0x400 - 0xD800) * 0x400 +
          (0xDC00 + offset % 0x400 - 0xDC00) = c.toNat := by omega
      rw [joinSurrogates, hhigh, hlow, hsum, Char.ofNat_toNat]

/-! Whole texts. -/

theorem encode_cons (c : Char) (text : List Char) : encode (c :: text) = unitsOf c ++ encode text :=
  rfl

theorem decode?_single {u : UInt16} (hu : IsSingle u) (units : List UInt16) :
    decode? (u :: units) = (decode? units).map (Char.ofNat u.toNat :: ·) := by
  obtain ⟨hh, hl⟩ := isSingle_iff.1 hu
  cases units <;> simp [decode?, hh, hl]

theorem decode?_pair {high low : UInt16} (hh : isHighSurrogate high = true)
    (hl : isLowSurrogate low = true) (units : List UInt16) :
    decode? (high :: low :: units) = (decode? units).map (joinSurrogates high low :: ·) := by
  rw [decode?, if_pos hh, if_pos hl]

theorem decode?_half {high : UInt16} (hh : isHighSurrogate high = true) :
    decode? [high] = none := by
  rw [decode?, hh, Bool.true_or, if_pos rfl]

/-- What was written is read first, whatever comes behind it. -/
theorem decode?_encode_append (text : List Char) (units : List UInt16) :
    decode? (encode text ++ units) = (decode? units).map (text ++ ·) := by
  induction text with
  | nil => exact Option.map_id'.symm
  | cons c text ih =>
    have hmap : ((decode? units).map (text ++ ·)).map (c :: ·) =
        (decode? units).map (c :: text ++ ·) := by
      rw [Option.map_map]
      rfl
    rw [encode_cons, List.append_assoc]
    rcases unitsOf_cases c with ⟨u, hu, hunits, hc⟩ | ⟨high, low, hh, hl, hunits, hc⟩
    · rw [hunits, List.singleton_append, decode?_single hu, ih, hc, hmap]
    · rw [hunits, List.cons_append, List.singleton_append, decode?_pair hh hl, ih, hc, hmap]

theorem decode?_encode (text : List Char) : decode? (encode text) = some text := by
  have hwhole := decode?_encode_append text []
  rw [List.append_nil] at hwhole
  rw [hwhole, decode?, Option.map_some, List.append_nil]

/-- Only what a text is written as is read as the text. -/
theorem encode_of_decode? {units : List UInt16} {text : List Char} (h : decode? units = some text) :
    encode text = units := by
  fun_induction decode? units generalizing text with
  | case1 =>
    cases h
    rfl
  | case2 u hu => cases h
  | case3 u hu =>
    cases h
    rw [Bool.or_eq_true, not_or, Bool.not_eq_true, Bool.not_eq_true] at hu
    rw [encode_cons, unitsOf_single (isSingle_iff.2 hu)]
    rfl
  | case4 u v rest hh hl ih =>
    obtain ⟨tail, htail, rfl⟩ := Option.map_eq_some_iff.1 h
    rw [encode_cons, unitsOf_joinSurrogates hh hl, ih htail]
    rfl
  | case5 u v rest hh hl => cases h
  | case6 u v rest hh hl => cases h
  | case7 u v rest hh hl ih =>
    obtain ⟨tail, htail, rfl⟩ := Option.map_eq_some_iff.1 h
    rw [Bool.not_eq_true] at hh hl
    rw [encode_cons, unitsOf_single (isSingle_iff.2 ⟨hh, hl⟩), ih htail]
    rfl

theorem decode?_eq_some_iff {units : List UInt16} {text : List Char} :
    decode? units = some text ↔ encode text = units :=
  ⟨encode_of_decode?, fun h => h ▸ decode?_encode text⟩

/-! Texts that are cut. -/

/-- The longest beginning of a text that has at most `k` code units. -/
def fitting : Nat → List Char → List Char
  | _, [] => []
  | k, c :: text =>
    if (unitsOf c).length ≤ k then c :: fitting (k - (unitsOf c).length) text else []

/-- Whether the first `k` code units of a text end with the first half of a pair. -/
def splitsPair (k : Nat) (text : List Char) : Bool :=
  ((encode text).take k).getLast?.any isHighSurrogate

theorem fitting_isPrefix (k : Nat) (text : List Char) : fitting k text <+: text := by
  induction text generalizing k with
  | nil => exact List.prefix_refl _
  | cons c text ih =>
    rw [fitting]
    split
    · exact List.cons_prefix_cons.2 ⟨rfl, ih _⟩
    · exact List.nil_prefix

/-- The units up to a cut are those of the beginning that fits, and at most one half of a pair. -/
theorem take_encode (k : Nat) (text : List Char) :
    (encode text).take k = encode (fitting k text) ∨
      ∃ high, isHighSurrogate high = true ∧
        (encode text).take k = encode (fitting k text) ++ [high] := by
  induction text generalizing k with
  | nil => exact .inl List.take_nil
  | cons c text ih =>
    rw [encode_cons, fitting]
    split
    next hfits =>
      rw [List.take_append, List.take_of_length_le hfits, encode_cons]
      rcases ih (k - (unitsOf c).length) with heq | ⟨high, hh, heq⟩
      · exact .inl (congrArg _ heq)
      · refine .inr ⟨high, hh, ?_⟩
        rw [heq, List.append_assoc]
    next hlong =>
      rcases unitsOf_cases c with ⟨u, -, hunits, -⟩ | ⟨high, low, hh, -, hunits, -⟩
      · have hzero : k = 0 := by
          rw [hunits, List.length_singleton] at hlong
          omega
        subst hzero
        exact .inl rfl
      · -- Only a cut behind the first of two units leaves anything of the pair.
        rw [hunits] at hlong ⊢
        match k with
        | 0 => exact .inl rfl
        | 1 => exact .inr ⟨high, hh, rfl⟩
        | k + 2 => exact absurd (Nat.le_add_left 2 k) hlong

/-- A whole text does not end with the first half of a pair. -/
theorem getLast?_encode (text : List Char) :
    (encode text).getLast?.any isHighSurrogate = false := by
  induction text with
  | nil => rfl
  | cons c text ih =>
    rw [encode_cons, List.getLast?_append]
    cases hlast : (encode text).getLast? with
    | some u =>
      rw [hlast] at ih
      exact ih
    | none =>
      rcases unitsOf_cases c with ⟨u, hu, hunits, -⟩ | ⟨high, low, -, hl, hunits, -⟩
      · rw [hunits]
        exact (isSingle_iff.1 hu).1
      · rw [hunits]
        exact isHighSurrogate_of_isLowSurrogate hl

/-- A text that is cut is read as the beginning that fits, or cannot be read. -/
theorem decode?_take_encode (k : Nat) (text : List Char) :
    decode? ((encode text).take k) = if splitsPair k text then none else some (fitting k text) := by
  rw [splitsPair]
  rcases take_encode k text with heq | ⟨high, hh, heq⟩
  · rw [heq, getLast?_encode, decode?_encode]
    rfl
  · have hlast : (encode (fitting k text) ++ [high]).getLast?.any isHighSurrogate = true := by
      rw [List.getLast?_concat]
      exact hh
    rw [heq, hlast, decode?_encode_append, decode?_half hh]
    rfl

/-- A text that is short enough is not cut. -/
theorem fitting_of_le {k : Nat} {text : List Char} (h : (encode text).length ≤ k) :
    splitsPair k text = false ∧ fitting k text = text := by
  have hread := decode?_take_encode k text
  rw [List.take_of_length_le h, decode?_encode] at hread
  cases hsplits : splitsPair k text with
  | true => simp [hsplits] at hread
  | false => simpa [hsplits] using hread.symm

/-! Units that are no text. -/

/-- A surrogate stands without its partner: a high one that no low one follows, or a low one that
no high one precedes. -/
def HasUnpaired (units : List UInt16) : Prop :=
  ∃ before u after, units = before ++ u :: after ∧
    (isHighSurrogate u = true ∧ after.head?.any isLowSurrogate = false ∨
      isLowSurrogate u = true ∧ before.getLast?.any isHighSurrogate = false)

/-- Units in front that do not end with the first half of a pair give no partner to those behind. -/
theorem HasUnpaired.append {block units : List UInt16}
    (hblock : block.getLast?.any isHighSurrogate = false) (h : HasUnpaired units) :
    HasUnpaired (block ++ units) := by
  obtain ⟨before, u, after, rfl, hu⟩ := h
  refine ⟨block ++ before, u, after, (List.append_assoc ..).symm, hu.imp_right ?_⟩
  rintro ⟨hlow, hbefore⟩
  refine ⟨hlow, ?_⟩
  rw [List.getLast?_append]
  cases hlast : before.getLast? with
  | none => exact hblock
  | some v =>
    rw [hlast] at hbefore
    exact hbefore

/-- What stands behind a unit keeps its own last unit. -/
theorem any_getLast?_of_cons {p : UInt16 → Bool} {u : UInt16} {units : List UInt16}
    (h : (u :: units).getLast?.any p = false) : units.getLast?.any p = false := by
  cases units with
  | nil => rfl
  | cons v units => rwa [List.getLast?_cons_cons] at h

theorem not_hasUnpaired_nil : ¬ HasUnpaired [] := by
  rintro ⟨before, u, after, hnil, -⟩
  simp at hnil

theorem HasUnpaired.of_single {u : UInt16} {units : List UInt16} (hu : IsSingle u)
    (h : HasUnpaired (u :: units)) : HasUnpaired units := by
  obtain ⟨hhigh, hlow⟩ := isSingle_iff.1 hu
  obtain ⟨before, v, after, hsplit, hv⟩ := h
  cases before with
  | nil =>
    obtain ⟨rfl, rfl⟩ := List.cons.inj hsplit
    rw [hhigh, hlow] at hv
    simp at hv
  | cons w before =>
    obtain ⟨rfl, rfl⟩ := List.cons.inj hsplit
    exact ⟨before, v, after, rfl, hv.imp_right fun h => ⟨h.1, any_getLast?_of_cons h.2⟩⟩

theorem HasUnpaired.of_pair {high low : UInt16} {units : List UInt16}
    (hh : isHighSurrogate high = true) (hl : isLowSurrogate low = true)
    (h : HasUnpaired (high :: low :: units)) : HasUnpaired units := by
  have hnotHigh := isHighSurrogate_of_isLowSurrogate hl
  obtain ⟨before, v, after, hsplit, hv⟩ := h
  match before with
  | [] =>
    obtain ⟨rfl, rfl⟩ := List.cons.inj hsplit
    rcases hv with ⟨-, hnext⟩ | ⟨hlow, -⟩
    · exact absurd hnext (by simp [hl])
    · exact absurd (isHighSurrogate_of_isLowSurrogate hlow) (by simp [hh])
  | [w] =>
    obtain ⟨rfl, hrest⟩ := List.cons.inj hsplit
    obtain ⟨rfl, rfl⟩ := List.cons.inj hrest
    rcases hv with ⟨hhigh, -⟩ | ⟨-, hlast⟩
    · exact absurd hhigh (by simp [hnotHigh])
    · exact absurd hlast (by simp [hh])
  | w :: x :: before =>
    obtain ⟨rfl, hrest⟩ := List.cons.inj hsplit
    obtain ⟨rfl, rfl⟩ := List.cons.inj hrest
    exact ⟨before, v, after, rfl, hv.imp_right fun h =>
      ⟨h.1, any_getLast?_of_cons (any_getLast?_of_cons h.2)⟩⟩

theorem not_hasUnpaired_encode (text : List Char) : ¬ HasUnpaired (encode text) := by
  induction text with
  | nil => exact not_hasUnpaired_nil
  | cons c text ih =>
    rw [encode_cons]
    rcases unitsOf_cases c with ⟨u, hu, hunits, -⟩ | ⟨high, low, hh, hl, hunits, -⟩
    · rw [hunits]
      exact fun h => ih (h.of_single hu)
    · rw [hunits]
      exact fun h => ih (h.of_pair hh hl)

theorem hasUnpaired_of_decode? {units : List UInt16} (h : decode? units = none) :
    HasUnpaired units := by
  fun_induction decode? units with
  | case1 => cases h
  | case2 u hu =>
    exact ⟨[], u, [], rfl, (Bool.or_eq_true_iff.1 hu).imp (⟨·, rfl⟩) (⟨·, rfl⟩)⟩
  | case3 u hu => cases h
  | case4 u v rest hh hl ih =>
    have hlast : [u, v].getLast?.any isHighSurrogate = false :=
      isHighSurrogate_of_isLowSurrogate hl
    exact (ih (Option.map_eq_none_iff.1 h)).append hlast
  | case5 u v rest hh hl =>
    exact ⟨[], u, v :: rest, rfl, .inl ⟨hh, Bool.eq_false_iff.2 hl⟩⟩
  | case6 u v rest hh hl => exact ⟨[], u, v :: rest, rfl, .inr ⟨hl, rfl⟩⟩
  | case7 u v rest hh hl ih =>
    have hlast : [u].getLast?.any isHighSurrogate = false := Bool.eq_false_iff.2 hh
    exact (ih (Option.map_eq_none_iff.1 h)).append hlast

/-- Units are no text exactly if a surrogate among them is unpaired. -/
theorem decode?_eq_none_iff {units : List UInt16} : decode? units = none ↔ HasUnpaired units := by
  refine ⟨hasUnpaired_of_decode?, fun h => ?_⟩
  cases hread : decode? units with
  | none => rfl
  | some text => exact absurd h (encode_of_decode? hread ▸ not_hasUnpaired_encode text)

end SerialBus.Text.Utf16
