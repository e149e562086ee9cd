import Mathlib.Data.List.Forall2
import Mathlib.Data.Nat.Digits.Defs
import SerialBus.Proofs.Text.Blank
import SerialBus.Text.Numeral

/-! The texts of numbers: which ones are read, and as which number. A number out of range is not
read, however far out it is. -/
namespace SerialBus.Text

/-! Digits. -/

/-- The character is the digit of the value, a letter in either case. -/
def IsDigit (base value : Nat) (c : Char) : Prop :=
  value < base ∧ (c = value.digitChar ∨ c = value.digitChar.toUpper)

instance (base value : Nat) (c : Char) : Decidable (IsDigit base value c) :=
  inferInstanceAs (Decidable (_ ∧ _))

private theorem hexDigit?_digitChar : ∀ v < 16, hexDigit? v.digitChar = some v ∧
    hexDigit? v.digitChar.toUpper = some v := by decide

private theorem isDigit_of_code :
    ∀ n < 103, ∀ v ∈ hexDigit? (Char.ofNat n), IsDigit 16 v (Char.ofNat n) := by decide +kernel

private theorem toNat_lt_of_hexDigit? {c : Char} {v : Nat} (h : hexDigit? c = some v) :
    c.toNat < 103 := by
  rw [hexDigit?] at h
  split at h
  next hdigit =>
    have hmax : c.toNat ≤ 57 := (Char.isDigit_iff_toNat.1 hdigit).2
    omega
  next =>
    split at h
    next hlower =>
      have hmax : c.toNat ≤ 102 := hlower.2
      omega
    next =>
      split at h
      next hupper =>
        have hmax : c.toNat ≤ 70 := hupper.2
        omega
      next => cases h

theorem hexDigit?_eq_some_iff {c : Char} {v : Nat} : hexDigit? c = some v ↔ IsDigit 16 v c := by
  constructor
  · intro h
    have hcode := isDigit_of_code c.toNat (toNat_lt_of_hexDigit? h) v
    rw [Char.ofNat_toNat] at hcode
    exact hcode h
  · rintro ⟨hv, rfl | rfl⟩
    · exact (hexDigit?_digitChar v hv).1
    · exact (hexDigit?_digitChar v hv).2

theorem digit?_eq_some_iff {base v : Nat} {c : Char} (hbase : base ≤ 16) :
    digit? base c = some v ↔ IsDigit base v c := by
  rw [digit?, Option.filter_eq_some_iff, hexDigit?_eq_some_iff, decide_eq_true_iff]
  constructor
  · rintro ⟨⟨-, hc⟩, hv⟩
    exact ⟨hv, hc⟩
  · rintro ⟨hv, hc⟩
    exact ⟨⟨Nat.lt_of_lt_of_le hv hbase, hc⟩, hv⟩

/-! The number that digits stand for. -/

/-- One or more digits, the most significant one first, and the number that they stand for. -/
def StandsFor (base n : Nat) (cs : List Char) : Prop :=
  ∃ values, values ≠ [] ∧ List.Forall₂ (IsDigit base) values cs ∧
    Nat.ofDigits base values.reverse = n

/-- A number in a base, which a plus sign may precede. -/
inductive Written (base n : Nat) : List Char → Prop
  | plain {cs : List Char} (h : StandsFor base n cs) : Written base n cs
  | plus {cs : List Char} (h : StandsFor base n cs) : Written base n ('+' :: cs)

/-- A number as it is typed: in decimal, or in hexadecimal behind its marker. -/
inductive Denotes (n : Nat) : List Char → Prop
  | decimal {cs : List Char} (h : Written 10 n cs) : Denotes n cs
  | hexadecimal {x : Char} {cs : List Char} (hx : x = 'x' ∨ x = 'X') (h : Written 16 n cs) :
      Denotes n ('0' :: x :: cs)

theorem ofDigits_reverse_cons (base v : Nat) (values : List Nat) :
    Nat.ofDigits base (v :: values).reverse =
      v * base ^ values.length + Nat.ofDigits base values.reverse := by
  rw [List.reverse_cons, Nat.ofDigits_append, Nat.ofDigits_singleton, List.length_reverse]
  ring

/-- Each digit that is read multiplies what was read before by the base. -/
theorem digitsFrom?_eq_some_iff {base n m : Nat} {cs : List Char} (hbase : base ≤ 16) :
    digitsFrom? base n cs = some m ↔ ∃ values, List.Forall₂ (IsDigit base) values cs ∧
      n * base ^ values.length + Nat.ofDigits base values.reverse = m := by
  induction cs generalizing n with
  | nil => simp [digitsFrom?, List.forall₂_nil_right_iff]
  | cons c cs ih =>
    have hvalue : ∀ (v : Nat) (values : List Nat),
        (n * base + v) * base ^ values.length + Nat.ofDigits base values.reverse =
          n * base ^ (v :: values).length + Nat.ofDigits base (v :: values).reverse := by
      intro v values
      rw [ofDigits_reverse_cons, List.length_cons]
      ring
    rw [digitsFrom?]
    constructor
    · intro h
      obtain ⟨v, hv, h⟩ := Option.bind_eq_some_iff.1 h
      obtain ⟨values, hvalues, rfl⟩ := ih.1 h
      exact ⟨v :: values, .cons ((digit?_eq_some_iff hbase).1 hv) hvalues, (hvalue v values).symm⟩
    · rintro ⟨_, hvalues, rfl⟩
      cases hvalues with
      | cons hv hvalues =>
        refine Option.bind_eq_some_iff.2 ⟨_, (digit?_eq_some_iff hbase).2 hv, ih.2 ⟨_, hvalues, ?_⟩⟩
        exact hvalue _ _

theorem digitsFrom?_zero_eq_some_iff {base n : Nat} {cs : List Char} (hbase : base ≤ 16)
    (hcs : cs ≠ []) : digitsFrom? base 0 cs = some n ↔ StandsFor base n cs := by
  rw [digitsFrom?_eq_some_iff hbase, StandsFor]
  refine exists_congr fun values => ?_
  rw [Nat.zero_mul, Nat.zero_add]
  refine ⟨fun h => ⟨?_, h⟩, And.right⟩
  rintro rfl
  exact hcs (List.forall₂_nil_left_iff.1 h.1)

theorem StandsFor.ne_nil {base n : Nat} {cs : List Char} (h : StandsFor base n cs) : cs ≠ [] := by
  obtain ⟨values, hne, hvalues, -⟩ := h
  rintro rfl
  exact hne (List.forall₂_nil_right_iff.1 hvalues)

/-- A number in a base is written with digits of the base alone. -/
theorem StandsFor.isDigit {base n : Nat} {cs : List Char} (h : StandsFor base n cs) :
    ∀ c ∈ cs, ∃ v, IsDigit base v c := by
  obtain ⟨values, -, hvalues, -⟩ := h
  clear n
  induction hvalues with
  | nil => simp
  | cons hv _ ih =>
    intro c hc
    rcases List.mem_cons.1 hc with rfl | hc
    · exact ⟨_, hv⟩
    · exact ih c hc

theorem unsigned?_eq_some_iff {base n : Nat} {cs : List Char} (hbase : base ≤ 16) :
    unsigned? base cs = some n ↔ Written base n cs := by
  -- A plus sign is no digit, so that it is never part of the number itself.
  have hplus : ∀ rest, ¬ StandsFor base n ('+' :: rest) := by
    intro rest h
    obtain ⟨v, hv⟩ := h.isDigit '+' List.mem_cons_self
    have hnone : digit? base '+' = none := rfl
    rw [← digit?_eq_some_iff hbase, hnone] at hv
    cases hv
  rw [unsigned?.eq_def]
  split
  next =>
    refine ⟨nofun, fun h => ?_⟩
    cases h with
    | plain h => exact absurd rfl h.ne_nil
  next =>
    refine ⟨nofun, fun h => ?_⟩
    cases h with
    | plain h => exact absurd h (hplus _)
    | plus h => exact absurd rfl h.ne_nil
  next rest hrest =>
    rw [digitsFrom?_zero_eq_some_iff hbase hrest]
    refine ⟨.plus, fun h => ?_⟩
    cases h with
    | plain h => exact absurd h (hplus _)
    | plus h => exact h
  next hnil _ hsign =>
    rw [digitsFrom?_zero_eq_some_iff hbase hnil]
    refine ⟨.plain, fun h => ?_⟩
    cases h with
    | plain h => exact h
    | plus h => exact absurd rfl (hsign _)

theorem Written.isDigit {base n : Nat} {c : Char} {cs : List Char} (h : Written base n (c :: cs)) :
    ∀ d ∈ cs, ∃ v, IsDigit base v d := by
  cases h with
  | plain h => exact fun d hd => h.isDigit d (List.mem_cons_of_mem _ hd)
  | plus h => exact h.isDigit

theorem numeral?_eq_some_iff {n : Nat} {cs : List Char} :
    numeral? cs = some n ↔ Denotes n cs := by
  -- The marker is no decimal digit.
  have hmarker : ∀ (x : Char) rest, x = 'x' ∨ x = 'X' → ¬ Written 10 n ('0' :: x :: rest) := by
    intro x rest hx h
    obtain ⟨v, hv⟩ := h.isDigit x List.mem_cons_self
    rw [← digit?_eq_some_iff (by decide)] at hv
    rcases hx with rfl | rfl <;> cases hv
  rw [numeral?.eq_def]
  split
  next rest =>
    rw [unsigned?_eq_some_iff (by decide)]
    refine ⟨.hexadecimal (.inl rfl), fun h => ?_⟩
    cases h with
    | decimal h => exact absurd h (hmarker _ _ (.inl rfl))
    | hexadecimal _ h => exact h
  next rest =>
    rw [unsigned?_eq_some_iff (by decide)]
    refine ⟨.hexadecimal (.inr rfl), fun h => ?_⟩
    cases h with
    | decimal h => exact absurd h (hmarker _ _ (.inr rfl))
    | hexadecimal _ h => exact h
  next hlower hupper =>
    rw [unsigned?_eq_some_iff (by decide)]
    refine ⟨.decimal, fun h => ?_⟩
    cases h with
    | decimal h => exact h
    | hexadecimal hx h =>
      rcases hx with rfl | rfl
      · exact absurd rfl (hlower _)
      · exact absurd rfl (hupper _)

/-! Numbers of a size. -/

theorem parseWord_eq_ok_iff {cs : List Char} {w : UInt16} :
    parseWord cs = .ok w ↔ Denotes w.toNat (trim cs) := by
  rw [← numeral?_eq_some_iff, parseWord]
  cases numeral? (trim cs) with
  | none => exact ⟨nofun, nofun⟩
  | some n =>
    dsimp only
    rw [Option.some.injEq]
    split
    next hn =>
      have hword : n.toUInt16.toNat = n := Nat.mod_eq_of_lt hn
      rw [Except.ok.injEq, ← UInt16.toNat_inj, hword]
    next hn =>
      refine ⟨nofun, ?_⟩
      rintro rfl
      exact absurd w.toNat_lt hn

theorem parseWord_eq_error_iff {cs : List Char} {e : NumeralError} :
    parseWord cs = .error e ↔
      (∀ n ≤ 65535, ¬ Denotes n (trim cs)) ∧ e = .notSixteenBit (trim cs) := by
  simp only [← numeral?_eq_some_iff, parseWord]
  cases numeral? (trim cs) with
  | none => simp [eq_comm]
  | some n =>
    dsimp only
    split
    next hn => exact ⟨nofun, fun h => absurd rfl (h.1 n (by omega))⟩
    next hn =>
      have hout : ∀ m ≤ 65535, ¬ some n = some m := by
        rintro m hm ⟨⟩
        exact hn (by omega)
      rw [Except.error.injEq, eq_comm, and_iff_right hout]

theorem parseByte_of_ok {cs : List Char} {w : UInt16} (h : parseWord cs = .ok w) :
    parseByte cs = if w.toNat < 256 then .ok w.toUInt8 else .error (.notByte (trim cs)) := by
  rw [parseByte, h]
  rfl

theorem parseByte_of_error {cs : List Char} {e : NumeralError} (h : parseWord cs = .error e) :
    parseByte cs = .error e := by
  rw [parseByte, h]
  rfl

theorem exists_parseByte_iff {cs : List Char} {n : Nat} :
    (∃ b, parseByte cs = .ok b ∧ b.toNat = n) ↔
      n ≤ 255 ∧ ∃ w, parseWord cs = .ok w ∧ w.toNat = n := by
  cases hword : parseWord cs with
  | error e =>
    rw [parseByte_of_error hword]
    exact ⟨nofun, nofun⟩
  | ok w =>
    rw [parseByte_of_ok hword]
    split
    next hw =>
      have hbyte : w.toUInt8.toNat = w.toNat := Nat.mod_eq_of_lt hw
      constructor
      · rintro ⟨_, ⟨⟩, rfl⟩
        exact ⟨by omega, w, rfl, hbyte.symm⟩
      · rintro ⟨-, _, ⟨⟩, rfl⟩
        exact ⟨_, rfl, hbyte⟩
    next hw =>
      refine ⟨nofun, ?_⟩
      rintro ⟨hn, _, ⟨⟩, rfl⟩
      omega

theorem parseByte_eq_error_iff {cs : List Char} {e : NumeralError} :
    parseByte cs = .error e ↔ parseWord cs = .error e ∨
      ∃ w, parseWord cs = .ok w ∧ 255 < w.toNat ∧ e = .notByte (trim cs) := by
  cases hword : parseWord cs with
  | error e' =>
    rw [parseByte_of_error hword]
    constructor
    · rintro ⟨⟩
      exact .inl rfl
    · rintro (⟨⟨⟩⟩ | ⟨_, ⟨⟩, -⟩)
      rfl
  | ok w =>
    rw [parseByte_of_ok hword]
    split
    next hw =>
      refine ⟨nofun, ?_⟩
      rintro (h | ⟨_, ⟨⟩, hout, -⟩)
      · cases h
      · omega
    next hw =>
      constructor
      · rintro ⟨⟩
        exact .inr ⟨w, rfl, by omega, rfl⟩
      · rintro (h | ⟨_, ⟨⟩, -, rfl⟩)
        · cases h
        · rfl

/-- Between its blanks, a number of 16 bits is written in hexadecimal behind its marker or in
decimal, with or without a plus sign, and its value is in range; a number of 8 bits is one of 16
bits that is small enough. All else is refused with the text between the blanks. -/
theorem numbers_within_range :
    (∀ cs n, (∃ w, parseWord cs = .ok w ∧ w.toNat = n) ↔
      n ≤ 65535 ∧ ∃ text, Trimmed cs text ∧ Denotes n text) ∧
    (∀ cs n, (∃ b, parseByte cs = .ok b ∧ b.toNat = n) ↔
      n ≤ 255 ∧ ∃ w, parseWord cs = .ok w ∧ w.toNat = n) ∧
    (∀ cs e, parseWord cs = .error e ↔ ∃ text, Trimmed cs text ∧
      (∀ n ≤ 65535, ¬ Denotes n text) ∧ e = .notSixteenBit text) ∧
    ∀ cs e, parseByte cs = .error e ↔ parseWord cs = .error e ∨ ∃ text w, Trimmed cs text ∧
      parseWord cs = .ok w ∧ 255 < w.toNat ∧ e = .notByte text := by
  simp only [trimmed_iff, exists_eq_left', exists_and_left]
  refine ⟨fun cs n => ?_, fun _ _ => exists_parseByte_iff, fun _ _ => parseWord_eq_error_iff,
    fun _ _ => parseByte_eq_error_iff⟩
  simp only [parseWord_eq_ok_iff]
  constructor
  · rintro ⟨w, hw, rfl⟩
    exact ⟨Nat.le_of_lt_succ w.toNat_lt, hw⟩
  · rintro ⟨hn, h⟩
    have hword : n.toUInt16.toNat = n := Nat.mod_eq_of_lt (Nat.lt_succ_of_le hn)
    exact ⟨n.toUInt16, hword.symm ▸ h, hword⟩

example : parseWord " \t0X+00FfFf\u00a0".toList = .ok 65535 := by decide +kernel

example : parseByte "+0000255".toList = .ok 255 := by decide +kernel

end SerialBus.Text
