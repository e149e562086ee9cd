import SerialBus.Proofs.Text.Numeral
import SerialBus.Text.HexBytes

/-! Byte strings as they are typed: which texts are read, and as which bytes; what is shown is read
back. Reading a text at byte offsets comes to the same and never cuts a character. -/
namespace SerialBus.Text.HexBytes

/-! The grammar. -/

/-- Two digits for each byte, the high one first. -/
inductive Spelled : List UInt8 → List Char → Prop
  | nil : Spelled [] []
  | cons {byte : UInt8} {bytes : List UInt8} {high low : Char} {digits : List Char}
      (hhigh : IsDigit 16 (byte.toNat / 16) high) (hlow : IsDigit 16 (byte.toNat % 16) low)
      (h : Spelled bytes digits) : Spelled (byte :: bytes) (high :: low :: digits)

/-- A text without its blanks, colons and commas, wherever they stand. -/
def bare (cs : List Char) : List Char := cs.filter fun c => !(isBlank c || c == ':' || c == ',')

/-- What is left of a text without its separators and then without one marker in front, if there is
one. -/
def Leaves (cs digits : List Char) : Prop :=
  bare cs = '0' :: 'x' :: digits ∨ bare cs = digits ∧ ¬ ['0', 'x'] <+: digits

/-- What is wrong with a text: a character that is no digit, or else an odd number of digits. -/
inductive Fault (cs : List Char) : Error → Prop
  | notHex {digits : List Char} {c : Char} (hleaves : Leaves cs digits) (hc : c ∈ digits)
      (h : ∀ v, ¬ IsDigit 16 v c) : Fault cs (.notHex cs)
  | oddDigits {digits : List Char} (hleaves : Leaves cs digits)
      (hall : ∀ c ∈ digits, ∃ v, IsDigit 16 v c) (hodd : digits.length % 2 = 1) :
      Fault cs (.oddDigits cs)

theorem leaves_iff {cs digits : List Char} : Leaves cs digits ↔ digitsOf cs = digits := by
  have hbare : cs.filter (!isSeparator ·) = bare cs := rfl
  rw [Leaves, digitsOf, hbare]
  generalize bare cs = kept
  split
  next rest =>
    constructor
    · rintro (h | ⟨rfl, hnot⟩)
      · cases h
        rfl
      · exact absurd ⟨rest, rfl⟩ hnot
    · rintro rfl
      exact .inl rfl
  next hnot =>
    have hmarker : ∀ rest, kept ≠ '0' :: 'x' :: rest := hnot
    constructor
    · exact fun h => (h.resolve_left (hmarker _)).1
    · rintro rfl
      refine .inr ⟨rfl, ?_⟩
      rintro ⟨rest, hrest⟩
      exact hmarker rest hrest.symm

theorem isDigit_iff_isSome {c : Char} :
    (∃ v, IsDigit 16 v c) ↔ (hexDigit? c).isNone = false := by
  simp only [← hexDigit?_eq_some_iff]
  cases hexDigit? c <;> simp

theorem Spelled.cons_digits {a b : Nat} {high low : Char} {bytes : List UInt8}
    {digits : List Char} (ha : IsDigit 16 a high) (hb : IsDigit 16 b low)
    (h : Spelled bytes digits) :
    Spelled ((a * 16 + b).toUInt8 :: bytes) (high :: low :: digits) := by
  have ha' := ha.1
  have hb' := hb.1
  have hbyte : (a * 16 + b).toUInt8.toNat = a * 16 + b := Nat.mod_eq_of_lt (by omega)
  have hquotient : (a * 16 + b) / 16 = a := by omega
  have hremainder : (a * 16 + b) % 16 = b := by omega
  refine .cons ?_ ?_ h
  · rwa [hbyte, hquotient]
  · rwa [hbyte, hremainder]

/-- Pairs of digits are read as the bytes that they spell. -/
theorem pairs?_eq_some_iff {bytes : List UInt8} {digits : List Char} :
    pairs? digits = some bytes ↔ Spelled bytes digits := by
  constructor
  · intro h
    fun_induction pairs? digits generalizing bytes with
    | case1 =>
      cases h
      exact .nil
    | case2 => cases h
    | case3 high low rest ih =>
      obtain ⟨a, ha, h⟩ := Option.bind_eq_some_iff.1 h
      obtain ⟨b, hb, h⟩ := Option.bind_eq_some_iff.1 h
      obtain ⟨tail, htail, h⟩ := Option.bind_eq_some_iff.1 h
      cases h
      exact (ih htail).cons_digits (hexDigit?_eq_some_iff.1 ha) (hexDigit?_eq_some_iff.1 hb)
  · intro h
    induction h with
    | nil => rfl
    | @cons byte bytes high low digits hhigh hlow _ ih =>
      have hbyte : (byte.toNat / 16 * 16 + byte.toNat % 16).toUInt8 = byte := by
        rw [Nat.div_add_mod']
        exact UInt8.ofNat_toNat
      rw [pairs?, hexDigit?_eq_some_iff.2 hhigh, hexDigit?_eq_some_iff.2 hlow, ih]
      change some ((byte.toNat / 16 * 16 + byte.toNat % 16).toUInt8 :: bytes) = _
      rw [hbyte]

theorem Spelled.isDigit {bytes : List UInt8} {digits : List Char} (h : Spelled bytes digits) :
    ∀ c ∈ digits, ∃ v, IsDigit 16 v c := by
  induction h with
  | nil => exact nofun
  | cons hhigh hlow _ ih =>
    exact List.forall_mem_cons.2 ⟨⟨_, hhigh⟩, List.forall_mem_cons.2 ⟨⟨_, hlow⟩, ih⟩⟩

theorem Spelled.length_eq {bytes : List UInt8} {digits : List Char} (h : Spelled bytes digits) :
    digits.length = 2 * bytes.length := by
  induction h with
  | nil => rfl
  | cons _ _ _ ih =>
    rw [List.length_cons, List.length_cons, List.length_cons, ih]
    omega

/-- An even number of digits spells bytes, and nothing else does. -/
theorem exists_spelled_iff {digits : List Char} :
    (∃ bytes, Spelled bytes digits) ↔
      (∀ c ∈ digits, ∃ v, IsDigit 16 v c) ∧ digits.length % 2 = 0 := by
  constructor
  · rintro ⟨bytes, h⟩
    refine ⟨h.isDigit, ?_⟩
    rw [h.length_eq]
    exact Nat.mul_mod_right 2 _
  · rintro ⟨hall, heven⟩
    fun_induction pairs? digits with
    | case1 => exact ⟨[], .nil⟩
    | case2 c => exact absurd heven (by decide : ¬ 1 % 2 = 0)
    | case3 high low rest ih =>
      obtain ⟨⟨a, ha⟩, hall⟩ := List.forall_mem_cons.1 hall
      obtain ⟨⟨b, hb⟩, hall⟩ := List.forall_mem_cons.1 hall
      rw [List.length_cons, List.length_cons] at heven
      obtain ⟨bytes, hbytes⟩ := ih hall (by omega)
      exact ⟨_, hbytes.cons_digits ha hb⟩

/-! Reading. -/

theorem any_isNone_of_not_digit {digits : List Char} {c : Char} (hc : c ∈ digits)
    (h : ∀ v, ¬ IsDigit 16 v c) : (digits.any fun c => (hexDigit? c).isNone) = true := by
  refine List.any_eq_true.2 ⟨c, hc, Bool.of_not_eq_false fun hsome => ?_⟩
  obtain ⟨v, hv⟩ := isDigit_iff_isSome.2 hsome
  exact h v hv

theorem any_isNone_of_digits {digits : List Char} (hall : ∀ c ∈ digits, ∃ v, IsDigit 16 v c) :
    ¬ (digits.any fun c => (hexDigit? c).isNone) = true := by
  rw [Bool.not_eq_true, List.any_eq_false]
  intro c hc
  rw [isDigit_iff_isSome.1 (hall c hc)]
  exact Bool.false_ne_true

theorem parse_of_not_digit {cs : List Char} {c : Char} (hc : c ∈ digitsOf cs)
    (h : ∀ v, ¬ IsDigit 16 v c) : parse cs = .error (.notHex cs) := by
  rw [parse, if_pos (any_isNone_of_not_digit hc h)]

theorem parse_of_odd {cs : List Char} (hall : ∀ c ∈ digitsOf cs, ∃ v, IsDigit 16 v c)
    (hodd : (digitsOf cs).length % 2 = 1) : parse cs = .error (.oddDigits cs) := by
  rw [parse, if_neg (any_isNone_of_digits hall), if_pos (by omega)]

theorem parse_of_spelled {cs : List Char} {bytes : List UInt8} (h : Spelled bytes (digitsOf cs)) :
    parse cs = .ok bytes := by
  obtain ⟨hall, heven⟩ := exists_spelled_iff.1 ⟨bytes, h⟩
  rw [parse, if_neg (any_isNone_of_digits hall), if_neg (not_not_intro heven),
    pairs?_eq_some_iff.2 h]

/-- A text has a fault or spells bytes, and is read accordingly. -/
theorem parse_cases (cs : List Char) :
    (∃ e, Fault cs e ∧ parse cs = .error e) ∨
      ∃ bytes, Spelled bytes (digitsOf cs) ∧ parse cs = .ok bytes := by
  have hleaves : Leaves cs (digitsOf cs) := leaves_iff.2 rfl
  by_cases hall : ∀ c ∈ digitsOf cs, ∃ v, IsDigit 16 v c
  · rcases Nat.mod_two_eq_zero_or_one (digitsOf cs).length with heven | hodd
    · obtain ⟨bytes, hbytes⟩ := exists_spelled_iff.2 ⟨hall, heven⟩
      exact .inr ⟨bytes, hbytes, parse_of_spelled hbytes⟩
    · exact .inl ⟨_, .oddDigits hleaves hall hodd, parse_of_odd hall hodd⟩
  · simp only [not_forall, not_exists] at hall
    obtain ⟨c, hc, hnone⟩ := hall
    exact .inl ⟨_, .notHex hleaves hc hnone, parse_of_not_digit hc hnone⟩

theorem parse_of_fault {cs : List Char} {e : Error} (h : Fault cs e) : parse cs = .error e := by
  cases h with
  | notHex hleaves hc hnone => exact parse_of_not_digit (leaves_iff.1 hleaves ▸ hc) hnone
  | oddDigits hleaves hall hodd =>
    rw [← leaves_iff.1 hleaves] at hall hodd
    exact parse_of_odd hall hodd

theorem parse_eq_ok_iff {cs : List Char} {bytes : List UInt8} :
    parse cs = .ok bytes ↔ ∃ digits, Leaves cs digits ∧ Spelled bytes digits := by
  simp only [leaves_iff, exists_eq_left']
  refine ⟨fun h => ?_, parse_of_spelled⟩
  rcases parse_cases cs with ⟨e, -, he⟩ | ⟨others, hothers, hread⟩
  · cases h.symm.trans he
  · cases h.symm.trans hread
    exact hothers

theorem parse_eq_error_iff {cs : List Char} {e : Error} : parse cs = .error e ↔ Fault cs e := by
  refine ⟨fun h => ?_, parse_of_fault⟩
  rcases parse_cases cs with ⟨others, hfault, he⟩ | ⟨bytes, -, hread⟩
  · cases h.symm.trans he
    exact hfault
  · cases h.symm.trans hread

/-! What is shown. -/

theorem toList_hexByte (b : UInt8) :
    (hexByte b).toList = [(b.toNat / 16).digitChar, (b.toNat % 16).digitChar] := by
  have hbyte : ∀ n < 256, digits 16 2 n = [(n / 16).digitChar, (n % 16).digitChar] := by
    decide +kernel
  rw [hexByte, hex, String.toList_ofList, hbyte _ b.toNat_lt]

theorem spelled_hexByte (bytes : List UInt8) :
    Spelled bytes (bytes.map fun b => (hexByte b).toList).flatten := by
  induction bytes with
  | nil => exact .nil
  | cons byte bytes ih =>
    have hbyte := byte.toNat_lt
    rw [List.map_cons, List.flatten_cons, toList_hexByte]
    exact .cons ⟨by omega, .inl rfl⟩ ⟨by omega, .inl rfl⟩ ih

theorem isSeparator_of_isDigit {v : Nat} {c : Char} (h : IsDigit 16 v c) :
    isSeparator c = false := by
  have hdigit : ∀ v < 16, isSeparator v.digitChar = false ∧
      isSeparator v.digitChar.toUpper = false := by decide
  rcases h with ⟨hv, rfl | rfl⟩
  · exact (hdigit v hv).1
  · exact (hdigit v hv).2

/-- Of pieces with blanks between them, only the pieces are kept where blanks are left out. -/
theorem filter_intercalate {p : Char → Bool} {pieces : List (List Char)} (hblank : p ' ' = false)
    (hpieces : ∀ piece ∈ pieces, ∀ c ∈ piece, p c = true) :
    ([' '].intercalate pieces).filter p = pieces.flatten := by
  induction pieces with
  | nil => rfl
  | cons piece pieces ih =>
    obtain ⟨hpiece, hpieces⟩ := List.forall_mem_cons.1 hpieces
    have hkept : piece.filter p = piece := List.filter_eq_self.2 hpiece
    cases pieces with
    | nil => simpa using hpiece
    | cons next pieces =>
      rw [List.intercalate_cons_cons, List.filter_append, List.filter_append, hkept, ih hpieces,
        List.filter_singleton, hblank, List.flatten_cons, List.append_assoc]
      rfl

theorem leaves_render (bytes : List UInt8) :
    Leaves (render bytes).toList (bytes.map fun b => (hexByte b).toList).flatten := by
  have hall := (spelled_hexByte bytes).isDigit
  refine .inr ⟨?_, ?_⟩
  · rw [bare, render, String.toList_intercalate, List.map_map]
    refine filter_intercalate rfl fun piece hpiece c hc => ?_
    obtain ⟨v, hv⟩ := hall c (List.mem_flatten.2 ⟨piece, hpiece, hc⟩)
    exact congrArg (!·) (isSeparator_of_isDigit hv)
  · -- The second character of a marker is no digit.
    rintro ⟨rest, hrest⟩
    obtain ⟨v, hv⟩ := hall 'x' (by rw [← hrest]; simp)
    cases hexDigit?_eq_some_iff.2 hv

theorem parse_render (bytes : List UInt8) : parse (render bytes).toList = .ok bytes :=
  parse_eq_ok_iff.2 ⟨_, leaves_render bytes, spelled_hexByte bytes⟩

/-! Reading at byte offsets, where a cut inside of a character or behind the end has no result. -/

/-- The number of bytes of a text in UTF-8. -/
def byteLength (cs : List Char) : Nat := (cs.map Char.utf8Size).sum

/-- A text cut in two at a byte offset. -/
def cutAt? : Nat → List Char → Option (List Char × List Char)
  | 0, cs => some ([], cs)
  | _ + 1, [] => none
  | n + 1, c :: cs =>
    if c.utf8Size ≤ n + 1 then
      (cutAt? (n + 1 - c.utf8Size) cs).map fun (front, back) => (c :: front, back)
    else none

/-- What stands between two byte offsets. -/
def slice? (start stop : Nat) (cs : List Char) : Option (List Char) := do
  let (front, _) ← cutAt? stop cs
  let (_, slice) ← cutAt? start front
  return slice

/-- The bytes whose two digits start at the offsets, each read as a number. -/
def bytesAt? (digits : List Char) : List Nat → Option (Except Unit (List UInt8))
  | [] => some (.ok [])
  | offset :: offsets => do
    let slice ← slice? offset (offset + 2) digits
    match (unsigned? 16 slice).filter (· < 256) with
    | some n => return (← bytesAt? digits offsets).map (n.toUInt8 :: ·)
    | none => return .error ()

/-- Reading by slices of two bytes; none if a slice cannot be taken. -/
def parseSlices? (cs : List Char) : Option (Except Error (List UInt8)) :=
  let digits := digitsOf cs
  if digits.any fun c => (hexDigit? c).isNone then some (.error (.notHex cs))
  else if byteLength digits % 2 ≠ 0 then some (.error (.oddDigits cs))
  else (bytesAt? digits (List.range' 0 (byteLength digits / 2) 2)).map
    (·.mapError fun _ => .notHex cs)

theorem byteLength_append (front back : List Char) :
    byteLength (front ++ back) = byteLength front + byteLength back := by
  rw [byteLength, List.map_append, List.sum_append]
  rfl

theorem cutAt?_append (front back : List Char) :
    cutAt? (byteLength front) (front ++ back) = some (front, back) := by
  induction front with
  | nil => exact cutAt?.eq_1 back
  | cons c front ih =>
    have hsize : byteLength (c :: front) = c.utf8Size + byteLength front := List.sum_cons
    have hpos := c.utf8Size_pos
    obtain ⟨n, hn⟩ := Nat.exists_eq_add_one.2 (by omega : 0 < byteLength (c :: front))
    have hrest : n + 1 - c.utf8Size = byteLength front := by omega
    rw [hn, List.cons_append, cutAt?, if_pos (by omega), hrest, ih]
    rfl

theorem slice?_append (front slice back : List Char) :
    slice? (byteLength front) (byteLength front + byteLength slice) (front ++ slice ++ back) =
      some slice := by
  rw [slice?, ← byteLength_append, cutAt?_append]
  change (cutAt? (byteLength front) (front ++ slice)).bind _ = some slice
  rw [cutAt?_append]
  rfl

/-- No slice starts inside of a character. -/
example : slice? 1 3 ['é', '0'] = none := by decide

/-- A digit is a single byte. -/
theorem byteLength_of_digits {digits : List Char} (hall : ∀ c ∈ digits, ∃ v, IsDigit 16 v c) :
    byteLength digits = digits.length := by
  have hsize : ∀ v < 16, v.digitChar.utf8Size = 1 ∧ v.digitChar.toUpper.utf8Size = 1 := by decide
  induction digits with
  | nil => rfl
  | cons c digits ih =>
    obtain ⟨⟨v, hv, hc⟩, hall⟩ := List.forall_mem_cons.1 hall
    have hone : c.utf8Size = 1 := by
      rcases hc with rfl | rfl
      · exact (hsize v hv).1
      · exact (hsize v hv).2
    change c.utf8Size + byteLength digits = digits.length + 1
    rw [hone, ih hall, Nat.add_comm]

theorem unsigned?_pair {byte : UInt8} {high low : Char} (hhigh : IsDigit 16 (byte.toNat / 16) high)
    (hlow : IsDigit 16 (byte.toNat % 16) low) :
    (unsigned? 16 [high, low]).filter (· < 256) = some byte.toNat := by
  have hvalue : Nat.ofDigits 16 [byte.toNat % 16, byte.toNat / 16] = byte.toNat := by
    rw [Nat.ofDigits_cons, Nat.ofDigits_singleton]
    exact Nat.mod_add_div _ _
  have hstands : StandsFor 16 byte.toNat [high, low] :=
    ⟨[_, _], nofun, .cons hhigh (.cons hlow .nil), hvalue⟩
  rw [(unsigned?_eq_some_iff (by decide)).2 (.plain hstands)]
  exact Option.filter_eq_some_iff.2 ⟨rfl, decide_eq_true byte.toNat_lt⟩

theorem bytesAt?_cons {digits slice : List Char} {offset n : Nat} {offsets : List Nat}
    {bytes : List UInt8} (hslice : slice? offset (offset + 2) digits = some slice)
    (hn : (unsigned? 16 slice).filter (· < 256) = some n)
    (hrest : bytesAt? digits offsets = some (.ok bytes)) :
    bytesAt? digits (offset :: offsets) = some (.ok (n.toUInt8 :: bytes)) := by
  rw [bytesAt?, hslice]
  simp only [Option.bind_eq_bind, Option.bind_some, hn, hrest]
  rfl

/-- Behind digits that were read, each slice is the pair of digits of the next byte. -/
theorem bytesAt?_of_spelled {bytes : List UInt8} {digits front : List Char}
    (h : Spelled bytes digits) (hfront : ∀ c ∈ front, ∃ v, IsDigit 16 v c) :
    bytesAt? (front ++ digits) (List.range' front.length bytes.length 2) = some (.ok bytes) := by
  induction h generalizing front with
  | nil => rfl
  | @cons byte bytes high low digits hhigh hlow _ ih =>
    have hpair : ∀ c ∈ [high, low], ∃ v, IsDigit 16 v c :=
      List.forall_mem_cons.2 ⟨⟨_, hhigh⟩, List.forall_mem_singleton.2 ⟨_, hlow⟩⟩
    have hboth : ∀ c ∈ front ++ [high, low], ∃ v, IsDigit 16 v c := fun c hc =>
      (List.mem_append.1 hc).elim (hfront c) (hpair c)
    have hsplit : front ++ high :: low :: digits = front ++ [high, low] ++ digits := by
      rw [List.append_assoc]
      rfl
    have hslice : slice? front.length (front.length + 2) (front ++ [high, low] ++ digits) =
        some [high, low] := by
      have hcut := slice?_append front [high, low] digits
      rwa [byteLength_of_digits hfront, byteLength_of_digits hpair] at hcut
    have hrest : bytesAt? (front ++ [high, low] ++ digits)
        (List.range' (front.length + 2) bytes.length 2) = some (.ok bytes) := by
      have hboth' := ih hboth
      rwa [List.length_append] at hboth'
    rw [hsplit, List.length_cons, List.range'_succ,
      bytesAt?_cons hslice (unsigned?_pair hhigh hlow) hrest, Nat.toUInt8, UInt8.ofNat_toNat]

/-- Every slice can be taken, and what is read is the same. -/
theorem parseSlices?_eq (cs : List Char) : parseSlices? cs = some (parse cs) := by
  by_cases hall : ∀ c ∈ digitsOf cs, ∃ v, IsDigit 16 v c
  · have hnone := any_isNone_of_digits hall
    rw [parseSlices?, if_neg hnone, byteLength_of_digits hall]
    rcases Nat.mod_two_eq_zero_or_one (digitsOf cs).length with heven | hodd
    · obtain ⟨bytes, hbytes⟩ := exists_spelled_iff.2 ⟨hall, heven⟩
      have hcount : (digitsOf cs).length / 2 = bytes.length := by
        rw [hbytes.length_eq]
        omega
      have hread : bytesAt? (digitsOf cs) (List.range' 0 bytes.length 2) = some (.ok bytes) :=
        @bytesAt?_of_spelled bytes (digitsOf cs) [] hbytes nofun
      rw [if_neg (not_not_intro heven), hcount, hread, parse_of_spelled hbytes]
      rfl
    · rw [if_pos (by omega), parse_of_odd hall hodd]
  · simp only [not_forall, not_exists] at hall
    obtain ⟨c, hc, hnone⟩ := hall
    rw [parseSlices?, if_pos (any_isNone_of_not_digit hc hnone), parse_of_not_digit hc hnone]

/-- What is shown is read back. A text is read as the bytes whose digits it leaves when separators
and a marker are taken out, and otherwise refused for its fault; no slice of its digits is cut out
of place. -/
theorem read_as_spelled :
    (∀ bytes, parse (render bytes).toList = .ok bytes) ∧
    (∀ cs bytes, parse cs = .ok bytes ↔ ∃ digits, Leaves cs digits ∧ Spelled bytes digits) ∧
    (∀ cs, (∃ e, parse cs = .error e) ↔
      ¬ ∃ bytes digits, Leaves cs digits ∧ Spelled bytes digits) ∧
    (∀ cs e, parse cs = .error e ↔ Fault cs e) ∧
    ∀ cs, parseSlices? cs = some (parse cs) := by
  refine ⟨parse_render, fun _ _ => parse_eq_ok_iff, fun cs => ?_, fun _ _ => parse_eq_error_iff,
    parseSlices?_eq⟩
  simp only [← parse_eq_ok_iff]
  cases parse cs <;> simp

example : parse "0 x:0A,b\u2003C".toList = .ok [0x0A, 0xBC] := by decide +kernel

example : parse "é0".toList = .error (.notHex "é0".toList) := by decide +kernel

end SerialBus.Text.HexBytes
