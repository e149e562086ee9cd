import SerialBus.Proofs.Device.Strings
import SerialBus.Proofs.Session.Steps

/-! Strings and language identifiers of devices in use. Whatever was done on the bus before, a
device returns the texts that it was plugged in with and the identifiers of its table, as long as
these are written as descriptors that can be read. -/
namespace SerialBus.Device

open SerialBus.Action Custody Session
open Loopback (Bus)
open Text (Utf16.encode Utf16.fitting Utf16.splitsPair)
open StringDescriptor (encode decode encodeLangids decodeLangids Spells)

/-- A device in use after any steps on a loopback bus where nothing is made to fail any more, and
what it was plugged in as. -/
def InUse (spec : Loopback.Device) (a : Attachment Bus) : Prop :=
  ∃ (specs : List Loopback.Device) (steps : List Step) (n : Nat) (slot : Slot),
    let s := (State.ofBus (.ofDevices specs)).afterSteps steps
    (∀ step ∈ steps, step.usesDevices) ∧ s.slot? n = some slot ∧ s.bed.failures = ∅ ∧
      specs[slot.device.id.number]? = some spec ∧ a = ⟨slot.device, s.bed⟩

variable {spec : Loopback.Device} {a : Attachment Bus}

/-- Whether the steps leave a device in use in the slot. -/
def Leaves (specs : List Loopback.Device) (steps : List Step) (n : Nat) (spec : Loopback.Device) :
    Bool :=
  let s := (State.ofBus (.ofDevices specs)).afterSteps steps
  steps.all Step.usesDevices && s.bed.failures == ∅ &&
    (s.slot? n).any fun slot => specs[slot.device.id.number]? == some spec

theorem exists_inUse (specs : List Loopback.Device) (steps : List Step) (n : Nat)
    (h : Leaves specs steps n spec = true) : ∃ a, InUse spec a := by
  simp only [Leaves, Bool.and_eq_true, beq_iff_eq, Option.any_eq_true, List.all_eq_true] at h
  obtain ⟨⟨hd, hf⟩, slot, hn, hspec⟩ := h
  exact ⟨_, specs, steps, n, slot, hd, hn, hf, hspec, rfl⟩

/-- The language that the device names first: US English, or the first one of its own table. -/
def FirstLangid (spec : Loopback.Device) (first : UInt16) : Prop :=
  spec.langidTable = none ∧ first = 0x0409 ∨
    ∃ rest, spec.langidTable = some (encodeLangids (first :: rest))

theorem InUse.works (h : InUse spec a) : a.bus.failures = ∅ ∧ Usable a.device a.bus ∧
    ∃ state, a.bus.device? a.device.id = some state ∧ state.spec = spec := by
  obtain ⟨specs, steps, n, slot, hd, hn, hf, hspec, rfl⟩ := h
  have hs := (State.hosted_ofBus specs).afterSteps hd
  obtain ⟨state, hstate⟩ := Option.isSome_iff_exists.1 (hs.present hn)
  have hidentity := hs.specs slot.device.id
  rw [hstate, hspec] at hidentity
  exact ⟨hf, usable_of_owned (hs.owned hn) (hs.present hn), state, hstate,
    Option.some.inj hidentity⟩

theorem InUse.langids (h : InUse spec a) :
    outcome langids a = langidsOf ((spec.langidTable.getD (encodeLangids [0x0409])).take 255) := by
  obtain ⟨hf, ha, state, hstate, rfl⟩ := h.works
  exact (langids_works hf ha hstate).1

theorem FirstLangid.langids {first : UInt16} (hfirst : FirstLangid spec first) (h : InUse spec a) :
    ∃ rest, outcome langids a = .ok (first :: rest) := by
  rw [h.langids]
  rcases hfirst with ⟨hnone, rfl⟩ | ⟨rest, hsome⟩
  · rw [hnone]
    exact ⟨[], langidsOf_encodeLangids [0x0409]⟩
  · rw [hsome]
    exact ⟨rest.take 125, langidsOf_encodeLangids (first :: rest)⟩

/-- What the device is asked for to read one of its strings. -/
def requestsFor (index : UInt8) (first : UInt16) : Option UInt16 → List Setup
  | some langid => [stringRequest index langid]
  | none => [stringRequest 0 0, stringRequest index first]

theorem requests_stringCall (index : UInt8) (langid : Option UInt16) :
    (Use.call (.string index langid)).requests a =
      (after (string index langid)
        (⟨a.device, ⟨a.bus, []⟩⟩ : Attachment (Watched Bus))).bus.requests := by
  rw [Use.requests, Use.calls, Use.after_call, DeviceCall.perform, after_bind_pure]
  rfl

/-- A string is read with one request, behind one for the languages if none is given. -/
theorem InUse.string (h : InUse spec a) {first : UInt16} (hfirst : FirstLangid spec first)
    {index : UInt8} (hindex : index ≠ 0) (langid : Option UInt16) :
    outcome (string index langid) a = textAt spec.strings index ∧
      Asked a (after (Device.string index langid) a) ∧
      (Use.call (.string index langid)).requests a = requestsFor index first langid := by
  rw [requests_stringCall]
  obtain ⟨rest, hlangids⟩ := hfirst.langids h
  obtain ⟨hf, ha, state, hstate, rfl⟩ := h.works
  let w : Attachment (Watched Bus) := ⟨a.device, ⟨a.bus, []⟩⟩
  cases langid with
  | some langid =>
    obtain ⟨hout, hasked⟩ := string_works hf ha hstate hindex langid
    exact ⟨hout, hasked, requests_string (w := w) hf ha hindex langid⟩
  | none =>
    obtain ⟨hout, hasked⟩ := string_works_first hf ha hstate hindex hlangids
    exact ⟨hout, hasked, requests_string_first (w := w) hf ha hstate hindex hlangids⟩

theorem textAt_of_text {strings : List (List Char)} {index : UInt8} {text : List Char}
    (htext : strings[index.toNat - 1]? = some text) :
    textAt strings index = if Utf16.splitsPair 126 text then .error (malformedString .invalidUtf16)
      else .ok (some (String.ofList (Utf16.fitting 126 text))) := by
  rw [textAt, htext]
  exact textOf_encode text

/-- The string with the index is what was plugged in, and what is behind the last one is refused.
Index 0 asks nothing of any bus, the table of languages is read only if none is given, and nothing
but the handle is changed. -/
theorem strings_read_back (h : InUse spec a)
    (hfits : ∀ text ∈ spec.strings, (Utf16.encode text).length ≤ 126) {first : UInt16}
    (hfirst : FirstLangid spec first) (index : UInt8) (langid : Option UInt16) :
    (index = 0 → ∀ {σ : Type} [Backend σ] (x : Attachment σ), string index langid x = .ok none x) ∧
    (index ≠ 0 → ∀ text, spec.strings[index.toNat - 1]? = some text →
      outcome (string index langid) a = .ok (some (String.ofList text))) ∧
    (spec.strings.length < index.toNat →
      outcome (string index langid) a = .error (.transport .pipe (some (-9)))) ∧
    (index ≠ 0 →
      (Use.call (.string index langid)).requests a = requestsFor index first langid) ∧
    let e := after (string index langid) a
    e.device = { a.device with held := { a.device.held with handle := e.device.held.handle } } ∧
      e.bus.devices = a.bus.devices := by
  refine ⟨?_, fun hindex text htext => ?_, fun hbehind => ?_, fun hindex => ?_, ?_⟩
  · rintro rfl σ _ x
    rfl
  · have hmem := List.mem_of_getElem? htext
    obtain ⟨hwhole, hfitting⟩ := Text.Utf16.fitting_of_le (hfits text hmem)
    rw [(h.string hfirst hindex langid).1, textAt_of_text htext, hwhole, hfitting]
    rfl
  · have hindex : index ≠ 0 := by
      rintro rfl
      cases hbehind
    have hnone : spec.strings[index.toNat - 1]? = none := List.getElem?_eq_none (by omega)
    rw [(h.string hfirst hindex langid).1, textAt, hnone]
    rfl
  · exact (h.string hfirst hindex langid).2.2
  · by_cases hindex : index = 0
    · subst hindex
      exact ⟨rfl, rfl⟩
    · obtain ⟨-, hasked, -⟩ := h.string hfirst hindex langid
      exact ⟨hasked.device, hasked.devices⟩

theorem strings_read_back_after_failure :
    let spec : Loopback.Device := { Loopback.Device.bulkLoopback 1 2 with
      strings := [['U', '𝄞'], []]
      langidTable := some (encodeLangids [0x0407, 0x0409]) }
    (∀ text ∈ spec.strings, (Utf16.encode text).length ≤ 126) ∧ FirstLangid spec 0x0407 ∧
      ∃ a, InUse spec a ∧
        outcome (string 1 none) a = .ok (some (String.ofList ['U', '𝄞'])) ∧
        (Use.call (.string 1 none)).requests a =
          [⟨0x80, 0x06, 0x0300, 0⟩, ⟨0x80, 0x06, 0x0301, 0x0407⟩] ∧
        outcome (string 3 (some 0x0409)) a = .error (.transport .pipe (some (-9))) := by
  intro spec
  let steps : List Step :=
    [.create ⟨0⟩, .create ⟨0⟩, .device 1 (.claim (some 0)), .hook (.failOn .ctrlTransfer .io),
      .device 0 (.string 1 none), .hook .clearFailures, .drop 1]
  have hfits : ∀ text ∈ spec.strings, (Utf16.encode text).length ≤ 126 := by decide
  have hfirst : FirstLangid spec 0x0407 := .inr ⟨[0x0409], rfl⟩
  obtain ⟨a, ha⟩ : ∃ a, InUse spec a := exists_inUse [spec] steps 0 (by decide +kernel)
  obtain ⟨-, hread, -, hrequests, -⟩ := strings_read_back ha hfits hfirst 1 none
  obtain ⟨-, -, hbehind, -⟩ := strings_read_back ha hfits hfirst 3 (some 0x0409)
  exact ⟨hfits, hfirst, a, ha, hread (by decide) _ rfl, hrequests (by decide),
    hbehind (by decide)⟩

/-- A text is read as a beginning of itself, from its descriptor and from a device, exactly if the
descriptor does not end within a pair of surrogates; else it cannot be read. -/
theorem cut_text_read_iff (text : List Char) :
    ((∃ kept, decode (encode text) = .ok kept ∧ kept <+: text) ↔
      Utf16.splitsPair 126 text = false) ∧
    (Utf16.splitsPair 126 text = true → decode (encode text) = .error .invalidUtf16) ∧
    ∀ spec a, InUse spec a → ∀ first, FirstLangid spec first → ∀ index langid, index ≠ 0 →
      spec.strings[index.toNat - 1]? = some text →
      ((∃ kept, outcome (string index langid) a = .ok (some (String.ofList kept)) ∧ kept <+: text) ↔
        Utf16.splitsPair 126 text = false) ∧
      (Utf16.splitsPair 126 text = true →
        outcome (string index langid) a = .error (malformedString .invalidUtf16)) := by
  have hdecode : decode (encode text) = if Utf16.splitsPair 126 text then .error .invalidUtf16
      else .ok (Utf16.fitting 126 text) := StringDescriptor.decode_encode text
  have hkept := Text.Utf16.fitting_isPrefix 126 text
  rw [hdecode]
  refine ⟨?_, fun hsplits => if_pos hsplits, ?_⟩
  · cases Utf16.splitsPair 126 text with
    | true => exact iff_of_false (by rintro ⟨_, ⟨⟩, -⟩) (by decide)
    | false => exact iff_of_true ⟨_, rfl, hkept⟩ rfl
  · intro spec a h first hfirst index langid hindex htext
    rw [(h.string hfirst hindex langid).1, textAt_of_text htext]
    refine ⟨?_, fun hsplits => if_pos hsplits⟩
    cases Utf16.splitsPair 126 text with
    | true => exact iff_of_false (by rintro ⟨_, ⟨⟩, -⟩) (by decide)
    | false => exact iff_of_true ⟨_, rfl, hkept⟩ rfl

theorem cut_text_read_iff_behind_pair :
    let text := List.replicate 124 'a' ++ ['𝄞', 'b', '𝄞']
    let spec : Loopback.Device := { Loopback.Device.bulkLoopback 1 2 with strings := [text] }
    126 < (Utf16.encode text).length ∧ (∃ kept, decode (encode text) = .ok kept ∧ kept <+: text) ∧
      ∃ a, InUse spec a ∧
        ∃ kept, outcome (string 1 none) a = .ok (some (String.ofList kept)) ∧ kept <+: text := by
  intro text spec
  have hwhole : Utf16.splitsPair 126 text = false := by decide +kernel
  have hlong : 126 < (Utf16.encode text).length := by decide +kernel
  obtain ⟨hdescriptor, -, hdevice⟩ := cut_text_read_iff text
  obtain ⟨a, ha⟩ : ∃ a, InUse spec a := exists_inUse [spec] [.create ⟨0⟩] 0 (by decide +kernel)
  obtain ⟨hread, -⟩ := hdevice spec a ha 0x0409 (.inl ⟨rfl, rfl⟩) 1 none (by decide) rfl
  exact ⟨hlong, hdescriptor.2 hwhole, a, ha, hread.2 hwhole⟩

/-- Of 125 letters and a clef only the first half of the clef would fit. -/
theorem clef_cut_unreadable :
    let text := List.replicate 125 'a' ++ ['𝄞']
    126 < (Utf16.encode text).length ∧ decode (encode text) = .error .invalidUtf16 :=
  ⟨by decide +kernel, (StringDescriptor.decode_encode _).trans (if_pos (by decide +kernel))⟩

/-- A table of language identifiers is read as those that fit behind the header. Of any bytes that a
device has for a table the first 255 are sent: they are no table if they are too few or announce too
few or an odd number, they are refused for another type or a length that is not there, and else they
are read as the words that they announce. -/
theorem langids_by_table (h : InUse spec a) {table : List UInt8}
    (htable : spec.langidTable = some table) :
    let raw := table.take 255
    let length := (raw.getD 0 0).toNat
    let type := raw.getD 1 0
    let refused (e : DescriptorError) : Except UsbError (List UInt16) :=
      .error (.invalidArgument s!"malformed string descriptor: {e.message}")
    (∀ words, decodeLangids (encodeLangids words) = .ok (words.take 126)) ∧
    (∀ words, table = encodeLangids words → outcome langids a = .ok (words.take 126)) ∧
    (raw.length < 4 ∨ length < 4 ∨ length % 2 = 1 → outcome langids a = .ok []) ∧
    (4 ≤ raw.length → 4 ≤ length → length % 2 = 0 →
      (type ≠ 3 → outcome langids a = refused (.unexpectedType 3 type)) ∧
      (type = 3 → raw.length < length →
        outcome langids a = refused (.malformed length raw.length)) ∧
      (type = 3 → length ≤ raw.length → ∃ words, outcome langids a = .ok words ∧
        Spells raw ((length - 2) / 2) words)) ∧
    ∀ words, outcome langids a = .ok words → words.length ≤ 126 := by
  intro raw length type refused
  have hout : outcome langids a = langidsOf raw := by
    rw [h.langids, htable]
    rfl
  rw [hout]
  refine ⟨StringDescriptor.decodeLangids_encodeLangids, ?_, fun hnone => ?_, langidsOf_cases,
    fun words => length_langidsOf⟩
  · intro words hwords
    change langidsOf (table.take 255) = _
    rw [hwords, langidsOf_encodeLangids]
  · rw [langidsOf, if_pos ((holdsNoLangid_iff raw).2 hnone)]

/-- One table with an odd byte behind it, and one that is shorter than it announces. -/
theorem langids_by_table_announced :
    let plugged (table : List UInt8) : Loopback.Device :=
      { Loopback.Device.bulkLoopback 1 2 with langidTable := some table }
    (∃ a, InUse (plugged [6, 3, 0x07, 0x04, 0x09, 0x04, 0xFF]) a ∧ ∃ words,
      outcome langids a = .ok words ∧ Spells [6, 3, 0x07, 0x04, 0x09, 0x04, 0xFF] 2 words) ∧
    ∃ a, InUse (plugged [8, 3, 0x07, 0x04, 0x09, 0x04]) a ∧ outcome langids a =
      .error (.invalidArgument
        s!"malformed string descriptor: {(DescriptorError.malformed 8 6).message}") := by
  intro plugged
  let steps : List Step := [.create ⟨0⟩, .device 0 .langids, .device 0 .reset]
  obtain ⟨a, ha⟩ : ∃ a, InUse (plugged [6, 3, 0x07, 0x04, 0x09, 0x04, 0xFF]) a :=
    exists_inUse [plugged [6, 3, 0x07, 0x04, 0x09, 0x04, 0xFF]] steps 0 (by decide +kernel)
  obtain ⟨e, he⟩ : ∃ a, InUse (plugged [8, 3, 0x07, 0x04, 0x09, 0x04]) a :=
    exists_inUse [plugged [8, 3, 0x07, 0x04, 0x09, 0x04]] steps 0 (by decide +kernel)
  obtain ⟨-, -, -, hread, -⟩ := langids_by_table ha rfl
  obtain ⟨-, -, -, hrefused, -⟩ := langids_by_table he rfl
  exact ⟨⟨a, ha, (hread (by decide) (by decide) (by decide)).2.2 rfl (by decide)⟩,
    e, he, (hrefused (by decide) (by decide) (by decide)).2.1 rfl (by decide)⟩

end SerialBus.Device
