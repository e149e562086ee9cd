import Mathlib.Data.List.Forall2
import SerialBus.Proofs.Text.Blank
import SerialBus.Settings.File

/-! Which settings are valid, and for which of their faults others are refused. Of valid settings
each entry of the order is tried, once and in its place. -/
namespace SerialBus

/-! Names of backends. -/

/-- Texts that differ in the case of ASCII letters at most. -/
def Text.SameLetters (a b : List Char) : Prop := a.map Char.toLower = b.map Char.toLower

namespace BackendKind

/-- A kind goes by its own name and by that of its library. -/
def names : BackendKind → List String
  | libusb1 => ["libusb1", "libusb-1.0"]
  | openUsb => ["openusb"]
  | libusb0 => ["libusb0", "libusb-0.1"]

/-- Between its blanks, the text is one of the kind's names in either case of the letters. -/
def Names (s : String) (kind : BackendKind) : Prop :=
  ∃ text, Text.Trimmed s.toList text ∧ ∃ name ∈ kind.names, Text.SameLetters text name.toList

theorem ofName?_eq_some_iff {s : String} {kind : BackendKind} :
    ofName? s = some kind ↔ s ∈ kind.names := by
  constructor
  · intro h
    rw [ofName?] at h
    split_ifs at h with hs hs hs <;> cases h <;> simpa [names] using hs
  · intro h
    cases kind <;> simp only [names, List.mem_cons, List.not_mem_nil, or_false] at h
    · rcases h with rfl | rfl <;> decide +kernel
    · rw [h]
      decide +kernel
    · rcases h with rfl | rfl <;> decide +kernel

theorem toLower_names : ∀ kind : BackendKind, ∀ name ∈ kind.names,
    name.toList.map Char.toLower = name.toList := by
  intro kind
  cases kind <;> decide +kernel

theorem parse?_eq_some_iff {s : String} {kind : BackendKind} :
    parse? s = some kind ↔ Names s kind := by
  simp only [Names, Text.trimmed_iff, exists_eq_left']
  rw [parse?, ofName?_eq_some_iff, normalize]
  constructor
  · intro h
    refine ⟨_, h, ?_⟩
    rw [Text.SameLetters, toLower_names kind _ h, String.toList_ofList]
  · rintro ⟨name, hname, hsame⟩
    rw [Text.SameLetters, toLower_names kind name hname] at hsame
    rwa [hsame, String.ofList_toList]

end BackendKind

namespace Settings
open BackendKind (Names parse? parse?_eq_some_iff)

/-! What valid settings are, and the faults of others. -/

/-- The level is one of the five, in either case of its letters. -/
def HasLevel (s : Settings) : Prop :=
  ∃ level ∈ ["trace", "debug", "info", "warn", "error"],
    Text.SameLetters s.level.toList level.toList

/-- Every entry names a kind, and no two entries name the same one. -/
structure Sound (order : List String) : Prop where
  known : ∀ name ∈ order, ∃ kind, Names name kind
  distinct : order.Pairwise fun a b => ∀ kind, Names a kind → ¬ Names b kind

/-- What is wrong with an entry that comes behind others. -/
inductive EntryFault (before : List String) (name : String) : SettingsError → Prop
  | unknown (h : ∀ kind, ¬ Names name kind) : EntryFault before name (.unknownBackend name)
  | repeated {kind : BackendKind} {earlier : String} (hearlier : earlier ∈ before)
      (hkind : Names earlier kind) (h : Names name kind) :
      EntryFault before name (.repeatedBackend name)

/-- The first fault of settings: of the level, then of an order without entries, then of the first
entry that has one. -/
inductive Fault (s : Settings) : SettingsError → Prop
  | level (h : ¬ s.HasLevel) : Fault s (.invalidLevel s.level)
  | empty (hlevel : s.HasLevel) (h : s.order = []) : Fault s .emptyOrder
  | entry {before : List String} {name : String} {after : List String} {e : SettingsError}
      (hlevel : s.HasLevel) (hsplit : s.order = before ++ name :: after) (hbefore : Sound before)
      (h : EntryFault before name e) : Fault s e

theorem isLevel_iff {s : Settings} : isLevel s.level = true ↔ s.HasLevel := by
  have hlower : ∀ level ∈ logLevels, level.toList.map Char.toLower = level.toList := by
    decide +kernel
  rw [isLevel, List.any_eq_true]
  refine exists_congr fun level => and_congr_right fun hlevel => ?_
  rw [Text.SameLetters, hlower level hlevel, beq_iff_eq]

/-! The entries of the order. -/

theorem checkOrder_of_unknown {seen : List BackendKind} {name : String} {rest : List String}
    (h : parse? name = none) : checkOrder seen (name :: rest) = .error (.unknownBackend name) := by
  rw [checkOrder, h]

theorem checkOrder_of_repeated {seen : List BackendKind} {name : String} {rest : List String}
    {kind : BackendKind} (h : parse? name = some kind) (hkind : kind ∈ seen) :
    checkOrder seen (name :: rest) = .error (.repeatedBackend name) := by
  rw [checkOrder, h]
  exact if_pos hkind

theorem checkOrder_of_new {seen : List BackendKind} {name : String} {rest : List String}
    {kind : BackendKind} (h : parse? name = some kind) (hkind : kind ∉ seen) :
    checkOrder seen (name :: rest) = checkOrder (kind :: seen) rest := by
  rw [checkOrder, h]
  exact if_neg hkind

/-- Behind entries that passed, their kinds are the ones that were seen. -/
theorem checkOrder_append {seen : List BackendKind} {before rest : List String}
    (h : checkOrder seen before = .ok ()) :
    checkOrder seen (before ++ rest) =
      checkOrder ((before.filterMap parse?).reverse ++ seen) rest := by
  fun_induction checkOrder seen before with
  | case1 seen => rfl
  | case2 seen name before hname => cases h
  | case3 seen name before kind hname hkind => cases h
  | case4 seen name before kind hname hkind ih =>
    rw [List.cons_append, checkOrder_of_new hname hkind, ih h, List.filterMap_cons_some hname,
      List.reverse_cons, List.append_assoc]
    rfl

/-- Entries pass that name kinds which were not seen before, no kind twice. -/
theorem checkOrder_eq_ok_iff {seen : List BackendKind} {order : List String} :
    checkOrder seen order = .ok () ↔
      (∀ name ∈ order, ∃ kind, parse? name = some kind ∧ kind ∉ seen) ∧
      order.Pairwise fun a b => ∀ kind, parse? a = some kind → parse? b ≠ some kind := by
  fun_induction checkOrder seen order with
  | case1 seen => exact ⟨fun _ => ⟨nofun, .nil⟩, fun _ => rfl⟩
  | case2 seen name rest hname =>
    refine ⟨nofun, fun h => ?_⟩
    obtain ⟨kind, hkind, -⟩ := h.1 name List.mem_cons_self
    cases hname.symm.trans hkind
  | case3 seen name rest kind hname hkind =>
    refine ⟨nofun, fun h => ?_⟩
    obtain ⟨other, hother, hnew⟩ := h.1 name List.mem_cons_self
    cases hname.symm.trans hother
    exact absurd hkind hnew
  | case4 seen name rest kind hname hkind ih =>
    rw [ih, List.forall_mem_cons, List.pairwise_cons]
    constructor
    · rintro ⟨hrest, hdistinct⟩
      refine ⟨⟨⟨kind, hname, hkind⟩, fun other hother => ?_⟩, fun other hother => ?_, hdistinct⟩
      · obtain ⟨k, hk, hnew⟩ := hrest other hother
        exact ⟨k, hk, fun hmem => hnew (List.mem_cons_of_mem _ hmem)⟩
      · intro k hfirst hsame
        obtain ⟨l, hl, hnew⟩ := hrest other hother
        cases hname.symm.trans hfirst
        cases hl.symm.trans hsame
        exact hnew List.mem_cons_self
    · rintro ⟨⟨-, hrest⟩, hfirst, hdistinct⟩
      refine ⟨fun other hother => ?_, hdistinct⟩
      obtain ⟨k, hk, hnew⟩ := hrest other hother
      refine ⟨k, hk, fun hmem => ?_⟩
      rcases List.mem_cons.1 hmem with rfl | hmem
      · exact hfirst other hother k hname hk
      · exact hnew hmem

theorem checkOrder_nil_eq_ok_iff {order : List String} :
    checkOrder [] order = .ok () ↔ Sound order := by
  rw [checkOrder_eq_ok_iff]
  simp only [List.not_mem_nil, not_false_eq_true, and_true, parse?_eq_some_iff, ne_eq]
  exact ⟨fun h => ⟨h.1, h.2⟩, fun h => ⟨h.known, h.distinct⟩⟩

/-- Where entries do not pass, there is a first one that is refused. -/
theorem exists_refused {seen : List BackendKind} {order : List String} {e : SettingsError}
    (h : checkOrder seen order = .error e) : ∃ before name after, order = before ++ name :: after ∧
      checkOrder seen before = .ok () ∧
      checkOrder ((before.filterMap parse?).reverse ++ seen) [name] = .error e := by
  fun_induction checkOrder seen order with
  | case1 seen => cases h
  | case2 seen name rest hname =>
    exact ⟨[], name, rest, rfl, rfl, (checkOrder_of_unknown hname).trans h⟩
  | case3 seen name rest kind hname hkind =>
    exact ⟨[], name, rest, rfl, rfl, (checkOrder_of_repeated hname hkind).trans h⟩
  | case4 seen name rest kind hname hkind ih =>
    obtain ⟨before, other, after, rfl, hbefore, hother⟩ := ih h
    refine ⟨name :: before, other, after, rfl, (checkOrder_of_new hname hkind).trans hbefore, ?_⟩
    rwa [List.filterMap_cons_some hname, List.reverse_cons, List.append_assoc]

theorem mem_seen {before : List String} {kind : BackendKind} :
    kind ∈ (before.filterMap parse?).reverse ++ [] ↔ ∃ earlier ∈ before, Names earlier kind := by
  simp only [List.append_nil, List.mem_reverse, List.mem_filterMap, parse?_eq_some_iff]

theorem parse?_eq_none_iff {name : String} : parse? name = none ↔ ∀ kind, ¬ Names name kind := by
  simp only [← parse?_eq_some_iff, Option.eq_none_iff_forall_ne_some, ne_eq]

theorem EntryFault.refused {before : List String} {name : String} {e : SettingsError}
    (h : EntryFault before name e) (after : List String) :
    checkOrder ((before.filterMap parse?).reverse ++ []) (name :: after) = .error e := by
  cases h with
  | unknown h => exact checkOrder_of_unknown (parse?_eq_none_iff.2 h)
  | repeated hearlier hkind h =>
    exact checkOrder_of_repeated (parse?_eq_some_iff.2 h) (mem_seen.2 ⟨_, hearlier, hkind⟩)

theorem entryFault_of_refused {before : List String} {name : String} {e : SettingsError}
    (h : checkOrder ((before.filterMap parse?).reverse ++ []) [name] = .error e) :
    EntryFault before name e := by
  cases hname : parse? name with
  | none =>
    rw [checkOrder_of_unknown hname] at h
    cases h
    exact .unknown (parse?_eq_none_iff.1 hname)
  | some kind =>
    by_cases hkind : kind ∈ (before.filterMap parse?).reverse ++ []
    · rw [checkOrder_of_repeated hname hkind] at h
      cases h
      obtain ⟨earlier, hearlier, hnames⟩ := mem_seen.1 hkind
      exact .repeated hearlier hnames (parse?_eq_some_iff.1 hname)
    · rw [checkOrder_of_new hname hkind] at h
      cases h

theorem checkOrder_nil_eq_error_iff {order : List String} {e : SettingsError} :
    checkOrder [] order = .error e ↔ ∃ before name after, order = before ++ name :: after ∧
      Sound before ∧ EntryFault before name e := by
  constructor
  · intro h
    obtain ⟨before, name, after, hsplit, hbefore, hname⟩ := exists_refused h
    exact ⟨before, name, after, hsplit, checkOrder_nil_eq_ok_iff.1 hbefore,
      entryFault_of_refused hname⟩
  · rintro ⟨before, name, after, rfl, hbefore, hname⟩
    rw [checkOrder_append (checkOrder_nil_eq_ok_iff.2 hbefore)]
    exact hname.refused after

/-! The whole of the settings. -/

theorem validate_of_noLevel {s : Settings} (h : ¬ s.HasLevel) :
    s.validate = .error (.invalidLevel s.level) := by
  rw [← isLevel_iff, Bool.not_eq_true] at h
  rw [validate, h]
  rfl

theorem validate_of_empty {s : Settings} (hlevel : s.HasLevel) (h : s.order = []) :
    s.validate = .error .emptyOrder := by
  rw [validate, isLevel_iff.2 hlevel, h]
  rfl

theorem validate_of_order {s : Settings} (hlevel : s.HasLevel) (h : s.order ≠ []) :
    s.validate = checkOrder [] s.order := by
  rw [validate, isLevel_iff.2 hlevel, List.isEmpty_eq_false_iff.2 h]
  rfl

theorem validate_eq_ok_iff {s : Settings} :
    s.validate = .ok () ↔ s.HasLevel ∧ s.order ≠ [] ∧ Sound s.order := by
  by_cases hlevel : s.HasLevel
  · by_cases horder : s.order = []
    · rw [validate_of_empty hlevel horder]
      exact ⟨nofun, fun h => absurd horder h.2.1⟩
    · rw [validate_of_order hlevel horder, checkOrder_nil_eq_ok_iff]
      exact ⟨fun h => ⟨hlevel, horder, h⟩, fun h => h.2.2⟩
  · rw [validate_of_noLevel hlevel]
    exact ⟨nofun, fun h => absurd h.1 hlevel⟩

theorem validate_of_fault {s : Settings} {e : SettingsError} (h : Fault s e) :
    s.validate = .error e := by
  cases h with
  | level h => exact validate_of_noLevel h
  | empty hlevel h => exact validate_of_empty hlevel h
  | entry hlevel hsplit hbefore h =>
    have horder : s.order ≠ [] := by
      rw [hsplit]
      exact List.append_ne_nil_of_right_ne_nil _ (List.cons_ne_nil _ _)
    rw [validate_of_order hlevel horder, checkOrder_nil_eq_error_iff]
    exact ⟨_, _, _, hsplit, hbefore, h⟩

theorem fault_of_validate {s : Settings} {e : SettingsError} (h : s.validate = .error e) :
    Fault s e := by
  by_cases hlevel : s.HasLevel
  · by_cases horder : s.order = []
    · cases (validate_of_empty hlevel horder).symm.trans h
      exact .empty hlevel horder
    · rw [validate_of_order hlevel horder, checkOrder_nil_eq_error_iff] at h
      obtain ⟨before, name, after, hsplit, hbefore, hname⟩ := h
      exact .entry hlevel hsplit hbefore hname
  · cases (validate_of_noLevel hlevel).symm.trans h
    exact .level hlevel

/-! Settings of files, whatever takes them from their texts. -/

section

variable {read : String → Option Settings} {s : Settings}

theorem validate_of_load {file : SettingsFile} (h : load file read = .ok s) :
    s.validate = .ok () := by
  rw [load] at h
  split at h
  next => cases h
  next content =>
    split at h
    next => cases h
    next hread =>
      split at h
      next hvalid =>
        cases h
        exact hvalid
      next => cases h

theorem validate_of_loadFirst {files : List SettingsFile} (h : loadFirst files read = .ok s) :
    s.validate = .ok () := by
  fun_induction loadFirst files read with
  | case1 => cases h
  | case2 file files hmissing ih => exact ih h
  | case3 file files hmissing => exact validate_of_load h

end

/-! The backends that are tried. -/

theorem kinds_of_names {s : Settings} {name : String} {kind : BackendKind} (h : Names name kind) :
    s.kinds (some name) = [kind] := by
  rw [kinds, Option.bind_some, parse?_eq_some_iff.2 h]

/-- A replacement that names no kind changes nothing. -/
theorem kinds_of_no_names {s : Settings} {replacement : Option String}
    (h : ∀ name ∈ replacement, ∀ kind, ¬ Names name kind) :
    s.kinds replacement = s.order.filterMap parse? := by
  have hnone : replacement.bind parse? = none :=
    Option.bind_eq_none_iff.2 fun name hname => parse?_eq_none_iff.2 (h name hname)
  rw [kinds, hnone]

theorem Sound.kinds {order : List String} (h : Sound order) :
    List.Forall₂ Names order (order.filterMap parse?) ∧ (order.filterMap parse?).Nodup := by
  constructor
  · have hknown := h.known
    clear h
    induction order with
    | nil => exact .nil
    | cons name rest ih =>
      obtain ⟨⟨kind, hkind⟩, hrest⟩ := List.forall_mem_cons.1 hknown
      rw [List.filterMap_cons_some (parse?_eq_some_iff.2 hkind)]
      exact .cons hkind (ih hrest)
  · refine h.distinct.filterMap parse? fun a b hab kind hkind other hother hsame => ?_
    rw [parse?_eq_some_iff] at hkind hother
    exact hab kind hkind (hsame ▸ hother)

/-- Settings are valid exactly if the level is one of the five, the order is not empty, and its
entries name kinds, each a different one; other settings are refused for their first fault. What is
loaded is valid, whatever takes it from the text of a file. Of valid settings every entry is tried in
its place and none twice, unless a replacement that names a kind takes the place of any order at
all. -/
theorem valid_order_is_tried :
    (∀ s : Settings, s.validate = .ok () ↔ s.HasLevel ∧ s.order ≠ [] ∧ Sound s.order) ∧
    (∀ (s : Settings) e, s.validate = .error e ↔ Fault s e) ∧
    (∀ file read s, load file read = .ok s → s.validate = .ok ()) ∧
    (∀ files read s, loadFirst files read = .ok s → s.validate = .ok ()) ∧
    (∀ (s : Settings) (replacement : Option String), s.validate = .ok () →
      (∀ name ∈ replacement, ∀ kind, ¬ Names name kind) →
      (s.kinds replacement).length = s.order.length ∧
        List.Forall₂ Names s.order (s.kinds replacement) ∧ (s.kinds replacement).Nodup) ∧
    (∀ (s : Settings) name kind, Names name kind → s.kinds (some name) = [kind]) ∧
    ∀ (s : Settings) name, (∀ kind, ¬ Names name kind) → s.kinds (some name) = s.kinds none := by
  refine ⟨fun _ => validate_eq_ok_iff, fun _ _ => ⟨fault_of_validate, validate_of_fault⟩,
    fun _ _ _ => validate_of_load, fun _ _ _ => validate_of_loadFirst,
    fun s replacement hvalid hnone => ?_, fun _ _ _ => kinds_of_names, fun s name hnone => ?_⟩
  · obtain ⟨hkinds, hdistinct⟩ := (validate_eq_ok_iff.1 hvalid).2.2.kinds
    rw [kinds_of_no_names hnone]
    exact ⟨hkinds.length_eq.symm, hkinds, hdistinct⟩
  · have hnamed : ∀ other ∈ some name, ∀ kind, ¬ Names other kind := by
      rintro _ ⟨⟩
      exact hnone
    exact kinds_of_no_names hnamed

/-- Two kinds in unusual spellings, with a replacement that names a kind and one that does not. -/
theorem valid_order_is_tried_aliases :
    let s : Settings := { level := "DEBUG", order := [" LibUSB-0.1\t", "openusb"], timeout := 5 }
    s.validate = .ok () ∧ (∀ kind, ¬ Names "winusb" kind) ∧ Names "Libusb0 " .libusb0 ∧
    (s.kinds (some "winusb")).length = 2 ∧ (s.kinds (some "winusb")).Nodup ∧
    s.kinds (some "winusb") = s.kinds none ∧ s.kinds (some "Libusb0 ") = [.libusb0] ∧
    load ⟨"host.toml", .ok "[logging]\nlevel = \"WARN\""⟩ = .ok { level := "WARN" } ∧
    ({ level := "WARN" } : Settings).validate = .ok () := by
  intro s
  obtain ⟨-, -, hload, -, htried, hreplaced, hkept⟩ := valid_order_is_tried
  have hvalid : s.validate = .ok () := by decide +kernel
  have hunknown : ∀ kind, ¬ Names "winusb" kind := parse?_eq_none_iff.1 (by decide +kernel)
  have hknown : Names "Libusb0 " .libusb0 := parse?_eq_some_iff.1 (by decide +kernel)
  have hfile : load ⟨"host.toml", .ok "[logging]\nlevel = \"WARN\""⟩ = .ok { level := "WARN" } := by
    decide +kernel
  have hnamed : ∀ name ∈ some "winusb", ∀ kind, ¬ Names name kind := by
    rintro _ ⟨⟩
    exact hunknown
  obtain ⟨hlength, -, hdistinct⟩ := htried s (some "winusb") hvalid hnamed
  exact ⟨hvalid, hunknown, hknown, hlength, hdistinct, hkept s _ hunknown,
    hreplaced s _ _ hknown, hfile, hload _ _ _ hfile⟩

end Settings

end SerialBus
