import Mathlib.Data.List.DropRight
import SerialBus.Text.Blank

/-! A trimmed text is what stands between the blanks at either end. -/
namespace SerialBus.Text

/-- The second text is the first one without the blanks at either end. -/
structure Trimmed (cs text : List Char) : Prop where
  between : ∃ before after, cs = before ++ text ++ after ∧
    (∀ c ∈ before, isBlank c = true) ∧ ∀ c ∈ after, isBlank c = true
  head : ∀ c, text.head? = some c → isBlank c = false
  last : ∀ c, text.getLast? = some c → isBlank c = false

theorem dropBlanks_append {before text : List Char} (hbefore : ∀ c ∈ before, isBlank c = true)
    (hhead : ∀ c, text.head? = some c → isBlank c = false) :
    dropBlanks (before ++ text) = text := by
  rw [dropBlanks, List.dropWhile_append_of_pos hbefore]
  cases text with
  | nil => rfl
  | cons c text => exact List.dropWhile_cons_of_neg (by simp [hhead c rfl])

theorem head?_dropBlanks {cs : List Char} {c : Char} (h : (dropBlanks cs).head? = some c) :
    isBlank c = false := by
  have hnot := List.head?_dropWhile_not isBlank cs
  rw [dropBlanks] at h
  simpa [h] using hnot

/-- The text in front of the blanks at the end is the beginning of what was there. -/
theorem trim_isPrefix (cs : List Char) : trim cs <+: dropBlanks cs :=
  List.rdropWhile_prefix isBlank (dropBlanks cs)

theorem trimmed_trim (cs : List Char) : Trimmed cs (trim cs) where
  between := by
    refine ⟨cs.takeWhile isBlank, (dropBlanks cs).rtakeWhile isBlank, ?_,
      fun _ => List.mem_takeWhile_imp, fun _ => List.mem_rtakeWhile_imp⟩
    have hend : trim cs ++ (dropBlanks cs).rtakeWhile isBlank = dropBlanks cs :=
      List.rdropWhile_append_rtakeWhile
    rw [List.append_assoc, hend]
    exact List.takeWhile_append_dropWhile.symm
  head := fun c hc => by
    obtain ⟨rest, hrest⟩ := trim_isPrefix cs
    have hfirst : (dropBlanks cs).head? = some c := by
      rw [← hrest, List.head?_append, hc]
      rfl
    exact head?_dropBlanks hfirst
  last := fun c hc => by
    rw [trim, List.getLast?_reverse] at hc
    exact head?_dropBlanks hc

theorem Trimmed.trim_eq {cs text : List Char} (h : Trimmed cs text) : trim cs = text := by
  obtain ⟨before, after, rfl, hbefore, hafter⟩ := h.between
  cases text with
  | nil =>
    have hall : ∀ c ∈ before ++ [] ++ after, isBlank c = true := by
      intro c hc
      rw [List.append_nil, List.mem_append] at hc
      exact hc.elim (hbefore c) (hafter c)
    have hnone : dropBlanks (before ++ [] ++ after) = [] := List.dropWhile_eq_nil_iff.2 hall
    rw [trim, hnone]
    rfl
  | cons c text =>
    have hfront : dropBlanks (before ++ (c :: text) ++ after) = c :: text ++ after := by
      rw [List.append_assoc]
      exact dropBlanks_append hbefore h.head
    have hback : dropBlanks (c :: text ++ after).reverse = (c :: text).reverse := by
      rw [List.reverse_append]
      refine dropBlanks_append (fun d hd => hafter d (List.mem_reverse.1 hd)) fun d hd => ?_
      rw [List.head?_reverse] at hd
      exact h.last d hd
    rw [trim, hfront, hback, List.reverse_reverse]

theorem trimmed_iff {cs text : List Char} : Trimmed cs text ↔ trim cs = text :=
  ⟨Trimmed.trim_eq, fun h => h ▸ trimmed_trim cs⟩

end SerialBus.Text
