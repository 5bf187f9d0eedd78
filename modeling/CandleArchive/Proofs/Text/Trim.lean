import CandleArchive.Text.Blank
import Mathlib.Data.List.DropRight

/-!
# Trimming — blanks around a text

Whatever a user or a provider writes is trimmed before it is read, so blanks around it do not matter.

* `Blank`, `Padded`: a text of blanks, and a text with blanks around it;
* `Trimmed`: a text without a blank at either end;
* **`trim_eq_iff`**: trimming gives the one such text inside the blanks;
* `trim_of_padded`, `trim_eq_empty`: padded texts and blank ones.
-/

namespace CandleArchive.Text

/-- The text consists of blanks. -/
def Blank (s : String) : Prop := ∀ c ∈ s.toList, isBlank c = true

instance (s : String) : Decidable (Blank s) :=
  List.decidableBAll (fun c => isBlank c = true) s.toList

/-- The text `t` is `s` with blanks around it. -/
def Padded (s t : String) : Prop :=
  ∃ left right, Blank left ∧ Blank right ∧ t = left ++ s ++ right

/-- Neither end of the text is blank. -/
structure Trimmed (s : String) : Prop where
  first : ∀ c ∈ s.toList.head?, isBlank c = false
  last : ∀ c ∈ s.toList.getLast?, isBlank c = false

variable {s t u : String}

theorem Padded.refl (s : String) : Padded s s :=
  ⟨"", "", by simp [Blank], by simp [Blank], by simp⟩

theorem Padded.trans (h : Padded s t) (h' : Padded t u) : Padded s u := by
  obtain ⟨l, r, hl, hr, rfl⟩ := h
  obtain ⟨l', r', hl', hr', rfl⟩ := h'
  refine ⟨l' ++ l, r ++ r', ?_, ?_, by simp [String.append_assoc]⟩
  · intro c hc
    rcases List.mem_append.mp (String.toList_append ▸ hc) with hc | hc
    · exact hl' c hc
    · exact hl c hc
  · intro c hc
    rcases List.mem_append.mp (String.toList_append ▸ hc) with hc | hc
    · exact hr c hc
    · exact hr' c hc

theorem trimChars_eq (cs : List Char) :
    trimChars cs = (cs.dropWhile isBlank).rdropWhile isBlank := rfl

theorem toList_trim (s : String) : (trim s).toList = trimChars s.toList :=
  String.toList_ofList

theorem padded_trim (s : String) : Padded (trim s) s := by
  refine ⟨.ofList (s.toList.takeWhile isBlank),
    .ofList ((s.toList.dropWhile isBlank).rtakeWhile isBlank), ?_, ?_, ?_⟩
  · intro c hc
    exact List.mem_takeWhile_imp (String.toList_ofList ▸ hc)
  · intro c hc
    exact List.mem_rtakeWhile_imp (String.toList_ofList ▸ hc)
  · apply String.toList_injective
    rw [String.toList_append, String.toList_append, toList_trim, trimChars_eq, String.toList_ofList,
      String.toList_ofList, List.append_assoc, List.rdropWhile_append_rtakeWhile,
      List.takeWhile_append_dropWhile]

theorem trimmed_trim (s : String) : Trimmed (trim s) where
  first c hc := by
    rw [toList_trim, trimChars_eq] at hc
    -- the first character is still there after the blanks at the end are gone
    obtain ⟨tail, htail⟩ := List.rdropWhile_prefix isBlank (s.toList.dropWhile isBlank)
    have hhead : c ∈ (s.toList.dropWhile isBlank).head? := by
      rw [← htail, List.head?_append, Option.mem_def.mp hc]
      rfl
    have hnot := List.head?_dropWhile_not isBlank s.toList
    rw [Option.mem_def.mp hhead] at hnot
    exact hnot
  last c hc := by
    rw [toList_trim, trimChars_eq] at hc
    obtain ⟨hne, rfl⟩ := List.mem_getLast?_eq_getLast hc
    simpa using List.rdropWhile_last_not isBlank _ hne

theorem trim_eq_of_padded (h : Padded t s) (ht : Trimmed t) : trim s = t := by
  obtain ⟨left, right, hl, hr, rfl⟩ := h
  apply String.toList_injective
  rw [toList_trim, trimChars_eq, String.toList_append, String.toList_append, List.append_assoc,
    List.dropWhile_append_of_pos hl]
  cases hcs : t.toList with
  | nil =>
    have hnil : right.toList.dropWhile isBlank = [] := List.dropWhile_eq_nil_iff.mpr hr
    rw [List.nil_append, hnil, List.rdropWhile_nil]
  | cons c cs =>
    have hc : ¬ isBlank c = true := by simp [ht.first c (by rw [hcs]; rfl)]
    rw [List.cons_append, List.dropWhile_cons_of_neg hc, ← List.cons_append, List.rdropWhile,
      List.reverse_append, List.dropWhile_append_of_pos fun x hx => hr x (List.mem_reverse.mp hx)]
    refine (List.rdropWhile_eq_self_iff).mpr fun hne => ?_
    have hlast := ht.last ((c :: cs).getLast hne) (by rw [hcs, List.getLast?_eq_some_getLast hne]; rfl)
    simp [hlast]

/-- **Trimming** gives the text without blanks at its ends that stands between blanks. -/
theorem trim_eq_iff : trim s = t ↔ Padded t s ∧ Trimmed t := by
  constructor
  · rintro rfl
    exact ⟨padded_trim s, trimmed_trim s⟩
  · rintro ⟨h, ht⟩
    exact trim_eq_of_padded h ht

theorem trim_of_padded (h : Padded s t) : trim t = trim s :=
  trim_eq_of_padded ((padded_trim s).trans h) (trimmed_trim s)

theorem trim_trim (s : String) : trim (trim s) = trim s :=
  (trim_of_padded (padded_trim s)).symm

theorem trim_eq_empty : trim s = "" ↔ Blank s := by
  rw [trim_eq_iff]
  constructor
  · rintro ⟨⟨left, right, hl, hr, rfl⟩, -⟩ c hc
    rw [String.append_empty] at hc
    rcases List.mem_append.mp (String.toList_append ▸ hc) with hc | hc
    · exact hl c hc
    · exact hr c hc
  · intro h
    exact ⟨⟨s, "", h, by simp [Blank], by simp⟩, by simp, by simp⟩

end CandleArchive.Text
