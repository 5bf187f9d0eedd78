import CandleArchive.Proofs.Text.Trim
import CandleArchive.Text.Upper

/-!
# Case — letters in either case

Texts that differ only in the case of the letters from `A` to `Z` have one upper-case form, and blanks
are not letters.

* `isUpper_iff`, `exists_of_isUpper`, `toLower_of_not_isUpper`: the letters that have a lower case here;
* **`upper_toLower`**, **`trim_toLower`**: texts in lower case.
-/

namespace CandleArchive.Text

theorem isUpper_iff {c : Char} : c.isUpper = true ↔ 'A'.val ≤ c.val ∧ c.val ≤ 'Z'.val :=
  decide_eq_true_iff

theorem exists_of_isUpper {c : Char} (h : c.isUpper = true) :
    ∃ n ∈ List.range 26, c = Char.ofNat (65 + n) := by
  obtain ⟨hlo, hhi⟩ := isUpper_iff.mp h
  have hlow : 65 ≤ c.toNat := UInt32.le_iff_toNat_le.mp hlo
  have hhigh : c.toNat ≤ 90 := UInt32.le_iff_toNat_le.mp hhi
  refine ⟨c.toNat - 65, List.mem_range.mpr (by omega), ?_⟩
  rw [Nat.add_sub_cancel' hlow, Char.ofNat_toNat]

theorem toLower_of_not_isUpper {c : Char} (h : ¬ c.isUpper = true) : c.toLower = c :=
  dif_neg fun hrange => h (isUpper_iff.mpr hrange)

theorem toList_toLower (s : String) : s.toLower.toList = s.toList.map Char.toLower :=
  String.toList_map

theorem upperChar_toLower_of_range :
    ∀ n ∈ List.range 26, upperChar (Char.ofNat (65 + n)).toLower = upperChar (Char.ofNat (65 + n)) ∧
      isBlank (Char.ofNat (65 + n)).toLower = isBlank (Char.ofNat (65 + n)) := by
  decide +kernel

theorem upperChar_toLower (c : Char) : upperChar c.toLower = upperChar c := by
  by_cases h : c.isUpper = true
  · obtain ⟨n, hn, rfl⟩ := exists_of_isUpper h
    exact (upperChar_toLower_of_range n hn).1
  · rw [toLower_of_not_isUpper h]

theorem isBlank_toLower (c : Char) : isBlank c.toLower = isBlank c := by
  by_cases h : c.isUpper = true
  · obtain ⟨n, hn, rfl⟩ := exists_of_isUpper h
    exact (upperChar_toLower_of_range n hn).2
  · rw [toLower_of_not_isUpper h]

theorem upper_toLower (s : String) : upper s.toLower = upper s := by
  have hchar : (fun c => upperChar (Char.toLower c)) = upperChar := funext upperChar_toLower
  rw [upper, toList_toLower, List.flatMap_map, hchar, upper]

theorem trim_toLower (s : String) : trim s.toLower = (trim s).toLower := by
  have hblank : isBlank ∘ Char.toLower = isBlank := funext isBlank_toLower
  apply String.toList_injective
  rw [toList_trim, toList_toLower, toList_toLower, toList_trim, trimChars, trimChars,
    List.dropWhile_map, hblank, ← List.map_reverse, List.dropWhile_map, hblank, List.map_reverse]

end CandleArchive.Text
