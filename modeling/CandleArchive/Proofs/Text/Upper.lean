import CandleArchive.Proofs.Text.Trim
import CandleArchive.Text.Upper

/-!
# Upper case — a form that stays

No letter with another upper-case form is itself the form of a letter, and neither such letters nor
their forms are blank. So it does not matter how often a text is put into upper case, nor whether
its blanks are trimmed before or after.

* `UpperRun.avoids`, `not_covers_of_avoids`: runs of letters of which one is no form of the other;
* `upperCode_cases`, **`upperCode_of_mem`**, `isBlankCode_of_mem`: one code point;
* `upperChar_of_mem`, `isBlank_of_mem_upperChar`: one character;
* **`upper_upper`**, **`trim_upper`**, `upper_trim_upper`: texts.
-/

namespace CandleArchive.Text

/-! ## Runs of letters -/

/-- The greatest upper-case form of a run. -/
def UpperRun.lastTarget (run : UpperRun) : ℕ := run.target + (run.last - run.first)

/-- No form of the run is a letter of the other one: they lie apart, or they alternate. -/
def UpperRun.avoids (run other : UpperRun) : Bool :=
  Nat.blt run.lastTarget other.first || Nat.blt other.last run.target ||
    (Nat.beq run.first run.last || Nat.beq (run.step % other.step) 0) &&
      !Nat.beq (run.target % other.step) (other.first % other.step)

section Runs

variable {run other : UpperRun} {n : ℕ}

theorem UpperRun.covers_iff :
    run.covers n = true ↔ run.first ≤ n ∧ n ≤ run.last ∧ run.step ∣ n - run.first := by
  simp [UpperRun.covers, Nat.dvd_iff_mod_eq_zero, and_assoc]

theorem add_mod_of_dvd {m d k : ℕ} (h : d ∣ k) : (m + k) % d = m % d := by
  obtain ⟨q, rfl⟩ := h
  exact Nat.add_mul_mod_self_left m d q

theorem UpperRun.mod_of_covers (h : run.covers n = true) :
    n % run.step = run.first % run.step := by
  obtain ⟨hfirst, -, hstep⟩ := covers_iff.mp h
  have hn : run.first + (n - run.first) = n := Nat.add_sub_cancel' hfirst
  rw [← hn, add_mod_of_dvd hstep]

/-- **The form of a letter** is no letter of a run that is avoided. -/
theorem UpperRun.not_covers_of_avoids (h : run.avoids other = true) (hn : run.covers n = true) :
    ¬ other.covers (run.target + (n - run.first)) = true := by
  intro hform
  obtain ⟨hfirst, hlast, hstep⟩ := covers_iff.mp hn
  obtain ⟨hlow, hhigh, -⟩ := covers_iff.mp hform
  simp only [avoids, lastTarget, Bool.or_eq_true, Bool.and_eq_true, Nat.blt_eq, Nat.beq_eq,
    Bool.not_eq_true', ← Bool.not_eq_true] at h
  rcases h with (h | h) | ⟨halike, hapart⟩
  · omega
  · omega
  · have hdvd : other.step ∣ n - run.first := by
      rcases halike with hone | hmod
      · rw [show n - run.first = 0 by omega]
        exact Nat.dvd_zero _
      · exact Nat.dvd_trans (Nat.dvd_of_mod_eq_zero hmod) hstep
    exact hapart ((add_mod_of_dvd hdvd).symm.trans (mod_of_covers hform))

end Runs

/-! ## The tables -/

/-- The code point is that of a blank. -/
def isBlankCode (n : ℕ) : Bool :=
  blankRanges.any fun (first, last) => first ≤ n && n ≤ last

theorem isBlank_eq (c : Char) : isBlank c = isBlankCode c.toNat := rfl

section Tables

variable {run other : UpperRun} {e : ℕ × List ℕ}

-- whole runs are compared: a look-up for each letter of a run takes too long to check
theorem avoids_of_mem (hrun : run ∈ upperRuns) (hother : other ∈ upperRuns) :
    run.avoids other = true := by
  have h : (upperRuns.all fun run => upperRuns.all fun other => run.avoids other) = true := by
    decide +kernel
  exact List.all_eq_true.mp (List.all_eq_true.mp h run hrun) other hother

theorem apart_of_mem (hrun : run ∈ upperRuns) (he : e ∈ upperExpansions) :
    run.lastTarget < e.1 ∨ e.1 < run.target := by
  have h : (upperRuns.all fun run => upperExpansions.all fun e =>
      Nat.blt run.lastTarget e.1 || Nat.blt e.1 run.target) = true := by
    decide +kernel
  simpa using List.all_eq_true.mp (List.all_eq_true.mp h run hrun) e he

theorem upperRuns_valid :
    ∀ run ∈ upperRuns,
      run.lastTarget < 0xD800 ∨ 0xDFFF < run.target ∧ run.lastTarget < 0x110000 := by
  decide +kernel

theorem upperRuns_not_blank :
    ∀ run ∈ upperRuns, ∀ range ∈ blankRanges,
      (run.last < range.1 ∨ range.2 < run.first) ∧
        (run.lastTarget < range.1 ∨ range.2 < run.target) := by
  decide +kernel

theorem upperExpansions_settled :
    ∀ e ∈ upperExpansions, e.2 ≠ [] ∧ isBlankCode e.1 = false ∧
      ∀ m ∈ e.2, m.isValidChar ∧ isBlankCode m = false ∧ upperCode m = [m] := by
  decide +kernel

end Tables

/-! ## Code points -/

section Codes

variable {run : UpperRun} {m n : ℕ}

/-- **A code point** is a letter that becomes several, one of a run, or none with another form. -/
theorem upperCode_cases (n : ℕ) :
    (∃ e ∈ upperExpansions, e.1 = n ∧ upperCode n = e.2) ∨
      (∃ run ∈ upperRuns, run.covers n = true ∧ upperCode n = [run.target + (n - run.first)]) ∨
      upperCode n = [n] := by
  rw [upperCode]
  cases he : upperExpansions.find? (·.1 == n) with
  | some e => exact .inl ⟨e, List.mem_of_find?_eq_some he, by simpa using List.find?_some he, rfl⟩
  | none =>
    cases hr : upperRuns.find? (·.covers n) with
    | some run =>
      exact .inr (.inl ⟨run, List.mem_of_find?_eq_some hr, by simpa using List.find?_some hr, rfl⟩)
    | none => exact .inr (.inr rfl)

theorem upperCode_target (hrun : run ∈ upperRuns) (hn : run.covers n = true) :
    upperCode (run.target + (n - run.first)) = [run.target + (n - run.first)] := by
  obtain ⟨hfirst, hlast, -⟩ := UpperRun.covers_iff.mp hn
  rcases upperCode_cases (run.target + (n - run.first)) with ⟨e, he, hform, -⟩ | hother | hself
  · have hapart := apart_of_mem hrun he
    rw [UpperRun.lastTarget] at hapart
    omega
  · obtain ⟨other, hother, hcovers, -⟩ := hother
    exact absurd hcovers (UpperRun.not_covers_of_avoids (avoids_of_mem hrun hother) hn)
  · exact hself

/-- **An upper-case form** is its own upper-case form. -/
theorem upperCode_of_mem (h : m ∈ upperCode n) : upperCode m = [m] := by
  rcases upperCode_cases n with ⟨e, he, -, hform⟩ | ⟨run, hrun, hn, hform⟩ | hself
  · exact ((upperExpansions_settled e he).2.2 m (hform ▸ h)).2.2
  · obtain rfl := List.mem_singleton.mp (hform ▸ h)
    exact upperCode_target hrun hn
  · obtain rfl := List.mem_singleton.mp (hself ▸ h)
    exact hself

theorem isValidChar_of_mem (hn : n.isValidChar) (h : m ∈ upperCode n) : m.isValidChar := by
  rcases upperCode_cases n with ⟨e, he, -, hform⟩ | ⟨run, hrun, hcovers, hform⟩ | hself
  · exact ((upperExpansions_settled e he).2.2 m (hform ▸ h)).1
  · obtain rfl := List.mem_singleton.mp (hform ▸ h)
    obtain ⟨hfirst, hlast, -⟩ := UpperRun.covers_iff.mp hcovers
    have hvalid := upperRuns_valid run hrun
    rw [UpperRun.lastTarget] at hvalid
    rw [Nat.isValidChar]
    omega
  · obtain rfl := List.mem_singleton.mp (hself ▸ h)
    exact hn

theorem isBlankCode_of_run (hrun : run ∈ upperRuns) (hn : run.covers n = true) :
    isBlankCode n = false ∧ isBlankCode (run.target + (n - run.first)) = false := by
  obtain ⟨hfirst, hlast, -⟩ := UpperRun.covers_iff.mp hn
  have hmiss : ∀ range ∈ blankRanges, ¬ (range.1 ≤ n ∧ n ≤ range.2) ∧
      ¬ (range.1 ≤ run.target + (n - run.first) ∧ run.target + (n - run.first) ≤ range.2) := by
    intro range hrange
    have h := upperRuns_not_blank run hrun range hrange
    rw [UpperRun.lastTarget] at h
    omega
  constructor
  · exact List.any_eq_false.mpr fun range hrange => by simpa using (hmiss range hrange).1
  · exact List.any_eq_false.mpr fun range hrange => by simpa using (hmiss range hrange).2

/-- The upper-case form of a blank is blank, and that of anything else is not. -/
theorem isBlankCode_of_mem (h : m ∈ upperCode n) : isBlankCode m = isBlankCode n := by
  rcases upperCode_cases n with ⟨e, he, rfl, hform⟩ | ⟨run, hrun, hn, hform⟩ | hself
  · obtain ⟨-, hletter, hforms⟩ := upperExpansions_settled e he
    rw [hletter, (hforms m (hform ▸ h)).2.1]
  · obtain rfl := List.mem_singleton.mp (hform ▸ h)
    obtain ⟨hletter, hblank⟩ := isBlankCode_of_run hrun hn
    rw [hletter, hblank]
  · obtain rfl := List.mem_singleton.mp (hself ▸ h)
    rfl

theorem upperCode_of_isBlankCode (h : isBlankCode n = true) : upperCode n = [n] := by
  rcases upperCode_cases n with ⟨e, he, rfl, -⟩ | ⟨run, hrun, hn, -⟩ | hself
  · exact absurd h (by simp [(upperExpansions_settled e he).2.1])
  · exact absurd h (by simp [(isBlankCode_of_run hrun hn).1])
  · exact hself

theorem upperCode_ne_nil (n : ℕ) : upperCode n ≠ [] := by
  rcases upperCode_cases n with ⟨e, he, -, hform⟩ | ⟨run, -, -, hform⟩ | hself
  · exact hform ▸ (upperExpansions_settled e he).1
  · simp [hform]
  · simp [hself]

end Codes

/-! ## Characters -/

section Characters

variable {c d : Char}

theorem toNat_mem_upperCode (h : d ∈ upperChar c) : d.toNat ∈ upperCode c.toNat := by
  obtain ⟨m, hm, rfl⟩ := List.mem_map.mp h
  have hvalid : m.isValidChar := isValidChar_of_mem c.valid hm
  have hm' : (Char.ofNat m).toNat = m := by
    rw [Char.ofNat, dif_pos hvalid]
    rfl
  rwa [hm']

theorem upperChar_of_mem (h : d ∈ upperChar c) : upperChar d = [d] := by
  rw [upperChar, upperCode_of_mem (toNat_mem_upperCode h), List.map_singleton, Char.ofNat_toNat]

theorem isBlank_of_mem_upperChar (h : d ∈ upperChar c) : isBlank d = isBlank c := by
  rw [isBlank_eq, isBlank_eq, isBlankCode_of_mem (toNat_mem_upperCode h)]

theorem upperChar_of_isBlank (h : isBlank c = true) : upperChar c = [c] := by
  rw [isBlank_eq] at h
  rw [upperChar, upperCode_of_isBlankCode h, List.map_singleton, Char.ofNat_toNat]

theorem upperChar_ne_nil (c : Char) : upperChar c ≠ [] := fun h =>
  upperCode_ne_nil c.toNat (List.map_eq_nil_iff.mp h)

theorem flatMap_upperChar_eq_self {cs : List Char} (h : ∀ c ∈ cs, upperChar c = [c]) :
    cs.flatMap upperChar = cs := by
  rw [List.flatMap_congr h, List.flatMap_singleton']

end Characters

/-! ## Texts -/

section Texts

variable {s t : String}

theorem toList_upper (s : String) : (upper s).toList = s.toList.flatMap upperChar :=
  String.toList_ofList

theorem upper_append (s t : String) : upper (s ++ t) = upper s ++ upper t := by
  apply String.toList_injective
  rw [toList_upper, String.toList_append, String.toList_append, List.flatMap_append, toList_upper,
    toList_upper]

/-- **A text in upper case** is its own upper-case form. -/
theorem upper_upper (s : String) : upper (upper s) = upper s := by
  apply String.toList_injective
  rw [toList_upper (upper s)]
  refine flatMap_upperChar_eq_self fun d hd => ?_
  obtain ⟨c, -, hc⟩ := List.mem_flatMap.mp (toList_upper s ▸ hd)
  exact upperChar_of_mem hc

theorem upper_of_blank (h : Blank s) : upper s = s := by
  apply String.toList_injective
  rw [toList_upper]
  exact flatMap_upperChar_eq_self fun c hc => upperChar_of_isBlank (h c hc)

theorem Padded.upper (h : Padded s t) : Padded (upper s) (upper t) := by
  obtain ⟨left, right, hleft, hright, rfl⟩ := h
  exact ⟨left, right, hleft, hright, by
    rw [upper_append, upper_append, upper_of_blank hleft, upper_of_blank hright]⟩

theorem Trimmed.upper (h : Trimmed s) : Trimmed (upper s) where
  first d hd := by
    rw [toList_upper] at hd
    cases hs : s.toList with
    | nil => simp [hs] at hd
    | cons c cs =>
      rw [hs, List.flatMap_cons, List.head?_append_of_ne_nil _ (upperChar_ne_nil c)] at hd
      rw [isBlank_of_mem_upperChar (List.mem_of_mem_head? hd)]
      exact h.first c (by rw [hs]; rfl)
  last d hd := by
    rw [toList_upper] at hd
    rcases List.eq_nil_or_concat s.toList with hs | ⟨cs, c, hs⟩
    · simp [hs] at hd
    · rw [hs, List.concat_eq_append, List.flatMap_append, List.flatMap_singleton,
        List.getLast?_append_of_ne_nil _ (upperChar_ne_nil c)] at hd
      rw [isBlank_of_mem_upperChar (List.mem_of_mem_getLast? hd)]
      exact h.last c (by rw [hs, List.concat_eq_append, List.getLast?_concat]; rfl)

theorem trim_upper (s : String) : trim (upper s) = upper (trim s) :=
  trim_eq_iff.mpr ⟨(padded_trim s).upper, (trimmed_trim s).upper⟩

theorem upper_trim_upper (s : String) : upper (trim (upper s)) = upper (trim s) := by
  rw [trim_upper, upper_upper]

end Texts

end CandleArchive.Text
