import CandleArchive.Config
import CandleArchive.Proofs.Store.Rows
import CandleArchive.Proofs.Text.Trim
import Mathlib.Data.List.Nodup

/-!
# Timeframes — the lists that a text denotes

A list of timeframes is written with commas. Blanks around a name, blank parts and repeated names do
not matter; the first part that is no name does.

* `IsSplit`, `namedParts`: the pieces between commas, and the texts that they name;
* **`Timeframe.ofText?_eq_ok`**, `Timeframe.ofText?_eq_error`: one name;
* `FirstListed`: the values in the order in which their names occur first;
* `timeframes?_cases`, **`timeframes?_eq_ok`**, **`timeframes?_eq_error`**: what a text denotes, and
  what it is refused for;
* `Spelled`, **`timeframes?_of_spelled`**: the ways to write a list down;
* **`timeframes_parse_as_listed`**: all of it.
-/

namespace CandleArchive

/-! ## One name -/

namespace Timeframe

variable {s : String} {t : Timeframe}

/-- The names of the six intervals. -/
def names : List String := ["1m", "5m", "15m", "1h", "4h", "1d"]

theorem name_injective : Function.Injective name := by
  intro t u h
  cases t <;> cases u <;> first | rfl | exact absurd h (by decide)

theorem trim_name (t : Timeframe) : Text.trim t.name = t.name := by
  cases t <;> decide +kernel

theorem mem_all (t : Timeframe) : t ∈ all := by
  cases t <;> decide

theorem mem_names {p : String} : p ∈ names ↔ ∃ t : Timeframe, t.name = p := by
  have hall : names = all.map name := rfl
  rw [hall, List.mem_map]
  exact ⟨fun ⟨t, _, h⟩ => ⟨t, h⟩, fun ⟨t, h⟩ => ⟨t, t.mem_all, h⟩⟩

/-- **A text names an interval** when it is the name with blanks around it. -/
theorem ofText?_eq_ok : ofText? s = .ok t ↔ t.name = Text.trim s := by
  rw [ofText?]
  cases hfind : all.find? (·.name == Text.trim s) with
  | none =>
    have hnone : ¬ t.name = Text.trim s := by simpa using List.find?_eq_none.mp hfind t t.mem_all
    simp [hnone]
  | some u =>
    have hu : u.name = Text.trim s := by simpa using List.find?_some hfind
    rw [← hu, Except.ok.injEq, eq_comm]
    exact name_injective.eq_iff.symm

theorem ofText?_name (t : Timeframe) : ofText? t.name = .ok t :=
  ofText?_eq_ok.mpr t.trim_name.symm

theorem ofText?_eq_error {e : UnsupportedTimeframe} :
    ofText? s = .error e ↔ Text.trim s ∉ names ∧ e = ⟨s⟩ := by
  rw [mem_names, ofText?]
  cases hfind : all.find? (·.name == Text.trim s) with
  | none =>
    have hnone : ¬ ∃ t : Timeframe, t.name = Text.trim s := fun ⟨t, ht⟩ =>
      List.find?_eq_none.mp hfind t t.mem_all (by simpa using ht)
    simp only [hnone, not_false_eq_true, true_and, Except.error.injEq]
    exact eq_comm
  | some u =>
    have hu : ∃ t : Timeframe, t.name = Text.trim s :=
      ⟨u, by simpa using List.find?_some hfind⟩
    simp [hu]

end Timeframe

/-! ## The parts of a text -/

/-- The pieces are what stands between the commas of the text. -/
structure IsSplit (s : String) (pieces : List String) : Prop where
  nonempty : pieces ≠ []
  no_comma : ∀ piece ∈ pieces, ',' ∉ piece.toList
  joined : ",".intercalate pieces = s

/-- The pieces without the blanks around them, and without those that are blank altogether. -/
def namedParts (pieces : List String) : List String :=
  (pieces.map Text.trim).filter (· ≠ "")

section Parts

variable {s piece : String} {pieces : List String}

theorem exists_intercalate {α : Type} [DecidableEq α] (a : α) (as : List α) :
    ∃ parts : List (List α), parts ≠ [] ∧ (∀ part ∈ parts, a ∉ part) ∧
      [a].intercalate parts = as := by
  induction as with
  | nil => exact ⟨[[]], by simp, by simp, List.intercalate_singleton⟩
  | cons x xs ih =>
    obtain ⟨parts, hne, hparts, hjoin⟩ := ih
    by_cases hx : x = a
    · -- a part ends here, and the empty part before it is new
      refine ⟨[] :: parts, by simp, ?_, ?_⟩
      · simpa using hparts
      · rw [List.intercalate_cons_of_ne_nil hne, hjoin, hx]
        rfl
    · obtain ⟨first, rest, rfl⟩ := List.exists_cons_of_ne_nil hne
      rw [List.forall_mem_cons] at hparts
      refine ⟨(x :: first) :: rest, by simp, List.forall_mem_cons.mpr ⟨?_, hparts.2⟩, ?_⟩
      · simp [Ne.symm hx, hparts.1]
      · rw [List.intercalate_cons_cons_left, hjoin]

theorem exists_isSplit (s : String) : ∃ pieces, IsSplit s pieces := by
  obtain ⟨parts, hne, hparts, hjoin⟩ := exists_intercalate ',' s.toList
  refine ⟨parts.map String.ofList, by simpa using hne, by simpa using hparts, ?_⟩
  apply String.toList_injective
  rw [String.toList_intercalate, List.map_map]
  have hid : String.toList ∘ String.ofList = id := funext fun cs => String.toList_ofList
  rw [hid, List.map_id]
  exact hjoin

theorem IsSplit.splitOn_eq (h : IsSplit s pieces) :
    s.toList.splitOn ',' = pieces.map String.toList := by
  rw [← h.joined, String.toList_intercalate]
  exact List.splitOn_intercalate ',' (by simpa using h.no_comma) (by simpa using h.nonempty)

theorem IsSplit.eq {others : List String} (h : IsSplit s pieces) (h' : IsSplit s others) :
    pieces = others := by
  have hinj : Function.Injective String.toList := fun _ _ => String.toList_injective
  exact List.map_injective_iff.mpr hinj (h.splitOn_eq.symm.trans h'.splitOn_eq)

theorem IsSplit.commaParts_eq (h : IsSplit s pieces) : commaParts s = namedParts pieces := by
  rw [commaParts, h.splitOn_eq, List.map_map, namedParts]
  simp [Function.comp_def, String.ofList_toList]

theorem trim_of_mem_namedParts {part : String} (h : part ∈ namedParts pieces) :
    Text.trim part = part := by
  obtain ⟨piece, -, rfl⟩ := List.mem_map.mp (List.mem_filter.mp h).1
  exact Text.trim_trim piece

theorem namedParts_cons_of_blank (h : Text.Blank piece) :
    namedParts (piece :: pieces) = namedParts pieces := by
  simp [namedParts, Text.trim_eq_empty.mpr h]

theorem namedParts_cons_of_padded {t : Timeframe} (h : Text.Padded t.name piece) :
    namedParts (piece :: pieces) = t.name :: namedParts pieces := by
  have htrim : Text.trim piece = t.name := (Text.trim_of_padded h).trans t.trim_name
  have hne : t.name ≠ "" := by cases t <;> decide
  simp [namedParts, htrim, hne]

end Parts

/-! ## The parts as timeframes -/

section Found

variable {parts : List String} {found : List Timeframe} {e : UnsupportedTimeframe}

theorem mem_names_of_mem_map {part : String} (h : part ∈ found.map Timeframe.name) :
    part ∈ Timeframe.names := by
  obtain ⟨t, -, rfl⟩ := List.mem_map.mp h
  exact Timeframe.mem_names.mpr ⟨t, rfl⟩

theorem mapM_ofText?_eq_ok (h : ∀ part ∈ parts, Text.trim part = part) :
    parts.mapM Timeframe.ofText? = .ok found ↔ found.map Timeframe.name = parts := by
  induction parts generalizing found with
  | nil => simp [pure, Except.pure, eq_comm]
  | cons part parts ih =>
    rw [List.forall_mem_cons] at h
    rw [List.mapM_cons, List.map_eq_cons_iff]
    simp only [bind_eq_ok, ih h.2, Timeframe.ofText?_eq_ok, h.1]
    constructor
    · rintro ⟨t, ht, ts, hts, hfound⟩
      cases hfound
      exact ⟨t, ts, rfl, ht, hts⟩
    · rintro ⟨t, ts, rfl, ht, hts⟩
      exact ⟨t, ht, ts, hts, rfl⟩

theorem mapM_ofText?_eq_error (h : ∀ part ∈ parts, Text.trim part = part) :
    parts.mapM Timeframe.ofText? = .error e ↔
      parts.find? (· ∉ Timeframe.names) = some e.text := by
  induction parts with
  | nil => simp [pure, Except.pure]
  | cons part parts ih =>
    rw [List.forall_mem_cons] at h
    rw [List.mapM_cons, bind_eq_error, Timeframe.ofText?_eq_error, h.1]
    simp only [bind_eq_error, ih h.2, Timeframe.ofText?_eq_ok, h.1]
    by_cases hpart : part ∈ Timeframe.names
    · obtain ⟨t, rfl⟩ := Timeframe.mem_names.mp hpart
      rw [List.find?_cons_of_neg (by simpa using hpart)]
      simp [hpart, Timeframe.name_injective.eq_iff, pure, Except.pure]
    · rw [List.find?_cons_of_pos (by simpa using hpart), Option.some_inj]
      constructor
      · rintro (⟨-, rfl⟩ | ⟨t, ht, -⟩)
        · rfl
        · exact absurd (Timeframe.mem_names.mpr ⟨t, ht⟩) hpart
      · intro he
        exact .inl ⟨hpart, he ▸ rfl⟩

end Found

/-! ## First occurrences -/

/-- The values are those whose names are listed, in the order in which the names occur first. -/
structure FirstListed (named : List String) (ts : List Timeframe) : Prop where
  mem_iff : ∀ t, t ∈ ts ↔ t.name ∈ named
  order : ts.Pairwise fun t u => named.idxOf t.name < named.idxOf u.name

section FirstListed

variable {named : List String} {ts us found : List Timeframe}

theorem FirstListed.nodup (h : FirstListed named ts) : ts.Nodup :=
  h.order.imp fun hlt he => by simp [he] at hlt

theorem FirstListed.eq (h : FirstListed named ts) (h' : FirstListed named us) : ts = us := by
  have hperm : ts.Perm us := by
    rw [List.perm_ext_iff_of_nodup h.nodup h'.nodup]
    exact fun t => (h.mem_iff t).trans (h'.mem_iff t).symm
  exact hperm.eq_of_pairwise (fun t u _ _ hlt hgt => absurd hlt hgt.asymm) h.order h'.order

theorem firstListed_firstOccurrences (found : List Timeframe) :
    FirstListed (found.map Timeframe.name) (firstOccurrences found) := by
  induction found with
  | nil => exact ⟨by simp [firstOccurrences], List.Pairwise.nil⟩
  | cons t ts ih =>
    rw [firstOccurrences, List.map_cons]
    have hlater : ∀ u ∈ (firstOccurrences ts).filter (· ≠ t), t.name ≠ u.name := by
      intro u hu he
      simpa [Timeframe.name_injective he] using (List.mem_filter.mp hu).2
    refine ⟨fun u => ?_, List.pairwise_cons.mpr ⟨fun u hu => ?_, ?_⟩⟩
    · by_cases hu : u = t
      · simp [hu]
      · simp [hu, ih.mem_iff, Timeframe.name_injective.eq_iff]
    · rw [List.idxOf_cons_self, List.idxOf_cons_ne _ (hlater u hu)]
      exact Nat.succ_pos _
    · refine (ih.order.filter _).imp_of_mem fun {u v} hu hv hlt => ?_
      rw [List.idxOf_cons_ne _ (hlater u hu), List.idxOf_cons_ne _ (hlater v hv)]
      exact Nat.succ_lt_succ hlt

end FirstListed

/-! ## What a text denotes -/

section Denoted

variable {s : String} {pieces : List String} {ts : List Timeframe} {e : ConfigError}

theorem timeframes?_cases (h : IsSplit s pieces) :
    (∃ part, (namedParts pieces).find? (· ∉ Timeframe.names) = some part ∧
      timeframes? s = .error (.unsupportedTimeframe ⟨part⟩)) ∨
    (namedParts pieces = [] ∧ timeframes? s = .error .noTimeframes) ∨
    ∃ ts, namedParts pieces ≠ [] ∧ (∀ part ∈ namedParts pieces, part ∈ Timeframe.names) ∧
      FirstListed (namedParts pieces) ts ∧ timeframes? s = .ok ts := by
  have htrim : ∀ part ∈ namedParts pieces, Text.trim part = part := fun _ => trim_of_mem_namedParts
  rw [timeframes?, h.commaParts_eq]
  cases hread : (namedParts pieces).mapM Timeframe.ofText? with
  | error e => exact .inl ⟨e.text, (mapM_ofText?_eq_error htrim).mp hread, rfl⟩
  | ok found =>
    have hmap := (mapM_ofText?_eq_ok htrim).mp hread
    cases found with
    | nil => exact .inr (.inl ⟨hmap.symm, rfl⟩)
    | cons t found =>
      rw [← hmap]
      exact .inr (.inr ⟨_, List.cons_ne_nil _ _, fun _ => mem_names_of_mem_map,
        firstListed_firstOccurrences (t :: found), rfl⟩)

/-- **A text denotes a list** when it names something, and names nothing but intervals. -/
theorem timeframes?_eq_ok (h : IsSplit s pieces) :
    timeframes? s = .ok ts ↔ namedParts pieces ≠ [] ∧
      (∀ part ∈ namedParts pieces, part ∈ Timeframe.names) ∧
        FirstListed (namedParts pieces) ts := by
  rcases timeframes?_cases h with ⟨part, hpart, hs⟩ | ⟨hnil, hs⟩ | ⟨us, hne, hnames, hlisted, hs⟩
  · have hbad : part ∉ Timeframe.names := by simpa using List.find?_some hpart
    simp only [hs, reduceCtorEq, false_iff]
    exact fun ⟨_, hnames, _⟩ => hbad (hnames part (List.mem_of_find?_eq_some hpart))
  · simp [hs, hnil]
  · rw [hs, Except.ok.injEq]
    exact ⟨fun he => he ▸ ⟨hne, hnames, hlisted⟩, fun ⟨_, _, hts⟩ => hlisted.eq hts⟩

/-- **A text is refused** for the first part that is no name, or because it names nothing. -/
theorem timeframes?_eq_error (h : IsSplit s pieces) :
    timeframes? s = .error e ↔ (namedParts pieces = [] ∧ e = .noTimeframes) ∨
      ∃ part, (namedParts pieces).find? (· ∉ Timeframe.names) = some part ∧
        e = .unsupportedTimeframe ⟨part⟩ := by
  rcases timeframes?_cases h with ⟨part, hpart, hs⟩ | ⟨hnil, hs⟩ | ⟨us, hne, hnames, -, hs⟩
  · have hne : namedParts pieces ≠ [] := List.ne_nil_of_mem (List.mem_of_find?_eq_some hpart)
    rw [hs, hpart]
    simp [hne, eq_comm]
  · rw [hs, hnil]
    simp [eq_comm]
  · have hnone : (namedParts pieces).find? (· ∉ Timeframe.names) = none :=
      List.find?_eq_none.mpr fun part hpart => by simpa using hnames part hpart
    rw [hs, hnone]
    simp [hne]

theorem nodup_timeframes? (h : timeframes? s = .ok ts) : ts.Nodup := by
  obtain ⟨pieces, hsplit⟩ := exists_isSplit s
  exact ((timeframes?_eq_ok hsplit).mp h).2.2.nodup

theorem ne_nil_of_timeframes? (h : timeframes? s = .ok ts) : ts ≠ [] := by
  obtain ⟨pieces, hsplit⟩ := exists_isSplit s
  obtain ⟨hne, hnames, hlisted⟩ := (timeframes?_eq_ok hsplit).mp h
  obtain ⟨part, hpart⟩ := List.exists_mem_of_ne_nil _ hne
  obtain ⟨t, rfl⟩ := Timeframe.mem_names.mp (hnames part hpart)
  exact List.ne_nil_of_mem ((hlisted.mem_iff t).mpr hpart)

end Denoted

/-! ## Ways to write a list -/

/-- The pieces spell the values that follow those in `seen`: each under its name with blanks around
it, in order, among pieces that are blank or name again what came before. -/
inductive Spelled : List Timeframe → List Timeframe → List String → Prop
  | done {seen} : Spelled seen [] []
  | next {seen t ts piece pieces} :
    Text.Padded t.name piece → Spelled (t :: seen) ts pieces →
      Spelled seen (t :: ts) (piece :: pieces)
  | again {seen t ts piece pieces} :
    t ∈ seen → Text.Padded t.name piece → Spelled seen ts pieces →
      Spelled seen ts (piece :: pieces)
  | blank {seen ts piece pieces} :
    Text.Blank piece → Spelled seen ts pieces → Spelled seen ts (piece :: pieces)

section Spelled

variable {seen ts : List Timeframe} {pieces : List String}

theorem Spelled.ne_nil (h : Spelled seen ts pieces) (hne : ts ≠ []) : pieces ≠ [] := by
  cases h with
  | done => exact absurd rfl hne
  | next => exact List.cons_ne_nil _ _
  | again => exact List.cons_ne_nil _ _
  | blank => exact List.cons_ne_nil _ _

theorem not_comma_of_blank {piece : String} (h : Text.Blank piece) : ',' ∉ piece.toList :=
  fun hcomma => absurd (h ',' hcomma) (by decide +kernel)

theorem not_comma_of_padded {t : Timeframe} {piece : String} (h : Text.Padded t.name piece) :
    ',' ∉ piece.toList := by
  obtain ⟨left, right, hl, hr, rfl⟩ := h
  have hname : ',' ∉ t.name.toList := by cases t <;> decide
  simp [not_comma_of_blank hl, not_comma_of_blank hr, hname]

theorem Spelled.no_comma (h : Spelled seen ts pieces) : ∀ piece ∈ pieces, ',' ∉ piece.toList := by
  induction h with
  | done => exact List.forall_mem_nil _
  | next hp _ ih => exact List.forall_mem_cons.mpr ⟨not_comma_of_padded hp, ih⟩
  | again _ hp _ ih => exact List.forall_mem_cons.mpr ⟨not_comma_of_padded hp, ih⟩
  | blank hb _ ih => exact List.forall_mem_cons.mpr ⟨not_comma_of_blank hb, ih⟩

theorem Spelled.exists_found (h : Spelled seen ts pieces) (hd : ts.Nodup)
    (hnew : ∀ t ∈ ts, t ∉ seen) :
    ∃ found, found.map Timeframe.name = namedParts pieces ∧
      (firstOccurrences found).filter (· ∉ seen) = ts := by
  induction h with
  | done => exact ⟨[], rfl, rfl⟩
  | @next seen t ts piece pieces hp _ ih =>
    rw [List.nodup_cons] at hd
    rw [List.forall_mem_cons] at hnew
    have hnew' : ∀ u ∈ ts, u ∉ t :: seen := fun u hu =>
      List.not_mem_cons_of_ne_of_not_mem (fun he => hd.1 (he ▸ hu)) (hnew.2 u hu)
    obtain ⟨found, hmap, hfound⟩ := ih hd.2 hnew'
    refine ⟨t :: found, by rw [List.map_cons, hmap, namedParts_cons_of_padded hp], ?_⟩
    rw [firstOccurrences, List.filter_cons_of_pos (by simpa using hnew.1), List.filter_filter,
      ← hfound]
    simp [Bool.and_comm]
  | @again seen t ts piece pieces ht hp _ ih =>
    obtain ⟨found, hmap, hfound⟩ := ih hd hnew
    refine ⟨t :: found, by rw [List.map_cons, hmap, namedParts_cons_of_padded hp], ?_⟩
    rw [firstOccurrences, List.filter_cons_of_neg (by simpa using ht), List.filter_filter, ← hfound]
    refine List.filter_congr fun u _ => ?_
    by_cases hu : u ∈ seen
    · simp [hu]
    · have hne : u ≠ t := fun he => hu (he ▸ ht)
      simp [hu, hne]
  | blank hb _ ih =>
    obtain ⟨found, hmap, hfound⟩ := ih hd hnew
    exact ⟨found, by rw [hmap, namedParts_cons_of_blank hb], hfound⟩

/-- **Whatever spells a list** is read as that list. -/
theorem timeframes?_of_spelled (h : Spelled [] ts pieces) (hne : ts ≠ []) (hd : ts.Nodup) :
    timeframes? (",".intercalate pieces) = .ok ts := by
  have hsplit : IsSplit (",".intercalate pieces) pieces := ⟨h.ne_nil hne, h.no_comma, rfl⟩
  obtain ⟨found, hmap, hfound⟩ := h.exists_found hd fun _ _ => List.not_mem_nil
  have hfirst : firstOccurrences found = ts := by simpa using hfound
  refine (timeframes?_eq_ok hsplit).mpr ⟨?_, ?_, ?_⟩
  · rw [← hmap]
    rintro hnil
    rw [List.map_eq_nil_iff] at hnil
    exact hne (by rw [← hfirst, hnil, firstOccurrences])
  · exact fun part hpart => mem_names_of_mem_map (hmap ▸ hpart)
  · rw [← hmap, ← hfirst]
    exact firstListed_firstOccurrences found

end Spelled

/-! ## Everything about a list of timeframes -/

theorem ConfigError.chain_unsupportedTimeframe (part : String) :
    (ConfigError.unsupportedTimeframe ⟨part⟩).chain =
      "invalid value for TIMEFRAMES: unsupported timeframe: " ++ Text.quoted part := by
  have hparts : (ConfigError.unsupportedTimeframe ⟨part⟩).chain = ": ".intercalate
      ["invalid value for TIMEFRAMES", "unsupported timeframe: " ++ Text.quoted part] := rfl
  have hstart : "invalid value for TIMEFRAMES: unsupported timeframe: " =
      "invalid value for TIMEFRAMES" ++ ": " ++ "unsupported timeframe: " := by decide
  rw [hparts, String.intercalate_cons_cons, String.intercalate_singleton, hstart]
  simp only [String.append_assoc]

/-- **A list of timeframes** denotes the distinct intervals that its parts name, in the order of
their first occurrence, unless some part is no name. -/
theorem timeframes_parse_as_listed :
    (∀ s, ∃! pieces, IsSplit s pieces) ∧
    (∀ s pieces, IsSplit s pieces →
      (∀ ts, timeframes? s = .ok ts ↔ namedParts pieces ≠ [] ∧
        (∀ part ∈ namedParts pieces, part ∈ ["1m", "5m", "15m", "1h", "4h", "1d"]) ∧
        FirstListed (namedParts pieces) ts) ∧
      (∀ ts, timeframes? s = .ok ts → ts ≠ [] ∧ ts.Nodup) ∧
      ∀ e, timeframes? s = .error e ↔ (namedParts pieces = [] ∧ e = .noTimeframes) ∨
        ∃ part, (namedParts pieces).find? (· ∉ ["1m", "5m", "15m", "1h", "4h", "1d"]) = some part ∧
          e = .unsupportedTimeframe ⟨part⟩) ∧
    (∀ part, (ConfigError.unsupportedTimeframe ⟨part⟩).chain =
      "invalid value for TIMEFRAMES: unsupported timeframe: " ++ Text.quoted part) ∧
    ∀ ts pieces, Spelled [] ts pieces → ts ≠ [] → ts.Nodup →
      timeframes? (",".intercalate pieces) = .ok ts := by
  refine ⟨fun s => ?_, fun s pieces h => ⟨fun ts => ?_, fun ts hts => ?_, fun e => ?_⟩,
    ConfigError.chain_unsupportedTimeframe, ?_⟩
  · obtain ⟨pieces, h⟩ := exists_isSplit s
    exact ⟨pieces, h, fun _ h' => h'.eq h⟩
  · exact timeframes?_eq_ok h
  · exact ⟨ne_nil_of_timeframes? hts, nodup_timeframes? hts⟩
  · exact timeframes?_eq_error h
  · exact fun ts pieces h hne hd => timeframes?_of_spelled h hne hd

/-- A padded list with a blank part and a repeat, and one with two parts that are no names. -/
theorem timeframes_parse_as_listed_small :
    timeframes? " 1h ,,1d, 1h" = .ok [.oneHour, .oneDay] ∧
      timeframes? "1h,3h,1w" = .error (.unsupportedTimeframe ⟨"3h"⟩) ∧
      timeframes? (",".intercalate ["", "\t4h", "1m", "4h\n"]) = .ok [.fourHours, .oneMinute] := by
  obtain ⟨-, hread, -, hspelled⟩ := timeframes_parse_as_listed
  refine ⟨?_, ?_, ?_⟩
  · have hsplit : IsSplit " 1h ,,1d, 1h" [" 1h ", "", "1d", " 1h"] :=
      ⟨by decide, by decide, by decide +kernel⟩
    refine ((hread _ _ hsplit).1 _).mpr ⟨?_, ?_, ?_, ?_⟩
    · decide +kernel
    · decide +kernel
    · intro t
      cases t <;> decide +kernel
    · decide +kernel
  · have hsplit : IsSplit "1h,3h,1w" ["1h", "3h", "1w"] :=
      ⟨by decide, by decide, by decide +kernel⟩
    exact ((hread _ _ hsplit).2.2 _).mpr (.inr ⟨"3h", by decide +kernel, rfl⟩)
  · refine hspelled _ _ ?_ (by decide) (by decide)
    have hnone : Text.Blank "" := by decide
    have htab : Text.Blank "\t" := by decide +kernel
    have hnewline : Text.Blank "\n" := by decide +kernel
    exact .blank hnone <| .next ⟨"\t", "", htab, hnone, by decide⟩ <| .next (Text.Padded.refl _) <|
      .again (.tail _ (.head _)) ⟨"", "\n", hnone, hnewline, by decide⟩ .done

end CandleArchive
