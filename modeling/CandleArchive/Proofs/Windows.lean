import CandleArchive.Proofs.History
import CandleArchive.Proofs.Run

/-!
# Windows — the imports of a pair compose

A provider answers with the latest candles, so from one import to the next the answers for a pair
overlap. A candle that is stored already and a candle that came earlier in the same answer are skipped
by one rule; so it does not matter how the rows of a pair are cut into answers, as long as one statement
takes the candles of each. An answer with more of them is refused as a whole.

* `Windows`, `importWindows`: imports of a pair one after another;
* `Store.FitWindows`: one statement takes the candles of each import;
* **`importPair_of_takesCandles`**, `importPair_of_oversize`: one import;
* `importWindows_of_takesCandles`, **`windows_compose`**: several imports;
* **`long_window_stores_nothing`**: two imports that store what one cannot.
-/

namespace CandleArchive

/-- Imports one after another: what became of each, and the store that they leave. -/
structure Windows where
  outcomes : List (Except ImportError ImportCounts)
  store : Store

/-- Imports of a pair one after another, each by an importer and from a time of its own on. -/
def importWindows (symbol : String) (timeframe : Timeframe) :
    List (Importer × Nat) → Store → Windows
  | [], store => ⟨[], store⟩
  | (importer, now) :: rest, store =>
    let step := importer.importPair symbol timeframe store now
    let done := importWindows symbol timeframe rest step.store
    ⟨step.outcome :: done.outcomes, done.store⟩

/-- One statement takes the candles of each of the imports. -/
def Store.FitWindows (store : Store) (symbol : String) (timeframe : Timeframe)
    (windows : List (Importer × Nat)) : Prop :=
  ∀ w ∈ windows, (candlesOf (w.1.answer symbol timeframe)).length ≤ store.batchLimit

instance (store : Store) (symbol : String) (timeframe : Timeframe) (windows : List (Importer × Nat)) :
    Decidable (store.FitWindows symbol timeframe windows) :=
  inferInstanceAs (Decidable (∀ w ∈ windows, _))

variable {symbol : String} {timeframe : Timeframe} {store : Store}

/-- The counts of rows that are all submitted to the store as it is. -/
def Store.countsOf (symbol : String) (timeframe : Timeframe) (store : Store) (rows : List Row) :
    ImportCounts :=
  { answerCounts symbol timeframe rows with
    written := (firstPerKey CandleRow.key store.candleKeys (batch symbol timeframe rows)).length }

theorem batch_append (rows more : List Row) :
    batch symbol timeframe (rows ++ more) =
      batch symbol timeframe rows ++ batch symbol timeframe more := by
  simp only [batch, candlesOf, List.filterMap_append, List.map_append]

namespace Store.TakesCandles

theorem addCandles (h : store.TakesCandles) (new : List CandleRow) :
    (store.addCandles new).TakesCandles := by
  refine ⟨h.ready, ?_⟩
  rw [guards_addCandles]
  exact h.unguarded

theorem candleRows_addCandles (h : store.TakesCandles) (new : List CandleRow) :
    (store.addCandles new).candleRows = new.foldl CandleRow.addTo store.candleRows := by
  obtain ⟨table, ht, -⟩ := Option.map_eq_some_iff.mp h.unguarded
  exact Store.candleRows_addCandles (.inl (by simp [ht]))

theorem mem_candleKeys_addCandles (h : store.TakesCandles) (new : List CandleRow) {k : CandleKey} :
    k ∈ (store.addCandles new).candleKeys ↔ k ∈ store.candleKeys ++ new.map CandleRow.key := by
  rw [candleKeys, h.candleRows_addCandles, CandleRow.map_key_foldl_addTo, ← candleKeys,
    List.mem_append, List.mem_append, mem_map_firstPerKey]
  tauto

/-- **The counts of two answers add up.** What the second one writes is what is left of it once the
first one is stored. -/
theorem countsOf_append (h : store.TakesCandles) (rows more : List Row) :
    store.countsOf symbol timeframe (rows ++ more) =
      (store.countsOf symbol timeframe rows).add
        ((store.addCandles (batch symbol timeframe rows)).countsOf symbol timeframe more) := by
  have hlater : firstPerKey CandleRow.key
        (store.addCandles (batch symbol timeframe rows)).candleKeys (batch symbol timeframe more) =
      firstPerKey CandleRow.key (store.candleKeys ++ (batch symbol timeframe rows).map CandleRow.key)
        (batch symbol timeframe more) :=
    firstPerKey_congr fun row _ => h.mem_candleKeys_addCandles _
  simp only [countsOf, ImportCounts.add, answerCounts, batch_append, firstPerKey_append, hlater,
    List.length_append]

end Store.TakesCandles

variable (symbol) (timeframe)

/-- **One import** into a store that takes candles submits all candles of its answer. -/
theorem importPair_of_takesCandles (h : store.TakesCandles) (importer : Importer) (now : Nat)
    (hfits : (candlesOf (importer.answer symbol timeframe)).length ≤ store.batchLimit) :
    let rows := importer.answer symbol timeframe
    (importer.importPair symbol timeframe store now).outcome =
        .ok (store.countsOf symbol timeframe rows) ∧
      (importer.importPair symbol timeframe store now).store =
        store.addCandles (batch symbol timeframe rows) := by
  intro rows
  have hbatch : (batch symbol timeframe rows).length ≤ store.batchLimit := by
    rwa [length_batch]
  constructor
  · have ho : (importer.importPair symbol timeframe store now).outcome = _ :=
      outcome_importRows rows store
    rw [ho, h.batchRefusal?_eq_none hbatch]
    rfl
  · rw [store_importPair, h.accepted_eq hbatch]

/-- One import of more candles than one statement takes fails and leaves the store as it is. -/
theorem importPair_of_oversize (importer : Importer) (now : Nat)
    (hover : store.batchLimit < (candlesOf (importer.answer symbol timeframe)).length) :
    (∃ refusal, (importer.importPair symbol timeframe store now).outcome =
        .error (.candleWrite symbol timeframe refusal)) ∧
      (importer.importPair symbol timeframe store now).store = store := by
  set rows := importer.answer symbol timeframe
  obtain ⟨refusal, hr⟩ : ∃ e, store.batchRefusal? (batch symbol timeframe rows) = some e :=
    Store.batchRefusal?_of_oversize (by rwa [length_batch])
  refine ⟨⟨refusal, outcome_importRows_eq_error.mpr ⟨refusal, hr, rfl⟩⟩, ?_⟩
  rw [store_importPair, Store.accepted_of_refused hr, Store.addCandles_nil]

/-- **Several imports** count and leave what all their rows count and leave. -/
theorem importWindows_of_takesCandles (h : store.TakesCandles) {windows : List (Importer × Nat)}
    (hfit : store.FitWindows symbol timeframe windows) :
    let rows := windows.flatMap fun w => w.1.answer symbol timeframe
    let cut := importWindows symbol timeframe windows store
    cut.store = store.addCandles (batch symbol timeframe rows) ∧
      ∃ counts, cut.outcomes = counts.map .ok ∧
        ImportCounts.total counts = store.countsOf symbol timeframe rows := by
  induction windows generalizing store with
  | nil => exact ⟨(store.addCandles_nil).symm, [], rfl, rfl⟩
  | cons window windows ih =>
    obtain ⟨importer, now⟩ := window
    intro rows cut
    obtain ⟨hfits, hlater⟩ := List.forall_mem_cons.mp hfit
    obtain ⟨hout, hstore⟩ := importPair_of_takesCandles symbol timeframe h importer now hfits
    obtain ⟨hrest, counts, houts, htotal⟩ := ih (h.addCandles _) hlater
    rw [← hstore] at hrest houts
    have hrows : rows = importer.answer symbol timeframe ++
        windows.flatMap fun w => w.1.answer symbol timeframe := List.flatMap_cons
    refine ⟨?_, store.countsOf symbol timeframe (importer.answer symbol timeframe) :: counts, ?_, ?_⟩
    · rw [show cut.store = _ from hrest, hstore, hrows, batch_append, Store.addCandles_append]
    · rw [List.map_cons, ← hout, ← houts]
      rfl
    · rw [total_cons, htotal, hrows, h.countsOf_append]

/-- **Overlapping windows compose**: two ways to cut the same rows into imports that fit leave the
same candles and come to the same counts. -/
theorem windows_compose (h : store.TakesCandles) {windows others : List (Importer × Nat)}
    (hrows : (windows.flatMap fun w => w.1.answer symbol timeframe) =
      others.flatMap fun w => w.1.answer symbol timeframe)
    (hfit : store.FitWindows symbol timeframe windows)
    (hother : store.FitWindows symbol timeframe others) :
    let cut := importWindows symbol timeframe windows store
    let recut := importWindows symbol timeframe others store
    (∃ counts counts', cut.outcomes = counts.map .ok ∧ recut.outcomes = counts'.map .ok ∧
      ImportCounts.total counts = ImportCounts.total counts') ∧
      cut.store.candleRows.map CandleRow.withoutId =
        recut.store.candleRows.map CandleRow.withoutId ∧
      cut.store.assets = store.assets ∧ recut.store.assets = store.assets ∧
      ∀ (whole : Importer) now, others = [(whole, now)] →
        let single := whole.importPair symbol timeframe store now
        recut.outcomes = [single.outcome] ∧ recut.store = single.store := by
  intro cut recut
  obtain ⟨hcut, counts, houts, htotal⟩ := importWindows_of_takesCandles symbol timeframe h hfit
  obtain ⟨hrecut, counts', houts', htotal'⟩ := importWindows_of_takesCandles symbol timeframe h hother
  rw [hrows] at hcut htotal
  refine ⟨⟨counts, counts', houts, houts', htotal.trans htotal'.symm⟩, ?_, ?_, ?_, ?_⟩
  · rw [show cut.store = _ from hcut, show recut.store = _ from hrecut]
  · rw [show cut.store = _ from hcut, Store.assets_addCandles]
  · rw [show recut.store = _ from hrecut, Store.assets_addCandles]
  · rintro whole now rfl
    exact ⟨rfl, rfl⟩

namespace SmallRun

/-- An importer that gets the given rows for every pair. -/
def importer (rows : List Row) : Importer :=
  { source := fun _ => { rows }, limit := 200, gate := { pause := 50 } }

theorem answer_importer (rows : List Row) (symbol : String) (timeframe : Timeframe) :
    (importer rows).answer symbol timeframe = rows := rfl

/-- Two minutes, the second of them at two prices. -/
def early : List Row := [row 0 "100", row 60000 "101", row 60000 "102"]

/-- The second minute again at a third price, one more minute, and a row that is no candle. -/
def late : List Row := [row 60000 "103", row 120000 "104", [.null]]

end SmallRun

theorem windows_compose_small :
    let store := SmallRun.store.disturb .ready [] []
    let cut := importWindows "ETHUSDT" .oneHour
      [(SmallRun.importer SmallRun.early, 0), (SmallRun.importer SmallRun.late, 70)] store
    let single := (SmallRun.importer (SmallRun.early ++ SmallRun.late)).importPair "ETHUSDT"
      .oneHour store 0
    store.TakesCandles ∧ (SmallRun.early ++ SmallRun.late).length ≤ store.batchLimit ∧
      cut.outcomes = [.ok ⟨3, 3, 2⟩, .ok ⟨3, 2, 1⟩] ∧ single.outcome = .ok ⟨6, 5, 3⟩ ∧
      cut.store.candleRows.map CandleRow.withoutId =
        single.store.candleRows.map CandleRow.withoutId := by
  intro store cut single
  have h : store.TakesCandles := ⟨rfl, rfl⟩
  have hfit : store.FitWindows "ETHUSDT" .oneHour
      [(SmallRun.importer SmallRun.early, 0), (SmallRun.importer SmallRun.late, 70)] := by
    decide +kernel
  have hwhole : store.FitWindows "ETHUSDT" .oneHour
      [(SmallRun.importer (SmallRun.early ++ SmallRun.late), 0)] := by
    decide +kernel
  have hcut : cut.outcomes = [.ok ⟨3, 3, 2⟩, .ok ⟨3, 2, 1⟩] := by decide +kernel
  have hsingle : single.outcome = .ok ⟨6, 5, 3⟩ := by decide +kernel
  have hrows : [(SmallRun.importer SmallRun.early, 0), (SmallRun.importer SmallRun.late, 70)].flatMap
        (fun w => w.1.answer "ETHUSDT" .oneHour) =
      [(SmallRun.importer (SmallRun.early ++ SmallRun.late), 0)].flatMap
        fun w => w.1.answer "ETHUSDT" .oneHour := rfl
  obtain ⟨-, hsame, -, -, hone⟩ := windows_compose "ETHUSDT" .oneHour h hrows hfit hwhole
  rw [(hone _ _ rfl).2] at hsame
  exact ⟨h, by decide +kernel, hcut, hsingle, hsame⟩

namespace SmallRun

/-- So many rows for one minute. -/
def repeatedRow (n : Nat) : List Row := List.replicate n (List.replicate 6 (.integer 1))

theorem length_candlesOf_repeatedRow (n : Nat) : (candlesOf (repeatedRow n)).length = n := by
  have hcandle : (Row.candle? (List.replicate 6 (.integer 1))).isSome = true := by decide +kernel
  have hall : (repeatedRow n).countP (fun row => row.candle?.isSome) = (repeatedRow n).length :=
    List.countP_eq_length.mpr fun row hrow => List.eq_of_mem_replicate hrow ▸ hcandle
  rw [candlesOf, List.length_filterMap_eq_countP, hall, repeatedRow, List.length_replicate]

end SmallRun

/-- **A window can be too long.** Two answers of 2000 candles are stored, and one of all 4000 is
not. -/
theorem long_window_stores_nothing :
    let store := Store.migrated
    let half := SmallRun.importer (SmallRun.repeatedRow 2000)
    let whole := SmallRun.importer (SmallRun.repeatedRow 2000 ++ SmallRun.repeatedRow 2000)
    let cut := importWindows "BTCUSDT" .oneHour [(half, 0), (half, 70)] store
    let single := whole.importPair "BTCUSDT" .oneHour store 0
    store.TakesCandles ∧
      (∃ counts, cut.outcomes = counts.map .ok ∧ (ImportCounts.total counts).attempted = 4000) ∧
      cut.store.candleRows ≠ [] ∧
      (∃ e, single.outcome = .error e) ∧ single.store.candleRows = [] := by
  intro store half whole cut single
  have htakes : store.TakesCandles := ⟨rfl, rfl⟩
  have hlimit : store.batchLimit = 3640 := by decide +kernel
  have hhalf : (candlesOf (half.answer "BTCUSDT" .oneHour)).length = 2000 := by
    rw [SmallRun.answer_importer, SmallRun.length_candlesOf_repeatedRow]
  have hover : store.batchLimit < (candlesOf (whole.answer "BTCUSDT" .oneHour)).length := by
    rw [hlimit, SmallRun.answer_importer, candlesOf, List.filterMap_append, List.length_append,
      ← candlesOf, SmallRun.length_candlesOf_repeatedRow]
    decide
  have hfit : store.FitWindows "BTCUSDT" .oneHour [(half, 0), (half, 70)] := by
    simp [Store.FitWindows, hhalf, hlimit]
  have hbatch : (batch "BTCUSDT" .oneHour ([(half, 0), (half, 70)].flatMap fun w =>
      w.1.answer "BTCUSDT" .oneHour)).length = 4000 := by
    rw [List.flatMap_cons, List.flatMap_singleton, batch_append, List.length_append, length_batch,
      hhalf]
  obtain ⟨hcut, counts, houts, htotal⟩ :=
    importWindows_of_takesCandles "BTCUSDT" .oneHour htakes hfit
  generalize [(half, 0), (half, 70)].flatMap (fun w => w.1.answer "BTCUSDT" .oneHour) = rows
    at hbatch hcut htotal
  obtain ⟨⟨refusal, hfails⟩, hkept⟩ := importPair_of_oversize "BTCUSDT" .oneHour whole 0 hover
  refine ⟨htakes, ⟨counts, houts, ?_⟩, fun hnone => ?_, ⟨_, hfails⟩, ?_⟩
  · rw [htotal]
    exact hbatch
  · obtain ⟨row, hrow⟩ : ∃ row, row ∈ batch "BTCUSDT" .oneHour rows :=
      List.exists_mem_of_length_pos (by omega)
    have hkey := (htakes.mem_candleKeys_addCandles _).mpr
      (List.mem_append_right _ (List.mem_map_of_mem hrow))
    rw [← show cut.store = _ from hcut, Store.candleKeys, hnone] at hkey
    cases hkey
  · rw [hkept]
    rfl

end CandleArchive
