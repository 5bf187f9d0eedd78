import CandleArchive.Proofs.Windows

/-!
# Imports — the exact effect of one pair

The rows of an answer are malformed, stored already, repeated with other prices, or new, in any
order. An import that is not refused adds one row for each open time that is free, with the numbers
of the first candle of that time; one that is refused leaves everything as it was.

* `CandleRow.Stores`, `FirstCandles`: a row and its candle, and the rows that come with an answer;
* **`firstCandles_numbered`**: the rows that a batch leaves behind are those;
* `savepoint_insertCandles_eq_error`: when a batch is refused;
* **`importPair_effect`**: the outcome, the counts and the tables after an import.
-/

namespace CandleArchive

/-- The row stores the candle for the pair. -/
structure CandleRow.Stores (row : CandleRow) (symbol : String) (timeframe : Timeframe)
    (c : Candle) : Prop where
  symbol : row.symbol = symbol
  timeframe : row.timeframe = timeframe.name
  candle : row.Holds c
  stamp : row.createdAt = some c.openTime

/-- The rows that come with the candles of an answer: for each open time whose key is not taken there
is exactly one, and it stores the first candle of that time. -/
structure FirstCandles (symbol : String) (timeframe : Timeframe) (candles : List Candle)
    (taken : List CandleKey) (added : List CandleRow) : Prop where
  distinct : (added.map CandleRow.key).Nodup
  free : ∀ row ∈ added, row.key ∉ taken
  first : ∀ row ∈ added, ∃ c, candles.find? (·.openTime = row.candle.openTime) = some c ∧
    row.Stores symbol timeframe c
  complete : ∀ c ∈ candles, (⟨symbol, timeframe.name, c.openTime⟩ : CandleKey) ∉ taken →
    ∃ row ∈ added, row.candle.openTime = c.openTime

variable {symbol : String} {timeframe : Timeframe}

theorem key_ofCandle (c : Candle) :
    (CandleRow.ofCandle symbol timeframe c).key = ⟨symbol, timeframe.name, c.openTime⟩ := rfl

theorem find?_batch (rows : List Row) (t : Int) :
    (batch symbol timeframe rows).find? (·.key = ⟨symbol, timeframe.name, t⟩) =
      ((candlesOf rows).find? (·.openTime = t)).map (CandleRow.ofCandle symbol timeframe) := by
  have hp : (fun row : CandleRow => decide (row.key = ⟨symbol, timeframe.name, t⟩)) ∘
      CandleRow.ofCandle symbol timeframe = fun c : Candle => decide (c.openTime = t) := by
    funext c
    simp [key_ofCandle]
  rw [batch, List.find?_map, hp]

/-- **The rows that a batch leaves behind.** -/
theorem firstCandles_numbered (rows : List Row) (taken : List CandleKey) (n : Nat) :
    FirstCandles symbol timeframe (candlesOf rows) taken
      (CandleRow.numbered n (firstPerKey CandleRow.key taken (batch symbol timeframe rows))) := by
  set new := firstPerKey CandleRow.key taken (batch symbol timeframe rows)
  have hkeys : (CandleRow.numbered n new).map CandleRow.key = new.map CandleRow.key :=
    CandleRow.map_key_numbered n new
  refine { distinct := ?_, free := ?_, first := ?_, complete := ?_ }
  · rw [hkeys]
    exact nodup_firstPerKey
  · intro row hrow
    have hkey : row.key ∈ new.map CandleRow.key := hkeys ▸ List.mem_map_of_mem hrow
    exact (mem_map_firstPerKey.mp hkey).2
  · intro row hrow
    obtain ⟨r, hr, id, rfl⟩ := CandleRow.eq_withId_of_mem_numbered hrow
    obtain ⟨-, hfind⟩ := mem_firstPerKey.mp hr
    obtain ⟨c, -, rfl⟩ := List.mem_map.mp (mem_of_mem_firstPerKey hr)
    -- the first row of its key is the row of the first candle of its open time
    rw [key_ofCandle, find?_batch] at hfind
    obtain ⟨first, hfirst, he⟩ := Option.map_eq_some_iff.mp hfind
    refine ⟨first, hfirst, rfl, rfl, ?_, ?_⟩
    · rw [← he]
      exact CandleRow.holds_ofCandle symbol timeframe first id
    · exact (congrArg CandleRow.createdAt he).symm
  · intro c hc hfree
    have hkey : (⟨symbol, timeframe.name, c.openTime⟩ : CandleKey) ∈
        (CandleRow.numbered n new).map CandleRow.key := by
      rw [hkeys, mem_map_firstPerKey]
      exact ⟨List.mem_map.mpr ⟨_, List.mem_map_of_mem hc, key_ofCandle c⟩, hfree⟩
    obtain ⟨row, hrow, hk⟩ := List.mem_map.mp hkey
    exact ⟨row, hrow, congrArg CandleKey.openTime hk⟩

/-- **A batch is refused** over a connection that cannot commit, when one statement does not take
it, without the table, or by a guard. -/
theorem savepoint_insertCandles_eq_error {store : Store} {new : List CandleRow} :
    (∃ refusal, store.savepoint (Store.insertCandles new) = .error refusal) ↔
      store.connection ≠ .ready ∨ store.batchLimit < new.length ∨ store.candles = none ∨
        ∃ table, store.candles = some table ∧
          ∃ row ∈ new, ∃ guard ∈ table.guards, guard.insert row = true := by
  have hnone : store.refusal? (Store.insertCandles new) = none ↔ _ :=
    Store.refusal?_insertCandles_eq_none
  have hrefused : (∃ refusal, store.savepoint (Store.insertCandles new) = .error refusal) ↔
      store.refusal? (Store.insertCandles new) ≠ none := by
    rw [Option.ne_none_iff_exists']
    exact exists_congr fun refusal => Store.refusal?_eq_some.symm
  rw [hrefused, Ne, hnone, not_and_or, not_and_or, Nat.not_le]
  refine or_congr_right (or_congr_right ?_)
  cases store.candles with
  | none => simp
  | some table => simp

theorem outcome_importPair_eq_error {importer : Importer} {store : Store} {now : Nat}
    {e : ImportError} :
    (importer.importPair symbol timeframe store now).outcome = .error e ↔
      candlesOf (importer.answer symbol timeframe) ≠ [] ∧
        ∃ refusal, store.savepoint (Store.insertCandles
            (batch symbol timeframe (importer.answer symbol timeframe))) = .error refusal ∧
          e = .candleWrite symbol timeframe refusal := by
  set rows := importer.answer symbol timeframe
  have ho : (importer.importPair symbol timeframe store now).outcome = .error e ↔
      ∃ refusal, store.batchRefusal? (batch symbol timeframe rows) = some refusal ∧
        e = .candleWrite symbol timeframe refusal := outcome_importRows_eq_error
  rw [ho, Store.batchRefusal?]
  split_ifs with hb
  · simp [batch_eq_nil.mp hb]
  · simp only [Store.refusal?_eq_some, ne_eq, mt batch_eq_nil.mpr hb, not_false_iff, true_and]

theorem candleRows_importPair {importer : Importer} {store : Store} {now : Nat}
    {counts : ImportCounts}
    (h : (importer.importPair symbol timeframe store now).outcome = .ok counts) :
    let rows := importer.answer symbol timeframe
    let added := CandleRow.numbered store.candleRows.length
      (firstPerKey CandleRow.key store.candleKeys (batch symbol timeframe rows))
    (importer.importPair symbol timeframe store now).store.candleRows = store.candleRows ++ added ∧
      counts.fetched = rows.length ∧ counts.attempted = (candlesOf rows).length ∧
      counts.written = added.length := by
  intro rows added
  obtain ⟨hfetched, hattempted, hwritten⟩ := counts_of_importRows h
  have hunrefused : store.batchRefusal? (batch symbol timeframe rows) = none := by
    by_contra hr
    obtain ⟨refusal, hr⟩ := Option.ne_none_iff_exists'.mp hr
    have herror : (importer.importPair symbol timeframe store now).outcome = .error _ :=
      outcome_importRows_eq_error.mpr ⟨refusal, hr, rfl⟩
    rw [h] at herror
    contradiction
  refine ⟨?_, hfetched, hattempted, ?_⟩
  · rw [store_importPair, Store.candleRows_addCandles_accepted,
      Store.accepted_of_unrefused hunrefused, CandleRow.foldl_addTo]
    rfl
  · rw [hwritten, CandleRow.length_numbered]
    rfl

/-- **The exact effect of importing a pair.** One row comes for each open time that occurs and is
free, with the first candle of that time; a batch that is refused leaves nothing. -/
theorem importPair_effect (importer : Importer) (symbol : String) (timeframe : Timeframe)
    (store : Store) (now : Nat) :
    let rows := importer.answer symbol timeframe
    let candles := candlesOf rows
    let step := importer.importPair symbol timeframe store now
    let insertion := store.savepoint (Store.insertCandles (batch symbol timeframe rows))
    (∀ e, step.outcome = .error e ↔
      candles ≠ [] ∧ ∃ refusal, insertion = .error refusal ∧
        e = .candleWrite symbol timeframe refusal) ∧
    ((∃ refusal, insertion = .error refusal) ↔
      store.connection ≠ .ready ∨ store.batchLimit < candles.length ∨ store.candles = none ∨
        ∃ table, store.candles = some table ∧ ∃ row ∈ batch symbol timeframe rows,
          ∃ guard ∈ table.guards, guard.insert row = true) ∧
    (∀ e, step.outcome = .error e → step.store = store) ∧
    (∀ counts, step.outcome = .ok counts →
      ∃ added, step.store.candleRows = store.candleRows ++ added ∧
        FirstCandles symbol timeframe candles store.candleKeys added ∧
        counts.fetched = rows.length ∧ counts.attempted = candles.length ∧
        counts.written = added.length ∧
        counts.fetched = counts.attempted + counts.rejected ∧
        counts.attempted = counts.written + counts.duplicates) ∧
    step.store = { store with candles := step.store.candles } ∧
    (candles = [] → step.store = store ∧ step.outcome = .ok { fetched := rows.length }) := by
  intro rows candles step insertion
  have hstore : step.store = store.addCandles (store.accepted (batch symbol timeframe rows)) :=
    store_importPair importer store now
  refine ⟨fun e => outcome_importPair_eq_error, ?_, ?_, ?_, ?_, ?_⟩
  · rw [savepoint_insertCandles_eq_error, length_batch]
  · intro e he
    obtain ⟨refusal, hr, -⟩ := outcome_importRows_eq_error.mp he
    have hnothing : store.accepted (batch symbol timeframe rows) = [] :=
      Store.accepted_of_refused hr
    rw [hstore, hnothing, Store.addCandles_nil]
  · intro counts hok
    obtain ⟨hrows, hfetched, hattempted, hwritten⟩ := candleRows_importPair hok
    have hle : counts.attempted ≤ counts.fetched := by
      rw [hattempted, hfetched]
      exact length_candlesOf_le _
    have hle' : counts.written ≤ counts.attempted := by
      rw [hwritten, CandleRow.length_numbered, hattempted, ← length_batch]
      exact length_firstPerKey_le _ _ _
    refine ⟨_, hrows, firstCandles_numbered _ _ _, hfetched, hattempted, hwritten, ?_, ?_⟩
    · rw [ImportCounts.rejected]
      omega
    · rw [ImportCounts.duplicates]
      omega
  · rw [hstore]
    rfl
  · intro hcandles
    have hbatch : batch symbol timeframe rows = [] := batch_eq_nil.mpr hcandles
    have hunrefused : store.batchRefusal? (batch symbol timeframe rows) = none := if_pos hbatch
    refine ⟨?_, ?_⟩
    · rw [hstore, Store.accepted_of_unrefused hunrefused, hbatch, Store.addCandles_nil]
    · have hout : step.outcome = _ := outcome_importRows rows store
      rw [hout, hunrefused]
      simp [answerCounts, hbatch, firstPerKey]

/-- An answer with a minute that is stored, one that is new and a row that is no candle; and a pair
whose candles a guard refuses. -/
theorem importPair_effect_small :
    let early := (SmallRun.importer SmallRun.early).importPair "ETHUSDT" .oneHour SmallRun.store 0
    let late := (SmallRun.importer SmallRun.late).importPair "ETHUSDT" .oneHour early.store 0
    let refused := (SmallRun.importer SmallRun.late).importPair "ETHUSDT" .oneDay early.store 0
    late.outcome = .ok ⟨3, 2, 1⟩ ∧
      (∃ row, late.store.candleRows = early.store.candleRows ++ [row] ∧
        FirstCandles "ETHUSDT" .oneHour (candlesOf SmallRun.late) early.store.candleKeys [row] ∧
        row.candle = SmallRun.candle 120000 0x405a000000000000) ∧
      refused.outcome = .error (.candleWrite "ETHUSDT" .oneDay guardRefusal) ∧
      refused.store = early.store := by
  intro early late refused
  have hok : late.outcome = .ok ⟨3, 2, 1⟩ := by decide +kernel
  have hrefused : refused.outcome = .error (.candleWrite "ETHUSDT" .oneDay guardRefusal) := by
    decide +kernel
  obtain ⟨-, -, -, hadds, -⟩ :=
    importPair_effect (SmallRun.importer SmallRun.late) "ETHUSDT" .oneHour early.store 0
  obtain ⟨-, -, hkeeps, -⟩ :=
    importPair_effect (SmallRun.importer SmallRun.late) "ETHUSDT" .oneDay early.store 0
  obtain ⟨added, hrows, hfirst, -, -, hwritten, -⟩ := hadds _ hok
  obtain ⟨row, rfl⟩ := List.length_eq_one_iff.mp hwritten.symm
  have hlast : late.store.candleRows.getLast?.map CandleRow.candle =
      some (SmallRun.candle 120000 0x405a000000000000) := by
    decide +kernel
  rw [show late.store.candleRows = _ from hrows, List.getLast?_concat, Option.map_some,
    Option.some_inj] at hlast
  exact ⟨hok, ⟨row, hrows, hfirst, hlast⟩, hrefused, hkeeps _ hrefused⟩

end CandleArchive
