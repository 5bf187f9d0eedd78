import CandleArchive.History
import CandleArchive.Proofs.Registry
import CandleArchive.Proofs.Store.Insertion

/-!
# The history — what the import of a pair does

The candles of an answer make one batch. It is added as a whole, or refused for a reason that the
stored rows have no part in; the counts tell how many of its keys were free.

* `batch`: the rows that an answer submits;
* `Store.batchRefusal?`, `Store.accepted`: why a batch fails, and what is taken of it;
* `Store.TakesCandles`: nothing but its size refuses a batch;
* `Importer.answer`: the rows that an importer gets for a pair;
* **`store_importRows`**, **`outcome_importRows`**: the store and the counts after an answer;
* `counts_of_importRows`, `outcome_importRows_eq_error`: the counts, and the refusal of the batch;
* `requestsOf`, `CandleSource.Quiet`, `requestsOf_importPair`: the requests that can be seen.
-/

namespace CandleArchive

/-- The rows that an answer for a pair submits. -/
def batch (symbol : String) (timeframe : Timeframe) (rows : List Row) : List CandleRow :=
  (candlesOf rows).map (CandleRow.ofCandle symbol timeframe)

/-- Why a batch fails, if it does; an empty one is not submitted. -/
def Store.batchRefusal? (store : Store) (new : List CandleRow) : Option StorageError :=
  if new = [] then none else store.refusal? (Store.insertCandles new)

/-- What is taken of a batch: all of it, or nothing. -/
def Store.accepted (store : Store) (new : List CandleRow) : List CandleRow :=
  if (store.batchRefusal? new).isNone then new else []

/-- The connection can be used, and the table of candles is there without guards. -/
structure Store.TakesCandles (store : Store) : Prop where
  ready : store.connection = .ready
  unguarded : store.candles.map Table.guards = some []

/-- The rows that the importer gets for a pair. -/
def Importer.answer (importer : Importer) (symbol : String) (timeframe : Timeframe) : List Row :=
  (importer.source ⟨symbol, timeframe, importer.limit⟩).rows

/-- The candle source that an event asks, and for what. -/
def Event.request? : Event → Option CandleRequest
  | asked request _ => some request
  | sent _ | logged _ => none

/-- The requests to candle sources among the events, in order. -/
def requestsOf (events : List Event) : List CandleRequest := events.filterMap Event.request?

/-- The source asks no other one. -/
def CandleSource.Quiet (source : CandleSource) : Prop :=
  ∀ request, requestsOf (source request).events = []

variable {symbol : String} {timeframe : Timeframe}

theorem pair_of_mem_batch {rows : List Row} {row : CandleRow}
    (h : row ∈ batch symbol timeframe rows) : row.symbol = symbol ∧ row.timeframe = timeframe.name := by
  obtain ⟨c, -, rfl⟩ := List.mem_map.mp h
  exact ⟨rfl, rfl⟩

theorem batch_nil : batch symbol timeframe [] = [] := rfl

theorem batch_eq_nil {rows : List Row} : batch symbol timeframe rows = [] ↔ candlesOf rows = [] :=
  List.map_eq_nil_iff

theorem length_batch (rows : List Row) :
    (batch symbol timeframe rows).length = (candlesOf rows).length :=
  List.length_map _

theorem length_candlesOf_le (rows : List Row) : (candlesOf rows).length ≤ rows.length :=
  List.length_filterMap_le _ _

namespace Store

theorem batchRefusal?_congr {s t : Store} (hc : s.connection = t.connection)
    (hl : s.valueLimit = t.valueLimit)
    (hg : s.candles.map Table.guards = t.candles.map Table.guards) (new : List CandleRow) :
    s.batchRefusal? new = t.batchRefusal? new := by
  unfold batchRefusal?
  rw [refusal?_insertCandles_congr hc hl hg]

@[simp] theorem batchRefusal?_addCandles (store : Store) (more new : List CandleRow) :
    (store.addCandles more).batchRefusal? new = store.batchRefusal? new :=
  batchRefusal?_congr (connection_addCandles more store) rfl (guards_addCandles more store) new

@[simp] theorem batchRefusal?_reconcile (now : Int) (store : Store) (ls : List Listing)
    (new : List CandleRow) :
    (reconcile now store ls).store.batchRefusal? new = store.batchRefusal? new :=
  batchRefusal?_congr (connection_reconcile now store ls) (valueLimit_reconcile now store ls)
    (by rw [candles_reconcile]) new

@[simp] theorem accepted_addCandles (store : Store) (more new : List CandleRow) :
    (store.addCandles more).accepted new = store.accepted new := by
  unfold accepted
  rw [batchRefusal?_addCandles]

@[simp] theorem accepted_reconcile (now : Int) (store : Store) (ls : List Listing)
    (new : List CandleRow) : (reconcile now store ls).store.accepted new = store.accepted new := by
  unfold accepted
  rw [batchRefusal?_reconcile]

theorem accepted_of_unrefused {store : Store} {new : List CandleRow}
    (h : store.batchRefusal? new = none) : store.accepted new = new := by
  rw [accepted, h]
  rfl

theorem accepted_of_refused {store : Store} {new : List CandleRow} {e : StorageError}
    (h : store.batchRefusal? new = some e) : store.accepted new = [] := by
  rw [accepted, h]
  rfl

theorem accepted_eq_or_nil (store : Store) (new : List CandleRow) :
    store.accepted new = new ∨ store.accepted new = [] := by
  rw [accepted]
  split_ifs
  · exact .inl rfl
  · exact .inr rfl

theorem mem_of_mem_accepted {store : Store} {new : List CandleRow} {row : CandleRow}
    (h : row ∈ store.accepted new) : row ∈ new := by
  rcases store.accepted_eq_or_nil new with ha | ha
  · exact ha ▸ h
  · rw [ha] at h
    cases h

theorem candles_isSome_of_accepted {store : Store} {new : List CandleRow}
    (h : store.accepted new ≠ []) : store.candles.isSome := by
  have hn : new ≠ [] := fun e => by
    rcases accepted_eq_or_nil store new with ha | ha
    · exact h (ha.trans e)
    · exact h ha
  have hr : store.batchRefusal? new = none := by
    by_contra hr
    rw [accepted, if_neg (by simpa using hr)] at h
    exact h rfl
  rw [batchRefusal?, if_neg hn, refusal?_insertCandles_eq_none] at hr
  obtain ⟨-, -, table, ht, -⟩ := hr
  simp [ht]

theorem candleRows_addCandles_accepted (store : Store) (new : List CandleRow) :
    (store.addCandles (store.accepted new)).candleRows =
      (store.accepted new).foldl CandleRow.addTo store.candleRows := by
  refine candleRows_addCandles ?_
  by_cases h : store.accepted new = []
  · exact .inr h
  · exact .inl (candles_isSome_of_accepted h)

theorem TakesCandles.batchRefusal?_eq_none {store : Store} (h : store.TakesCandles)
    {new : List CandleRow} (hfits : new.length ≤ store.batchLimit) :
    store.batchRefusal? new = none := by
  rw [batchRefusal?]
  split_ifs with hn
  · rfl
  · obtain ⟨table, ht, hg⟩ := Option.map_eq_some_iff.mp h.unguarded
    rw [refusal?_insertCandles_eq_none]
    exact ⟨h.ready, hfits, table, ht, by simp [hg]⟩

theorem batchRefusal?_of_oversize {store : Store} {new : List CandleRow}
    (hover : store.batchLimit < new.length) : ∃ e, store.batchRefusal? new = some e := by
  rw [← Option.isSome_iff_exists, ← Option.not_isNone, Bool.not_eq_true', Option.isNone_eq_false_iff,
    batchRefusal?, if_neg (List.ne_nil_of_length_pos (Nat.zero_lt_of_lt hover))]
  by_contra hnone
  rw [Option.not_isSome_iff_eq_none, refusal?_insertCandles_eq_none] at hnone
  exact absurd hnone.2.1 (Nat.not_le_of_lt hover)

theorem TakesCandles.accepted_eq {store : Store} (h : store.TakesCandles) {new : List CandleRow}
    (hfits : new.length ≤ store.batchLimit) : store.accepted new = new :=
  accepted_of_unrefused (h.batchRefusal?_eq_none hfits)

end Store

/-- The counts of an answer, before any row of it is stored. -/
def answerCounts (symbol : String) (timeframe : Timeframe) (rows : List Row) : ImportCounts where
  fetched := rows.length
  attempted := (batch symbol timeframe rows).length

theorem importRows_eq (rows : List Row) (store : Store) :
    (importRows symbol timeframe rows store).outcome =
        (match store.batchRefusal? (batch symbol timeframe rows) with
        | none => .ok { answerCounts symbol timeframe rows with
            written :=
              (firstPerKey CandleRow.key store.candleKeys (batch symbol timeframe rows)).length }
        | some e => .error (.candleWrite symbol timeframe e)) ∧
      (importRows symbol timeframe rows store).store =
        store.addCandles (store.accepted (batch symbol timeframe rows)) := by
  by_cases hr : rows = []
  · simp [importRows, hr, batch_nil, Store.batchRefusal?, Store.accepted, answerCounts, firstPerKey]
  have hf : (candlesOf rows).map (CandleRow.ofCandle symbol timeframe) =
      batch symbol timeframe rows := rfl
  rw [importRows, if_neg hr]
  by_cases hb : batch symbol timeframe rows = []
  · simp [hf, hb, Store.batchRefusal?, Store.accepted, answerCounts, firstPerKey]
  · simp only [hf, Store.accepted, Store.batchRefusal?, if_neg hb, Store.savepoint_insertCandles]
    cases store.refusal? (Store.insertCandles (batch symbol timeframe rows)) with
    | none => simp [answerCounts]
    | some e => simp

theorem outcome_importRows (rows : List Row) (store : Store) :
    (importRows symbol timeframe rows store).outcome =
      match store.batchRefusal? (batch symbol timeframe rows) with
      | none => .ok { answerCounts symbol timeframe rows with
          written :=
            (firstPerKey CandleRow.key store.candleKeys (batch symbol timeframe rows)).length }
      | some e => .error (.candleWrite symbol timeframe e) :=
  (importRows_eq rows store).1

/-- **The store after an answer**: what is taken of the batch is added. -/
theorem store_importRows (rows : List Row) (store : Store) :
    (importRows symbol timeframe rows store).store =
      store.addCandles (store.accepted (batch symbol timeframe rows)) :=
  (importRows_eq rows store).2

theorem counts_of_importRows {rows : List Row} {store : Store} {counts : ImportCounts}
    (h : (importRows symbol timeframe rows store).outcome = .ok counts) :
    counts.fetched = rows.length ∧ counts.attempted = (candlesOf rows).length ∧
      counts.written =
        (firstPerKey CandleRow.key store.candleKeys (batch symbol timeframe rows)).length := by
  rw [outcome_importRows] at h
  cases hr : store.batchRefusal? (batch symbol timeframe rows) with
  | some e => simp [hr] at h
  | none =>
    rw [hr] at h
    cases h
    exact ⟨rfl, length_batch rows, rfl⟩

theorem outcome_importRows_eq_error {rows : List Row} {store : Store} {e : ImportError} :
    (importRows symbol timeframe rows store).outcome = .error e ↔
      ∃ refusal, store.batchRefusal? (batch symbol timeframe rows) = some refusal ∧
        e = .candleWrite symbol timeframe refusal := by
  rw [outcome_importRows]
  cases store.batchRefusal? (batch symbol timeframe rows) with
  | none => simp
  | some refusal => simp [eq_comm]

theorem store_importPair (importer : Importer) (store : Store) (now : Nat) :
    (importer.importPair symbol timeframe store now).store =
      store.addCandles (store.accepted
        (batch symbol timeframe (importer.answer symbol timeframe))) :=
  store_importRows _ _

theorem requestsOf_append (events more : List Event) :
    requestsOf (events ++ more) = requestsOf events ++ requestsOf more :=
  List.filterMap_append

theorem requestsOf_logged (lines : List LogLine) : requestsOf (lines.map .logged) = [] := by
  simp [requestsOf, Event.request?, List.filterMap_map, Function.comp_def]

theorem requestsOf_importPair (importer : Importer) (store : Store) (now : Nat) :
    requestsOf (importer.importPair symbol timeframe store now).events =
      ⟨symbol, timeframe, importer.limit⟩ ::
        requestsOf (importer.source ⟨symbol, timeframe, importer.limit⟩).events := by
  rw [Importer.importPair, requestsOf_append, requestsOf_logged, List.append_nil]
  rfl

end CandleArchive
