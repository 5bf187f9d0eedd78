import CandleArchive.Proofs.FirstPerKey
import CandleArchive.Proofs.Store.Rows

/-!
# Insertion — what a batch of candles does to the database

A batch is taken or refused as a whole. One that is taken leaves behind the first row of each free
key, under the next surrogate keys; every stored row stays where it is. Whether a batch is refused
depends on its size, the connection and the guards, never on the stored rows.

* `CandleRow.withoutId`, `CandleRow.numbered`, `CandleRow.eq_withId_of_mem_numbered`: rows without, and
  under new, surrogate keys;
* **`foldl_addTo`**: the rows after a batch;
* `Store.addCandles`: the store after a batch; `Store.candleKeys`: the keys that are taken;
* **`savepoint_insertCandles`**: the statement in a savepoint;
* `refusal?_insertCandles_congr`, `refusal?_insertCandles_eq_none`: what its refusal depends on.
-/

namespace CandleArchive

namespace CandleRow

/-- The row without its surrogate key. -/
def withoutId (row : CandleRow) : CandleRow := { row with id := 0 }

/-- The rows under the surrogate keys that follow `n`. -/
def numbered (n : Nat) : List CandleRow → List CandleRow
  | [] => []
  | row :: rows => { row with id := n + 1 } :: numbered (n + 1) rows

@[simp] theorem length_numbered (n : Nat) (rows : List CandleRow) :
    (numbered n rows).length = rows.length := by
  induction rows generalizing n with
  | nil => rfl
  | cons row rows ih => simp [numbered, ih]

theorem map_numbered {β : Type} {f : CandleRow → β} (hf : ∀ row id, f { row with id } = f row)
    (n : Nat) (rows : List CandleRow) : (numbered n rows).map f = rows.map f := by
  induction rows generalizing n with
  | nil => rfl
  | cons row rows ih => simp [numbered, ih, hf]

@[simp] theorem map_key_numbered (n : Nat) (rows : List CandleRow) :
    (numbered n rows).map key = rows.map key := map_numbered (fun _ _ => rfl) n rows

@[simp] theorem map_withoutId_numbered (n : Nat) (rows : List CandleRow) :
    (numbered n rows).map withoutId = rows.map withoutId := map_numbered (fun _ _ => rfl) n rows

theorem eq_withId_of_mem_numbered {n : Nat} {rows : List CandleRow} {row : CandleRow}
    (h : row ∈ numbered n rows) : ∃ new ∈ rows, ∃ id, row = { new with id } := by
  induction rows generalizing n with
  | nil => cases h
  | cons new rows ih =>
    rcases List.mem_cons.mp h with rfl | h
    · exact ⟨new, List.mem_cons_self, n + 1, rfl⟩
    · obtain ⟨other, ho, id, rfl⟩ := ih h
      exact ⟨other, List.mem_cons_of_mem new ho, id, rfl⟩

theorem map_withoutId_filter_numbered {p : CandleRow → Bool}
    (hp : ∀ row id, p { row with id } = p row) (n : Nat) (rows : List CandleRow) :
    ((numbered n rows).filter p).map withoutId = (rows.filter p).map withoutId := by
  induction rows generalizing n with
  | nil => rfl
  | cons row rows ih =>
    rw [numbered, List.filter_cons, List.filter_cons, hp]
    split_ifs
    · rw [List.map_cons, List.map_cons, ih]
      rfl
    · exact ih (n + 1)

theorem any_key_eq {rows : List CandleRow} {new : CandleRow} :
    (rows.any fun row => decide (row.key = new.key)) = true ↔ new.key ∈ rows.map key := by
  simp only [List.any_eq_true, List.mem_map, decide_eq_true_eq]

/-- **The rows after a batch**: the first row of each free key, after the stored rows. -/
theorem foldl_addTo (rows new : List CandleRow) :
    new.foldl addTo rows =
      rows ++ numbered rows.length (firstPerKey key (rows.map key) new) := by
  induction new generalizing rows with
  | nil => simp [firstPerKey, numbered]
  | cons r new ih =>
    rw [List.foldl_cons, ih, addTo]
    by_cases hr : r.key ∈ rows.map key
    · rw [if_pos (any_key_eq.mpr hr), firstPerKey, if_pos hr]
    · rw [if_neg (mt any_key_eq.mp hr), firstPerKey, if_neg hr]
      have hk : firstPerKey key ((rows ++ [{ r with id := rows.length + 1 }]).map key) new =
          firstPerKey key (r.key :: rows.map key) new :=
        firstPerKey_congr fun a _ => by
          rw [List.map_append, List.mem_append, List.mem_cons, or_comm]
          exact or_congr_left List.mem_singleton
      rw [hk, List.length_append, List.append_assoc]
      rfl

theorem map_key_foldl_addTo (rows new : List CandleRow) :
    (new.foldl addTo rows).map key = rows.map key ++ (firstPerKey key (rows.map key) new).map key := by
  rw [foldl_addTo, List.map_append, map_key_numbered]

theorem foldl_addTo_eq_self {rows new : List CandleRow} (h : ∀ row ∈ new, row.key ∈ rows.map key) :
    new.foldl addTo rows = rows := by
  rw [foldl_addTo, firstPerKey_eq_nil h, numbered, List.append_nil]

end CandleRow

namespace Store

/-- The keys of the stored candles. -/
def candleKeys (store : Store) : List CandleKey := store.candleRows.map CandleRow.key

/-- The store after a batch of candles that is taken. -/
def addCandles (new : List CandleRow) (store : Store) : Store :=
  { store with
    candles := store.candles.map fun table =>
      { table with rows := new.foldl CandleRow.addTo table.rows } }

@[simp] theorem connection_addCandles (new : List CandleRow) (store : Store) :
    (store.addCandles new).connection = store.connection := rfl

@[simp] theorem assets_addCandles (new : List CandleRow) (store : Store) :
    (store.addCandles new).assets = store.assets := rfl

@[simp] theorem addCandles_nil (store : Store) : store.addCandles [] = store := by
  simp [addCandles]

theorem addCandles_append (new more : List CandleRow) (store : Store) :
    store.addCandles (new ++ more) = (store.addCandles new).addCandles more := by
  simp [addCandles, Function.comp_def]

theorem guards_addCandles (new : List CandleRow) (store : Store) :
    (store.addCandles new).candles.map Table.guards = store.candles.map Table.guards := by
  simp [addCandles, Function.comp_def]

theorem candleRows_addCandles {store : Store} {new : List CandleRow}
    (h : store.candles.isSome ∨ new = []) :
    (store.addCandles new).candleRows = new.foldl CandleRow.addTo store.candleRows := by
  rcases h with h | rfl
  · obtain ⟨table, ht⟩ := Option.isSome_iff_exists.mp h
    simp [addCandles, candleRows, ht]
  · rw [addCandles_nil, List.foldl_nil]

theorem addCandles_eq_self {store : Store} {new : List CandleRow}
    (h : ∀ row ∈ new, row.key ∈ store.candleKeys) : store.addCandles new = store := by
  obtain ⟨connection, applied, assets, candles⟩ := store
  cases candles with
  | none => rfl
  | some table =>
    have hrows : new.foldl CandleRow.addTo table.rows = table.rows :=
      CandleRow.foldl_addTo_eq_self h
    simp [addCandles, hrows]

theorem candleTable_eq_ok {store : Store} {table : CandleTable} :
    store.candleTable = .ok table ↔ store.connection ≠ .closed ∧ store.candles = some table := by
  simp only [candleTable, bind_eq_ok, ← reach_eq_ok]
  constructor
  · rintro ⟨⟨⟩, hr, h⟩
    cases hs : store.candles with
    | none => simp [hs, throw, throwThe, MonadExceptOf.throw] at h
    | some t => exact ⟨hr, by rw [hs] at h; cases h; rfl⟩
  · rintro ⟨hr, ht⟩
    exact ⟨(), hr, by rw [ht]; rfl⟩

theorem insertNew_eq_ok {table after : CandleTable} {new : List CandleRow} {n : Nat} :
    CandleTable.insertNew new table = .ok (n, after) ↔
      (∀ row ∈ new, ∀ guard ∈ table.guards, guard.insert row = false) ∧
      n = (firstPerKey CandleRow.key (table.rows.map CandleRow.key) new).length ∧
      after = { table with rows := new.foldl CandleRow.addTo table.rows } := by
  have hlen : (new.foldl CandleRow.addTo table.rows).length - table.rows.length =
      (firstPerKey CandleRow.key (table.rows.map CandleRow.key) new).length := by
    rw [CandleRow.foldl_addTo, List.length_append, CandleRow.length_numbered]
    omega
  have hany : (new.any fun row => table.guards.any (·.insert row)) = false ↔
      ∀ row ∈ new, ∀ guard ∈ table.guards, guard.insert row = false := by
    simp only [List.any_eq_false, Bool.not_eq_true]
  rw [← hany, CandleTable.insertNew]
  split_ifs with h
  · simp [h]
  · simp only [hlen, Except.ok.injEq, Prod.mk.injEq]
    simp only [Bool.not_eq_true] at h
    simp [h, eq_comm]

theorem prepare_eq_ok {store : Store} {count : Nat} :
    store.prepare count = .ok () ↔ store.connection ≠ .closed ∧ count ≤ store.batchLimit := by
  simp only [prepare, bind_eq_ok, ← reach_eq_ok, ← Nat.not_lt]
  constructor
  · rintro ⟨⟨⟩, hr, h⟩
    refine ⟨hr, fun hlt => ?_⟩
    rw [if_pos hlt] at h
    cases h
  · rintro ⟨hr, hle⟩
    exact ⟨(), hr, if_neg hle⟩

/-- **The statement that inserts candles**: it needs a usable connection, a batch that one statement
takes, the table, and guards that let every row pass. -/
theorem insertCandles_eq_ok {store after : Store} {new : List CandleRow} {n : Nat} :
    store.insertCandles new = .ok (n, after) ↔
      store.connection ≠ .closed ∧ new.length ≤ store.batchLimit ∧
      (∃ table, store.candles = some table ∧
        ∀ row ∈ new, ∀ guard ∈ table.guards, guard.insert row = false) ∧
      n = (firstPerKey CandleRow.key store.candleKeys new).length ∧ after = store.addCandles new := by
  simp only [insertCandles, bind_eq_ok, candleTable_eq_ok]
  constructor
  · rintro ⟨⟨⟩, hp, table, ⟨hc, ht⟩, ⟨m, t⟩, hi, h⟩
    cases h
    obtain ⟨hg, rfl, rfl⟩ := insertNew_eq_ok.mp hi
    refine ⟨hc, (prepare_eq_ok.mp hp).2, ⟨table, ht, hg⟩, ?_, ?_⟩
    · simp [candleKeys, candleRows, ht]
    · simp [addCandles, ht]
  · rintro ⟨hc, hl, ⟨table, ht, hg⟩, rfl, rfl⟩
    refine ⟨(), prepare_eq_ok.mpr ⟨hc, hl⟩, table, ⟨hc, ht⟩, _, insertNew_eq_ok.mpr ⟨hg, rfl, rfl⟩, ?_⟩
    simp [candleKeys, candleRows, addCandles, ht, pure, Except.pure]

theorem refusal?_insertCandles_eq_none {store : Store} {new : List CandleRow} :
    store.refusal? (insertCandles new) = none ↔
      store.connection = .ready ∧ new.length ≤ store.batchLimit ∧
        ∃ table, store.candles = some table ∧
          ∀ row ∈ new, ∀ guard ∈ table.guards, guard.insert row = false := by
  simp only [refusal?_eq_none, savepoint_eq_ok, insertCandles_eq_ok]
  constructor
  · rintro ⟨n, after, -, ⟨-, hl, ht, -, rfl⟩, hr⟩
    exact ⟨hr, hl, ht⟩
  · rintro ⟨hr, hl, ht⟩
    have hc : store.connection ≠ .closed := by simp [hr]
    exact ⟨_, _, hc, ⟨hc, hl, ht, rfl, rfl⟩, hr⟩

/-- **The statement in a savepoint.** A batch that is not refused is counted and added. -/
theorem savepoint_insertCandles (store : Store) (new : List CandleRow) :
    store.savepoint (insertCandles new) =
      match store.refusal? (insertCandles new) with
      | none => .ok ((firstPerKey CandleRow.key store.candleKeys new).length, store.addCandles new)
      | some e => .error e := by
  cases h : store.refusal? (insertCandles new) with
  | some e => exact refusal?_eq_some.mp h
  | none =>
    obtain ⟨n, after, hs⟩ := refusal?_eq_none.mp h
    obtain ⟨-, hi, -⟩ := savepoint_eq_ok.mp hs
    obtain ⟨-, -, -, rfl, rfl⟩ := insertCandles_eq_ok.mp hi
    exact hs

theorem refusal?_insertCandles_congr {s t : Store} (hc : s.connection = t.connection)
    (hl : s.valueLimit = t.valueLimit)
    (hg : s.candles.map Table.guards = t.candles.map Table.guards) (new : List CandleRow) :
    s.refusal? (insertCandles new) = t.refusal? (insertCandles new) := by
  obtain ⟨c, sa, sas, scs, limit⟩ := s
  obtain ⟨c', ta, tas, tcs, limit'⟩ := t
  simp only at hc hl hg
  subst hc hl
  cases scs with
  | none =>
    obtain rfl : tcs = none := by simpa using hg.symm
    cases c <;> rfl
  | some table =>
    obtain ⟨table', rfl, hg'⟩ := Option.map_eq_some_iff.mp hg.symm
    by_cases hl : limit / CandleRow.width < new.length
    · cases c <;> simp [refusal?, savepoint, startTransaction, reach, insertCandles, prepare,
        batchLimit, bind, Except.bind, throw, throwThe, MonadExceptOf.throw, hl]
    cases hr : new.any fun row => table.guards.any (·.insert row) <;>
      cases c <;> simp [refusal?, savepoint, startTransaction, reach, commit, insertCandles, prepare,
        batchLimit, candleTable, CandleTable.insertNew, bind, Except.bind, pure, Except.pure, hg',
        hr, hl]

end Store

end CandleArchive
