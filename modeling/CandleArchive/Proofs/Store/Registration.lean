import CandleArchive.Proofs.Store.Rows
import Mathlib.Data.List.Nodup
import Mathlib.Tactic.Common

/-!
# Registration — what upserts of listings do to the table of assets

An upsert refreshes the row of its symbol where it stands, or adds a row at the end. Listings of
different symbols do not get in each other's way, so a whole list of them refreshes the stored rows in
place and adds one row for each symbol that is new.

* `AssetTable.refuses`, `Store.admits`: when an upsert is refused, and when it goes through;
* `Store.putListing`: the store after an upsert; **`upsertAsset_eq_ok`**: the statement that does it;
* `AssetRow.upsertAll`, `AssetRow.refreshBy`, `AssetRow.newRows`: the rows after several upserts, and
  the two parts they consist of;
* **`upsertAll_eq`**: the rows after upserts of different symbols;
* `AssetRow.Shows`, `shows_upsertAll`: listings whose upsert would change nothing.
-/

namespace CandleArchive

/-- The symbols of the stored assets. -/
def AssetTable.symbols (table : AssetTable) : List String := table.rows.map AssetRow.symbol

/-- A guard of the table is against an upsert of the listing. -/
def AssetTable.refuses (table : AssetTable) (l : Listing) : Bool :=
  table.guards.any (·.insert (AssetRow.ofListing 0 0 l).unstamped) ||
    table.rows.any fun row =>
      row.symbol = l.symbol ∧ table.guards.any (·.update row (row.refresh l))

namespace AssetRow

theorem any_symbol_eq {rows : List AssetRow} {symbol : String} :
    (rows.any fun row => decide (row.symbol = symbol)) = true ↔ symbol ∈ rows.map AssetRow.symbol := by
  simp only [List.any_eq_true, List.mem_map, decide_eq_true_eq]

@[simp] theorem symbol_refresh (l : Listing) (row : AssetRow) : (row.refresh l).symbol = row.symbol :=
  rfl

theorem refresh_refresh (l : Listing) (row : AssetRow) : (row.refresh l).refresh l = row.refresh l :=
  rfl

theorem refresh_ofListing (now : Int) (id : Nat) (l : Listing) :
    (ofListing now id l).refresh l = ofListing now id l := rfl

theorem unstamped_ofListing (now : Int) (id : Nat) (l : Listing) :
    (ofListing now id l).unstamped = (ofListing 0 0 l).unstamped := rfl

/-- The row refreshed by the listing of its symbol, if there is one. -/
def refreshBy (ls : List Listing) (row : AssetRow) : AssetRow :=
  match ls.find? (·.symbol = row.symbol) with
  | some l => row.refresh l
  | none => row

/-- The rows that register the listings, under the keys that follow `n`. -/
def newRows (now : Int) (n : Nat) : List Listing → List AssetRow
  | [] => []
  | l :: ls => ofListing now (n + 1) l :: newRows now (n + 1) ls

/-- The rows after an upsert of each listing in order. -/
def upsertAll (now : Int) (ls : List Listing) (rows : List AssetRow) : List AssetRow :=
  ls.foldl (fun rows l => upsertInto now l rows) rows

@[simp] theorem symbol_refreshBy (ls : List Listing) (row : AssetRow) :
    (row.refreshBy ls).symbol = row.symbol := by
  rw [refreshBy]
  split <;> rfl

theorem refreshBy_nil (row : AssetRow) : row.refreshBy [] = row := rfl

theorem refreshBy_cons (l : Listing) (ls : List Listing) (row : AssetRow) :
    row.refreshBy (l :: ls) = if l.symbol = row.symbol then row.refresh l else row.refreshBy ls := by
  by_cases h : l.symbol = row.symbol
  · simp [refreshBy, h]
  · simp [refreshBy, h]

theorem refreshBy_of_notMem {ls : List Listing} {row : AssetRow}
    (h : row.symbol ∉ ls.map Listing.symbol) : row.refreshBy ls = row := by
  induction ls with
  | nil => rfl
  | cons l ls ih =>
    rw [List.map_cons, List.mem_cons, not_or] at h
    rw [refreshBy_cons, if_neg (Ne.symm h.1), ih h.2]

theorem refreshBy_of_mem {ls : List Listing} (hd : (ls.map Listing.symbol).Nodup) {l : Listing}
    (hl : l ∈ ls) {row : AssetRow} (h : l.symbol = row.symbol) : row.refreshBy ls = row.refresh l := by
  induction ls with
  | nil => cases hl
  | cons m ls ih =>
    rw [List.map_cons, List.nodup_cons] at hd
    rw [refreshBy_cons]
    rcases List.mem_cons.mp hl with rfl | hl
    · rw [if_pos h]
    · rw [if_neg, ih hd.2 hl]
      intro hm
      exact hd.1 (List.mem_map.mpr ⟨l, hl, h.trans hm.symm⟩)

theorem mem_newRows {now : Int} {n : Nat} {ls : List Listing} {row : AssetRow}
    (h : row ∈ newRows now n ls) : ∃ l ∈ ls, ∃ id, row = ofListing now id l := by
  induction ls generalizing n with
  | nil => cases h
  | cons l ls ih =>
    rcases List.mem_cons.mp h with rfl | h
    · exact ⟨l, List.mem_cons_self, n + 1, rfl⟩
    · obtain ⟨m, hm, id, rfl⟩ := ih h
      exact ⟨m, List.mem_cons_of_mem l hm, id, rfl⟩

@[simp] theorem map_symbol_newRows (now : Int) (n : Nat) (ls : List Listing) :
    (newRows now n ls).map symbol = ls.map Listing.symbol := by
  induction ls generalizing n with
  | nil => rfl
  | cons l ls ih => simp [newRows, ih, ofListing]

@[simp] theorem length_newRows (now : Int) (n : Nat) (ls : List Listing) :
    (newRows now n ls).length = ls.length := by
  rw [← List.length_map symbol, map_symbol_newRows, List.length_map]

theorem upsertInto_of_mem {now : Int} {l : Listing} {rows : List AssetRow}
    (h : l.symbol ∈ rows.map symbol) : upsertInto now l rows = rows.map (refreshBy [l]) := by
  rw [upsertInto, if_pos (any_symbol_eq.mpr h)]
  refine List.map_congr_left fun row _ => ?_
  rw [refreshBy_cons, refreshBy_nil]
  exact if_congr eq_comm rfl rfl

theorem upsertInto_of_notMem {now : Int} {l : Listing} {rows : List AssetRow}
    (h : l.symbol ∉ rows.map symbol) :
    upsertInto now l rows = rows ++ newRows now rows.length [l] := by
  rw [upsertInto, if_neg (mt any_symbol_eq.mp h)]
  rfl

/-- **The rows after upserts of different symbols**: the stored rows refreshed in place, and a row
for each symbol that is new. -/
theorem upsertAll_eq (now : Int) {ls : List Listing} (hd : (ls.map Listing.symbol).Nodup)
    (rows : List AssetRow) :
    upsertAll now ls rows = rows.map (refreshBy ls) ++
      newRows now rows.length (ls.filter fun l => l.symbol ∉ rows.map symbol) := by
  induction ls generalizing rows with
  | nil =>
    simp [upsertAll, newRows, funext refreshBy_nil]
  | cons l ls ih =>
    rw [List.map_cons, List.nodup_cons] at hd
    rw [upsertAll, List.foldl_cons, ← upsertAll, ih hd.2]
    by_cases hl : l.symbol ∈ rows.map symbol
    · rw [upsertInto_of_mem hl, List.map_map, List.map_map, List.length_map,
        List.filter_cons_of_neg (by simpa using hl)]
      congr 1
      · refine List.map_congr_left fun row _ => ?_
        rw [Function.comp_apply, refreshBy_cons, refreshBy_cons, refreshBy_nil]
        split_ifs with hs
        · exact refreshBy_of_notMem (by rw [symbol_refresh, ← hs]; exact hd.1)
        · rfl
      · simp [Function.comp_def]
    · rw [upsertInto_of_notMem hl, List.filter_cons_of_pos (by simpa using hl), List.map_append,
        List.append_assoc]
      congr 1
      · refine List.map_congr_left fun row hr => ?_
        rw [refreshBy_cons, if_neg]
        intro hs
        exact hl (hs ▸ List.mem_map_of_mem hr)
      · have hnew : (ofListing now (rows.length + 1) l).refreshBy ls =
            ofListing now (rows.length + 1) l := refreshBy_of_notMem hd.1
        have hfil : (ls.filter fun m => m.symbol ∉ (rows ++ newRows now rows.length [l]).map symbol) =
            ls.filter fun m => m.symbol ∉ rows.map symbol := by
          refine List.filter_congr fun m hm => ?_
          have hne : m.symbol ≠ l.symbol := fun e => hd.1 (e ▸ List.mem_map_of_mem hm)
          simp [hne]
        rw [hfil]
        simp [newRows, hnew]

theorem filter_map_refreshBy (ls : List Listing) (rows : List AssetRow) (symbol : String) :
    (rows.map (refreshBy ls)).filter (fun row => row.symbol = symbol) =
      (rows.filter fun row => row.symbol = symbol).map (refreshBy ls) := by
  simp only [List.filter_map, Function.comp_def, symbol_refreshBy]

theorem filter_upsertInto_of_ne (now : Int) {l : Listing} {symbol : String} (h : l.symbol ≠ symbol)
    (rows : List AssetRow) :
    (upsertInto now l rows).filter (fun row => row.symbol = symbol) =
      rows.filter fun row => row.symbol = symbol := by
  by_cases hl : l.symbol ∈ rows.map AssetRow.symbol
  · rw [upsertInto_of_mem hl, filter_map_refreshBy]
    refine (List.map_congr_left fun row hrow => ?_).trans (List.map_id _)
    have hs : row.symbol = symbol := by simpa using (List.mem_filter.mp hrow).2
    exact refreshBy_of_notMem (by simpa [hs] using Ne.symm h)
  · have hnew : (newRows now rows.length [l]).filter (fun row => row.symbol = symbol) = [] := by
      simpa [newRows, ofListing] using h
    rw [upsertInto_of_notMem hl, List.filter_append, hnew, List.append_nil]

theorem length_upsertAll (now : Int) {ls : List Listing} (hd : (ls.map Listing.symbol).Nodup)
    (rows : List AssetRow) :
    (upsertAll now ls rows).length =
      rows.length + ls.countP fun l => l.symbol ∉ rows.map symbol := by
  rw [upsertAll_eq now hd, List.length_append, List.length_map, length_newRows,
    List.countP_eq_length_filter]

theorem map_symbol_upsertInto (now : Int) (l : Listing) (rows : List AssetRow) :
    (upsertInto now l rows).map symbol =
      if l.symbol ∈ rows.map symbol then rows.map symbol else rows.map symbol ++ [l.symbol] := by
  split_ifs with h
  · simp [upsertInto_of_mem h, Function.comp_def]
  · simp [upsertInto_of_notMem h]

theorem mem_map_symbol_upsertInto {now : Int} {l : Listing} {rows : List AssetRow} {s : String} :
    s ∈ (upsertInto now l rows).map symbol ↔ s = l.symbol ∨ s ∈ rows.map symbol := by
  rw [map_symbol_upsertInto]
  split_ifs with h
  · exact ⟨.inr, fun hs => hs.elim (fun e => e ▸ h) fun hs => hs⟩
  · rw [List.mem_append, List.mem_singleton, or_comm]

theorem mem_map_symbol_upsertAll {now : Int} {ls : List Listing} {rows : List AssetRow}
    {s : String} : s ∈ (upsertAll now ls rows).map symbol ↔
      s ∈ ls.map Listing.symbol ∨ s ∈ rows.map symbol := by
  induction ls generalizing rows with
  | nil => simp [upsertAll]
  | cons l ls ih =>
    rw [upsertAll, List.foldl_cons, ← upsertAll, ih, mem_map_symbol_upsertInto, List.map_cons,
      List.mem_cons]
    tauto

/-- The rows show the listing: an upsert of it would change none of them. -/
def Shows (rows : List AssetRow) (l : Listing) : Prop :=
  l.symbol ∈ rows.map symbol ∧ ∀ row ∈ rows, row.symbol = l.symbol → row.refresh l = row

theorem upsertInto_eq_self {now : Int} {l : Listing} {rows : List AssetRow} (h : Shows rows l) :
    upsertInto now l rows = rows := by
  rw [upsertInto_of_mem h.1]
  refine (List.map_congr_left fun row hr => ?_).trans (List.map_id rows)
  rw [refreshBy_cons, refreshBy_nil]
  split_ifs with hs
  · exact h.2 row hr hs.symm
  · rfl

/-- **After upserts of different symbols, every one of their listings shows.** -/
theorem shows_upsertAll {now : Int} {ls : List Listing} (hd : (ls.map Listing.symbol).Nodup)
    {l : Listing} (hl : l ∈ ls) (rows : List AssetRow) : Shows (upsertAll now ls rows) l := by
  rw [upsertAll_eq now hd]
  constructor
  · rw [List.map_append, map_symbol_newRows, List.map_map, List.mem_append]
    by_cases h : l.symbol ∈ rows.map symbol
    · exact .inl (by simpa [Function.comp_def] using h)
    · exact .inr (List.mem_map_of_mem (List.mem_filter.mpr ⟨hl, by simpa using h⟩))
  · intro row hrow hs
    rcases List.mem_append.mp hrow with h | h
    · obtain ⟨r, -, rfl⟩ := List.mem_map.mp h
      rw [refreshBy_of_mem hd hl (by simpa using hs.symm), refresh_refresh]
    · obtain ⟨m, hm, id, rfl⟩ := mem_newRows h
      have hml : m = l := List.inj_on_of_nodup_map hd (List.mem_filter.mp hm).1 hl hs
      rw [hml, refresh_ofListing]

end AssetRow

namespace Store

/-- An upsert of the listing goes through. -/
def admits (store : Store) (l : Listing) : Bool :=
  decide (store.connection = .ready) && store.assets.any fun table => !table.refuses l

theorem assets_isSome_of_admits {store : Store} {l : Listing} (h : store.admits l = true) :
    store.assets.isSome := by
  simp only [admits, Bool.and_eq_true, Option.any_eq_true] at h
  obtain ⟨-, table, ht, -⟩ := h
  simp [ht]

/-- The store after an upsert of the listing. -/
def putListing (now : Int) (store : Store) (l : Listing) : Store :=
  { store with
    assets := store.assets.map fun table =>
      { table with rows := AssetRow.upsertInto now l table.rows } }

@[simp] theorem connection_putListing (now : Int) (store : Store) (l : Listing) :
    (store.putListing now l).connection = store.connection := rfl

theorem assetTable_eq_ok {store : Store} {table : AssetTable} :
    store.assetTable = .ok table ↔ store.connection ≠ .closed ∧ store.assets = some table := by
  simp only [assetTable, bind_eq_ok, ← reach_eq_ok]
  constructor
  · rintro ⟨⟨⟩, hr, h⟩
    cases hs : store.assets with
    | none => simp [hs, throw, throwThe, MonadExceptOf.throw] at h
    | some t => exact ⟨hr, by rw [hs] at h; cases h; rfl⟩
  · rintro ⟨hr, ht⟩
    exact ⟨(), hr, by rw [ht]; rfl⟩

theorem upsert_eq_ok {now : Int} {l : Listing} {table after : AssetTable} :
    AssetTable.upsert now l table = .ok after ↔
      table.refuses l = false ∧
        after = { table with rows := AssetRow.upsertInto now l table.rows } := by
  have hr : (table.guards.any (·.insert (AssetRow.ofListing now 0 l).unstamped) = true ∨
      (table.rows.any fun row => decide (row.symbol = l.symbol ∧
        table.guards.any (·.update row (row.refresh l)) = true)) = true) ↔ table.refuses l = true := by
    rw [AssetRow.unstamped_ofListing, AssetTable.refuses, Bool.or_eq_true]
  rw [AssetTable.upsert]
  simp only [hr]
  split_ifs with h
  · simp [h]
  · simp [h, eq_comm]

/-- **The upsert of a listing**: it needs a usable connection, the table, and guards that let it
pass. -/
theorem upsertAsset_eq_ok {now : Int} {l : Listing} {store after : Store} {u : Unit} :
    store.upsertAsset now l = .ok (u, after) ↔
      store.connection ≠ .closed ∧ (store.assets.any fun table => !table.refuses l) = true ∧
        after = store.putListing now l := by
  simp only [upsertAsset, bind_eq_ok, assetTable_eq_ok, upsert_eq_ok]
  constructor
  · rintro ⟨table, ⟨hc, ht⟩, _, ⟨hr, rfl⟩, h⟩
    cases h
    simp [hc, ht, hr, putListing]
  · rintro ⟨hc, ha, rfl⟩
    obtain ⟨table, ht, hr⟩ := (Option.any_eq_true _ _).mp ha
    have hr : table.refuses l = false := by simpa using hr
    exact ⟨table, ⟨hc, ht⟩, _, ⟨hr, rfl⟩, by simp [putListing, ht, pure, Except.pure]⟩

theorem refusal?_upsertAsset_eq_none {now : Int} {l : Listing} {store : Store} :
    store.refusal? (upsertAsset now l) = none ↔ store.admits l = true := by
  simp only [refusal?_eq_none, savepoint_eq_ok, upsertAsset_eq_ok, admits, Bool.and_eq_true,
    decide_eq_true_eq]
  constructor
  · rintro ⟨u, after, -, ⟨-, ha, rfl⟩, hr⟩
    exact ⟨hr, ha⟩
  · rintro ⟨hr, ha⟩
    have hc : store.connection ≠ .closed := by simp [hr]
    exact ⟨(), _, hc, ⟨hc, ha, rfl⟩, hr⟩

theorem assetRows_putListing_of_admits {now : Int} {l : Listing} {store : Store}
    (h : store.admits l = true) :
    (store.putListing now l).assetRows = AssetRow.upsertInto now l store.assetRows := by
  obtain ⟨table, ht⟩ := Option.isSome_iff_exists.mp (assets_isSome_of_admits h)
  simp [putListing, assetRows, ht]

theorem admits_putListing {now : Int} {l m : Listing} {store : Store}
    (h : m.symbol ≠ l.symbol) : (store.putListing now l).admits m = store.admits m := by
  have hr : ∀ table : AssetTable,
      AssetTable.refuses { table with rows := AssetRow.upsertInto now l table.rows } m =
        table.refuses m := fun table => by
    have hany := congrArg (·.any fun row => table.guards.any (·.update row (row.refresh m)))
      (AssetRow.filter_upsertInto_of_ne now h.symm table.rows)
    simp only [List.any_filter] at hany
    simpa only [AssetTable.refuses, Bool.decide_and, Bool.decide_eq_true] using congrArg _ hany
  unfold admits
  rw [connection_putListing, putListing, Option.any_map]
  congr 2
  funext table
  rw [hr]

theorem putListing_eq_self {now : Int} {l : Listing} {store : Store}
    (h : AssetRow.Shows store.assetRows l) : store.putListing now l = store := by
  obtain ⟨connection, applied, assets, candles⟩ := store
  cases assets with
  | none => rfl
  | some table =>
    have hrows : AssetRow.upsertInto now l table.rows = table.rows := AssetRow.upsertInto_eq_self h
    simp [putListing, hrows]

end Store

end CandleArchive
