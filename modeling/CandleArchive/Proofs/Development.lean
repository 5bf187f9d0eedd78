import CandleArchive.Proofs.Store.Columns
import CandleArchive.Proofs.WriteOnce

/-!
# Development — the record of migrations and the tables keep step

Migrations go up and down in any order, and rows come between them. The record of what was applied
is always the beginning of the list of migrations, and each table is there just when its migration
is on record, in the shape that it had the first time. So nothing that is dropped is missing, and
every unique index that a write relies on is in place, and respected by the rows.

* `Store.table?`, `ArchiveTable.values`: the table of a migration, and its rows in some columns;
* `Store.InStep`: the record and the tables agree;
* `MigrationCommand.takesBack`, `MigrationCommand.Carried`: what a command drops and what it leaves;
* `DatabaseStep`, `Store.developed`: commands and inserts, and a history of them;
* `inStep_up`, `inStep_foldl_up`, `inStep_down`, `foldlM_down`: one migration and several;
* **`migrate_of_inStep`**, `DatabaseStep.attempt_of_fits`, `DatabaseStep.inStep_keyed_perform`,
  `DatabaseStep.keeps_attempt`: one step;
* **`migrations_keep_step`**: a history.
-/

namespace CandleArchive

/-- Either table of the archive. -/
abbrev ArchiveTable := AssetTable ⊕ CandleTable

namespace ArchiveTable

/-- The shape of the table. -/
def schema : ArchiveTable → Schema := Sum.elim Table.schema Table.schema

/-- The values of the rows in the given columns. -/
def values (columns : List String) : ArchiveTable → List (List (Option Cell)) :=
  Sum.elim (fun table => table.rows.map fun row => valuesAt columns row.cells)
    fun table => table.rows.map fun row => valuesAt columns row.cells

/-- The table without its rows. -/
def emptied : ArchiveTable → ArchiveTable :=
  Sum.map (fun table => { table with rows := [] }) fun table => { table with rows := [] }

end ArchiveTable

/-- The columns of the schema that a unique index keeps from repeating. -/
def Schema.UniqueOn (schema : Schema) (columns : List String) : Prop :=
  ∃ index ∈ schema.indexes, index.unique = true ∧ index.columns = columns

namespace Store

/-- The table of the migration, if it is there. -/
def table? (store : Store) : Migration → Option ArchiveTable
  | .createAssets => store.assets.map .inl
  | .createCandles => store.candles.map .inr

/-- The applied migrations are the first ones of the list, and each table is there just when its
migration is applied, rows aside as a first run of all migrations creates it. -/
structure InStep (store : Store) : Prop where
  ready : store.connection = .ready
  applied : store.applied <+: Migration.all
  tables : ∀ m, (store.table? m).map ArchiveTable.emptied =
    if m ∈ store.applied then migrated.table? m else none

end Store

/-- The migrations that a command takes back, the last one first. -/
def MigrationCommand.takesBack (store : Store) : MigrationCommand → List Migration
  | up _ => []
  | down count => Store.firstSteps count store.applied.reverse
  | refresh | reset => store.applied.reverse

/-- The record that a command leaves. -/
def MigrationCommand.record (store : Store) : MigrationCommand → List Migration
  | up count => store.applied ++ Store.firstSteps count store.pending
  | down count => store.applied.take (store.applied.length - count.getD store.applied.length)
  | refresh => Migration.all
  | reset => []

/-- The record is the one that the command leaves. The table of a migration that stays applied is
kept, and that of one that comes, or comes again, is as after a first run, without rows. -/
structure MigrationCommand.Carried (command : MigrationCommand) (store next : Store) : Prop where
  applied : next.applied = command.record store
  tables : ∀ m, next.table? m =
    if m ∈ next.applied then
      if m ∈ store.applied ∧ m ∉ command.takesBack store then store.table? m
      else (Store.migrated.table? m).map ArchiveTable.emptied
    else none

/-- A step in the life of a database: a command on its migrations, or an insert of rows. -/
inductive DatabaseStep where
  | migrating (command : MigrationCommand)
  | insertingAsset (now : Int) (draft : AssetDraft)
  | insertingCandle (row : CandleRow)
  | upsertingAsset (now : Int) (l : Listing)
  | insertingCandles (new : List CandleRow)

namespace DatabaseStep

/-- The database after the step, or why the step is refused. -/
def attempt (store : Store) : DatabaseStep → Except StorageError Store
  | migrating command => store.migrate command
  | insertingAsset now draft => store.insertAsset now draft
  | insertingCandle row => store.insertCandle row
  | upsertingAsset now l => do return (← store.upsertAsset now l).2
  | insertingCandles new => do return (← store.insertCandles new).2

/-- The database after the step; one that is refused changes nothing. -/
def perform (store : Store) (step : DatabaseStep) : Store :=
  match step.attempt store with
  | .ok next => next
  | .error _ => store

/-- The migrations that the step takes back. -/
def takesBack (store : Store) : DatabaseStep → List Migration
  | migrating command => command.takesBack store
  | insertingAsset .. | insertingCandle .. | upsertingAsset .. | insertingCandles .. => []

/-- The rows of the table of the migration are still there after the step. An upsert may refresh the
asset of its symbol. -/
def Keeps (step : DatabaseStep) (store next : Store) : Migration → Prop
  | .createAssets => ∀ row ∈ store.assetRows, row ∈ next.assetRows ∨
    ∃ now l, step = upsertingAsset now l ∧ l.symbol = row.symbol ∧
      ∃ successor ∈ next.assetRows, row.Succeeds successor
  | .createCandles => store.candleRows <+: next.candleRows

/-- The rows of the step go into a table that is there, no more of them than one statement takes; a
plain insert brings all values that have no default, under a key that is free. -/
def Fits (store : Store) : DatabaseStep → Prop
  | migrating _ => True
  | insertingAsset _ draft =>
    (store.table? .createAssets).isSome ∧ draft.name.isSome ∧
      ∃ symbol ∉ store.assetRows.map AssetRow.symbol, draft.symbol = some symbol
  | insertingCandle row => (store.table? .createCandles).isSome ∧ row.key ∉ store.candleKeys
  | upsertingAsset .. => (store.table? .createAssets).isSome
  | insertingCandles new => (store.table? .createCandles).isSome ∧ new.length ≤ store.batchLimit

end DatabaseStep

/-- The database after a history of steps. -/
def Store.developed (store : Store) (history : List DatabaseStep) : Store :=
  history.foldl DatabaseStep.perform store

variable {store next : Store} {m : Migration}

/-! ## Migrations one after another -/

theorem Migration.nodup_all : Migration.all.Nodup := by decide

theorem Migration.mem_all (m : Migration) : m ∈ Migration.all := by
  cases m <;> decide

theorem Migration.notMem_of_prefix {pre ms : List Migration} (h : pre ++ ms <+: Migration.all)
    (hm : m ∈ ms) : m ∉ pre := fun hp =>
  List.disjoint_of_nodup_append (nodup_all.sublist h.sublist) hp hm

theorem isSome_table?_migrated (m : Migration) : (Store.migrated.table? m).isSome = true := by
  cases m <;> rfl

@[simp] theorem emptied_table?_migrated (m : Migration) :
    (Store.migrated.table? m).map ArchiveTable.emptied = Store.migrated.table? m := by
  cases m <;> rfl

namespace Store

theorem InStep.isSome_table? (h : store.InStep) (m : Migration) :
    (store.table? m).isSome ↔ m ∈ store.applied := by
  have ht := congrArg Option.isSome (h.tables m)
  rw [Option.isSome_map] at ht
  rw [ht]
  split_ifs with hm
  · simp [hm, isSome_table?_migrated]
  · simp [hm]

theorem InStep.table?_eq_none (h : store.InStep) (hm : m ∉ store.applied) :
    store.table? m = none := by
  rw [← Option.not_isSome_iff_eq_none, h.isSome_table?]
  exact hm

theorem table?_up (h : store.table? m = none) (m' : Migration) :
    (m.up store).table? m' = if m' = m then migrated.table? m' else store.table? m' := by
  obtain ⟨connection, applied, assets, candles⟩ := store
  cases m with
  | createAssets =>
    obtain rfl : assets = none := Option.map_eq_none_iff.mp h
    cases m' <;> rfl
  | createCandles =>
    obtain rfl : candles = none := Option.map_eq_none_iff.mp h
    cases m' <;> rfl

theorem applied_up (store : Store) (m : Migration) :
    (m.up store).applied = store.applied ++ [m] := by
  cases m <;> rfl

theorem connection_up (store : Store) (m : Migration) :
    (m.up store).connection = store.connection := by
  cases m <;> rfl

theorem down_eq_ok (h : (store.table? m).isSome) :
    ∃ next, m.down store = .ok next ∧ next.connection = store.connection ∧
      next.applied = store.applied.filter (· ≠ m) ∧
      ∀ m', next.table? m' = if m' = m then none else store.table? m' := by
  obtain ⟨connection, applied, assets, candles⟩ := store
  cases m with
  | createAssets =>
    obtain ⟨table, rfl⟩ : ∃ table, assets = some table :=
      Option.isSome_iff_exists.mp ((Option.isSome_map (f := Sum.inl)).symm.trans h)
    exact ⟨_, rfl, rfl, rfl, fun m' => by cases m' <;> rfl⟩
  | createCandles =>
    obtain ⟨table, rfl⟩ : ∃ table, candles = some table :=
      Option.isSome_iff_exists.mp ((Option.isSome_map (f := Sum.inr)).symm.trans h)
    exact ⟨_, rfl, rfl, rfl, fun m' => by cases m' <;> rfl⟩

theorem inStep_up (h : store.InStep) (hm : store.applied ++ [m] <+: Migration.all) :
    (m.up store).InStep := by
  have hnew : m ∉ store.applied := Migration.notMem_of_prefix hm List.mem_cons_self
  refine ⟨?_, ?_, fun m' => ?_⟩
  · rw [connection_up, h.ready]
  · rwa [applied_up]
  · rw [table?_up (h.table?_eq_none hnew), applied_up]
    by_cases he : m' = m
    · simp [he, emptied_table?_migrated]
    · simp [he, h.tables m']

theorem inStep_down {pre : List Migration} (h : store.InStep) (hm : store.applied = pre ++ [m]) :
    ∃ next, m.down store = .ok next ∧ next.InStep ∧ next.applied = pre ∧
      ∀ m', next.table? m' = if m' = m then none else store.table? m' := by
  have hin : m ∈ store.applied := by simp [hm]
  have hout : m ∉ pre := Migration.notMem_of_prefix (hm ▸ h.applied) List.mem_cons_self
  obtain ⟨next, hd, hc, ha, ht⟩ := down_eq_ok ((h.isSome_table? m).mpr hin)
  have hpre : next.applied = pre := by
    rw [ha, hm, List.filter_append]
    simpa using fun a hp (e : a = m) => hout (e ▸ hp)
  refine ⟨next, hd, ⟨?_, ?_, fun m' => ?_⟩, hpre, ht⟩
  · rw [hc, h.ready]
  · rw [hpre]
    exact (List.prefix_append pre [m]).trans (hm ▸ h.applied)
  · rw [ht, hpre]
    by_cases he : m' = m
    · simp [he, hout]
    · simp [he, h.tables m', hm]

/-- **Several migrations up** create the tables that are missing. -/
theorem inStep_foldl_up (h : store.InStep) {ms : List Migration}
    (hms : store.applied ++ ms <+: Migration.all) :
    let next := ms.foldl Migration.up store
    next.InStep ∧ next.applied = store.applied ++ ms ∧
      ∀ m, next.table? m = if m ∈ ms then migrated.table? m else store.table? m := by
  -- each migration goes up from the store that the ones before it leave
  induction ms generalizing store with
  | nil => simp [h]
  | cons a ms ih =>
    have hsplit : store.applied ++ a :: ms = (store.applied ++ [a]) ++ ms := by simp
    have hnew : a ∉ store.applied := Migration.notMem_of_prefix hms List.mem_cons_self
    have hone : (a.up store).InStep :=
      inStep_up h ((List.prefix_append _ ms).trans (hsplit ▸ hms))
    obtain ⟨hin, happlied, htables⟩ := ih hone (by rwa [applied_up, ← hsplit])
    refine ⟨hin, ?_, fun m => ?_⟩
    · rw [List.foldl_cons, happlied, applied_up, hsplit]
    · rw [List.foldl_cons, htables, table?_up (h.table?_eq_none hnew)]
      by_cases hm : m ∈ ms
      · simp [hm]
      · by_cases he : m = a <;> simp [hm, he]

/-- **Several migrations down**, the last one first, succeed and drop their tables. -/
theorem foldlM_down (h : store.InStep) {pre ms : List Migration}
    (hms : store.applied = pre ++ ms.reverse) :
    ∃ next, ms.foldlM Migration.down store = .ok next ∧ next.InStep ∧ next.applied = pre ∧
      ∀ m, next.table? m = if m ∈ ms then none else store.table? m := by
  induction ms generalizing store with
  | nil => exact ⟨store, rfl, h, by simpa using hms, by simp⟩
  | cons a ms ih =>
    rw [List.reverse_cons, ← List.append_assoc] at hms
    obtain ⟨mid, hd, hin, happlied, ht⟩ := inStep_down h hms
    obtain ⟨next, hrest, hnext, hpre, htables⟩ := ih hin happlied
    refine ⟨next, ?_, hnext, hpre, fun m => ?_⟩
    · rw [List.foldlM_cons, hd]
      exact hrest
    · rw [htables, ht]
      by_cases hm : m ∈ ms <;> by_cases he : m = a <;> simp [hm, he]

end Store

/-! ## Commands -/

theorem MigrationCommand.record_append_takesBack (store : Store) (count : Option Nat) :
    (MigrationCommand.down count).record store ++
      ((MigrationCommand.down count).takesBack store).reverse = store.applied := by
  cases count with
  | none => simp [MigrationCommand.record, MigrationCommand.takesBack, Store.firstSteps]
  | some n =>
    rw [MigrationCommand.record, MigrationCommand.takesBack, Store.firstSteps, List.reverse_take,
      List.length_reverse, List.reverse_reverse]
    exact List.take_append_drop _ _

theorem MigrationCommand.mem_record {command : MigrationCommand} (hm : m ∈ store.applied)
    (hn : m ∉ command.takesBack store) : m ∈ command.record store := by
  cases command with
  | up count => exact List.mem_append_left _ hm
  | down count =>
    rw [← record_append_takesBack store count, List.mem_append, List.mem_reverse] at hm
    exact hm.resolve_right hn
  | refresh => simpa [record] using Migration.mem_all m
  | reset => exact absurd (List.mem_reverse.mpr hm) hn

namespace Store

theorem firstSteps_prefix (count : Option Nat) (steps : List Migration) :
    firstSteps count steps <+: steps := by
  cases count with
  | none => exact List.prefix_refl _
  | some n => exact List.take_prefix n steps

/-- **What is applied and what is pending** make up the whole list. -/
theorem InStep.applied_append_pending (h : store.InStep) :
    store.applied ++ store.pending = Migration.all := by
  obtain ⟨rest, hrest⟩ := h.applied
  have hold : store.applied.filter (· ∉ store.applied) = [] := by simp
  have hnew : rest.filter (· ∉ store.applied) = rest :=
    List.filter_eq_self.mpr fun m hm =>
      decide_eq_true (Migration.notMem_of_prefix (hrest ▸ List.prefix_refl _) hm)
  rw [pending, ← hrest, List.filter_append, hold, hnew, List.nil_append]

theorem migrateUp_of_inStep (h : store.InStep) (count : Option Nat) :
    (store.migrateUp count).InStep ∧
      (MigrationCommand.up count).Carried store (store.migrateUp count) := by
  have hms : store.applied ++ firstSteps count store.pending <+: Migration.all := by
    rw [← h.applied_append_pending, List.prefix_append_right_inj]
    exact firstSteps_prefix count store.pending
  obtain ⟨hin, happlied, htables⟩ := inStep_foldl_up h hms
  have ha : (store.migrateUp count).applied = _ := happlied
  refine ⟨hin, ha, fun m => ?_⟩
  have ht : (store.migrateUp count).table? m = _ := htables m
  rw [ht, ha]
  by_cases hnew : m ∈ firstSteps count store.pending
  · simp [hnew, Migration.notMem_of_prefix hms hnew]
  · by_cases hold : m ∈ store.applied
    · simp [hnew, hold, MigrationCommand.takesBack]
    · simp [hnew, hold, h.table?_eq_none hold]

theorem migrateDown_of_inStep (h : store.InStep) (count : Option Nat) :
    ∃ next, store.migrateDown count = .ok next ∧ next.InStep ∧
      (MigrationCommand.down count).Carried store next := by
  have hms := MigrationCommand.record_append_takesBack store count
  obtain ⟨next, hd, hin, happlied, htables⟩ := foldlM_down h hms.symm
  refine ⟨next, hd, hin, happlied, fun m => ?_⟩
  rw [htables, happlied]
  by_cases hgone : m ∈ (MigrationCommand.down count).takesBack store
  · have hout : m ∉ (MigrationCommand.down count).record store :=
      Migration.notMem_of_prefix (hms ▸ h.applied) (List.mem_reverse.mpr hgone)
    simp only [hgone, hout, if_true, if_false]
  · have hkept : m ∈ (MigrationCommand.down count).record store ↔ m ∈ store.applied := by
      conv => rhs; rw [← hms]
      rw [List.mem_append, List.mem_reverse, or_iff_left hgone]
    by_cases hold : m ∈ store.applied
    · simp [hgone, hold, hkept.mpr hold]
    · simp [hgone, mt hkept.mp hold, h.table?_eq_none hold]

theorem migrate_of_inStep (h : store.InStep) (command : MigrationCommand) :
    ∃ next, store.migrate command = .ok next ∧ next.InStep ∧ command.Carried store next := by
  have hreach : store.reach = .ok () := reach_eq_ok.mpr (by simp [h.ready])
  -- a reset leaves the `bare` database, and a refresh goes up again from there
  obtain ⟨bare, hd, hbare, happlied, htables⟩ := migrateDown_of_inStep h none
  have hnil : bare.applied = [] := by simpa [MigrationCommand.record] using happlied
  simp only [migrate, hreach, bind, Except.bind]
  cases command with
  | up count => exact ⟨_, rfl, migrateUp_of_inStep h count⟩
  | down count => exact migrateDown_of_inStep h count
  | reset => exact ⟨bare, hd, hbare, hnil, htables⟩
  | refresh =>
    obtain ⟨hin, hrecord, hall⟩ := migrateUp_of_inStep hbare none
    refine ⟨_, by rw [develop, hd]; rfl, hin, ?_, fun m => ?_⟩
    · rw [hrecord]
      exact hbare.applied_append_pending
    · have hm := hall m
      rw [hnil] at hm
      rw [hm]
      simp [MigrationCommand.takesBack]

theorem carried_of_migrate (h : store.InStep) {command : MigrationCommand}
    (hm : store.migrate command = .ok next) : command.Carried store next := by
  obtain ⟨after, hm', -, hcarried⟩ := migrate_of_inStep h command
  rwa [← Except.ok.inj (hm'.symm.trans hm)]

end Store

/-! ## Inserts -/

namespace Store

theorem InStep.of_rows (h : store.InStep) (hc : next.connection = store.connection)
    (ha : next.applied = store.applied)
    (ht : ∀ m, (next.table? m).map ArchiveTable.emptied =
      (store.table? m).map ArchiveTable.emptied) :
    next.InStep where
  ready := hc.trans h.ready
  applied := ha ▸ h.applied
  tables m := by rw [ht, h.tables, ha]

theorem inStep_putListing (h : store.InStep) (now : Int) (l : Listing) :
    (store.putListing now l).InStep := by
  refine h.of_rows rfl rfl fun m => ?_
  cases m with
  | createAssets => simp [table?, putListing, ArchiveTable.emptied, Function.comp_def]
  | createCandles => rfl

theorem inStep_addCandles (h : store.InStep) (new : List CandleRow) :
    (store.addCandles new).InStep := by
  refine h.of_rows rfl rfl fun m => ?_
  cases m with
  | createAssets => rfl
  | createCandles => simp [table?, addCandles, ArchiveTable.emptied, Function.comp_def]

/-- **The plain insert of an asset** needs a usable connection, the table, all values that have no
default, guards that let the row pass, and a free symbol. -/
theorem insertAsset_eq_ok {now : Int} {draft : AssetDraft} :
    store.insertAsset now draft = .ok next ↔
      store.connection ≠ .closed ∧ ∃ table row, store.assets = some table ∧
        draft.row? now (table.rows.length + 1) = some row ∧
        (∀ guard ∈ table.guards, guard.insert row.unstamped = false) ∧
        row.symbol ∉ table.symbols ∧
        next = { store with assets := some { table with rows := table.rows ++ [row] } } := by
  simp only [insertAsset, bind_eq_ok, assetTable_eq_ok]
  constructor
  · rintro ⟨table, ⟨hc, ht⟩, h⟩
    cases hr : draft.row? now (table.rows.length + 1) with
    | none =>
      rw [hr] at h
      cases h
    | some row =>
      rw [hr] at h
      dsimp only at h
      split_ifs at h with hg hk hk
      · cases h
      · cases h
      · cases h
      · cases h
        exact ⟨hc, table, row, ht, hr, by simpa using hg, mt AssetRow.any_symbol_eq.mpr hk, rfl⟩
  · rintro ⟨hc, table, row, ht, hr, hg, hk, rfl⟩
    refine ⟨table, ⟨hc, ht⟩, ?_⟩
    rw [hr]
    dsimp only
    rw [if_neg (by simpa using hg), if_neg (mt AssetRow.any_symbol_eq.mp hk)]
    rfl

theorem insertCandle_eq_ok {new : CandleRow} :
    store.insertCandle new = .ok next ↔
      store.connection ≠ .closed ∧ (∃ table, store.candles = some table ∧
        ∀ guard ∈ table.guards, guard.insert new = false) ∧
      new.key ∉ store.candleKeys ∧ next = store.addCandles [new] := by
  have hkeys : ∀ table, store.candles = some table →
      store.candleKeys = table.rows.map CandleRow.key := fun table ht => by
    simp [candleKeys, candleRows, ht]
  simp only [insertCandle, bind_eq_ok, candleTable_eq_ok]
  constructor
  · rintro ⟨table, ⟨hc, ht⟩, h⟩
    split_ifs at h with hg hk hk
    · cases h
    · cases h
    · cases h
    · cases h
      refine ⟨hc, ⟨table, ht, by simpa using hg⟩, ?_, by simp [addCandles, ht]⟩
      rw [hkeys table ht]
      exact mt CandleRow.any_key_eq.mpr hk
  · rintro ⟨hc, ⟨table, ht, hg⟩, hk, rfl⟩
    rw [hkeys table ht] at hk
    refine ⟨table, ⟨hc, ht⟩, ?_⟩
    rw [if_neg (by simpa using hg), if_neg (mt CandleRow.any_key_eq.mp hk)]
    simp [addCandles, ht, pure, Except.pure]

theorem InStep.assets_unguarded (h : store.InStep) {table : AssetTable}
    (ht : store.assets = some table) : table.guards = [] := by
  have hm := h.tables .createAssets
  simp only [table?, ht, Option.map_some] at hm
  split_ifs at hm
  exact (congrArg Table.guards (Sum.inl.inj (Option.some.inj hm)) :)

theorem InStep.candles_unguarded (h : store.InStep) {table : CandleTable}
    (ht : store.candles = some table) : table.guards = [] := by
  have hm := h.tables .createCandles
  simp only [table?, ht, Option.map_some] at hm
  split_ifs at hm
  exact (congrArg Table.guards (Sum.inr.inj (Option.some.inj hm)) :)

end Store

theorem AssetDraft.symbol_of_row? {now : Int} {id : Nat} {draft : AssetDraft} {row : AssetRow}
    (h : draft.row? now id = some row) : draft.symbol = some row.symbol := by
  cases hs : draft.symbol with
  | none => simp [row?, hs] at h
  | some symbol =>
    cases hn : draft.name with
    | none => simp [row?, hs, hn] at h
    | some name =>
      simp only [row?, hs, hn, Option.pure_def, Option.bind_eq_bind, Option.bind_some,
        Option.some_inj] at h
      rw [← h]

theorem AssetDraft.isSome_row? (now : Int) (id : Nat) {draft : AssetDraft}
    (hs : draft.symbol.isSome) (hn : draft.name.isSome) : (draft.row? now id).isSome := by
  obtain ⟨symbol, hs⟩ := Option.isSome_iff_exists.mp hs
  obtain ⟨name, hn⟩ := Option.isSome_iff_exists.mp hn
  simp [row?, hs, hn]

theorem mem_assetRows_putListing (now : Int) {l : Listing} {row : AssetRow}
    (hr : row ∈ store.assetRows) (hs : l.symbol ≠ row.symbol) :
    row ∈ (store.putListing now l).assetRows := by
  rcases assetRows_putListing now store l with he | he
  · rwa [he]
  · rw [he]
    by_cases hl : l.symbol ∈ store.assetRows.map AssetRow.symbol
    · rw [AssetRow.upsertInto_of_mem hl]
      have hsame : row.refreshBy [l] = row := AssetRow.refreshBy_of_notMem (by simpa using hs.symm)
      exact List.mem_map.mpr ⟨row, hr, hsame⟩
    · rw [AssetRow.upsertInto_of_notMem hl]
      exact List.mem_append_left _ hr

/-! ## Steps -/

namespace DatabaseStep

/-- **A step that fits succeeds.** -/
theorem attempt_of_fits (h : store.InStep) {step : DatabaseStep} (hf : step.Fits store) :
    ∃ next, step.attempt store = .ok next := by
  have hc : store.connection ≠ .closed := by simp [h.ready]
  cases step with
  | migrating command =>
    obtain ⟨next, hm, -⟩ := Store.migrate_of_inStep h command
    exact ⟨next, hm⟩
  | insertingAsset now draft =>
    obtain ⟨htable, hname, symbol, hfree, hsymbol⟩ := hf
    obtain ⟨table, ht⟩ := Option.isSome_iff_exists.mp (Option.isSome_map.symm.trans htable)
    obtain ⟨row, hr⟩ := Option.isSome_iff_exists.mp
      (AssetDraft.isSome_row? now (table.rows.length + 1) (by simp [hsymbol]) hname)
    have hs : row.symbol = symbol :=
      Option.some.inj ((AssetDraft.symbol_of_row? hr).symm.trans hsymbol)
    have hrows : store.assetRows = table.rows := by simp [Store.assetRows, ht]
    refine ⟨_, Store.insertAsset_eq_ok.mpr ⟨hc, table, row, ht, hr, ?_, ?_, rfl⟩⟩
    · simp [h.assets_unguarded ht]
    · rwa [hs, AssetTable.symbols, ← hrows]
  | insertingCandle row =>
    obtain ⟨table, ht⟩ := Option.isSome_iff_exists.mp (Option.isSome_map.symm.trans hf.1)
    exact ⟨_, Store.insertCandle_eq_ok.mpr
      ⟨hc, ⟨table, ht, by simp [h.candles_unguarded ht]⟩, hf.2, rfl⟩⟩
  | upsertingAsset now l =>
    obtain ⟨table, ht⟩ := Option.isSome_iff_exists.mp (Option.isSome_map.symm.trans hf)
    have hadmits : (store.assets.any fun table => !table.refuses l) = true := by
      simp [ht, AssetTable.refuses, h.assets_unguarded ht]
    have hup : store.upsertAsset now l = .ok ((), _) :=
      Store.upsertAsset_eq_ok.mpr ⟨hc, hadmits, rfl⟩
    exact ⟨_, by rw [attempt, hup]; rfl⟩
  | insertingCandles new =>
    obtain ⟨table, ht⟩ := Option.isSome_iff_exists.mp (Option.isSome_map.symm.trans hf.1)
    have hfree : ∀ row ∈ new, ∀ guard ∈ table.guards, guard.insert row = false := by
      simp [h.candles_unguarded ht]
    have hins : store.insertCandles new = .ok (_, _) :=
      Store.insertCandles_eq_ok.mpr ⟨hc, hf.2, ⟨table, ht, hfree⟩, rfl, rfl⟩
    exact ⟨_, by rw [attempt, hins]; rfl⟩

/-- **What a step does that succeeds**: it carries out its command, adds an asset, writes a listing,
or adds candles. -/
theorem attempt_cases {step : DatabaseStep} (h : step.attempt store = .ok next) :
    (∃ command, step = .migrating command ∧ store.migrate command = .ok next) ∨
      (∃ table row, store.assets = some table ∧ row.symbol ∉ table.symbols ∧
        next = { store with assets := some { table with rows := table.rows ++ [row] } }) ∨
      (∃ now l, step = .upsertingAsset now l ∧ next = store.putListing now l) ∨
      ∃ new, next = store.addCandles new := by
  cases step with
  | migrating command => exact .inl ⟨command, rfl, h⟩
  | insertingAsset now draft =>
    obtain ⟨-, table, row, ht, -, -, hnew, hn⟩ := Store.insertAsset_eq_ok.mp h
    exact .inr (.inl ⟨table, row, ht, hnew, hn⟩)
  | insertingCandle row =>
    obtain ⟨-, -, -, hn⟩ := Store.insertCandle_eq_ok.mp h
    exact .inr (.inr (.inr ⟨[row], hn⟩))
  | upsertingAsset now l =>
    obtain ⟨⟨u, after⟩, hup, ⟨⟩⟩ := bind_eq_ok.mp h
    obtain ⟨-, -, hn⟩ := Store.upsertAsset_eq_ok.mp hup
    exact .inr (.inr (.inl ⟨now, l, rfl, hn⟩))
  | insertingCandles new =>
    obtain ⟨⟨n, after⟩, hins, ⟨⟩⟩ := bind_eq_ok.mp h
    obtain ⟨-, -, -, -, hn⟩ := Store.insertCandles_eq_ok.mp hins
    exact .inr (.inr (.inr ⟨new, hn⟩))

theorem inStep_attempt (h : store.InStep) {step : DatabaseStep}
    (ha : step.attempt store = .ok next) : next.InStep := by
  rcases attempt_cases ha with
    ⟨command, -, hm⟩ | ⟨table, row, ht, -, rfl⟩ | ⟨now, l, -, rfl⟩ | ⟨new, rfl⟩
  · obtain ⟨after, hm', hin, -⟩ := Store.migrate_of_inStep h command
    obtain rfl := Except.ok.inj (hm'.symm.trans hm)
    exact hin
  · refine h.of_rows rfl rfl fun m => ?_
    cases m with
    | createAssets => simp [Store.table?, ht, ArchiveTable.emptied]
    | createCandles => rfl
  · exact Store.inStep_putListing h now l
  · exact Store.inStep_addCandles h new

theorem assetRows_of_table?_eq (h : next.table? .createAssets = store.table? .createAssets) :
    next.assetRows = store.assetRows := by
  have ha : next.assets = store.assets := Option.map_injective (fun _ _ => Sum.inl.inj) h
  rw [Store.assetRows, Store.assetRows, ha]

theorem candleRows_of_table?_eq (h : next.table? .createCandles = store.table? .createCandles) :
    next.candleRows = store.candleRows := by
  have hc : next.candles = store.candles := Option.map_injective (fun _ _ => Sum.inr.inj) h
  rw [Store.candleRows, Store.candleRows, hc]

theorem assetRows_of_emptied
    (h : (next.table? .createAssets).map ArchiveTable.emptied = next.table? .createAssets) :
    next.assetRows = [] := by
  cases ha : next.assets with
  | none => simp [Store.assetRows, ha]
  | some table =>
    simp only [Store.table?, ha, Option.map_some, ArchiveTable.emptied, Sum.map_inl] at h
    rw [Store.assetRows, ha]
    exact (congrArg Table.rows (Sum.inl.inj (Option.some.inj h))).symm

theorem candleRows_of_emptied
    (h : (next.table? .createCandles).map ArchiveTable.emptied = next.table? .createCandles) :
    next.candleRows = [] := by
  cases hc : next.candles with
  | none => simp [Store.candleRows, hc]
  | some table =>
    simp only [Store.table?, hc, Option.map_some, ArchiveTable.emptied, Sum.map_inr] at h
    rw [Store.candleRows, hc]
    exact (congrArg Table.rows (Sum.inr.inj (Option.some.inj h))).symm

/-- A command leaves a table as it is, without rows, or not at all. -/
theorem table?_of_carried {command : MigrationCommand} (h : command.Carried store next)
    (m : Migration) :
    next.table? m = store.table? m ∨
      (next.table? m).map ArchiveTable.emptied = next.table? m := by
  rw [h.tables m]
  split_ifs
  · exact .inl rfl
  · exact .inr (by simp)
  · exact .inr rfl

theorem keyed_attempt (h : store.InStep) (hk : store.Keyed) {step : DatabaseStep}
    (ha : step.attempt store = .ok next) : next.Keyed := by
  rcases attempt_cases ha with
    ⟨command, -, hm⟩ | ⟨table, row, ht, hnew, rfl⟩ | ⟨now, l, -, rfl⟩ | ⟨new, rfl⟩
  · have hcarried := Store.carried_of_migrate h hm
    constructor
    · rcases table?_of_carried hcarried .createAssets with he | he
      · exact assetRows_of_table?_eq he ▸ hk.symbols
      · simp [assetRows_of_emptied he]
    · rw [Store.candleKeys]
      rcases table?_of_carried hcarried .createCandles with he | he
      · exact candleRows_of_table?_eq he ▸ hk.keys
      · simp [candleRows_of_emptied he]
  · have hrows : store.assetRows = table.rows := by simp [Store.assetRows, ht]
    refine ⟨?_, hk.keys⟩
    have hconcat : (table.symbols.concat row.symbol).Nodup := (hrows ▸ hk.symbols).concat hnew
    simpa [Store.assetRows, AssetTable.symbols] using hconcat
  · exact keyed_putListing now l hk
  · exact keyed_addCandles new hk

/-- **One step** keeps the tables in step with the record, and their keys apart. -/
theorem inStep_keyed_perform (h : store.InStep) (hk : store.Keyed) (step : DatabaseStep) :
    (step.perform store).InStep ∧ (step.perform store).Keyed := by
  rw [perform]
  cases ha : step.attempt store with
  | error e => exact ⟨h, hk⟩
  | ok next => exact ⟨inStep_attempt h ha, keyed_attempt h hk ha⟩

theorem keeps_of_table?_eq (step : DatabaseStep) (h : next.table? m = store.table? m) :
    step.Keeps store next m := by
  cases m with
  | createAssets => exact fun row hr => .inl (assetRows_of_table?_eq h ▸ hr)
  | createCandles => simp [Keeps, candleRows_of_table?_eq h]

theorem keeps_of_table?_eq_none (step : DatabaseStep) (next : Store) (h : store.table? m = none) :
    step.Keeps store next m := by
  cases m with
  | createAssets =>
    have ha : store.assets = none := Option.map_eq_none_iff.mp h
    simp [Keeps, Store.assetRows, ha]
  | createCandles =>
    have hc : store.candles = none := Option.map_eq_none_iff.mp h
    simp [Keeps, Store.candleRows, hc]

/-- **A table that a step does not drop** keeps its rows. -/
theorem keeps_attempt (h : store.InStep) {step : DatabaseStep} (ha : step.attempt store = .ok next)
    (hm : m ∉ step.takesBack store) : step.Keeps store next m := by
  rcases attempt_cases ha with
    ⟨command, rfl, hc⟩ | ⟨table, row, ht, -, rfl⟩ | ⟨now, l, rfl, rfl⟩ | ⟨new, rfl⟩
  · by_cases hold : m ∈ store.applied
    · have hcarried := Store.carried_of_migrate h hc
      refine keeps_of_table?_eq _ ?_
      rw [hcarried.tables, if_pos, if_pos ⟨hold, hm⟩]
      rw [hcarried.applied]
      exact MigrationCommand.mem_record hold hm
    · exact keeps_of_table?_eq_none _ _ (h.table?_eq_none hold)
  · cases m with
    | createAssets =>
      intro old ho
      left
      simp only [Store.assetRows, ht, Option.map_some, Option.getD_some] at ho ⊢
      exact List.mem_append_left _ ho
    | createCandles => exact List.prefix_refl _
  · cases m with
    | createAssets =>
      intro old ho
      by_cases hs : l.symbol = old.symbol
      · exact .inr ⟨now, l, rfl, hs, (extends_putListing now store l).assets old ho⟩
      · exact .inl (mem_assetRows_putListing now ho hs)
    | createCandles => exact List.prefix_refl _
  · cases m with
    | createAssets => exact fun row hr => .inl hr
    | createCandles => exact (extends_addCandles store new).candles

end DatabaseStep

/-! ## Histories -/

theorem inStep_fresh : Store.fresh.InStep where
  ready := rfl
  applied := List.nil_prefix
  tables m := by cases m <;> rfl

theorem keyed_fresh : Store.fresh.Keyed := ⟨List.nodup_nil, List.nodup_nil⟩

theorem inStep_keyed_developed (h : store.InStep) (hk : store.Keyed) (history : List DatabaseStep) :
    (store.developed history).InStep ∧ (store.developed history).Keyed := by
  induction history generalizing store with
  | nil => exact ⟨h, hk⟩
  | cons step history ih =>
    obtain ⟨hone, hkeyed⟩ := DatabaseStep.inStep_keyed_perform h hk step
    exact ih hone hkeyed

namespace Store

theorem InStep.schema_table? (h : store.InStep) (m : Migration) :
    (store.table? m).map ArchiveTable.schema =
      if m ∈ store.applied then (migrated.table? m).map ArchiveTable.schema else none := by
  have hschema : ArchiveTable.schema ∘ ArchiveTable.emptied = ArchiveTable.schema := by
    funext table
    cases table <;> rfl
  have ht := congrArg (Option.map ArchiveTable.schema) (h.tables m)
  rw [Option.map_map, hschema] at ht
  rw [ht]
  split_ifs <;> rfl

theorem uniqueOn_migrated (m : Migration) :
    ∀ schema ∈ (migrated.table? m).map ArchiveTable.schema, schema.UniqueOn m.conflictTarget := by
  rintro schema hs
  cases m with
  | createAssets =>
    obtain rfl := Option.some.inj hs
    exact ⟨.assetSymbol, by decide, rfl, rfl⟩
  | createCandles =>
    obtain rfl := Option.some.inj hs
    exact ⟨.candleKey, by decide, rfl, rfl⟩

theorem InStep.uniqueOn (h : store.InStep) {table : ArchiveTable}
    (ht : store.table? m = some table) : table.schema.UniqueOn m.conflictTarget := by
  have hs := h.schema_table? m
  rw [ht, Option.map_some] at hs
  split_ifs at hs
  exact uniqueOn_migrated m _ hs.symm

/-- Rows with keys of their own differ in the columns by which writes find them. -/
theorem Keyed.nodup_values (h : store.Keyed) {table : ArchiveTable}
    (ht : store.table? m = some table) : (table.values m.conflictTarget).Nodup := by
  cases m with
  | createAssets =>
    obtain ⟨assets, ha, rfl⟩ := Option.map_eq_some_iff.mp ht
    have hrows : store.assetRows = assets.rows := by simp [assetRows, ha]
    refine List.Nodup.map_on (fun a hra b hrb he => ?_) (List.Nodup.of_map _ (hrows ▸ h.symbols))
    exact List.inj_on_of_nodup_map (hrows ▸ h.symbols) hra hrb (AssetRow.values_eq_iff.mp he)
  | createCandles =>
    obtain ⟨candles, hc, rfl⟩ := Option.map_eq_some_iff.mp ht
    have hkeys : store.candleKeys = candles.rows.map CandleRow.key := by
      simp [candleKeys, candleRows, hc]
    refine List.Nodup.map_on (fun a hra b hrb he => ?_) (List.Nodup.of_map _ (hkeys ▸ h.keys))
    exact List.inj_on_of_nodup_map (hkeys ▸ h.keys) hra hrb (CandleRow.values_eq_iff.mp he)

end Store

/-- **The record and the tables keep step** through every history of a database that starts fresh.
-/
theorem migrations_keep_step (history : List DatabaseStep) :
    let store := Store.fresh.developed history
    store.applied <+: Migration.all ∧
      store.applied ++ store.pending = Migration.all ∧
      (∀ m, (store.table? m).map ArchiveTable.schema =
        if m ∈ store.applied then (Store.migrated.table? m).map ArchiveTable.schema else none) ∧
      (∀ m table, store.table? m = some table →
        table.schema.UniqueOn m.conflictTarget ∧ (table.values m.conflictTarget).Nodup) ∧
      (∀ step : DatabaseStep, step.Fits store → ∃ next, step.attempt store = .ok next) ∧
      (∀ (command : MigrationCommand) next, store.migrate command = .ok next →
        command.Carried store next) ∧
      ∀ (step : DatabaseStep) next, step.attempt store = .ok next →
        ∀ m ∉ step.takesBack store, step.Keeps store next m := by
  obtain ⟨h, hkeyed⟩ := inStep_keyed_developed inStep_fresh keyed_fresh history
  refine ⟨h.applied, h.applied_append_pending, h.schema_table?,
    fun _ _ ht => ⟨h.uniqueOn ht, hkeyed.nodup_values ht⟩, ?_, ?_, ?_⟩
  · exact fun step hf => DatabaseStep.attempt_of_fits h hf
  · exact fun command next hm => Store.carried_of_migrate h hm
  · exact fun step next ha m hm => DatabaseStep.keeps_attempt h ha hm

/-- The database forgets the asset when its table is dropped and comes again. -/
example (now : Int) (l : Listing) :
    let asset := Store.fresh.developed [.migrating (.up (some 1)), .upsertingAsset now l]
    asset.assetRows = [.ofListing now 1 l] ∧
      (asset.developed [.migrating .refresh]).assetRows = [] ∧
      (asset.developed [.migrating .refresh]).applied = Migration.all :=
  ⟨rfl, rfl, rfl⟩

end CandleArchive
