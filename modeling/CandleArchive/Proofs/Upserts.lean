import CandleArchive.Proofs.Run
import Mathlib.Data.List.Induction

/-!
# Upserts — what a registration leaves of each symbol

A list of listings may name a symbol several times, and each of its upserts may insert a row, refresh
one or be refused, by a guard or because the connection lapses. Every listing is tried all the same, and
what is stored of a symbol in the end depends on the last upsert that went through and on the row from
before.

* `Store.assetsOf`, `lastRegistered`: the rows of a symbol, and its last listing that went through;
* `AssetRow.Reflects`, `AssetRow.LeftBy`: a row after upserts of its symbol, and what a symbol is
  left with;
* `assetsOf_register_of_ne`, `assetsOf_register_of_admits`: one listing;
* `lastRegistered_concat`, **`leftBy_foldl_registerAt`**, **`reconcile_effect`**: all of them.
-/

namespace CandleArchive

/-- The rows of the symbol. -/
def Store.assetsOf (store : Store) (symbol : String) : List AssetRow :=
  store.assetRows.filter (·.symbol = symbol)

/-- The last listing of the symbol whose upsert went through. -/
def lastRegistered (tries : List (Listing × Except ImportError Store)) (symbol : String) :
    Option Listing :=
  (tries.reverse.find? fun t => t.2.isOk ∧ t.1.symbol = symbol).map Prod.fst

/-- The row shows the listing, and keeps all else of the rows from before; where there was none it is
a new spot asset with one stamp. -/
structure AssetRow.Reflects (row : AssetRow) (l : Listing) (before : List AssetRow) : Prop where
  symbol : row.symbol = l.symbol
  name : row.name = l.name
  imageUrl : row.imageUrl = some l.imageUrl
  active : row.active = true
  kept : ∀ old ∈ before, row.id = old.id ∧ row.marketType = old.marketType ∧
    row.createdAt = old.createdAt ∧ row.updatedAt = old.updatedAt
  new : before = [] → row.marketType = "Spot" ∧
    ∃ stamp, row.createdAt = some stamp ∧ row.updatedAt = some stamp

/-- What a symbol is left with when the last of its listings that went through is `last`. -/
def AssetRow.LeftBy (last : Option Listing) (before after : List AssetRow) : Prop :=
  match last with
  | none => after = before
  | some l => ∃ row, after = [row] ∧ row.Reflects l before

variable {now : Int} {store : Store} {l : Listing} {symbol : String}

/-! ## One listing -/

namespace AssetRow

variable {rows : List AssetRow}

theorem reflects_ofListing (now : Int) (id : Nat) (l : Listing) :
    (ofListing now id l).Reflects l [] :=
  ⟨rfl, rfl, rfl, rfl, fun _ h => absurd h List.not_mem_nil, fun _ => ⟨rfl, now, rfl, rfl⟩⟩

theorem reflects_refresh {old : AssetRow} (h : old.symbol = l.symbol) :
    (old.refresh l).Reflects l [old] := by
  refine ⟨h, rfl, rfl, rfl, fun row hrow => ?_, fun hnil => ?_⟩
  · obtain rfl := List.mem_singleton.mp hrow
    exact ⟨rfl, rfl, rfl, rfl⟩
  · contradiction

theorem Reflects.refresh {row : AssetRow} {m : Listing} {before : List AssetRow}
    (h : row.Reflects m before) (hs : m.symbol = l.symbol) : (row.refresh l).Reflects l before :=
  ⟨h.symbol.trans hs, rfl, rfl, rfl, h.kept, h.new⟩

theorem filter_upsertInto_self (now : Int) (l : Listing) (rows : List AssetRow) :
    (rows.filter fun row => row.symbol = l.symbol) = [] ∧
        (∃ id, (upsertInto now l rows).filter (fun row => row.symbol = l.symbol) =
          [ofListing now id l]) ∨
      (rows.filter fun row => row.symbol = l.symbol) ≠ [] ∧
        (upsertInto now l rows).filter (fun row => row.symbol = l.symbol) =
          (rows.filter fun row => row.symbol = l.symbol).map (refresh l) := by
  by_cases hl : l.symbol ∈ rows.map AssetRow.symbol
  · right
    obtain ⟨row, hrow, hs⟩ := List.mem_map.mp hl
    refine ⟨List.ne_nil_of_mem (List.mem_filter.mpr ⟨hrow, by simpa using hs⟩), ?_⟩
    rw [upsertInto_of_mem hl, filter_map_refreshBy]
    refine List.map_congr_left fun row hrow => ?_
    have hs : row.symbol = l.symbol := by simpa using (List.mem_filter.mp hrow).2
    rw [refreshBy_cons, if_pos hs.symm]
  · left
    have hnone : (rows.filter fun row => row.symbol = l.symbol) = [] := by
      rw [List.filter_eq_nil_iff]
      intro row hrow hs
      exact hl (of_decide_eq_true hs ▸ List.mem_map_of_mem hrow)
    refine ⟨hnone, rows.length + 1, ?_⟩
    rw [upsertInto_of_notMem hl, List.filter_append, hnone, List.nil_append]
    simp [newRows, ofListing]

end AssetRow

theorem assetRows_register (h : store.admits l = true) :
    (store.register now l).assetRows = AssetRow.upsertInto now l store.assetRows := by
  rw [Store.register, if_pos h, Store.assetRows_putListing_of_admits h]

theorem register_of_not_admits (h : store.admits l = false) :
    store.register now l = store := by
  simp [Store.register, h]

theorem assetsOf_register_of_ne (h : l.symbol ≠ symbol) :
    (store.register now l).assetsOf symbol = store.assetsOf symbol := by
  cases ha : store.admits l with
  | false => rw [register_of_not_admits ha]
  | true =>
    unfold Store.assetsOf
    rw [assetRows_register ha, AssetRow.filter_upsertInto_of_ne now h]

/-- **One listing that goes through** leaves one row of its symbol. -/
theorem assetsOf_register_of_admits (now : Int) (h : store.admits l = true) :
    store.assetsOf l.symbol = [] ∧
        (∃ id, (store.register now l).assetsOf l.symbol = [.ofListing now id l]) ∨
      store.assetsOf l.symbol ≠ [] ∧
        (store.register now l).assetsOf l.symbol =
          (store.assetsOf l.symbol).map (AssetRow.refresh l) := by
  unfold Store.assetsOf
  rw [assetRows_register h]
  exact AssetRow.filter_upsertInto_self now l store.assetRows

/-! ## Several listings -/

theorem lastRegistered_concat (tries : List (Listing × Except ImportError Store))
    (t : Listing × Except ImportError Store) (symbol : String) :
    lastRegistered (tries ++ [t]) symbol =
      if t.2.isOk ∧ t.1.symbol = symbol then some t.1 else lastRegistered tries symbol := by
  rw [lastRegistered, List.reverse_append, List.reverse_singleton, List.singleton_append]
  split_ifs with h
  · rw [List.find?_cons_of_pos (by simpa using h), Option.map_some]
  · rw [List.find?_cons_of_neg (by simpa using h), lastRegistered]

theorem symbol_of_lastRegistered {tries : List (Listing × Except ImportError Store)}
    (h : lastRegistered tries symbol = some l) : l.symbol = symbol := by
  obtain ⟨t, ht, rfl⟩ := Option.map_eq_some_iff.mp h
  have hp : t.2.isOk = true ∧ t.1.symbol = symbol := by simpa using List.find?_some ht
  exact hp.2

theorem lastRegistered_eq_none {tries : List (Listing × Except ImportError Store)} :
    lastRegistered tries symbol = none ↔
      ∀ t ∈ tries, t.1.symbol = symbol → t.2.isOk = false := by
  rw [lastRegistered, Option.map_eq_none_iff, List.find?_eq_none]
  simp only [List.mem_reverse, decide_eq_true_eq, not_and', Bool.not_eq_true]

/-- One more listing that goes through is the one that shows. -/
theorem AssetRow.LeftBy.register {last : Option Listing} {before : List AssetRow}
    (h : LeftBy last before (store.assetsOf l.symbol)) (hone : before.length ≤ 1)
    (hlast : ∀ m, last = some m → m.symbol = l.symbol) (ha : store.admits l = true) :
    LeftBy (some l) before ((store.register now l).assetsOf l.symbol) := by
  cases last with
  | none =>
    obtain rfl : store.assetsOf l.symbol = before := h
    rcases assetsOf_register_of_admits now ha with ⟨hnil, id, hnew⟩ | ⟨hold, hnew⟩
    · rw [hnil]
      exact ⟨_, hnew, reflects_ofListing now id l⟩
    · obtain ⟨old, hold⟩ : ∃ old, store.assetsOf l.symbol = [old] := by
        apply List.length_eq_one_iff.mp
        have := List.length_pos_of_ne_nil hold
        omega
      have hs : old.symbol = l.symbol := by
        have hmem : old ∈ store.assetsOf l.symbol := by simp [hold]
        simpa using (List.mem_filter.mp hmem).2
      rw [hold] at hnew ⊢
      exact ⟨_, hnew, reflects_refresh hs⟩
  | some m =>
    obtain ⟨row, hrow, hreflects⟩ := h
    rcases assetsOf_register_of_admits now ha with ⟨hnil, -⟩ | ⟨-, hnew⟩
    · simp [hrow] at hnil
    · rw [hrow] at hnew
      exact ⟨_, hnew, hreflects.refresh (hlast m rfl)⟩

theorem length_assetsOf_le (hd : (store.assetRows.map AssetRow.symbol).Nodup) (symbol : String) :
    (store.assetsOf symbol).length ≤ 1 := by
  have hcount : (store.assetsOf symbol).length =
      (store.assetRows.map AssetRow.symbol).count symbol := by
    rw [Store.assetsOf, ← List.countP_eq_length_filter, List.count, List.countP_map]
    rfl
  rw [hcount]
  exact List.nodup_iff_count_le_one.mp hd symbol

/-- **What a registration leaves of a symbol**: its rows as they were, or the one that shows its
last listing that went through. -/
theorem leftBy_foldl_registerAt (hd : (store.assetRows.map AssetRow.symbol).Nodup)
    (trace : Nat → Connection) (now : Int) (symbol : String) (ps : List (Listing × Nat)) :
    AssetRow.LeftBy (lastRegistered (registrations trace now store ps) symbol)
      (store.assetsOf symbol) ((ps.foldl (Store.registerAt trace now) store).assetsOf symbol) := by
  -- the last listing decides, so the induction takes it off the end
  induction ps using List.reverseRecOn with
  | nil => rfl
  | append_singleton ps p ih =>
    obtain ⟨l, n⟩ := p
    set mid := (ps.foldl (Store.registerAt trace now) store).under (trace n)
    have htries : registrations trace now store (ps ++ [(l, n)]) =
        registrations trace now store ps ++ [(l, registerListing now mid l)] := by
      rw [registrations_append]
      rfl
    have hlast : (ps ++ [(l, n)]).foldl (Store.registerAt trace now) store = mid.register now l := by
      rw [List.foldl_append]
      rfl
    have hmid : AssetRow.LeftBy (lastRegistered (registrations trace now store ps) symbol)
        (store.assetsOf symbol) (mid.assetsOf symbol) := ih
    rw [hlast, htries, lastRegistered_concat, isOk_registerListing]
    split_ifs with h
    · obtain ⟨ha, rfl⟩ := h
      exact hmid.register (length_assetsOf_le hd _) (fun m => symbol_of_lastRegistered) ha
    · have hsame : (mid.register now l).assetsOf symbol = mid.assetsOf symbol := by
        by_cases hs : l.symbol = symbol
        · have hn : mid.admits l = false := by simpa [hs] using h
          rw [register_of_not_admits hn]
        · exact assetsOf_register_of_ne hs
      rw [hsame]
      exact hmid

theorem assets_foldl_registerAt (trace : Nat → Connection) (now : Int) (store : Store)
    (ps : List (Listing × Nat)) :
    (ps.foldl (Store.registerAt trace now) store).assets =
      (((registrations trace now store ps).reverse.findSome? (·.2.toOption)).getD store).assets := by
  induction ps using List.reverseRecOn with
  | nil => rfl
  | append_singleton ps p ih =>
    obtain ⟨l, n⟩ := p
    rw [List.foldl_append, registrations_append]
    set mid := ps.foldl (Store.registerAt trace now) store
    rw [registrations, registrations, List.reverse_append, List.reverse_singleton,
      List.singleton_append, List.foldl_cons, List.foldl_nil, Store.registerAt,
      ← getD_registerListing]
    cases registerListing now (mid.under (trace n)) l with
    | ok after => rfl
    | error e => exact ih

/-- **The exact effect of a registration** on a store whose symbols differ, under any guards and
over a connection that may change from one listing to the next. -/
theorem reconcile_effect (hd : (store.assetRows.map AssetRow.symbol).Nodup)
    (trace : Nat → Connection) (now : Int) (ls : List Listing) :
    let done := reconcileUnder trace now store ls
    let tries := registrations trace now store ls.zipIdx
    tries.map Prod.fst = ls ∧
      done.store.assets = ((tries.reverse.findSome? (·.2.toOption)).getD store).assets ∧
      done.report.upserted + done.report.failed.length = ls.length ∧
      done.report.failed = (tries.filter (!·.2.isOk)).map (·.1.symbol) ∧
      (∀ symbol ∉ ls.map Listing.symbol, done.store.assetsOf symbol = store.assetsOf symbol) ∧
      (∀ symbol, (∀ t ∈ tries, t.1.symbol = symbol → t.2.isOk = false) →
        done.store.assetsOf symbol = store.assetsOf symbol) ∧
      (∀ symbol l, lastRegistered tries symbol = some l →
        ∃ row, done.store.assetsOf symbol = [row] ∧ row.Reflects l (store.assetsOf symbol)) ∧
      ((∀ n, trace n = store.connection) → done = reconcile now store ls) := by
  intro done tries
  have hstore : done.store = ls.zipIdx.foldl (Store.registerAt trace now) store :=
    store_reconcileUnder trace now store ls
  have hreport : done.report = _ := report_reconcileUnder trace now store ls
  have hlisted : tries.map Prod.fst = ls := by
    rw [map_fst_registrations, List.zipIdx_map_fst]
  have hleft : ∀ symbol, AssetRow.LeftBy (lastRegistered tries symbol) (store.assetsOf symbol)
      (done.store.assetsOf symbol) := by
    intro symbol
    rw [hstore]
    exact leftBy_foldl_registerAt hd trace now symbol ls.zipIdx
  have hfailed : ∀ symbol, (∀ t ∈ tries, t.1.symbol = symbol → t.2.isOk = false) →
      done.store.assetsOf symbol = store.assetsOf symbol := by
    intro symbol h
    have hsame := hleft symbol
    rwa [lastRegistered_eq_none.mpr h] at hsame
  refine ⟨hlisted, ?_, ?_, ?_, ?_, hfailed, ?_, ?_⟩
  · rw [hstore, assets_foldl_registerAt]
  · have hlen : tries.length = ls.length := by rw [← hlisted, List.length_map]
    rw [hreport, List.length_map, ← List.countP_eq_length_filter, ← hlen]
    exact countP_add_countP_not (·.2.isOk) tries
  · rw [hreport]
  · intro symbol hs
    refine hfailed symbol fun t ht he => absurd ?_ hs
    have hmem : t.1 ∈ ls := hlisted ▸ List.mem_map_of_mem ht
    exact he ▸ List.mem_map_of_mem hmem
  · intro symbol l hl
    have hshows := hleft symbol
    rwa [hl] at hshows
  · intro h
    obtain rfl : trace = fun _ => store.connection := funext h
    exact reconcileUnder_steady now rfl ls

namespace SmallRun

/-- The store with guards that look at names: one refuses new assets, the other changes of old ones. -/
def guarded : Store :=
  let unwanted : Guard AssetRow :=
    { insert := fun row => row.symbol = "BTCUSDT" ∨ row.name = "Unknown"
      update := fun _ row => row.name = "Clone" }
  SmallRun.store.disturb .ready [unwanted] []

/-- A stored symbol twice, one that is refused, and a new one that is refused, accepted and refused. -/
def repeated : List Listing :=
  [⟨"ETHUSDT", "Ether", "e.png"⟩, ⟨"SOLUSDT", "Unknown", ""⟩, ⟨"BTCUSDT", "Bitcoin", "b.png"⟩,
    ⟨"SOLUSDT", "Sol", "s.png"⟩, ⟨"SOLUSDT", "Clone", "c.png"⟩, ⟨"ETHUSDT", "Ethereum", ""⟩]

/-- The connection cannot commit the first listing. -/
def lapse : Nat → Connection := fun n => if n = 0 then .uncommitting else .ready

end SmallRun

theorem reconcile_effect_small :
    let done := reconcileUnder SmallRun.lapse 9 SmallRun.guarded SmallRun.repeated
    (SmallRun.guarded.assetRows.map AssetRow.symbol).Nodup ∧
      done.report = ⟨2, ["ETHUSDT", "SOLUSDT", "BTCUSDT", "SOLUSDT"]⟩ ∧
      done.report.upserted + done.report.failed.length = 6 ∧
      (∃ row, done.store.assetsOf "ETHUSDT" = [row] ∧
        row.Reflects ⟨"ETHUSDT", "Ethereum", ""⟩ (SmallRun.guarded.assetsOf "ETHUSDT")) ∧
      (∃ row, done.store.assetsOf "SOLUSDT" = [row] ∧
        row.Reflects ⟨"SOLUSDT", "Sol", "s.png"⟩ []) ∧
      done.store.assetsOf "BTCUSDT" = [] := by
  intro done
  have hd : (SmallRun.guarded.assetRows.map AssetRow.symbol).Nodup := by decide
  have hreport : done.report = ⟨2, ["ETHUSDT", "SOLUSDT", "BTCUSDT", "SOLUSDT"]⟩ := by
    decide +kernel
  obtain ⟨-, -, hcount, -, -, hfailed, hshows, -⟩ :=
    reconcile_effect hd SmallRun.lapse 9 SmallRun.repeated
  refine ⟨hd, hreport, hcount, hshows "ETHUSDT" _ (by decide +kernel),
    hshows "SOLUSDT" _ (by decide +kernel), ?_⟩
  exact hfailed "BTCUSDT" (by decide +kernel)

end CandleArchive
