import CandleArchive.Store.Write

/-!
# Rows — the contents of the tables, and work in a savepoint

What a store holds are the rows of its two tables; a missing table holds none. Work in a savepoint
either leaves its store or is refused, and a refusal leaves nothing.

* `Binary64.Agrees`, `CandleRow.Holds`, `holds_ofCandle`: the numbers of a row are those of its candle;
* `bind_eq_ok`, `bind_eq_error`: a step after another one, either of which may fail;
* `Store.assetRows`, `Store.candleRows`: the rows;
* `Store.disturb`: the store with another state of the connection and other guards;
* `Store.refusal?`: why work in a savepoint is refused, if it is;
* **`savepoint_eq_ok`**: when work in a savepoint succeeds, and what it leaves.
-/

namespace CandleArchive

/-! ## The numbers of a row -/

namespace Number.Binary64

/-- Zero, of either sign. -/
def IsZero (x : Binary64) : Prop := x.bits = 0 ∨ x.bits = 0x8000000000000000

/-- The same number, where the two zeros count as one. -/
def Agrees (x y : Binary64) : Prop := x = y ∨ x.IsZero ∧ y.IsZero

theorem isZero_of_magnitude {x : Binary64} (h : x.magnitude = 0) : x.IsZero := by
  have hsign : signWeight = 2 ^ 63 := rfl
  rw [magnitude, hsign] at h
  have hlt := x.bits.toNat_lt
  have hbits : x.bits.toNat = 0 ∨ x.bits.toNat = 2 ^ 63 := by omega
  exact hbits.imp UInt64.toNat_inj.mp UInt64.toNat_inj.mp

theorem agrees_unsignedZero (x : Binary64) : x.unsignedZero.Agrees x := by
  by_cases h : x.magnitude = 0
  · rw [unsignedZero, if_pos h]
    exact .inr ⟨.inl rfl, isZero_of_magnitude h⟩
  · rw [unsignedZero, if_neg h]
    exact .inl rfl

end Number.Binary64

/-- The row holds the open time and the numbers of the candle. -/
structure CandleRow.Holds (row : CandleRow) (c : Candle) : Prop where
  openTime : row.candle.openTime = c.openTime
  openPrice : row.candle.openPrice.Agrees c.openPrice
  highPrice : row.candle.highPrice.Agrees c.highPrice
  lowPrice : row.candle.lowPrice.Agrees c.lowPrice
  closePrice : row.candle.closePrice.Agrees c.closePrice
  volume : row.candle.volume.Agrees c.volume

theorem CandleRow.holds_ofCandle (symbol : String) (timeframe : Timeframe) (c : Candle) (id : Nat) :
    Holds { ofCandle symbol timeframe c with id } c where
  openTime := rfl
  openPrice := c.openPrice.agrees_unsignedZero
  highPrice := c.highPrice.agrees_unsignedZero
  lowPrice := c.lowPrice.agrees_unsignedZero
  closePrice := c.closePrice.agrees_unsignedZero
  volume := c.volume.agrees_unsignedZero

/-! ## Steps that may fail -/

theorem bind_eq_ok {ε α β : Type} {x : Except ε α} {f : α → Except ε β} {b : β} :
    (x >>= f) = .ok b ↔ ∃ a, x = .ok a ∧ f a = .ok b := by
  cases x with
  | error e => simp [bind, Except.bind]
  | ok a => simp [bind, Except.bind]

theorem bind_eq_error {ε α β : Type} {x : Except ε α} {f : α → Except ε β} {e : ε} :
    (x >>= f) = .error e ↔ x = .error e ∨ ∃ a, x = .ok a ∧ f a = .error e := by
  cases x with
  | error e' => simp [bind, Except.bind]
  | ok a => simp [bind, Except.bind]

namespace Store

/-- The rows of the table of assets. -/
def assetRows (store : Store) : List AssetRow := (store.assets.map Table.rows).getD []

/-- The rows of the table of candles. -/
def candleRows (store : Store) : List CandleRow := (store.candles.map Table.rows).getD []

/-- The store with another state of the connection and other guards. -/
def disturb (connection : Connection) (assetGuards : List (Guard AssetRow))
    (candleGuards : List (Guard CandleRow)) (store : Store) : Store :=
  { store with
    connection
    assets := store.assets.map fun table => { table with guards := assetGuards }
    candles := store.candles.map fun table => { table with guards := candleGuards } }

/-- Why the work is refused in a savepoint, if it is. -/
def refusal? {α : Type} (store : Store) (work : Store → Except StorageError (α × Store)) :
    Option StorageError :=
  match store.savepoint work with
  | .ok _ => none
  | .error e => some e

section Disturb

variable (c : Connection) (ag : List (Guard AssetRow)) (cg : List (Guard CandleRow)) (store : Store)

@[simp] theorem assetRows_disturb : (store.disturb c ag cg).assetRows = store.assetRows := by
  simp [assetRows, disturb, Function.comp_def]

@[simp] theorem candleRows_disturb : (store.disturb c ag cg).candleRows = store.candleRows := by
  simp [candleRows, disturb, Function.comp_def]

end Disturb

theorem reach_eq_ok {store : Store} : store.reach = .ok () ↔ store.connection ≠ .closed := by
  simp [reach]

theorem commit_eq_ok {store : Store} : store.commit = .ok () ↔ store.connection = .ready := by
  simp [commit]

/-- **Work in a savepoint succeeds** when the connection can be used, the work itself succeeds, and
what it leaves can be committed. -/
theorem savepoint_eq_ok {α : Type} {store after : Store} {a : α}
    {work : Store → Except StorageError (α × Store)} :
    store.savepoint work = .ok (a, after) ↔
      store.connection ≠ .closed ∧ work store = .ok (a, after) ∧ after.connection = .ready := by
  simp only [savepoint, startTransaction, bind_eq_ok, ← reach_eq_ok, ← commit_eq_ok]
  constructor
  · rintro ⟨⟨⟩, hr, ⟨b, s⟩, hw, ⟨⟩, hc, h⟩
    cases h
    exact ⟨hr, hw, hc⟩
  · rintro ⟨hr, hw, hc⟩
    exact ⟨(), hr, (a, after), hw, (), hc, rfl⟩

theorem refusal?_eq_none {α : Type} {store : Store}
    {work : Store → Except StorageError (α × Store)} :
    store.refusal? work = none ↔ ∃ a after, store.savepoint work = .ok (a, after) := by
  rw [refusal?]
  cases h : store.savepoint work with
  | error e => simp
  | ok done => exact ⟨fun _ => ⟨done.1, done.2, rfl⟩, fun _ => rfl⟩

theorem refusal?_eq_some {α : Type} {store : Store} {e : StorageError}
    {work : Store → Except StorageError (α × Store)} :
    store.refusal? work = some e ↔ store.savepoint work = .error e := by
  rw [refusal?]
  cases store.savepoint work <;> simp

end Store

end CandleArchive
