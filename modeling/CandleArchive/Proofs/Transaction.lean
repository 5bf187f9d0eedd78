import CandleArchive.Proofs.Run

/-!
# Transactions — what is kept of a run that fails

A run works inside one transaction, and the connection may let it down at any call: when the
transaction is opened, in the savepoint of any listing or pair, and when the transaction is committed.
What the transaction does becomes durable with the commit; that a commit which reports an error keeps
nothing is assumed of the database.

* `ConnectionTrace`, `ConnectionTrace.Atomic`: the database in the course of a run, and the assumption;
* `TransactionCall`, `Session`: a database with what is durable, and the calls for the transaction;
* `importPairsUnder`, `runUnder`: a run call by call;
* **`runUnder_steady`**: the same run when the state of the connection does not change;
* `runUnder_cases`: a run that is committed, and one that leaves the store as it was;
* **`failed_run_writes_nothing`**: which failures end a run, and what they leave.
-/

namespace CandleArchive

/-- The state of the connection in the course of a run: when the transaction is opened, in the
savepoint of each listing and of each pair, and when the transaction is committed. A commit that
reports an error makes of what was durable and what the transaction had come to what is `abandoned`. -/
structure ConnectionTrace where
  opening : Connection
  listing : Nat → Connection
  pair : Nat → Connection
  commit : Connection
  abandoned : Store → Store → Store := fun durable _ => durable

/-- Assumed of the database: a commit that reports an error keeps nothing of its transaction. -/
def ConnectionTrace.Atomic (trace : ConnectionTrace) : Prop :=
  ∀ durable working, trace.abandoned durable working = durable

/-- The connection is in one state all the time. -/
def ConnectionTrace.steady (c : Connection) : ConnectionTrace where
  opening := c
  listing _ := c
  pair _ := c
  commit := c

/-- What is asked of the database for a transaction as a whole. -/
inductive TransactionCall where
  | begin
  | commit
  | rollback
  deriving DecidableEq, Repr

/-- A database: what is durable, and what was asked of it. -/
structure Session where
  durable : Store
  calls : List TransactionCall := []

namespace Session

/-- Opens a transaction, which starts with what is durable. -/
def begin (c : Connection) (s : Session) : Except StorageError Store × Session :=
  ((s.durable.under c).startTransaction.map fun () => s.durable,
    { s with calls := s.calls ++ [.begin] })

/-- Commits the transaction that has come to the store `working`; what cannot be committed is
abandoned, and so rolled back. -/
def commit (trace : ConnectionTrace) (working : Store) (s : Session) :
    Except StorageError Unit × Session :=
  match (working.under trace.commit).commit with
  | .ok () =>
    (.ok (), { durable := working.under s.durable.connection, calls := s.calls ++ [.commit] })
  | .error e =>
    (.error e, { durable := trace.abandoned s.durable working
                 calls := s.calls ++ [.commit, .rollback] })

end Session

/-- The pairs so far over the connection in the given state. -/
def RunState.under (c : Connection) (s : RunState) : RunState := { s with store := s.store.under c }

/-- Imports the pairs in order, each over the connection in a state of its own. -/
def importPairsUnder (trace : Nat → Connection) (source : CandleSource) (limit : Nat) (s : RunState)
    (ps : List (String × Timeframe)) : RunState :=
  ps.zipIdx.foldl (fun s p => (s.under (trace p.2)).importNext source limit p.1) s

/-- Imports the pairs of registered listings, each over the connection in a state of its own. -/
def importListingsUnder (trace : Nat → Connection) (settings : RunSettings) (source : CandleSource)
    (ls : List Listing) (store : Store) (now : Nat) : RunState :=
  importPairsUnder trace source settings.candleLimit
    { outcomes := [], store, gate := { pause := settings.rateDelay }, clock := now, events := [] }
    (pairs ls settings.timeframes)

/-- A run on a session: its outcome, the session after it, and the events. -/
structure SessionRun where
  outcome : Except ImportError RunReport
  session : Session
  events : List Event

/-- A run call by call, over a connection whose state may change from one call to the next. -/
def runUnder (trace : ConnectionTrace) (settings : RunSettings) (ranking : Ranking)
    (source : CandleSource) (store : Store) (now : Nat) : SessionRun :=
  let reply := ranking settings.topN
  let idle : Session := { durable := store }
  match reply.assets with
  | .error failure =>
    { outcome := .error (.sourceUnavailable failure), session := idle, events := reply.events }
  | .ok assets =>
    let ls := listings settings.quoteAsset assets
    let opening := reply.events ++ [.logged (.importing ls.length settings.timeframes.length)]
    match idle.begin trace.opening with
    | (.error e, session) => { outcome := .error (.database e), session, events := opening }
    | (.ok working, session) =>
      let registered := reconcileUnder trace.listing now working ls
      let done := importListingsUnder trace.pair settings source ls registered.store now
      let events := opening ++ registered.lines.map .logged ++ done.events
      match session.commit trace done.store with
      | (.error e, session) => { outcome := .error (.database e), session, events }
      | (.ok (), session) =>
        let report := RunReport.summary registered.report done.outcomes
        { outcome := .ok report, session, events := events ++ (closingLines report).map .logged }

/-! ## A steady connection -/

theorem connection_importNext (source : CandleSource) (limit : Nat) (s : RunState)
    (pair : String × Timeframe) :
    (s.importNext source limit pair).store.connection = s.store.connection := by
  rw [store_importNext, Store.connection_addCandles]

theorem importPairsUnder_steady (source : CandleSource) (limit : Nat) {c : Connection}
    {s : RunState} (h : s.store.connection = c) (ps : List (String × Timeframe)) :
    importPairsUnder (fun _ => c) source limit s ps = importPairs source limit s ps := by
  have hchange : ∀ (_ : Nat) (s : RunState), s.store.connection = c → s.under c = s :=
    fun _ s hs => by rw [RunState.under, under_self hs]
  have hstep : ∀ (s : RunState) (pair : String × Timeframe), s.store.connection = c →
      (s.importNext source limit pair).store.connection = c :=
    fun s pair hs => (connection_importNext source limit s pair).trans hs
  exact foldl_zipIdx_of_invariant hchange hstep ps 0 h

theorem importListingsUnder_steady (settings : RunSettings) (source : CandleSource)
    (ls : List Listing) {store : Store} {c : Connection} (h : store.connection = c) (now : Nat) :
    importListingsUnder (fun _ => c) settings source ls store now =
      importListings settings source ls store now :=
  importPairsUnder_steady source settings.candleLimit h _

/-- What batches keep, and the state of the connection does not touch, is kept by imports over a
connection that changes. -/
theorem importListingsUnder_induction {P : Store → Prop}
    (add : ∀ store new, P store → P (store.addCandles new))
    (under : ∀ store c, P store → P (store.under c)) (trace : Nat → Connection)
    (settings : RunSettings) (source : CandleSource) (ls : List Listing) {store : Store} (now : Nat)
    (h : P store) : P (importListingsUnder trace settings source ls store now).store := by
  suffices hfold : ∀ (ps : List ((String × Timeframe) × Nat)) (s : RunState), P s.store →
      P (ps.foldl (fun s p => (s.under (trace p.2)).importNext source settings.candleLimit p.1)
        s).store from hfold _ _ h
  intro ps
  induction ps with
  | nil => exact fun _ hs => hs
  | cons p ps ih =>
    intro s hs
    refine ih _ ?_
    rw [store_importNext]
    exact add _ _ (under _ _ hs)

/-! ## Opening and committing -/

theorem begin_eq (c : Connection) (s : Session) :
    s.begin c =
      (if c = .closed then .error (.connection "the connection is closed") else .ok s.durable,
        { s with calls := s.calls ++ [.begin] }) := by
  by_cases hc : c = .closed <;>
    simp [Session.begin, Store.startTransaction, Store.reach, Store.under, hc, Except.map]

theorem begin_self (store : Store) :
    ({ durable := store } : Session).begin store.connection =
      (store.startTransaction.map fun () => store, { durable := store, calls := [.begin] }) := rfl

theorem commit_of_ready {trace : ConnectionTrace} (hc : trace.commit = .ready) (working : Store)
    (s : Session) :
    s.commit trace working =
      (.ok (), { durable := working.under s.durable.connection
                 calls := s.calls ++ [.commit] }) := by
  have h : (working.under trace.commit).commit = .ok () := if_pos hc
  rw [Session.commit, h]

theorem commit_of_not_ready {trace : ConnectionTrace} (hc : trace.commit ≠ .ready) (working : Store)
    (s : Session) :
    s.commit trace working =
      (.error (.connection "the transaction cannot be committed"),
        { durable := trace.abandoned s.durable working
          calls := s.calls ++ [.commit, .rollback] }) := by
  have h : (working.under trace.commit).commit =
      .error (.connection "the transaction cannot be committed") := if_neg hc
  rw [Session.commit, h]

/-! ## Runs -/

section Runs

variable {trace : ConnectionTrace} {settings : RunSettings} {ranking : Ranking}
  {source : CandleSource} {store : Store} {now : Nat} {assets : List MarketAsset}

theorem runUnder_of_unranked {failure : SourceFailure}
    (ha : (ranking settings.topN).assets = .error failure) :
    runUnder trace settings ranking source store now =
      { outcome := .error (.sourceUnavailable failure), session := { durable := store }
        events := (ranking settings.topN).events } := by
  simp only [runUnder, ha]

section Ranked

variable (ha : (ranking settings.topN).assets = .ok assets)
include ha

theorem runUnder_of_unopened (ho : trace.opening = .closed) :
    let done := runUnder trace settings ranking source store now
    done.outcome = .error (.database (.connection "the connection is closed")) ∧
      done.session = { durable := store, calls := [.begin] } ∧
      requestsOf done.events = requestsOf (ranking settings.topN).events := by
  simp [runUnder, ha, begin_eq, ho, requestsOf, Event.request?]

theorem runUnder_of_uncommitted (ho : trace.opening ≠ .closed) (hc : trace.commit ≠ .ready) :
    let done := runUnder trace settings ranking source store now
    done.outcome = .error (.database (.connection "the transaction cannot be committed")) ∧
      done.session.calls = [.begin, .commit, .rollback] ∧
      (trace.Atomic → done.session.durable = store) := by
  simp only [runUnder, ha, begin_eq, ho, if_false, commit_of_not_ready hc, List.nil_append,
    List.cons_append]
  exact ⟨trivial, trivial, fun hatomic => hatomic _ _⟩

theorem runUnder_of_committed (ho : trace.opening ≠ .closed) (hc : trace.commit = .ready) :
    let ls := listings settings.quoteAsset assets
    let registered := reconcileUnder trace.listing now store ls
    let done := importListingsUnder trace.pair settings source ls registered.store now
    let called := runUnder trace settings ranking source store now
    called.outcome = .ok (RunReport.summary registered.report done.outcomes) ∧
      called.session.calls = [.begin, .commit] ∧
      called.session.durable = done.store.under store.connection := by
  simp [runUnder, ha, begin_eq, ho, commit_of_ready hc]

end Ranked

theorem runUnder_cases (trace : ConnectionTrace) (settings : RunSettings) (ranking : Ranking)
    (source : CandleSource) (store : Store) (now : Nat) :
    let called := runUnder trace settings ranking source store now
    (∃ assets, (ranking settings.topN).assets = .ok assets ∧ trace.opening ≠ .closed ∧
      trace.commit = .ready) ∨
      (∃ e, called.outcome = .error e) ∧ (trace.Atomic → called.session.durable = store) := by
  intro called
  cases ha : (ranking settings.topN).assets with
  | error failure =>
    have hcalled : called = _ := runUnder_of_unranked ha
    rw [hcalled]
    exact .inr ⟨⟨_, rfl⟩, fun _ => rfl⟩
  | ok assets =>
    by_cases ho : trace.opening = .closed
    · obtain ⟨houtcome, hsession, -⟩ : called.outcome = _ ∧ called.session = _ ∧ _ :=
        runUnder_of_unopened ha ho
      exact .inr ⟨⟨_, houtcome⟩, fun _ => by rw [hsession]⟩
    · by_cases hc : trace.commit = .ready
      · exact .inl ⟨assets, rfl, ho, hc⟩
      · obtain ⟨houtcome, -, hdurable⟩ : called.outcome = _ ∧ called.session.calls = _ ∧
          (_ → called.session.durable = store) := runUnder_of_uncommitted ha ho hc
        exact .inr ⟨⟨_, houtcome⟩, hdurable⟩

/-- **Over a steady connection** a run call by call is the run. -/
theorem runUnder_steady :
    let called := runUnder (.steady store.connection) settings ranking source store now
    let done := run settings ranking source store now
    called.outcome = done.outcome ∧ called.session.durable = done.store ∧
      called.events = done.events := by
  cases ha : (ranking settings.topN).assets with
  | error failure =>
    rw [runUnder_of_unranked ha]
    simp only [run, ha, and_self]
  | ok assets =>
    let ls := listings settings.quoteAsset assets
    have hregistered : reconcileUnder (fun _ => store.connection) now store ls =
        reconcile now store ls := reconcileUnder_steady now rfl ls
    have hconnection : (reconcile now store ls).store.connection = store.connection :=
      connection_reconcile now store ls
    have hdone := importListingsUnder_steady settings source ls hconnection now
    have hkept : (importListings settings source ls (reconcile now store ls).store
        now).store.connection = store.connection := by
      rw [connection_importListings, hconnection]
    -- with the registration and the pairs the same, only opening and committing are left
    cases hs : store.startTransaction with
    | error e => simp [runUnder, run, ha, ConnectionTrace.steady, begin_self, hs, Except.map]
    | ok u =>
      cases hc : (importListings settings source ls
          (reconcile now store ls).store now).store.commit with
      | error e =>
        simp [runUnder, run, ha, ConnectionTrace.steady, begin_self, hs, Except.map, hregistered, hdone,
          Session.commit, under_self hkept, hc, ls]
      | ok u =>
        simp [runUnder, run, ha, ConnectionTrace.steady, begin_self, hs, Except.map, hregistered, hdone,
          Session.commit, under_self hkept, hc, ls]

/-- **A run that ends in an error writes nothing**: there is no ranking, or the transaction cannot
be opened, or it cannot be committed. -/
theorem failed_run_writes_nothing (trace : ConnectionTrace) (settings : RunSettings)
    (ranking : Ranking) (source : CandleSource) (store : Store) (now : Nat) :
    let reply := ranking settings.topN
    let called := runUnder trace settings ranking source store now
    (trace.Atomic → ∀ e, called.outcome = .error e → called.session.durable = store) ∧
      (∀ failure, reply.assets = .error failure →
        called.outcome = .error (.sourceUnavailable failure) ∧ called.session = ⟨store, []⟩ ∧
          called.events = reply.events) ∧
      (∀ assets, reply.assets = .ok assets → trace.opening = .closed →
        called.outcome = .error (.database (.connection "the connection is closed")) ∧
          called.session = ⟨store, [.begin]⟩ ∧
          requestsOf called.events = requestsOf reply.events) ∧
      (∀ assets, reply.assets = .ok assets → trace.opening ≠ .closed → trace.commit ≠ .ready →
        called.outcome = .error (.database (.connection "the transaction cannot be committed")) ∧
          called.session.calls = [.begin, .commit, .rollback]) ∧
      (∀ assets, reply.assets = .ok assets → trace.opening ≠ .closed → trace.commit = .ready →
        (∃ report, called.outcome = .ok report) ∧ called.session.calls = [.begin, .commit]) ∧
      (trace = .steady store.connection →
        let done := run settings ranking source store now
        done.outcome = called.outcome ∧ done.store = called.session.durable ∧
          done.events = called.events) := by
  intro reply called
  refine ⟨fun hatomic e he => ?_, fun failure ha => ?_, fun assets => runUnder_of_unopened,
    fun assets ha ho hc => ?_, fun assets ha ho hc => ?_, ?_⟩
  · rcases runUnder_cases trace settings ranking source store now with
      ⟨assets, ha, ho, hc⟩ | ⟨-, hdurable⟩
    · have hok : called.outcome = .ok _ := (runUnder_of_committed ha ho hc).1
      rw [hok] at he
      contradiction
    · exact hdurable hatomic
  · have hcalled : called = _ := runUnder_of_unranked ha
    rw [hcalled]
    exact ⟨rfl, rfl, rfl⟩
  · obtain ⟨houtcome, hcalls, -⟩ : called.outcome = _ ∧ called.session.calls = _ ∧ _ :=
      runUnder_of_uncommitted ha ho hc
    exact ⟨houtcome, hcalls⟩
  · obtain ⟨houtcome, hcalls, -⟩ : called.outcome = _ ∧ called.session.calls = _ ∧ _ :=
      runUnder_of_committed ha ho hc
    exact ⟨⟨_, houtcome⟩, hcalls⟩
  · rintro rfl
    obtain ⟨houtcome, hdurable, hevents⟩ : called.outcome = _ ∧ called.session.durable = _ ∧
      called.events = _ := runUnder_steady
    exact ⟨houtcome.symm, hdurable.symm, hevents.symm⟩

/-- A connection that is lost after the last pair of a run. -/
def SmallRun.lostAtCommit : ConnectionTrace := { ConnectionTrace.steady .ready with commit := .closed }

/-- A lost commit leaves the rows as they were, and a run without tables ends well. -/
theorem failed_run_writes_nothing_small :
    let lost := runUnder SmallRun.lostAtCommit SmallRun.settings SmallRun.ranking SmallRun.source
      SmallRun.store 0
    let bare := runUnder (.steady .ready) SmallRun.settings SmallRun.ranking SmallRun.source .fresh 0
    (SmallRun.lostAtCommit.Atomic ∧
        lost.outcome = .error (.database (.connection "the transaction cannot be committed")) ∧
        lost.session.durable = SmallRun.store ∧
        lost.session.calls = [.begin, .commit, .rollback]) ∧
      ∃ report, bare.outcome = .ok report := by
  have hranked : (SmallRun.ranking SmallRun.settings.topN).assets =
      .ok [⟨"btc", "Bitcoin", "b.png"⟩, ⟨" BTC", "Clone", ""⟩, ⟨"eth", "Ether", ""⟩] := rfl
  have hatomic : SmallRun.lostAtCommit.Atomic := fun _ _ => rfl
  obtain ⟨hkept, -, -, huncommitted, -, -⟩ := failed_run_writes_nothing SmallRun.lostAtCommit
    SmallRun.settings SmallRun.ranking SmallRun.source SmallRun.store 0
  obtain ⟨-, -, -, -, hcommitted, -⟩ := failed_run_writes_nothing (.steady .ready)
    SmallRun.settings SmallRun.ranking SmallRun.source .fresh 0
  obtain ⟨houtcome, hcalls⟩ := huncommitted _ hranked (by decide) (by decide)
  exact ⟨⟨hatomic, houtcome, hkept hatomic _ houtcome, hcalls⟩, (hcommitted _ hranked (by decide) rfl).1⟩

end Runs

end CandleArchive
