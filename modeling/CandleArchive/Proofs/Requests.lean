import CandleArchive.Market.Klines
import CandleArchive.Proofs.Config
import CandleArchive.Proofs.Pairs
import CandleArchive.Proofs.Transaction

/-!
# Requests — what a run asks of the candle source

A run that has a ranking and opens its transaction asks for every timeframe of every listing,
listing by listing, whatever fails meanwhile. The listings have no symbol twice, and neither has a
configured list of timeframes a value twice, so nothing is asked for twice.

* `plannedRequests`: the requests for a ranking;
* `quiet_ofWeb`, `requestsOf_ranking_ofWeb`: the exchange and the ranking ask no candle source;
* **`requestsOf_importPairsUnder`**, `requestsOf_runUnder`, `requestsOf_runUnder_ofWeb`: the pairs of
  a run, and the run;
* `nodup_plannedRequests`, **`requests_are_planned`**: every run.
-/

namespace CandleArchive

/-- The requests for the entries of a ranking: for each listing, in their order, every timeframe. -/
def plannedRequests (settings : RunSettings) (assets : List MarketAsset) : List CandleRequest :=
  (listings settings.quoteAsset assets).flatMap fun l =>
    settings.timeframes.map fun t => ⟨l.symbol, t, settings.candleLimit⟩

theorem plannedRequests_eq (settings : RunSettings) (assets : List MarketAsset) :
    plannedRequests settings assets =
      (pairs (listings settings.quoteAsset assets) settings.timeframes).map
        (pairRequest settings.candleLimit) := by
  rw [plannedRequests, pairs, List.map_flatMap]
  simp only [List.map_map]
  rfl

/-! ## Sources on the web -/

theorem requestsOf_sent (sent : List Web.Request) : requestsOf (sent.map .sent) = [] := by
  simp [requestsOf, Event.request?, List.filterMap_map, Function.comp_def]

theorem requestsOf_cons_logged (line : LogLine) (events : List Event) :
    requestsOf (.logged line :: events) = requestsOf events := rfl

theorem quiet_ofWeb (transport : Web.Transport) (base : String) :
    (CandleSource.ofWeb transport base).Quiet := by
  intro request
  rw [CandleSource.ofWeb, CandleSource.behind, requestsOf_append, requestsOf_logged, requestsOf_sent]
  rfl

theorem requestsOf_ranking_ofWeb (transport : Web.Transport) (base : String) (count : Nat) :
    requestsOf (Ranking.ofWeb transport base count).events = [] := by
  rw [Ranking.ofWeb, Ranking.behind]
  split_ifs with h
  · rfl
  · rw [requestsOf_append, requestsOf_cons_logged, requestsOf_logged, requestsOf_sent]
    rfl

theorem flatMap_of_quiet {source : CandleSource} (hs : source.Quiet)
    (requests : List CandleRequest) :
    (requests.flatMap fun request => request :: requestsOf (source request).events) = requests := by
  have hone : ∀ request ∈ requests, request :: requestsOf (source request).events = [request] :=
    fun request _ => congrArg _ (hs request)
  rw [List.flatMap_congr hone]
  exact List.flatMap_singleton' _

/-! ## What a run asks -/

section Asked

variable {source : CandleSource} {limit : Nat}

/-- **The pairs of a run** are asked for one after another, whatever becomes of them and of the
connection. -/
theorem requestsOf_importPairsUnder (trace : Nat → Connection) (s : RunState)
    (ps : List (String × Timeframe)) :
    requestsOf (importPairsUnder trace source limit s ps).events = requestsOf s.events ++
      ps.flatMap fun pair =>
        pairRequest limit pair :: requestsOf (source (pairRequest limit pair)).events := by
  rw [importPairsUnder]
  -- the number of the pair decides on its connection, so the induction is for every first number
  generalize 0 = n
  induction ps generalizing s n with
  | nil => simp
  | cons pair ps ih =>
    have hone := requestsOf_importNext source limit (s.under (trace n)) pair
    rw [List.zipIdx_cons, List.foldl_cons, ih, hone, List.flatMap_cons, List.append_assoc]
    rfl

theorem requestsOf_runUnder {trace : ConnectionTrace} {settings : RunSettings} {ranking : Ranking}
    {store : Store} {now : Nat} {assets : List MarketAsset}
    (ha : (ranking settings.topN).assets = .ok assets) (ho : trace.opening ≠ .closed) :
    requestsOf (runUnder trace settings ranking source store now).events =
      requestsOf (ranking settings.topN).events ++
        (plannedRequests settings assets).flatMap fun request =>
          request :: requestsOf (source request).events := by
  have hpairs : ∀ registered : Store,
      requestsOf (importListingsUnder trace.pair settings source
        (listings settings.quoteAsset assets) registered now).events =
      (plannedRequests settings assets).flatMap fun request =>
        request :: requestsOf (source request).events := by
    intro registered
    rw [importListingsUnder, requestsOf_importPairsUnder, plannedRequests_eq, List.flatMap_map]
    exact List.nil_append _
  by_cases hc : trace.commit = .ready
  · simp [runUnder, ha, begin_eq, ho, hc, commit_of_ready, requestsOf_append, requestsOf_logged,
      requestsOf_cons_logged, hpairs]
  · simp [runUnder, ha, begin_eq, ho, commit_of_not_ready hc, requestsOf_append, requestsOf_logged,
      requestsOf_cons_logged, hpairs]

theorem requestsOf_runUnder_ofWeb {trace : ConnectionTrace} {settings : RunSettings}
    {transport : Web.Transport} {rankingBase exchangeBase : String} {store : Store} {now : Nat}
    {assets : List MarketAsset}
    (ha : (Ranking.ofWeb transport rankingBase settings.topN).assets = .ok assets)
    (ho : trace.opening ≠ .closed) :
    requestsOf (runUnder trace settings (Ranking.ofWeb transport rankingBase)
      (CandleSource.ofWeb transport exchangeBase) store now).events =
        plannedRequests settings assets := by
  rw [requestsOf_runUnder ha ho, requestsOf_ranking_ofWeb, List.nil_append,
    flatMap_of_quiet (quiet_ofWeb _ _)]

end Asked

/-! ## No request twice -/

theorem nodup_plannedRequests {settings : RunSettings} (ht : settings.timeframes.Nodup)
    (assets : List MarketAsset) :
    ((plannedRequests settings assets).map fun request =>
      (request.symbol, request.timeframe)).Nodup := by
  rw [plannedRequests_eq, List.map_map]
  have hid : (fun request : CandleRequest => (request.symbol, request.timeframe)) ∘
      pairRequest settings.candleLimit = id := rfl
  rw [hid, List.map_id]
  exact nodup_pairs (nodup_listings _ _) ht

/-- **A run asks for what is planned**: every timeframe of every listing in order, whatever fails.
-/
theorem requests_are_planned {trace : ConnectionTrace} {settings : RunSettings} {ranking : Ranking}
    {assets : List MarketAsset} (ha : (ranking settings.topN).assets = .ok assets)
    (ho : trace.opening ≠ .closed) (source : CandleSource) (store : Store) (now : Nat) :
    let called := runUnder trace settings ranking source store now
    let planned := plannedRequests settings assets
    let ls := listings settings.quoteAsset assets
    let ranked := assets.map (MarketAsset.listing settings.quoteAsset)
    requestsOf called.events = requestsOf (ranking settings.topN).events ++
        planned.flatMap (fun request => request :: requestsOf (source request).events) ∧
      (source.Quiet → requestsOf (ranking settings.topN).events = [] →
        requestsOf called.events = planned) ∧
      (trace = .steady store.connection →
        (run settings ranking source store now).events = called.events) ∧
      (ls.Sublist ranked ∧ ∀ l, l ∈ ls ↔ ranked.find? (·.symbol = l.symbol) = some l) ∧
      ∀ lookup config, Config.ofLookup lookup = .ok config →
        settings.timeframes = config.timeframes →
          (planned.map fun request => (request.symbol, request.timeframe)).Nodup := by
  intro called planned ls ranked
  have hasked : requestsOf called.events = _ := requestsOf_runUnder ha ho
  refine ⟨hasked, fun hs hr => ?_, ?_, ⟨sublist_listings _ _, fun l => mem_listings⟩, ?_⟩
  · rw [hasked, hr, List.nil_append, flatMap_of_quiet hs]
  · rintro rfl
    exact runUnder_steady.2.2.symm
  · intro lookup config hconfig ht
    exact nodup_plannedRequests (ht ▸ nodup_timeframes_ofLookup hconfig) assets

/-- A list of timeframes that names one twice. -/
def SmallRun.lookup : Lookup := fun key => if key = "TIMEFRAMES" then some "1h, 1d,1h" else none

/-- Three entries of a ranking have two symbols, one of which cannot be registered; one pair cannot
be written, and the commit is lost. -/
theorem requests_are_planned_small :
    let called := runUnder SmallRun.lostAtCommit SmallRun.settings SmallRun.ranking SmallRun.source
      SmallRun.store 0
    (∃ assets, (SmallRun.ranking SmallRun.settings.topN).assets = .ok assets) ∧
      SmallRun.lostAtCommit.opening ≠ .closed ∧
      requestsOf called.events =
        [⟨"BTCUSDT", .oneHour, 200⟩, ⟨"BTCUSDT", .oneDay, 200⟩,
          ⟨"ETHUSDT", .oneHour, 200⟩, ⟨"ETHUSDT", .oneDay, 200⟩] ∧
      (∃ config, Config.ofLookup SmallRun.lookup = .ok config ∧
        SmallRun.settings.timeframes = config.timeframes) ∧
      ((requestsOf called.events).map fun request =>
        (request.symbol, request.timeframe)).Nodup := by
  intro called
  obtain ⟨assets, ha⟩ : ∃ assets, (SmallRun.ranking SmallRun.settings.topN).assets = .ok assets :=
    ⟨_, rfl⟩
  have ho : SmallRun.lostAtCommit.opening ≠ .closed := by decide
  obtain ⟨config, hconfig, ht⟩ : ∃ config, Config.ofLookup SmallRun.lookup = .ok config ∧
      SmallRun.settings.timeframes = config.timeframes := ⟨_, rfl, by decide +kernel⟩
  obtain ⟨-, hplanned, -, -, hnodup⟩ :=
    requests_are_planned ha ho SmallRun.source SmallRun.store 0
  have hasked : requestsOf called.events = plannedRequests SmallRun.settings assets :=
    hplanned (fun _ => rfl) rfl
  have hnone := hnodup SmallRun.lookup config hconfig ht
  rw [← hasked] at hnone
  refine ⟨⟨assets, ha⟩, ho, ?_, ⟨config, hconfig, ht⟩, hnone⟩
  obtain rfl := Except.ok.inj ha
  rw [hasked]
  decide +kernel

end CandleArchive
