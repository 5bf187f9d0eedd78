import CandleArchive.Market.Klines
import CandleArchive.Proofs.History
import CandleArchive.Proofs.LongPage
import CandleArchive.Proofs.Ranking
import CandleArchive.Proofs.Timeframe
import CandleArchive.Proofs.Web.Url

/-!
# Klines — what the exchange is asked, and what is taken of its answer

The symbol of a request is any text. It is encoded as one value of the query, which is read back as
it was given, so requests for different candles have different targets. Of an answer every row is
taken: the limit stands in the query alone, so an answer that is longer stays longer.

* `klinePairs_inj`, `decode?_klinePairs`: the pairs of a request;
* `behind_of_no_address`, `behind_of_address`, `exists_address_of_sent`: what is sent;
* `query_of_sent`, **`kline_target_faithful`**: its target;
* `rows_readKlines`, `rows_of_sent`, **`kline_answer_taken_whole`**: what is taken.
-/

namespace CandleArchive

/-! ## The pairs of a request -/

theorem toString_inj {m n : ℕ} : toString m = toString n ↔ m = n := by
  constructor
  · intro h
    have hdigits : Nat.toDigits 10 m = Nat.toDigits 10 n := String.ofList_injective h
    rw [← Nat.ofDigitChars_ten_toDigits (n := m), hdigits, Nat.ofDigitChars_ten_toDigits]
  · rintro rfl
    rfl

/-- **The pairs of a request** determine what is asked for. -/
theorem klinePairs_inj {request other : CandleRequest} :
    klinePairs request = klinePairs other ↔
      request.symbol = other.symbol ∧ request.timeframe = other.timeframe ∧
        klineLimit request.limit = klineLimit other.limit := by
  simp only [klinePairs, List.cons.injEq, Prod.mk.injEq, true_and, and_true,
    Timeframe.name_injective.eq_iff, toString_inj]

theorem decode?_klinePairs (request : CandleRequest) :
    Web.Form.decode? (Web.Form.encode (klinePairs request)) =
      some [("symbol", request.symbol), ("interval", request.timeframe.name),
        ("limit", toString (max 1 (min request.limit 1000)))] :=
  Web.Form.decode?_encode _

/-! ## What is taken of an answer -/

/-- **Every row of a page** is taken, and none of anything else. -/
theorem rows_readKlines (request : CandleRequest) (answer : Web.Answer) :
    answer.Carries rows? (readKlines request answer).1 ∨
      (readKlines request answer).1 = [] ∧ ∀ rows, ¬ answer.Carries rows? rows := by
  cases answer with
  | unreachable detail => exact .inr ⟨rfl, fun rows => Web.Answer.not_carries_unreachable⟩
  | response status body =>
    simp only [Web.Answer.carries_response]
    unfold readKlines
    by_cases hs : Web.isSuccess status = true
    · cases hbody : body.bind rows? with
      | none => simp [hs, hbody]
      | some rows => simp [hs, hbody]
    · simp [hs]

namespace CandleSource

/-! ## What is sent -/

section Sent

variable {parse : Web.UrlParser} {transport : Web.Transport} {base : String} {request : CandleRequest}
  {url : Web.Url}

theorem sentOf_behind (parse : Web.UrlParser) (transport : Web.Transport) (base : String)
    (request : CandleRequest) :
    sentOf (CandleSource.behind parse transport base request).events =
      (Web.fetch parse transport (Web.joinPath base "/api/v3/klines")
        (klinePairs request)).sent.toList := by
  unfold CandleSource.behind
  rw [sentOf_append, sentOf_sent, sentOf_logged, List.append_nil]

theorem behind_of_no_address (transport : Web.Transport) (request : CandleRequest)
    {reason : String} (hurl : parse (Web.joinPath base "/api/v3/klines") = .error reason) :
    sentOf (CandleSource.behind parse transport base request).events = [] ∧
      (CandleSource.behind parse transport base request).rows = [] := by
  constructor
  · rw [sentOf_behind, Web.fetch_of_error hurl]
    rfl
  · unfold CandleSource.behind
    rw [Web.fetch_of_error hurl]
    rfl

/-- **With an address one request is sent**, and the rows are taken from its answer. -/
theorem behind_of_address (transport : Web.Transport) (request : CandleRequest)
    (hurl : parse (Web.joinPath base "/api/v3/klines") = .ok url) :
    let sent : Web.Request := ⟨url.withPairs (klinePairs request), Web.userAgent⟩
    sentOf (CandleSource.behind parse transport base request).events = [sent] ∧
      (CandleSource.behind parse transport base request).rows =
        (readKlines request ((transport sent).about sent)).1 := by
  intro sent
  constructor
  · rw [sentOf_behind, Web.fetch_of_ok hurl]
    rfl
  · unfold CandleSource.behind
    rw [Web.fetch_of_ok hurl]

theorem exists_address_of_sent {sent : Web.Request}
    (h : sent ∈ sentOf (CandleSource.behind parse transport base request).events) :
    ∃ url, parse (Web.joinPath base "/api/v3/klines") = .ok url ∧
      sent = ⟨url.withPairs (klinePairs request), Web.userAgent⟩ := by
  cases hurl : parse (Web.joinPath base "/api/v3/klines") with
  | error reason =>
    rw [(behind_of_no_address transport request hurl).1] at h
    contradiction
  | ok url =>
    rw [(behind_of_address transport request hurl).1] at h
    exact ⟨url, rfl, List.mem_singleton.mp h⟩

/-- **The query of what is sent** is that of the pairs, behind the first question mark. -/
theorem query_of_sent (hparse : parse.Marks) {sent : Web.Request} (hbase : '?' ∉ base.toList)
    (h : sent ∈ sentOf (CandleSource.behind parse transport base request).events) :
    ∃ url, parse (Web.joinPath base "/api/v3/klines") = .ok url ∧
      sent = ⟨{ url with query := some (Web.Form.encode (klinePairs request)) }, Web.userAgent⟩ ∧
      sent.url.target.toList = url.path ++ '?' :: Web.Form.encode (klinePairs request) ∧
      '?' ∉ url.path := by
  obtain ⟨url, hurl, rfl⟩ := exists_address_of_sent h
  have hmark : '?' ∉ (Web.joinPath base "/api/v3/klines").toList :=
    Web.notMem_joinPath hbase (by decide)
  have hown : url.ownPairs = [] := Web.Url.ownPairs_of_no_query (hparse.query hurl hmark)
  refine ⟨url, hurl, ?_, ?_, hparse.path hurl⟩
  · rw [Web.Url.withPairs_eq, hown, List.nil_append]
  · rw [Web.Url.toList_target_withPairs, hown, List.nil_append]

theorem behind_append_slashes (parse : Web.UrlParser) (transport : Web.Transport) (base : String)
    (n : ℕ) :
    CandleSource.behind parse transport (base ++ String.ofList (List.replicate n '/')) =
      CandleSource.behind parse transport base := by
  unfold CandleSource.behind
  rw [Web.joinPath_append_slashes]

/-- **What is asked for** can be told from the target. -/
theorem eq_of_target_eq (hparse : parse.Marks) {transport' : Web.Transport} {base' : String}
    {other : CandleRequest} {sent sent' : Web.Request} (hbase : '?' ∉ base.toList)
    (hbase' : '?' ∉ base'.toList)
    (h : sent ∈ sentOf (CandleSource.behind parse transport base request).events)
    (h' : sent' ∈ sentOf (CandleSource.behind parse transport' base' other).events)
    (htarget : sent.url.target = sent'.url.target) :
    klinePairs request = klinePairs other := by
  obtain ⟨url, -, -, hquery, hmark⟩ := query_of_sent hparse hbase h
  obtain ⟨url', -, -, hquery', hmark'⟩ := query_of_sent hparse hbase' h'
  rw [htarget, hquery'] at hquery
  obtain ⟨-, hpairs⟩ := Web.query_of_target_eq hmark' hmark hquery
  have hdecoded := congrArg Web.Form.decode? hpairs
  rw [Web.Form.decode?_encode, Web.Form.decode?_encode] at hdecoded
  exact (Option.some.inj hdecoded).symm

theorem rows_of_sent {sent : Web.Request} {rows : List Row}
    (h : sent ∈ sentOf (CandleSource.behind parse transport base request).events)
    (hrows : (transport sent).Carries rows? rows) :
    (CandleSource.behind parse transport base request).rows = rows := by
  obtain ⟨url, hurl, rfl⟩ := exists_address_of_sent h
  rw [(behind_of_address transport request hurl).2]
  rcases rows_readKlines request ((transport _).about _) with hpage | ⟨-, hnone⟩
  · exact (Web.Answer.carries_about.mp hpage).unique hrows
  · exact absurd (Web.Answer.carries_about.mpr hrows) (hnone rows)

/-- Where there are rows, a page of them has come back. -/
theorem exists_sent_or_rows_eq_nil (parse : Web.UrlParser) (transport : Web.Transport)
    (base : String) (request : CandleRequest) :
    (∃ sent ∈ sentOf (CandleSource.behind parse transport base request).events,
        (transport sent).Carries rows? (CandleSource.behind parse transport base request).rows) ∨
      (CandleSource.behind parse transport base request).rows = [] := by
  cases hurl : parse (Web.joinPath base "/api/v3/klines") with
  | error reason => exact .inr (behind_of_no_address transport request hurl).2
  | ok url =>
    obtain ⟨hsent, hrows⟩ := behind_of_address transport request hurl
    rw [hsent, hrows]
    rcases rows_readKlines request ((transport _).about _) with hpage | ⟨hnone, -⟩
    · exact .inl ⟨_, List.mem_singleton_self _, Web.Answer.carries_about.mp hpage⟩
    · exact .inr hnone

end Sent

end CandleSource

/-- **The target is faithful to the request**: its query is read back as what was asked for, so
requests with one target ask for the same candles. -/
theorem kline_target_faithful {parse : Web.UrlParser} (hparse : parse.Marks) :
    (∀ (transport : Web.Transport) (base : String) (request : CandleRequest),
      '?' ∉ base.toList →
      let address := parse (Web.joinPath base "/api/v3/klines")
      let requests := sentOf (CandleSource.behind parse transport base request).events
      ((∃ reason, address = .error reason) ∧ requests = [] ∨
        ∃ url sent, address = .ok url ∧ requests = [sent]) ∧
      ∀ sent ∈ requests, ∃ url query, address = .ok url ∧
        sent = ⟨{ url with query := some query }, Web.userAgent⟩ ∧
        sent.url.target.toList = url.path ++ '?' :: query ∧ '?' ∉ url.path ∧
        (∀ c ∈ query, c.isAlphanum ∨ c ∈ "*-._+%&=".toList) ∧
        Web.Form.decode? query =
          some [("symbol", request.symbol), ("interval", request.timeframe.name),
            ("limit", toString (max 1 (min request.limit 1000)))]) ∧
    (∀ (transport transport' : Web.Transport) (base base' : String)
      (request other : CandleRequest), '?' ∉ base.toList → '?' ∉ base'.toList →
      ∀ sent ∈ sentOf (CandleSource.behind parse transport base request).events,
        ∀ sent' ∈ sentOf (CandleSource.behind parse transport' base' other).events,
          sent.url.target = sent'.url.target →
            request.symbol = other.symbol ∧ request.timeframe = other.timeframe ∧
              max 1 (min request.limit 1000) = max 1 (min other.limit 1000)) ∧
    ∀ (transport : Web.Transport) (base : String) (n : ℕ),
      CandleSource.behind parse transport (base ++ String.ofList (List.replicate n '/')) =
        CandleSource.behind parse transport base := by
  refine ⟨?_, ?_, CandleSource.behind_append_slashes parse⟩
  · intro transport base request hbase address requests
    constructor
    · cases hurl : address with
      | error reason =>
        obtain ⟨hnone, -⟩ := CandleSource.behind_of_no_address transport request hurl
        exact .inl ⟨⟨reason, rfl⟩, hnone⟩
      | ok url =>
        obtain ⟨hone, -⟩ := CandleSource.behind_of_address transport request hurl
        exact .inr ⟨url, _, rfl, hone⟩
    · intro sent hsent
      obtain ⟨url, hurl, heq, htarget, hmark⟩ := CandleSource.query_of_sent hparse hbase hsent
      exact ⟨url, _, hurl, heq, htarget, hmark, fun c hc => Web.Form.mem_encode hc,
        decode?_klinePairs request⟩
  · intro transport transport' base base' request other hbase hbase' sent hsent sent' hsent' h
    exact klinePairs_inj.mp (CandleSource.eq_of_target_eq hparse hbase hbase' hsent hsent' h)

/-- A symbol that is made of marks, and a base with a slash at its end. -/
theorem kline_target_faithful_small :
    let request : CandleRequest := ⟨"a&limit=9#ü ", .oneHour, 5000⟩
    let source := CandleSource.ofWeb Web.Transport.offline "http://host/"
    ∃ sent, sentOf (source request).events = [sent] ∧
      sent.url.target =
        "/api/v3/klines?symbol=a%26limit%3D9%23%C3%BC+&interval=1h&limit=1000" ∧
      (∃ query, sent.url.query = some query ∧ Web.Form.decode? query =
        some [("symbol", "a&limit=9#ü "), ("interval", "1h"), ("limit", "1000")]) ∧
      ∀ other, sentOf (source other).events = [sent] → other.symbol = "a&limit=9#ü " := by
  intro request source
  have hbase : '?' ∉ "http://host/".toList := by decide
  obtain ⟨sent, hsent, htarget⟩ : ∃ sent, sentOf (source request).events = [sent] ∧
      sent.url.target =
        "/api/v3/klines?symbol=a%26limit%3D9%23%C3%BC+&interval=1h&limit=1000" :=
    ⟨⟨⟨"http", "host", "/api/v3/klines".toList,
      some "symbol=a%26limit%3D9%23%C3%BC+&interval=1h&limit=1000".toList, none⟩,
      "price-importer/0.1.0"⟩, by decide +kernel, by decide +kernel⟩
  obtain ⟨hfaithful, hinjective, -⟩ := kline_target_faithful Web.Url.parse_marks
  obtain ⟨-, hall⟩ := hfaithful Web.Transport.offline "http://host/" request hbase
  have hmem : sent ∈ sentOf (source request).events := hsent ▸ List.mem_singleton_self sent
  obtain ⟨url, query, -, heq, -, -, -, hquery⟩ := hall sent hmem
  have hlimit : toString (max 1 (min request.limit 1000)) = "1000" := by decide +kernel
  rw [hlimit] at hquery
  refine ⟨sent, hsent, htarget, ⟨query, ?_, hquery⟩, fun other hother => ?_⟩
  · rw [heq]
  · have hmem' : sent ∈ sentOf (source other).events := hother ▸ List.mem_singleton_self sent
    obtain ⟨hsymbol, -, -⟩ := hinjective _ _ _ _ request other hbase hbase sent hmem sent hmem' rfl
    exact hsymbol.symm

/-- **Every row of an answer is taken.** The number of rows keeps to the limit exactly where no page
that comes back is longer, and behind any address a network may give any number of candles. -/
theorem kline_answer_taken_whole (parse : Web.UrlParser) (base : String) (request : CandleRequest) :
    (∀ transport : Web.Transport,
      let reply := CandleSource.behind parse transport base request
      let bound := max 1 (min request.limit 1000)
      (reply.rows.length ≤ bound ↔
        ∀ sent ∈ sentOf reply.events, ∀ rows, (transport sent).Carries rows? rows →
          rows.length ≤ bound) ∧
      (∀ sent ∈ sentOf reply.events, ∀ rows, (transport sent).Carries rows? rows →
        reply.rows = rows) ∧
      ∀ symbol timeframe store counts,
        (importRows symbol timeframe reply.rows store).outcome = .ok counts →
          counts.fetched = reply.rows.length ∧
            counts.attempted = (candlesOf reply.rows).length) ∧
    ∀ url, parse (Web.joinPath base "/api/v3/klines") = .ok url →
      ∀ n, ∃ transport : Web.Transport,
        let reply := CandleSource.behind parse transport base request
        reply.rows.length = n + 1 ∧ (candlesOf reply.rows).length = n + 1 := by
  refine ⟨fun transport => ?_, fun url hurl n => ?_⟩
  · intro reply bound
    have htaken : ∀ sent ∈ sentOf reply.events, ∀ rows, (transport sent).Carries rows? rows →
        reply.rows = rows := fun sent hsent rows => CandleSource.rows_of_sent hsent
    refine ⟨⟨fun hle sent hsent rows hrows => ?_, fun hpages => ?_⟩, htaken, ?_⟩
    · rw [← htaken sent hsent rows hrows]
      exact hle
    · rcases CandleSource.exists_sent_or_rows_eq_nil parse transport base request with
        ⟨sent, hsent, hpage⟩ | hnone
      · exact hpages sent hsent _ hpage
      · show reply.rows.length ≤ bound
        rw [show reply.rows = [] from hnone]
        exact Nat.zero_le _
    · intro symbol timeframe store counts h
      obtain ⟨hfetched, hattempted, -⟩ := counts_of_importRows h
      exact ⟨hfetched, hattempted⟩
  · let transport : Web.Transport := fun _ => .response 200 (some (LongPage.page n))
    refine ⟨transport, ?_⟩
    intro reply
    have hpage : (Web.Answer.response 200 (some (LongPage.page n))).Carries rows?
        (List.replicate (n + 1) LongPage.value) :=
      Web.Answer.carries_response.mpr ⟨rfl, LongPage.rows?_page n⟩
    obtain ⟨hsent, -⟩ := CandleSource.behind_of_address transport request hurl
    have hrows : reply.rows = List.replicate (n + 1) LongPage.value :=
      CandleSource.rows_of_sent (hsent ▸ List.mem_singleton_self _) hpage
    rw [hrows]
    exact ⟨List.length_replicate, LongPage.length_candlesOf _⟩

/-- A page of two candles. -/
def SmallRun.klines : String :=
  "[[1700000000000,\"100\",\"110\",\"90\",\"105\",\"50\"]," ++
    "[1700003600000,\"105\",\"108\",\"95\",\"106\",\"40\"]]"

/-- The page where two rows are asked for, and where one is. -/
theorem kline_answer_taken_whole_small :
    let source := CandleSource.ofWeb (SmallRun.network SmallRun.klines) "http://host"
    (source ⟨"BTCUSDT", .oneHour, 2⟩).rows.length ≤ 2 ∧
      ∃ rows, (Web.Answer.response 200 (some (Text.utf8 SmallRun.klines))).Carries rows? rows ∧
        rows.length = 2 ∧ (source ⟨"BTCUSDT", .oneHour, 1⟩).rows = rows := by
  intro source
  have hlength : (rows? (Text.utf8 SmallRun.klines)).map List.length = some 2 := by decide +kernel
  obtain ⟨rows, hrows, htwo⟩ := Option.map_eq_some_iff.mp hlength
  have hpage : (Web.Answer.response 200 (some (Text.utf8 SmallRun.klines))).Carries rows? rows :=
    Web.Answer.carries_response.mpr ⟨rfl, hrows⟩
  obtain ⟨htwoRows, -⟩ := kline_answer_taken_whole Web.Url.parse "http://host" ⟨"BTCUSDT", .oneHour, 2⟩
  obtain ⟨honeRow, -⟩ := kline_answer_taken_whole Web.Url.parse "http://host" ⟨"BTCUSDT", .oneHour, 1⟩
  obtain ⟨hbound, -, -⟩ := htwoRows (SmallRun.network SmallRun.klines)
  obtain ⟨-, htaken, -⟩ := honeRow (SmallRun.network SmallRun.klines)
  refine ⟨hbound.mpr fun sent _ rows' hrows' => ?_, rows, hpage, htwo, ?_⟩
  · rw [hrows'.unique hpage, htwo]
    decide
  · obtain ⟨sent, hsent⟩ : ∃ sent, sent ∈ sentOf (source ⟨"BTCUSDT", .oneHour, 1⟩).events :=
      List.exists_mem_of_ne_nil _ (by decide +kernel)
    exact htaken sent hsent rows hpage

/-- A page of two rows is taken where one row is asked for. -/
theorem kline_limit_exceeded :
    ¬ ∀ (transport : Web.Transport) (base : String) (request : CandleRequest),
      (CandleSource.ofWeb transport base request).rows.length ≤ max 1 (min request.limit 1000) := by
  intro h
  have hrows := h (SmallRun.network SmallRun.klines) "http://host" ⟨"BTCUSDT", .oneHour, 1⟩
  revert hrows
  decide +kernel

end CandleArchive
