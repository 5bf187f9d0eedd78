import CandleArchive.Proofs.Report
import CandleArchive.Proofs.Transaction

/-!
# The log — what a run says of its failures

Operators see a run by its log. The lines come from the registration, from each pair and from the end
of the run, on different branches; still every failure leaves one line at its place, and the numbers
of the lines are those of the report.

* `logOf`, `CandleSource.Silent`: the lines among events, and a source that logs nothing;
* `malformed`, `PairOutcome.entries`: the rows that are no candles, and the lines of a pair;
* `LogLine.printed`, `PairOutcome.printed`, `RunReport.printed`: the lines in words;
* `LogLine.SaysCompleted`, `saysCompleted_iff`: a line that announces the end;
* `PairOutcome.Fits`, **`logOf_importNext`**, `logOf_importPairsUnder`: one pair, and several;
* `Reconciliation.Logs.add`, `RegistrationLog`, **`registrationLog_reconcileUnder`**: one listing, and a
  registration;
* `RunReport.Told`, **`told_summary`**: what the log tells, and why its parts tell it;
* `logOf_runUnder`, **`log_agrees_with_report`**: a whole run.
-/

namespace CandleArchive

/-- The line that an event logs. -/
def Event.line? : Event → Option LogLine
  | logged line => some line
  | asked .. | sent _ => none

/-- The log among the events, in order. -/
def logOf (events : List Event) : List LogLine := events.filterMap Event.line?

/-- The source logs nothing itself. -/
def CandleSource.Silent (source : CandleSource) : Prop :=
  ∀ request, logOf (source request).events = []

/-- The number of rows that are no candles. -/
def malformed (rows : List Row) : Nat := rows.countP fun row => row.candle?.isNone

/-- The pair that a line announces. -/
def LogLine.announced? : LogLine → Option (String × Timeframe)
  | importingPair symbol timeframe => some (symbol, timeframe)
  | _ => none

/-- The lines of a pair with the given answer: its announcement, what is wrong with the answer, and
what became of the candles. -/
def PairOutcome.entries (answer : String × Timeframe → List Row) (o : PairOutcome) : List LogLine :=
  let rows := answer o.pair
  .importingPair o.symbol o.timeframe ::
    (if rows = [] then [.noCandles o.symbol o.timeframe] else []) ++
    (if 0 < malformed rows then [.rejected (malformed rows) o.symbol o.timeframe] else []) ++
    match o.result with
    | .ok counts => if candlesOf rows = [] then [] else [.stored o.symbol o.timeframe counts]
    | .error e => [.failed e]

/-- A line as it is printed. -/
def LogLine.printed (line : LogLine) : Level × String := (line.level, line.text)

/-- The line that reports an error about something, in words. -/
def printedError (what : String) (causes : List String) : Level × String :=
  (.error, ": ".intercalate (what :: causes))

/-- The lines of a pair with the given answer, in words. -/
def PairOutcome.printed (answer : String × Timeframe → List Row) (o : PairOutcome) :
    List (Level × String) :=
  let rows := answer o.pair
  (.info, "Importing candles for " ++ o.symbol ++ " - " ++ o.timeframe.name) ::
    (if rows = [] then [(.debug, "No candles for " ++ o.symbol ++ " " ++ o.timeframe.name)] else []) ++
    (if 0 < malformed rows then
      [(.warn, "Rejected " ++ toString (malformed rows) ++ " malformed candles for " ++ o.symbol ++
        " " ++ o.timeframe.name)]
    else []) ++
    match o.result with
    | .ok counts =>
      if candlesOf rows = [] then []
      else
        [(.debug, o.symbol ++ " " ++ o.timeframe.name ++ ": fetched " ++ toString counts.fetched ++
          ", written " ++ toString counts.written ++ ", already stored " ++
          toString (counts.attempted - counts.written))]
    | .error e =>
      [printedError ("failed to write " ++ o.timeframe.name ++ " candles for " ++ o.symbol) e.causes]

/-- The end of a run with the given report, in words. -/
def RunReport.printed (r : RunReport) : List (Level × String) :=
  (if 0 < r.pairsEmpty then
    [(.warn, toString r.pairsEmpty ++ " symbol/timeframe pairs returned no candles")]
  else []) ++
    [(.info, "Import completed assets=" ++ toString r.assetsReconciled ++
      " assets_failed=" ++ toString r.assetsFailed ++ " pairs=" ++ toString r.pairsAttempted ++
      " pairs_empty=" ++ toString r.pairsEmpty ++ " pairs_failed=" ++ toString r.pairsFailed ++
      " candles_written=" ++ toString r.candlesWritten ++
      " candles_skipped=" ++ toString (r.candlesAttempted - r.candlesWritten))]

/-- The text begins with the given one. -/
def Opens (start text : String) : Prop := start.toList <+: text.toList

instance (start text : String) : Decidable (Opens start text) :=
  inferInstanceAs (Decidable (_ <+: _))

/-- The line informs of the end of a run. -/
def LogLine.SaysCompleted (line : LogLine) : Prop :=
  line.level = .info ∧ Opens "Import completed" line.text

@[simp] theorem logOf_nil : logOf [] = [] := rfl

@[simp] theorem logOf_append (events more : List Event) :
    logOf (events ++ more) = logOf events ++ logOf more :=
  List.filterMap_append

@[simp] theorem logOf_logged (lines : List LogLine) : logOf (lines.map .logged) = lines := by
  simp [logOf, Event.line?, List.filterMap_map, Function.comp_def]

@[simp] theorem logOf_cons_logged (line : LogLine) (events : List Event) :
    logOf (.logged line :: events) = line :: logOf events := rfl

@[simp] theorem logOf_cons_asked (request : CandleRequest) (start : Nat) (events : List Event) :
    logOf (.asked request start :: events) = logOf events := rfl

theorem length_candlesOf_add_malformed (rows : List Row) :
    (candlesOf rows).length + malformed rows = rows.length := by
  have hsplit := countP_add_countP_not (fun row : Row => row.candle?.isSome) rows
  simp only [Option.not_isSome] at hsplit
  rw [candlesOf, List.length_filterMap_eq_countP, malformed]
  exact hsplit

/-! ## One pair -/

section Pair

variable {symbol : String} {timeframe : Timeframe}

theorem lines_importRows (rows : List Row) (store : Store) :
    (importRows symbol timeframe rows store).lines =
      (if rows = [] then [.noCandles symbol timeframe] else []) ++
      (if 0 < malformed rows then [.rejected (malformed rows) symbol timeframe] else []) ++
      match (importRows symbol timeframe rows store).outcome with
      | .ok counts => if candlesOf rows = [] then [] else [.stored symbol timeframe counts]
      | .error _ => [] := by
  by_cases hrows : rows = []
  · simp [importRows, hrows, malformed, candlesOf]
  · have hlen := length_candlesOf_add_malformed rows
    have hrejected : rows.length - (candlesOf rows).length = malformed rows := by omega
    by_cases hcandles : candlesOf rows = []
    · rw [hcandles, List.length_nil, Nat.sub_zero] at hrejected
      simp [importRows, hrows, hcandles, ImportCounts.rejected, hrejected]
    · simp only [importRows, hrows, hcandles, if_false, List.map_eq_nil_iff, List.length_map,
        ImportCounts.rejected, hrejected, List.nil_append]
      cases store.savepoint (Store.insertCandles
          ((candlesOf rows).map (CandleRow.ofCandle symbol timeframe))) with
      | ok done => rfl
      | error e => simp

theorem logOf_importPair {importer : Importer} (hs : importer.source.Silent) (store : Store)
    (now : Nat) :
    logOf (importer.importPair symbol timeframe store now).events =
      (importRows symbol timeframe (importer.answer symbol timeframe) store).lines := by
  have hquiet : logOf (importer.source ⟨symbol, timeframe, importer.limit⟩).events = [] := hs _
  rw [Importer.importPair, List.cons_append, logOf_cons_asked, logOf_append, hquiet, logOf_logged]
  rfl

end Pair

/-- What becomes of a pair fits its answer: a success counts its rows and its candles and writes no
more than these; a failure is that of writing its candles. -/
structure PairOutcome.Fits (answer : String × Timeframe → List Row) (o : PairOutcome) : Prop where
  counted : ∀ counts, o.result = .ok counts →
    counts.fetched = (answer o.pair).length ∧
      counts.attempted = (candlesOf (answer o.pair)).length ∧ counts.written ≤ counts.attempted
  refused : ∀ e, o.result = .error e →
    ∃ refusal, e = .candleWrite o.symbol o.timeframe refusal

section Pairs

variable {source : CandleSource} {limit : Nat}

theorem fits_outcomeOf (store : Store) (pair : String × Timeframe) :
    (store.outcomeOf source limit pair).Fits (answerFor source limit) := by
  refine ⟨fun counts h => ?_, fun e h => ?_⟩
  · obtain ⟨hfetched, hattempted, hwritten⟩ := counts_of_importRows h
    refine ⟨hfetched, hattempted, ?_⟩
    rw [hwritten, hattempted, ← length_batch]
    exact length_firstPerKey_le _ _ _
  · obtain ⟨refusal, -, he⟩ := outcome_importRows_eq_error.mp h
    exact ⟨refusal, he⟩

/-- **The log of one pair.** -/
theorem logOf_importNext (hs : source.Silent) (s : RunState) (pair : String × Timeframe) :
    logOf (s.importNext source limit pair).events =
      logOf s.events ++
        (s.store.outcomeOf source limit pair).entries (answerFor source limit) := by
  set rows := answerFor source limit pair
  set o := s.store.outcomeOf source limit pair
  let importer : Importer := { source, limit, gate := s.gate }
  have hevents : (s.importNext source limit pair).events =
      s.events ++ [LogLine.importingPair pair.1 pair.2].map .logged ++
        (importer.importPair pair.1 pair.2 s.store s.clock).events ++ o.lines.map .logged :=
    events_importNext source limit s pair
  have hstep : logOf (importer.importPair pair.1 pair.2 s.store s.clock).events =
      (importRows pair.1 pair.2 rows s.store).lines := logOf_importPair hs s.store s.clock
  have hresult : (importRows pair.1 pair.2 rows s.store).outcome = o.result := rfl
  have hentries : o.entries (answerFor source limit) =
      .importingPair pair.1 pair.2 ::
        (if rows = [] then [.noCandles pair.1 pair.2] else []) ++
        (if 0 < malformed rows then [.rejected (malformed rows) pair.1 pair.2] else []) ++
        match o.result with
        | .ok counts => if candlesOf rows = [] then [] else [.stored pair.1 pair.2 counts]
        | .error e => [.failed e] := rfl
  rw [hevents, hentries, logOf_append, logOf_append, logOf_append, logOf_logged, logOf_logged, hstep,
    lines_importRows, hresult, PairOutcome.lines]
  -- the line of a failure comes from the run, after those of the import
  cases o.result with
  | ok counts => simp
  | error e => simp

theorem logOf_importPairsUnder (hs : source.Silent) (trace : Nat → Connection) (s : RunState)
    (ps : List (String × Timeframe)) :
    ∃ visited, (importPairsUnder trace source limit s ps).outcomes = s.outcomes ++ visited ∧
      visited.map PairOutcome.pair = ps ∧ (∀ o ∈ visited, o.Fits (answerFor source limit)) ∧
      logOf (importPairsUnder trace source limit s ps).events =
        logOf s.events ++ visited.flatMap (PairOutcome.entries (answerFor source limit)) := by
  rw [importPairsUnder]
  -- the number of the pair decides on its connection, so the induction is for every first number
  generalize 0 = n
  induction ps generalizing s n with
  | nil => exact ⟨[], by simp⟩
  | cons pair ps ih =>
    let before := s.under (trace n)
    let o := before.store.outcomeOf source limit pair
    obtain ⟨visited, houtcomes, hpairs, hfits, hlog⟩ := ih (before.importNext source limit pair) (n + 1)
    have hone : logOf (before.importNext source limit pair).events =
        logOf s.events ++ o.entries (answerFor source limit) := logOf_importNext hs before pair
    have houtcome : (before.importNext source limit pair).outcomes = s.outcomes ++ [o] := rfl
    refine ⟨o :: visited, ?_, ?_, ?_, ?_⟩
    · rw [List.zipIdx_cons, List.foldl_cons, houtcomes, houtcome, List.append_assoc]
      rfl
    · rw [List.map_cons, hpairs]
      rfl
    · exact List.forall_mem_cons.mpr ⟨fits_outcomeOf before.store pair, hfits⟩
    · rw [List.zipIdx_cons, List.foldl_cons, hlog, hone, List.flatMap_cons, List.append_assoc]

end Pairs

/-! ## The registration -/

/-- What a registration of the listings logs: a line for each upsert that failed, under its symbol and
in order, and then the counts. -/
structure RegistrationLog (ls : List Listing) (report : ReconcileReport)
    (refused : List (String × StorageError)) (lines : List LogLine) : Prop where
  failed : report.failed = refused.map Prod.fst
  listed : (refused.map Prod.fst).Sublist (ls.map Listing.symbol)
  lines : lines = refused.map (fun r => .failed (.registryWrite r.1 r.2)) ++
    [.reconciled report.upserted report.failed.length]

/-- The registration so far: `tried` are its listings, and `refused` those whose upsert failed. -/
structure Reconciliation.Logs (r : Reconciliation) (tried : List Listing)
    (refused : List (String × StorageError)) : Prop where
  failed : r.report.failed = refused.map Prod.fst
  listed : (refused.map Prod.fst).Sublist (tried.map Listing.symbol)
  lines : r.lines = refused.map fun r => .failed (.registryWrite r.1 r.2)

section Registrations

variable {r : Reconciliation} {tried : List Listing} {refused : List (String × StorageError)}

theorem Reconciliation.Logs.under (h : r.Logs tried refused) (c : Connection) :
    (r.under c).Logs tried refused :=
  ⟨h.failed, h.listed, h.lines⟩

theorem Reconciliation.Logs.add (h : r.Logs tried refused) (now : Int) (l : Listing) :
    ∃ refused, (r.add now l).Logs (tried ++ [l]) refused := by
  obtain ⟨hfailed, hlisted, hlines⟩ := h
  rw [Reconciliation.add, registerListing_eq]
  cases r.store.refusal? (Store.upsertAsset now l) with
  | none =>
    refine ⟨refused, hfailed, ?_, hlines⟩
    rw [List.map_append]
    exact hlisted.trans (List.sublist_append_left _ _)
  | some refusal =>
    refine ⟨refused ++ [(l.symbol, refusal)], ?_, ?_, ?_⟩
    · simp [hfailed]
    · rw [List.map_append, List.map_append]
      exact hlisted.append (List.Sublist.refl _)
    · simp [hlines]

theorem logs_foldl (trace : Nat → Connection) (now : Int) (ls : List Listing) (n : Nat)
    (h : r.Logs tried refused) :
    ∃ refused, ((ls.zipIdx n).foldl (fun r p => (r.under (trace p.2)).add now p.1) r).Logs
      (tried ++ ls) refused := by
  induction ls generalizing n r tried refused with
  | nil => exact ⟨refused, by rwa [List.append_nil]⟩
  | cons l ls ih =>
    obtain ⟨refused', hone⟩ := (h.under (trace n)).add now l
    have hrest := ih (n + 1) hone
    rwa [List.append_assoc] at hrest

end Registrations

/-- **The log of a registration.** -/
theorem registrationLog_reconcileUnder (trace : Nat → Connection) (now : Int) (store : Store)
    (ls : List Listing) :
    let done := reconcileUnder trace now store ls
    ∃ refused, RegistrationLog ls done.report refused done.lines := by
  have hstart : ({ report := {}, store, lines := [] } : Reconciliation).Logs [] [] :=
    ⟨rfl, List.Sublist.refl _, rfl⟩
  obtain ⟨refused, hfailed, hlisted, hlines⟩ := logs_foldl trace now ls 0 hstart
  refine ⟨refused, hfailed, hlisted, ?_⟩
  rw [reconcileUnder, hlines]

/-! ## The lines and the counts -/

section Entries

variable {answer : String × Timeframe → List Row}

theorem mem_entries {o : PairOutcome} {line : LogLine} :
    line ∈ o.entries answer ↔ line = .importingPair o.symbol o.timeframe ∨
      answer o.pair = [] ∧ line = .noCandles o.symbol o.timeframe ∨
      0 < malformed (answer o.pair) ∧
        line = .rejected (malformed (answer o.pair)) o.symbol o.timeframe ∨
      (∃ counts, o.result = .ok counts ∧ candlesOf (answer o.pair) ≠ [] ∧
        line = .stored o.symbol o.timeframe counts) ∨
      ∃ e, o.result = .error e ∧ line = .failed e := by
  rw [PairOutcome.entries]
  cases o.result with
  | ok counts => simp
  | error e => simp

theorem countP_error_entries (o : PairOutcome) :
    (o.entries answer).countP (·.level = .error) = if o.result.isOk then 0 else 1 := by
  rw [PairOutcome.entries]
  cases o.result with
  | ok counts =>
    have hok : (Except.ok counts : Except ImportError ImportCounts).isOk = true := rfl
    rw [if_pos hok]
    split_ifs <;> rfl
  | error e =>
    have hok : ¬ (Except.error e : Except ImportError ImportCounts).isOk = true := Bool.false_ne_true
    rw [if_neg hok]
    split_ifs <;> rfl

theorem announced_entries (o : PairOutcome) :
    (o.entries answer).filterMap LogLine.announced? = [o.pair] := by
  rw [PairOutcome.entries]
  cases o.result with
  | ok counts => split_ifs <;> rfl
  | error e => split_ifs <;> rfl

theorem rejected_mem_entries {o : PairOutcome} {k : Nat} {symbol : String} {timeframe : Timeframe} :
    .rejected k symbol timeframe ∈ o.entries answer ↔
      o.pair = (symbol, timeframe) ∧ k = malformed (answer (symbol, timeframe)) ∧ 0 < k := by
  rw [mem_entries]
  constructor
  · rintro (h | ⟨-, h⟩ | ⟨hpos, h⟩ | ⟨counts, -, -, h⟩ | ⟨e, -, h⟩)
    all_goals cases h
    exact ⟨rfl, rfl, hpos⟩
  · rintro ⟨hpair, rfl, hpos⟩
    obtain ⟨rfl, rfl⟩ := Prod.mk.inj hpair
    exact .inr (.inr (.inl ⟨hpos, rfl⟩))

theorem notMem_entries (o : PairOutcome) :
    (∀ n, .emptyPairs n ∉ o.entries answer) ∧ ∀ report, .completed report ∉ o.entries answer := by
  simp [mem_entries]

section Visited

variable {visited : List PairOutcome}

theorem countP_error_flatMap (visited : List PairOutcome) :
    (visited.flatMap (PairOutcome.entries answer)).countP (·.level = .error) =
      visited.countP fun o => !o.result.isOk := by
  induction visited with
  | nil => rfl
  | cons o visited ih =>
    rw [List.flatMap_cons, List.countP_append, ih, countP_error_entries, List.countP_cons]
    cases o.result.isOk with
    | true => simp
    | false => simp [Nat.add_comm]

theorem announced_flatMap (visited : List PairOutcome) :
    (visited.flatMap (PairOutcome.entries answer)).filterMap LogLine.announced? =
      visited.map PairOutcome.pair := by
  simp only [List.filterMap_flatMap, announced_entries, List.map_eq_flatMap]

theorem length_sub_length_counts (visited : List PairOutcome) :
    visited.length - (visited.filterMap (·.result.toOption)).length =
      visited.countP fun o => !o.result.isOk := by
  have hcounted : (visited.filterMap (·.result.toOption)).length =
      visited.countP fun o => o.result.isOk := by
    rw [List.length_filterMap_eq_countP]
    refine List.countP_congr fun o _ => ?_
    cases o.result with
    | ok counts => rfl
    | error e => rfl
  have hsplit := countP_add_countP_not (fun o : PairOutcome => o.result.isOk) visited
  omega

/-- **The counts of pairs that fit their answers** differ by the rows that are no candles. -/
theorem total_of_fits (hfits : ∀ o ∈ visited, o.Fits answer) :
    let total := ImportCounts.total (visited.filterMap (·.result.toOption))
    total.fetched = total.attempted +
        ((visited.filter (·.result.isOk)).map fun o => malformed (answer o.pair)).sum ∧
      total.written ≤ total.attempted := by
  induction visited with
  | nil => exact ⟨rfl, le_rfl⟩
  | cons o visited ih =>
    obtain ⟨hfit, hrest⟩ := List.forall_mem_cons.mp hfits
    obtain ⟨hfetched, hwritten⟩ := ih hrest
    cases hresult : o.result with
    | error e =>
      rw [List.filterMap_cons_none (by rw [hresult]; rfl),
        List.filter_cons_of_neg (by rw [hresult]; exact Bool.false_ne_true)]
      exact ⟨hfetched, hwritten⟩
    | ok counts =>
      obtain ⟨hrows, hcandles, hnew⟩ := hfit.counted counts hresult
      have hlen := length_candlesOf_add_malformed (answer o.pair)
      rw [List.filterMap_cons_some (b := counts) (by rw [hresult]; rfl),
        List.filter_cons_of_pos (by rw [hresult]; rfl), List.map_cons, List.sum_cons, total_cons,
        ImportCounts.add]
      dsimp only
      omega

end Visited

end Entries

section Registration

variable {ls : List Listing} {report : ReconcileReport} {refused : List (String × StorageError)}
  {lines : List LogLine}

theorem RegistrationLog.mem_lines (h : RegistrationLog ls report refused lines) {line : LogLine} :
    line ∈ lines ↔ (∃ r ∈ refused, line = .failed (.registryWrite r.1 r.2)) ∨
      line = .reconciled report.upserted report.failed.length := by
  simp [h.lines, eq_comm]

theorem RegistrationLog.countP_error (h : RegistrationLog ls report refused lines) :
    lines.countP (·.level = .error) = refused.length := by
  rw [h.lines, List.countP_append, List.countP_map]
  simp [LogLine.level, Function.comp_def]

theorem RegistrationLog.announced (h : RegistrationLog ls report refused lines) :
    lines.filterMap LogLine.announced? = [] := by
  simp [h.lines, LogLine.announced?, Function.comp_def]

end Registration

theorem mem_closingLines {report : RunReport} {line : LogLine} :
    line ∈ closingLines report ↔
      0 < report.pairsEmpty ∧ line = .emptyPairs report.pairsEmpty ∨ line = .completed report := by
  rw [closingLines]
  split_ifs with h <;> simp [h]

theorem countP_error_closingLines (report : RunReport) :
    (closingLines report).countP (·.level = .error) = 0 := by
  rw [closingLines]
  split_ifs <;> rfl

theorem announced_closingLines (report : RunReport) :
    (closingLines report).filterMap LogLine.announced? = [] := by
  rw [closingLines]
  split_ifs <;> rfl

theorem getLast?_closingLines (report : RunReport) :
    (closingLines report).getLast? = some (.completed report) := by
  rw [closingLines]
  split_ifs <;> rfl

/-! ## In words -/

section Words

variable {answer : String × Timeframe → List Row}

theorem failed_text (message : String) {e : ImportError} {first : String} {more : List String}
    (hm : e.message = message) (hc : e.causes = first :: more) :
    ∃ detail, (LogLine.failed e).text = message ++ ": " ++ detail := by
  refine ⟨": ".intercalate (first :: more), ?_⟩
  have htext : (LogLine.failed e).text = ": ".intercalate (e.message :: e.causes) := rfl
  rw [htext, hm, hc, String.intercalate_cons_cons]

theorem printed_stored (symbol : String) (timeframe : Timeframe) (c : ImportCounts) :
    (LogLine.stored symbol timeframe c).printed =
      (.debug, symbol ++ " " ++ timeframe.name ++ ": fetched " ++ toString c.fetched ++
        ", written " ++ toString c.written ++ ", already stored " ++
        toString (c.attempted - c.written)) := by
  have htext : (LogLine.stored symbol timeframe c).text =
      symbol ++ " " ++ timeframe.name ++ ": fetched " ++ toString c.fetched ++ ", written " ++
        toString c.written ++ ", " ++
        ("already stored " ++ toString (c.attempted - c.written)) := rfl
  rw [LogLine.printed, htext, ← String.append_assoc, @String.append_assoc _ ", " _]
  rfl

/-- **The lines of a pair in words.** -/
theorem printed_entries {o : PairOutcome} (hfits : o.Fits answer) :
    (o.entries answer).map LogLine.printed = o.printed answer := by
  rw [PairOutcome.entries, PairOutcome.printed]
  cases hresult : o.result with
  | ok counts =>
    have hstored := printed_stored o.symbol o.timeframe counts
    simp only [apply_ite (List.map LogLine.printed), List.map_append, List.map_cons, List.map_nil,
      hstored]
    rfl
  | error e =>
    obtain ⟨refusal, rfl⟩ := hfits.refused e hresult
    simp only [apply_ite (List.map LogLine.printed), List.map_append, List.map_cons, List.map_nil]
    rfl

theorem printed_visited {visited : List PairOutcome} (hfits : ∀ o ∈ visited, o.Fits answer) :
    (visited.flatMap (PairOutcome.entries answer)).map LogLine.printed =
      visited.flatMap (PairOutcome.printed answer) := by
  rw [List.map_flatMap]
  exact List.flatMap_congr fun o ho => printed_entries (hfits o ho)

theorem printed_completed (r : RunReport) :
    (LogLine.completed r).printed =
      (.info, "Import completed assets=" ++ toString r.assetsReconciled ++
        " assets_failed=" ++ toString r.assetsFailed ++ " pairs=" ++ toString r.pairsAttempted ++
        " pairs_empty=" ++ toString r.pairsEmpty ++ " pairs_failed=" ++ toString r.pairsFailed ++
        " candles_written=" ++ toString r.candlesWritten ++
        " candles_skipped=" ++ toString (r.candlesAttempted - r.candlesWritten)) := by
  have hpairs : " " ++ "pairs=" = " pairs=" := rfl
  have hwritten : " " ++ "candles_written=" = " candles_written=" := rfl
  have htext : (LogLine.completed r).text =
      "Import completed assets=" ++ toString r.assetsReconciled ++
        " assets_failed=" ++ toString r.assetsFailed ++ " " ++
        ("pairs=" ++ toString r.pairsAttempted ++ " pairs_empty=" ++ toString r.pairsEmpty ++
          " pairs_failed=" ++ toString r.pairsFailed ++ " ") ++
        ("candles_written=" ++ toString r.candlesWritten ++
          " candles_skipped=" ++ toString (r.candlesAttempted - r.candlesWritten)) := rfl
  rw [LogLine.printed, htext]
  simp only [← hpairs, ← hwritten, String.append_assoc]
  rfl

theorem printed_closingLines (report : RunReport) :
    (closingLines report).map LogLine.printed = report.printed := by
  rw [closingLines, RunReport.printed, List.map_append, List.map_singleton, printed_completed,
    apply_ite (List.map LogLine.printed)]
  rfl

theorem Opens.append {start text : String} (h : Opens start text) (more : String) :
    Opens start (text ++ more) := by
  rw [Opens, String.toList_append]
  exact h.trans (List.prefix_append _ _)

/-- How the lines that inform begin, those of the end of a run aside. -/
theorem opens_of_info {line : LogLine} (h : line.level = .info) :
    (∃ report, line = .completed report) ∨
      ∃ start ∈ ["Connecting ", "Fetched ", "Importing ", "Reconciled ", "Import finished"],
        Opens start line.text := by
  have opens : ∀ start, Opens start start := fun start => List.prefix_refl _
  cases line with
  | completed report => exact .inl ⟨report, rfl⟩
  | connecting url =>
    have hstart : Opens "Connecting " "Connecting to database via Sea-ORM at: " := by decide
    exact .inr ⟨_, by simp, hstart.append _⟩
  | fetchedRanking count => exact .inr ⟨"Fetched ", by simp, ((opens _).append _).append _⟩
  | importing assets timeframes =>
    exact .inr ⟨"Importing ", by simp, ((((opens _).append _).append _).append _).append _⟩
  | reconciled upserted refused =>
    exact .inr ⟨"Reconciled ", by simp, ((((opens _).append _).append _).append _).append _⟩
  | importingPair symbol timeframe =>
    have hstart : Opens "Importing " "Importing candles for " := by decide
    exact .inr ⟨_, by simp, ((hstart.append _).append _).append _⟩
  | finished written assets =>
    have hstart : Opens "Import finished" "Import finished: " := by decide
    exact .inr ⟨_, by simp, (((hstart.append _).append _).append _).append _⟩
  | _ => cases h

/-- **The end of a run** is announced by its own line alone. -/
theorem saysCompleted_iff {line : LogLine} :
    line.SaysCompleted ↔ ∃ report, line = .completed report := by
  constructor
  · rintro ⟨hlevel, hend⟩
    refine (opens_of_info hlevel).resolve_right ?_
    rintro ⟨start, hmem, hstart⟩
    -- of two beginnings of one text, one is the beginning of the other
    have hcompare := List.prefix_or_prefix_of_prefix hend hstart
    have hapart : ∀ start ∈
        ["Connecting ", "Fetched ", "Importing ", "Reconciled ", "Import finished"],
        ¬ ("Import completed".toList <+: start.toList ∨
          start.toList <+: "Import completed".toList) := by
      decide
    exact hapart start hmem hcompare
  · rintro ⟨report, rfl⟩
    have hstart : Opens "Import completed" "Import completed assets=" := by decide
    exact ⟨rfl, (((((hstart.append _).append _).append _).append _).append _).append _⟩

end Words

/-! ## Whole runs -/

/-- What the log tells of a run that ends in the report, where the registration of the listings refused
those in `refused` and the pairs came out as `visited`. -/
structure RunReport.Told (report : RunReport) (ls : List Listing) (timeframes : List Timeframe)
    (answer : String × Timeframe → List Row) (refused : List (String × StorageError))
    (visited : List PairOutcome) (log : List LogLine) : Prop where
  lines : log = .importing ls.length timeframes.length ::
    refused.map (fun r => .failed (.registryWrite r.1 r.2)) ++
    .reconciled report.assetsReconciled report.assetsFailed ::
    visited.flatMap (PairOutcome.entries answer) ++ closingLines report
  printed : log.map LogLine.printed =
    (.info, "Importing " ++ toString ls.length ++ " assets x " ++ toString timeframes.length ++
      " timeframes") ::
    refused.map (fun r => printedError ("failed to write registry entry for " ++ r.1)
      (r.2.message :: r.2.cause?.toList)) ++
    (.info, "Reconciled " ++ toString report.assetsReconciled ++ " assets (" ++
      toString report.assetsFailed ++ " failed)") ::
    visited.flatMap (PairOutcome.printed answer) ++ report.printed
  visits : visited.map PairOutcome.pair = pairs ls timeframes
  listed : (refused.map Prod.fst).Sublist (ls.map Listing.symbol)
  refusals : refused.length = report.assetsFailed
  failures : (visited.countP fun o => !o.result.isOk) = report.pairsFailed
  listings_named : ∀ r ∈ refused, ∃ detail, (LogLine.failed (.registryWrite r.1 r.2)).text =
    "failed to write registry entry for " ++ r.1 ++ ": " ++ detail
  pairs_named : ∀ o ∈ visited, ∀ e, o.result = .error e →
    (∃ refusal, e = .candleWrite o.symbol o.timeframe refusal) ∧
      ∃ detail, (LogLine.failed e).text =
        "failed to write " ++ o.timeframe.name ++ " candles for " ++ o.symbol ++ ": " ++ detail
  errors : log.countP (·.level = .error) = report.assetsFailed + report.pairsFailed
  announced : log.filterMap LogLine.announced? = pairs ls timeframes
  attempts : (pairs ls timeframes).length = report.pairsAttempted
  warned : ∀ k symbol timeframe, .rejected k symbol timeframe ∈ log ↔
    (symbol, timeframe) ∈ pairs ls timeframes ∧ k = malformed (answer (symbol, timeframe)) ∧ 0 < k
  rejected : report.candlesFetched = report.candlesAttempted +
    ((visited.filter (·.result.isOk)).map fun o => malformed (answer o.pair)).sum
  empty : ∀ n, .emptyPairs n ∈ log ↔ n = report.pairsEmpty ∧ 0 < n
  last : log.getLast? = some (.completed report)
  skipped : report.candlesSkipped + report.candlesWritten = report.candlesAttempted

section Told

variable {answer : String × Timeframe → List Row} {ls : List Listing} {timeframes : List Timeframe}
  {registered : ReconcileReport} {refused : List (String × StorageError)}
  {visited : List PairOutcome} {lines : List LogLine}

section Members

variable (hreg : RegistrationLog ls registered refused lines) {assets frames : Nat}
  {report : RunReport}
include hreg

theorem rejected_mem_log {k : Nat} {symbol : String} {timeframe : Timeframe} :
    .rejected k symbol timeframe ∈ .importing assets frames :: lines ++
        visited.flatMap (PairOutcome.entries answer) ++ closingLines report ↔
      (symbol, timeframe) ∈ visited.map PairOutcome.pair ∧
        k = malformed (answer (symbol, timeframe)) ∧ 0 < k := by
  simp only [List.mem_append, List.mem_cons, hreg.mem_lines, mem_closingLines, List.mem_flatMap,
    rejected_mem_entries, List.mem_map, reduceCtorEq, and_false, exists_false, false_or, or_false]
  constructor
  · rintro ⟨o, ho, hpair, hk⟩
    exact ⟨⟨o, ho, hpair⟩, hk⟩
  · rintro ⟨⟨o, ho, hpair⟩, hk⟩
    exact ⟨o, ho, hpair, hk⟩

theorem emptyPairs_mem_log {n : Nat} :
    .emptyPairs n ∈ .importing assets frames :: lines ++
        visited.flatMap (PairOutcome.entries answer) ++ closingLines report ↔
      n = report.pairsEmpty ∧ 0 < n := by
  simp only [List.mem_append, List.mem_cons, hreg.mem_lines, mem_closingLines, List.mem_flatMap,
    (notMem_entries _).1, reduceCtorEq, and_false, exists_false, false_or, or_false,
    LogLine.emptyPairs.injEq]
  constructor
  · rintro ⟨hpos, rfl⟩
    exact ⟨rfl, hpos⟩
  · rintro ⟨rfl, hpos⟩
    exact ⟨hpos, rfl⟩

theorem completed_notMem_log :
    .completed report ∉ .importing assets frames :: lines ++
      visited.flatMap (PairOutcome.entries answer) := by
  simp only [List.mem_append, List.mem_cons, hreg.mem_lines, List.mem_flatMap, (notMem_entries _).2,
    reduceCtorEq, and_false, exists_false, or_false, not_false_eq_true]

end Members

/-- **The parts of a log make one that agrees with the report.** -/
theorem told_summary (hreg : RegistrationLog ls registered refused lines)
    (hpairs : visited.map PairOutcome.pair = pairs ls timeframes)
    (hfits : ∀ o ∈ visited, o.Fits answer) :
    let report := RunReport.summary registered visited
    report.Told ls timeframes answer refused visited
      (.importing ls.length timeframes.length :: lines ++
        visited.flatMap (PairOutcome.entries answer) ++ closingLines report) := by
  intro report
  have hlines : .importing ls.length timeframes.length :: lines ++
      visited.flatMap (PairOutcome.entries answer) ++ closingLines report =
        .importing ls.length timeframes.length ::
          refused.map (fun r => .failed (.registryWrite r.1 r.2)) ++
          .reconciled report.assetsReconciled report.assetsFailed ::
          visited.flatMap (PairOutcome.entries answer) ++ closingLines report := by
    rw [hreg.lines]
    simp [report, RunReport.summary]
  obtain ⟨hfetched, hwritten⟩ := total_of_fits hfits
  have hfailed : visited.countP (fun o => !o.result.isOk) = report.pairsFailed :=
    (length_sub_length_counts visited).symm
  have hrefused : refused.length = report.assetsFailed := by
    rw [← List.length_map (f := Prod.fst), ← hreg.failed]
    rfl
  refine
    { lines := hlines
      printed := ?_
      visits := hpairs
      listed := hreg.listed
      refusals := hrefused
      failures := hfailed
      listings_named := fun r _ => failed_text _ rfl rfl
      pairs_named := fun o ho e he => ?_
      errors := ?_
      announced := ?_
      attempts := ?_
      warned := fun k symbol timeframe => hpairs ▸ rejected_mem_log hreg
      rejected := hfetched
      empty := fun n => emptyPairs_mem_log hreg
      last := ?_
      skipped := Nat.sub_add_cancel hwritten }
  · rw [hlines, List.map_append, List.map_append, List.map_cons, List.map_cons, List.map_map,
      printed_visited hfits, printed_closingLines]
    rfl
  · obtain ⟨refusal, rfl⟩ := (hfits o ho).refused e he
    exact ⟨⟨refusal, rfl⟩, failed_text _ rfl rfl⟩
  · rw [List.countP_append, List.countP_append, List.countP_cons, hreg.countP_error,
      countP_error_closingLines, countP_error_flatMap, hfailed, hrefused]
    rfl
  · rw [List.filterMap_append, List.filterMap_append, List.filterMap_cons, hreg.announced,
      announced_closingLines, announced_flatMap, hpairs]
    simp [LogLine.announced?]
  · rw [← hpairs, List.length_map]
    rfl
  · rw [List.getLast?_append, getLast?_closingLines]
    rfl

end Told

section Runs

variable {trace : ConnectionTrace} {settings : RunSettings} {ranking : Ranking}
  {source : CandleSource} {store : Store} {now : Nat}

section Opened

variable {assets : List MarketAsset} (ha : (ranking settings.topN).assets = .ok assets)
  (ho : trace.opening ≠ .closed)
include ha ho

theorem events_runUnder :
    let ls := listings settings.quoteAsset assets
    let registered := reconcileUnder trace.listing now store ls
    let done := importListingsUnder trace.pair settings source ls registered.store now
    let report := RunReport.summary registered.report done.outcomes
    let called := runUnder trace settings ranking source store now
    called.events = (ranking settings.topN).events ++
        [.logged (.importing ls.length settings.timeframes.length)] ++
        registered.lines.map .logged ++ done.events ++
        (if trace.commit = .ready then closingLines report else []).map .logged ∧
      ∀ told, called.outcome = .ok told ↔ trace.commit = .ready ∧ told = report := by
  by_cases hc : trace.commit = .ready
  · simp [runUnder, ha, begin_eq, ho, hc, commit_of_ready, eq_comm]
  · simp [runUnder, ha, begin_eq, ho, hc, commit_of_not_ready hc]

/-- **The log of a run that gets as far as its pairs**: its registration, each pair and, if the run
is committed, the end. -/
theorem logOf_runUnder (hs : source.Silent) (hr : logOf (ranking settings.topN).events = []) :
    let ls := listings settings.quoteAsset assets
    let registered := reconcileUnder trace.listing now store ls
    let visited := (importListingsUnder trace.pair settings source ls registered.store now).outcomes
    let answer := answerFor source settings.candleLimit
    let report := RunReport.summary registered.report visited
    visited.map PairOutcome.pair = pairs ls settings.timeframes ∧
      (∀ o ∈ visited, o.Fits answer) ∧
      logOf (runUnder trace settings ranking source store now).events =
        .importing ls.length settings.timeframes.length :: registered.lines ++
          visited.flatMap (PairOutcome.entries answer) ++
          if trace.commit = .ready then closingLines report else [] := by
  intro ls registered visited answer report
  obtain ⟨visited', houtcomes, hpairs, hfits, hlog⟩ := logOf_importPairsUnder hs trace.pair
    { outcomes := [], store := registered.store, gate := { pause := settings.rateDelay }
      clock := now, events := [] } (pairs ls settings.timeframes)
  obtain rfl : visited = visited' := houtcomes.trans (List.nil_append _)
  have hdone : logOf (importListingsUnder trace.pair settings source ls registered.store now).events =
      visited.flatMap (PairOutcome.entries answer) := hlog
  refine ⟨hpairs, hfits, ?_⟩
  rw [(events_runUnder ha ho).1, logOf_append, logOf_append, logOf_append, logOf_append, hr, hdone,
    logOf_logged, logOf_logged]
  rfl

end Opened

theorem completed_notMem_logOf_stopped (hr : logOf (ranking settings.topN).events = [])
    (hstop : (∀ assets, (ranking settings.topN).assets ≠ .ok assets) ∨ trace.opening = .closed)
    (report : RunReport) :
    .completed report ∉ logOf (runUnder trace settings ranking source store now).events := by
  cases ha : (ranking settings.topN).assets with
  | error failure => simp [runUnder_of_unranked ha, hr]
  | ok assets =>
    have ho : trace.opening = .closed := hstop.resolve_left fun h => h assets ha
    simp [runUnder, ha, begin_eq, ho, hr]

theorem opened_of_runUnder_ok {report : RunReport}
    (h : (runUnder trace settings ranking source store now).outcome = .ok report) :
    ∃ assets, (ranking settings.topN).assets = .ok assets ∧ trace.opening ≠ .closed := by
  cases ha : (ranking settings.topN).assets with
  | error failure =>
    rw [runUnder_of_unranked ha] at h
    contradiction
  | ok assets =>
    refine ⟨assets, rfl, fun ho => ?_⟩
    rw [(runUnder_of_unopened ha ho).1] at h
    contradiction

/-- **The log agrees with the report**, line by line and in words; a run that fails does not log an
end. -/
theorem log_agrees_with_report (trace : ConnectionTrace) (settings : RunSettings) (ranking : Ranking)
    (source : CandleSource) (store : Store) (now : Nat) (hs : source.Silent)
    (hr : logOf (ranking settings.topN).events = []) :
    let called := runUnder trace settings ranking source store now
    let log := logOf called.events
    (∀ report, called.outcome = .ok report →
      ∃ assets, (ranking settings.topN).assets = .ok assets ∧
        let ls := listings settings.quoteAsset assets
        let registered := reconcileUnder trace.listing now store ls
        let visited :=
          (importListingsUnder trace.pair settings source ls registered.store now).outcomes
        ∃ refused, registered.report.failed = refused.map Prod.fst ∧
          report.Told ls settings.timeframes (answerFor source settings.candleLimit) refused visited
            log) ∧
      (∀ e, called.outcome = .error e → ∀ line ∈ log, ¬ line.SaysCompleted) ∧
      (trace = .steady store.connection →
        let done := run settings ranking source store now
        done.outcome = called.outcome ∧ logOf done.events = log) := by
  intro called log
  refine ⟨fun report hreport => ?_, fun e he line hline hsays => ?_, ?_⟩
  · obtain ⟨assets, ha, ho⟩ := opened_of_runUnder_ok hreport
    obtain ⟨hc, rfl⟩ := ((events_runUnder ha ho).2 report).mp hreport
    obtain ⟨hpairs, hfits, hlog⟩ : _ ∧ _ ∧ log = _ := logOf_runUnder ha ho hs hr
    obtain ⟨refused, hreg⟩ := registrationLog_reconcileUnder trace.listing now store
      (listings settings.quoteAsset assets)
    refine ⟨assets, ha, refused, hreg.failed, ?_⟩
    rw [hlog, if_pos hc]
    exact told_summary hreg hpairs hfits
  · obtain ⟨report, rfl⟩ := saysCompleted_iff.mp hsays
    refine absurd hline ?_
    by_cases hopen : (∃ assets, (ranking settings.topN).assets = .ok assets) ∧ trace.opening ≠ .closed
    · obtain ⟨⟨assets, ha⟩, ho⟩ := hopen
      have hc : trace.commit ≠ .ready := fun hc => by
        have hok : called.outcome = .ok _ := ((events_runUnder ha ho).2 _).mpr ⟨hc, rfl⟩
        rw [hok] at he
        contradiction
      obtain ⟨-, -, hlog⟩ : _ ∧ _ ∧ log = _ := logOf_runUnder ha ho hs hr
      obtain ⟨refused, hreg⟩ := registrationLog_reconcileUnder trace.listing now store
        (listings settings.quoteAsset assets)
      rw [hlog, if_neg hc, List.append_nil]
      exact completed_notMem_log hreg
    · rw [not_and_or, not_exists, not_not] at hopen
      exact completed_notMem_logOf_stopped hr hopen report
  · rintro rfl
    obtain ⟨houtcome, -, hevents⟩ : called.outcome = _ ∧ _ ∧ called.events = _ := runUnder_steady
    exact ⟨houtcome.symm, congrArg logOf hevents.symm⟩

/-- Of one refused asset and one failed pair the log has two errors, and each pair warns of its row
that is no candle; a lost commit has no end. -/
theorem log_agrees_with_report_small :
    let log := logOf (run SmallRun.settings SmallRun.ranking SmallRun.source SmallRun.store 0).events
    let lost := runUnder SmallRun.lostAtCommit SmallRun.settings SmallRun.ranking SmallRun.source
      SmallRun.store 0
    log.countP (·.level = .error) = 2 ∧ .rejected 1 "ETHUSDT" .oneDay ∈ log ∧
      (∀ n, .emptyPairs n ∉ log) ∧ log.getLast? = some (.completed SmallRun.report) ∧
      (log.map LogLine.printed)[1]? = some (.error, "failed to write registry entry for BTCUSDT: " ++
        "Execution Error: the row is refused: the row is refused") ∧
      (.warn, "Rejected 1 malformed candles for ETHUSDT 1d") ∈ log.map LogLine.printed ∧
      (log.map LogLine.printed).getLast? =
        some (.info, "Import completed assets=1 assets_failed=1 pairs=4 pairs_empty=0 " ++
          "pairs_failed=1 candles_written=6 candles_skipped=3") ∧
      ∀ line ∈ logOf lost.events, ¬ line.SaysCompleted := by
  have hs : SmallRun.source.Silent := fun _ => rfl
  have hr : logOf (SmallRun.ranking SmallRun.settings.topN).events = [] := rfl
  obtain ⟨hok, -, hsteady⟩ := log_agrees_with_report (.steady SmallRun.store.connection)
    SmallRun.settings SmallRun.ranking SmallRun.source SmallRun.store 0 hs hr
  obtain ⟨-, hfails, -⟩ := log_agrees_with_report SmallRun.lostAtCommit SmallRun.settings
    SmallRun.ranking SmallRun.source SmallRun.store 0 hs hr
  obtain ⟨houtcome, hlog⟩ := hsteady rfl
  obtain ⟨assets, ha, refused, -, htold⟩ := hok _ (houtcome.symm.trans SmallRun.ends_well)
  obtain rfl : [⟨"btc", "Bitcoin", "b.png"⟩, ⟨" BTC", "Clone", ""⟩, ⟨"eth", "Ether", ""⟩] = assets :=
    Except.ok.inj ha
  rw [← hlog] at htold
  have hwarned : .rejected 1 "ETHUSDT" .oneDay ∈
      logOf (run SmallRun.settings SmallRun.ranking SmallRun.source SmallRun.store 0).events :=
    (htold.warned _ _ _).mpr (by decide +kernel)
  refine ⟨htold.errors, hwarned, fun n hn => ?_, htold.last, by decide +kernel,
    List.mem_map.mpr ⟨_, hwarned, rfl⟩, ?_,
    hfails _ (runUnder_of_uncommitted rfl (by decide) (by decide)).1⟩
  · obtain ⟨rfl, hpos⟩ := (htold.empty n).mp hn
    exact absurd hpos (by decide)
  · have hend : SmallRun.report.printed.getLast? =
        some (.info, "Import completed assets=1 assets_failed=1 pairs=4 pairs_empty=0 " ++
          "pairs_failed=1 candles_written=6 candles_skipped=3") := by
      decide +kernel
    rw [htold.printed, List.getLast?_append, hend]
    rfl

end Runs

end CandleArchive
