import CandleArchive.Proofs.Run
import Mathlib.Algebra.Order.Ring.Nat
import Mathlib.Data.List.Chain

/-!
# Pacing — when the candle source is called

An importer calls its source behind a gate. Whatever the calls bring and however much time passes
between them, a call starts when it is entered or when the pause after the call before is over, the
later of the two. A run imports all its pairs through one importer, so the rule holds from one
listing to the next.

* `Gate.acquire_release`: what the gate does after a call;
* `ImportCall`, `Visit`, `visits`: imports through one gate, with what they meet and what they do;
* `visit_after`, **`isChain_visits`**: a call after another, and all calls;
* **`le_started_last`**: a lower bound for the last start;
* `RunState.calls`, **`asksOf_run`**, `isChain_asksOf_run`: the calls of a run;
* **`candle_calls_paced`**: the law for every sequence of calls and for every run.
-/

namespace CandleArchive

/-! ## The gate -/

namespace Gate

theorem pause_release (gate : Gate) (finished : Nat) :
    (gate.release finished).pause = gate.pause := by
  rw [release]
  split_ifs <;> rfl

theorem acquire_of_pause_eq_zero {gate : Gate} (h : gate.pause = 0) (now : Nat) :
    gate.acquire now = now := if_pos h

theorem acquire_new (pause now : Nat) : ({ pause } : Gate).acquire now = now := by
  rw [acquire]
  split_ifs <;> rfl

/-- **After a call** the gate lets the next one pass at once, or when the pause is over. -/
theorem acquire_release (gate : Gate) {finished now : Nat} (h : finished ≤ now) :
    (gate.release finished).acquire now = max now (finished + gate.pause) := by
  by_cases hp : gate.pause = 0
  · have hr : (gate.release finished).pause = 0 := by rw [pause_release, hp]
    rw [acquire_of_pause_eq_zero hr, hp]
    omega
  · rw [release, if_neg hp, acquire, if_neg hp]

end Gate

/-! ## Calls and visits -/

/-- The import of a pair and what it meets: the time since the call before was finished, the answer
of the source, and the database. -/
structure ImportCall where
  idle : Nat
  symbol : String
  timeframe : Timeframe
  reply : CandleReply
  store : Store

/-- What the call asks of its source. -/
def ImportCall.request (limit : Nat) (call : ImportCall) : CandleRequest :=
  ⟨call.symbol, call.timeframe, limit⟩

/-- An import as it takes place: when it is entered, when it calls its source, and what it does. -/
structure Visit (limit : Nat) where
  call : ImportCall
  entered : Nat
  started : Nat
  step : PairStep
  asked : step.events.head? = some (.asked (call.request limit) started)

/-- When the source has answered. -/
def Visit.finished {limit : Nat} (v : Visit limit) : Nat := v.step.clock

/-- The import through the gate, when the call before was finished at the time `now`. -/
def ImportCall.visit (limit : Nat) (gate : Gate) (now : Nat) (call : ImportCall) : Visit limit :=
  let importer : Importer := { source := fun _ => call.reply, limit, gate }
  let entered := now + call.idle
  { call, entered
    started := gate.acquire entered
    step := importer.importPair call.symbol call.timeframe call.store entered
    asked := rfl }

/-- The imports of one importer in order, from the time `now` on. -/
def visits (limit : Nat) (gate : Gate) (now : Nat) : List ImportCall → List (Visit limit)
  | [] => []
  | call :: calls =>
    let v := call.visit limit gate now
    v :: visits limit v.step.gate v.finished calls

/-- The candle source that an event asks, for what and when. -/
def Event.ask? : Event → Option (CandleRequest × Nat)
  | asked request start => some (request, start)
  | sent _ | logged _ => none

/-- What candle sources are asked among the events, and when, in order. -/
def asksOf (events : List Event) : List (CandleRequest × Nat) := events.filterMap Event.ask?

/-- The calls that importing the pairs makes, one right after another. -/
def RunState.calls (source : CandleSource) (limit : Nat) (s : RunState) :
    List (String × Timeframe) → List ImportCall
  | [] => []
  | pair :: ps =>
    { idle := 0, symbol := pair.1, timeframe := pair.2, reply := source (pairRequest limit pair)
      store := s.store } :: calls source limit (s.importNext source limit pair) ps

/-- The calls of a run, from its transaction on. -/
def runCalls (settings : RunSettings) (ranking : Ranking) (source : CandleSource) (store : Store)
    (now : Nat) : List ImportCall :=
  match (ranking settings.topN).assets, store.startTransaction with
  | .ok assets, .ok () =>
    let ls := listings settings.quoteAsset assets
    let s : RunState :=
      { outcomes := [], store := (reconcile now store ls).store
        gate := { pause := settings.rateDelay }, clock := now, events := [] }
    s.calls source settings.candleLimit (pairs ls settings.timeframes)
  | _, _ => []

theorem map_fst_asksOf (events : List Event) :
    (asksOf events).map Prod.fst = requestsOf events := by
  rw [asksOf, List.map_filterMap, requestsOf]
  refine congrFun (congrArg _ (funext fun e => ?_)) _
  cases e <;> rfl

theorem asksOf_eq_nil {events : List Event} : asksOf events = [] ↔ requestsOf events = [] := by
  rw [← map_fst_asksOf, List.map_eq_nil_iff]

theorem asksOf_append (events more : List Event) :
    asksOf (events ++ more) = asksOf events ++ asksOf more :=
  List.filterMap_append

theorem asksOf_logged (lines : List LogLine) : asksOf (lines.map .logged) = [] := by
  simp [asksOf, Event.ask?, List.filterMap_map, Function.comp_def]

section Visits

variable {limit : Nat} {gate : Gate} {now : Nat} {call : ImportCall}

theorem finished_visit :
    (call.visit limit gate now).finished =
      (call.visit limit gate now).started + call.reply.latency := rfl

theorem gate_visit :
    (call.visit limit gate now).step.gate = gate.release (call.visit limit gate now).finished := rfl

theorem pause_gate_visit : (call.visit limit gate now).step.gate.pause = gate.pause :=
  gate.pause_release _

theorem asksOf_visit :
    asksOf (call.visit limit gate now).step.events =
      (call.request limit, (call.visit limit gate now).started) :: asksOf call.reply.events := by
  have he : (call.visit limit gate now).step.events =
      .asked (call.request limit) (call.visit limit gate now).started :: call.reply.events ++
        (importRows call.symbol call.timeframe call.reply.rows call.store).lines.map .logged := rfl
  rw [he, asksOf_append, asksOf_logged, List.append_nil]
  rfl

/-- **A call after another** starts when it is entered or when the pause after the other is over. -/
theorem visit_after (v : Visit limit) (hg : v.step.gate = gate.release v.finished)
    (call : ImportCall) :
    (call.visit limit v.step.gate v.finished).started =
      max (call.visit limit v.step.gate v.finished).entered (v.finished + gate.pause) := by
  have hle : v.finished ≤ v.finished + call.idle := Nat.le_add_right _ _
  rw [hg]
  exact gate.acquire_release hle

theorem head?_visits (calls : List ImportCall) :
    (visits limit gate now calls).head? = calls.head?.map (·.visit limit gate now) := by
  cases calls <;> rfl

theorem map_call_visits (calls : List ImportCall) :
    (visits limit gate now calls).map Visit.call = calls := by
  induction calls generalizing gate now with
  | nil => rfl
  | cons call calls ih => exact congrArg (call :: ·) ih

theorem eq_visit_of_mem_visits {calls : List ImportCall} {v : Visit limit}
    (hv : v ∈ visits limit gate now calls) :
    ∃ call ∈ calls, ∃ other : Gate, other.pause = gate.pause ∧
      ∃ t, v = call.visit limit other t := by
  induction calls generalizing gate now with
  | nil => cases hv
  | cons call calls ih =>
    rcases List.mem_cons.mp hv with rfl | hv
    · exact ⟨call, List.mem_cons_self, gate, rfl, now, rfl⟩
    · obtain ⟨c, hc, other, hp, t, rfl⟩ := ih hv
      exact ⟨c, List.mem_cons_of_mem call hc, other, hp.trans pause_gate_visit, t, rfl⟩

theorem finished_of_mem_visits {calls : List ImportCall} {v : Visit limit}
    (hv : v ∈ visits limit gate now calls) : v.finished = v.started + v.call.reply.latency := by
  obtain ⟨call, -, other, -, t, rfl⟩ := eq_visit_of_mem_visits hv
  exact finished_visit

theorem started_of_mem_visits (h : gate.pause = 0) {calls : List ImportCall} {v : Visit limit}
    (hv : v ∈ visits limit gate now calls) : v.started = v.entered := by
  obtain ⟨call, -, other, hp, t, rfl⟩ := eq_visit_of_mem_visits hv
  exact Gate.acquire_of_pause_eq_zero (hp.trans h) _

theorem isChain_visits (limit : Nat) (gate : Gate) (now : Nat) (calls : List ImportCall) :
    (visits limit gate now calls).IsChain fun v w =>
      w.entered = v.finished + w.call.idle ∧
        w.started = max w.entered (v.finished + gate.pause) := by
  induction calls generalizing gate now with
  | nil => exact List.isChain_nil
  | cons call calls ih =>
    refine List.isChain_cons.mpr ⟨fun w hw => ?_, ?_⟩
    · rw [head?_visits] at hw
      obtain ⟨next, -, rfl⟩ := Option.map_eq_some_iff.mp hw
      exact ⟨rfl, visit_after _ gate_visit next⟩
    · have hrest := ih (call.visit limit gate now).step.gate (call.visit limit gate now).finished
      rwa [pause_gate_visit] at hrest

theorem le_started_last (calls : List ImportCall) :
    ∀ last ∈ (visits limit gate now (call :: calls)).getLast?,
      (call.visit limit gate now).started + calls.length * gate.pause +
        ((call :: calls).dropLast.map (·.reply.latency)).sum ≤ last.started := by
  induction calls generalizing gate now call with
  | nil =>
    intro last hl
    obtain rfl : call.visit limit gate now = last := by simpa [visits] using hl
    simp
  | cons next calls ih =>
    intro last hl
    have hafter := visit_after (call.visit limit gate now) gate_visit next
    have hrest := ih last (by simpa [visits] using hl)
    rw [pause_gate_visit] at hrest
    rw [finished_visit] at hafter
    have hfirst : (call.visit limit gate now).started + call.reply.latency + gate.pause ≤
        (next.visit limit (call.visit limit gate now).step.gate
          (call.visit limit gate now).finished).started :=
      le_of_le_of_eq (Nat.le_max_right _ _) hafter.symm
    simp only [List.dropLast_cons_cons, List.map_cons, List.sum_cons, List.length_cons,
      Nat.succ_mul] at hrest ⊢
    omega

end Visits

/-! ## Runs -/

section Runs

variable {settings : RunSettings} {ranking : Ranking} {source : CandleSource} {limit : Nat}
  {store : Store} {now : Nat}

theorem asksOf_importNext (s : RunState) (pair : String × Timeframe) :
    asksOf (s.importNext source limit pair).events = asksOf s.events ++
      (visits limit s.gate s.clock (s.calls source limit [pair])).flatMap
        (asksOf ·.step.events) := by
  have hv : (visits limit s.gate s.clock (s.calls source limit [pair])).flatMap
      (asksOf ·.step.events) = asksOf (Importer.importPair { source, limit, gate := s.gate }
        pair.1 pair.2 s.store s.clock).events := List.append_nil _
  rw [events_importNext, hv, asksOf_append, asksOf_append, asksOf_append, asksOf_logged,
    asksOf_logged, List.append_nil, List.append_nil]

theorem asksOf_importPairs (source : CandleSource) (limit : Nat) (s : RunState)
    (ps : List (String × Timeframe)) :
    asksOf (importPairs source limit s ps).events = asksOf s.events ++
      (visits limit s.gate s.clock (s.calls source limit ps)).flatMap (asksOf ·.step.events) := by
  induction ps generalizing s with
  | nil => exact (List.append_nil _).symm
  | cons pair ps ih =>
    have hcons : visits limit s.gate s.clock (s.calls source limit (pair :: ps)) =
        visits limit s.gate s.clock (s.calls source limit [pair]) ++
          visits limit (s.importNext source limit pair).gate (s.importNext source limit pair).clock
            ((s.importNext source limit pair).calls source limit ps) := rfl
    rw [importPairs, List.foldl_cons, ← importPairs, ih, asksOf_importNext, hcons,
      List.flatMap_append, List.append_assoc]

theorem of_mem_calls {s : RunState} {ps : List (String × Timeframe)} {call : ImportCall}
    (h : call ∈ s.calls source limit ps) :
    call.idle = 0 ∧ call.reply = source (call.request limit) := by
  induction ps generalizing s with
  | nil => cases h
  | cons pair ps ih =>
    rcases List.mem_cons.mp h with rfl | h
    · exact ⟨rfl, rfl⟩
    · exact ih h

theorem of_mem_runCalls {call : ImportCall}
    (h : call ∈ runCalls settings ranking source store now) :
    call.idle = 0 ∧ call.reply = source (call.request settings.candleLimit) := by
  rw [runCalls] at h
  split at h
  · exact of_mem_calls h
  · cases h

/-- **What a run asks and when**: its calls are those of one importer. -/
theorem asksOf_run : asksOf (run settings ranking source store now).events =
    asksOf (ranking settings.topN).events ++
      (visits settings.candleLimit { pause := settings.rateDelay } now
        (runCalls settings ranking source store now)).flatMap (asksOf ·.step.events) := by
  have hone : ∀ line : LogLine, asksOf [.logged line] = [] := fun _ => rfl
  rw [run, runCalls]
  cases (ranking settings.topN).assets with
  | error failure => exact (List.append_nil _).symm
  | ok assets =>
    cases store.startTransaction with
    | error e => simp [asksOf_append, hone, visits]
    | ok u =>
      have hpairs := asksOf_importPairs source settings.candleLimit
        { outcomes := [], store := (reconcile now store (listings settings.quoteAsset assets)).store
          gate := { pause := settings.rateDelay }, clock := now, events := [] }
        (pairs (listings settings.quoteAsset assets) settings.timeframes)
      dsimp only
      -- the lines at the end of a run depend on the commit, but what was asked does not
      split <;>
        simp only [asksOf_append, asksOf_logged, hone, List.append_nil, importListings, hpairs] <;>
        rfl

theorem of_mem_visits_runCalls {gate : Gate} {t : Nat} {v : Visit settings.candleLimit}
    (hv : v ∈ visits settings.candleLimit gate t (runCalls settings ranking source store now)) :
    v.call.idle = 0 ∧ v.call.reply = source (v.call.request settings.candleLimit) := by
  have hcall := List.mem_map_of_mem (f := Visit.call) hv
  rw [map_call_visits] at hcall
  exact of_mem_runCalls hcall

theorem asksOf_run_of_quiet (hs : source.Quiet)
    (hr : requestsOf (ranking settings.topN).events = []) :
    asksOf (run settings ranking source store now).events =
      (visits settings.candleLimit { pause := settings.rateDelay } now
        (runCalls settings ranking source store now)).map fun v =>
          (v.call.request settings.candleLimit, v.started) := by
  rw [asksOf_run, asksOf_eq_nil.mpr hr, List.nil_append, List.map_eq_flatMap]
  refine List.flatMap_congr fun v hv => ?_
  have hquiet : asksOf v.call.reply.events = [] := by
    rw [(of_mem_visits_runCalls hv).2]
    exact asksOf_eq_nil.mpr (hs _)
  obtain ⟨call, -, other, -, t, rfl⟩ := eq_visit_of_mem_visits hv
  rw [asksOf_visit]
  exact congrArg _ hquiet

/-- **The calls of a run** are apart by the pause, when nothing but the run calls the source. -/
theorem isChain_asksOf_run (hs : source.Quiet)
    (hr : requestsOf (ranking settings.topN).events = []) :
    (asksOf (run settings ranking source store now).events).IsChain fun a b =>
      b.2 = a.2 + (source a.1).latency + settings.rateDelay := by
  rw [asksOf_run_of_quiet hs hr, List.isChain_map]
  refine List.IsChain.imp_of_mem_imp ?_ (isChain_visits _ _ _ _)
  rintro v w hv hw ⟨hentered, hstarted⟩
  have hfinished := finished_of_mem_visits hv
  rw [(of_mem_visits_runCalls hv).2] at hfinished
  rw [(of_mem_visits_runCalls hw).1] at hentered
  dsimp only at hstarted ⊢
  omega

/-- Answers take 7 milliseconds, and the pause is of 50. -/
example :
    let done := run SmallRun.settings SmallRun.ranking SmallRun.source SmallRun.store 0
    (asksOf done.events).map Prod.snd = [0, 57, 114, 171] := by
  decide +kernel

end Runs

/-- **Candle calls are paced.** A call starts when it is entered or when the pause after the call
before is over, the later of the two, whatever the calls bring. -/
theorem candle_calls_paced (limit pause now : Nat) (calls : List ImportCall) :
    let vs := visits limit { pause } now calls
    vs.map Visit.call = calls ∧
      (∀ v ∈ vs, v.finished = v.started + v.call.reply.latency) ∧
      (∀ first ∈ vs.head?, first.entered = now + first.call.idle ∧ first.started = first.entered) ∧
      (vs.IsChain fun v w => w.entered = v.finished + w.call.idle ∧
        w.started = max w.entered (v.finished + pause)) ∧
      (pause = 0 → ∀ v ∈ vs, v.started = v.entered) ∧
      (∀ first ∈ vs.head?, ∀ last ∈ vs.getLast?,
        first.started + (calls.length - 1) * pause + (calls.dropLast.map (·.reply.latency)).sum ≤
          last.started) ∧
      ∀ settings ranking source store, asksOf (run settings ranking source store now).events =
        asksOf (ranking settings.topN).events ++
          (visits settings.candleLimit { pause := settings.rateDelay } now
            (runCalls settings ranking source store now)).flatMap (asksOf ·.step.events) := by
  intro vs
  refine ⟨map_call_visits calls, fun v hv => finished_of_mem_visits hv, ?_,
    isChain_visits limit { pause } now calls, fun hp v hv => started_of_mem_visits hp hv, ?_,
    fun _ _ _ _ => asksOf_run⟩
  · intro first hf
    rw [head?_visits] at hf
    obtain ⟨call, -, rfl⟩ := Option.map_eq_some_iff.mp hf
    exact ⟨rfl, Gate.acquire_new pause _⟩
  · intro first hf last hl
    cases calls with
    | nil => cases hf
    | cons call calls =>
      obtain rfl := Option.some.inj hf
      exact le_started_last calls last hl

end CandleArchive
