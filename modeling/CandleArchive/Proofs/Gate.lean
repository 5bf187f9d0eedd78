import CandleArchive.Proofs.Pacing

/-!
# The gate — on any trace

Whoever uses a gate may acquire it without a release, release it again and again, or release it
before anything was acquired. All that counts for an acquire is when it is made and when the release
before it was.

* `GateStep.duration`, `opening`: how long a step takes;
* `Moment`, `Gate.moments`: the steps of a trace, each with its beginning and its end;
* `lastRelease`, **`exists_gate_at`**: the gate that a step of a trace meets;
* `isChain_moments`, `pairwise_moments`: one step after another, and time never goes backwards;
* **`ended_of_acquire`**, `release_add_pause_le`: when an acquire returns;
* **`exists_moments_drop`**: a release that does not count;
* `ImportCall.steps`, `returns_steps`: the calls of an importer as a trace;
* **`traces_are_paced`**: all of it.
-/

namespace CandleArchive

/-! ## One step -/

/-- How long a step takes of its own accord. -/
def GateStep.duration : GateStep → ℕ
  | pass duration => duration
  | acquire | release => 0

/-- When an acquire returns that is made at the time `now`, after a release at the given time. -/
def opening (pause now : ℕ) : Option ℕ → ℕ
  | none => now
  | some released => max now (released + pause)

section Step

variable {gate : Gate} {clock : ℕ} {s : GateStep}

theorem pause_step : (gate.step clock s).1.pause = gate.pause := by
  cases s with
  | acquire => rfl
  | release => exact gate.pause_release clock
  | pass duration => rfl

theorem acquire_eq_opening (h : gate.pause ≠ 0) (now : ℕ) :
    gate.acquire now = opening gate.pause now gate.lastFinished := by
  rw [Gate.acquire, if_neg h]
  cases gate.lastFinished <;> rfl

theorem le_acquire (gate : Gate) (now : ℕ) : now ≤ gate.acquire now := by
  by_cases h : gate.pause = 0
  · exact (Gate.acquire_of_pause_eq_zero h now).ge
  · rw [acquire_eq_opening h]
    cases gate.lastFinished with
    | none => exact le_rfl
    | some released => exact Nat.le_max_left _ _

theorem clock_le_step : clock ≤ (gate.step clock s).2 := by
  cases s with
  | acquire => exact le_acquire gate clock
  | release => exact le_rfl
  | pass duration => exact Nat.le_add_right clock duration

theorem clock_step (h : s ≠ .acquire ∨ gate.pause = 0) :
    (gate.step clock s).2 = clock + s.duration := by
  cases s with
  | acquire => exact Gate.acquire_of_pause_eq_zero (h.resolve_left fun hne => hne rfl) clock
  | release => rfl
  | pass duration => rfl

theorem lastFinished_step (h : gate.pause ≠ 0) :
    (gate.step clock s).1.lastFinished =
      (if s = .release then some (gate.step clock s).2 else none).or gate.lastFinished := by
  cases s with
  | acquire => rfl
  | release => rw [Gate.step, Gate.release, if_neg h, if_pos rfl, Option.some_or]
  | pass duration => rfl

end Step

/-! ## Traces -/

/-- A step at a gate as it takes place: what it is, when it begins, and when it is over. -/
structure Moment where
  step : GateStep
  begun : ℕ
  ended : ℕ

/-- The steps at the gate as they take place, from the time `clock` on. -/
def Gate.moments (gate : Gate) (clock : ℕ) : List GateStep → List Moment
  | [] => []
  | s :: steps =>
    let next := gate.step clock s
    ⟨s, clock, next.2⟩ :: next.1.moments next.2 steps

/-- When the last release among the moments was. -/
def lastRelease (ms : List Moment) : Option ℕ :=
  ((ms.filter (·.step = .release)).getLast?).map Moment.ended

/-- When the acquires among the moments return, in order. -/
def returns (ms : List Moment) : List ℕ := (ms.filter (·.step = .acquire)).map Moment.ended

section Moments

variable {gate : Gate} {clock t : ℕ} {steps : List GateStep} {m : Moment}
  {ms before after : List Moment}

theorem lastRelease_cons :
    lastRelease (m :: ms) =
      (lastRelease ms).or (if m.step = .release then some m.ended else none) := by
  rw [lastRelease, lastRelease, List.filter_cons]
  by_cases h : m.step = .release
  · rw [if_pos (decide_eq_true h), if_pos h, List.getLast?_cons]
    cases (ms.filter (·.step = .release)).getLast? <;> rfl
  · rw [if_neg (by simpa using h), if_neg h, Option.or_none]

theorem exists_of_lastRelease (h : lastRelease ms = some t) : ∃ m ∈ ms, m.ended = t := by
  obtain ⟨m, hm, ht⟩ := Option.map_eq_some_iff.mp h
  exact ⟨m, (List.mem_filter.mp (List.mem_of_getLast? hm)).1, ht⟩

theorem le_lastRelease (hp : ms.Pairwise fun m n => m.ended ≤ n.ended) (hm : m ∈ ms)
    (hr : m.step = .release) : ∃ released, lastRelease ms = some released ∧ m.ended ≤ released := by
  induction ms with
  | nil => cases hm
  | cons n ms ih =>
    obtain ⟨hn, hp⟩ := List.pairwise_cons.mp hp
    rw [lastRelease_cons]
    rcases List.mem_cons.mp hm with rfl | hm
    · rw [if_pos hr]
      cases hl : lastRelease ms with
      | none => exact ⟨m.ended, rfl, le_rfl⟩
      | some released =>
        obtain ⟨later, hlater, rfl⟩ := exists_of_lastRelease hl
        exact ⟨later.ended, rfl, hn later hlater⟩
    · obtain ⟨released, hl, hle⟩ := ih hp hm
      exact ⟨released, by rw [hl]; rfl, hle⟩

theorem map_step_moments (gate : Gate) (clock : ℕ) (steps : List GateStep) :
    (gate.moments clock steps).map Moment.step = steps := by
  induction steps generalizing gate clock with
  | nil => rfl
  | cons s steps ih => exact congrArg (s :: ·) (ih _ _)

theorem map_ended_moments (gate : Gate) (clock : ℕ) (steps : List GateStep) :
    (gate.moments clock steps).map Moment.ended = gate.times clock steps := by
  induction steps generalizing gate clock with
  | nil => rfl
  | cons s steps ih => exact congrArg ((gate.step clock s).2 :: ·) (ih _ _)

/-- **A step of a trace** meets a gate with the same pause. With a pause, all that this gate
remembers is the last release before the step. -/
theorem exists_gate_at (h : gate.moments clock steps = before ++ m :: after) :
    clock ≤ m.begun ∧ ∃ there : Gate, there.pause = gate.pause ∧
      m.ended = (there.step m.begun m.step).2 ∧
      (gate.pause ≠ 0 → there.lastFinished = (lastRelease before).or gate.lastFinished) := by
  -- along the steps before; what the gate remembers of them is added at the head
  induction before generalizing gate clock steps with
  | nil =>
    cases steps with
    | nil => cases h
    | cons s steps =>
      obtain ⟨rfl, -⟩ := List.cons.inj h
      exact ⟨le_rfl, gate, rfl, rfl, fun _ => rfl⟩
  | cons b before ih =>
    cases steps with
    | nil => cases h
    | cons s steps =>
      obtain ⟨rfl, hrest⟩ := List.cons.inj h
      obtain ⟨hle, there, hpause, hended, hlast⟩ := ih hrest
      refine ⟨clock_le_step.trans hle, there, hpause.trans pause_step, hended, fun hp => ?_⟩
      rw [hlast (pause_step.trans_ne hp), lastFinished_step hp, lastRelease_cons, Option.or_assoc]

theorem exists_of_mem_moments (h : m ∈ gate.moments clock steps) :
    clock ≤ m.begun ∧ ∃ there : Gate, there.pause = gate.pause ∧
      m.ended = (there.step m.begun m.step).2 := by
  obtain ⟨before, after, hms⟩ := List.append_of_mem h
  obtain ⟨hle, there, hpause, hended, -⟩ := exists_gate_at hms
  exact ⟨hle, there, hpause, hended⟩

theorem begun_le_ended (h : m ∈ gate.moments clock steps) : m.begun ≤ m.ended := by
  obtain ⟨-, there, -, hended⟩ := exists_of_mem_moments h
  exact clock_le_step.trans_eq hended.symm

theorem begun_of_mem_head? (h : m ∈ (gate.moments clock steps).head?) : m.begun = clock := by
  cases steps with
  | nil => cases h
  | cons s steps =>
    obtain rfl := Option.some.inj h
    rfl

theorem isChain_moments (gate : Gate) (clock : ℕ) (steps : List GateStep) :
    (gate.moments clock steps).IsChain fun m n => n.begun = m.ended := by
  induction steps generalizing gate clock with
  | nil => exact List.isChain_nil
  | cons s steps ih =>
    exact List.isChain_cons.mpr ⟨fun n hn => begun_of_mem_head? hn, ih _ _⟩

theorem pairwise_moments (gate : Gate) (clock : ℕ) (steps : List GateStep) :
    (gate.moments clock steps).Pairwise fun m n => m.ended ≤ n.ended := by
  induction steps generalizing gate clock with
  | nil => exact List.Pairwise.nil
  | cons s steps ih =>
    refine List.Pairwise.cons (fun n hn => ?_) (ih _ _)
    exact (exists_of_mem_moments hn).1.trans (begun_le_ended hn)

/-- **An acquire** returns at once, or when the pause after the last release is over. -/
theorem ended_of_acquire {pause : ℕ} (hp : pause ≠ 0)
    (h : ({ pause } : Gate).moments clock steps = before ++ m :: after) (hm : m.step = .acquire) :
    m.ended = opening pause m.begun (lastRelease before) := by
  obtain ⟨-, there, hpause, hended, hlast⟩ := exists_gate_at h
  have hthere : there.pause ≠ 0 := fun hz => hp (hpause.symm.trans hz)
  rw [hended, hm, Gate.step, acquire_eq_opening hthere, hpause, hlast hp, Option.or_none]

/-- **The pause after every release** is over when a later acquire returns. -/
theorem release_add_pause_le {pause : ℕ} {released : Moment} {between : List Moment}
    (h : ({ pause } : Gate).moments clock steps = before ++ released :: between ++ m :: after)
    (hr : released.step = .release) (hm : m.step = .acquire) :
    released.ended + pause ≤ m.ended := by
  have hp := pairwise_moments { pause } clock steps
  rw [h, List.pairwise_append] at hp
  have hmem : released ∈ before ++ released :: between :=
    List.mem_append_right _ List.mem_cons_self
  by_cases hz : pause = 0
  · rw [hz, Nat.add_zero]
    exact hp.2.2 released hmem m List.mem_cons_self
  · obtain ⟨last, hlast, hle⟩ := le_lastRelease hp.1 hmem hr
    have hended := ended_of_acquire hz h hm
    rw [hlast, opening] at hended
    omega

end Moments

/-! ## Releases that do not count -/

section Releases

variable {gate other : Gate} {clock : ℕ} {before between after : List GateStep}

theorem release_of_pause_eq_zero (h : gate.pause = 0) (now : ℕ) : gate.release now = gate :=
  if_pos h

theorem release_release (gate : Gate) (earlier later : ℕ) :
    (gate.release earlier).release later = gate.release later := by
  by_cases h : gate.pause = 0
  · rw [release_of_pause_eq_zero h]
  · have hr : (gate.release earlier).pause ≠ 0 := (gate.pause_release earlier).trans_ne h
    rw [Gate.release, if_neg hr, Gate.release, if_neg h, Gate.release, if_neg h]

/-- Until it is released again, a gate that nobody acquires does not show what it remembers. -/
theorem moments_congr (hg : ∀ t, gate.release t = other.release t) (h : .acquire ∉ between) :
    gate.moments clock (between ++ .release :: after) =
      other.moments clock (between ++ .release :: after) := by
  induction between generalizing clock with
  | nil =>
    simp only [List.nil_append, Gate.moments, Gate.step]
    rw [hg]
  | cons s between ih =>
    obtain ⟨hs, hrest⟩ := not_or.mp (mt List.mem_cons.mpr h)
    cases s with
    | acquire => exact absurd rfl hs
    | release =>
      simp only [List.cons_append, Gate.moments, Gate.step]
      rw [hg]
    | pass duration => exact congrArg (_ :: ·) (ih hrest)

/-- **A release before another one** with no acquire between them may be dropped: all other steps
take place at the same times. -/
theorem exists_moments_drop (gate : Gate) (clock : ℕ) (before after : List GateStep)
    (h : .acquire ∉ between) :
    ∃ earlier released later,
      gate.moments clock (before ++ .release :: (between ++ .release :: after)) =
        earlier ++ released :: later ∧
      released.step = .release ∧
      gate.moments clock (before ++ (between ++ .release :: after)) = earlier ++ later := by
  induction before generalizing gate clock with
  | nil =>
    exact ⟨[], ⟨.release, clock, clock⟩, _, rfl, rfl,
      moments_congr (fun t => (release_release gate clock t).symm) h⟩
  | cons s before ih =>
    obtain ⟨earlier, released, later, hall, hr, hdrop⟩ :=
      ih (gate.step clock s).1 (gate.step clock s).2
    exact ⟨_ :: earlier, released, later, congrArg (_ :: ·) hall, hr, congrArg (_ :: ·) hdrop⟩

theorem returns_drop (gate : Gate) (clock : ℕ) (before after : List GateStep)
    (h : .acquire ∉ between) :
    returns (gate.moments clock (before ++ (between ++ .release :: after))) =
      returns (gate.moments clock (before ++ .release :: (between ++ .release :: after))) := by
  obtain ⟨earlier, released, later, hall, hr, hdrop⟩ :=
    exists_moments_drop gate clock before after h
  have hnot : ¬ released.step = .acquire := by simp [hr]
  rw [hall, hdrop, returns, returns, List.filter_append, List.filter_append,
    List.filter_cons_of_neg (by simpa using hnot)]

end Releases

/-! ## The calls of an importer -/

/-- What an import does at its gate. -/
def ImportCall.steps (call : ImportCall) : List GateStep :=
  [.pass call.idle, .acquire, .pass call.reply.latency, .release]

/-- **The calls of an importer** are a trace, in which every acquire is followed by a release. -/
theorem returns_steps (limit : ℕ) (gate : Gate) (now : ℕ) (calls : List ImportCall) :
    returns (gate.moments now (calls.flatMap ImportCall.steps)) =
      (visits limit gate now calls).map Visit.started := by
  induction calls generalizing gate now with
  | nil => rfl
  | cons call calls ih =>
    exact congrArg ((call.visit limit gate now).started :: ·)
      (ih (call.visit limit gate now).step.gate (call.visit limit gate now).finished)

/-- **Traces are paced.** With a pause an acquire returns when it is made or when the pause after
the last release is over, the later of the two. -/
theorem traces_are_paced (pause now : ℕ) (steps : List GateStep) :
    let ms := ({ pause } : Gate).moments now steps
    ms.map Moment.step = steps ∧ ms.map Moment.ended = ({ pause } : Gate).times now steps ∧
      (∀ first ∈ ms.head?, first.begun = now) ∧
      (ms.IsChain fun m n => n.begun = m.ended) ∧
      (∀ m ∈ ms, m.begun ≤ m.ended) ∧
      (∀ m ∈ ms, m.step ≠ .acquire ∨ pause = 0 → m.ended = m.begun + m.step.duration) ∧
      (pause ≠ 0 → ∀ before m after, ms = before ++ m :: after → m.step = .acquire →
        m.ended = opening pause m.begun (lastRelease before)) ∧
      (∀ before released between m after, ms = before ++ released :: between ++ m :: after →
        released.step = .release → m.step = .acquire → released.ended + pause ≤ m.ended) ∧
      ∀ before between after, steps = before ++ .release :: (between ++ .release :: after) →
        .acquire ∉ between →
        returns (({ pause } : Gate).moments now (before ++ (between ++ .release :: after))) =
          returns ms := by
  intro ms
  refine ⟨map_step_moments _ _ _, map_ended_moments _ _ _, fun _ => begun_of_mem_head?,
    isChain_moments _ _ _, fun _ => begun_le_ended, fun m hm h => ?_,
    fun hp _ _ _ => ended_of_acquire hp, fun _ _ _ _ _ => release_add_pause_le, ?_⟩
  · obtain ⟨-, there, hpause, hended⟩ := exists_of_mem_moments hm
    rw [hended, clock_step (h.imp_right hpause.trans)]
  · rintro before between after rfl h
    exact returns_drop _ now before after h

/-- Two releases before anything is acquired, and two acquires without a release between them. -/
theorem traces_are_paced_small :
    ({ pause := 50 } : Gate).times 0 [.release, .pass 3, .release, .acquire, .acquire] =
        [0, 3, 3, 53, 53] ∧
      53 = opening 50 53 (some 3) ∧
      returns (({ pause := 50 } : Gate).moments 0 [.pass 3, .release, .acquire, .acquire]) =
        [53, 53] := by
  obtain ⟨-, htimes, -, -, -, -, hopening, -, hdrop⟩ :=
    traces_are_paced 50 0 [.release, .pass 3, .release, .acquire, .acquire]
  refine ⟨htimes.symm.trans (by decide), ?_, ?_⟩
  · exact hopening (by decide)
      [⟨.release, 0, 0⟩, ⟨.pass 3, 0, 3⟩, ⟨.release, 3, 3⟩, ⟨.acquire, 3, 53⟩]
      ⟨.acquire, 53, 53⟩ [] rfl rfl
  · exact (hdrop [] [.pass 3] [.acquire, .acquire] rfl (by decide)).trans (by decide)

end CandleArchive
