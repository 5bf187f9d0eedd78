import CandleArchive.Environment
import CandleArchive.Proofs.Config
import CandleArchive.Proofs.Text.Utf8

/-!
# The environment — variables before the lines of a file

The lines of a file change the environment one after another. What is read afterwards is the same as
from two fixed layers: the variables that have a text, and under them the first line of each key
among those before the first malformed one.

* `usableLines`, `firstSet`, `FirstSet`: what the lines of a file say of a key;
* `lookup_setDefault`, **`lookup_load`**: the environment after one entry, and after all;
* `Environment.layered`, `layered_eq_some`: the two layers;
* `layered_of_malformed`, `layered_of_shadowed`: lines without effect;
* **`environment_over_file`**: all of it, for the configuration.
-/

namespace CandleArchive

open Text (utf8)

/-! ## The lines of a file -/

/-- The lines before the first malformed one. -/
def usableLines (lines : List EnvLine) : List EnvLine := lines.takeWhile (· ≠ .malformed)

/-- The value that the line gives to the key. -/
def EnvLine.value? (key : String) : EnvLine → Option String
  | setting other value => if other = key then some value else none
  | _ => none

/-- The value on the first usable line that sets the key. -/
def firstSet (lines : List EnvLine) (key : String) : Option String :=
  (usableLines lines).findSome? (EnvLine.value? key)

/-- A line sets the key to the value; no line before it sets the key, and none is malformed. -/
def FirstSet (lines : List EnvLine) (key value : String) : Prop :=
  ∃ before after, lines = before ++ .setting key value :: after ∧
    .malformed ∉ before ∧ ∀ other, .setting key other ∉ before

section Lines

variable {lines before after : List EnvLine} {key value : String}

theorem value?_eq_some {line : EnvLine} :
    line.value? key = some value ↔ line = .setting key value := by
  cases line <;> simp [EnvLine.value?]

theorem value?_eq_none {line : EnvLine} :
    line.value? key = none ↔ ∀ value, line ≠ .setting key value := by
  simp only [Option.eq_none_iff_forall_ne_some, ne_eq, value?_eq_some]

theorem usableLines_append (h : .malformed ∉ before) :
    usableLines (before ++ after) = before ++ usableLines after :=
  List.takeWhile_append_of_pos fun _ hline => decide_eq_true fun heq => h (heq ▸ hline)

theorem usableLines_append_malformed :
    usableLines (before ++ .malformed :: after) = usableLines before := by
  unfold usableLines
  induction before with
  | nil => rfl
  | cons line before ih => rw [List.cons_append, List.takeWhile_cons, List.takeWhile_cons, ih]

theorem malformed_notMem_usableLines : .malformed ∉ usableLines lines := by
  intro h
  have hgood := List.mem_takeWhile_imp (p := fun line => decide (line ≠ EnvLine.malformed)) h
  simp at hgood

theorem firstSet_append (h : .malformed ∉ before) :
    firstSet (before ++ after) key =
      (before.findSome? (EnvLine.value? key)).or (firstSet after key) := by
  rw [firstSet, usableLines_append h, List.findSome?_append, firstSet]

theorem firstSet_cons {line : EnvLine} (h : line ≠ .malformed) :
    firstSet (line :: lines) key = (line.value? key).or (firstSet lines key) := by
  have hone : EnvLine.malformed ∉ [line] := by simpa using h.symm
  rw [← List.singleton_append, firstSet_append hone, List.findSome?_singleton]

theorem firstSet_eq_some : firstSet lines key = some value ↔ FirstSet lines key value := by
  rw [firstSet, List.findSome?_eq_some_iff]
  simp only [value?_eq_some, value?_eq_none]
  constructor
  · rintro ⟨before, _, after, husable, rfl, hfirst⟩
    have hgood : .malformed ∉ before := fun h =>
      malformed_notMem_usableLines (husable ▸ List.mem_append_left _ h)
    refine ⟨before, after ++ lines.dropWhile (· ≠ .malformed), ?_, hgood,
      fun other h => hfirst _ h other rfl⟩
    rw [← List.cons_append, ← List.append_assoc, ← husable]
    exact List.takeWhile_append_dropWhile.symm
  · rintro ⟨before, after, rfl, hgood, hfirst⟩
    refine ⟨before, _, usableLines after, ?_, rfl, fun line hline other heq => ?_⟩
    · rw [usableLines_append hgood]
      rfl
    · exact hfirst other (heq ▸ hline)

theorem lookup_envSettings : (envSettings lines).lookup key = firstSet lines key := by
  fun_induction envSettings lines with
  | case1 => rfl
  | case2 rest ih => rw [firstSet_cons (by simp), ← ih]; rfl
  | case3 other value rest ih =>
    rw [firstSet_cons (by simp), ← ih, List.lookup_cons, EnvLine.value?]
    by_cases h : other = key
    · simp [h]
    · simp [h, beq_eq_false_iff_ne.mpr (Ne.symm h)]
  | case4 => rfl

end Lines

namespace Environment

variable (env : Environment) {lines before after : List EnvLine} {key value : String}

/-! ## Entry by entry -/

theorem lookup_eq_some : env.lookup key = some value ↔ env key = some (utf8 value) := by
  simp only [lookup, Option.bind_eq_some_iff, Text.ofUtf8?_eq_some, exists_eq_right]

theorem lookup_setDefault (entry : String × String) :
    (env.setDefault entry).lookup key =
      (env.lookup key).or (if key = entry.1 then some entry.2 else none) := by
  rw [setDefault]
  split
  case isTrue hset =>
    obtain ⟨text, htext⟩ := Option.isSome_iff_exists.mp hset
    by_cases hkey : key = entry.1
    · rw [hkey, htext, Option.some_or]
    · rw [if_neg hkey, Option.or_none]
  case isFalse hset =>
    rw [Option.not_isSome_iff_eq_none] at hset
    by_cases hkey : key = entry.1
    · rw [if_pos hkey, hkey, hset, Option.none_or, lookup, if_pos rfl, Option.bind_some,
        Text.ofUtf8?_utf8]
    · rw [if_neg hkey, Option.or_none, lookup, if_neg hkey, lookup]

/-- **The environment after all entries**: their first one counts where nothing was read before. -/
theorem lookup_load (entries : List (String × String)) :
    (env.load entries).lookup key = (env.lookup key).or (entries.lookup key) := by
  -- every entry changes the environment that the later ones meet
  induction entries generalizing env with
  | nil => exact (Option.or_none).symm
  | cons entry entries ih =>
    rw [load, List.foldl_cons, ← load, ih, lookup_setDefault, Option.or_assoc, List.lookup_cons]
    by_cases hkey : key = entry.1
    · simp [hkey]
    · simp [hkey, beq_eq_false_iff_ne.mpr hkey]

/-! ## Two layers -/

/-- What is read from the variables and, where they have no text, from the lines. -/
def layered (lines : List EnvLine) : Lookup :=
  fun key => (env.lookup key).or (firstSet lines key)

theorem lookup_load_envSettings (lines : List EnvLine) :
    (env.load (envSettings lines)).lookup = env.layered lines :=
  funext fun key => by rw [lookup_load, lookup_envSettings, layered]

theorem layered_eq_some :
    env.layered lines key = some value ↔
      env key = some (utf8 value) ∨
        (∀ text, env key ≠ some (utf8 text)) ∧ FirstSet lines key value := by
  rw [layered, Option.or_eq_some_iff, lookup_eq_some, firstSet_eq_some,
    Option.eq_none_iff_forall_ne_some]
  simp only [ne_eq, lookup_eq_some]

theorem layered_of_malformed (before after : List EnvLine) :
    env.layered (before ++ .malformed :: after) = env.layered before :=
  funext fun key => by rw [layered, layered, firstSet, usableLines_append_malformed, ← firstSet]

/-- A line has no effect if its key has a text already or is on a line before. -/
theorem layered_of_shadowed (value : String) (after : List EnvLine)
    (h : (∃ text, env key = some (utf8 text)) ∨ ∃ other, .setting key other ∈ before) :
    env.layered (before ++ .setting key value :: after) = env.layered (before ++ after) := by
  -- behind a malformed line neither the line nor what follows it is read
  by_cases hbad : .malformed ∈ before
  · obtain ⟨front, back, rfl⟩ := List.append_of_mem hbad
    simp only [List.append_assoc, List.cons_append, layered_of_malformed]
  funext other
  rw [layered, layered, firstSet_append hbad, firstSet_append hbad, firstSet_cons (by simp)]
  by_cases hkey : key = other
  · subst hkey
    rcases h with ⟨text, htext⟩ | ⟨other, hother⟩
    · rw [env.lookup_eq_some.mpr htext, Option.some_or, Option.some_or]
    · have hset : (before.findSome? (EnvLine.value? key)).isSome :=
        List.findSome?_isSome_iff.mpr ⟨_, hother, by simp [EnvLine.value?]⟩
      obtain ⟨first, hfirst⟩ := Option.isSome_iff_exists.mp hset
      rw [hfirst, Option.some_or, Option.some_or]
  · rw [EnvLine.value?, if_neg hkey, Option.none_or]

end Environment

/-! ## The configuration -/

section Reading

variable (read : EnvReader) (env : Environment)

theorem ofEnvironmentBy_eq (file : Option String) :
    Config.ofEnvironmentBy read env file = Config.ofLookup (env.layered (read.lines env file)) := by
  rw [Config.ofEnvironmentBy, env.lookup_load_envSettings]

theorem ofEnvironmentBy_none :
    Config.ofEnvironmentBy read env none = Config.ofLookup env.lookup := by
  have hlayered : env.layered (read.lines env none) = env.lookup := funext fun _ => Option.or_none
  rw [ofEnvironmentBy_eq, hlayered]

/-- **Variables before the lines of a file.** A key is read as its variable if this has a text, and
else as the first line that sets it among those before the first malformed one. -/
theorem environment_over_file :
    (∀ lines key value, (env.load (envSettings lines)).lookup key = some value ↔
      env key = some (utf8 value) ∨
        (∀ text, env key ≠ some (utf8 text)) ∧ FirstSet lines key value) ∧
    (∀ lines, Config.ofLookup (env.load (envSettings lines)).lookup =
      Config.ofLookup (env.layered lines)) ∧
    (∀ file, Config.ofEnvironmentBy read env file =
      Config.ofLookup (env.layered (read.lines env file))) ∧
    Config.ofEnvironmentBy read env none = Config.ofLookup env.lookup ∧
    (∀ file before after, read.lines env file = before ++ .malformed :: after →
      Config.ofEnvironmentBy read env file = Config.ofLookup (env.layered before)) ∧
    (∀ file file' before key value after,
      read.lines env file = before ++ .setting key value :: after →
      read.lines env file' = before ++ after →
      (∃ text, env key = some (utf8 text)) ∨ (∃ other, .setting key other ∈ before) →
      Config.ofEnvironmentBy read env file = Config.ofEnvironmentBy read env file') ∧
    ∀ file e, Config.ofEnvironmentBy read env file = .error e →
      ∃ setting ∈ Setting.all, ∃ raw, setting.Refuses raw e ∧
        (env setting.key = some (utf8 raw) ∨
          (∀ text, env setting.key ≠ some (utf8 text)) ∧
            FirstSet (read.lines env file) setting.key raw) := by
  refine ⟨fun lines key value => ?_, fun lines => ?_, ofEnvironmentBy_eq read env,
    ofEnvironmentBy_none read env, fun file before after hfile => ?_,
    fun file file' before key value after hfile hfile' h => ?_, fun file e he => ?_⟩
  · rw [env.lookup_load_envSettings, env.layered_eq_some]
  · rw [env.lookup_load_envSettings]
  · rw [ofEnvironmentBy_eq, hfile, env.layered_of_malformed]
  · rw [ofEnvironmentBy_eq, ofEnvironmentBy_eq, hfile, hfile',
      env.layered_of_shadowed value after h]
  · rw [ofEnvironmentBy_eq, ofLookup_eq_error] at he
    obtain ⟨before, setting, after, hall, -, raw, hraw, hrefuses⟩ := he
    have hmem : setting ∈ Setting.all := hall ▸ List.mem_append_right _ List.mem_cons_self
    exact ⟨setting, hmem, raw, hrefuses, env.layered_eq_some.mp hraw⟩

end Reading

/-- A variable that is no text and one that has a text; a key on two lines, and a malformed line
before a number that is none. -/
theorem environment_over_file_small :
    let env : Environment := fun key =>
      if key = "TOP_N" then some [0xff] else if key = "CANDLE_LIMIT" then some (utf8 "5") else none
    let file := "TOP_N=7\nCANDLE_LIMIT=6\nTOP_N=8\nno line\nRATE_DELAY_MS=soon"
    let usable : List EnvLine :=
      [.setting "TOP_N" "7", .setting "CANDLE_LIMIT" "6", .setting "TOP_N" "8"]
    let lines := EnvReader.byLine.lines env
    lines (some file) = usable ++ .malformed :: [.setting "RATE_DELAY_MS" "soon"] ∧
      Config.ofEnvironment env (some file) = Config.ofLookup (env.layered usable) ∧
      (Config.ofEnvironment env (some file)).toOption.map Config.runSettings =
        some ⟨7, Timeframe.all, 5, 200, "USDT"⟩ ∧
      Config.ofEnvironment env (some "TOP_N=7\nTOP_N=8") =
        Config.ofEnvironment env (some "TOP_N=7") ∧
      ∃ setting ∈ Setting.all, ∃ raw,
        setting.Refuses raw (.badNumber "TOP_N" "soon" .invalidDigit) ∧
        (env setting.key = some (utf8 raw) ∨
          (∀ text, env setting.key ≠ some (utf8 text)) ∧
            FirstSet (lines (some "TOP_N=soon")) setting.key raw) := by
  intro env file usable lines
  obtain ⟨-, -, -, -, hmalformed, hshadowed, herror⟩ := environment_over_file .byLine env
  have hfile : lines (some file) =
      usable ++ .malformed :: [.setting "RATE_DELAY_MS" "soon"] := by
    decide +kernel
  have hcut : Config.ofEnvironment env (some file) = Config.ofLookup (env.layered usable) :=
    hmalformed _ _ _ hfile
  have hrepeat := hshadowed (some "TOP_N=7\nTOP_N=8") (some "TOP_N=7") [.setting "TOP_N" "7"]
    "TOP_N" "8" [] (by decide +kernel) (by decide +kernel) (.inr ⟨"7", by simp⟩)
  have hrefused := herror (some "TOP_N=soon") (.badNumber "TOP_N" "soon" .invalidDigit)
    (by decide +kernel)
  refine ⟨hfile, hcut, ?_, hrepeat, hrefused⟩
  rw [hcut]
  decide +kernel

end CandleArchive
