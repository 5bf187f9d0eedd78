import CandleArchive.Database
import CandleArchive.LogFilter
import CandleArchive.Market.Klines
import CandleArchive.Run

/-!
# The program — one run from the settings of a process

The program reads its configuration, connects to the database and does one run against the providers
of the web. An error ends it with a message and exit code one. The log shows the lines that the
environment asks for.

* `FatalError`, `FatalError.lines`: what ends the program, and its message;
* `Program`, `Program.log`, `program`: the exit code, the message, the events, the log, and the
  database.
-/

namespace CandleArchive

/-- What ends the program. -/
inductive FatalError where
  | config (error : ConfigError)
  | connection (error : StorageError)
  | run (error : ImportError)
  deriving DecidableEq, Repr

namespace FatalError

/-- The wording of the error; that of a run names all its causes. -/
def message : FatalError → String
  | config error => error.message
  | connection error => error.message
  | run error => error.chain

/-- The wording of the cause, for the errors that show it apart. -/
def cause? : FatalError → Option String
  | config error => error.cause?
  | connection error => error.cause?
  | run _ => none

/-- The lines that a text consists of. -/
def linesOf (s : String) : List String := (s.toList.splitOn '\n').map String.ofList

/-- The lines of the message, those of the cause indented. -/
def lines (e : FatalError) : List String :=
  linesOf ("Error: " ++ e.message) ++
    match e.cause? with
    | none => []
    | some cause => ["", "Caused by:"] ++ (linesOf cause).map ("    " ++ ·)

end FatalError

/-- What the program did. -/
structure Program where
  filter : LogFilter
  failure : Option FatalError
  events : List Event
  store : Store
  clock : Nat

/-- The exit code. -/
def Program.exitCode (p : Program) : Nat := if p.failure.isSome then 1 else 0

/-- The lines that the program shows. -/
def Program.log (p : Program) : List LogLine :=
  p.events.filterMap fun
    | .logged line => if p.filter.shows line then some line else none
    | _ => none

/-- Runs the program on a configuration. -/
def programOfConfig (filter : LogFilter) (config : Config) (transport : Web.Transport)
    (store : Store) (now : Nat) : Program :=
  let opening : List Event := [.logged (.connecting (Database.redact config.databaseUrl))]
  match Database.connect config.databaseUrl with
  | .error e => { filter, failure := some (.connection e), events := opening, store, clock := now }
  | .ok () =>
    let done := run config.runSettings (.ofWeb transport config.rankingUrl)
      (.ofWeb transport config.exchangeUrl) store now
    match done.outcome with
    | .error e =>
      { filter, failure := some (.run e), events := opening ++ done.events
        store := done.store, clock := done.clock }
    | .ok report =>
      { filter, failure := none
        events := opening ++ done.events ++
          [.logged (.finished report.candlesWritten report.assetsReconciled)]
        store := done.store, clock := done.clock }

/-- Runs the program on the settings of a process and a file of settings, if there is one. -/
def program (env : Environment) (file : Option String) (transport : Web.Transport) (store : Store)
    (now : Nat) : Program :=
  let filter := LogFilter.ofEnvironment env
  match Config.ofEnvironment env file with
  | .error e => { filter, failure := some (.config e), events := [], store, clock := now }
  | .ok config => programOfConfig filter config transport store now

end CandleArchive
