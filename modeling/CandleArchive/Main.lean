import CandleArchive.Program
import CandleArchive.Store.Migration

/-!
# Command line

Reads the variables of the process and the file `.env`, does one run on an empty database in memory,
and prints the log and the message of an error. There is no network here: every provider is
unreachable.
-/

open CandleArchive

/-- The keys of the variables that the program reads. -/
def settingKeys : List String :=
  ["DATABASE_URL", "TOP_N", "TIMEFRAMES", "CANDLE_LIMIT", "RATE_DELAY_MS", "QUOTE_ASSET",
   "COINGECKO_BASE_URL", "BINANCE_BASE_URL", "HTTP_TIMEOUT_SECS", "RUST_LOG"]

/-- The variables of the process that the program reads. -/
def processEnvironment : IO Environment := do
  let values ← settingKeys.filterMapM fun key => do
    return (← IO.getEnv key).map fun value => (key, Text.utf8 value)
  return fun key => values.lookup key

/-- The file of settings in the working directory, if it can be read. -/
def settingsFile : IO (Option String) := do
  try
    return some (← IO.FS.readFile ".env")
  catch _ => return none

/-- Does one run. -/
def main : IO UInt32 := do
  let env ← processEnvironment
  let done := program env (← settingsFile) .offline .migrated (← IO.monoMsNow)
  for line in done.log do
    IO.println (line.level.name ++ " " ++ line.text)
  for line in done.failure.toList.flatMap FatalError.lines do
    IO.eprintln line
  return UInt32.ofNat done.exitCode
