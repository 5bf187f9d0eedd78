import CandleArchive.Config
import CandleArchive.EnvFile
import CandleArchive.Text.Utf8

/-!
# The environment — settings of the process

A process has variables whose values are bytes; one that is no valid text counts as not set. A file
of settings sets the variables that are not set, entry by entry.

* `Environment`, `Environment.lookup`: the variables, and their texts;
* `Environment.setDefault`, `Environment.load`: one entry and all entries of a file;
* `EnvReader`, `EnvReader.byLine`: what the lines of a file hold, and the reader that is used;
* `Config.ofEnvironmentBy`, `Config.ofEnvironment`: the configuration of a process with a file of
  settings.
-/

namespace CandleArchive

/-- The variables of a process. -/
abbrev Environment := String → Option (List UInt8)

namespace Environment

/-- The texts of the variables. -/
def lookup (env : Environment) : Lookup := fun key => (env key).bind Text.ofUtf8?

/-- Sets a variable that has no text. -/
def setDefault (env : Environment) (entry : String × String) : Environment :=
  if (env.lookup entry.1).isSome then env
  else fun key => if key = entry.1 then some (Text.utf8 entry.2) else env key

/-- Sets the variables of the entries in order. -/
def load (env : Environment) (entries : List (String × String)) : Environment :=
  entries.foldl setDefault env

end Environment

/-- A reader of files of settings: what the lines of a file hold for a process with the variables. -/
abbrev EnvReader := Environment → String → List EnvLine

/-- The reader that is used; it takes every line for itself. -/
def EnvReader.byLine : EnvReader := fun _ file => (file.toList.splitOn '\n').map envLine

/-- What the lines of a file hold, if there is one. -/
def EnvReader.lines (read : EnvReader) (env : Environment) (file : Option String) : List EnvLine :=
  file.elim [] (read env)

namespace Config

/-- The configuration of a process with a file of settings, for a reader of such files. -/
def ofEnvironmentBy (read : EnvReader) (env : Environment) (file : Option String) :
    Except ConfigError Config :=
  ofLookup (env.load (envSettings (read.lines env file))).lookup

/-- The configuration of a process with a file of settings, if there is one. -/
def ofEnvironment (env : Environment) (file : Option String) : Except ConfigError Config :=
  ofEnvironmentBy .byLine env file

end Config

end CandleArchive
