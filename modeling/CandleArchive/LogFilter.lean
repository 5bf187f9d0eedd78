import CandleArchive.Environment
import CandleArchive.Event

/-!
# Log filters — which lines the program shows

The environment may say which lines are shown. A filter is a list of directives between commas: a
weight, which lines of every part of the program have to reach, or a part of the program, perhaps
with a weight for its lines alone. The directive for the innermost part counts.

* `LogDirective`, `LogDirective.ofText?`: one directive;
* `LogFilter`, `LogFilter.ofText?`, `LogFilter.shows`: a filter, and the lines that it shows;
* `LogFilter.ofEnvironment`: the filter of a process.
-/

namespace CandleArchive

/-- The place of the weight among all weights, from the heaviest on. -/
def Level.rank : Level → Nat
  | .error => 1
  | .warn => 2
  | .info => 3
  | .debug => 4

/-- Up to which rank lines are shown whose source starts with `source`. -/
structure LogDirective where
  source : List Char
  rank : Nat
  deriving DecidableEq, Repr

/-- The greatest rank, which shows every line. -/
def maxRank : Nat := 5

/-- The ranks by name. -/
def rankNames : List (String × Nat) :=
  [("off", 0), ("error", 1), ("warn", 2), ("info", 3), ("debug", 4), ("trace", maxRank)]

/-- The rank that a text denotes, by its name in either case or by its number. -/
def rank? (cs : List Char) : Option Nat :=
  match rankNames.lookup (String.ofList (cs.map Char.toLower)) with
  | some rank => some rank
  | none => (Number.naturalOfChars maxRank cs).toOption

/-- A character that the name of a part of the program may hold. -/
def isSourceChar (c : Char) : Bool := c.isAlphanum || c == '_' || c == ':' || c == '-'

namespace LogDirective

/-- The directive that characters denote. -/
def ofChars? (cs : List Char) : Option LogDirective :=
  match rank? cs with
  | some rank => some { source := [], rank }
  | none =>
    let (source, rest) := cs.span isSourceChar
    if source = [] then none
    else
      match rest with
      | [] | ['='] => some { source, rank := maxRank }
      | '=' :: rest => (rank? rest).map fun rank => { source, rank }
      | _ => none

/-- The directive concerns lines of the source. -/
def covers (source : List Char) (d : LogDirective) : Bool := d.source.isPrefixOf source

end LogDirective

/-- A list of directives. -/
abbrev LogFilter := List LogDirective

namespace LogFilter

/-- Shows what is worth knowing. -/
def standard : LogFilter := [{ source := [], rank := Level.info.rank }]

/-- The filter that a text denotes; the empty text shows errors. -/
def ofText? (s : String) : Option LogFilter :=
  if s = "" then some [{ source := [], rank := Level.error.rank }]
  else (s.toList.splitOn ',').mapM LogDirective.ofChars?

/-- Of two directives the one for the inner part of the program, or else the second. -/
def inner (d e : LogDirective) : LogDirective :=
  if d.source.length ≤ e.source.length then e else d

/-- Up to which rank lines of the source are shown. -/
def rankOf (filter : LogFilter) (source : List Char) : Nat :=
  ((filter.filter (·.covers source)).foldl inner { source := [], rank := 0 }).rank

/-- The filter shows the line. -/
def shows (filter : LogFilter) (line : LogLine) : Bool :=
  line.level.rank ≤ filter.rankOf line.source.toList

/-- The filter of a process; a text that is none counts as not set. -/
def ofEnvironment (env : Environment) : LogFilter :=
  ((env.lookup "RUST_LOG").bind ofText?).getD standard

end LogFilter

end CandleArchive
