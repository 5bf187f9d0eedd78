import CandleArchive.Text.Blank

/-!
# Environment files — settings in a file

A file of settings has lines `KEY=VALUE`, perhaps after the word `export`. Blank lines and lines
that start with a number sign are skipped, and the first line that is neither ends the reading.
Quotes of both kinds keep blanks in a value; outside of quotes a value ends at a blank, after which
only a comment may stand.

* `EnvLine`, `envLine`: what a line holds;
* `envSettings`: the settings of a file before its first malformed line.
-/

namespace CandleArchive

/-- What a line holds. -/
inductive EnvLine where
  | nothing
  | setting (key value : String)
  | malformed
  deriving DecidableEq, Repr

/-- A character that a key starts with. -/
def isKeyStart (c : Char) : Bool := c.isAlpha || c == '_'

/-- A character that a key may hold. -/
def isKeyChar (c : Char) : Bool := c.isAlphanum || c == '_' || c == '.'

/-- The key that the characters start with, and what follows it and the blanks after it. -/
def envKey? : List Char → Option (List Char × List Char)
  | [] => none
  | c :: cs =>
    if isKeyStart c then
      let (key, rest) := (c :: cs).span isKeyChar
      some (key, rest.dropWhile Text.isBlank)
    else none

/-- What follows an equals sign and the blanks after it. -/
def afterEquals? : List Char → Option (List Char)
  | '=' :: cs => some (cs.dropWhile Text.isBlank)
  | _ => none

/-- Only a comment follows, if anything does. -/
def isEnvEnd (cs : List Char) : Bool :=
  match cs.dropWhile fun c => c == ' ' || c == '\t' with
  | [] => true
  | c :: _ => c == '#'

/-- The value that the characters denote, inside the quote `quote` if one is open. -/
def envValue? (quote : Option Char) : List Char → Option (List Char)
  | [] => if quote.isNone then some [] else none
  | c :: cs =>
    match quote with
    | some q =>
      if c = q then envValue? none cs else (envValue? quote cs).map (c :: ·)
    | none =>
      if c = '\x27' ∨ c = '\x22' then envValue? (some c) cs
      else if c = ' ' ∨ c = '\t' then if isEnvEnd cs then some [] else none
      else (envValue? none cs).map (c :: ·)

/-- The key and the rest of a line after the equals sign; `export` may stand before the key. -/
def envParts? (cs : List Char) : Option (List Char × List Char) := do
  let (key, rest) ← envKey? cs
  match afterEquals? rest with
  | some value => return (key, value)
  | none =>
    if key ≠ "export".toList then none
    else
      let (key, rest) ← envKey? rest
      return (key, ← afterEquals? rest)

/-- What the characters of a line hold. -/
def envLine (line : List Char) : EnvLine :=
  match Text.trimChars line with
  | [] => .nothing
  | '#' :: _ => .nothing
  | cs =>
    match envParts? cs with
    | none => .malformed
    | some (key, '#' :: _) => .setting (String.ofList key) ""
    | some (key, value) =>
      match envValue? none value with
      | some value => .setting (String.ofList key) (String.ofList value)
      | none => .malformed

/-- The settings on the lines before the first malformed one. -/
def envSettings : List EnvLine → List (String × String)
  | [] => []
  | .nothing :: rest => envSettings rest
  | .setting key value :: rest => (key, value) :: envSettings rest
  | .malformed :: _ => []

end CandleArchive
