import CandleArchive.Text.UpperTable

/-!
# Upper case — the full case mapping of a text

Tickers and quote assets are compared in upper case, without regard to language. A letter may
become several (`ß` becomes `SS`).

* `upperCode`: the mapping of a code point;
* `upper`: the mapping of a text, letter by letter.
-/

namespace CandleArchive.Text

/-- The letter with code point `n` lies in the run. -/
def UpperRun.covers (run : UpperRun) (n : Nat) : Bool :=
  run.first ≤ n && n ≤ run.last && (n - run.first) % run.step == 0

/-- The upper-case form of a code point: its expansion, its single letter, or itself. -/
def upperCode (n : Nat) : List Nat :=
  match upperExpansions.find? (·.1 == n) with
  | some (_, form) => form
  | none =>
    match upperRuns.find? (·.covers n) with
    | some run => [run.target + (n - run.first)]
    | none => [n]

/-- The upper-case form of a character. -/
def upperChar (c : Char) : List Char :=
  (upperCode c.toNat).map Char.ofNat

/-- The text in upper case. -/
def upper (s : String) : String :=
  String.ofList (s.toList.flatMap upperChar)

end CandleArchive.Text
