import RouteTree.Decimal.Numeral

/-!
# Log levels

A record has one of five levels. A filter lets through the records up to its own level;
`off` lets none through.
-/

namespace RouteTree.Log

/-- The level of a record. -/
inductive Level where
  | error
  | warn
  | info
  | debug
  | trace
  deriving DecidableEq, Repr

/-- Levels by how much they let through. -/
def Level.rank : Level → Nat
  | .error => 1
  | .warn => 2
  | .info => 3
  | .debug => 4
  | .trace => 5

/-- The name of a level, right-aligned in five columns. -/
def Level.label : Level → String
  | .error => "ERROR"
  | .warn => " WARN"
  | .info => " INFO"
  | .debug => "DEBUG"
  | .trace => "TRACE"

/-- Up to which level records are let through; `none` is `off`. -/
abbrev Threshold := Option Level

/-- Whether a record is let through. -/
def Level.passes (level : Level) : Threshold → Bool
  | none => false
  | some threshold => level.rank ≤ threshold.rank

/-- Names of the thresholds. -/
def thresholds : List (String × Threshold) :=
  [("off", none), ("error", some .error), ("warn", some .warn), ("info", some .info),
    ("debug", some .debug), ("trace", some .trace)]

/-- The threshold of a name in any case, or of its place in the list of names. -/
def threshold? (text : String) : Option Threshold :=
  match unsignedWord? text with
  | some n => (thresholds[n]?).map Prod.snd
  | none => thresholds.lookup (String.ofList (text.toList.map Char.toLower))

end RouteTree.Log
