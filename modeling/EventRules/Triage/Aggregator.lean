import EventRules.Json.Document

/-!
# Combining scores
-/

namespace EventRules

/-- How the scores of the matching rules become one score. -/
inductive Aggregator where
  | max
  | min
  | sum
  | mean
  /-- The mean of the scores above zero. -/
  | positiveMean
  deriving DecidableEq, Repr, Inhabited

namespace Aggregator

/-- The name of the aggregator in configurations. -/
def name : Aggregator → String
  | max => "MAX"
  | min => "MIN"
  | sum => "SUM"
  | mean => "MEAN"
  | positiveMean => "POSITIVE_MEAN"

/-- All aggregators. -/
def all : List Aggregator := [max, min, sum, mean, positiveMean]

/-- The aggregator of a name. -/
def ofName? (name : String) : Option Aggregator :=
  all.find? (·.name = name)

/-- The aggregator that a document names: a name, or a name with nothing under it. -/
def ofDocument? : Document → Option Aggregator
  | .string name => ofName? name
  | .object [(name, .null)] => ofName? name
  | _ => none

/-- The larger of two floats, the first if neither is; NaN gives way to a number. -/
def larger (a b : Float) : Float :=
  if b > a || a.isNaN then b else a

/-- The smaller of two floats, the first if neither is; NaN gives way to a number. -/
def smaller (a b : Float) : Float :=
  if b < a || a.isNaN then b else a

/-- The sum of floats from left to right. It starts from negative zero, which changes no summand. -/
def total (scores : List Float) : Float :=
  scores.foldl (· + ·) (-0.0)

/-- The sum divided by the number of summands. -/
def average (scores : List Float) : Float :=
  total scores / scores.length.toFloat

/-- One score of several; no scores make zero. -/
def aggregate (a : Aggregator) (scores : List Float) : Float :=
  if scores.isEmpty then 0.0
  else match a with
    | max => scores.foldl larger (-1.0 / 0.0)
    | min => scores.foldl smaller (1.0 / 0.0)
    | sum => total scores
    | mean => average scores
    | positiveMean =>
      let positive := scores.filter (· > 0.0)
      if positive.isEmpty then 0.0 else average positive

end Aggregator

end EventRules
