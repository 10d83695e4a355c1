/-! How much a repair is trusted. Confidence moves by fixed steps with every outcome and stays
between two limits. -/

namespace WidgetRepair.Confidence

def least : Float := 0.1

def most : Float := 1.0

/-- What is gained by a success. -/
def gain : Float := 0.05

/-- What is lost by a failure. -/
def loss : Float := 0.1

/-- The confidence in something that has worked once. -/
def learned : Float := 0.7

/-- From here on a repair is tried without asking. -/
def trusted : Float := 0.7

/-- The smaller of a number and an upper limit. -/
def atMost (limit x : Float) : Float := if x < limit then x else limit

/-- The larger of a number and a lower limit. -/
def atLeast (limit x : Float) : Float := if limit < x then x else limit

def raised (confidence : Float) : Float := atMost most (confidence + gain)

def lowered (confidence : Float) : Float := atLeast least (confidence - loss)

/-- The confidence after an outcome. -/
def after (success : Bool) (confidence : Float) : Float :=
  if success then raised confidence else lowered confidence

end WidgetRepair.Confidence
