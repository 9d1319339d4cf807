import LineScript.Extension.Services
import LineScript.Layers

/-!
Predefined variables. Some are always there, some come with a mode, and extensions can add others.
-/

namespace LineScript

inductive Predefined where
  | terminalWidth
  | terminalHeight
  | compareFlag
  | elapsedTime
  | projectId
  | user
  | version
  | ask
  | graphicsOff
  | hour
  | minute
  | second
  | year
  | month
  | day
  | weekday
  | returnedValue
  | promptedAsk
  | confirmation
  | extendedMark
  | graphicsOn
  | canvasWidth
  | canvasHeight
  | pointerX
  | pointerY
  | pointerDown
  | computed (behavior : VariableBehavior)

namespace Predefined

def base : List (String × Predefined) :=
  [("ww", terminalWidth), ("wh", terminalHeight), ("cmpr", compareFlag),
    ("projtime", elapsedTime), ("projid", projectId), ("user", user), ("ver", version),
    ("ask", ask), ("graphics", graphicsOff), ("thour", hour), ("tminute", minute),
    ("tsecond", second), ("tyear", year), ("tmonth", month), ("tdate", day), ("tdow", weekday),
    ("ret", returnedValue)]

def extended : List (String × Predefined) :=
  [("pask", promptedAsk), ("pconfirm", confirmation), ("maartanic", extendedMark)]

def graphics : List (String × Predefined) :=
  [("graphics", graphicsOn), ("ww", canvasWidth), ("wh", canvasHeight), ("mx", pointerX),
    ("my", pointerY), ("md", pointerDown)]

def added (services : Services) : List (String × Predefined) :=
  services.predefined.map fun entry => (entry.1, computed entry.2)

def isTaken (name : String) : Bool :=
  (base ++ extended ++ graphics).any (·.1 == name)

end Predefined

end LineScript
