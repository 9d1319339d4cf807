import LineScript.Number.Binary64

/-!
Elementary functions on doubles. Angles are in degrees. A function fails where it has no value and
where the value of a finite argument exceeds every double.
-/

namespace LineScript.Number

inductive Elementary where
  | sin | cos | tan | asin | acos | atan
  | log10 | ln | exp | tenPow | toRadians | toDegrees
  | floor | ceil | sqrt
deriving DecidableEq, Repr

inductive ElementaryFault where
  | domain
  | range
  | integerOfInfinity
  | integerOfNaN
deriving DecidableEq, Repr

namespace ElementaryFault

def message : ElementaryFault → String
  | domain => "math domain error"
  | range => "math range error"
  | integerOfInfinity => "cannot convert float infinity to integer"
  | integerOfNaN => "cannot convert float NaN to integer"

end ElementaryFault

namespace Elementary

def pi : Float := 3.141592653589793

def radians (x : Float) : Float := x * (pi / 180.0)

def degrees (x : Float) : Float := x * (180.0 / pi)

/-- The value of a function that must be a number where the argument is one, and must be finite
where the argument is finite. -/
def checked (x value : Float) (unbounded : ElementaryFault) : Except ElementaryFault Float :=
  if value.isNaN && !x.isNaN then .error .domain
  else if value.isInf && x.isFinite then .error unbounded
  else .ok value

def logarithm (f : Float → Float) (x : Float) : Except ElementaryFault Float :=
  if x.isFinite && x ≤ 0.0 then .error .domain
  else checked x (f x) .domain

def integral (f : Float → Float) (x : Float) : Except ElementaryFault Float :=
  if x.isNaN then .error .integerOfNaN
  else if x.isInf then .error .integerOfInfinity
  else .ok (f x)

def evalFloat (f : Elementary) (x : Float) : Except ElementaryFault Float :=
  match f with
  | sin => checked (radians x) (radians x).sin .domain
  | cos => checked (radians x) (radians x).cos .domain
  | tan => checked (radians x) (radians x).tan .domain
  | asin => (checked x x.asin .domain).map degrees
  | acos => (checked x x.acos .domain).map degrees
  | atan => (checked x x.atan .domain).map degrees
  | log10 => logarithm Float.log10 x
  | ln => logarithm Float.log x
  | exp => checked x x.exp .range
  | tenPow => checked x (Float.pow 10.0 x) .range
  | toRadians => .ok (radians x)
  | toDegrees => .ok (degrees x)
  | floor => integral Float.floor x
  | ceil => integral Float.ceil x
  | sqrt => checked x x.sqrt .domain

def eval (f : Elementary) (x : Binary64) : Except ElementaryFault Binary64 :=
  (evalFloat f x.toFloat).map Binary64.ofFloat

end Elementary

end LineScript.Number
