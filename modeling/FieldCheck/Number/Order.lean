import FieldCheck.Number.Double

/-!
# Numbers and their order

* `Number` — an integer or a binary number.
* `Place` — where a number stands on the extended line, exactly; not-a-number stands nowhere.
* `Number.lt`, `Number.le`, `Number.same` — the order and equality of the places, exact whatever
  the size.
-/

set_option autoImplicit false

namespace FieldCheck

/-- An integer or a binary number. -/
inductive Number where
  | int (n : Int)
  | float (x : Double)
  deriving DecidableEq, Repr

/-- A place on the line extended by its two ends. -/
inductive Place where
  | bottom
  | point (d : Dyadic)
  | top
  | nowhere

/-- The place of a binary number. -/
def Double.place (x : Double) : Place :=
  match x with
  | .nan => .nowhere
  | .infinite negative => if negative then .bottom else .top
  | .finite negative m e => .point (.ofIntWithPrec (if negative then -(m : Int) else m) (-e))

/-- The place of a number. -/
def Number.place : Number → Place
  | .int n => .point (.ofIntWithPrec n 0)
  | .float x => x.place

/-- Strictly below. -/
def Place.lt : Place → Place → Bool
  | .nowhere, _ | _, .nowhere => false
  | .bottom, .bottom => false
  | .bottom, _ => true
  | _, .bottom => false
  | .top, _ => false
  | _, .top => true
  | .point a, .point b => decide (a < b)

/-- The same place. -/
def Place.same : Place → Place → Bool
  | .bottom, .bottom => true
  | .top, .top => true
  | .point a, .point b => decide (a = b)
  | _, _ => false

/-- Strictly less. -/
def Number.lt (a b : Number) : Bool := a.place.lt b.place

/-- The same value. -/
def Number.same (a b : Number) : Bool := a.place.same b.place

/-- Less or the same value. -/
def Number.le (a b : Number) : Bool := a.lt b || a.same b

end FieldCheck
