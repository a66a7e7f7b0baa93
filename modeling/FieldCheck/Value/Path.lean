import FieldCheck.Value.Basic

/-!
# Paths

* `normalPath` — a path without empty parts and parts that name the same folder; one slash in
  front stays one, and two slashes stay two.
* `Value.ofPath` — the path as a value.
-/

set_option autoImplicit false

namespace FieldCheck

/-- A path in its normal form. -/
def normalPath (s : String) : String :=
  let parts := (s.splitOn "/").filter fun p => p != "" && p != "."
  let slashes := (s.toList.takeWhile (· == '/')).length
  let root := if slashes = 0 then "" else if slashes = 2 then "//" else "/"
  let body := root ++ "/".intercalate parts
  if body.isEmpty then "." else body

/-- A path as a value. -/
def Value.ofPath (s : String) : Value := .path (normalPath s)

end FieldCheck
