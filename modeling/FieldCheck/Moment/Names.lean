/-!
# Names of months and of days of the week

* `monthNames`, `dayNames` — the names in order, from January and from Monday on.
* `shortName` — the first three letters of such a name.
* `isNamed` — whether a text is a name in any letter case.
-/

set_option autoImplicit false

namespace FieldCheck

/-- Names of the months. -/
def monthNames : List String :=
  ["January", "February", "March", "April", "May", "June", "July", "August", "September",
    "October", "November", "December"]

/-- Names of the days of the week. -/
def dayNames : List String :=
  ["Monday", "Tuesday", "Wednesday", "Thursday", "Friday", "Saturday", "Sunday"]

/-- The first three letters of a name. -/
def shortName (name : String) : String := String.ofList (name.toList.take 3)

/-- Whether a text is a name in any letter case. -/
def isNamed (name : String) (s : List Char) : Bool :=
  s.map Char.toLower = name.toList.map Char.toLower

end FieldCheck
