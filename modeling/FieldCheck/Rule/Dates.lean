import FieldCheck.Moment.Iso
import FieldCheck.Moment.Shape
import FieldCheck.Moment.Written
import FieldCheck.Rule.Choice
import FieldCheck.Value.Reading

/-!
# Dates

* `parseMoment` — the moment in universal time that a value is or writes: a date, a moment, or a
  text in the standard or one of the written forms.  Numerals are not moments.
* `date` — a moment, or a text of a given shape.
* `after`, `before` — strictly later or earlier than a date, another field, or the present.
-/

set_option autoImplicit false

namespace FieldCheck.Rules

open Text

/-- The moment in universal time; one that leaves the calendar is a crash. -/
def universal (s : Stamp) : Except Crash Moment :=
  match s.toUniversal? with
  | some m => .ok m
  | none => .error .dateOutOfRange

/-- The moment that a text writes. -/
def parseText (s : List Char) : Except Crash (Option Moment) :=
  let s := trim s
  if s.isEmpty || (Number.ofText? s).isSome then .ok none
  else
    match Stamp.readIso? s with
    | some stamp => (universal stamp).map some
    | none => .ok ((readWritten? s).map Moment.midnight)

/-- The moment that a value is or writes. -/
def parseMoment : Value → Except Crash (Option Moment)
  | .stamp s => (universal s).map some
  | .date d => .ok (some (Moment.midnight d))
  | .text s => parseText s.toList
  | _ => .ok none

/-- A moment, or a text of the shape that the first argument gives. -/
def date : Check := fun v args c =>
  let shape := args.headD .absent
  if !shape.truthy then (parseMoment v).map Option.isSome
  else
    match v with
    | .text s =>
      match plainText c shape with
      | .error crash => .error crash
      | .ok shape => (readPattern { source := shapePattern shape.toList }).map (·.matchesWhole s)
    | _ => .ok false

/-- The moment that a value is compared with; a field that holds no moment has none. -/
def reference (rule : String) (args : List Value) (c : Context) : Except Crash (Option Moment) :=
  let literal := fun (arg : Value) =>
    match parseMoment arg with
    | .error crash => .error crash
    | .ok (some m) => .ok (some m)
    | .ok none => .error (quoting c arg (.notDate rule))
  match args with
  | [] | .absent :: _ => .ok (some c.now)
  | .text s :: _ =>
    if s.isEmpty then .ok (some c.now)
    else
      match c.other? s with
      | some v => parseMoment v
      | none => literal (.text s)
  | arg :: _ => literal arg

/-- Compares a moment with a reference. -/
def compared (rule : String) (test : Moment → Moment → Bool) : Check := fun v args c =>
  match reference rule args c with
  | .error crash => .error crash
  | .ok reference =>
    match parseMoment v with
    | .error crash => .error crash
    | .ok moment =>
      .ok (match reference, moment with
        | some r, some m => test r m
        | _, _ => false)

/-- Strictly later. -/
def after : Check := compared "after" fun r m => r.before m

/-- Strictly earlier. -/
def before : Check := compared "before" fun r m => m.before r

end FieldCheck.Rules
