import Letterpress.Value.Text

/-!
This file holds what an application lends to scripts: functions, and the attributes of its own
objects.
-/

namespace Letterpress

/-- A function sees the heap, but it changes nothing on it. -/
structure Host where
  call : String → List Value → Heap → Except Fault Value
  publish : HostObject → String → Option Value

namespace Host

/-- This is the text of the first value that is not missing, followed by the texts of the rest. -/
def helper (heap : Heap) : List Value → Except Fault String
  | [] => .ok ""
  | value :: others => do
      let fallback := others.headD (.text "")
      let base ← heap.text (if value = .null ∨ value = .text "" then fallback else value)
      return base ++ String.join (← Heap.joinTexts heap.text others.tail)

/-- These functions join their arguments, count them, take the first, give a fixed text or
fail. -/
def standardCall (name : String) (arguments : List Value) (heap : Heap) :
    Except Fault Value :=
  match name with
  | "concat" => do
      return .text (String.intercalate "|" (← Heap.joinTexts heap.text arguments))
  | "count" => .ok (.int arguments.length)
  | "first" => .ok (arguments.headD .null)
  | "custom" => .ok (.text "custom")
  | _ => .error .badValue

/-- The standard object has a public label and a private secret. -/
def standardAttribute (_ : HostObject) (name : String) : Option Value :=
  match name with
  | "label" => some (.text "visible")
  | "_secret" => some (.text "hidden")
  | _ => none

def standard : Host := ⟨standardCall, standardAttribute⟩

/-- This is the standard object of the given identity. -/
def standardObject (identity : Nat) : HostObject := ⟨identity, "Opaque", "opaque"⟩

/-- The precision that a text names. -/
def precision? : Value → Except Fault TimePrecision
  | .text "auto" => .ok .automatic
  | .text "hours" => .ok .hours
  | .text "minutes" => .ok .minutes
  | .text "seconds" => .ok .seconds
  | .text "milliseconds" => .ok .milliseconds
  | .text "microseconds" => .ok .microseconds
  | .text _ => .error .badValue
  | _ => .error .wrongType

/-- A separator is one character. -/
def separator? : Value → Except Fault String
  | .text text => if text.length = 1 then .ok text else .error .wrongType
  | _ => .error .wrongType

/-- The methods of plain values take no arguments, except that of a moment, which takes a
separator and a precision. -/
def callMethod : Callable → List Value → Except Fault Value
  | .isoDate date, [] => .ok (.text date.isoText)
  | .isoMoment moment, [] => .ok (.text moment.isoText)
  | .isoMoment moment, [separator] => do
      return .text (moment.isoTextWith (← separator? separator) .automatic)
  | .isoMoment moment, [separator, precision] => do
      return .text (moment.isoTextWith (← separator? separator) (← precision? precision))
  | .bitLength value, [] => .ok (.int (if value = 0 then 0 else value.natAbs.log2 + 1))
  | .isIntegral value, [] => .ok (.bool value.isIntegral)
  | _, _ => .error .wrongType

def apply (host : Host) (heap : Heap) (callable : Callable) (arguments : List Value) :
    Except Fault Value :=
  match callable with
  | .helper => do return .text (← helper heap arguments)
  | .host name => host.call name arguments heap
  | method => callMethod method arguments

/-- The public attributes of a value. -/
def valueAttribute (host : Host) (value : Value) (name : String) : Option Value :=
  match value, name with
  | .date date, "year" => some (.int date.year)
  | .date date, "month" => some (.int date.month)
  | .date date, "day" => some (.int date.day)
  | .date date, "isoformat" => some (.function (.isoDate date))
  | .moment moment, "year" => some (.int moment.date.year)
  | .moment moment, "month" => some (.int moment.date.month)
  | .moment moment, "day" => some (.int moment.date.day)
  | .moment moment, "hour" => some (.int moment.hour)
  | .moment moment, "minute" => some (.int moment.minute)
  | .moment moment, "second" => some (.int moment.second)
  | .moment moment, "microsecond" => some (.int moment.microsecond)
  | .moment moment, "isoformat" => some (.function (.isoMoment moment))
  | .real number, "real" => some (.real number)
  | .real _, "imag" => some (.real (.zero false))
  | .real number, "is_integer" => some (.function (.isIntegral number))
  | .int number, name => integerAttribute number name
  | .bool truth, name => integerAttribute (if truth then 1 else 0) name
  | .host object, name => host.publish object name
  | _, _ => none
where
  /-- An integer is a fraction and a complex number as well. -/
  integerAttribute (number : Int) (name : String) : Option Value :=
    match name with
    | "real" => some (.int number)
    | "imag" => some (.int 0)
    | "numerator" => some (.int number)
    | "denominator" => some (.int 1)
    | "bit_length" => some (.function (.bitLength number))
    | _ => none

end Host

end Letterpress
