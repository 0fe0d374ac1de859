import Letterpress.Number.Binary64
import Letterpress.Text.Case
import Letterpress.Value.Coercion

/-!
This file says what lengths have to provide, and reads the descriptors of stamps. A descriptor says
where a stamp goes; each of its fields goes by several names.
-/

namespace Letterpress

/-- Lengths are combined, tested and truncated. One of them stands for a ratio that does not
exist; it is never the length of a side. -/
class Measure (Length : Type) extends Add Length, Sub Length, Mul Length, Div Length where
  one : Length
  two : Length
  missing : Length
  isZero : Length → Bool
  isPositive : Length → Bool
  isFinite : Length → Bool
  truncate : Length → Int

/-- Rounded lengths may be too large to be finite. -/
instance : Measure Binary64 where
  add := Binary64.add
  sub := Binary64.sub
  mul := Binary64.mul
  div := Binary64.div
  one := Binary64.ofRat 1
  two := Binary64.ofRat 2
  missing := .notNumber
  isZero := Binary64.isZero
  isPositive number := number.compare? (.zero false) = some .gt
  isFinite := Binary64.isFinite
  truncate := Binary64.truncate

/-- Exact lengths are always finite. -/
instance : Measure Rat where
  one := 1
  two := 2
  missing := 0
  isZero number := number = 0
  isPositive number := 0 < number
  isFinite _ := true
  truncate number := number.num.tdiv number.den

/-- All lengths are optional. The origin names the corner that heights are measured from. -/
structure Descriptor (Length : Type) where
  pageIndex : Option Length
  pageNumber : Option Length
  x : Option Length
  centerX : Option Length
  bottom : Option Length
  top : Option Length
  centerY : Option Length
  width : Option Length
  height : Option Length
  scale : Option Length
  origin : String
  deriving DecidableEq, Repr

namespace Descriptor

/-! The names of the fields, in the order in which they are looked for. -/

def pageIndexNames : List String :=
  ["page", "pageIndex", "pageNo", "page_id", "pageIdx", "page_index"]

def pageNumberNames : List String := ["pageNumber", "pageNoHuman", "page_number"]

def xNames : List String := ["x", "left", "l", "posX"]

def centerXNames : List String := ["centerX", "cx", "center_x"]

def bottomNames : List String := ["y", "bottom", "b", "posY"]

def topNames : List String := ["top", "t"]

def centerYNames : List String := ["centerY", "cy", "center_y"]

def widthNames : List String := ["width", "w"]

def heightNames : List String := ["height", "h"]

def valueOf (fields : Table Value) (name : String) : Value := (fields.get? name).getD .null

/-- The first field that is not null decides, even if it is no number. -/
def firstPresent (fields : Table Value) (names : List String) :
    Except Fault (Option Binary64) :=
  (((names.map (valueOf fields)).find? fun value => !value.isNull).getD .null).toNumber?

/-- The first field that is a number is taken. -/
def firstNumber (fields : Table Value) (names : List String) :
    Except Fault (Option Binary64) :=
  Value.firstNumber? (names.map (valueOf fields))

/-- An origin is compared without blanks around it and in lower case. -/
def originOf : Value → String
  | .text text => Text.toLower (Text.strip text)
  | _ => ""

/-- This reads the fields of a record. -/
def readFields (fields : Table Value) : Except Fault (Descriptor Binary64) := do
  let pageIndex ← firstPresent fields pageIndexNames
  let pageNumber ← firstPresent fields pageNumberNames
  let x ← firstNumber fields xNames
  let centerX ← firstPresent fields centerXNames
  let bottom ← firstNumber fields bottomNames
  let top ← firstPresent fields topNames
  let centerY ← firstPresent fields centerYNames
  let width ← firstPresent fields widthNames
  let height ← firstPresent fields heightNames
  let scale ← (valueOf fields "scale").toNumber?
  return ⟨pageIndex, pageNumber, x, centerX, bottom, top, centerY, width, height, scale,
    originOf (valueOf fields "origin")⟩

/-- A value that cannot become a number makes the whole descriptor invalid. -/
def ofFields (fields : Table Value) : Except Fault (Descriptor Binary64) :=
  match readFields fields with
  | .error .badValue => .error .invalidInput
  | result => result

/-- Only records are descriptors. -/
def ofValue (heap : Heap) : Value → Except Fault (Descriptor Binary64)
  | .record reference => ofFields (heap.record reference)
  | _ => .error .invalidInput

end Descriptor

end Letterpress
