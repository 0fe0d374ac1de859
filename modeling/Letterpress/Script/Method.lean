import Letterpress.Number.Fixed
import Letterpress.Script.Member
import Letterpress.Text.Case
import Letterpress.Value.Equality

/-!
This file holds the methods of texts, rows and numbers.
-/

namespace Letterpress.Script

/-- These are the methods that a value has by its kind. -/
def methodNames : Value → List String
  | .text _ => ["toUpperCase", "toLowerCase", "trim", "toString", "includes", "startsWith",
      "endsWith", "replace", "padStart", "split"]
  | .list _ => ["join", "includes", "toString"]
  | .tuple _ => ["join", "includes", "toString"]
  | .int _ => ["toFixed", "toString"]
  | .real _ => ["toFixed", "toString"]
  | _ => []

/-- This cuts off the part before the first occurrence of a nonempty pattern, and the pattern.
The characters passed so far are kept in reverse. -/
def cutAt? (pattern passed : List Char) : List Char → Option (List Char × List Char)
  | [] => if pattern.isEmpty then some (passed.reverse, []) else none
  | character :: rest =>
      if pattern.isPrefixOf (character :: rest) then
        some (passed.reverse, (character :: rest).drop pattern.length)
      else cutAt? pattern (character :: passed) rest

def includesText (text pattern : List Char) : Bool := (cutAt? pattern [] text).isSome

def replaceFirst (text old new : List Char) : List Char :=
  match cutAt? old [] text with
  | some (before, after) => before ++ new ++ after
  | none => text

/-- Every piece passes a separator, so the length of the text bounds their number. -/
def splitText (separator : List Char) : Nat → List Char → List String
  | 0, text => [String.ofList text]
  | fuel + 1, text =>
      match cutAt? separator [] text with
      | some (before, after) => String.ofList before :: splitText separator fuel after
      | none => [String.ofList text]

/-- A width is a signed number of 64 bits. -/
def isWidth (width : Int) : Bool := -(twoPower 63 : Int) ≤ width && width < twoPower 63

def padStart (text : List Char) (width : Int) (fill : Char) : Except Fault String :=
  if !isWidth width then .error .overflow
  else .ok (String.ofList (List.replicate (width.toNat - text.length) fill ++ text))

/-- An empty separator, zero, false or null separates every character. -/
def splitMethod (heap : Heap) (text : List Char) (separator : Value) :
    Except Fault (List String) :=
  if heap.isEmpty separator then .ok (text.map Char.toString)
  else do
    let pattern ← heap.text separator
    if pattern = "" then throw .badValue
    return splitText pattern.toList text.length text

def padMethod (heap : Heap) (text : List Char) (width fill : Value) : Except Fault String := do
  let columns ← (← width.operand).truncate
  let filling ← heap.text fill
  padStart text columns (filling.toList.headD ' ')

/-- The result of a method is a value, or a list that is new on the heap. -/
inductive MethodResult
  | value (value : Value)
  | list (items : List Value)

def textMethod (heap : Heap) (text : String) (name : String) (arguments : List Value) :
    Except Fault MethodResult :=
  let characters := text.toList
  match name, arguments with
  | "toUpperCase", [] => .ok (.value (.text (Text.toUpper text)))
  | "toLowerCase", [] => .ok (.value (.text (Text.toLower text)))
  | "trim", [] => .ok (.value (.text (Text.strip text)))
  | "toString", [] => .ok (.value (.text text))
  | "includes", [] => .ok (.value (.bool true))
  | "includes", [part] => do
      return .value (.bool (includesText characters (← heap.text part).toList))
  | "startsWith", [] => .ok (.value (.bool true))
  | "startsWith", [part] => do
      return .value (.bool ((← heap.text part).toList.isPrefixOf characters))
  | "endsWith", [] => .ok (.value (.bool true))
  | "endsWith", [part] => do
      return .value (.bool ((← heap.text part).toList.isSuffixOf characters))
  | "replace", [] => .ok (.value (.text text))
  | "replace", [old] => do
      return .value (.text (String.ofList (replaceFirst characters (← heap.text old).toList [])))
  | "replace", [old, new] => do
      let pattern ← heap.text old
      let replacement ← heap.text new
      return .value (.text (String.ofList
        (replaceFirst characters pattern.toList replacement.toList)))
  | "padStart", [] => .ok (.value (.text text))
  | "padStart", [width] => do
      return .value (.text (← padMethod heap characters width (.text " ")))
  | "padStart", [width, fill] => do
      return .value (.text (← padMethod heap characters width fill))
  | "split", [] => .ok (.list (characters.map fun character => .text character.toString))
  | "split", [separator] => do
      return .list ((← splitMethod heap characters separator).map Value.text)
  | _, _ => .error .wrongType

/-- One of the items is strictly equal to the value. -/
def includesItem (heap : Heap) (value : Value) : List Value → Except Fault Bool
  | [] => .ok false
  | item :: rest => do
      if ← heap.strictlyEqual item value then return true else includesItem heap value rest

def joinItems (heap : Heap) (items : List Value) (separator : Value) : Except Fault String := do
  let between ← heap.text separator
  return String.intercalate between (← Heap.joinTexts heap.text items)

def rowMethod (heap : Heap) (items : List Value) (name : String) (arguments : List Value) :
    Except Fault MethodResult :=
  match name, arguments with
  | "join", [] => do return .value (.text (← joinItems heap items (.text ",")))
  | "join", [separator] => do return .value (.text (← joinItems heap items separator))
  | "includes", [] => do return .value (.bool (← includesItem heap .null items))
  | "includes", [value] => do return .value (.bool (← includesItem heap value items))
  | "toString", [] => do return .value (.text (← joinItems heap items (.text ",")))
  | _, _ => .error .wrongType

def numberMethod (number : Number) (name : String) (arguments : List Value) :
    Except Fault MethodResult :=
  match name, arguments with
  | "toFixed", [] => do return .value (.text (← number.toFixed (.int 0)))
  | "toFixed", [places] => do return .value (.text (← number.toFixed (← places.operand)))
  | "toString", [] => do return .value (.text (← number.plainText))
  | _, _ => .error .wrongType

/-- This calls a method of a value; a call with the wrong number of arguments fails. -/
def callMethod (heap : Heap) (receiver : Value) (name : String) (arguments : List Value) :
    Except Fault MethodResult :=
  match receiver with
  | .text text => textMethod heap text name arguments
  | .list reference => rowMethod heap (heap.list reference).toList name arguments
  | .tuple reference => rowMethod heap (heap.tuple reference).toList name arguments
  | .int value => numberMethod (.int value) name arguments
  | .real value => numberMethod (.real value) name arguments
  | _ => .error .wrongType

end Letterpress.Script
