import Letterpress.Fault
import Letterpress.Number.Digits

/-!
This file keeps a log. Records of lower levels than that of the log are left out.
-/

namespace Letterpress.Log

structure Level where
  name : String
  number : Int
  deriving DecidableEq, Repr

def levels : List Level :=
  [⟨"TRACE", 5⟩, ⟨"DEBUG", 10⟩, ⟨"INFO", 20⟩, ⟨"SUCCESS", 25⟩, ⟨"WARNING", 30⟩, ⟨"ERROR", 40⟩,
    ⟨"CRITICAL", 50⟩]

/-- The names of levels are written in upper case. -/
def Level.ofName? (name : String) : Option Level := levels.find? fun level => level.name = name

/-- A library numbers its levels. It has no names for the first of ours and for that of a
success. -/
def Level.ofNumber (number : Int) : Level :=
  match levels.find? fun level => level.number = number with
  | some level =>
      if level.name = "TRACE" ∨ level.name = "SUCCESS" then ⟨"Level " ++ integerText number, number⟩
      else level
  | none => ⟨"Level " ++ integerText number, number⟩

/-- A record is the program's own, with the name of its level, or that of a library, with a
number. -/
inductive Entry
  | own (logger level message : String)
  | library (logger : String) (level : Int) (message : String)
  deriving DecidableEq, Repr

structure Line where
  level : Level
  logger : String
  message : String
  deriving DecidableEq, Repr

def isPartOf (logger other : String) : Bool :=
  logger = other || (other ++ ".").toList.isPrefixOf logger.toList

/-- The records of a library with a handler of its own, and of its parts, come twice, for the
handler of all libraries gets them too. -/
def copies (handled : List String) (logger : String) : Nat :=
  if handled.any (isPartOf logger) then 2 else 1

/-- A library without a name is the root of all. -/
def loggerName (logger : String) : String := if logger = "" then "root" else logger

/-- A library's record of no positive level is dropped. -/
def Entry.lines (handled : List String) : Entry → Except Fault (List Line)
  | own logger level message =>
      match Level.ofName? level with
      | some found => .ok [⟨found, logger, message⟩]
      | none => .error .badValue
  | library logger number message =>
      let line : Line := ⟨Level.ofNumber number, loggerName logger, message⟩
      .ok (if 0 < number then List.replicate (copies handled logger) line else [])

def allLines (handled : List String) : List Entry → Except Fault (List Line)
  | [] => .ok []
  | entry :: rest => do
      let lines ← entry.lines handled
      return lines ++ (← allLines handled rest)

/-- A log begins with a record of its own. -/
def opening (level file : String) : Entry :=
  .own "docgen" "DEBUG" ("Docgen logger initialized (level=" ++ level ++ ", file=" ++ file ++ ")")

/-- These are the lines of a log of the given level. -/
def write (handled : List String) (level file : String) (entries : List Entry) :
    Except Fault (List Line) :=
  match Level.ofName? level with
  | none => .error .badValue
  | some threshold => do
      let lines ← allLines handled (opening level file :: entries)
      return lines.filter fun line => threshold.number ≤ line.level.number

end Letterpress.Log
