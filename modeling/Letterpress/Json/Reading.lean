import Letterpress.Json.Basic
import Letterpress.Number.Reading
import Letterpress.Text.CodeRanges

/-!
This file reads JSON documents. It accepts the words for the infinities and the missing number,
refuses integers of more than 4300 digits, and of two fields of one name keeps the later value.
-/

namespace Letterpress.Json

/-- A text is no document, or it nests too deeply to be read. -/
inductive Flaw
  | malformed
  | tooDeep
  deriving DecidableEq, Repr

/-- A reader returns the characters that it leaves. -/
abbrev Reader (Result : Type) := List Char → Except Flaw (Result × List Char)

def maximalDepth : Nat := 900

def maximalDigits : Nat := 4300

def isSpace (character : Char) : Bool :=
  character = ' ' || character = '\t' || character = '\n' || character = '\r'

def skipSpace (characters : List Char) : List Char := characters.dropWhile isSpace

/-- Four hexadecimal digits are one code unit. -/
def readUnit? : List Char → Option (Nat × List Char)
  | first :: second :: third :: fourth :: rest =>
      if [first, second, third, fourth].all fun digit => (Text.hexDigit? digit).isSome then
        some (Text.readHex [first, second, third, fourth], rest)
      else none
  | _ => none

/-- Two code units of a surrogate pair make one character; a lone one is replaced. -/
def readUnicode? (characters : List Char) : Option (Char × List Char) :=
  match readUnit? characters with
  | none => none
  | some (unit, rest) =>
      if 0xd800 ≤ unit ∧ unit < 0xdc00 then
        match rest with
        | '\\' :: 'u' :: more =>
            match readUnit? more with
            | some (low, after) =>
                if 0xdc00 ≤ low ∧ low < 0xe000 then
                  some (Char.ofNat (0x10000 + (unit - 0xd800) * 0x400 + (low - 0xdc00)), after)
                else some ('\ufffd', rest)
            | none => some ('\ufffd', rest)
        | _ => some ('\ufffd', rest)
      else if 0xdc00 ≤ unit ∧ unit < 0xe000 then some ('\ufffd', rest)
      else some (Char.ofNat unit, rest)

/-- This is the character that a one-letter escape stands for. -/
def simpleEscape? : Char → Option Char
  | '"' => some '"'
  | '\\' => some '\\'
  | '/' => some '/'
  | 'b' => some '\x08'
  | 'f' => some '\x0c'
  | 'n' => some '\n'
  | 'r' => some '\r'
  | 't' => some '\t'
  | _ => none

/-- This reads up to the closing quote; the characters read so far are kept in reverse. -/
def readString (read : List Char) : Nat → Reader String
  | 0, _ => .error .malformed
  | fuel + 1, characters =>
      match characters with
      | [] => .error .malformed
      | '"' :: rest => .ok (String.ofList read.reverse, rest)
      | '\\' :: 'u' :: rest =>
          match readUnicode? rest with
          | some (character, after) => readString (character :: read) fuel after
          | none => .error .malformed
      | '\\' :: letter :: rest =>
          match simpleEscape? letter with
          | some character => readString (character :: read) fuel rest
          | none => .error .malformed
      | character :: rest =>
          if character.toNat < 0x20 ∨ character = '\\' then .error .malformed
          else readString (character :: read) fuel rest

/-- An exponent belongs to a number only when it has digits. -/
def splitExponent (characters : List Char) : List Char × List Char :=
  match characters with
  | letter :: rest =>
      if letter = 'e' ∨ letter = 'E' then
        let sign := rest.takeWhile fun character => character = '+' || character = '-'
        let after := rest.drop sign.length
        let digits := after.takeWhile Char.isDigit
        if sign.length ≤ 1 ∧ !digits.isEmpty then
          (letter :: sign ++ digits, after.drop digits.length)
        else ([], characters)
      else ([], characters)
  | [] => ([], [])

/-- A fraction belongs to a number only when it has digits. -/
def splitFraction (characters : List Char) : List Char × List Char :=
  match characters with
  | '.' :: rest =>
      let digits := rest.takeWhile Char.isDigit
      if digits.isEmpty then ([], characters) else ('.' :: digits, rest.drop digits.length)
  | _ => ([], characters)

/-- A number with a fraction or an exponent is real. -/
def readNumber (negative : Bool) : Reader Json := fun characters =>
  let all := characters.takeWhile Char.isDigit
  let whole := if all.head? = some '0' then ['0'] else all
  if whole.isEmpty then .error .malformed
  else
    let (fraction, afterFraction) := splitFraction (characters.drop whole.length)
    let (exponent, rest) := splitExponent afterFraction
    if fraction.isEmpty ∧ exponent.isEmpty then
      if maximalDigits < whole.length then .error .malformed
      else
        let value : Int := readDecimal whole
        .ok (int (if negative then -value else value), rest)
    else
      match DecimalNotation.readUnsigned? negative (whole ++ fraction ++ exponent) with
      | some number => .ok (real (Binary64.ofNotation number), rest)
      | none => .error .malformed

/-- This reads one of the fixed words. -/
def readWord? (characters : List Char) : Option (Json × List Char) :=
  let words : List (String × Json) :=
    [("null", null), ("true", bool true), ("false", bool false),
      ("NaN", real .notNumber), ("Infinity", real (.infinite false)),
      ("-Infinity", real (.infinite true))]
  words.findSome? fun (word, value) =>
    if word.toList.isPrefixOf characters then some (value, characters.drop word.length) else none

/-- A later field of the same name replaces the value and keeps the place. -/
def putField (fields : List (String × Json)) (name : String) (value : Json) :
    List (String × Json) :=
  if fields.any (·.1 = name) then
    fields.map fun entry => if entry.1 = name then (name, value) else entry
  else fields ++ [(name, value)]

mutual

/-- This reads one value after optional blanks. -/
def readValue (depth : Nat) : Nat → Reader Json
  | 0, _ => .error .malformed
  | fuel + 1, characters =>
      match skipSpace characters with
      | '"' :: rest =>
          match readString [] (rest.length + 1) rest with
          | .ok (value, after) => .ok (text value, after)
          | .error flaw => .error flaw
      | '[' :: rest =>
          match depth with
          | 0 => .error .tooDeep
          | depth + 1 =>
              match skipSpace rest with
              | ']' :: after => .ok (array [], after)
              | _ => readItems depth [] fuel rest
      | '\x7b' :: rest =>
          match depth with
          | 0 => .error .tooDeep
          | depth + 1 =>
              match skipSpace rest with
              | '\x7d' :: after => .ok (object [], after)
              | _ => readFields depth [] fuel rest
      | trimmed =>
          match readWord? trimmed with
          | some found => .ok found
          | none =>
              match trimmed with
              | '-' :: rest => readNumber true rest
              | _ => readNumber false trimmed

/-- This reads items up to the closing bracket; the items read so far are kept in reverse. -/
def readItems (depth : Nat) (read : List Json) : Nat → Reader Json
  | 0, _ => .error .malformed
  | fuel + 1, characters =>
      match readValue depth fuel characters with
      | .error flaw => .error flaw
      | .ok (item, after) =>
          match skipSpace after with
          | ',' :: rest => readItems depth (item :: read) fuel rest
          | ']' :: rest => .ok (array (item :: read).reverse, rest)
          | _ => .error .malformed

/-- This reads fields up to the closing brace. -/
def readFields (depth : Nat) (read : List (String × Json)) : Nat → Reader Json
  | 0, _ => .error .malformed
  | fuel + 1, characters =>
      match skipSpace characters with
      | '"' :: afterQuote =>
          match readString [] (afterQuote.length + 1) afterQuote with
          | .error flaw => .error flaw
          | .ok (name, afterName) =>
              match skipSpace afterName with
              | ':' :: afterColon =>
                  match readValue depth fuel afterColon with
                  | .error flaw => .error flaw
                  | .ok (value, after) =>
                      match skipSpace after with
                      | ',' :: rest => readFields depth (putField read name value) fuel rest
                      | '\x7d' :: rest => .ok (object (putField read name value), rest)
                      | _ => .error .malformed
              | _ => .error .malformed
      | _ => .error .malformed

end

/-- A document is one value with nothing but blanks around it. Every step of the reader passes a
character, so the fuel is never used up. -/
def read (text : String) : Except Flaw Json :=
  let characters := text.toList
  match readValue maximalDepth (2 * characters.length + 2) characters with
  | .error flaw => .error flaw
  | .ok (document, rest) =>
      if (skipSpace rest).isEmpty then .ok document else .error .malformed

end Letterpress.Json
