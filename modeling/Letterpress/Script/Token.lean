import Letterpress.Script.Problem
import Letterpress.Text.CodeRanges
import Letterpress.Text.Letter
import Letterpress.Text.Blank

/-!
This file cuts the source of a script into tokens.
-/

namespace Letterpress.Script

inductive TokenKind
  | number
  | text
  | name
  | operator
  | finish
  deriving DecidableEq, Repr, Inhabited

/-- A token keeps its text and its place, counted in characters. -/
structure Token where
  kind : TokenKind
  text : String
  position : Nat
  deriving DecidableEq, Repr, Inhabited

namespace Token

def isNameStart (character : Char) : Bool :=
  character = '$' || (Text.isWord character && !Text.isDecimal character)

def isNameContinue (character : Char) : Bool :=
  character = '$' || Text.isWord character

/-- An exponent belongs to a number only when it has digits. -/
def exponentLength : List Char → Nat
  | letter :: rest =>
      if letter = 'e' || letter = 'E' then
        let afterSign := match rest with
          | sign :: after => if sign = '+' || sign = '-' then after else rest
          | [] => rest
        let digits := afterSign.takeWhile Text.isDecimal
        if digits.isEmpty then 0 else 1 + (rest.length - afterSign.length) + digits.length
      else 0
  | [] => 0

/-- Digits with an optional point, or a point and digits, then an optional exponent. -/
def numberLength (characters : List Char) : Nat :=
  let whole := characters.takeWhile Text.isDecimal
  let mantissa := match characters.drop whole.length with
    | '.' :: rest =>
        let fraction := rest.takeWhile Text.isDecimal
        if whole.isEmpty && fraction.isEmpty then 0 else whole.length + 1 + fraction.length
    | _ => whole.length
  if mantissa = 0 then 0 else mantissa + exponentLength (characters.drop mantissa)

/-- This is the number of characters up to and with the closing quote. A backslash takes the next
character with it, which may not be a line feed. -/
def quotedLength (quotation : Char) : List Char → Option Nat
  | [] => none
  | character :: rest =>
      if character = quotation then some 1
      else if character = '\\' then
        match rest with
        | next :: after =>
            if next = '\n' then none else (quotedLength quotation after).map (· + 2)
        | [] => none
      else (quotedLength quotation rest).map (· + 1)

def textLength : List Char → Nat
  | character :: rest =>
      if character = '"' || character = '\'' then
        ((quotedLength character rest).map (· + 1)).getD 0
      else 0
  | [] => 0

def nameLength : List Char → Nat
  | character :: rest =>
      if isNameStart character then 1 + (rest.takeWhile isNameContinue).length else 0
  | [] => 0

/-- The operators, a longer one before its beginnings. -/
def operators : List String :=
  ["===", "!==", "==", "!=", "<=", ">=", "&&", "||", "??", "-", "+", "*", "/", "%", "<", ">",
    "!", "?", ":", ".", ",", "(", ")", "[", "]", ";", "="]

def operatorLength (characters : List Char) : Nat :=
  ((operators.find? fun symbol => symbol.toList.isPrefixOf characters).map String.length).getD 0

/-- The kinds in the order in which they are tried, each with the length it takes. -/
def candidates (characters : List Char) : List (TokenKind × Nat) :=
  [(.number, numberLength characters), (.text, textLength characters),
    (.name, nameLength characters), (.operator, operatorLength characters)]

/-- This is the token kind that starts here, with its length. -/
def start? (characters : List Char) : Option (TokenKind × Nat) :=
  (candidates characters).find? fun candidate => candidate.2 ≠ 0

/-- This cuts tokens from a place on. Every step passes a character, so the fuel is never used
up. -/
def cutFrom (source : String) (cut : List Token) :
    Nat → Nat → List Char → Except Problem (List Token)
  | 0, position, _ => .ok (⟨.finish, "", position⟩ :: cut).reverse
  | fuel + 1, position, characters =>
      match characters with
      | [] => .ok (⟨.finish, "", position⟩ :: cut).reverse
      | character :: rest =>
          if Text.isBlank character then cutFrom source cut fuel (position + 1) rest
          else match start? characters with
            | none => .error (.unexpectedCharacter source position character)
            | some (kind, length) =>
                let token : Token := ⟨kind, String.ofList (characters.take length), position⟩
                cutFrom source (token :: cut) fuel (position + length) (characters.drop length)

end Token

/-- The tokens of a source end with the finishing one. -/
def tokenize (source : String) : Except Problem (List Token) :=
  let characters := source.toList
  Token.cutFrom source [] characters.length 0 characters

/-- This is the character of a one-letter escape; other characters stand for themselves. -/
def simpleEscape (character : Char) : Char :=
  match character with
  | 'n' => '\n'
  | 't' => '\t'
  | 'r' => '\r'
  | 'b' => '\x08'
  | 'f' => '\x0c'
  | 'v' => '\x0b'
  | '0' => '\x00'
  | other => other

/-- A code unit of a surrogate pair is no character. -/
def characterOf (code : Nat) : Char :=
  if 0xd800 ≤ code ∧ code < 0xe000 then '\ufffd' else Char.ofNat code

/-- This is the code of four hexadecimal digits. -/
def escapedCode? : List Char → Option Nat
  | first :: second :: third :: fourth :: _ =>
      if [first, second, third, fourth].all fun digit => (Text.hexDigit? digit).isSome then
        some (Text.readHex [first, second, third, fourth])
      else none
  | _ => none

/-- This is the character that the text after a backslash stands for, and the length it takes. -/
def escaped? : List Char → Option (Char × Nat)
  | [] => none
  | character :: rest =>
      match (if character = 'u' then escapedCode? rest else none) with
      | some code => some (characterOf code, 5)
      | none => some (simpleEscape character, 1)

/-- This replaces the escapes of a quoted text. The first argument counts characters of an escape
that are still to be passed. -/
def unescapeFrom : Nat → List Char → List Char
  | _, [] => []
  | passed + 1, _ :: rest => unescapeFrom passed rest
  | 0, character :: rest =>
      match (if character = '\\' then escaped? rest else none) with
      | some (meaning, length) => meaning :: unescapeFrom length rest
      | none => character :: unescapeFrom 0 rest

/-- This is the text that a quoted literal stands for. -/
def unescape (literal : String) : String :=
  String.ofList (unescapeFrom 0 (literal.toList.drop 1).dropLast)

end Letterpress.Script
