import Letterpress.Text.CodeRanges

/-!
This file writes bytes in hexadecimal digits and reads them.
-/

namespace Letterpress.Text

/-- Two digits make a byte. -/
def readBytes? : List Char → Option (List UInt8)
  | [] => some []
  | first :: second :: rest => do
      let high ← hexDigit? first
      let low ← hexDigit? second
      some ((16 * high + low).toUInt8 :: (← readBytes? rest))
  | _ => none

def bytesOfHex? (text : String) : Option ByteArray :=
  (readBytes? text.toList).map fun bytes => ⟨bytes.toArray⟩

def hexOfByte (byte : UInt8) : List Char :=
  [Nat.digitChar (byte.toNat / 16), Nat.digitChar (byte.toNat % 16)]

def hexOfBytes (bytes : ByteArray) : String := String.ofList (bytes.toList.flatMap hexOfByte)

end Letterpress.Text
