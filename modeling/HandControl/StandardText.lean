import HandControl.ByteEncoding

/-!
# Text functions of the standard library

Trimming, comparison without case and the reading of hexadecimal byte strings, as the
standard libraries of the modelled programs document them.
-/

namespace HandControl.StandardText

open ByteEncoding

/-- The characters with the Unicode property of white space. -/
def isWhitespace (symbol : Char) : Bool :=
  let code := symbol.toNat
  (0x09 ≤ code && code ≤ 0x0D) || code == 0x20 || code == 0x85 || code == 0xA0 ||
    code == 0x1680 || (0x2000 ≤ code && code ≤ 0x200A) || code == 0x2028 || code == 0x2029 ||
      code == 0x202F || code == 0x205F || code == 0x3000

def trim (text : String) : String :=
  String.ofList ((text.toList.dropWhile isWhitespace).reverse.dropWhile isWhitespace).reverse

/-- White space for Kotlin on the Java platform. -/
def isKotlinWhitespace (symbol : Char) : Bool :=
  let code := symbol.toNat
  (0x1C ≤ code && code ≤ 0x1F) || (isWhitespace symbol && code != 0x85)

def isBlank (text : String) : Bool := text.toList.all isKotlinWhitespace

def kotlinTrim (text : String) : String :=
  String.ofList
    ((text.toList.dropWhile isKotlinWhitespace).reverse.dropWhile isKotlinWhitespace).reverse

def dropMarker (marker text : String) : String :=
  if marker.toList.isPrefixOf text.toList then
    String.ofList (text.toList.drop marker.toList.length)
  else text

def eqIgnoreAsciiCase (left right : String) : Bool :=
  left.toList.map Char.toLower == right.toList.map Char.toLower

def isAsciiHexdigit (symbol : Char) : Bool := (hexDigitValue symbol).isSome

/-- Two hexadecimal digits for each byte. -/
def hexDecode : List Char → Option Bytes
  | [] => some []
  | [_] => none
  | high :: low :: rest => do
    let highValue ← hexDigitValue high
    let lowValue ← hexDigitValue low
    let bytes ← hexDecode rest
    some (UInt8.ofNat (16 * highValue + lowValue) :: bytes)

end HandControl.StandardText
