/-!
# Text as bytes

Files hold bytes, and bytes are text where they are well-formed UTF-8.
-/
namespace Conformance.Text

def ofBytes? (bytes : List UInt8) : Option String :=
  String.fromUTF8? (ByteArray.mk bytes.toArray)

def toBytes (s : String) : List UInt8 :=
  s.toUTF8.toList

/-- Blanks that may be cut from bytes before it is known whether they are text. -/
def isBlankByte (b : UInt8) : Bool :=
  b == 32 || b == 9 || b == 10 || b == 12 || b == 13

def trimBytes (bytes : List UInt8) : List UInt8 :=
  ((bytes.dropWhile isBlankByte).reverse.dropWhile isBlankByte).reverse

end Conformance.Text
