import Conformance.Unicode.Binary

/-!
# Quoted text

How messages show a text whose ends or characters may be hard to see: in double quotes, with escapes
for quotes, backslashes, controls, and every character that has no shape of its own.
-/
namespace Conformance.Text

def hexDigits (n : Nat) : String :=
  String.ofList (Nat.toDigits 16 n)

/-- Whether a character shows by itself: not a control, a format or an unassigned character, not a
space other than the plain one, and nothing that attaches to the character before it. -/
def isShown (c : Char) : Bool :=
  if c.toNat < 0x7F then 0x20 ≤ c.toNat
  else !Unicode.hasCategory [.cc, .cf, .cs, .co, .cn, .zl, .zp, .zs] c &&
    !Unicode.isGraphemeExtend c

def quoteChar (c : Char) : String :=
  match c with
  | '\x00' => "\\0"
  | '\t' => "\\t"
  | '\n' => "\\n"
  | '\r' => "\\r"
  | '"' => "\\\""
  | '\\' => "\\\\"
  | _ => if isShown c then String.singleton c else "\\u\x7b" ++ hexDigits c.toNat ++ "\x7d"

def quote (s : String) : String :=
  "\"" ++ String.join (s.toList.map quoteChar) ++ "\""

end Conformance.Text
