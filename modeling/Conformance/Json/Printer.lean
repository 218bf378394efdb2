import Conformance.Json.Value

/-!
# Writing JSON

Values are written over several lines: each item and each member has its own, two spaces further in
than the brackets around it. Empty arrays and objects stay on one line.
-/
namespace Conformance.Json

def hexDigit (n : Nat) : Char :=
  if n < 10 then Char.ofNat ('0'.toNat + n) else Char.ofNat ('a'.toNat + (n - 10))

/-- A character as it stands in a string. -/
def escapeChar (c : Char) : List Char :=
  match c with
  | '"' => ['\\', '"']
  | '\\' => ['\\', '\\']
  | '\x08' => ['\\', 'b']
  | '\x0C' => ['\\', 'f']
  | '\n' => ['\\', 'n']
  | '\r' => ['\\', 'r']
  | '\t' => ['\\', 't']
  | _ =>
    if c.toNat < 0x20 then
      ['\\', 'u', '0', '0', hexDigit (c.toNat / 16), hexDigit (c.toNat % 16)]
    else [c]

def quoted (s : String) : List Char :=
  '"' :: s.toList.flatMap escapeChar ++ ['"']

def newLine (depth : Nat) : List Char :=
  '\n' :: List.replicate (2 * depth) ' '

/-- Parts on lines of their own, `depth` deep, with commas between them. -/
def layOut (depth : Nat) (opening closing : Char) : List (List Char) → List Char
  | [] => [opening, closing]
  | p :: ps =>
    opening :: newLine (depth + 1) ++ p ++ ps.flatMap (fun p => ',' :: newLine (depth + 1) ++ p) ++
      newLine depth ++ [closing]

mutual

def write (depth : Nat) : Value → List Char
  | .null => "null".toList
  | .bool true => "true".toList
  | .bool false => "false".toList
  | .number digits => digits.toList
  | .string s => quoted s
  | .illFormed => quoted "\ufffd"
  | .array items => layOut depth '[' ']' (writeItems depth items)
  | .object members => layOut depth '\x7b' '\x7d' (writeMembers depth members)

def writeItems (depth : Nat) : List Value → List (List Char)
  | [] => []
  | v :: vs => write (depth + 1) v :: writeItems depth vs

def writeMembers (depth : Nat) : List (String × Value) → List (List Char)
  | [] => []
  | (name, v) :: members =>
    (quoted name ++ [':', ' '] ++ write (depth + 1) v) :: writeMembers depth members

end

def print (v : Value) : String :=
  String.ofList (write 0 v)

end Conformance.Json
