import Conformance.Unicode.Ranges

/-!
# Tokens of TOML text

Punctuation, words, quoted strings, blanks and line ends. A word is a run of letters, digits and the
signs that numbers and dates are written with; whether it is a key or a value is not decided here.
Comments leave no token. Cutting a text into tokens looks at one character at a time.
-/
namespace Conformance.Toml

inductive Token where
  | mark (c : Char)
  | word (text : String)
  /-- A quoted string; `lines` if it is in three quotes and may hold line ends. -/
  | quoted (text : String) (lines : Bool)
  | blank (text : String)
  | newline
  deriving DecidableEq, Repr

/-- How a string is quoted. -/
structure Quoting where
  quote : Char
  lines : Bool
  deriving DecidableEq, Repr

namespace Quoting

/-- Whether a backslash has a meaning. -/
def escapes (q : Quoting) : Bool :=
  q.quote == '"'

end Quoting

/-- Where in a text the cutting is. What has been read of a token is in reverse. -/
inductive Place where
  | between
  | word (sofar : List Char)
  | blank (sofar : List Char)
  | comment
  /-- After the first quote of a string. -/
  | opened (quote : Char)
  /-- After two quotes: an empty string, or the start of three. -/
  | openedTwice (quote : Char)
  /-- After three quotes, where a line end does not count. -/
  | openedThrice (quote : Char)
  | text (q : Quoting) (sofar : List Char)
  /-- After `quotes` quotes in a string in three quotes. -/
  | closing (q : Quoting) (sofar : List Char) (quotes : Nat)
  | escape (q : Quoting) (sofar : List Char)
  /-- In an escape with `missing` more hexadecimal digits to come. -/
  | code (q : Quoting) (sofar : List Char) (missing value : Nat)
  /-- After a backslash and blanks, where the string goes on after a line end. -/
  | folded (q : Quoting) (sofar : List Char) (ended : Bool)
  deriving DecidableEq, Repr

def isBlank (c : Char) : Bool :=
  c == ' ' || c == '\t'

/-- Characters of comments and strings. -/
def isPlain (c : Char) : Bool :=
  c == '\t' || (0x20 ≤ c.toNat && c.toNat != 0x7F)

def isWord (c : Char) : Bool :=
  c.isAlphanum || c == '_' || c == '-' || c == '+' || c == ':'

def isMark (c : Char) : Bool :=
  c == '[' || c == ']' || c == '\x7b' || c == '\x7d' || c == ',' || c == '=' || c == '.'

def isQuote (c : Char) : Bool :=
  c == '"' || c == '\''

def textToken (q : Quoting) (sofar : List Char) : Token :=
  .quoted (String.ofList sofar.reverse) q.lines

/-- What a letter after a backslash stands for. -/
def escaped? (c : Char) : Option Char :=
  match c with
  | '"' => some '"'
  | '\\' => some '\\'
  | 'b' => some '\x08'
  | 'f' => some '\x0C'
  | 'n' => some '\n'
  | 'r' => some '\r'
  | 't' => some '\t'
  | _ => none

/-- The character with this number. -/
def charOf? (n : Nat) : Option Char :=
  if n.isValidChar then some (Char.ofNat n) else none

/-- Reads a character that is not inside a token. -/
def readBetween (c : Char) : Option (List Token × Place) :=
  if c == '\n' then some ([.newline], .between)
  else if isBlank c then some ([], .blank [c])
  else if isWord c then some ([], .word [c])
  else if isMark c then some ([.mark c], .between)
  else if isQuote c then some ([], .opened c)
  else if c == '#' then some ([], .comment)
  else none

/-- Reads a character of a string. -/
def readText (q : Quoting) (sofar : List Char) (c : Char) : Option (List Token × Place) :=
  if c == q.quote then
    if q.lines then some ([], .closing q sofar 1) else some ([textToken q sofar], .between)
  else if q.escapes && c == '\\' then some ([], .escape q sofar)
  else if isPlain c || (q.lines && c == '\n') then some ([], .text q (c :: sofar))
  else none

/-- Completes a token before the character is read. -/
def complete (t : Token) (c : Char) : Option (List Token × Place) :=
  (readBetween c).map fun (ts, next) => (t :: ts, next)

/-- Reads a character, which may complete tokens. -/
def read (place : Place) (c : Char) : Option (List Token × Place) :=
  match place with
  | .between => readBetween c
  | .word sofar =>
    if isWord c then some ([], .word (c :: sofar))
    else complete (.word (String.ofList sofar.reverse)) c
  | .blank sofar =>
    if isBlank c then some ([], .blank (c :: sofar))
    else complete (.blank (String.ofList sofar.reverse)) c
  | .comment =>
    if c == '\n' then readBetween c else if isPlain c then some ([], .comment) else none
  | .opened quote =>
    if c == quote then some ([], .openedTwice quote) else readText ⟨quote, false⟩ [] c
  | .openedTwice quote =>
    if c == quote then some ([], .openedThrice quote) else complete (.quoted "" false) c
  | .openedThrice quote =>
    if c == '\n' then some ([], .text ⟨quote, true⟩ []) else readText ⟨quote, true⟩ [] c
  | .text q sofar => readText q sofar c
  | .closing q sofar quotes =>
    if c == q.quote then if quotes < 5 then some ([], .closing q sofar (quotes + 1)) else none
    else if quotes < 3 then readText q (List.replicate quotes q.quote ++ sofar) c
    else complete (textToken q (List.replicate (quotes - 3) q.quote ++ sofar)) c
  | .escape q sofar =>
    if c == 'u' then some ([], .code q sofar 4 0)
    else if c == 'U' then some ([], .code q sofar 8 0)
    else if q.lines && (isBlank c || c == '\n') then some ([], .folded q sofar (c == '\n'))
    else (escaped? c).map fun d => ([], .text q (d :: sofar))
  | .code q sofar missing value => do
    let value := 16 * value + (← Unicode.hexDigit? c)
    if missing ≤ 1 then return ([], .text q ((← charOf? value) :: sofar))
    else return ([], .code q sofar (missing - 1) value)
  | .folded q sofar ended =>
    if isBlank c then some ([], .folded q sofar ended)
    else if c == '\n' then some ([], .folded q sofar true)
    else if ended then readText q sofar c
    else none

/-- Reads the end of the text. -/
def readEnd : Place → Option (List Token)
  | .between | .comment => some []
  | .word sofar => some [.word (String.ofList sofar.reverse)]
  | .blank sofar => some [.blank (String.ofList sofar.reverse)]
  | .openedTwice _ => some [.quoted "" false]
  | .closing q sofar quotes =>
    if quotes < 3 then none
    else some [textToken q (List.replicate (quotes - 3) q.quote ++ sofar)]
  | _ => none

def tokensFrom (place : Place) : List Char → Option (List Token)
  | [] => readEnd place
  | c :: s => do
    let (ts, next) ← read place c
    return ts ++ (← tokensFrom next s)

/-- Writes each line end as a line feed alone; a carriage return has no other use. -/
def lineFeeds : List Char → Option (List Char)
  | [] => some []
  | '\r' :: '\n' :: s => (lineFeeds s).map ('\n' :: ·)
  | c :: s => if c == '\r' then none else (lineFeeds s).map (c :: ·)

/-- A text may start with a byte order mark. -/
def withoutMark : List Char → List Char
  | '\uFEFF' :: s => s
  | s => s

def tokens (s : List Char) : Option (List Token) :=
  (lineFeeds (withoutMark s)).bind (tokensFrom .between)

end Conformance.Toml
