import Conformance.Unicode.Age
import Conformance.Unicode.Binary
import Conformance.Unicode.Script

/-!
# Properties asked for by name

A property is asked for by one name, such as `Greek` or `Lu`, or by a name and a value, such as
`scx` and `Grek`. Case, blanks, underscores and hyphens do not matter in names, nor does a leading
"is".
-/
namespace Conformance.Unicode

/-- A property that a class of characters may be given by. -/
inductive Property where
  | any
  | assigned
  | ascii
  | category (categories : List Category)
  | script (code : String)
  | scriptExtension (code : String)
  /-- The character is from this version or one before it. -/
  | age (version : String)
  | binary (name : String)
  | blank
  | word
  deriving DecidableEq, Repr

namespace Property

def holds : Property → Char → Bool
  | any, _ => true
  | assigned, c => Unicode.category c != .cn
  | ascii, c => c.toNat < 128
  | category categories, c => hasCategory categories c
  | script code, c => Unicode.script c == code
  | scriptExtension code, c => (scripts c).contains code
  | age version, c => isOfAge version c
  | binary name, c => binaryProperties.any fun (_, long, test) => long == name && test c
  | blank, c => Text.isBlank c
  | word, c => isWord c

def digit : Property :=
  .category [.nd]

/-- A name with all that does not matter removed. Characters outside ASCII do not matter either, and
"isc" is not "c". -/
def normalize (name : List Char) : List Char :=
  let letters := fun (s : List Char) =>
    (s.filter fun c => c.toNat < 128 && c != ' ' && c != '_' && c != '-').map Char.toLower
  match name with
  | i :: s :: rest =>
    if i.toLower == 'i' && s.toLower == 's' then
      if letters rest == ['c'] then ['i', 's', 'c'] else letters rest
    else letters name
  | _ => letters name

def sameName (normal : List Char) (name : String) : Bool :=
  normalize name.toList == normal

/-- General categories and groups of them: codes and names. -/
def categoryNames : List (List String × List Category) :=
  [(["L", "Letter"], [.lu, .ll, .lt, .lm, .lo]),
    (["LC", "Cased_Letter"], [.lu, .ll, .lt]),
    (["Lu", "Uppercase_Letter"], [.lu]), (["Ll", "Lowercase_Letter"], [.ll]),
    (["Lt", "Titlecase_Letter"], [.lt]), (["Lm", "Modifier_Letter"], [.lm]),
    (["Lo", "Other_Letter"], [.lo]),
    (["M", "Mark", "Combining_Mark"], [.mn, .mc, .me]),
    (["Mn", "Nonspacing_Mark"], [.mn]), (["Mc", "Spacing_Mark"], [.mc]),
    (["Me", "Enclosing_Mark"], [.me]),
    (["N", "Number"], [.nd, .nl, .no]),
    (["Nd", "Decimal_Number", "digit"], [.nd]), (["Nl", "Letter_Number"], [.nl]),
    (["No", "Other_Number"], [.no]),
    (["P", "Punctuation", "punct"], [.pc, .pd, .ps, .pe, .pi, .pf, .po]),
    (["Pc", "Connector_Punctuation"], [.pc]), (["Pd", "Dash_Punctuation"], [.pd]),
    (["Ps", "Open_Punctuation"], [.ps]), (["Pe", "Close_Punctuation"], [.pe]),
    (["Pi", "Initial_Punctuation"], [.pi]), (["Pf", "Final_Punctuation"], [.pf]),
    (["Po", "Other_Punctuation"], [.po]),
    (["S", "Symbol"], [.sm, .sc, .sk, .so]),
    (["Sm", "Math_Symbol"], [.sm]), (["Sc", "Currency_Symbol"], [.sc]),
    (["Sk", "Modifier_Symbol"], [.sk]), (["So", "Other_Symbol"], [.so]),
    (["Z", "Separator"], [.zs, .zl, .zp]),
    (["Zs", "Space_Separator"], [.zs]), (["Zl", "Line_Separator"], [.zl]),
    (["Zp", "Paragraph_Separator"], [.zp]),
    (["C", "Other"], [.cc, .cf, .cs, .co, .cn]),
    (["Cc", "Control", "cntrl"], [.cc]), (["Cf", "Format"], [.cf]),
    (["Cn", "Unassigned"], [.cn]), (["Co", "Private_Use"], [.co])]

def generalCategory? (normal : List Char) : Option Property :=
  if sameName normal "any" then some .any
  else if sameName normal "assigned" then some .assigned
  else if sameName normal "ascii" then some .ascii
  else (categoryNames.find? fun (names, _) => names.any (sameName normal)).map fun (_, categories) =>
    .category categories

/-- The code of the script with this name. -/
def scriptCode? (normal : List Char) : Option String :=
  (scriptNames.find? fun names => names.any (sameName normal)).bind List.head?

/-- The version with this name, such as `6.1` or `V6_1`. -/
def age? (normal : List Char) : Option Property :=
  (ages.find? fun (version, _) => sameName normal version ||
    normal == 'v' :: version.toList.filter (· != '.')).map fun (version, _) => .age version

def binary? (normal : List Char) : Option Property :=
  (binaryProperties.find? fun (short, long, _) =>
    sameName normal short || sameName normal long).map fun (_, long, _) => .binary long

/-- A property asked for by one name. "cf", "sc" and "lc" are always general categories. -/
def ofName? (name : List Char) : Option Property :=
  let normal := normalize name
  let general := (generalCategory? normal).or ((scriptCode? normal).map .script)
  if normal == ['c', 'f'] || normal == ['s', 'c'] || normal == ['l', 'c'] then general
  else (binary? normal).or general

/-- A property asked for by a name and a value. -/
def ofNameAndValue? (name value : List Char) : Option Property :=
  let key := normalize name
  let normal := normalize value
  if sameName key "gc" || sameName key "General_Category" then generalCategory? normal
  else if sameName key "sc" || sameName key "Script" then (scriptCode? normal).map .script
  else if sameName key "scx" || sameName key "Script_Extensions" then
    (scriptCode? normal).map .scriptExtension
  else if sameName key "age" then age? normal
  else none

end Property
end Conformance.Unicode
