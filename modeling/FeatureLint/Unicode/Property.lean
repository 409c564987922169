import FeatureLint.Unicode.CategoryTable
import FeatureLint.Unicode.CodeSet
import FeatureLint.Unicode.PropertyTable
import FeatureLint.Unicode.ScriptTable

namespace FeatureLint.Unicode

def tableSet? (table : List (List String × String)) (name : String) : Option CodeSet :=
  (table.find? (·.1.contains name)).map fun entry => .ofTable entry.2

/-- The union of some of the categories in the table. -/
def categories (names : List String) : CodeSet :=
  .unions (names.filterMap (tableSet? categoryTable))

def assigned : CodeSet := .unions (categoryTable.map fun entry => .ofTable entry.2)

def letters : CodeSet := categories ["ll", "lm", "lo", "lt", "lu"]

def marks : CodeSet := categories ["mc", "me", "mn"]

/-- The characters that count as white space. -/
def whiteSpace : CodeSet :=
  ⟨[(0x09, 0x0D), (0x20, 0x20), (0x85, 0x85), (0xA0, 0xA0), (0x1680, 0x1680), (0x2000, 0x200A),
    (0x2028, 0x2029), (0x202F, 0x202F), (0x205F, 0x205F), (0x3000, 0x3000)]⟩

def decimalDigits : CodeSet := categories ["nd"]

/-- A set of the property table. -/
def tabled (name : String) : CodeSet := (tableSet? propertyTable name).getD .empty

def lowercase : CodeSet := .union (categories ["ll"]) (tabled "otherlowercase")

def uppercase : CodeSet := .union (categories ["lu"]) (tabled "otheruppercase")

def alphabetic : CodeSet :=
  .unions [lowercase, uppercase, categories ["lt", "lm", "lo", "nl"], tabled "otheralphabetic"]

/-- Characters of words: letters, marks, digits, connectors and joiners. -/
def wordCharacters : CodeSet :=
  .unions [alphabetic, marks, categories ["nd", "pc"], tabled "joincontrol"]

def cased : CodeSet := .unions [lowercase, uppercase, categories ["lt"]]

/-- Marks, modifiers and formats, and the punctuation that stands inside words. -/
def caseIgnorable : CodeSet :=
  .union (categories ["mn", "me", "cf", "lm", "sk"])
    (.ofTable "27 2E 3A B7 387 55F 5F4 2018-2019 2024 2027 FE13 FE52 FE55 FF07 FF0E FF1A")

def graphemeExtend : CodeSet := .union (categories ["me", "mn"]) (tabled "othergraphemeextend")

def graphemeBase : CodeSet :=
  (assigned.diff (categories ["cc", "cf", "co", "zl", "zp"])).diff graphemeExtend

def math : CodeSet := .union (categories ["sm"]) (tabled "othermath")

def idStart : CodeSet :=
  (CodeSet.unions [letters, categories ["nl"], tabled "otheridstart"]).diff (.single 0x2E2F)

def idContinue : CodeSet :=
  .unions [idStart, categories ["mn", "mc", "nd", "pc"], tabled "otheridcontinue"]

/-- Characters whose compatibility forms break identifiers. -/
def unstable : CodeSet := .ofTable "37A 309B-309C FC5E-FC63 FDFA-FDFB FE70-FE7E/2"

def xidStart : CodeSet := idStart.diff (.union unstable (.ofTable "E33 EB3 FF9E-FF9F"))

def xidContinue : CodeSet := idContinue.diff unstable

def changesWhenCasemapped : CodeSet :=
  .unions [tabled "changeswhenlowercased", tabled "changeswhenuppercased",
    tabled "changeswhentitlecased"]

/-- A property that a character has or lacks. -/
def property? (name : String) : Option CodeSet :=
  match name with
  | "whitespace" | "wspace" | "space" => some whiteSpace
  | "lowercase" | "lower" => some lowercase
  | "uppercase" | "upper" => some uppercase
  | "alphabetic" | "alpha" => some alphabetic
  | "cased" => some cased
  | "caseignorable" | "ci" => some caseIgnorable
  | "graphemeextend" | "grext" => some graphemeExtend
  | "graphemebase" | "grbase" => some graphemeBase
  | "math" => some math
  | "idstart" | "ids" => some idStart
  | "idcontinue" | "idc" => some idContinue
  | "xidstart" | "xids" => some xidStart
  | "xidcontinue" | "xidc" => some xidContinue
  | "changeswhencasemapped" | "cwcm" => some changesWhenCasemapped
  | _ => tableSet? propertyTable name

/-- A general category, or a group of them. -/
def category? (name : String) : Option CodeSet :=
  match name with
  | "any" => some .all
  | "ascii" => some .ascii
  | "assigned" => some assigned
  | "unassigned" | "cn" => some assigned.compl
  | "other" | "c" => some (assigned.compl.union (categories ["cc", "cf", "co"]))
  | "letter" | "l" => some letters
  | "casedletter" | "lc" => some (categories ["ll", "lt", "lu"])
  | "mark" | "m" | "combiningmark" => some marks
  | "number" | "n" => some (categories ["nd", "nl", "no"])
  | "punctuation" | "p" | "punct" => some (categories ["pc", "pd", "pe", "pf", "pi", "po", "ps"])
  | "symbol" | "s" => some (categories ["sc", "sk", "sm", "so"])
  | "separator" | "z" => some (categories ["zl", "zp", "zs"])
  | _ => tableSet? categoryTable name

def script? (name : String) : Option CodeSet := tableSet? scriptTable name

/-- The characters that a script uses, alone or with other scripts. What some scripts share is no
longer common to all or inherited. -/
def scriptExtension? (name : String) : Option CodeSet := do
  let (names, own) ← scriptTable.find? (·.1.contains name)
  let own := CodeSet.ofTable own
  if names.contains "common" || names.contains "inherited" then
    return own.diff (.unions (sharedTable.map fun entry => .ofTable entry.2))
  else
    return own.union (.unions (names.filterMap (tableSet? sharedTable)))

/-- Names are compared in lower case, without blanks, hyphens and underscores, and without a leading
`is`; only the abbreviation `isc` keeps it. -/
def looseName (s : String) : String :=
  let cs := s.toList
  let (marked, cs) := match cs with
    | a :: b :: rest => if a.toLower = 'i' && b.toLower = 's' then (true, rest) else (false, cs)
    | _ => (false, cs)
  let cs := cs.filter fun c => c != ' ' && c != '_' && c != '-' && c.toNat ≤ 0x7F
  let name := String.ofList (cs.map Char.toLower)
  if marked && name = "c" then "isc" else name

/-- A set by one name. The short names of two categories are also names of properties that no set
belongs to; they mean the category. -/
def named? (name : String) : Option CodeSet :=
  let name := looseName name
  (property? name).or ((category? name).or (script? name))

/-- A set by the name of a property and of one of its values. -/
def valued? (property value : String) : Option CodeSet :=
  let value := looseName value
  match looseName property with
  | "generalcategory" | "gc" => category? value
  | "script" | "sc" => script? value
  | "scriptextensions" | "scx" => scriptExtension? value
  | _ => none

end FeatureLint.Unicode
