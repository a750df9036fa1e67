import Mathlib.Data.List.Basic

namespace OcppGo
namespace Codegen

/-!
# Names of the generated code

The naming transform turns schema names into exported Go names.  Names are
texts; the functions work on their characters.  What the `unicode` package says
about a character is a parameter, so nothing below depends on its tables.
-/

/-- The text without the given beginning, if it begins so. -/
def trimPrefix (text lead : String) : String :=
  if lead.toList.isPrefixOf text.toList then String.ofList (text.toList.drop lead.toList.length)
  else text

def hasSuffix (text tail : String) : Bool :=
  tail.toList.isSuffixOf text.toList

/-- The text without the given ending, if it ends so. -/
def trimSuffix (text tail : String) : String :=
  if hasSuffix text tail then
    String.ofList (text.toList.take (text.toList.length - tail.toList.length))
  else text

def hasPrefix (text lead : String) : Bool :=
  lead.toList.isPrefixOf text.toList

def join (separator : String) (texts : List String) : String :=
  String.intercalate separator texts

/-- The character classes and case mappings of the `unicode` package, and the
case-insensitive comparison of `strings`. -/
structure Unicode where
  isDigit : Char -> Bool
  isLower : Char -> Bool
  isUpper : Char -> Bool
  isLetter : Char -> Bool
  isSpace : Char -> Bool
  toUpper : Char -> Char
  toLower : Char -> Char
  equalFold : String -> String -> Bool

/-- The classes as they are on ASCII texts. -/
def Unicode.ascii : Unicode where
  isDigit := Char.isDigit
  isLower := Char.isLower
  isUpper := Char.isUpper
  isLetter := Char.isAlpha
  isSpace := Char.isWhitespace
  toUpper := Char.toUpper
  toLower := Char.toLower
  equalFold left right := left.toList.map Char.toLower = right.toList.map Char.toLower

/-- Nothing is left of the text once surrounding white space is trimmed. -/
def Unicode.blank (unicode : Unicode) (text : String) : Bool :=
  text.toList.all unicode.isSpace

def Unicode.lowered (unicode : Unicode) (text : String) : String :=
  String.ofList (text.toList.map unicode.toLower)

/-- The configured words that are written as initialisms, with the character
classes the transform consults. -/
structure TransformConfig where
  unicode : Unicode
  initialisms : List String

/-- The kind of a definition in the index. -/
inductive DefinitionKind where
  | object
  | enum
  | root
  deriving DecidableEq

def DefinitionKind.text : DefinitionKind -> String
  | .object => "object"
  | .enum => "enum"
  | .root => "root"

/-- Whether a new word starts at `current`: at a digit boundary, at a capital
after a small letter, and at the last capital before a small letter. -/
def wordBoundary (unicode : Unicode) (previous current : Char) (rest : List Char) : Bool :=
  (unicode.isDigit previous != unicode.isDigit current) ||
    (unicode.isLower previous && unicode.isUpper current) ||
    (unicode.isUpper previous && unicode.isUpper current &&
      match rest with
      | [] => false
      | next :: _ => unicode.isLower next)

/-- Continue with the word read so far and its last character. -/
def splitFrom (unicode : Unicode) (word : List Char) (previous : Char) :
    List Char -> List (List Char)
  | [] => [word]
  | current :: rest =>
    if wordBoundary unicode previous current rest then
      word :: splitFrom unicode [current] current rest
    else splitFrom unicode (word ++ [current]) current rest

def splitWords (unicode : Unicode) (text : String) : List String :=
  match text.toList with
  | [] => []
  | first :: rest => (splitFrom unicode [first] first rest).map String.ofList

/-- The table's own spelling of the word; the longest entry wins. -/
def matchInitialism (config : TransformConfig) (word : String) : Option String :=
  let best := config.initialisms.foldl
    (fun best entry =>
      if config.unicode.equalFold word entry && decide (best.utf8ByteSize < entry.utf8ByteSize)
      then entry else best) ""
  if best = "" then none else some best

def titleCaseWord (unicode : Unicode) (word : String) : String :=
  match word.toList with
  | [] => word
  | first :: rest => String.ofList (unicode.toUpper first :: rest)

/-- One word in its exported spelling. -/
def transformWord (config : TransformConfig) (word : String) : String :=
  (matchInitialism config word).getD (titleCaseWord config.unicode word)

def transformWords (config : TransformConfig) (name : String) : List String :=
  (splitWords config.unicode name).map (transformWord config)

/-- The suffix strip, keyed on the kind of the definition alone. -/
def stripSuffix (name : String) : DefinitionKind -> String
  | .object =>
    if name.utf8ByteSize > "Type".utf8ByteSize && hasSuffix name "Type" then
      trimSuffix name "Type"
    else name
  | .enum =>
    if hasSuffix name "EnumType" then trimSuffix name "EnumType" ++ "Type" else name
  | .root => name

def transformIdentifier (config : TransformConfig) (name : String) (kind : DefinitionKind) :
    Except String String :=
  if config.unicode.blank name then .error "transform identifier: empty name"
  else .ok (join "" (transformWords config (stripSuffix name kind)))

def transformPropertyName (config : TransformConfig) (name : String) : Except String String :=
  if config.unicode.blank name then .error "transform property name: empty name"
  else .ok (join "" (transformWords config name))

def goKeywords : List String :=
  ["break", "case", "chan", "const", "continue", "default", "defer", "else", "fallthrough", "for",
    "func", "go", "goto", "if", "import", "interface", "map", "package", "range", "return",
    "select", "struct", "switch", "type", "var"]

def escapeGoKeyword (name : String) : String :=
  if name ∈ goKeywords then name ++ "_" else name

/-- Lower the leading word of an exported name. -/
def lowerCamel (unicode : Unicode) (name : String) : String :=
  match splitWords unicode name with
  | [] => name
  | first :: rest => join "" (unicode.lowered first :: rest)

def snakeCase (unicode : Unicode) (name : String) : String :=
  join "_" ((splitWords unicode name).map unicode.lowered)

def splitToPhrase (unicode : Unicode) (name : String) : String :=
  join " " (splitWords unicode name)

/-- Runs of letters and digits of an enum value, with the run read so far. -/
def segmentsFrom (unicode : Unicode) (current : List Char) : List Char -> List (List Char)
  | [] => if current.isEmpty then [] else [current]
  | next :: rest =>
    if unicode.isLetter next || unicode.isDigit next then
      segmentsFrom unicode (current ++ [next]) rest
    else if current.isEmpty then segmentsFrom unicode [] rest
    else current :: segmentsFrom unicode [] rest

def enumValueSegments (unicode : Unicode) (value : String) : List String :=
  (segmentsFrom unicode [] value.toList).map String.ofList

def enumValueGoWords (config : TransformConfig) (value : String) : List String :=
  (enumValueSegments config.unicode value).map (transformWord config)

/-- The validator tag an enum definition is registered under. -/
def validatorTagName (config : TransformConfig) (enumDefinitionName : String) :
    Except String String := do
  let goName ← transformIdentifier config enumDefinitionName .enum
  return lowerCamel config.unicode goName ++ "201"

end Codegen
end OcppGo
