import ControlPlane.Json.Printer

/-!
# Block YAML

Objects and lists are written a member or an item a line, two columns further in than their parent;
the items of a list stand at the column of the key. A text of several lines is a literal block, and
a text that would be read as something else is quoted.
-/

namespace ControlPlane.Yaml

/-- Words that stand for a value other than themselves. -/
def reservedWords : List String :=
  ["", "~", "null", "Null", "NULL", "true", "True", "TRUE", "false", "False", "FALSE", "y", "Y",
    "yes", "Yes", "YES", "n", "N", "no", "No", "NO", "on", "On", "ON", "off", "Off", "OFF",
    ".inf", ".Inf", ".INF", ".nan", ".NaN", ".NAN"]

/-- Characters that begin something else than a plain text. -/
def indicators : List Char := "-?:,[]\x7b\x7d#&*!|>'\"%@`".toList

def contains (part : List Char) : List Char → Bool
  | [] => part.isEmpty
  | c :: rest => part.isPrefixOf (c :: rest) || contains part rest

def looksNumeric (cs : List Char) : Bool :=
  match cs with
  | c :: _ =>
    (c.isDigit || c = '+' || c = '.') &&
      cs.all fun c => c.isAlphanum || c = '.' || c = '+' || c = '-'
  | [] => false

/-- Whether a text of one line can stand without quotes. -/
def isPlain (s : String) : Bool :=
  let cs := s.toList
  !reservedWords.contains s && !(looksNumeric cs && cs.any Char.isDigit) &&
    (match cs with
      | c :: _ => !indicators.contains c && c ≠ ' '
      | [] => false) &&
    !contains [':', ' '] cs && !contains [' ', '#'] cs && cs.getLast? ≠ some ':' &&
    cs.getLast? ≠ some ' '

/-- In single quotes, where a quote is written twice. -/
def singleQuoted (s : String) : String :=
  "'" ++ String.ofList (s.toList.flatMap fun c => if c = '\'' then ['\'', '\''] else [c]) ++ "'"

def spaces (n : Nat) : String := String.ofList (List.replicate n ' ')

/-- The lines of a literal block; an empty line has no indentation. -/
def literalLines (column : Nat) (s : String) : String :=
  String.join ((s.splitOn "\n").map fun l => if l.isEmpty then "\n" else spaces column ++ l ++ "\n")

/-- A text behind its key, with the rest of the line. -/
def text (column : Nat) (s : String) : String :=
  if s.toList.contains '\n' then "|-\n" ++ literalLines column s
  else if isPlain s then s ++ "\n"
  else singleQuoted s ++ "\n"

mutual

/-- A value behind its key, which stands at `column`. -/
def afterKey (column : Nat) : Json → String
  | .object [] => " \x7b\x7d\n"
  | .object members => "\n" ++ membersFrom (column + 2) members
  | .array [] => " []\n"
  | .array items => "\n" ++ itemsFrom column items
  | .string s => " " ++ text (column + 2) s
  | .null => " null\n"
  | .bool b => (if b then " true" else " false") ++ "\n"
  | .number n => " " ++ Json.numberText n ++ "\n"

/-- A value behind the dash of an item at `column`. -/
def afterDash (column : Nat) : Json → String
  | .object [] => "\x7b\x7d\n"
  | .object ((k, v) :: rest) => k ++ ":" ++ afterKey (column + 2) v ++ membersFrom (column + 2) rest
  | .array [] => "[]\n"
  | .array (x :: rest) => "- " ++ afterDash (column + 2) x ++ itemsFrom (column + 2) rest
  | .string s => text (column + 2) s
  | .null => "null\n"
  | .bool b => (if b then "true" else "false") ++ "\n"
  | .number n => Json.numberText n ++ "\n"

def membersFrom (column : Nat) : List (String × Json) → String
  | [] => ""
  | (k, v) :: rest => spaces column ++ k ++ ":" ++ afterKey column v ++ membersFrom column rest

def itemsFrom (column : Nat) : List Json → String
  | [] => ""
  | x :: rest => spaces column ++ "- " ++ afterDash column x ++ itemsFrom column rest

end

/-- A document that is an object. -/
def document (members : Dict Json) : String := membersFrom 0 members

end ControlPlane.Yaml
