import ControlPlane.Binary64.Shortest
import ControlPlane.Json.Basic

/-!
# The compact text of a JSON value

No blanks, members in key order. Quotes, backslashes and control characters are escaped, with the
short escapes where there is one.
-/

namespace ControlPlane.Json

def hexDigit (n : Nat) : Char := "0123456789abcdef".toList.getD n '0'

def escapeChar (c : Char) : List Char :=
  if c = '"' then ['\\', '"']
  else if c = '\\' then ['\\', '\\']
  else if c = '\n' then ['\\', 'n']
  else if c = '\r' then ['\\', 'r']
  else if c = '\t' then ['\\', 't']
  else if c.toNat = 8 then ['\\', 'b']
  else if c.toNat = 12 then ['\\', 'f']
  else if c.toNat < 32 then ['\\', 'u', '0', '0', hexDigit (c.toNat / 16), hexDigit (c.toNat % 16)]
  else [c]

def quote (s : String) : String :=
  String.ofList ('"' :: s.toList.flatMap escapeChar ++ ['"'])

def numberText : Number → String
  | .integer n => toString n
  | .double x => x.text

mutual

def text : Json → String
  | .null => "null"
  | .bool true => "true"
  | .bool false => "false"
  | .number n => numberText n
  | .string s => quote s
  | .array items => "[" ++ itemsText items ++ "]"
  | .object members => "\x7b" ++ membersText members ++ "\x7d"

def itemsText : List Json → String
  | [] => ""
  | [x] => x.text
  | x :: y :: rest => x.text ++ "," ++ itemsText (y :: rest)

def membersText : List (String × Json) → String
  | [] => ""
  | [(k, x)] => quote k ++ ":" ++ x.text
  | (k, x) :: y :: rest => quote k ++ ":" ++ x.text ++ "," ++ membersText (y :: rest)

end

end ControlPlane.Json
