import ControlPlane.Binary64.PowerOfTen
import ControlPlane.Json.Document

/-!
# Reading JSON text

`Json.parse` reads the value of a text, and `Document.parse` the text as it is written. Both take
one value with blanks around it. A fault carries its cause and the place where it was noticed: the
line, and the number of bytes since the last line break.

Integers that fit 64 bits are integers; `-0`, longer ones and all numbers with a fraction or an
exponent are doubles. Of a number's digits only so many count as fit 64 bits. Containers nest at
most 127 deep.

What is well formed and cannot be held is a fault to a strict reader, where it stands. To one that
is not strict it is an unreadable part of the document.
-/

namespace ControlPlane

namespace Document

/-- What is left of the text and where it starts. -/
structure Cursor where
  rest : List Char
  line : Nat
  column : Nat

namespace Cursor

def start (text : String) : Cursor := ⟨text.toList, 1, 0⟩

/-- The place after `c`. -/
def past (p : Cursor) (c : Char) (rest : List Char) : Cursor :=
  if c = '\n' then ⟨rest, p.line + 1, 0⟩ else ⟨rest, p.line, p.column + c.utf8Size⟩

def next (p : Cursor) : Cursor :=
  match p.rest with
  | [] => p
  | c :: rest => p.past c rest

def peek (p : Cursor) : Option Char := p.rest.head?

/-- A fault noticed behind what was read. -/
def fault {α : Type} (p : Cursor) (f : SyntaxFault) : Except ParseError α :=
  .error ⟨f, p.line, p.column⟩

/-- A fault noticed at the next byte, which counts as read. -/
def faultAhead {α : Type} (p : Cursor) (f : SyntaxFault) : Except ParseError α :=
  match p.rest with
  | [] => p.fault f
  | '\n' :: _ => .error ⟨f, p.line + 1, 0⟩
  | _ :: _ => .error ⟨f, p.line, p.column + 1⟩

/-- Moves over `n` bytes, the last of which may lie inside a character. -/
def skipBytesFrom (n line column : Nat) : List Char → Cursor
  | [] => ⟨[], line, column⟩
  | c :: rest =>
    if n = 0 then ⟨c :: rest, line, column⟩
    else if c = '\n' then skipBytesFrom (n - 1) (line + 1) 0 rest
    else if n < c.utf8Size then ⟨rest, line, column + n⟩
    else skipBytesFrom (n - c.utf8Size) line (column + c.utf8Size) rest

def skipBytes (p : Cursor) (n : Nat) : Cursor := skipBytesFrom n p.line p.column p.rest

def isBlank (c : Char) : Bool := c = ' ' || c = '\n' || c = '\t' || c = '\r'

/-- The blanks at the front of `cs` are passed over. -/
def skipBlanksFrom (line column : Nat) : List Char → Cursor
  | [] => ⟨[], line, column⟩
  | c :: rest =>
    if c = '\n' then skipBlanksFrom (line + 1) 0 rest
    else if isBlank c then skipBlanksFrom line (column + 1) rest
    else ⟨c :: rest, line, column⟩

def skipBlanks (p : Cursor) : Cursor := skipBlanksFrom p.line p.column p.rest

end Cursor

/-- A step of the reader: a result and what is left, or the first fault. -/
abbrev Step (α : Type) := Except ParseError (α × Cursor)

/-- What comes of a value that ends here and cannot be held. -/
def Cursor.unheld (strict : Bool) (p : Cursor) (f : SyntaxFault) : Step Document :=
  if strict then p.fault f else .ok (.unreadable ⟨f, p.line, p.column⟩, p)

/-- The letters of `null`, `true` or `false` that follow the first one. -/
def readWord (value : Document) : List Char → Cursor → Step Document
  | [], p => .ok (value, p)
  | c :: word, p =>
    match p.rest with
    | [] => p.fault .eofInValue
    | d :: _ => if d = c then readWord value word p.next else p.faultAhead .expectedWord

def digitValue (c : Char) : Nat := c.toNat - '0'.toNat

def isDigit (c : Char) : Bool := '0' ≤ c && c ≤ '9'

/-- Digits that were read: the value to which those that count have led, how many of them count,
and how many more there were. -/
structure Digits where
  value : Nat
  counted : Nat
  passedOver : Nat

/-- The greatest value to which digits may lead. -/
def maxSignificand : Nat := 0xFFFFFFFFFFFFFFFF

/-- A digit counts unless it leads too far or follows one that does. -/
def Digits.push (d : Digits) (digit : Nat) : Digits :=
  let value := d.value * 10 + digit
  if d.passedOver = 0 ∧ value ≤ maxSignificand then ⟨value, d.counted + 1, 0⟩
  else { d with passedOver := d.passedOver + 1 }

/-- The digits at the front of the text, after the digits `d`. -/
def takeDigits (d : Digits) (line column : Nat) : List Char → Digits × Cursor
  | [] => (d, ⟨[], line, column⟩)
  | c :: rest =>
    if isDigit c then takeDigits (d.push (digitValue c)) line (column + 1) rest
    else (d, ⟨c :: rest, line, column⟩)

/-- The digits at the front of the text; they continue those that have led to `value`. -/
def Cursor.digits (p : Cursor) (value : Nat) : Digits × Cursor :=
  takeDigits ⟨value, 0, 0⟩ p.line p.column p.rest

/-- The double `± m · 10 ^ e`, which cannot be held when it is too large. -/
def finishDouble (strict negative : Bool) (m : Nat) (e : Int) (p : Cursor) : Step Document :=
  match Binary64.ofDecimal? negative m e with
  | some x => .ok (.number (.double x), p)
  | none => p.unheld strict .numberOutOfRange

/-- The greatest exponent that is read as a number; a larger one decides the value alone. -/
def maxExponent : Nat := 2147483647

/-- The digits of an exponent, up to the first one that passes `maxExponent`. -/
def takeExponent (acc line column : Nat) : List Char → Except Cursor (Nat × Cursor)
  | [] => .ok (acc, ⟨[], line, column⟩)
  | c :: rest =>
    if isDigit c then
      if acc * 10 + digitValue c ≤ maxExponent then
        takeExponent (acc * 10 + digitValue c) line (column + 1) rest
      else .error ⟨rest, line, column + 1⟩
    else .ok (acc, ⟨c :: rest, line, column⟩)

/-- What follows the `e` of a number with the digits `m` scaled by `10 ^ e`. -/
def readExponent (strict negative : Bool) (m : Nat) (e : Int) (p : Cursor) : Step Document :=
  let (minus, p) :=
    match p.rest with
    | '+' :: _ => (false, p.next)
    | '-' :: _ => (true, p.next)
    | _ => (false, p)
  match p.rest with
  | [] => p.fault .eofInValue
  | c :: _ =>
    if isDigit c then
      match takeExponent 0 p.line p.column p.rest with
      | .ok (x, p) => finishDouble strict negative m (if minus then e - x else e + x) p
      | .error p =>
        if m ≠ 0 ∧ ¬ minus then
          if strict then p.fault .numberOutOfRange
          else (p.digits 0).2.unheld strict .numberOutOfRange
        else finishDouble strict negative 0 0 (p.digits 0).2
    else p.faultAhead .invalidNumber

/-- What follows the whole digits of a number, which have led to `m · 10 ^ e`. -/
def readFraction (strict negative : Bool) (m e : Nat) (p : Cursor) : Step Document :=
  match p.rest with
  | '.' :: _ =>
    let (d, p) := p.next.digits m
    if d.counted + d.passedOver = 0 then
      if p.rest.isEmpty then p.fault .eofInValue else p.faultAhead .invalidNumber
    else
      let e := (e : Int) - d.counted
      match p.rest with
      | 'e' :: _ => readExponent strict negative d.value e p.next
      | 'E' :: _ => readExponent strict negative d.value e p.next
      | _ => finishDouble strict negative d.value e p
  | 'e' :: _ => readExponent strict negative m e p.next
  | 'E' :: _ => readExponent strict negative m e p.next
  | _ =>
    if 0 < e then finishDouble strict negative m e p
    else if negative then
      if m ≠ 0 ∧ m ≤ 0x8000000000000000 then .ok (.number (.integer (-m)), p)
      else finishDouble strict true m 0 p
    else .ok (.number (.integer m), p)

/-- A number, from its first digit on. -/
def readNumber (strict negative : Bool) (p : Cursor) : Step Document :=
  match p.rest with
  | [] => p.fault .eofInValue
  | '0' :: _ =>
    let p := p.next
    match p.peek with
    | some c =>
      if isDigit c then p.faultAhead .invalidNumber else readFraction strict negative 0 0 p
    | none => readFraction strict negative 0 0 p
  | c :: _ =>
    if isDigit c then
      let (d, p) := p.digits 0
      readFraction strict negative d.value d.passedOver p
    else p.faultAhead .invalidNumber

def hexValue? (c : Char) : Option Nat :=
  if isDigit c then some (digitValue c)
  else if 'a' ≤ c ∧ c ≤ 'f' then some (c.toNat - 'a'.toNat + 10)
  else if 'A' ≤ c ∧ c ≤ 'F' then some (c.toNat - 'A'.toNat + 10)
  else none

/-- Whether at least `n` bytes are left. -/
def hasBytes (n : Nat) : List Char → Bool
  | [] => n = 0
  | c :: rest => n ≤ c.utf8Size || hasBytes (n - c.utf8Size) rest

/-- The four digits of a `\u` escape. -/
def readHex (p : Cursor) : Except ParseError (Nat × Cursor) :=
  match p.rest with
  | a :: b :: c :: d :: _ =>
    match hexValue? a, hexValue? b, hexValue? c, hexValue? d with
    | some a, some b, some c, some d =>
      .ok (((a * 16 + b) * 16 + c) * 16 + d, p.next.next.next.next)
    | _, _, _, _ => (p.skipBytes 4).fault .invalidEscape
  | cs =>
    if hasBytes 4 cs then (p.skipBytes 4).fault .invalidEscape
    else (p.skipBytes 4).fault .eofInString

/-- The rest of a pair of surrogates of which `high` is the first. -/
def readLowSurrogate (high : Nat) (p : Cursor) : Except ParseError (Char × Cursor) :=
  match p.rest with
  | [] => p.fault .eofInString
  | '\\' :: rest =>
    match rest with
    | [] => p.next.fault .eofInString
    | 'u' :: _ => do
      let (low, p) ← readHex p.next.next
      if low < 0xDC00 ∨ 0xDFFF < low then p.fault .loneSurrogate
      else .ok (Char.ofNat ((high - 0xD800) * 1024 + (low - 0xDC00) + 0x10000), p)
    | _ :: _ => p.next.faultAhead .unexpectedEndOfEscape
  | _ :: _ => p.faultAhead .unexpectedEndOfEscape

/-- A `\u` escape from behind the `u`: one unit, or two that form a pair of surrogates. Of a pair
that is not complete only the first unit is taken. -/
def readUnicodeEscape (p : Cursor) : Except ParseError (Except ParseError Char × Cursor) := do
  let (n, p) ← readHex p
  if 0xDC00 ≤ n ∧ n ≤ 0xDFFF then return (p.fault .loneSurrogate, p)
  else if n < 0xD800 ∨ 0xDBFF < n then return (.ok (Char.ofNat n), p)
  else
    match readLowSurrogate n p with
    | .ok (c, p) => return (.ok c, p)
    | .error e => return (.error e, p)

def shortEscape? (c : Char) : Option Char :=
  if c = '"' ∨ c = '\\' ∨ c = '/' then some c
  else if c = 'b' then some (Char.ofNat 8)
  else if c = 'f' then some (Char.ofNat 12)
  else if c = 'n' then some '\n'
  else if c = 'r' then some '\r'
  else if c = 't' then some '\t'
  else none

/-- A string up to its closing quote, after the characters `read` in reverse order or a fault in
them. Each round takes at least one character, so `fuel` beyond the length of the text is never used
up. -/
def readString (strict : Bool) : (fuel : Nat) → (read : Except ParseError (List Char)) → Cursor →
    Except ParseError (Except ParseError String × Cursor)
  | 0, _, p => p.fault .eofInString
  | fuel + 1, read, p =>
    match p.rest with
    | [] => p.fault .eofInString
    | '"' :: _ => .ok (read.map fun cs => String.ofList cs.reverse, p.next)
    | '\\' :: _ =>
      let p := p.next
      match p.rest with
      | [] => p.fault .eofInString
      | 'u' :: _ => do
        let (c, p) ← readUnicodeEscape p.next
        match c with
        | .ok c => readString strict fuel (read.map (c :: ·)) p
        | .error e => if strict then .error e else readString strict fuel (.error e) p
      | c :: _ =>
        match shortEscape? c with
        | some c => readString strict fuel (read.map (c :: ·)) p.next
        | none => p.faultAhead .invalidEscape
    | c :: _ =>
      if c.toNat < 32 then p.faultAhead .controlCharacter
      else readString strict fuel (read.map (c :: ·)) p.next

/-- A string from behind its opening quote. -/
def readText (strict : Bool) (p : Cursor) : Except ParseError (Except ParseError String × Cursor) :=
  readString strict (p.rest.length + 1) (.ok []) p

/-- The items up to the closing bracket, in reverse; `item` reads one. -/
def readItems (item : Cursor → Step Document) : (fuel : Nat) → (first : Bool) → List Document →
    Cursor → Except ParseError (List Document × Cursor)
  | 0, _, _, p => p.fault .eofInList
  | fuel + 1, first, acc, p => do
    let p := p.skipBlanks
    match p.peek with
    | none => p.faultAhead .eofInList
    | some c =>
      if c = ']' then return (acc, p.next)
      else if first then
        let (x, p) ← item p
        readItems item fuel false (x :: acc) p
      else if c = ',' then
        let p := p.next.skipBlanks
        match p.peek with
        | none => p.faultAhead .eofInValue
        | some c =>
          if c = ']' then p.faultAhead .trailingComma
          else
            let (x, p) ← item p
            readItems item fuel false (x :: acc) p
      else p.faultAhead .expectedListCommaOrEnd

/-- The members of an object in reverse, or a fault in one of their keys. -/
abbrev Members := Except ParseError (List (String × Document))

def Members.push (members : Members) (key : Except ParseError String) (d : Document) : Members := do
  let members ← members
  let key ← key
  return (key, d) :: members

/-- One member, from the quote that opens its key. -/
def readMember (strict : Bool) (item : Cursor → Step Document) (p : Cursor) :
    Except ParseError ((Except ParseError String × Document) × Cursor) := do
  let (key, p) ← readText strict p.next
  let p := p.skipBlanks
  match p.peek with
  | none => p.faultAhead .eofInObject
  | some c =>
    if c = ':' then
      let (x, p) ← item p.next
      return ((key, x), p)
    else p.faultAhead .expectedColon

/-- The members up to the closing brace; `item` reads one value. -/
def readMembers (strict : Bool) (item : Cursor → Step Document) : (fuel : Nat) → (first : Bool) →
    Members → Cursor → Except ParseError (Members × Cursor)
  | 0, _, _, p => p.fault .eofInObject
  | fuel + 1, first, acc, p => do
    let p := p.skipBlanks
    match p.peek with
    | none => p.faultAhead .eofInObject
    | some c =>
      if c = '\x7d' then return (acc, p.next)
      else if first then
        if c = '"' then
          let ((k, x), p) ← readMember strict item p
          readMembers strict item fuel false (acc.push k x) p
        else p.faultAhead .keyMustBeString
      else if c = ',' then
        let p := p.next.skipBlanks
        match p.peek with
        | none => p.faultAhead .eofInValue
        | some c =>
          if c = '"' then
            let ((k, x), p) ← readMember strict item p
            readMembers strict item fuel false (acc.push k x) p
          else if c = '\x7d' then p.faultAhead .trailingComma
          else p.faultAhead .keyMustBeString
      else p.faultAhead .expectedObjectCommaOrEnd

/-- A container as it is held, with `room` for those around what is in it. -/
def held (room : Nat) (p : Cursor) (d : Document) : Document :=
  if room = 0 then .unreadable ⟨.nestedTooDeeply, p.line, p.column⟩ else d

/-- One value with the blanks before it. Containers may nest `room` deep; each takes a character, so
`fuel` beyond the length of the text is never used up. -/
def readValue (strict : Bool) :
    (fuel room : Nat) → Cursor → Except ParseError (Document × Cursor)
  | 0, _, p => p.fault .nestedTooDeeply
  | fuel + 1, room, p =>
    let p := p.skipBlanks
    match p.peek with
    | none => p.faultAhead .eofInValue
    | some c =>
      if c = 'n' then readWord .null ['u', 'l', 'l'] p.next
      else if c = 't' then readWord (.bool true) ['r', 'u', 'e'] p.next
      else if c = 'f' then readWord (.bool false) ['a', 'l', 's', 'e'] p.next
      else if c = '-' then readNumber strict true p.next
      else if isDigit c then readNumber strict false p
      else if c = '"' then do
        let (s, p) ← readText strict p.next
        match s with
        | .ok s => return (.string s, p)
        | .error e => return (.unreadable e, p)
      else if c = '[' then
        if strict ∧ room = 0 then p.faultAhead .nestedTooDeeply
        else do
          let item := readValue strict fuel (room - 1)
          let (items, q) ← readItems item (p.rest.length + 1) true [] p.next
          return (held room p (.array items.reverse), q)
      else if c = '\x7b' then
        if strict ∧ room = 0 then p.faultAhead .nestedTooDeeply
        else do
          let item := readValue strict fuel (room - 1)
          let (members, q) ← readMembers strict item (p.rest.length + 1) true (.ok []) p.next
          match members with
          | .ok members => return (held room p (.object members.reverse), q)
          | .error e => return (.unreadable e, q)
      else p.faultAhead .expectedValue

/-- How deeply containers may nest. -/
def maxDepth : Nat := 127

/-- Reads a text that holds one value and nothing else. -/
def read (strict : Bool) (text : String) : Except ParseError Document := do
  let p := Cursor.start text
  let (d, p) ← readValue strict (p.rest.length + 1) maxDepth p
  let p := p.skipBlanks
  if p.rest.isEmpty then return d else p.faultAhead .trailingCharacters

/-- The document that a text is. -/
def parse (text : String) : Except ParseError Document := read false text

end Document

/-- The value that a text stands for. -/
def Json.parse (text : String) : Except ParseError Json := do
  let d ← Document.read true text
  d.value

end ControlPlane
