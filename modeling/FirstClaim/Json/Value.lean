/-!
# JSON values and their text

`Value.compact` writes a value without any blanks, `Value.pretty` with one item a line. Strings
escape the quotation mark, the backslash and control characters only.
-/

set_option autoImplicit false

namespace FirstClaim.Json

/-- A JSON value; the members of an object keep their order. -/
inductive Value where
  | null
  | bool (b : Bool)
  | number (n : Nat)
  | string (s : String)
  | array (items : List Value)
  | object (members : List (String × Value))
deriving Repr

def hexDigit (n : Nat) : Char :=
  if n < 10 then Char.ofNat (48 + n) else Char.ofNat (87 + n)

/-- A character as it stands in a string. -/
def escapeChar (c : Char) : List Char :=
  if c = '"' then ['\\', '"']
  else if c = '\\' then ['\\', '\\']
  else if c = '\n' then ['\\', 'n']
  else if c = '\r' then ['\\', 'r']
  else if c = '\t' then ['\\', 't']
  else if c = '\x08' then ['\\', 'b']
  else if c = '\x0c' then ['\\', 'f']
  else if c.toNat < 0x20 then
    ['\\', 'u', '0', '0', hexDigit (c.toNat / 16), hexDigit (c.toNat % 16)]
  else [c]

/-- A string between quotation marks. -/
def stringText (s : String) : List Char :=
  '"' :: s.toList.flatMap escapeChar ++ ['"']

def numberText (n : Nat) : List Char :=
  Nat.toDigits 10 n

def separated (sep : List Char) (texts : List (List Char)) : List Char :=
  (texts.intersperse sep).flatten

namespace Value

mutual

def compactText : Value → List Char
  | null => "null".toList
  | bool b => (if b then "true" else "false").toList
  | number n => numberText n
  | string s => stringText s
  | array items => '[' :: separated [','] (compactItems items) ++ [']']
  | object members => '{' :: separated [','] (compactMembers members) ++ ['}']

def compactItems : List Value → List (List Char)
  | [] => []
  | v :: rest => compactText v :: compactItems rest

def compactMembers : List (String × Value) → List (List Char)
  | [] => []
  | (key, v) :: rest => (stringText key ++ ':' :: compactText v) :: compactMembers rest

end

def newLine (depth : Nat) : List Char :=
  '\n' :: List.replicate (2 * depth) ' '

/-- Texts of items, each on a line of its own, between brackets. -/
def block (opening closing : Char) (depth : Nat) (texts : List (List Char)) : List Char :=
  if texts.isEmpty then [opening, closing]
  else
    opening :: newLine (depth + 1) ++ separated (',' :: newLine (depth + 1)) texts ++
      newLine depth ++ [closing]

mutual

/-- A value with one item a line, at an indentation of `depth` levels. -/
def prettyText (depth : Nat) : Value → List Char
  | null => "null".toList
  | bool b => (if b then "true" else "false").toList
  | number n => numberText n
  | string s => stringText s
  | array items => block '[' ']' depth (prettyItems (depth + 1) items)
  | object members => block '{' '}' depth (prettyMembers (depth + 1) members)

def prettyItems (depth : Nat) : List Value → List (List Char)
  | [] => []
  | v :: rest => prettyText depth v :: prettyItems depth rest

def prettyMembers (depth : Nat) : List (String × Value) → List (List Char)
  | [] => []
  | (key, v) :: rest =>
    (stringText key ++ ':' :: ' ' :: prettyText depth v) :: prettyMembers depth rest

end

def compact (v : Value) : String :=
  String.ofList v.compactText

def pretty (v : Value) : String :=
  String.ofList (v.prettyText 0)

end Value

end FirstClaim.Json
