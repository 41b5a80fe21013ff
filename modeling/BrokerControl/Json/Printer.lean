import BrokerControl.Json.Basic
import BrokerControl.Text.Hex

/-!
# Writing JSON

The compact form has no white space; the indented form puts every item and field on a line of its
own, two spaces further in for each level. In strings the quote, the backslash and the control
characters are escaped and everything else stands for itself.
-/

namespace BrokerControl.Json

/-- A character inside a string literal. -/
def quoteChar (c : Char) : List Char :=
  if c = '"' then ['\\', '"']
  else if c = '\\' then ['\\', '\\']
  else if c = '\n' then ['\\', 'n']
  else if c = '\r' then ['\\', 'r']
  else if c = '\t' then ['\\', 't']
  else if c = '\x08' then ['\\', 'b']
  else if c = '\x0c' then ['\\', 'f']
  else if c.toNat < 0x20 then
    ['\\', 'u', '0', '0', Text.hexDigit (c.toNat / 16), Text.hexDigit (c.toNat % 16)]
  else [c]

/-- A string literal. -/
def quote (s : String) : List Char := '"' :: (s.toList.flatMap quoteChar ++ ['"'])

def natural.digits (n : Nat) : List Char := Nat.toDigits 10 n

/-! ## Compact form -/

mutual

def compact : Json → List Char
  | .null => ['n', 'u', 'l', 'l']
  | .bool true => ['t', 'r', 'u', 'e']
  | .bool false => ['f', 'a', 'l', 's', 'e']
  | .natural n => natural.digits n
  | .numeral text => text.toList
  | .string s => quote s
  | .array [] => ['[', ']']
  | .array (j :: js) => '[' :: (compact j ++ (compactItems js ++ [']']))
  | .object [] => ['\x7b', '\x7d']
  | .object ((k, j) :: fs) =>
    '\x7b' :: (quote k ++ ':' :: (compact j ++ (compactFields fs ++ ['\x7d'])))
  | .nameless j => compact j
  | .unpaired => []
  | .cut => []

/-- Further items, each after a comma. -/
def compactItems : List Json → List Char
  | [] => []
  | j :: js => ',' :: (compact j ++ compactItems js)

/-- Further fields, each after a comma. -/
def compactFields : List (String × Json) → List Char
  | [] => []
  | (k, j) :: fs => ',' :: (quote k ++ ':' :: (compact j ++ compactFields fs))

end

/-- The compact form of a value. -/
def print (j : Json) : String := String.ofList (compact j)

/-! ## Indented form -/

def newline (depth : Nat) : List Char := '\n' :: List.replicate (2 * depth) ' '

mutual

def indented (depth : Nat) : Json → List Char
  | .array (j :: js) =>
    '[' :: (newline (depth + 1) ++ indented (depth + 1) j ++ indentedItems (depth + 1) js ++
      newline depth ++ [']'])
  | .object ((k, j) :: fs) =>
    '\x7b' :: (newline (depth + 1) ++ quote k ++ [':', ' '] ++ indented (depth + 1) j ++
      indentedFields (depth + 1) fs ++ newline depth ++ ['\x7d'])
  | j => compact j

def indentedItems (depth : Nat) : List Json → List Char
  | [] => []
  | j :: js => ',' :: (newline depth ++ indented depth j ++ indentedItems depth js)

def indentedFields (depth : Nat) : List (String × Json) → List Char
  | [] => []
  | (k, j) :: fs =>
    ',' :: (newline depth ++ quote k ++ [':', ' '] ++ indented depth j ++ indentedFields depth fs)

end

/-- The indented form of a value. -/
def pretty (j : Json) : String := String.ofList (indented 0 j)

end BrokerControl.Json
