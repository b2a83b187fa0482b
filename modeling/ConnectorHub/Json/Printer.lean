import ConnectorHub.Json.Basic
import ConnectorHub.Number.Shortest
import ConnectorHub.Text.Hex

namespace ConnectorHub.Json

def escaped (c : Char) : List Char :=
  if c = '"' then ['\\', '"']
  else if c = '\\' then ['\\', '\\']
  else if c.toNat = 0x8 then ['\\', 'b']
  else if c.toNat = 0xC then ['\\', 'f']
  else if c = '\n' then ['\\', 'n']
  else if c = '\r' then ['\\', 'r']
  else if c = '\t' then ['\\', 't']
  else if c.toNat < 0x20 then '\\' :: 'u' :: Hex.digits 4 c.toNat
  else [c]

def quote (s : String) : List Char := '"' :: (s.toList.flatMap escaped ++ ['"'])

mutual

/-- Compact text, without blanks. -/
def chars : Json → List Char
  | .null => "null".toList
  | .bool b => if b then "true".toList else "false".toList
  | .integer i => (toString i).toList
  | .real x => x.decimal.toList
  | .text s => quote s
  | .list items => '[' :: (itemChars items ++ [']'])
  | .object fields => '\x7b' :: (fieldChars fields ++ ['\x7d'])

def itemChars : List Json → List Char
  | [] => []
  | [a] => chars a
  | a :: b :: rest => chars a ++ ',' :: itemChars (b :: rest)

def fieldChars : List (String × Json) → List Char
  | [] => []
  | [(k, a)] => quote k ++ ':' :: chars a
  | (k, a) :: b :: rest => quote k ++ ':' :: (chars a ++ ',' :: fieldChars (b :: rest))

end

def compact (j : Json) : String := String.ofList j.chars

end ConnectorHub.Json
