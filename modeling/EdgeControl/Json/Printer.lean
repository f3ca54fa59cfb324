import EdgeControl.Json
import EdgeControl.Text.Numeral

/-!
JSON values as text, on one line and without blanks.
-/
namespace EdgeControl.Json

/-- A character of a string, which is escaped if it ends the string, starts an escape, or is a
control character. -/
def charText (c : Char) : List Char :=
  if c = '"' then ['\\', '"']
  else if c = '\\' then ['\\', '\\']
  else if c = '\n' then ['\\', 'n']
  else if c = '\r' then ['\\', 'r']
  else if c = '\t' then ['\\', 't']
  else if c.toNat < 0x20 then ['\\', 'u', '0', '0'] ++ Text.hexPair (UInt8.ofNat c.toNat)
  else [c]

def stringText (s : String) : List Char := '"' :: s.toList.flatMap charText ++ ['"']

def commas : List (List Char) → List Char := List.intercalate [',']

mutual

/-- The text of a value. A number that is not an integer has no digits here. -/
def toText : Json → List Char
  | null => "null".toList
  | bool b => (toString b).toList
  | int n => (toString n).toList
  | fraction => "null".toList
  | str s => stringText s
  | arr items => '[' :: commas (itemTexts items) ++ [']']
  | obj members => '{' :: commas (memberTexts members) ++ ['}']

def itemTexts : List Json → List (List Char)
  | [] => []
  | j :: rest => j.toText :: itemTexts rest

def memberTexts : List (String × Json) → List (List Char)
  | [] => []
  | (name, j) :: rest => (stringText name ++ ':' :: j.toText) :: memberTexts rest

end

end EdgeControl.Json
