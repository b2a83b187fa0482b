import ConnectorHub.Text.Blank
import ConnectorHub.Text.GraphemeExtend
import ConnectorHub.Text.Ungraphic

namespace ConnectorHub.Text

/-- Letters without a glyph, which stand for a missing part of a Hangul syllable. -/
def isHangulFiller (c : Char) : Bool :=
  c == '\u115F' || c == '\u1160' || c == '\u3164' || c == '\uFFA0'

/-- The halfwidth sound marks extend the character before them, but take a place of their own. -/
def isHalfwidthSoundMark (c : Char) : Bool := c == '\uFF9E' || c == '\uFF9F'

def isUnseen (c : Char) : Bool :=
  inRanges ungraphicRanges c || isHangulFiller c ||
    (inRanges graphemeExtendRanges c && !isHalfwidthSoundMark c)

def escaped (c : Char) : List Char :=
  if c = '"' then ['\\', '"']
  else if c = '\\' then ['\\', '\\']
  else if c = '\n' then ['\\', 'n']
  else if c = '\r' then ['\\', 'r']
  else if c = '\t' then ['\\', 't']
  else if c.toNat = 0 then ['\\', '0']
  else if isUnseen c then '\\' :: 'u' :: '\x7b' :: (Nat.toDigits 16 c.toNat ++ ['\x7d'])
  else [c]

def quoted (s : String) : String :=
  String.ofList ('"' :: (s.toList.flatMap escaped ++ ['"']))

end ConnectorHub.Text
