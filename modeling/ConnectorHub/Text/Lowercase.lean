namespace ConnectorHub.Text

/-- Besides the capitals A to Z only the Kelvin sign lowers to a single ASCII character. -/
def lowerToAscii (c : Char) : Char := if c = '\u212a' then 'k' else c.toLower

/-- The text lowercased where its lowercase form is ASCII, otherwise kept. -/
def lowercase (s : String) : String := String.ofList (s.toList.map lowerToAscii)

end ConnectorHub.Text
