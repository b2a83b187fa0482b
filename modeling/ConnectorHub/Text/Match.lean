namespace ConnectorHub.Text

def occursIn (pattern : List Char) : List Char → Bool
  | [] => pattern.isEmpty
  | c :: rest => pattern.isPrefixOf (c :: rest) || occursIn pattern rest

/-- `pattern` stands somewhere in `s`. -/
def hasPart (s pattern : String) : Bool := occursIn pattern.toList s.toList

/-- `s` begins with `pattern`. -/
def hasStart (s pattern : String) : Bool := pattern.toList.isPrefixOf s.toList

/-- `s` ends with `pattern`. -/
def hasEnd (s pattern : String) : Bool := pattern.toList.isSuffixOf s.toList

end ConnectorHub.Text
