namespace ConnectorHub.Text

/-- ASCII letters in lower case, every other character kept. -/
def fold (s : String) : String := String.ofList (s.toList.map Char.toLower)

/-- ASCII letters in upper case, every other character kept. -/
def raise (s : String) : String := String.ofList (s.toList.map Char.toUpper)

/-- Equal up to the case of ASCII letters. -/
def sameName (a b : String) : Bool := fold a == fold b

@[simp] theorem toList_fold (s : String) : (fold s).toList = s.toList.map Char.toLower := by
  simp [fold]

theorem sameName_iff {a b : String} : sameName a b = true ↔ fold a = fold b := by
  simp [sameName]

@[simp] theorem sameName_self (a : String) : sameName a a = true := by
  simp [sameName]

end ConnectorHub.Text
