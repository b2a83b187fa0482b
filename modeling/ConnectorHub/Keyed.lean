namespace ConnectorHub.Keyed

variable {α : Type} (key : α → String)

/-- Every key is smaller than the keys after it. -/
def Increasing (xs : List α) : Prop := xs.Pairwise fun a b => key a < key b

/-- Puts `a` at its place, instead of the element of the same key if there is one. -/
def insert (a : α) : List α → List α
  | [] => [a]
  | b :: rest =>
    if key a < key b then a :: b :: rest
    else if key b < key a then b :: insert a rest
    else a :: rest

def find? (k : String) (xs : List α) : Option α := xs.find? fun a => key a == k

def erase (k : String) (xs : List α) : List α := xs.filter fun a => key a != k

/-- Inserts one after the other: of several elements of one key the last stays. -/
def ofList (xs : List α) : List α := xs.foldl (fun acc a => insert key a acc) []

variable {key}

theorem mem_insert {a b : α} {xs : List α} (h : b ∈ insert key a xs) : b = a ∨ b ∈ xs := by
  induction xs with
  | nil => simpa [insert] using h
  | cons c rest ih =>
    simp only [insert] at h
    split at h
    · simpa using h
    · split at h
      · rcases List.mem_cons.mp h with h | h
        · exact .inr (by simp [h])
        · rcases ih h with h | h <;> simp [h]
      · rcases List.mem_cons.mp h with h | h <;> simp [h]

theorem Increasing.insert {xs : List α} (h : Increasing key xs) (a : α) :
    Increasing key (Keyed.insert key a xs) := by
  induction xs with
  | nil => simp [Keyed.insert, Increasing]
  | cons b rest ih =>
    have hb := List.pairwise_cons.mp h
    simp only [Keyed.insert]
    split
    · next hlt =>
      refine List.pairwise_cons.mpr ⟨fun c hc => ?_, h⟩
      rcases List.mem_cons.mp hc with rfl | hc
      · exact hlt
      · exact String.lt_trans hlt (hb.1 c hc)
    · split
      · next hgt =>
        refine List.pairwise_cons.mpr ⟨fun c hc => ?_, ih hb.2⟩
        rcases mem_insert hc with rfl | hc
        · exact hgt
        · exact hb.1 c hc
      · next hlt hgt =>
        have hk : key a = key b :=
          String.le_antisymm (String.not_lt.mp hgt) (String.not_lt.mp hlt)
        exact List.pairwise_cons.mpr ⟨fun c hc => hk ▸ hb.1 c hc, hb.2⟩

theorem Increasing.erase {xs : List α} (h : Increasing key xs) (k : String) :
    Increasing key (Keyed.erase key k xs) :=
  List.Pairwise.filter _ h

theorem increasing_nil : Increasing key ([] : List α) := List.Pairwise.nil

end ConnectorHub.Keyed
