import ConnectorHub.Keyed
import ConnectorHub.Number.Binary64

namespace ConnectorHub

/-- An integer and a fraction are different numbers even where they are equal in size, as `1` and
`1.0`. The fields of an object stand in increasing order of their names, one of each name. -/
inductive Json where
  | null
  | bool (b : Bool)
  | integer (i : Int)
  | real (x : Binary64)
  | text (s : String)
  | list (items : List Json)
  | object (fields : List (String × Json))

namespace Json

instance : Inhabited Json := ⟨.null⟩

/-- An object from its fields; of several fields of one name the last stays. -/
def ofFields (fields : List (String × Json)) : Json := .object (Keyed.ofList Prod.fst fields)

def texts (names : List String) : Json := .list (names.map .text)

mutual

/-- The values have the same shape and leaves, reals being compared by `eq`. -/
def agree (eq : Binary64 → Binary64 → Bool) : Json → Json → Bool
  | .null, .null => true
  | .bool a, .bool b => a == b
  | .integer a, .integer b => a == b
  | .real a, .real b => eq a b
  | .text a, .text b => a == b
  | .list a, .list b => agreeItems eq a b
  | .object a, .object b => agreeFields eq a b
  | _, _ => false

def agreeItems (eq : Binary64 → Binary64 → Bool) : List Json → List Json → Bool
  | [], [] => true
  | a :: as, b :: bs => agree eq a b && agreeItems eq as bs
  | _, _ => false

def agreeFields (eq : Binary64 → Binary64 → Bool) :
    List (String × Json) → List (String × Json) → Bool
  | [], [] => true
  | (k, a) :: as, (l, b) :: bs => k == l && agree eq a b && agreeFields eq as bs
  | _, _ => false

end

/-- Equality of JSON values: numbers of one kind are equal when they are equal in size. -/
def equals (a b : Json) : Bool := agree Binary64.equals a b

mutual

theorem eq_of_agree : ∀ a b : Json, agree (fun x y => x == y) a b = true → a = b
  | .null, b, h => by cases b <;> simp_all [agree]
  | .bool x, b, h => by cases b <;> simp_all [agree]
  | .integer x, b, h => by cases b <;> simp_all [agree]
  | .real x, b, h => by cases b <;> simp_all [agree]
  | .text x, b, h => by cases b <;> simp_all [agree]
  | .list xs, b, h => by
    cases b <;> simp only [agree, Bool.false_eq_true] at h
    rw [eq_of_agreeItems xs _ h]
  | .object xs, b, h => by
    cases b <;> simp only [agree, Bool.false_eq_true] at h
    rw [eq_of_agreeFields xs _ h]

theorem eq_of_agreeItems :
    ∀ as bs : List Json, agreeItems (fun x y => x == y) as bs = true → as = bs
  | [], bs, h => by cases bs <;> simp_all [agreeItems]
  | a :: as, bs, h => by
    cases bs <;> simp only [agreeItems, Bool.and_eq_true, Bool.false_eq_true] at h
    rw [eq_of_agree a _ h.1, eq_of_agreeItems as _ h.2]

theorem eq_of_agreeFields :
    ∀ as bs : List (String × Json), agreeFields (fun x y => x == y) as bs = true → as = bs
  | [], bs, h => by cases bs <;> simp_all [agreeFields]
  | (k, a) :: as, bs, h => by
    rcases bs with _ | ⟨⟨l, b⟩, bs⟩ <;>
      simp only [agreeFields, Bool.and_eq_true, beq_iff_eq, Bool.false_eq_true] at h
    rw [h.1.1, eq_of_agree a b h.1.2, eq_of_agreeFields as _ h.2]

end

mutual

theorem agree_self : ∀ a : Json, agree (fun x y => x == y) a a = true
  | .null | .bool _ | .integer _ | .real _ | .text _ => by simp [agree]
  | .list xs => by simp [agree, agreeItems_self xs]
  | .object xs => by simp [agree, agreeFields_self xs]

theorem agreeItems_self : ∀ as : List Json, agreeItems (fun x y => x == y) as as = true
  | [] => rfl
  | a :: as => by simp [agreeItems, agree_self a, agreeItems_self as]

theorem agreeFields_self :
    ∀ as : List (String × Json), agreeFields (fun x y => x == y) as as = true
  | [] => rfl
  | (k, a) :: as => by simp [agreeFields, agree_self a, agreeFields_self as]

end

instance : DecidableEq Json := fun a b =>
  decidable_of_iff (agree (fun x y => x == y) a b = true)
    ⟨eq_of_agree a b, fun h => h ▸ agree_self a⟩

/-- The value of a field, if this is an object that has it. -/
def field? (name : String) : Json → Option Json
  | .object fields => (Keyed.find? Prod.fst name fields).map Prod.snd
  | _ => none

end Json

end ConnectorHub
