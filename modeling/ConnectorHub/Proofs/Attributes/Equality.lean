import ConnectorHub.Value
import Mathlib.Data.List.Forall2

namespace ConnectorHub

namespace Json

mutual

theorem agree_comm {eq : Binary64 → Binary64 → Bool} (h : ∀ x y, eq x y = eq y x) :
    ∀ a b : Json, agree eq a b = agree eq b a
  | .null, b => by cases b <;> rfl
  | .bool x, b => by cases b <;> simp [agree, Bool.beq_comm]
  | .integer x, b => by cases b <;> simp [agree, Bool.beq_comm]
  | .real x, b => by cases b <;> simp [agree, h x]
  | .text x, b => by cases b <;> simp [agree, Bool.beq_comm]
  | .list xs, b => by cases b <;> simp [agree, agreeItems_comm h xs]
  | .object xs, b => by cases b <;> simp [agree, agreeFields_comm h xs]

theorem agreeItems_comm {eq : Binary64 → Binary64 → Bool} (h : ∀ x y, eq x y = eq y x) :
    ∀ as bs : List Json, agreeItems eq as bs = agreeItems eq bs as
  | [], bs => by cases bs <;> rfl
  | a :: as, bs => by cases bs <;> simp [agreeItems, agree_comm h a, agreeItems_comm h as]

theorem agreeFields_comm {eq : Binary64 → Binary64 → Bool} (h : ∀ x y, eq x y = eq y x) :
    ∀ as bs : List (String × Json), agreeFields eq as bs = agreeFields eq bs as
  | [], bs => by cases bs <;> rfl
  | (k, a) :: as, bs => by
    rcases bs with _ | ⟨⟨l, b⟩, bs⟩
    · rfl
    · simp [agreeFields, agree_comm h a, agreeFields_comm h as, Bool.beq_comm (a := k)]

end

end Json

theorem Binary64.equals_comm (x y : Binary64) : x.equals y = y.equals x := by
  unfold equals compare?
  rw [Bool.or_comm]
  split
  · rfl
  · rw [Option.some_beq_some, Option.some_beq_some, Bool.eq_iff_iff, beq_iff_eq, beq_iff_eq,
      Int.compare_eq_eq, Int.compare_eq_eq]
    exact eq_comm

theorem Value.equals_comm (u v : Value) : u.equals v = v.equals u := by
  cases u <;> cases v <;>
    simp [equals, Bool.beq_comm, Binary64.equals_comm, Json.agreeFields_comm Binary64.equals_comm]

theorem Value.listEquals_iff {us vs : List Value} :
    listEquals us vs = true ↔ List.Forall₂ (fun u v => u.equals v = true) us vs := by
  induction us generalizing vs with
  | nil => cases vs <;> simp [listEquals]
  | cons u us ih => cases vs <;> simp [listEquals, ih]

end ConnectorHub
