import ConnectorHub.Filter.Basic

namespace ConnectorHub

/-- What a connector can express: queries for tests, plain and negated, and their combinations. -/
structure Dialect (κ : Type) where
  test : AttributeTest → Bool → Option κ
  both : κ → κ → Option κ
  either : κ → κ → Option κ

namespace Filter

mutual

/-- The filter, negated on request, with every negation at a test. -/
def pushNot (negate : Bool) : Filter → Filter
  | .test t => if negate then .not (.test t) else .test t
  | .and fs => if negate then .or (pushNotAll negate fs) else .and (pushNotAll negate fs)
  | .or fs => if negate then .and (pushNotAll negate fs) else .or (pushNotAll negate fs)
  | .not f => pushNot (!negate) f

def pushNotAll (negate : Bool) : List Filter → List Filter
  | [] => []
  | f :: fs => pushNot negate f :: pushNotAll negate fs

end

theorem pushNotAll_eq_map (negate : Bool) (fs : List Filter) :
    pushNotAll negate fs = fs.map (pushNot negate) := by
  induction fs with
  | nil => rfl
  | cons f fs ih => simp [pushNotAll, ih]

end Filter

namespace Dialect

variable {κ : Type} (d : Dialect κ)

/-- Every pair joined, unless one pair cannot be. -/
def pairs (left right : List κ) : Option (List κ) :=
  (left.flatMap fun l => right.map fun r => (l, r)).mapM fun p => d.both p.1 p.2

/-- Conjunction. A side without queries drops out; where two sides cannot be joined the one of fewer
queries stands for both. -/
def join (left right : List κ) : List κ :=
  if left.isEmpty then right
  else if right.isEmpty then left
  else match d.pairs left right with
    | some queries => queries
    | none => if left.length ≤ right.length then left else right

/-- Disjunction. A side without queries leaves none; two single queries that cannot be joined, and
longer sides, stand side by side. -/
def union (left right : List κ) : List κ :=
  if left.isEmpty || right.isEmpty then []
  else match left, right with
    | [l], [r] =>
      match d.either l r with
      | some query => [query]
      | none => [l, r]
    | _, _ => left ++ right

def foldFirst (f : List κ → List κ → List κ) : List (List κ) → List κ
  | [] => []
  | first :: rest => rest.foldl f first

mutual

/-- The queries of a filter whose negations are at tests. -/
def queriesOfPushed : Filter → List κ
  | .test t => (d.test t false).toList
  | .and fs => foldFirst d.join (queriesOfEach fs)
  | .or fs => foldFirst d.union (queriesOfEach fs)
  | .not (.test t) => (d.test t true).toList
  | .not _ => []

def queriesOfEach : List Filter → List (List κ)
  | [] => []
  | f :: fs => queriesOfPushed f :: queriesOfEach fs

end

theorem queriesOfEach_eq_map (fs : List Filter) :
    d.queriesOfEach fs = fs.map d.queriesOfPushed := by
  induction fs with
  | nil => rfl
  | cons f fs ih => simp [queriesOfEach, ih]

def queries (f : Filter) : List κ := d.queriesOfPushed (f.pushNot false)

end Dialect

end ConnectorHub
