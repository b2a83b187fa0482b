import ConnectorHub.Filter.Native
import ConnectorHub.Json.Document

namespace ConnectorHub

/-- When two queries can be joined: by the attributes that their first tests name. -/
inductive Joining where
  | always
  | never
  | same
  | distinct
  deriving DecidableEq, Repr

namespace Filter

mutual

/-- The attribute that the first test names; there is none in an empty conjunction or disjunction. -/
def leadName : Filter → String
  | .test t => t.name
  | .and fs => leadNameOf fs
  | .or fs => leadNameOf fs
  | .not f => leadName f

def leadNameOf : List Filter → String
  | [] => ""
  | f :: _ => leadName f

end

end Filter

namespace Joining

def ofDocument? : Json → Option Joining
  | .text "always" => some always
  | .text "never" => some never
  | .text "same" => some same
  | .text "distinct" => some distinct
  | _ => none

def allows (j : Joining) (l r : Filter) : Bool :=
  match j with
  | always => true
  | never => false
  | same => l.leadName == r.leadName
  | distinct => l.leadName != r.leadName

end Joining

/-- What a scripted dialect can express. -/
structure DialectScript where
  plain : List String
  negated : List String
  refused : List String := []
  both : Joining := .always
  either : Joining := .always

namespace DialectScript

def everyKind : List String := Comparison.all.map Comparison.name ++ ["present"]

/-- Expresses and joins everything. -/
def full : DialectScript := { plain := everyKind, negated := everyKind }

/-- Expresses nothing. -/
def bare : DialectScript := { plain := [], negated := [], both := .never, either := .never }

/-- Expresses comparisons for equality only. -/
def equalsOnly : DialectScript :=
  { plain := ["equals"], negated := ["equals"], both := .never, either := .never }

/-- A known dialect by its name, or one told field by field. -/
def ofDocument? : Json → Option DialectScript
  | .text "bare" => some bare
  | .text "equals_only" => some equalsOnly
  | .object fields => do
    let texts := Document.list? Document.text?
    let plain ← Document.withDefault fields "leaf" everyKind texts
    let negated ← Document.withDefault fields "not" everyKind texts
    let refused ← Document.withDefault fields "refuse" [] texts
    let both ← Document.withDefault fields "and" .always Joining.ofDocument?
    let either ← Document.withDefault fields "or" .always Joining.ofDocument?
    pure { plain, negated, refused, both, either }
  | _ => none

def dialect (s : DialectScript) : Dialect Filter where
  test t negated :=
    if (if negated then s.negated else s.plain).contains t.kind && !s.refused.contains t.name then
      some (if negated then .not (.test t) else .test t)
    else none
  both l r := if s.both.allows l r then some (.and [l, r]) else none
  either l r := if s.either.allows l r then some (.or [l, r]) else none

end DialectScript

end ConnectorHub
