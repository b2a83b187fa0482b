import ConnectorHub.Proofs.Filter.PushNot
import Mathlib.Data.List.Basic

namespace ConnectorHub

open Attribute (values)

namespace Filter

mutual

/-- The names of the attributes that are tested. -/
def tested : Filter → List String
  | .test t => [t.name]
  | .and fs => testedInAll fs
  | .or fs => testedInAll fs
  | .not f => tested f

def testedInAll : List Filter → List String
  | [] => []
  | f :: fs => tested f ++ testedInAll fs

end

theorem testedInAll_eq_flatMap (fs : List Filter) : testedInAll fs = fs.flatMap tested := by
  induction fs with
  | nil => rfl
  | cons f fs ih => rw [testedInAll, ih, List.flatMap_cons]

theorem mem_testedInAll {fs : List Filter} {f : Filter} {name : String} (hf : f ∈ fs)
    (h : name ∈ f.tested) : name ∈ testedInAll fs := by
  rw [testedInAll_eq_flatMap]
  exact List.mem_flatMap.mpr ⟨f, hf, h⟩

end Filter

theorem AttributeTest.accepts_congr {t : AttributeTest} {o p : ResourceObject}
    (h : (o.get? t.name).map values = (p.get? t.name).map values) :
    t.accepts o = t.accepts p := by
  have read (holds : List Value → Bool) (q : ResourceObject) :
      ((q.get? t.name).any fun a => holds a.values) = ((q.get? t.name).map values).any holds :=
    Option.any_map.symm
  cases t with
  | compare c expected =>
    exact (read (c.holds expected) o).trans ((congrArg _ h).trans (read _ p).symm)
  | present name =>
    exact (read (!·.isEmpty) o).trans ((congrArg _ h).trans (read _ p).symm)

namespace Filter

theorem accepts_congr {f : Filter} {o p : ResourceObject}
    (h : ∀ name ∈ f.tested, (o.get? name).map values = (p.get? name).map values) :
    f.accepts o = f.accepts p := by
  induction f with
  | test t => exact AttributeTest.accepts_congr (h t.name (List.mem_singleton_self _))
  | and fs ih =>
    have parts (f : Filter) (hf : f ∈ fs) : f.accepts o = f.accepts p :=
      ih f hf fun name mem => h name (mem_testedInAll hf mem)
    rw [accepts, accepts, acceptsAll_eq_all, acceptsAll_eq_all, Bool.eq_iff_iff,
      List.all_eq_true, List.all_eq_true]
    exact forall₂_congr fun f hf => by rw [parts f hf]
  | or fs ih =>
    have parts (f : Filter) (hf : f ∈ fs) : f.accepts o = f.accepts p :=
      ih f hf fun name mem => h name (mem_testedInAll hf mem)
    rw [accepts, accepts, acceptsAny_eq_any, acceptsAny_eq_any, Bool.eq_iff_iff,
      List.any_eq_true, List.any_eq_true]
    exact exists_congr fun f => and_congr_right fun hf => by rw [parts f hf]
  | not f ih => rw [accepts, accepts, ih h]

/-- A change of attributes that keeps their names changes nothing about which are tested. -/
theorem tested_mapAttributes {g : Attribute → Attribute} (named : ∀ a, (g a).name = a.name)
    (f : Filter) : (f.mapAttributes g).tested = f.tested := by
  induction f with
  | test t =>
    cases t with
    | compare c a => exact congrArg (fun name => [name]) (named a)
    | present name => rfl
  | and fs ih | or fs ih =>
    rw [mapAttributes, tested, tested, mapAttributesAll_eq_map, testedInAll_eq_flatMap,
      testedInAll_eq_flatMap, List.flatMap_map]
    exact List.flatMap_congr ih
  | not f ih => exact ih

end Filter

end ConnectorHub
