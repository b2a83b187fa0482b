import ConnectorHub.Proofs.Filter.Coverage
import ConnectorHub.Proofs.Filter.NormalForm
import Mathlib.Tactic.Choose

namespace ConnectorHub

namespace Filter

/-- No conjunction or disjunction is empty, at any depth. -/
inductive Filled : Filter → Prop
  | test (t : AttributeTest) : Filled (.test t)
  | and {fs : List Filter} (ne_nil : fs ≠ []) (parts : ∀ f ∈ fs, Filled f) : Filled (.and fs)
  | or {fs : List Filter} (ne_nil : fs ≠ []) (parts : ∀ f ∈ fs, Filled f) : Filled (.or fs)
  | not {f : Filter} (part : Filled f) : Filled (.not f)

@[simp] theorem filled_test {t : AttributeTest} : (Filter.test t).Filled := .test t

@[simp] theorem filled_not_iff {f : Filter} : (Filter.not f).Filled ↔ f.Filled :=
  ⟨fun | .not part => part, .not⟩

@[simp] theorem filled_and_iff {fs : List Filter} :
    (Filter.and fs).Filled ↔ fs ≠ [] ∧ ∀ f ∈ fs, f.Filled :=
  ⟨fun | .and ne_nil parts => ⟨ne_nil, parts⟩, fun h => .and h.1 h.2⟩

@[simp] theorem filled_or_iff {fs : List Filter} :
    (Filter.or fs).Filled ↔ fs ≠ [] ∧ ∀ f ∈ fs, f.Filled :=
  ⟨fun | .or ne_nil parts => ⟨ne_nil, parts⟩, fun h => .or h.1 h.2⟩

theorem pushNotAll_ne_nil {fs : List Filter} (negate : Bool) (h : fs ≠ []) :
    pushNotAll negate fs ≠ [] := by
  rw [pushNotAll_eq_map]
  simpa using h

theorem filled_pushNot {f : Filter} (h : f.Filled) (negate : Bool) : (f.pushNot negate).Filled := by
  induction h generalizing negate with
  | test t =>
    cases negate with
    | false => exact .test t
    | true => exact .not (.test t)
  | and ne_nil _ ih =>
    have ne_nil := pushNotAll_ne_nil negate ne_nil
    have parts := forall_mem_pushNotAll fun f hf => ih f hf negate
    cases negate with
    | false => exact .and ne_nil parts
    | true => exact .or ne_nil parts
  | or ne_nil _ ih =>
    have ne_nil := pushNotAll_ne_nil negate ne_nil
    have parts := forall_mem_pushNotAll fun f hf => ih f hf negate
    cases negate with
    | false => exact .or ne_nil parts
    | true => exact .and ne_nil parts
  | not _ ih => exact ih (!negate)

end Filter

namespace Dialect

variable {κ : Type}

/-- Every test, plain or negated, has a query that finds exactly the objects it is made for, and any
two queries have an exact conjunction. A disjunction is exact or refused. -/
structure Exact (d : Dialect κ) (finds : κ → ResourceObject → Prop) : Prop where
  test (t : AttributeTest) (negated : Bool) :
    ∃ q, d.test t negated = some q ∧ ∀ o, finds q o ↔ t.accepts o = !negated
  both (l r : κ) : ∃ q, d.both l r = some q ∧ ∀ o, finds q o ↔ finds l o ∧ finds r o
  either {l r q : κ} (made : d.either l r = some q) (o : ResourceObject) :
    finds q o ↔ finds l o ∨ finds r o

/-- There are queries, and between them they find the objects of `P`. -/
structure Express (finds : κ → ResourceObject → Prop) (queries : List κ)
    (P : ResourceObject → Prop) : Prop where
  ne_nil : queries ≠ []
  finds_iff (o : ResourceObject) : (∃ q ∈ queries, finds q o) ↔ P o

variable {d : Dialect κ} {finds : κ → ResourceObject → Prop} {left right : List κ}
  {P Q : ResourceObject → Prop}

theorem Express.congr (h : Express finds left P) (hPQ : ∀ o, P o ↔ Q o) : Express finds left Q :=
  ⟨h.ne_nil, fun o => (h.finds_iff o).trans (hPQ o)⟩

theorem Express.append (hl : Express finds left P) (hr : Express finds right Q) :
    Express finds (left ++ right) fun o => P o ∨ Q o where
  ne_nil := List.append_ne_nil_of_left_ne_nil hl.ne_nil right
  finds_iff o := by
    simp only [List.mem_append, or_and_right, exists_or]
    exact or_congr (hl.finds_iff o) (hr.finds_iff o)

theorem pairs_eq_some {j : κ → κ → κ} (h : ∀ l r, d.both l r = some (j l r)) :
    d.pairs left right = some (left.flatMap fun l => right.map (j l)) := by
  have joined : ∀ p : κ × κ, d.both p.1 p.2 = some (j p.1 p.2) := fun p => h p.1 p.2
  have each : ((left.flatMap fun l => right.map fun r => (l, r)).map fun p => j p.1 p.2) =
      left.flatMap fun l => right.map (j l) := by
    simp [List.map_flatMap, Function.comp_def]
  rw [pairs, funext joined, ← each]
  exact List.mapM_pure

/-- Two sides with queries are joined pair by pair where any two queries can be. -/
theorem join_eq_flatMap {j : κ → κ → κ} (h : ∀ l r, d.both l r = some (j l r)) (hl : left ≠ [])
    (hr : right ≠ []) : d.join left right = left.flatMap fun l => right.map (j l) := by
  rw [join, if_neg (by simpa using hl), if_neg (by simpa using hr), pairs_eq_some h]

section

variable (he : d.Exact finds)
include he

theorem Exact.express_test (t : AttributeTest) (negated : Bool) :
    Express finds (d.test t negated).toList fun o => t.accepts o = !negated := by
  obtain ⟨q, made, finds_iff⟩ := he.test t negated
  rw [made]
  exact ⟨List.cons_ne_nil q [], fun o => by simpa using finds_iff o⟩

theorem Exact.express_join (hl : Express finds left P) (hr : Express finds right Q) :
    Express finds (d.join left right) fun o => P o ∧ Q o := by
  choose j made finds_iff using he.both
  rw [join_eq_flatMap made hl.ne_nil hr.ne_nil]
  constructor
  · obtain ⟨l, hl⟩ := List.exists_mem_of_ne_nil left hl.ne_nil
    obtain ⟨r, hr⟩ := List.exists_mem_of_ne_nil right hr.ne_nil
    exact List.ne_nil_of_mem (List.mem_flatMap.mpr ⟨l, hl, List.mem_map_of_mem hr⟩)
  · intro o
    rw [← hl.finds_iff o, ← hr.finds_iff o]
    constructor
    · rintro ⟨q, hq, ho⟩
      obtain ⟨l, hl, hq⟩ := List.mem_flatMap.mp hq
      obtain ⟨r, hr, rfl⟩ := List.mem_map.mp hq
      obtain ⟨hlo, hro⟩ := (finds_iff l r o).mp ho
      exact ⟨⟨l, hl, hlo⟩, r, hr, hro⟩
    · rintro ⟨⟨l, hl, hlo⟩, r, hr, hro⟩
      exact ⟨j l r, List.mem_flatMap.mpr ⟨l, hl, List.mem_map_of_mem hr⟩,
        (finds_iff l r o).mpr ⟨hlo, hro⟩⟩

theorem Exact.express_union (hl : Express finds left P) (hr : Express finds right Q) :
    Express finds (d.union left right) fun o => P o ∨ Q o := by
  unfold union
  rw [if_neg (by simp [hl.ne_nil, hr.ne_nil])]
  split
  · next l r =>
    split
    · next q made =>
      refine ⟨List.cons_ne_nil q [], fun o => ?_⟩
      rw [← hl.finds_iff o, ← hr.finds_iff o]
      simpa using he.either made o
    · exact hl.append hr
  · exact hl.append hr

variable {α : Type} {queries : α → List κ} {R : α → ResourceObject → Prop} {xs : List α}

theorem Exact.express_foldl_join (h : Express finds left P)
    (hx : ∀ x ∈ xs, Express finds (queries x) (R x)) :
    Express finds ((xs.map queries).foldl d.join left) fun o => P o ∧ ∀ x ∈ xs, R x o := by
  induction xs generalizing left P with
  | nil => simpa using h
  | cons x xs ih =>
    obtain ⟨hx, hxs⟩ := List.forall_mem_cons.mp hx
    refine (ih (he.express_join h hx) hxs).congr fun o => ?_
    rw [List.forall_mem_cons, and_assoc]

theorem Exact.express_foldl_union (h : Express finds left P)
    (hx : ∀ x ∈ xs, Express finds (queries x) (R x)) :
    Express finds ((xs.map queries).foldl d.union left) fun o => P o ∨ ∃ x ∈ xs, R x o := by
  induction xs generalizing left P with
  | nil => simpa using h
  | cons x xs ih =>
    obtain ⟨hx, hxs⟩ := List.forall_mem_cons.mp hx
    refine (ih (he.express_union h hx) hxs).congr fun o => ?_
    simp only [List.mem_cons, exists_eq_or_imp, or_assoc]

theorem Exact.express_queriesOfPushed {f : Filter} (hp : f.Pushed) (hf : f.Filled) :
    Express finds (d.queriesOfPushed f) fun o => f.accepts o = true := by
  induction hp with
  | test t => exact he.express_test t false
  | notTest t =>
    exact (he.express_test t true).congr fun o => by simp [Filter.accepts]
  | and _ ih =>
    obtain ⟨ne_nil, parts⟩ := Filter.filled_and_iff.mp hf
    obtain ⟨g, gs, rfl⟩ := List.exists_cons_of_ne_nil ne_nil
    obtain ⟨hg, hgs⟩ := List.forall_mem_cons.mp fun f hf => ih f hf (parts f hf)
    rw [queriesOfPushed, queriesOfEach_eq_map]
    refine (he.express_foldl_join hg hgs).congr fun o => ?_
    rw [Filter.accepts_and, List.forall_mem_cons]
  | or _ ih =>
    obtain ⟨ne_nil, parts⟩ := Filter.filled_or_iff.mp hf
    obtain ⟨g, gs, rfl⟩ := List.exists_cons_of_ne_nil ne_nil
    obtain ⟨hg, hgs⟩ := List.forall_mem_cons.mp fun f hf => ih f hf (parts f hf)
    rw [queriesOfPushed, queriesOfEach_eq_map]
    refine (he.express_foldl_union hg hgs).congr fun o => ?_
    simp only [Filter.accepts_or, List.mem_cons, exists_eq_or_imp]

theorem Exact.express_queries {f : Filter} (hf : f.Filled) :
    Express finds (d.queries f) fun o => f.accepts o = true :=
  (he.express_queriesOfPushed (f.pushed_pushNot false) (Filter.filled_pushNot hf false)).congr
    fun o => by rw [Filter.accepts_pushNot, Bool.bne_false]

theorem Exact.length_join (hl : left.length = 1) (hr : right.length = 1) :
    (d.join left right).length = 1 := by
  obtain ⟨l, rfl⟩ := List.length_eq_one_iff.mp hl
  obtain ⟨r, rfl⟩ := List.length_eq_one_iff.mp hr
  obtain ⟨q, made, -⟩ := he.both l r
  simp [join, pairs, made]

end

theorem length_foldl {f : List κ → List κ → List κ}
    (hf : ∀ {left right}, left.length = 1 → right.length = 1 → (f left right).length = 1)
    {α : Type} {queries : α → List κ} {xs : List α} (h : left.length = 1)
    (hx : ∀ x ∈ xs, (queries x).length = 1) : ((xs.map queries).foldl f left).length = 1 := by
  induction xs generalizing left with
  | nil => exact h
  | cons x xs ih =>
    obtain ⟨hx, hxs⟩ := List.forall_mem_cons.mp hx
    exact ih (hf h hx) hxs

section

variable (hor : ∀ l r, (d.either l r).isSome)
include hor

theorem length_union (hl : left.length = 1) (hr : right.length = 1) :
    (d.union left right).length = 1 := by
  obtain ⟨l, rfl⟩ := List.length_eq_one_iff.mp hl
  obtain ⟨r, rfl⟩ := List.length_eq_one_iff.mp hr
  obtain ⟨q, made⟩ := Option.isSome_iff_exists.mp (hor l r)
  simp [union, made]

theorem Exact.length_queriesOfPushed (he : d.Exact finds) {f : Filter} (hp : f.Pushed)
    (hf : f.Filled) : (d.queriesOfPushed f).length = 1 := by
  induction hp with
  | test t =>
    obtain ⟨q, made, -⟩ := he.test t false
    simp [queriesOfPushed, made]
  | notTest t =>
    obtain ⟨q, made, -⟩ := he.test t true
    simp [queriesOfPushed, made]
  | and _ ih =>
    obtain ⟨ne_nil, parts⟩ := Filter.filled_and_iff.mp hf
    obtain ⟨g, gs, rfl⟩ := List.exists_cons_of_ne_nil ne_nil
    obtain ⟨hg, hgs⟩ := List.forall_mem_cons.mp fun f hf => ih f hf (parts f hf)
    rw [queriesOfPushed, queriesOfEach_eq_map]
    exact length_foldl he.length_join hg hgs
  | or _ ih =>
    obtain ⟨ne_nil, parts⟩ := Filter.filled_or_iff.mp hf
    obtain ⟨g, gs, rfl⟩ := List.exists_cons_of_ne_nil ne_nil
    obtain ⟨hg, hgs⟩ := List.forall_mem_cons.mp fun f hf => ih f hf (parts f hf)
    rw [queriesOfPushed, queriesOfEach_eq_map]
    exact length_foldl (length_union hor) hg hgs

theorem Exact.length_queries (he : d.Exact finds) {f : Filter} (hf : f.Filled) :
    (d.queries f).length = 1 :=
  he.length_queriesOfPushed hor (f.pushed_pushNot false) (Filter.filled_pushNot hf false)

end

end Dialect

namespace DialectScript

theorem kind_mem_everyKind (t : AttributeTest) : t.kind ∈ everyKind := by
  cases t with
  | compare c a =>
    have listed : c ∈ Comparison.all := by cases c <;> decide
    exact List.mem_append_left _ (List.mem_map_of_mem listed)
  | present name => exact List.mem_append_right _ List.mem_cons_self

/-- With every test expressed and every conjunction joined it makes no difference which disjunctions
are. -/
theorem dialect_full_exact (either : Joining) :
    { full with either := either }.dialect.Exact fun q o => q.accepts o = true where
  test t negated := by
    refine ⟨if negated then .not (.test t) else .test t, ?_, fun o => ?_⟩
    · exact if_pos (by simpa [full] using kind_mem_everyKind t)
    · cases negated <;> simp [Filter.accepts]
  both l r := ⟨.and [l, r], rfl, fun o => by simp [Filter.accepts_and]⟩
  either {l r q} made o := by
    obtain ⟨-, ⟨⟩⟩ := Option.ite_none_right_eq_some.mp made
    simp [Filter.accepts_or]

end DialectScript

/-- An exact dialect has queries for every filter without empty parts, and an object is found by one
of them just when the filter accepts it. If it joins every disjunction there is one query. -/
theorem Dialect.queries_find_exactly {κ : Type} (d : Dialect κ) (finds : κ → ResourceObject → Prop)
    (he : d.Exact finds) (f : Filter) (hf : f.Filled) :
    d.queries f ≠ [] ∧ (∀ o, (∃ q ∈ d.queries f, finds q o) ↔ f.accepts o = true) ∧
      ((∀ l r, (d.either l r).isSome) → (d.queries f).length = 1) :=
  have express := he.express_queries hf
  ⟨express.ne_nil, express.finds_iff, fun hor => he.length_queries hor hf⟩

theorem filled_ofAddressOrDomain : ofAddressOrDomain.Filled := by
  simp [ofAddressOrDomain, Filter.present, Filter.value, Filter.compare]

/-- One query where disjunctions are joined, and the two sides of one disjunction each with the rest
of the conjunction where they are not. -/
theorem ofAddressOrDomain_found_exactly :
    let whole := DialectScript.full.dialect.queries ofAddressOrDomain
    let split := { DialectScript.full with either := .never }.dialect.queries ofAddressOrDomain
    (whole.length = 1 ∧ split.length = 2) ∧
      ∀ o : ResourceObject, ((∃ q ∈ whole, q.accepts o = true) ↔ ∃ q ∈ split, q.accepts o = true) ∧
        ((∃ q ∈ split, q.accepts o = true) ↔ ofAddressOrDomain.accepts o = true) := by
  have whole := Dialect.queries_find_exactly _ _ (DialectScript.dialect_full_exact .always)
    ofAddressOrDomain filled_ofAddressOrDomain
  have split := Dialect.queries_find_exactly _ _ (DialectScript.dialect_full_exact .never)
    ofAddressOrDomain filled_ofAddressOrDomain
  exact ⟨⟨whole.2.2 fun _ _ => rfl, by decide⟩,
    fun o => ⟨(whole.2.1 o).trans (split.2.1 o).symm, split.2.1 o⟩⟩

end ConnectorHub
