import ConnectorHub.Proofs.Filter.PushNot
import ConnectorHub.Scripted.Dialect

namespace ConnectorHub

namespace Dialect

variable {κ : Type}

/-- Each query that a dialect makes finds at least the objects it is made for. `finds q o` says that
the native query `q` finds the object `o`. -/
structure Sound (d : Dialect κ) (finds : κ → ResourceObject → Prop) : Prop where
  test {t : AttributeTest} {negated : Bool} {q : κ} {o : ResourceObject} :
    d.test t negated = some q → t.accepts o = !negated → finds q o
  both {l r q : κ} {o : ResourceObject} : d.both l r = some q → finds l o → finds r o → finds q o
  either {l r q : κ} {o : ResourceObject} :
    d.either l r = some q → finds l o ∨ finds r o → finds q o

/-- Some query finds the object, or there is none and nothing is left out. -/
def Covers (finds : κ → ResourceObject → Prop) (queries : List κ) (o : ResourceObject) : Prop :=
  queries = [] ∨ ∃ q ∈ queries, finds q o

variable {d : Dialect κ} {finds : κ → ResourceObject → Prop} {left right : List κ}
  {o : ResourceObject}

theorem covers_nil : Covers finds [] o := .inl rfl

theorem Covers.exists_mem (h : Covers finds left o) (hne : left ≠ []) : ∃ q ∈ left, finds q o :=
  h.resolve_left hne

theorem mem_of_mapM_eq_some {α β : Type} {f : α → Option β} {xs : List α} {ys : List β} {x : α}
    (h : xs.mapM f = some ys) (hx : x ∈ xs) : ∃ y ∈ ys, f x = some y := by
  induction xs generalizing ys with
  | nil => simp at hx
  | cons a as ih =>
    simp only [List.mapM_cons, Option.bind_eq_bind, Option.bind_eq_some_iff] at h
    obtain ⟨b, hb, bs, hbs, rest⟩ := h
    obtain rfl : b :: bs = ys := Option.some.inj rest
    rcases List.mem_cons.mp hx with rfl | hx
    · exact ⟨b, List.mem_cons_self, hb⟩
    · obtain ⟨y, hy, hxy⟩ := ih hbs hx
      exact ⟨y, List.mem_cons_of_mem _ hy, hxy⟩

theorem mem_of_pairs_eq_some {queries : List κ} {l r : κ} (h : d.pairs left right = some queries)
    (hl : l ∈ left) (hr : r ∈ right) : ∃ q ∈ queries, d.both l r = some q := by
  have hp : (l, r) ∈ left.flatMap fun l => right.map fun r => (l, r) :=
    List.mem_flatMap.mpr ⟨l, hl, List.mem_map.mpr ⟨r, hr, rfl⟩⟩
  have joined := mem_of_mapM_eq_some h hp
  exact joined

variable (hs : d.Sound finds)
include hs

theorem Sound.covers_join (hl : Covers finds left o) (hr : Covers finds right o) :
    Covers finds (d.join left right) o := by
  unfold join
  split
  · exact hr
  split
  · exact hl
  next hne hne' =>
    obtain ⟨l, hl', hlo⟩ := hl.exists_mem (by simpa using hne)
    obtain ⟨r, hr', hro⟩ := hr.exists_mem (by simpa using hne')
    split
    · next queries hq =>
      obtain ⟨q, hqm, hlr⟩ := mem_of_pairs_eq_some hq hl' hr'
      exact .inr ⟨q, hqm, hs.both hlr hlo hro⟩
    · split
      · exact hl
      · exact hr

/-- An object found on either side is found by the queries of both, as long as both have some. -/
theorem Sound.covers_union (h : Covers finds left o ∨ Covers finds right o) :
    Covers finds (d.union left right) o := by
  unfold union
  split
  · exact covers_nil
  next hne =>
    rw [Bool.or_eq_true, not_or, List.isEmpty_iff, List.isEmpty_iff] at hne
    have found : (∃ q ∈ left, finds q o) ∨ ∃ q ∈ right, finds q o :=
      h.imp (·.exists_mem hne.1) (·.exists_mem hne.2)
    have side : Covers finds (left ++ right) o := by
      right
      rcases found with ⟨q, hq, ho⟩ | ⟨q, hq, ho⟩
      · exact ⟨q, List.mem_append_left _ hq, ho⟩
      · exact ⟨q, List.mem_append_right _ hq, ho⟩
    split
    · next l r =>
      split
      · next q hq =>
        refine .inr ⟨q, List.mem_singleton_self q, hs.either hq ?_⟩
        simpa using found
      · exact side
    · exact side

theorem Sound.covers_foldl_join {parts : List (List κ)} (h : Covers finds left o)
    (hp : ∀ part ∈ parts, Covers finds part o) : Covers finds (parts.foldl d.join left) o := by
  induction parts generalizing left with
  | nil => exact h
  | cons part parts ih =>
    obtain ⟨hpart, hp⟩ := List.forall_mem_cons.mp hp
    exact ih (hs.covers_join h hpart) hp

theorem Sound.covers_foldl_union {parts : List (List κ)}
    (h : Covers finds left o ∨ ∃ part ∈ parts, Covers finds part o) :
    Covers finds (parts.foldl d.union left) o := by
  induction parts generalizing left with
  | nil => exact h.resolve_right (by simp)
  | cons part parts ih =>
    rw [List.foldl_cons]
    apply ih
    rcases h with h | ⟨p, hp, ho⟩
    · exact .inl (hs.covers_union (.inl h))
    · rcases List.mem_cons.mp hp with rfl | hp
      · exact .inl (hs.covers_union (.inr ho))
      · exact .inr ⟨p, hp, ho⟩

theorem Sound.covers_test {t : AttributeTest} {negated : Bool} (ho : t.accepts o = !negated) :
    Covers finds (d.test t negated).toList o := by
  cases hq : d.test t negated with
  | none => exact covers_nil
  | some q => exact .inr ⟨q, List.mem_singleton_self q, hs.test hq ho⟩

theorem Sound.covers_queriesOfPushed {f : Filter} (ho : f.accepts o = true) :
    Covers finds (d.queriesOfPushed f) o := by
  induction f with
  | test t => exact hs.covers_test ho
  | and fs ih =>
    rw [Filter.accepts_and] at ho
    rw [queriesOfPushed, queriesOfEach_eq_map]
    cases fs with
    | nil => exact covers_nil
    | cons f fs =>
      have covered := fun g hg => ih g hg (ho g hg)
      refine hs.covers_foldl_join (covered f List.mem_cons_self) fun part hpart => ?_
      obtain ⟨g, hg, rfl⟩ := List.mem_map.mp hpart
      exact covered g (List.mem_cons_of_mem f hg)
  | or fs ih =>
    obtain ⟨g, hg, hgo⟩ := Filter.accepts_or.mp ho
    rw [queriesOfPushed, queriesOfEach_eq_map]
    cases fs with
    | nil => exact covers_nil
    | cons f fs =>
      apply hs.covers_foldl_union
      rcases List.mem_cons.mp hg with rfl | hg'
      · exact .inl (ih g hg hgo)
      · exact .inr ⟨d.queriesOfPushed g, List.mem_map_of_mem hg', ih g hg hgo⟩
  | not f =>
    cases f with
    | test t => exact hs.covers_test (by simpa [Filter.accepts] using ho)
    | and _ | or _ | not _ => exact covers_nil

theorem Sound.covers_queries {f : Filter} (ho : f.accepts o = true) :
    Covers finds (d.queries f) o :=
  hs.covers_queriesOfPushed (by rw [Filter.accepts_pushNot, ho]; rfl)

end Dialect

/-- A scripted dialect asks for an object by a filter, and that filter accepts what it is made for. -/
theorem DialectScript.dialect_sound (s : DialectScript) :
    s.dialect.Sound fun q o => q.accepts o = true where
  test {t negated q o} hq ho := by
    cases negated with
    | false =>
      obtain ⟨-, ⟨⟩⟩ := Option.ite_none_right_eq_some.mp hq
      exact ho
    | true =>
      obtain ⟨-, ⟨⟩⟩ := Option.ite_none_right_eq_some.mp hq
      simpa [Filter.accepts] using ho
  both {l r q o} hq hl hr := by
    obtain ⟨-, ⟨⟩⟩ := Option.ite_none_right_eq_some.mp hq
    simp [Filter.accepts_and, hl, hr]
  either {l r q o} hq ho := by
    obtain ⟨-, ⟨⟩⟩ := Option.ite_none_right_eq_some.mp hq
    simpa [Filter.accepts_or] using ho

/-- A sound dialect has no query for a filter, or one that finds any given object the filter
accepts. -/
theorem Dialect.queries_eq_nil_or_finds {κ : Type} (d : Dialect κ) (finds : κ → ResourceObject → Prop)
    (hs : d.Sound finds) (f : Filter) (o : ResourceObject) (ho : f.accepts o = true) :
    d.queries f = [] ∨ ∃ q ∈ d.queries f, finds q o :=
  hs.covers_queries ho

/-- An account with a mail address. -/
def mailbox (uid mail : String) : ResourceObject where
  objectClass := .account
  uid := ⟨uid⟩
  attributes := (AttributeSet.ofList [.single "mail" (.text mail)]).insert (Uid.toAttribute ⟨uid⟩)
  carries_uid := AttributeSet.uid?_insert_toAttribute _ _

/-- Mailboxes of one address or of one domain, and without a phone, asked for by way of negations. -/
def ofAddressOrDomain : Filter :=
  .not (.or [.present "phone",
    .not (.or [.value .equals "MAIL" (.text "ann@example.com"),
      .value .endsWith "mail" (.text ".org")])])

/-- Joins no disjunctions and knows no phones. -/
def withoutPhones : DialectScript := { DialectScript.full with
  refused := ["phone"]
  either := .never }

theorem ofAddressOrDomain_finds_mailbox :
    ofAddressOrDomain.accepts (mailbox "1" "ann@example.com") = true ∧
      (withoutPhones.dialect.queries ofAddressOrDomain).length = 2 ∧
      (withoutPhones.dialect.queries ofAddressOrDomain = [] ∨
        ∃ q ∈ withoutPhones.dialect.queries ofAddressOrDomain,
          q.accepts (mailbox "1" "ann@example.com") = true) :=
  ⟨by decide, by decide,
    Dialect.queries_eq_nil_or_finds _ _ withoutPhones.dialect_sound _ _ (by decide)⟩

end ConnectorHub
