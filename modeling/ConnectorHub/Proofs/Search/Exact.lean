import ConnectorHub.Proofs.Search.Serves
import ConnectorHub.Proofs.Search.Stream
import Mathlib.Data.List.Nodup

namespace ConnectorHub.Instance

variable {σ κ τ μ : Type}

theorem filterMap_passed_of_plain {n : Normalizer} (hn : n.rule = none) (f : Option Filter)
    (names : Option (List String)) (os : List ResourceObject) :
    os.filterMap (passed n f names) = (os.filter (accepted f)).map (projectAll names) := by
  have unchanged (o : ResourceObject) : n.onObject o = o := by rw [Normalizer.onObject, hn]
  simp only [filterMap_passed, unchanged]

theorem eq_of_uid_eq {objects : List ResourceObject} (distinct : (objects.map (·.uid)).Nodup)
    {o p : ResourceObject} (ho : o ∈ objects) (hp : p ∈ objects) (h : o.uid = p.uid) : o = p :=
  List.inj_on_of_nodup_map distinct ho hp h

theorem filter_perm_filter {p : ResourceObject → Bool} {os objects : List ResourceObject}
    (hos : os.Nodup) (hobjects : objects.Nodup) (only : ∀ o ∈ os, o ∈ objects)
    (all : ∀ o ∈ objects, p o = true → o ∈ os) : (os.filter p).Perm (objects.filter p) := by
  refine (List.perm_ext_iff_of_nodup (hos.filter p) (hobjects.filter p)).mpr fun o => ?_
  rw [List.mem_filter, List.mem_filter]
  exact ⟨fun ⟨ho, hp⟩ => ⟨only o ho, hp⟩, fun ⟨ho, hp⟩ => ⟨all o ho hp, hp⟩⟩

/-- To a caller that takes everything the search hands these objects in this order, and it ends
well. -/
def Delivers (i : Instance σ κ) (oc : ObjectClass) (f : Option Filter) (options : Options)
    (s : Site σ κ) (received : List ResourceObject) : Prop :=
  ∀ {ρ : Type} (h : Handler ρ ResourceObject), Eager h → ∀ r,
    ∃ t, i.search oc f h options (s, r) = (.ok (), (t, taken h received r))

section

variable {i : Instance σ κ} {oc : ObjectClass} {options : Options} {d : Dialect κ}
  {finds : κ → ResourceObject → Prop} {live : σ → Prop} {objects : List ResourceObject}
  (hi : i.Serves oc options d finds live objects)
include hi

theorem Serves.require_search {s : Site σ κ} (hs : live s.resource) :
    ∃ t, i.require .search s = (.ok (), t) ∧ live t.resource := by
  obtain ⟨t, provided, ht⟩ := hi.provides hs
  refine ⟨{ s with resource := t }, ?_, ht⟩
  have asked : i.connector.asks i.id .search s = (.ok true, { s with resource := t }) := by
    simp [Connector.asks, Site.onResource, Action.zoom, provided]
  rw [require, if_pos hi.capable, Action.bind_of_ok asked]
  rfl

theorem Serves.nativeQueries_run {s : Site σ κ} (f : Option Filter) (hs : live s.resource) :
    ∃ t, i.nativeQueries oc options f s = (.ok ((f.map d.queries).getD []), t) ∧
      live t.resource := by
  cases f with
  | none => exact ⟨s, rfl, hs⟩
  | some f =>
    obtain ⟨t, translated, ht⟩ := hi.translate (f := f) hs
    refine ⟨{ s with
      resource := t
      journal := s.journal ++ [.translated i.id oc f options] }, ?_, ht⟩
    simp [nativeQueries, Instance.translate, Action.bind_apply, Site.write,
      Site.onResource, Action.zoom, translated]

theorem Serves.streamed_run (queries : List κ) {s : σ} (hs : live s) :
    ∃ os t, i.streamed oc options (queries.map some) s = (os, (.ok (), t)) ∧
      (∀ o ∈ os, o ∈ objects) ∧ ∀ q ∈ queries, ∀ o ∈ objects, finds q o → o ∈ os := by
  induction queries generalizing s with
  | nil => exact ⟨[], s, rfl, by simp, by simp⟩
  | cons q rest ih =>
    obtain ⟨t, ended, ht⟩ := hi.ends (q := some q) hs
    obtain ⟨os, u, later, only, found⟩ := ih ht
    refine ⟨(i.connector.query i.id oc (some q) options s).items ++ os, u, ?_, ?_, ?_⟩
    · rw [List.map_cons, streamed]
      simp only [ended, later]
    · intro o ho
      exact (List.mem_append.mp ho).elim (hi.only hs) (only o)
    · intro p hp o ho hpo
      rcases List.mem_cons.mp hp with rfl | hp
      · exact List.mem_append_left _ (hi.found hs ho hpo)
      · exact List.mem_append_right _ (found p hp o ho hpo)

/-- What the stages get to see of the queries' stream: objects, none of them twice, and all that the
filter accepts. -/
theorem Serves.considered_exact (distinct : (objects.map (·.uid)).Nodup) (f : Option Filter) {s : σ}
    (hs : live s) :
    let queries := (f.map d.queries).getD []
    ∃ os t, i.streamed oc options (runs queries) s = (os, (.ok (), t)) ∧
      (considered queries os).Nodup ∧ (∀ o ∈ considered queries os, o ∈ objects) ∧
      ∀ o ∈ objects, accepted f o = true → o ∈ considered queries os := by
  intro queries
  have covered (o : ResourceObject) (ha : accepted f o = true) (hne : queries ≠ []) :
      ∃ q ∈ queries, finds q o := by
    cases f with
    | none => exact absurd rfl hne
    | some f => exact (hi.sound.covers_queries ha).exists_mem hne
  match hq : queries with
  | [] =>
    obtain ⟨t, ended, -⟩ := hi.ends (q := none) hs
    have all := hi.unrestricted hs
    refine ⟨_, t, (streamed_singleton none s).trans (by rw [ended]), ?_, ?_, ?_⟩
    · exact all.nodup_iff.mpr distinct.of_map
    · exact fun o ho => all.mem_iff.mp ho
    · exact fun o ho _ => all.mem_iff.mpr ho
  | [q] =>
    obtain ⟨t, ended, -⟩ := hi.ends (q := some q) hs
    refine ⟨_, t, (streamed_singleton (some q) s).trans (by rw [ended]), hi.once hs,
      fun o ho => hi.only hs ho, fun o ho ha => ?_⟩
    obtain ⟨p, hp, hpo⟩ := covered o ha (by simp)
    obtain rfl := List.mem_singleton.mp hp
    exact hi.found hs ho hpo
  | q :: q' :: rest =>
    obtain ⟨os, t, run, only, found⟩ := hi.streamed_run (q :: q' :: rest) hs
    have sub := firsts_sublist [] os
    refine ⟨os, t, run, ?_, fun o ho => only o (sub.subset ho), fun o ho ha => ?_⟩
    · exact (pairwise_uid_firsts [] os).imp fun hne he => hne (congrArg _ he)
    · obtain ⟨p, hp, hpo⟩ := covered o ha (by simp)
      obtain ⟨o', ho', he⟩ := exists_mem_firsts (found p hp o ho hpo) List.not_mem_nil
      obtain rfl := eq_of_uid_eq distinct (only o' (sub.subset ho')) ho he
      exact ho'

theorem Serves.delivers (distinct : (objects.map (·.uid)).Nodup) (f : Option Filter)
    {s : Site σ κ} (hs : live s.resource) :
    ∃ received, i.Delivers oc f options s received ∧
      received.Perm ((objects.filter (accepted f)).map (projectAll options.attributesToGet)) := by
  obtain ⟨t, required, ht⟩ := hi.require_search hs
  obtain ⟨u, translated, hu⟩ := hi.nativeQueries_run f ht
  obtain ⟨os, v, run, nodup, only, all⟩ := hi.considered_exact distinct f hu
  have unchanged : f.map (i.normalizer oc).onFilter = f := by
    have plain : (i.normalizer oc).rule = none := hi.plain
    cases f with
    | none => rfl
    | some f => rw [Option.map_some, Normalizer.onFilter, plain]
  have filtered := filter_perm_filter nodup distinct.of_map only all
  refine ⟨_, fun {ρ} h hh r => ?_, filtered.map _⟩
  have comes : i.ComesTo oc f options s ((f.map d.queries).getD []) u :=
    ⟨t, required, by rw [unchanged]; exact translated⟩
  obtain ⟨w, found, -⟩ := search_of_eager hh comes (r := r) run
  rw [unchanged, filterMap_passed_of_plain hi.plain] at found
  exact ⟨w, found⟩

end

/-- Two instances that search the same objects deliver the same: the objects that the filter accepts,
each once and in the form that was asked for. -/
theorem search_delivers_accepted {i : Instance σ κ} {j : Instance τ μ} {oc : ObjectClass}
    {options : Options} {d : Dialect κ} {e : Dialect μ} {finds : κ → ResourceObject → Prop}
    {finds' : μ → ResourceObject → Prop} {live : σ → Prop} {live' : τ → Prop}
    {objects : List ResourceObject} (distinct : (objects.map (·.uid)).Nodup)
    (hi : i.Serves oc options d finds live objects) (hj : j.Serves oc options e finds' live' objects)
    (f : Option Filter) {s : Site σ κ} {t : Site τ μ} (hs : live s.resource)
    (ht : live' t.resource) :
    ∃ received other,
      i.Delivers oc f options s received ∧ j.Delivers oc f options t other ∧
      received.Perm ((objects.filter (accepted f)).map (projectAll options.attributesToGet)) ∧
      received.Perm other := by
  obtain ⟨received, delivered, perm⟩ := hi.delivers distinct f hs
  obtain ⟨other, delivered', perm'⟩ := hj.delivers distinct f ht
  exact ⟨received, other, delivered, delivered', perm, perm.trans perm'.symm⟩

end ConnectorHub.Instance

namespace ConnectorHub

def mailboxes : List ResourceObject :=
  [mailbox "1" "ann@example.com", mailbox "2" "bob@example.org", mailbox "3" "cy@example.com"]

/-- A resource of mailboxes that is asked in a dialect; its searches may find every mailbox. -/
def mailScript (dialect : DialectScript) (overmatch : Bool) : ConnectorScript where
  key := ⟨"mail", "1", "Mail"⟩
  dialect := dialect
  overmatch := overmatch
  objects := mailboxes

def mailInstance (s : ConnectorScript) : Instance Resources Filter where
  id := 0
  connector := s.fullConnector 0
  capabilities := .ofList [.search]
  rule := s.rules.map EditRule.normalRule

theorem mailScript_steady (dialect : DialectScript) (overmatch : Bool) :
    (mailScript dialect overmatch).Steady where
  plain := rfl
  faultless := rfl
  searches := show Capability.all.contains .search = true by decide
  keeps := rfl
  prompt := rfl

theorem mailInstance_serves (dialect : DialectScript) (overmatch : Bool) (options : Options) :
    (mailInstance (mailScript dialect overmatch)).Serves .account options dialect.dialect
      (fun q o => q.accepts o = true) (ConnectorScript.Holds 0 .account mailboxes) mailboxes :=
  (mailScript_steady dialect overmatch).serves rfl rfl
    (show (CapabilitySet.ofList [.search]).contains .search = true by decide) (by decide)

def mailSite : Site Resources Filter := { resource := [{ objects := mailboxes }] }

def mailOnly : Options := { attributesToGet := some ["MAIL"] }

/-- A filter that makes one query in one dialect and two in the other, to a resource that answers
each of them with every mailbox. -/
theorem search_delivers_mailboxes :
    (DialectScript.full.dialect.queries ofAddressOrDomain).length = 1 ∧
      (withoutPhones.dialect.queries ofAddressOrDomain).length = 2 ∧
      (mailboxes.map (·.uid)).Nodup ∧
      ConnectorScript.Holds 0 .account mailboxes mailSite.resource ∧
      ∃ received other,
        (mailInstance (mailScript .full false)).Delivers .account (some ofAddressOrDomain) mailOnly
          mailSite received ∧
        (mailInstance (mailScript withoutPhones true)).Delivers .account (some ofAddressOrDomain)
          mailOnly mailSite other ∧
        received.Perm ((mailboxes.filter (accepted (some ofAddressOrDomain))).map
          (projectAll mailOnly.attributesToGet)) ∧
        received.Perm other := by
  have distinct : (mailboxes.map (·.uid)).Nodup := by decide
  have held : ConnectorScript.Holds 0 .account mailboxes mailSite.resource := by
    rw [ConnectorScript.Holds]
    rfl
  exact ⟨by decide, by decide, distinct, held,
    Instance.search_delivers_accepted distinct (mailInstance_serves .full false mailOnly)
      (mailInstance_serves withoutPhones true mailOnly) (some ofAddressOrDomain) held held⟩

end ConnectorHub
