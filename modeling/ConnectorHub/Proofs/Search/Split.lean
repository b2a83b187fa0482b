import ConnectorHub.Proofs.Attributes.Object
import ConnectorHub.Proofs.Search.Pipeline

namespace ConnectorHub

/-- How far a search of several queries has come: of the objects streamed, these were met before the
caller wanted no more. -/
structure Sifted (n : Normalizer) (f : Option Filter) (names : Option (List String))
    (streamed met : List ResourceObject) (seen : Seen) (calls : List (ResourceObject × Bool)) :
    Prop where
  within : met <+: streamed
  known : seen.uids = seenAfter [] met
  called : calls.map Prod.fst = (firsts [] met).filterMap (passed n f names)
  going : seen.wanting = true → met = streamed ∧ ∀ c ∈ calls, c.2 = true
  halting : Halting calls

namespace Sifted

variable {n : Normalizer} {f : Option Filter} {names : Option (List String)}
  {streamed met : List ResourceObject} {uids : List String}
  {calls : List (ResourceObject × Bool)}

theorem start : Sifted n f names [] [] {} [] where
  within := List.prefix_rfl
  known := rfl
  called := rfl
  going _ := ⟨rfl, fun _ hc => absurd hc List.not_mem_nil⟩
  halting := List.Pairwise.nil

theorem refuse (sifted : Sifted n f names streamed met ⟨uids, false⟩ calls) (o : ResourceObject) :
    Sifted n f names (streamed ++ [o]) met ⟨uids, false⟩ calls :=
  { sifted with
    within := sifted.within.trans (List.prefix_append _ _)
    going := nofun }

section

variable (sifted : Sifted n f names met met ⟨uids, true⟩ calls) {o : ResourceObject}
include sifted

theorem answered : ∀ c ∈ calls, c.2 = true := (sifted.going rfl).2

/-- An object of a uid that was met before is passed over. -/
theorem again (known : uids.contains o.uid.value = true) :
    Sifted n f names (met ++ [o]) (met ++ [o]) ⟨uids, true⟩ calls := by
  obtain rfl : uids = seenAfter [] met := sifted.known
  refine { sifted with within := List.prefix_rfl, known := ?_, called := ?_, going := ?_ }
  · rw [seenAfter_concat, if_pos known]
  · rw [firsts_concat, if_pos known]
    exact sifted.called
  · exact fun _ => ⟨rfl, sifted.answered⟩

variable (new : ¬uids.contains o.uid.value = true)
include new

theorem drop (dropped : passed n f names o = none) :
    Sifted n f names (met ++ [o]) (met ++ [o]) ⟨o.uid.value :: uids, true⟩ calls := by
  obtain rfl : uids = seenAfter [] met := sifted.known
  refine { sifted with within := List.prefix_rfl, known := ?_, called := ?_, going := ?_ }
  · rw [seenAfter_concat, if_neg new]
  · rw [firsts_concat, if_neg new, List.filterMap_append, List.filterMap_cons_none dropped]
    exact sifted.called.trans (List.append_nil _).symm
  · exact fun _ => ⟨rfl, sifted.answered⟩

theorem call {p : ResourceObject} (handed : passed n f names o = some p) (more : Bool) :
    Sifted n f names (met ++ [o]) (met ++ [o]) ⟨o.uid.value :: uids, more⟩
      (calls ++ [(p, more)]) := by
  obtain rfl : uids = seenAfter [] met := sifted.known
  refine ⟨List.prefix_rfl, ?_, ?_, ?_, halting_concat sifted.answered⟩
  · rw [seenAfter_concat, if_neg new]
  · rw [firsts_concat, if_neg new, List.filterMap_append, List.filterMap_cons_some handed,
      List.map_append, sifted.called]
    rfl
  · rintro rfl
    exact ⟨rfl, answered_concat sifted.answered rfl⟩

end

/-- The chain of a search of several queries, when these objects were streamed. -/
def Behind (n : Normalizer) (f : Option Filter) (names : Option (List String))
    {ρ : Type} (streamed : List ResourceObject)
    (c : List Stage × (ρ × List (ResourceObject × Bool))) : Prop :=
  ∃ seen met, c.1 = .distinct seen :: Instance.searchStages n f names ∧
    Sifted n f names streamed met seen c.2.2

theorem push {ρ : Type} (h : Handler ρ ResourceObject)
    {c : List Stage × (ρ × List (ResourceObject × Bool))}
    (behind : Behind n f names streamed c) (o : ResourceObject) :
    Behind n f names (streamed ++ [o]) (ResultChain.handler (recorded h) o c).2 := by
  obtain ⟨stages, r, calls⟩ := c
  obtain ⟨⟨uids, wanting⟩, met, rfl, sifted⟩ := behind
  -- Once the caller has wanted no more the stage swallows the rest, and `met` falls behind.
  cases wanting with
  | false => exact ⟨⟨uids, false⟩, met, rfl, sifted.refuse o⟩
  | true =>
    obtain ⟨rfl, -⟩ := sifted.going rfl
    rw [ResultChain.handler, ResultChain.push_distinct]
    split
    next known => exact ⟨_, _, rfl, sifted.again known⟩
    next new =>
      rw [ResultChain.push_searchStages]
      cases handed : passed n f names o with
      | none => exact ⟨_, _, rfl, sifted.drop new handed⟩
      | some p => exact ⟨_, _, rfl, sifted.call new handed _⟩

end Sifted

namespace Instance

open ConnectorHub.Action

variable {σ κ ρ : Type} {i : Instance σ κ} {oc : ObjectClass} {options : Options}

theorem runQueries_sifts (i : Instance σ κ) (oc : ObjectClass) (options : Options)
    (f : Option Filter) (h : Handler ρ ResourceObject) {queries : List κ}
    (several : 2 ≤ queries.length) (s : Site σ κ) (r : ρ) :
    let c := i.runQueries oc (recorded h) options
      (searchStages (i.normalizer oc) f options.attributesToGet) queries (s, (r, []))
    ∃ os met seen, c.2.1.Shows Entry.object? s.journal os ∧
      Sifted (i.normalizer oc) f options.attributesToGet os met seen c.2.2.2 := by
  have start : Sifted.Behind (i.normalizer oc) f options.attributesToGet []
      (.fresh :: searchStages (i.normalizer oc) f options.attributesToGet, (r, [])) :=
    ⟨{}, [], rfl, .start⟩
  obtain ⟨os, chain, shows, seen, met, -, sifted⟩ :=
    runQueries_of_pushed (J := Sifted.Behind (i.normalizer oc) f options.attributesToGet)
      (fun _ _ o behind => Sifted.push h behind o) i oc options several s start
  exact ⟨os, met, seen, shows, sifted⟩

/-- Of the objects that a search of several queries is streamed, the caller sees what comes of the
first of each uid. -/
theorem ComesTo.sifts {f : Option Filter} {queries : List κ} {s t : Site σ κ}
    (comes : i.ComesTo oc f options s queries t) (several : 2 ≤ queries.length)
    (h : Handler ρ ResourceObject) (r : ρ) :
    ∃ os met seen, (i.search oc f h options (s, r)).2.1.Shows Entry.object? s.journal os ∧
      Sifted (i.normalizer oc) (f.map (i.normalizer oc).onFilter) options.attributesToGet os met
        seen (i.callsIn oc f h options s r) := by
  obtain ⟨os, met, seen, shows, sifted⟩ :=
    i.runQueries_sifts oc options (f.map (i.normalizer oc).onFilter) h several t r
  rw [search_recorded, callsIn, comes.search_eq]
  exact ⟨os, met, seen, comes.shows.append shows, sifted⟩

/-- If the objects have different uids in their normal forms, so has what is presented of them. -/
theorem pairwise_uid_presented {f : Option Filter} {os : List ResourceObject}
    (apart : os.Pairwise fun o p =>
      ((i.normalizer oc).onObject o).uid ≠ ((i.normalizer oc).onObject p).uid) :
    (i.presented oc f options os).Pairwise fun o p => o.uid ≠ p.uid := by
  rw [presented, List.pairwise_map]
  simp only [ResourceObject.uid_projectAll]
  have normal : (os.map (i.normalizer oc).onObject).Pairwise fun o p => o.uid ≠ p.uid :=
    List.pairwise_map.mpr apart
  exact normal.filter _

/-- A search of several queries hands over nothing twice that was streamed under one uid. Two of the
objects that it hands over have one uid only if the normalizer gives one to objects of different
uids. -/
theorem search_apart {f : Option Filter} {queries : List κ} {s t : Site σ κ}
    (comes : i.ComesTo oc f options s queries t) (several : 2 ≤ queries.length)
    (h : Handler ρ ResourceObject) (r : ρ) :
    ∃ os kept, (i.search oc f h options (s, r)).2.1.Shows Entry.object? s.journal os ∧
      kept.Sublist os ∧ (kept.Pairwise fun o p => o.uid ≠ p.uid) ∧
      (i.callsIn oc f h options s r).map Prod.fst = i.presented oc f options kept ∧
      ((∀ o ∈ os, ∀ p ∈ os,
          ((i.normalizer oc).onObject o).uid = ((i.normalizer oc).onObject p).uid → o.uid = p.uid) →
        (i.callsIn oc f h options s r).Pairwise fun c d => c.1.uid ≠ d.1.uid) := by
  obtain ⟨os, met, seen, shows, sifted⟩ := comes.sifts several h r
  have sub : (firsts [] met).Sublist os := (firsts_sublist [] met).trans sifted.within.sublist
  have apart := pairwise_uid_firsts [] met
  have called := sifted.called
  rw [filterMap_passed_eq_presented] at called
  refine ⟨os, firsts [] met, shows, sub, apart, called, fun separates => ?_⟩
  have normal : (i.presented oc f options (firsts [] met)).Pairwise fun o p => o.uid ≠ p.uid :=
    pairwise_uid_presented (apart.imp_of_mem fun ho hp different same =>
      different (separates _ (sub.subset ho) _ (sub.subset hp) same))
  rw [← called] at normal
  have calls := List.pairwise_map.mp normal
  exact calls

end Instance

/-- A resource whose uids have a normal form, in lower case. Its searches find every mailbox. -/
def foldedUids (uids : List String) : ConnectorScript := { mailScript withoutPhones true with
  rules := some [⟨some Attribute.uidName, none, .lower⟩]
  objects := uids.map fun uid => mailbox uid "ann@example.com" }

def foldedUidsSite (uids : List String) : Site Resources Filter where
  resource := [.ofScript (foldedUids uids)]

theorem foldedUids_comesTo (uids : List String) :
    ∃ queries t, (mailInstance (foldedUids uids)).ComesTo .account (some ofAddressOrDomain) mailOnly
      (foldedUidsSite uids) queries t ∧ 2 ≤ queries.length := by
  have capable : (mailInstance (foldedUids uids)).capabilities.contains .search = true :=
    show (CapabilitySet.ofList [.search]).contains .search = true by decide
  have required : ((mailInstance (foldedUids uids)).require .search (foldedUidsSite uids)).1 =
      .ok () := by
    rw [Instance.require, if_pos capable]
    rfl
  refine ⟨_, _, ⟨_, Prod.ext required rfl, rfl⟩, ?_⟩
  have split : (withoutPhones.dialect.queries (Normalizer.onFilter
      ⟨.account, some (EditRule.normalRule [⟨some Attribute.uidName, none, .lower⟩])⟩
      ofAddressOrDomain)).length = 2 := by decide +kernel
  exact split.ge

/-- The caller's calls in a search of the mailboxes, if it takes everything. -/
def foldedUidsCalls (uids : List String) : List (ResourceObject × Bool) :=
  (mailInstance (foldedUids uids)).callsIn .account (some ofAddressOrDomain) gather mailOnly
    (foldedUidsSite uids) []

/-- Where no two uids have one normal form, none is handed over twice. -/
theorem foldedUids_apart :
    ∃ queries t, (mailInstance (foldedUids ["A", "b", "C"])).ComesTo .account
        (some ofAddressOrDomain) mailOnly (foldedUidsSite ["A", "b", "C"]) queries t ∧
      2 ≤ queries.length ∧
      (foldedUidsCalls ["A", "b", "C"]).map (fun c => c.1.uid.value) = ["a", "b", "c"] ∧
      (foldedUidsCalls ["A", "b", "C"]).Pairwise fun c d => c.1.uid ≠ d.1.uid := by
  obtain ⟨queries, t, comes, several⟩ := foldedUids_comesTo ["A", "b", "C"]
  refine ⟨queries, t, comes, several, by decide +kernel, ?_⟩
  obtain ⟨os, kept, ⟨es, journal, rfl⟩, -, -, -, apart⟩ :=
    Instance.search_apart comes several gather []
  refine apart ?_
  obtain rfl := journal
  decide +kernel

/-- Two uids that differ in their case only are two to the search and one to its caller. -/
theorem foldedUids_twice :
    ¬∀ (i : Instance Resources Filter) (oc : ObjectClass) (f : Option Filter) (options : Options)
      (s t : Site Resources Filter) (queries : List Filter),
      i.ComesTo oc f options s queries t → 2 ≤ queries.length →
        (i.callsIn oc f gather options s []).Pairwise fun c d => c.1.uid ≠ d.1.uid := by
  intro apart
  obtain ⟨queries, t, comes, several⟩ := foldedUids_comesTo ["A", "a"]
  have once : (foldedUidsCalls ["A", "a"]).Pairwise fun c d => c.1.uid ≠ d.1.uid :=
    apart _ _ _ _ _ t queries comes several
  have twice : ¬(foldedUidsCalls ["A", "a"]).Pairwise fun c d => c.1.uid ≠ d.1.uid := by
    decide +kernel
  exact twice once

end ConnectorHub
