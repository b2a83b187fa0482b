import ConnectorHub.Proofs.Search.Exact
import ConnectorHub.Proofs.Search.Record

namespace ConnectorHub

namespace Instance

variable {σ κ ρ : Type}

/-- What a search makes of the objects it considers: each is normalized, those are left that the
filter accepts in its own normal form, and they are projected. -/
def presented (i : Instance σ κ) (oc : ObjectClass) (f : Option Filter) (options : Options)
    (os : List ResourceObject) : List ResourceObject :=
  ((os.map (i.normalizer oc).onObject).filter (accepted (f.map (i.normalizer oc).onFilter))).map
    (projectAll options.attributesToGet)

theorem filterMap_passed_eq_presented (i : Instance σ κ) (oc : ObjectClass) (f : Option Filter)
    (options : Options) (os : List ResourceObject) :
    os.filterMap (passed (i.normalizer oc) (f.map (i.normalizer oc).onFilter)
      options.attributesToGet) = i.presented oc f options os := by
  rw [filterMap_passed, presented, List.filter_map, List.map_map]
  rfl

/-- A search is refused for want of the capability, or it calls the caller with what it makes of the
stream of its queries: of all of it if there is one query or none, and otherwise of the first object
of each uid, as the connector streamed it. -/
theorem search_pipeline (i : Instance σ κ) (oc : ObjectClass) (f : Option Filter)
    {h : Handler ρ ResourceObject} (hh : Eager h) (options : Options) (s : Site σ κ) (r : ρ) :
    (∃ why t, i.require .search s = (.error why, t) ∧
      i.search oc f h options (s, r) = (.error why, (t, r))) ∨
    ∃ queries t os ended u, i.ComesTo oc f options s queries t ∧
      i.streamed oc options (runs queries) t.resource = (os, ended) ∧
      u.Shows Entry.object? s.journal os ∧
      i.search oc f h options (s, r) =
        (ended.1, (u, taken h (i.presented oc f options (considered queries os)) r)) ∧
      i.callsIn oc f h options s r =
        (i.presented oc f options (considered queries os)).map fun o => (o, true) := by
  obtain ⟨why, t, refused⟩ | ⟨queries, t, comes⟩ := i.refused_or_comesTo oc f options s
  · exact .inl ⟨why, t, refused, search_of_refused f r refused⟩
  · cases streams : i.streamed oc options (runs queries) t.resource with
    | mk os ended =>
      have pipeline := i.filterMap_passed_eq_presented oc f options (considered queries os)
      obtain ⟨u, run, -, shows⟩ := search_of_eager hh comes (r := r) streams
      -- Another caller's run: its answers are the same, so it is called with the same objects.
      obtain ⟨u', kept, -⟩ := search_of_eager (eager_recorded hh) comes (r := (r, [])) streams
      rw [pipeline] at run kept
      refine .inr ⟨queries, t, os, ended, u, comes, streams, shows, run, ?_⟩
      rw [callsIn, kept, taken_recorded hh]
      exact List.nil_append _

end Instance

/-- Takes every object and keeps them in their order. -/
def gather : Handler (List ResourceObject) ResourceObject := fun o os => (true, os ++ [o])

/-- A resource whose mail addresses have a normal form, in lower case. Two of its objects have one
uid, and its searches find every object. -/
def foldedMail : ConnectorScript := { mailScript withoutPhones true with
  rules := some [⟨some "mail", none, .lower⟩]
  objects := [mailbox "1" "Ann@Example.com", mailbox "1" "bob@example.org",
    mailbox "2" "cy@example.com", mailbox "3" "Dee@Example.ORG"] }

def foldedMailSite : Site Resources Filter := { resource := [.ofScript foldedMail] }

/-- Two queries stream every object twice; what is left of them is what comes of the first object of
each uid. -/
theorem foldedMail_pipeline :
    Eager gather ∧ ∃ queries t os ended u,
      (mailInstance foldedMail).ComesTo .account (some ofAddressOrDomain) mailOnly foldedMailSite
        queries t ∧
      (mailInstance foldedMail).streamed .account mailOnly (Instance.runs queries) t.resource =
        (os, ended) ∧
      os = foldedMail.objects ++ foldedMail.objects ∧
      (mailInstance foldedMail).search .account (some ofAddressOrDomain) gather mailOnly
        (foldedMailSite, []) =
        (ended.1, (u, [mailbox "1" "ann@example.com", mailbox "3" "dee@example.org"])) := by
  have eager : Eager gather := fun _ _ => rfl
  have received : ((mailInstance foldedMail).search .account (some ofAddressOrDomain) gather
      mailOnly (foldedMailSite, [])).2.2 =
      [mailbox "1" "ann@example.com", mailbox "3" "dee@example.org"] := by decide +kernel
  have written : ((mailInstance foldedMail).search .account (some ofAddressOrDomain) gather
      mailOnly (foldedMailSite, [])).2.1.journal.filterMap Entry.object? =
      foldedMail.objects ++ foldedMail.objects := by decide +kernel
  refine ⟨eager, ?_⟩
  obtain ⟨why, t, -, refused⟩ | ⟨queries, t, os, ended, u, comes, streams, shows, run, -⟩ :=
    (mailInstance foldedMail).search_pipeline .account (some ofAddressOrDomain) eager mailOnly
      foldedMailSite []
  · rw [refused] at received
    cases received
  · rw [run] at received written
    obtain ⟨es, journal, rfl⟩ := shows
    rw [journal] at written
    refine ⟨queries, t, _, ended, u, comes, streams, written, run.trans ?_⟩
    exact congrArg (fun os => (ended.1, (u, os))) received

end ConnectorHub
