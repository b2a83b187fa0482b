import ConnectorHub.Json.Document
import ConnectorHub.Options.Basic

namespace ConnectorHub

namespace SortKey

def ofDocument? : Json → Option SortKey
  | .list [.text field, .bool ascending] => some ⟨field, ascending⟩
  | _ => none

def toDocument (k : SortKey) : Json := .list [.text k.field, .bool k.ascending]

end SortKey

namespace QualifiedUid

def ofDocument? : Json → Option QualifiedUid
  | .list [.text oc, .text uid] => some ⟨⟨oc⟩, ⟨uid⟩⟩
  | _ => none

def toDocument (q : QualifiedUid) : Json := .list [.text q.objectClass.name, .text q.uid.value]

end QualifiedUid

/-- The changes that the field of an option stands for: one, or one for each sort key. -/
def OptionStep.ofField? (name : String) (j : Json) : Option (List OptionStep) :=
  let one := fun (x : Option OptionStep) => x.map fun step => [step]
  match name with
  | "attributes_to_get" => one ((Document.list? Document.text? j).map .attributesToGet)
  | "scope" => one ((SearchScope.ofDocument? j).map .scope)
  | "container" => one ((QualifiedUid.ofDocument? j).map .container)
  | "run_as_user" => one ((Document.text? j).map .runAsUser)
  | "run_with_password" => one ((Document.text? j).map fun s => .runWithPassword ⟨s⟩)
  | "page_size" => one ((Document.word32? j).map .pageSize)
  | "paged_results_cookie" => one ((Document.text? j).map .pagedResultsCookie)
  | "paged_results_offset" => one ((Document.word32? j).map .pagedResultsOffset)
  | "sort_keys" => (Document.list? SortKey.ofDocument? j).map fun keys => keys.map .sortKey
  | "allow_partial_results" => one ((Document.bool? j).map .allowPartialResults)
  | "return_default_attributes" => one ((Document.bool? j).map .returnDefaultAttributes)
  | _ => none

namespace Options

def ofDocument? (j : Json) : Option Options := do
  let fields ← Document.fields? j
  let steps ← fields.mapM fun f => OptionStep.ofField? f.1 f.2
  pure (steps.flatten.foldl apply empty)

/-- What is not set is left out, and so are sort keys where there are none. -/
def toDocument (o : Options) : Json :=
  let entry := fun (name : String) (x : Option Json) => (x.map fun j => (name, j)).toList
  let sortKeys := if o.sortKeys.isEmpty then none
    else some (Json.list (o.sortKeys.map SortKey.toDocument))
  .ofFields (List.flatten
    [entry "attributes_to_get" (o.attributesToGet.map Json.texts),
      entry "scope" (o.scope.map SearchScope.toDocument),
      entry "container" (o.container.map QualifiedUid.toDocument),
      entry "run_as_user" (o.runAsUser.map .text),
      entry "run_with_password" (o.runWithPassword.map fun s => .text s.clear),
      entry "page_size" (o.pageSize.map fun n => Document.word n.toNat),
      entry "paged_results_cookie" (o.pagedResultsCookie.map .text),
      entry "paged_results_offset" (o.pagedResultsOffset.map fun n => Document.word n.toNat),
      entry "sort_keys" sortKeys,
      entry "allow_partial_results" (o.allowPartialResults.map .bool),
      entry "return_default_attributes" (o.returnDefaultAttributes.map .bool)])

end Options

end ConnectorHub
