import ConnectorHub.Proofs.Documents.Shape
import ConnectorHub.Proofs.Documents.Written
import ConnectorHub.Schema

namespace ConnectorHub

open Shape

def AttributeInfo.shape : Shape := .record
  [.required "name" .whole, .required "data_type" .whole, .flag "multi_valued" false,
    .flag "required" false, .flag "readable" true, .flag "creatable" true, .flag "updateable" true,
    .flag "returned_by_default" true]

theorem AttributeInfo.reads : shape.Reads ofDocument? :=
  Reads.record <|
    (readsSlot_required "name" (reads_whole _)).andThen fun _ =>
    (readsSlot_required "data_type" (reads_whole _)).andThen fun _ =>
    (readsSlot_flag "multi_valued" false).andThen fun _ =>
    (readsSlot_flag "required" false).andThen fun _ =>
    (readsSlot_flag "readable" true).andThen fun _ =>
    (readsSlot_flag "creatable" true).andThen fun _ =>
    (readsSlot_flag "updateable" true).andThen fun _ =>
    (readsSlot_flag "returned_by_default" true).andThen fun _ => readsSlots_pure _

def ClassInfo.shape : Shape := .record
  [.required "name" .whole, .flag "container" false, .flag "auxiliary" false,
    .required "attributes" (.list AttributeInfo.shape)]

theorem ClassInfo.reads : shape.Reads ofDocument? :=
  Reads.record <|
    (readsSlot_required "name" (reads_whole _)).andThen fun _ =>
    (readsSlot_flag "container" false).andThen fun _ =>
    (readsSlot_flag "auxiliary" false).andThen fun _ =>
    (readsSlot_required "attributes" AttributeInfo.reads.list).andThen fun _ => readsSlots_pure _

/-- The table of operations is read as a whole: each of its fields has to be known. -/
def Schema.shape : Shape := .record
  [.required "object_classes" (.list ClassInfo.shape),
    .optional "supported_by_operation" (.object []) .whole]

theorem Schema.reads : shape.Reads ofDocument? :=
  Reads.record <|
    (readsSlot_required "object_classes" ClassInfo.reads.list).andThen fun _ =>
    (readsSlot_optional "supported_by_operation" (reads_whole supportTable?) rfl).andThen fun _ =>
    readsSlots_pure _

theorem AttributeInfo.ofDocument?_toDocument (a : AttributeInfo) :
    ofDocument? a.toDocument = some a := by
  have dataType : DataType.ofDocument? a.dataType.toDocument = some a.dataType :=
    a.dataType.ofName?_name
  simp [ofDocument?, toDocument, Document.required, Document.withDefault, dataType]

theorem ClassInfo.ofDocument?_toDocument (c : ClassInfo) : ofDocument? c.toDocument = some c := by
  have attributes := Document.list?_map AttributeInfo.ofDocument?_toDocument c.attributes
  simp [ofDocument?, toDocument, Document.required, Document.withDefault, attributes]

theorem Operation.name_inj {o p : Operation} : o.name = p.name ↔ o = p := by
  refine ⟨fun h => ?_, congrArg _⟩
  rw [← Option.some.injEq, ← o.ofName?_name, h, p.ofName?_name]

namespace Schema

/-- The operations of the table, each with its classes. -/
def support (s : Schema) : List (Operation × List String) :=
  Operation.all.filterMap fun o => (s.supported o).map fun classes => (o, classes)

def writeEntry (e : Operation × List String) : String × Json := (e.1.name, Json.texts e.2)

theorem mem_support {s : Schema} {e : Operation × List String} :
    e ∈ s.support ↔ s.supported e.1 = some e.2 := by
  simp only [support, List.mem_filterMap, Operation.mem_all, true_and, Option.map_eq_some_iff]
  constructor
  · rintro ⟨o, classes, listed, rfl⟩
    exact listed
  · exact fun listed => ⟨e.1, e.2, listed, rfl⟩

theorem supportFields_eq_map (s : Schema) : s.supportFields = s.support.map writeEntry := by
  rw [supportFields, support, List.map_filterMap]
  simp only [Option.map_map]
  rfl

theorem entry?_writeEntry (e : Operation × List String) : entry? (writeEntry e) = some e := by
  unfold entry? writeEntry
  rw [Operation.ofName?_name, Document.list?_texts]
  rfl

/-- The table in the order of the names of its operations, as it is written. -/
def sortedSupport (s : Schema) : List (Operation × List String) :=
  Keyed.ofList (fun e => e.1.name) s.support

theorem ofFields_supportFields (s : Schema) :
    Json.ofFields s.supportFields = .object (s.sortedSupport.map writeEntry) := by
  rw [Json.ofFields, supportFields_eq_map, Keyed.ofList_map]
  rfl

theorem find?_sortedSupport (s : Schema) (o : Operation) :
    (s.sortedSupport.find? fun e => e.1 == o).map Prod.snd = s.supported o := by
  have byName : (fun e : Operation × List String => e.1 == o) = fun e => e.1.name == o.name := by
    funext e
    rw [Bool.eq_iff_iff, beq_iff_eq, beq_iff_eq]
    exact Operation.name_inj.symm
  have found : s.sortedSupport.find? (fun e => e.1 == o) =
      s.support.reverse.find? fun e => e.1.name == o.name := by
    rw [byName]
    exact Keyed.find?_ofList s.support o.name
  rw [found]
  cases last : s.support.reverse.find? fun e => e.1.name == o.name with
  | none =>
    cases listed : s.supported o with
    | none => rfl
    | some classes =>
      have mem : (o, classes) ∈ s.support.reverse := List.mem_reverse.mpr (mem_support.mpr listed)
      exact absurd (beq_self_eq_true o.name) (List.find?_eq_none.mp last _ mem)
  | some e =>
    have mem := List.mem_reverse.mp (List.mem_of_find?_eq_some last)
    have same := List.find?_some last
    have named : e.1.name = o.name := eq_of_beq same
    rw [← Operation.name_inj.mp named]
    exact (mem_support.mp mem).symm

theorem supportTable?_ofFields (s : Schema) :
    supportTable? (.ofFields s.supportFields) = some s.supported := by
  rw [supportTable?, ofFields_supportFields, Document.fields?_object, Option.bind_eq_bind,
    Option.bind_some, mapM_map_of_inverse entry?_writeEntry]
  exact congrArg some (funext s.find?_sortedSupport)

theorem supported_of_isEmpty {s : Schema} (h : s.supportFields.isEmpty = true) :
    s.supported = fun _ => none := by
  rw [supportFields_eq_map, List.isEmpty_iff, List.map_eq_nil_iff] at h
  funext o
  refine Option.eq_none_iff_forall_ne_some.mpr fun classes listed => ?_
  have mem : (o, classes) ∈ s.support := mem_support.mpr listed
  rw [h] at mem
  cases mem

theorem ofDocument?_toDocument (s : Schema) : ofDocument? s.toDocument = some s := by
  have classes := Document.list?_map ClassInfo.ofDocument?_toDocument s.classes
  have table := supportTable?_ofFields s
  rw [toDocument]
  split
  · next nothing =>
    have supported := supported_of_isEmpty nothing
    simp [ofDocument?, Document.required, Document.withDefault, classes, ← supported]
  · next something =>
    simp [ofDocument?, Document.required, Document.withDefault, classes, table]

end Schema

end ConnectorHub
