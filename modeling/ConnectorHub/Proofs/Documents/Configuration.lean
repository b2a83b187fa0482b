import ConnectorHub.Configuration.Basic
import ConnectorHub.Proofs.Documents.Schema

namespace ConnectorHub

open Shape

theorem Shape.reads_word32 : (word UInt32.size).Reads Document.word32? :=
  (reads_natBelow? UInt32.size).map UInt32.ofNat

theorem Shape.reads_word64 : (word UInt64.size).Reads Document.word64? :=
  (reads_natBelow? UInt64.size).map UInt64.ofNat

def PoolSettings.slots : List (Slot Shape) :=
  [.optional "max_objects" (Document.word 10) (.word UInt32.size),
    .optional "max_idle" (Document.word 10) (.word UInt32.size),
    .optional "min_idle" (Document.word 1) (.word UInt32.size),
    .optional "max_wait_ms" (Document.word 150000) (.word UInt64.size),
    .optional "min_evictable_idle_ms" (Document.word 120000) (.word UInt64.size)]

def PoolSettings.shape : Shape := .record slots

theorem PoolSettings.reads : shape.Reads ofDocument? :=
  Reads.record <|
    (readsSlot_optional "max_objects" reads_word32 (Document.word32?_word 10)).andThen fun _ =>
    (readsSlot_optional "max_idle" reads_word32 (Document.word32?_word 10)).andThen fun _ =>
    (readsSlot_optional "min_idle" reads_word32 (Document.word32?_word 1)).andThen fun _ =>
    (readsSlot_optional "max_wait_ms" reads_word64 (Document.word64?_word 150000)).andThen fun _ =>
    (readsSlot_optional "min_evictable_idle_ms" reads_word64
      (Document.word64?_word 120000)).andThen fun _ => readsSlots_pure _

theorem PoolSettings.ofDocument?_toDocument (s : PoolSettings) :
    ofDocument? s.toDocument = some s := by
  -- Only what is read of the words matters here, not that they are integers of a range.
  have read {a b c d e : Json} (maxObjects : Document.word32? a = some s.maxObjects)
      (maxIdle : Document.word32? b = some s.maxIdle)
      (minIdle : Document.word32? c = some s.minIdle)
      (maxWait : Document.word64? d = some s.maxWait)
      (minEvictableIdle : Document.word64? e = some s.minEvictableIdle) :
      ofDocument? (.ofFields [("max_objects", a), ("max_idle", b), ("min_idle", c),
        ("max_wait_ms", d), ("min_evictable_idle_ms", e)]) = some s := by
    rw [ofDocument?, Document.fields?_ofFields]
    simp [Document.withDefault, maxObjects, maxIdle, minIdle, maxWait, minEvictableIdle]
  exact read (Document.word32?_word _) (Document.word32?_word _) (Document.word32?_word _)
    (Document.word64?_word _) (Document.word64?_word _)

/-- The properties are read as a whole: what is in them the connector asks for itself. -/
def Configuration.slots : List (Slot Shape) :=
  [.optional "properties" (.object []) .whole, .flag "pooling_enabled" false,
    .optional "pool" PoolSettings.standard.toDocument PoolSettings.shape]

def Configuration.shape : Shape := .record slots

theorem Configuration.reads : shape.Reads ofDocument? :=
  Reads.record <|
    (readsSlot_optional "properties" (reads_whole Document.fields?)
      (Document.fields?_object [])).andThen fun _ =>
    (readsSlot_flag "pooling_enabled" false).andThen fun _ =>
    (readsSlot_optional "pool" PoolSettings.reads
      PoolSettings.standard.ofDocument?_toDocument).andThen fun _ => readsSlots_pure _

theorem Configuration.ofDocument?_toDocument (c : Configuration) :
    ofDocument? c.toDocument = some c := by
  have read {d : Json} (pool : PoolSettings.ofDocument? d = some c.pool) :
      ofDocument? (.ofFields [("properties", .object c.properties),
        ("pooling_enabled", .bool c.poolingEnabled), ("pool", d)]) = some c := by
    rw [ofDocument?, Document.fields?_ofFields]
    simp [Document.withDefault, pool]
  exact read c.pool.ofDocument?_toDocument

/-- A schema and a configuration come back from the documents they are written as. Whatever fields
nobody asks for are put into a document of them or of a part of them, and whatever defaults are left
out of it or written out, it is read as before; one that lacks a field without a default, or in which
a word is not an integer of its range, is refused. -/
theorem documents_lawful :
    (∀ s : Schema, Schema.ofDocument? s.toDocument = some s) ∧
      (∀ c : Configuration, Configuration.ofDocument? c.toDocument = some c) ∧
      (∀ d e, Schema.shape.Restates d e → Schema.ofDocument? d = Schema.ofDocument? e) ∧
      (∀ d, Schema.shape.Broken d → Schema.ofDocument? d = none) ∧
      (∀ d e, Configuration.shape.Restates d e →
        Configuration.ofDocument? d = Configuration.ofDocument? e) ∧
      (∀ d, Configuration.shape.Broken d → Configuration.ofDocument? d = none) ∧
      ClassInfo.shape.Reads ClassInfo.ofDocument? ∧
      AttributeInfo.shape.Reads AttributeInfo.ofDocument? ∧
      PoolSettings.shape.Reads PoolSettings.ofDocument? :=
  ⟨Schema.ofDocument?_toDocument, Configuration.ofDocument?_toDocument,
    fun _ _ => Schema.reads.restated, fun _ => Schema.reads.refused,
    fun _ _ => Configuration.reads.restated, fun _ => Configuration.reads.refused,
    ClassInfo.reads, AttributeInfo.reads, PoolSettings.reads⟩

/-- Pool settings of which one is given. -/
def smallPool : Fields := [("max_idle", Document.word 3)]

/-- The same, with one that has its default. -/
def fullerPool : Fields := Keyed.insert Prod.fst ("min_idle", Document.word 1) smallPool

/-- The same again, with a field for nobody. -/
def wordyPool : Fields := Keyed.insert Prod.fst ("colour", .text "blue") fullerPool

/-- A configuration of nothing but its pool. -/
def pooledBy (pool : Fields) : Json := .object [("pool", .object pool)]

theorem pooledBy_restates {pool other : Fields}
    (h : PoolSettings.shape.Restates (.object pool) (.object other)) :
    Configuration.shape.Restates (pooledBy pool) (pooledBy other) := by
  have replaced : Keyed.insert Prod.fst ("pool", .object other) [("pool", .object pool)] =
      [("pool", Json.object other)] := by
    simp [Keyed.insert]
  have inside := @restates_inside (.object pool) (.object other) Configuration.slots
    (.optional "pool" PoolSettings.standard.toDocument PoolSettings.shape)
    [("pool", .object pool)] (by decide) (by simp [Configuration.slots]) rfl h
  rw [Slot.optional, replaced] at inside
  exact inside

theorem negative_broken :
    PoolSettings.shape.Broken (.object [("max_idle", .integer (-1))]) := by
  have mem : Slot.optional "max_idle" (Document.word 10) (.word UInt32.size) ∈ PoolSettings.slots := by
    simp [PoolSettings.slots]
  refine .field mem rfl (.word fun i least _ same => ?_)
  cases same
  exact absurd least (by decide)

/-- A default is written out, then a field is added that is ignored. A negative count is refused, as
is a schema without its classes. -/
theorem wordyPool_lawful :
    Configuration.ofDocument? (pooledBy smallPool) = some { pool := { maxIdle := 3 } } ∧
      Configuration.ofDocument? (pooledBy fullerPool) =
        Configuration.ofDocument? (pooledBy smallPool) ∧
      Configuration.ofDocument? (pooledBy wordyPool) =
        Configuration.ofDocument? (pooledBy fullerPool) ∧
      Configuration.ofDocument? (pooledBy [("max_idle", .integer (-1))]) = none ∧
      Schema.ofDocument? (.object [("classes", .list [])]) = none := by
  obtain ⟨-, -, -, schemaRefused, restated, refused, -⟩ := documents_lawful
  have fuller : PoolSettings.shape.Restates (.object smallPool) (.object fullerPool) :=
    @restates_default (Document.word 1) PoolSettings.slots
      (.optional "min_idle" (Document.word 1) (.word UInt32.size)) smallPool (by decide)
      (by simp [PoolSettings.slots]) rfl rfl
  have wordy : PoolSettings.shape.Restates (.object fullerPool) (.object wordyPool) :=
    restates_unknown (by decide) _ _
  have pool : Slot.optional "pool" PoolSettings.standard.toDocument PoolSettings.shape ∈
      Configuration.slots := by
    simp [Configuration.slots]
  exact ⟨by decide +kernel, (restated _ _ (pooledBy_restates fuller)).symm,
    (restated _ _ (pooledBy_restates wordy)).symm, refused _ (.field pool rfl negative_broken),
    schemaRefused _ (.missing List.mem_cons_self rfl)⟩

end ConnectorHub
