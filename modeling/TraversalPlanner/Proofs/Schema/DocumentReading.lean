import TraversalPlanner.Proofs.Json.DecodedValues
import TraversalPlanner.Proofs.Json.PrettyReading
import TraversalPlanner.Proofs.Schema.Resolution

/-
  A schema that is written as a document is loaded as that
  schema, if it is consistent and has the built-in labels.

  Main declarations:
    * `SortedMap.ofList_toList`
    * `SchemaConcept.ofJson?_toJson`
    * `SchemaGraph.ofJson?_toJson`
    * `SchemaGraph.HasMetaConcepts`
    * `SchemaGraph.load_text_eq_ok_iff`
    * `SchemaGraph.load_toText`
-/

namespace TraversalPlanner

------------------------------------------------------------
-- Sorted Maps
------------------------------------------------------------

namespace SortedMap

variable {K V : Type} [KeyOrder K]

/- An entry with a key above all others is inserted behind them. -/
theorem insertEntry_append
    {k : K}
    {v : V}
    {es : List (K × V)}
    (h : ∀ e ∈ es, KeyOrder.before e.1 k = true) :
    insertEntry k v es = es ++ [(k, v)] := by
  induction es with
  | nil => rfl
  | cons e es ih =>
      have he := h e List.mem_cons_self
      have hRest := ih fun e' he' => h e' (List.mem_cons_of_mem e he')
      unfold insertEntry
      rw [if_neg (by simp [KeyOrder.before_asymm he]), if_pos he, hRest]
      rfl

/- Entries in increasing order are inserted one behind the other. -/
theorem toList_foldl_insert
    (es : List (K × V))
    (m : SortedMap K V)
    (h : (m.toList ++ es).Pairwise
      fun a b => KeyOrder.before a.1 b.1 = true) :
    (es.foldl (fun m e => m.insert e.1 e.2) m).toList = m.toList ++ es := by
  induction es generalizing m with
  | nil => simp
  | cons e es ih =>
      have hAbove : ∀ e' ∈ m.toList, KeyOrder.before e'.1 e.1 = true :=
        fun e' he' =>
          (List.pairwise_append.mp h).2.2 e' he' e List.mem_cons_self
      have hInsert : (m.insert e.1 e.2).toList = m.toList ++ [e] :=
        insertEntry_append hAbove
      have hShift : m.toList ++ e :: es = m.toList ++ [e] ++ es := by
        simp
      rw [List.foldl_cons, ih _ (by rw [hInsert, ← hShift]; exact h),
        hInsert, ← hShift]

/- A map is the map of its entries. -/
theorem ofList_toList (m : SortedMap K V) : ofList m.toList = m := by
  have hEntries : (ofList m.toList).toList = m.toList :=
    toList_foldl_insert m.toList empty m.sorted
  cases hMap : ofList m.toList with
  | mk es _ =>
      rw [hMap] at hEntries
      cases m
      cases hEntries
      rfl

end SortedMap

------------------------------------------------------------
-- Kinds and Data Types
------------------------------------------------------------

/- A kind is read from its document. -/
theorem ConceptKind.ofJson?_toJson (k : ConceptKind) :
    ofJson? k.toJson = some k := by
  cases k <;> decide

/- An optional data type is read from its document. -/
theorem DataType.toOption?_toJson (t : Option DataType) :
    Json.toOption? ofJson? (.ofOption (t.map toJson)) = some t := by
  cases t with
  | none => rfl
  | some t => cases t <;> decide

------------------------------------------------------------
-- Documents
------------------------------------------------------------

/- The slots of the document of a concept. -/
theorem SchemaConcept.slots?_toJson (c : SchemaConcept) :
    c.toJson.slots? fieldNames =
      some
        [.given (.string c.label),
         .given c.kind.toJson,
         .given (.ofOption (c.sup.map Json.string)),
         .given (.ofStrings c.relates),
         .given (.ofStrings c.plays),
         .given (.ofStrings c.has),
         .given (.ofOption (c.dataType.map DataType.toJson)),
         .given (.bool c.isAbstract)] := by
  simp [toJson, fieldNames, Json.slots?, Json.slot?, Json.valuesOf]

/- A concept is read from its document. -/
theorem SchemaConcept.ofJson?_toJson (c : SchemaConcept) :
    ofJson? c.toJson = some c := by
  unfold ofJson?
  rw [slots?_toJson]
  simp only [Option.bind_eq_bind, Option.bind_some,
    FieldSlot.required_given, FieldSlot.withDefault_given,
    ConceptKind.ofJson?_toJson, Json.toText?, Json.toOption?_text,
    Json.toList?_ofStrings, DataType.toOption?_toJson, Json.toBool?]
  rfl

/- Concepts are read from their document. -/
theorem ConceptMap.ofJson?_toJson (m : ConceptMap) :
    ofJson? (toJson m) = some m := by
  have hEntries :
      ((m.toList.map fun e => (e.1, e.2.toJson)).mapM
        fun (f : String × Json) => do
          let c ← SchemaConcept.ofJson? f.2
          pure (f.1, c)) = some m.toList := by
    refine mapM_map_of_decode (fun e => ?_) m.toList
    simp only [SchemaConcept.ofJson?_toJson]
    rfl
  unfold toJson ofJson?
  dsimp only
  rw [hEntries, Option.bind_eq_bind, Option.bind_some,
    SortedMap.ofList_toList]
  rfl

namespace SchemaGraph

/- A record is a schema by its version and its concepts. -/
theorem ofJson?_of_slots
    {j : Json}
    {version concepts : FieldSlot}
    (h : j.slots? ["version", "concepts"] = some [version, concepts]) :
    ofJson? j =
      (do
        let n ← version.withDefault 0 Json.toNat?
        let m ← concepts.required ConceptMap.ofJson?
        pure ⟨UInt64.ofNat n, m⟩) := by
  unfold ofJson?
  rw [h]
  rfl

/- A schema is read from its document. -/
theorem ofJson?_toJson (g : SchemaGraph) :
    ofJson? g.toJson = some g := by
  have hSlots : g.toJson.slots? ["version", "concepts"] =
      some [.given (.ofNat g.version.toNat),
        .given (ConceptMap.toJson g.concepts)] := by
    simp [toJson, Json.slots?, Json.slot?, Json.valuesOf]
  have hFits : g.version.toNat < twoTo 64 := by
    simpa [twoTo] using g.version.toNat_lt
  rw [ofJson?_of_slots hSlots, FieldSlot.withDefault_given,
    FieldSlot.required_given, Json.toNat?_ofNat hFits,
    ConceptMap.ofJson?_toJson, Option.bind_eq_bind, Option.bind_some,
    Option.bind_eq_bind, Option.bind_some, UInt64.ofNat_toNat]
  rfl

------------------------------------------------------------
-- Loading
------------------------------------------------------------

/- The labels of the built-in concepts resolve. -/
def HasMetaConcepts (g : SchemaGraph) : Prop :=
  ∀ c ∈ SchemaConcept.metaConcepts, (g.resolve c.label).isSome = true

/- Whether a schema is consistent can be found out. -/
instance (g : SchemaGraph) : Decidable (g.checkConsistency = .ok ()) :=
  match g.checkConsistency with
  | .ok () => isTrue rfl
  | .error _ => isFalse nofun

/- A schema that starts from the built-in concepts keeps their labels. -/
theorem hasMetaConcepts_of_defineAll
    {g : SchemaGraph}
    {cs : List SchemaConcept}
    (h : initial.defineAll cs = some g) :
    g.HasMetaConcepts := by
  intro c hc
  have hNamed : (initial.resolve c.label).isSome = true := by
    rw [resolve_initial, SchemaConcept.isSome_named?_iff]
    exact ⟨c, List.mem_reverse.mpr hc, rfl⟩
  rw [resolve_of_defineAll h, Option.isSome_or, hNamed, Bool.or_true]

/- A schema with the built-in labels needs no completion. -/
theorem HasMetaConcepts.withMetaConcepts
    {g : SchemaGraph}
    (h : g.HasMetaConcepts) :
    g.withMetaConcepts = g := by
  have hFold : ∀ cs : List SchemaConcept,
      (∀ c ∈ cs, (g.resolve c.label).isSome = true) →
        cs.foldl (fun m c => m.insertIfNew c.label c) g.concepts =
          g.concepts := by
    intro cs
    induction cs with
    | nil => exact fun _ => rfl
    | cons c cs ih =>
        intro hcs
        have hc : g.concepts.contains c.label = true :=
          hcs c List.mem_cons_self
        rw [List.foldl_cons, SortedMap.insertIfNew, if_pos hc]
        exact ih fun d hd => hcs d (List.mem_cons_of_mem c hd)
  unfold SchemaGraph.withMetaConcepts
  rw [hFold _ h]

/- A text is loaded if it is read and its completion is consistent. -/
theorem load_text_eq_ok_iff
    {text : String}
    {g : SchemaGraph} :
    load (.text text) = .ok g ↔
      ∃ doc, (Json.parse? text).bind ofJson? = some doc ∧
        doc.withMetaConcepts = g ∧ g.checkConsistency = .ok () := by
  rw [load, DocumentSource.load, ofText]
  cases (Json.parse? text).bind ofJson? with
  | none => simp
  | some doc =>
      simp only [Option.some.injEq, exists_eq_left']
      cases hCheck : doc.withMetaConcepts.checkConsistency with
      | ok =>
          simp only [Except.ok.injEq]
          constructor
          · rintro rfl
            exact ⟨rfl, hCheck⟩
          · exact And.left
      | error fault =>
          constructor
          · intro h
            cases h
          · rintro ⟨rfl, hOk⟩
            rw [hCheck] at hOk
            cases hOk

/- A written schema is loaded. -/
theorem load_text_toText
    {g : SchemaGraph}
    (hMeta : g.HasMetaConcepts)
    (hConsistent : g.checkConsistency = .ok ()) :
    load (.text g.toText) = .ok g := by
  have hRead : (Json.parse? g.toText).bind ofJson? = some g := by
    rw [toText, Json.parse?_pretty, Option.bind_some, ofJson?_toJson]
  exact load_text_eq_ok_iff.mpr
    ⟨g, hRead, hMeta.withMetaConcepts, hConsistent⟩

/-
  Writing a schema and loading the document gives the schema
  back, its version and all its concepts, if it is consistent and
  has the built-in labels.  Whatever is defined on top of the
  built-in concepts, their labels stay.
-/
theorem load_toText :
    (∀ g : SchemaGraph,
      g.HasMetaConcepts →
      g.checkConsistency = .ok () →
      load (.text g.toText) = .ok g) ∧
    (∀ (cs : List SchemaConcept) (g : SchemaGraph),
      initial.defineAll cs = some g →
      g.checkConsistency = .ok () →
      load (.text g.toText) = .ok g) := by
  constructor
  · intro g hMeta hConsistent
    exact load_text_toText hMeta hConsistent
  · intro cs g hAll hConsistent
    exact load_text_toText (hasMetaConcepts_of_defineAll hAll) hConsistent

/- Concepts whose labels need escapes, or are no plain letters. -/
def escapedConcepts : List SchemaConcept :=
  [{ SchemaConcept.ofKind "na\"me" .resourceType with
      dataType := some .string },
   { SchemaConcept.ofKind "pers\\\nöπ\x01" .entityType with
      has := ["na\"me"] }]

/- The schema of these concepts. -/
def escapedSchema : SchemaGraph :=
  ofConcepts escapedConcepts (by decide)

/- A schema with such labels is loaded again. -/
theorem load_toText_escapedConcepts :
    initial.defineAll escapedConcepts = some escapedSchema ∧
    escapedSchema.HasMetaConcepts ∧
    escapedSchema.checkConsistency = .ok () ∧
    load (.text escapedSchema.toText) = .ok escapedSchema := by
  have hAll : initial.defineAll escapedConcepts = some escapedSchema :=
    defineAll_initial _ _
  have hConsistent : escapedSchema.checkConsistency = .ok () := by
    decide +kernel
  exact ⟨hAll, hasMetaConcepts_of_defineAll hAll, hConsistent,
    load_toText.2 _ _ hAll hConsistent⟩

end SchemaGraph

end TraversalPlanner
