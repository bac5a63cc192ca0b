import EntitySchema.Proofs.Schema.Issues

/-!
# Proofs/Schema/RegistrationOrder — the order of registration orders the output, and that is all

Associations look forward and backward among the entities, but they do so by name: what they are
resolved to, what is generated for an entity and what is reported about it depend on which entity is
found under which name, and not on where it stands (`Schema.entityTypes_congr`,
`Registry.entityIssues_congr`).  Entities with different names are found under them in whatever order
they were registered, so two orders differ in the order of what each entity adds (`Request.LaidOut`).
-/

namespace EntitySchema

open Sdl Schema

/-! ## What depends on names alone -/

/-- Maps with the same pairs, in whatever order, find the same values. -/
theorem OrderedMap.get?_eq_of_perm {α : Type} {m n : OrderedMap α}
    (h : m.toList.Perm n.toList) : m.get? = n.get? := by
  funext k
  refine Option.ext fun v => ?_
  rw [get?_eq_some_iff, get?_eq_some_iff, h.mem_iff]

section Lookup

variable {r s : Registry}

theorem Registry.resolve?_congr (h : r.get? = s.get?) : r.resolve? = s.resolve? := by
  funext a
  rw [resolve?, resolve?, h]

theorem Schema.associationFields_congr (h : r.get? = s.get?) :
    associationFields r = associationFields s := by
  funext a
  rw [associationFields, associationFields, Registry.resolve?_congr h]

/-- **The types of an entity depend on what is found under which name.** -/
theorem Schema.entityTypes_congr (h : r.get? = s.get?) : entityTypes r = entityTypes s := by
  funext e
  rw [entityTypes, entityTypes, allAssociationFields, allAssociationFields,
    associationFields_congr h]

/-- **So do the issues of an entity.** -/
theorem Registry.entityIssues_congr (h : r.get? = s.get?) : r.entityIssues = s.entityIssues := by
  funext e
  rw [entityIssues, entityIssues, unresolvedIssues, unresolvedIssues, resolve?_congr h,
    fieldNames_eq, fieldNames_eq, entityTypes_congr h]

end Lookup

/-! ## Entities with different names -/

namespace Registry

variable {es es' : List Entity}

theorem entities_ofList (hd : (es.map Entity.name).Nodup) :
    (ofList es).entities = es.map Entity.complete := by
  rw [entities, OrderedMap.values, toList_ofList hd, List.map_map]
  rfl

theorem names_ofList (hd : (es.map Entity.name).Nodup) :
    (ofList es).names = es.map Entity.name := by
  rw [names, OrderedMap.keys, toList_ofList hd, List.map_map]
  rfl

theorem get?_ofList_of_mem (hd : (es.map Entity.name).Nodup) {e : Entity} (he : e ∈ es) :
    (ofList es).get? e.name = some e.complete := by
  refine OrderedMap.get?_eq_some_iff.mpr ?_
  rw [toList_ofList hd]
  exact List.mem_map_of_mem he

theorem filter_diagnose_ofList (hd : (es.map Entity.name).Nodup) {e : Entity} (he : e ∈ es) :
    (ofList es).diagnose.filter (Issue.isAbout e.name) = (ofList es).entityIssues e.complete := by
  have hmem : e.complete ∈ (ofList es).entities := by
    rw [entities_ofList hd]
    exact List.mem_map_of_mem he
  exact (reachable_ofList es).settled.filter_diagnose hmem

/-- **The same entities are found under the same names**, whatever the order. -/
theorem get?_ofList_of_perm (hp : es'.Perm es) (hd : (es.map Entity.name).Nodup) :
    (ofList es').get? = (ofList es).get? := by
  have hd' : (es'.map Entity.name).Nodup := (hp.map Entity.name).nodup_iff.mpr hd
  refine OrderedMap.get?_eq_of_perm ?_
  rw [toList_ofList hd, toList_ofList hd']
  exact hp.map _

end Registry

/-! ## The layout of a document -/

namespace Request

/-- The document of a request, laid out by a list of entities: a block of three definitions for each,
in the order of the list, and, if no names are exposed, the same with the fields of the root types.
The issues of the registry stand in that order as well. -/
structure LaidOut (q : Request) (types : Entity → EntityTypes) (issues : Entity → List Issue)
    (es : List Entity) : Prop where
  document : q.document = .type operatorInputType :: (es.flatMap fun e => (types e).definitions) ++
    q.config.extensions.types.map Definition.fragment ++ [.type q.queryType, .type q.mutationType]
  queries : q.exposed = none → q.queryType.fields = es.flatMap fun e => queryFields e.complete
  mutations : q.exposed = none →
    q.mutationType.fields = es.flatMap fun e => mutationFields e.complete
  diagnosis : q.registry.diagnose = es.flatMap issues

variable {es es' : List Entity}

theorem exposedEntities_of_none {q : Request} (h : q.exposed = none) :
    q.exposedEntities = q.registry.entities := by
  rw [exposedEntities, exposedNames, h]
  rfl

/-- What is the same for every entity of the list is laid out in the same way. -/
theorem LaidOut.congr {q : Request} {types types' : Entity → EntityTypes}
    {issues issues' : Entity → List Issue} (h : q.LaidOut types issues es)
    (htypes : ∀ e ∈ es, types e = types' e) (hissues : ∀ e ∈ es, issues e = issues' e) :
    q.LaidOut types' issues' es where
  document := by
    have hblocks : (es.flatMap fun e => (types e).definitions)
        = es.flatMap fun e => (types' e).definitions :=
      List.flatMap_congr fun e he => congrArg EntityTypes.definitions (htypes e he)
    rw [h.document, hblocks]
  queries := h.queries
  mutations := h.mutations
  diagnosis := h.diagnosis.trans (List.flatMap_congr hissues)

/-- **A registry made from a list lays its entities out in the order of the list.** -/
theorem laidOut_ofList (hd : (es.map Entity.name).Nodup) {q : Request}
    (hq : q.registry = .ofList es) :
    q.LaidOut (fun e => entityTypes (.ofList es) e.complete)
      (fun e => (Registry.ofList es).entityIssues e.complete) es where
  document := by
    rw [document, entityDefinitions, hq, Registry.entities_ofList hd, List.flatMap_map]
  queries hx := by
    rw [queryType, exposedEntities_of_none hx, hq, Registry.entities_ofList hd, List.flatMap_map]
  mutations hx := by
    rw [mutationType, exposedEntities_of_none hx, hq, Registry.entities_ofList hd,
      List.flatMap_map]
  diagnosis := by
    rw [hq, Registry.diagnose, Registry.entities_ofList hd, List.flatMap_map]

/-- Names that are exposed are looked up, so the roots depend on what is found under them. -/
theorem exposedEntities_congr {q p : Request} (h : p.registry.get? = q.registry.get?)
    (hx : p.exposed = q.exposed) (hs : q.exposed ≠ none) :
    p.exposedEntities = q.exposedEntities := by
  obtain ⟨names, hn⟩ := Option.ne_none_iff_exists'.mp hs
  rw [exposedEntities, exposedEntities, exposedNames, exposedNames, hx, hn, h]
  rfl

/-- **The order of registration orders the output, and that is all.**  Two lists of the same entities,
no two of one name, make registries that find the same entities under the same names.  They make the
same types of each entity and have the same issues about it, and lay both out in the order of the
list.  The root types are the same where a list of names is exposed; else their fields stand by entity
as well. -/
theorem registration_order (hp : es'.Perm es) (hd : (es.map Entity.name).Nodup) :
    let r := Registry.ofList es
    let s := Registry.ofList es'
    let types := fun e : Entity => entityTypes r e.complete
    let issues := fun e : Entity => r.diagnose.filter (Issue.isAbout e.name)
    (r.names = es.map Entity.name ∧ s.names = es'.map Entity.name ∧ ∀ n, s.get? n = r.get? n) ∧
      (∀ e ∈ es, r.get? e.name = some e.complete ∧ entityTypes s e.complete = types e ∧
        s.diagnose.filter (Issue.isAbout e.name) = issues e) ∧
      ∀ (config : Config) (exposed : Option (List String)),
        let q : Request := { registry := r, config, exposed }
        let p : Request := { registry := s, config, exposed }
        q.LaidOut types issues es ∧ p.LaidOut types issues es' ∧
          (exposed ≠ none → p.queryType = q.queryType ∧ p.mutationType = q.mutationType) := by
  intro r s types issues
  have hd' : (es'.map Entity.name).Nodup := (hp.map Entity.name).nodup_iff.mpr hd
  have hget : s.get? = r.get? := Registry.get?_ofList_of_perm hp hd
  have htypes : ∀ e, entityTypes s e.complete = types e :=
    fun e => congrFun (entityTypes_congr hget) e.complete
  have hissues : ∀ e ∈ es, r.entityIssues e.complete = issues e :=
    fun e he => (Registry.filter_diagnose_ofList hd he).symm
  have hissues' : ∀ e ∈ es, s.entityIssues e.complete = issues e := by
    rw [Registry.entityIssues_congr hget]
    exact hissues
  refine ⟨⟨Registry.names_ofList hd, Registry.names_ofList hd', congrFun hget⟩, fun e he => ?_,
    fun config exposed => ?_⟩
  · refine ⟨Registry.get?_ofList_of_mem hd he, htypes e, ?_⟩
    rw [Registry.filter_diagnose_ofList hd' (hp.mem_iff.mpr he), hissues' e he]
  · intro q p
    refine ⟨(laidOut_ofList hd rfl).congr (fun _ _ => rfl) hissues,
      (laidOut_ofList hd' rfl).congr (fun e _ => htypes e)
        fun e he => hissues' e (hp.mem_iff.mp he), fun hx => ?_⟩
    have he := exposedEntities_congr (q := q) (p := p) hget rfl hx
    rw [queryType, queryType, mutationType, mutationType, he]
    exact ⟨rfl, rfl⟩

/-- In a bookshop that has its books first, authors and books are the same, and so are the roots if
books are all that is exposed. -/
theorem registration_order_bookshop :
    [Registry.book, Registry.author].Perm [Registry.author, Registry.book] ∧
      ([Registry.author, Registry.book].map Entity.name).Nodup ∧
      entityTypes (.ofList [Registry.book, Registry.author]) Registry.author.complete
        = entityTypes .bookshop Registry.author.complete ∧
      (⟨.ofList [Registry.book, Registry.author], {}, some ["book"]⟩ : Request).queryType
        = (⟨.bookshop, {}, some ["book"]⟩ : Request).queryType := by
  have hp : [Registry.book, Registry.author].Perm [Registry.author, Registry.book] := .swap _ _ _
  have hd : ([Registry.author, Registry.book].map Entity.name).Nodup := by decide
  obtain ⟨-, hentities, hrequests⟩ := registration_order hp hd
  exact ⟨hp, hd, (hentities _ List.mem_cons_self).2.1,
    ((hrequests {} (some ["book"])).2.2 (Option.some_ne_none _)).1⟩

end Request

end EntitySchema
