import WorkflowCanvas.Proofs.Geometry
import WorkflowCanvas.Proofs.Json.CompactText
/-!
# Canvases are read back

Shapes nest, and a shape is read with the depth of its document as fuel. The
fuel is enough for every shape inside, because what stands in a field is less
deep than the object (`Shape.Storable.readsAs`, by induction on the shape). A
canvas is then read back part by part (`Storable.readsAs`).
-/


namespace WorkflowCanvas

namespace Canvas

open Document (ReadsAs Reorders Written asString? asList?)

theorem readsAs_soleText (field s : String) :
    ReadsAs (soleText? field) (.obj [(field, .str s)]) s := by
  refine ⟨Written.obj (.cons (.str s) .nil) (List.nodup_singleton field), fun d' hre => ?_⟩
  obtain ⟨r, hr, hholds⟩ := Record.exists_holds hre [field]
  have hread := hholds.required field (ReadsAs.str s) List.lookup_cons_self (by simp)
  rw [soleText?, hr]
  exact hread

theorem StencilSet.readsAs (s : StencilSet) :
    ReadsAs StencilSet.ofDocument? s.toDocument s := by
  have hnamespace := ReadsAs.str s.namespaceUri
  have hurl := ReadsAs.str s.url
  refine ⟨Written.obj (.cons hnamespace.wellFormed (.cons hurl.wellFormed .nil)) (by decide), ?_⟩
  intro d' hre
  obtain ⟨r, hr, hholds⟩ := Record.exists_holds hre ["namespace", "url"]
  have hreadNamespace := hholds.required "namespace" hnamespace rfl (by simp)
  have hreadUrl := hholds.required "url" hurl rfl (by simp)
  rw [StencilSet.ofDocument?, hr]
  simp [hreadNamespace, hreadUrl]

namespace Shape

/-- **A shape can be stored**: its properties are canonical and its coordinates
finite, and so it is with every shape inside. -/
inductive Storable : Shape → Prop
  | mk {s : Shape} (properties : Json.Canonical (.obj s.properties)) (bounds : s.bounds.IsFinite)
      (dockers : ∀ p ∈ s.dockers, p.IsFinite) (children : ∀ c ∈ s.childShapes, Storable c) :
      Storable s

theorem toDocuments_eq (shapes : List Shape) : toDocuments shapes = shapes.map toDocument := by
  induction shapes with
  | nil => rfl
  | cons s rest ih => rw [toDocuments, ih, List.map_cons]

theorem readsAs_refs (ids : List String) :
    ReadsAs (asList? refOfDocument?) (Document.list refToDocument ids) ids :=
  ReadsAs.list fun id _ => readsAs_soleText "resourceId" id

/-- The fields of a shape. -/
theorem toDocument_eq (s : Shape) : s.toDocument = .obj (
    [("resourceId", .str s.resourceId), ("properties", Document.fields s.properties),
     ("stencil", stencilToDocument s.stencil),
     ("childShapes", Document.list toDocument s.childShapes), ("bounds", s.bounds.toDocument),
     ("outgoing", Document.list refToDocument s.outgoing),
     ("incoming", Document.list refToDocument s.incoming)]
    ++ Document.fieldUnlessEmpty "dockers" (Document.list Point.toDocument) s.dockers
    ++ Document.field? "target" refToDocument s.target?) := by
  cases s
  rw [toDocument, toDocuments_eq]
  rfl

/-- A shape inside another one has a document that is less deep. -/
theorem depth_lt_of_mem {s c : Shape} (h : c ∈ s.childShapes) :
    c.toDocument.depth < s.toDocument.depth := by
  have hitem : c.toDocument ∈ s.childShapes.map toDocument := List.mem_map_of_mem h
  rw [toDocument_eq s]
  refine (Document.depth_lt_of_mem_items hitem).trans
    (Document.depth_lt_of_mem_fields (k := "childShapes") ?_)
  simp [Document.list]

/-- A shape is read back if the shapes inside are read back with less fuel. -/
theorem readsAs_read?_succ {s : Shape} {fuel : Nat}
    (hproperties : Json.Canonical (.obj s.properties)) (hbounds : s.bounds.IsFinite)
    (hdockers : ∀ p ∈ s.dockers, p.IsFinite)
    (hchildren : ∀ c ∈ s.childShapes, ReadsAs (read? fuel) c.toDocument c) :
    ReadsAs (read? (fuel + 1)) s.toDocument s := by
  have hid := ReadsAs.str s.resourceId
  have hproperties := ReadsAs.fields hproperties
  have hstencil : ReadsAs stencilOfDocument? (stencilToDocument s.stencil) s.stencil :=
    readsAs_soleText "id" s.stencil
  have hchildren := ReadsAs.list hchildren
  have hbounds := hbounds.readsAs
  have houtgoing := readsAs_refs s.outgoing
  have hincoming := readsAs_refs s.incoming
  have hdockers : ReadsAs (asList? Point.ofDocument?) (Document.list Point.toDocument s.dockers)
      s.dockers := ReadsAs.list fun p hp => (hdockers p hp).readsAs
  have htarget : ∀ id, s.target? = some id →
      ReadsAs (Document.asOption? refOfDocument?) (refToDocument id) (some id) :=
    fun id _ => (readsAs_soleText "resourceId" id).some nofun
  rw [toDocument_eq]
  refine ⟨Written.obj (.append (.append
    (.cons hid.wellFormed (.cons hproperties.wellFormed (.cons hstencil.wellFormed
      (.cons hchildren.wellFormed (.cons hbounds.wellFormed (.cons houtgoing.wellFormed
        (.cons hincoming.wellFormed .nil)))))))
    (.fieldUnlessEmpty hdockers.wellFormed))
    (.field? fun id hid => (htarget id hid).wellFormed)) (by decide), fun d' hre => ?_⟩
  obtain ⟨r, hr, hholds⟩ := Record.exists_holds hre ["resourceId", "properties", "stencil",
    "childShapes", "bounds", "outgoing", "incoming", "dockers", "target"]
  have hreadId := hholds.required "resourceId" hid rfl (by simp)
  have hreadProperties := hholds.required "properties" hproperties rfl (by simp)
  have hreadStencil := hholds.required "stencil" hstencil rfl (by simp)
  have hreadChildren := hholds.default "childShapes" [] hchildren rfl (by simp)
  have hreadBounds := hholds.required "bounds" hbounds rfl (by simp)
  have hreadOutgoing := hholds.default "outgoing" [] houtgoing rfl (by simp)
  have hreadIncoming := hholds.default "incoming" [] hincoming rfl (by simp)
  have hreadDockers := hholds.fieldUnlessEmpty "dockers" hdockers (by simp [List.lookup_append])
    (by simp)
  have hreadTarget := hholds.field? "target" htarget (by simp [List.lookup_append])
    (by simp)
  rw [read?, hr]
  simp only [hreadId, hreadProperties, hreadStencil, hreadChildren, hreadBounds, hreadOutgoing,
    hreadIncoming, hreadDockers, hreadTarget, Option.bind_eq_bind, Option.bind_some]
  cases s
  rfl

/-- **A shape is read back** with as much fuel as its document is deep. -/
theorem Storable.readsAs_read? {s : Shape} (h : s.Storable) :
    ∀ fuel, s.toDocument.depth ≤ fuel → ReadsAs (read? fuel) s.toDocument s := by
  induction h with
  | @mk s hproperties hbounds hdockers _ ih =>
    intro fuel hfuel
    cases fuel with
    | zero =>
      rw [toDocument_eq, Document.depth] at hfuel
      cases hfuel
    | succ fuel =>
      refine readsAs_read?_succ hproperties hbounds hdockers fun c hc => ih c hc fuel ?_
      have hless := depth_lt_of_mem hc
      omega

/-- **A shape is read back.** -/
theorem Storable.readsAs {s : Shape} (h : s.Storable) : ReadsAs ofDocument? s.toDocument s := by
  have hread := h.readsAs_read? s.toDocument.depth le_rfl
  refine ⟨hread.wellFormed, fun d' hre => ?_⟩
  rw [ofDocument?, hread.wellFormed.depth_eq hre]
  exact hread.reads d' hre

end Shape

/-- **A canvas can be stored**: its properties are canonical, its bounds finite,
and its shapes can be stored. -/
structure Storable (c : Canvas) : Prop where
  properties : Json.Canonical (.obj c.properties)
  bounds : c.bounds.IsFinite
  shapes : ∀ s ∈ c.childShapes, s.Storable

/-- **A canvas is read back**, in whatever order its fields come. -/
theorem Storable.readsAs {c : Canvas} (h : c.Storable) : ReadsAs ofDocument? c.toDocument c := by
  have hid := ReadsAs.str c.resourceId
  have hproperties := ReadsAs.fields h.properties
  have hstencil : ReadsAs stencilOfDocument? (stencilToDocument c.stencil) c.stencil :=
    readsAs_soleText "id" c.stencil
  have hshapes : ReadsAs (asList? Shape.ofDocument?) (.arr (Shape.toDocuments c.childShapes))
      c.childShapes := by
    rw [Shape.toDocuments_eq]
    exact ReadsAs.list fun s hs => (h.shapes s hs).readsAs
  have hbounds := h.bounds.readsAs
  have hset := c.stencilSet.readsAs
  have hextensions : ReadsAs (asList? asString?) (Document.list .str c.extensions) c.extensions :=
    ReadsAs.list fun s _ => ReadsAs.str s
  refine ⟨Written.obj (.cons hid.wellFormed (.cons hproperties.wellFormed
    (.cons hstencil.wellFormed (.cons hshapes.wellFormed (.cons hbounds.wellFormed
      (.cons hset.wellFormed (.cons hextensions.wellFormed .nil))))))) (by decide), ?_⟩
  intro d' hre
  obtain ⟨r, hr, hholds⟩ := Record.exists_holds hre ["resourceId", "properties", "stencil",
    "childShapes", "bounds", "stencilset", "ssextensions"]
  have hreadId := hholds.required "resourceId" hid rfl (by simp)
  have hreadProperties := hholds.required "properties" hproperties rfl (by simp)
  have hreadStencil := hholds.required "stencil" hstencil rfl (by simp)
  have hreadShapes := hholds.required "childShapes" hshapes rfl (by simp)
  have hreadBounds := hholds.required "bounds" hbounds rfl (by simp)
  have hreadSet := hholds.default "stencilset" {} hset rfl (by simp)
  have hreadExtensions := hholds.default "ssextensions" [] hextensions rfl (by simp)
  rw [ofDocument?, hr]
  simp [hreadId, hreadProperties, hreadStencil, hreadShapes, hreadBounds, hreadSet,
    hreadExtensions]

/-- **A canvas is read back from its text.** -/
theorem Storable.parse?_compact {c : Canvas} (h : c.Storable) (hlegible : c.toDocument.Legible)
    (hdepth : c.toDocument.depth ≤ Document.nestingLimit) : parse? c.toDocument.compact = some c :=
  h.readsAs.parse?_compact hlegible hdepth

end Canvas

end WorkflowCanvas
