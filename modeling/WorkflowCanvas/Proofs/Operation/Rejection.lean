import WorkflowCanvas.Proofs.Operation.Installation
/-!
# Installations that are broken off

An installation stops at the first operation that the registry rejects. The
locator has left out the blank ids, so what is rejected has an id that is taken
or one with blanks around it (`stops_install`). The latter are found like all
others: no registry takes them, and one of them keeps out everything behind it
(`stopped_by_duplicates_iff`).
-/


namespace WorkflowCanvas

namespace Operation

namespace Library

variable {l l' : Library} {d : Declaration} {ds before after : List Declaration} {r r' : Registry}
  {f : Failure}

/-- **A registry has room for some operations**: their ids are plain, not yet
taken, and no two are the same. -/
structure Fits (r : Registry) (ds : List Declaration) : Prop where
  plain : ∀ d ∈ ds, Text.IsPlain d.descriptor.id
  new : ∀ d ∈ ds, r.contains d.descriptor.id = false
  apart : (ds.map (·.descriptor.id)).Nodup

namespace Fits

theorem nil (r : Registry) : Fits r [] :=
  ⟨fun _ h => (List.not_mem_nil h).elim, fun _ h => (List.not_mem_nil h).elim, List.nodup_nil⟩

/-- An operation that is taken leaves room for the others. -/
theorem cons (hplain : Text.IsPlain d.descriptor.id) (hnew : r.contains d.descriptor.id = false)
    (hentries : r'.entries = r.entries ++ [d.descriptor]) (h : Fits r' ds) :
    Fits r (d :: ds) where
  plain := List.forall_mem_cons.2 ⟨hplain, h.plain⟩
  new := by
    refine List.forall_mem_cons.2 ⟨hnew, fun e he => Bool.eq_false_iff.2 fun htaken => ?_⟩
    have htaken' := (Registry.contains_concat_iff hentries).2 (.inl htaken)
    exact Bool.false_ne_true ((h.new e he).symm.trans htaken')
  apart := by
    refine List.nodup_cons.2 ⟨fun hmem => ?_, h.apart⟩
    obtain ⟨e, he, hid⟩ := List.mem_map.1 hmem
    have htaken := (Registry.contains_concat_iff hentries).2 (.inr hid.symm)
    exact Bool.false_ne_true ((h.new e he).symm.trans htaken)

/-- What fits into a registry fits into an empty one. -/
theorem empty (h : Fits r ds) : Fits {} ds :=
  ⟨h.plain, fun _ _ => rfl, h.apart⟩

end Fits

/-- **Where adding some operations stops**: behind all of them, or at the first
one with an id that is taken or has blanks around it. -/
inductive Stops (r : Registry) (ds : List Declaration) : Option Failure → Prop
  | never : Fits r ds → Stops r ds none
  | duplicate {before after : List Declaration} {d : Declaration} :
      ds = before ++ d :: after → Fits r before → Text.IsPlain d.descriptor.id →
      (r.contains d.descriptor.id = true ∨ ∃ e ∈ before, e.descriptor.id = d.descriptor.id) →
      Stops r ds (some (.duplicateOperation d.descriptor.id))
  | padded {before after : List Declaration} {d : Declaration} :
      ds = before ++ d :: after → Fits r before → ¬ Text.IsPlain d.descriptor.id →
      Stops r ds (some (.paddedOperationId d.descriptor.id))

/-- Adding an operation registers it. -/
theorem map_registry_add (l : Library) (d : Declaration) :
    (l.add d).map (·.registry) = l.registry.register d.descriptor := by
  rw [add]
  cases l.registry.register d.descriptor with
  | error f => rfl
  | ok registry =>
    cases d.descriptor.resolvedRef? with
    | none => rfl
    | some ref =>
      by_cases htaken : l.catalog.contains ref = true
      · simp only [htaken, if_true]
        rfl
      · simp only [htaken]
        rfl

/-- **What adding an operation with an id comes to.** -/
inductive Adds (l : Library) (d : Declaration) : Except Failure Library → Prop
  /-- There are blanks around the id. -/
  | padded : ¬ Text.IsPlain d.descriptor.id →
      Adds l d (.error (.paddedOperationId d.descriptor.id))
  /-- The id is taken. -/
  | duplicate : Text.IsPlain d.descriptor.id → l.registry.contains d.descriptor.id = true →
      Adds l d (.error (.duplicateOperation d.descriptor.id))
  /-- The descriptor stands behind all others. -/
  | added {l' : Library} : Text.IsPlain d.descriptor.id →
      l.registry.contains d.descriptor.id = false →
      l'.registry.entries = l.registry.entries ++ [d.descriptor] → Adds l d (.ok l')

theorem adds_add (l : Library) (hfilled : (Text.nonBlank? d.descriptor.id).isSome = true) :
    Adds l d (l.add d) := by
  have hanswer := l.registry.answers_register d.descriptor
  rw [← map_registry_add] at hanswer
  cases hadd : l.add d with
  | ok l' =>
    rw [hadd] at hanswer
    change Registry.Answers _ _ (.ok l'.registry) at hanswer
    cases hanswer with
    | accepted hplain hnew hentries => exact .added hplain hnew hentries
  | error f =>
    rw [hadd] at hanswer
    change Registry.Answers _ _ (.error f) at hanswer
    cases hanswer with
    | blank hblank =>
      rw [Text.nonBlank?, if_pos hblank] at hfilled
      cases hfilled
    | padded _ hpadded => exact .padded hpadded
    | duplicate hplain htaken => exact .duplicate hplain htaken

/-- What is added before stands in the way of the same id later. -/
theorem Stops.cons {stop : Option Failure} (hplain : Text.IsPlain d.descriptor.id)
    (hnew : r.contains d.descriptor.id = false)
    (hentries : r'.entries = r.entries ++ [d.descriptor]) (h : Stops r' ds stop) :
    Stops r (d :: ds) stop := by
  cases h with
  | never hfits => exact .never (hfits.cons hplain hnew hentries)
  | duplicate hds hbefore hid htaken =>
    refine .duplicate (congrArg (d :: ·) hds) (hbefore.cons hplain hnew hentries) hid ?_
    rw [Registry.contains_concat_iff hentries] at htaken
    rcases htaken with (hold | hfirst) | ⟨e, he, heq⟩
    · exact .inl hold
    · exact .inr ⟨d, List.mem_cons_self, hfirst⟩
    · exact .inr ⟨e, List.mem_cons_of_mem d he, heq⟩
  | padded hds hbefore hid =>
    exact .padded (congrArg (d :: ·) hds) (hbefore.cons hplain hnew hentries) hid

theorem stops_addAll (l : Library) (ds : List Declaration)
    (hds : ∀ d ∈ ds, (Text.nonBlank? d.descriptor.id).isSome = true) :
    Stops l.registry ds (l.addAll ds).2 := by
  induction ds generalizing l with
  | nil => exact .never (.nil _)
  | cons d rest ih =>
    obtain ⟨hd, hrest⟩ := List.forall_mem_cons.1 hds
    have hadds := adds_add l hd
    rw [addAll]
    generalize l.add d = answer at hadds
    cases hadds with
    | padded hpadded => exact .padded rfl (.nil _) hpadded
    | duplicate hplain htaken => exact .duplicate rfl (.nil _) hplain (.inl htaken)
    | added hplain hnew hentries => exact (ih _ hrest).cons hplain hnew hentries

theorem install_snd (l : Library) (locator : Locator) : (l.install locator).2 =
    (l.addAll locator.locate).2.elim (.ok locator.locate.length) .error := by
  rw [install]
  split <;> simp [*]

/-- Blank ids are not found. -/
theorem filled_of_mem_locate {locator : Locator} (hd : d ∈ locator.locate) :
    (Text.nonBlank? d.descriptor.id).isSome = true :=
  (Bool.and_eq_true_iff.1 (Locator.isInstallable_of_mem_locate hd)).1

/-- **What stops an installation.** It comes through if the registry has room for
all that is found. Otherwise it stops at the first operation whose id is taken
or has blanks around it. -/
theorem stops_install (l : Library) (locator : Locator) :
    ∃ stop, Stops l.registry locator.locate stop ∧
      (l.install locator).2 = stop.elim (.ok locator.locate.length) .error :=
  ⟨_, stops_addAll l _ fun _ hd => filled_of_mem_locate hd, install_snd l locator⟩

/-! ## Padded ids -/

/-- **An operation with a plain id is taken** by every registry without it, and
no registry takes another one. -/
theorem registers_iff (d : Descriptor) :
    (∀ r : Registry, r.contains d.id = false → ∃ r', r.register d = .ok r') ↔
      Text.IsPlain d.id := by
  constructor
  · intro h
    obtain ⟨r', hr'⟩ := h {} rfl
    have hanswer := ({} : Registry).answers_register d
    rw [hr'] at hanswer
    cases hanswer with
    | accepted hplain _ _ => exact hplain
  · intro hplain r hnew
    have hanswer := r.answers_register d
    cases h : r.register d with
    | ok r' => exact ⟨r', rfl⟩
    | error f =>
      rw [h] at hanswer
      cases hanswer with
      | blank hblank => exact absurd hblank hplain.trim_ne_empty
      | padded _ hpadded => exact absurd hplain hpadded
      | duplicate _ htaken => exact absurd (hnew.symm.trans htaken) Bool.false_ne_true

/-- Nothing stops at operations that there is room for. -/
theorem Stops.eq_none {stop : Option Failure} (h : Stops r ds stop) (hfits : Fits r ds) :
    stop = none := by
  cases h with
  | never _ => rfl
  | @duplicate before after d hds _ _ htaken =>
    subst hds
    rcases htaken with hold | ⟨e, he, hid⟩
    · have hnew := hfits.new d (List.mem_append_right before List.mem_cons_self)
      exact absurd (hnew.symm.trans hold) Bool.false_ne_true
    · have hapart := hfits.apart
      rw [List.map_append, List.map_cons, List.nodup_append] at hapart
      exact absurd hid (hapart.2.2 _ (List.mem_map_of_mem he) _ List.mem_cons_self)
  | @padded before after d hds _ hpadded =>
    exact absurd (hfits.plain d (hds ▸ List.mem_append_right before List.mem_cons_self)) hpadded

theorem addAll_append_of_none (h : (l.addAll ds).2 = none) (es : List Declaration) :
    l.addAll (ds ++ es) = (l.addAll ds).1.addAll es := by
  induction ds generalizing l with
  | nil => rfl
  | cons d rest ih =>
    rw [addAll] at h
    rw [List.cons_append, addAll, addAll]
    cases hadd : l.add d with
    | error f => rw [hadd] at h; cases h
    | ok l' => rw [hadd] at h; exact ih h

/-- Whatever is registered, an operation with a padded id is rejected. -/
theorem add_padded (hfilled : (Text.nonBlank? d.descriptor.id).isSome = true)
    (hpadded : ¬ Text.IsPlain d.descriptor.id) :
    l.add d = .error (.paddedOperationId d.descriptor.id) := by
  have hadds := adds_add l hfilled
  generalize l.add d = answer at hadds ⊢
  cases hadds with
  | padded _ => rfl
  | duplicate hplain _ => exact absurd hplain hpadded
  | added hplain _ _ => exact absurd hplain hpadded

/-- **A padded id that is found stops the installation**, if what is found before
it does not. -/
theorem install_padded {locator : Locator} (hfound : locator.locate = before ++ d :: after)
    (hfits : Fits l.registry before) (hpadded : ¬ Text.IsPlain d.descriptor.id) :
    (l.install locator).2 = .error (.paddedOperationId d.descriptor.id) := by
  have hfilled : ∀ e ∈ locator.locate, (Text.nonBlank? e.descriptor.id).isSome = true :=
    fun e he => filled_of_mem_locate he
  rw [hfound] at hfilled
  have hbefore : (l.addAll before).2 = none :=
    (stops_addAll l before fun e he => hfilled e (List.mem_append_left _ he)).eq_none hfits
  have hstop : (l.addAll before).1.add d = .error (.paddedOperationId d.descriptor.id) :=
    add_padded (hfilled d (List.mem_append_right _ List.mem_cons_self)) hpadded
  rw [install_snd, hfound, addAll_append_of_none hbefore, addAll, hstop]
  rfl

/-- **Installations stop at taken ids only, unless a padded id is found** where
nothing before it stands in the way. -/
theorem stopped_by_duplicates_iff (locator : Locator) :
    (∀ l : Library, ∃ stop, Stops l.registry locator.locate stop ∧
      (l.install locator).2 = stop.elim (.ok locator.locate.length) .error) ∧
    ((∀ (l : Library) (f : Failure), (l.install locator).2 = .error f →
        ∃ id, f = .duplicateOperation id) ↔
      ∀ before d after, locator.locate = before ++ d :: after → Fits {} before →
        Text.IsPlain d.descriptor.id) ∧
    ((∀ d ∈ locator.locate, ∀ r : Registry, r.contains d.descriptor.id = false →
        ∃ r', r.register d.descriptor = .ok r') ↔
      ∀ d ∈ locator.locate, Text.IsPlain d.descriptor.id) := by
  refine ⟨fun l => stops_install l locator, ⟨fun h before d after hfound hfits => ?_, ?_⟩, ?_⟩
  · by_contra hpadded
    obtain ⟨id, hid⟩ := h {} _ (install_padded hfound hfits hpadded)
    cases hid
  · intro h l f hf
    obtain ⟨stop, hstop, hanswer⟩ := stops_install l locator
    rw [hf] at hanswer
    cases hstop with
    | never _ => cases hanswer
    | duplicate _ _ _ _ => exact ⟨_, Except.error.inj hanswer⟩
    | padded hfound hbefore hpadded => exact absurd (h _ _ _ hfound hbefore.empty) hpadded
  · exact forall₂_congr fun d _ => registers_iff d.descriptor

/-- A declaration with a blank before its id, and a sound one behind it. -/
def paddedLocator : Locator :=
  .fixed [sampleOperation " Op" "first", sampleOperation "Score" "rate"]

/-- **A padded id is found**, and nothing is installed: the empty registry, which
does not contain the id, rejects it, and the failure is not that of a taken id. -/
theorem padded_id_found :
    (∃ d ∈ paddedLocator.locate, ({} : Registry).contains d.descriptor.id = false ∧
      ({} : Registry).register d.descriptor = .error (.paddedOperationId d.descriptor.id)) ∧
    (({} : Library).install paddedLocator).2 = .error (.paddedOperationId " Op") ∧
    (∀ id, Failure.paddedOperationId " Op" ≠ .duplicateOperation id) ∧
    (({} : Library).install paddedLocator).1.registry.entries = [] := by
  refine ⟨⟨sampleOperation " Op" "first", ?_, by decide, by decide⟩, by decide, ?_, by decide⟩
  · exact List.mem_cons_self
  · exact fun id h => nomatch h

end Library

end Operation

end WorkflowCanvas
