import WorkflowCanvas.Json.Merge
import WorkflowCanvas.Proofs.Json.ReadBack
/-!
# Objects merged path by path

Merging goes by keys, at every depth: a value is laid over the one in its
place (`get?_merge`), or over several in turn where a key comes again
(`bind_get?_merge`). So the merged object is told path by path
(`at?_mergeOver`). Where a path ends in the upper object its value is laid
over the lower one at the same path; where a value that is no object stands on
the way nothing of the lower object comes through; everywhere else the lower
object shows. `Merges` says that without the recursion, and no other object
does what it says (`merged_by_path`).
-/


namespace WorkflowCanvas

namespace Json

/-! ## Merging by key -/

/-- **What is merged over a sorted table**, key by key: each value is laid over
the one in its place. -/
theorem get?_merge (t : Table Json) {overrides : Table Json} (h : overrides.Sorted) (key : String) :
    (merge t overrides).get? key =
      ((overrides.get? key).map (mergeOver (t.get? key))).or (t.get? key) := by
  rw [merge]
  induction overrides generalizing t with
  | nil =>
    rw [mergeFields]
    rfl
  | cons field rest ih =>
    obtain ⟨k, v⟩ := field
    obtain ⟨hhead, hrest⟩ := List.pairwise_cons.1 h
    rw [mergeFields, ih _ hrest]
    by_cases hkey : key = k
    · -- the key does not come again
      have hnone : Table.get? rest key = none :=
        Table.get?_eq_none_iff.2 fun e he => hkey ▸ ne_of_gt (hhead e he)
      have hsome : Table.get? ((k, v) :: rest) key = some v := by simp [Table.get?, hkey]
      rw [hnone, hsome, hkey, Table.get?_insert_self]
      rfl
    · have hskip : Table.get? ((k, v) :: rest) key = Table.get? rest key := by
        simp [Table.get?, Ne.symm hkey]
      rw [hskip, Table.get?_insert_of_ne _ _ hkey]

/-- Merging keeps a table sorted. -/
theorem sorted_merge {t : Table Json} (h : t.Sorted) (overrides : Table Json) :
    (merge t overrides).Sorted := by
  rw [merge]
  induction overrides generalizing t with
  | nil =>
    rw [mergeFields]
    exact h
  | cons field rest ih =>
    obtain ⟨k, v⟩ := field
    rw [mergeFields]
    exact ih (h.insert k _)

/-! ## Merging fields -/

theorem get?_mergeFields_of_forall (t : Table Json) {fields : List (String × Json)} {key : String}
    (h : ∀ field ∈ fields, field.1 ≠ key) : (mergeFields t fields).get? key = t.get? key := by
  induction fields generalizing t with
  | nil => rfl
  | cons field rest ih =>
    obtain ⟨k, v⟩ := field
    rw [mergeFields, ih _ fun field hf => h field (List.mem_cons_of_mem _ hf)]
    exact Table.get?_insert_of_ne _ _ (h (k, v) List.mem_cons_self).symm

/-- A key that the overrides do not have keeps its value. -/
theorem get?_merge_of_none (t : Table Json) {overrides : Table Json} {key : String}
    (h : overrides.get? key = none) : (merge t overrides).get? key = t.get? key :=
  get?_mergeFields_of_forall t (Table.get?_eq_none_iff.1 h)

/-- **A reading that sees no objects** reads the last value that the
overrides have for a key, or else the one that was there. -/
theorem bind_get?_merge {α : Type} {read : Json → Option α}
    (hread : ∀ existing? v, read (mergeOver existing? v) = read v) (t overrides : Table Json)
    (key : String) :
    ((merge t overrides).get? key).bind read =
      (((Table.ofList overrides).get? key).or (t.get? key)).bind read := by
  have hcongr : ∀ (fields : List (String × Json)) (t u : Table Json),
      (t.get? key).bind read = (u.get? key).bind read →
        ((mergeFields t fields).get? key).bind read =
          ((Table.insertAll u fields).get? key).bind read := by
    intro fields
    induction fields with
    | nil =>
      intro t u h
      rw [mergeFields]
      exact h
    | cons field rest ih =>
      intro t u h
      obtain ⟨k, v⟩ := field
      rw [mergeFields]
      refine ih _ (u.insert k v) ?_
      by_cases hk : key = k
      · subst hk
        rw [Table.get?_insert_self, Table.get?_insert_self]
        exact hread _ v
      · rw [Table.get?_insert_of_ne _ _ hk, Table.get?_insert_of_ne _ _ hk]
        exact h
  rw [← Table.get?_insertAll]
  exact hcongr overrides t t rfl

/-- The key occurs among fields. -/
def HasKey (fields : List (String × Json)) (k : String) : Prop := ∃ field ∈ fields, field.1 = k

theorem hasKey_insert {t : Table Json} {k k' : String} {v : Json}
    (h : HasKey (t.insert k v) k') : k' = k ∨ HasKey t k' := by
  obtain ⟨field, hfield, rfl⟩ := h
  rcases Table.mem_insert hfield with rfl | hfield
  · exact .inl rfl
  · exact .inr ⟨field, hfield, rfl⟩

theorem hasKey_mergeFields {t : Table Json} {fields : List (String × Json)} {k : String}
    (h : HasKey (mergeFields t fields) k) : HasKey t k ∨ HasKey fields k := by
  induction fields generalizing t with
  | nil =>
    rw [mergeFields] at h
    exact .inl h
  | cons field rest ih =>
    obtain ⟨k', v⟩ := field
    rw [mergeFields] at h
    rcases ih h with h | ⟨field, hfield, hk⟩
    · rcases hasKey_insert h with rfl | h
      · exact .inr ⟨_, List.mem_cons_self, rfl⟩
      · exact .inl h
    · exact .inr ⟨field, List.mem_cons_of_mem _ hfield, hk⟩

/-- **The keys of an object that is merged** come from the object that was there
or from one that is laid over it. -/
theorem hasKey_of_get?_merge {t overrides : Table Json} {key k : String}
    {fields : List (String × Json)} (h : (merge t overrides).get? key = some (.obj fields))
    (hk : HasKey fields k) :
    (∃ below, t.get? key = some (.obj below) ∧ HasKey below k) ∨
      ∃ above, (key, Json.obj above) ∈ overrides ∧ HasKey above k := by
  rw [merge] at h
  induction overrides generalizing t with
  | nil =>
    rw [mergeFields] at h
    exact .inl ⟨fields, h, hk⟩
  | cons field rest ih =>
    obtain ⟨k', v⟩ := field
    rw [mergeFields] at h
    rcases ih h with ⟨below, hbelow, hin⟩ | ⟨above, habove, hin⟩
    · by_cases hkey : key = k'
      · subst hkey
        rw [Table.get?_insert_self, Option.some_inj] at hbelow
        -- what is laid over the place is an object itself
        cases v with
        | obj incoming =>
          unfold mergeOver at hbelow
          split at hbelow
          · next existing hexisting =>
            cases hbelow
            rcases hasKey_mergeFields hin with hin | hin
            · exact .inl ⟨existing, hexisting, hin⟩
            · exact .inr ⟨incoming, List.mem_cons_self, hin⟩
          · cases hbelow
            exact .inr ⟨below, List.mem_cons_self, hin⟩
        | _ => cases hbelow
      · rw [Table.get?_insert_of_ne _ _ hkey] at hbelow
        exact .inl ⟨below, hbelow, hin⟩
    · exact .inr ⟨above, List.mem_cons_of_mem _ habove, hin⟩

variable {j v w : Json} {below? : Option Json} {below above : Table Json} {k : String}
variable {ks p : List String}

/-! ## Laying one value over another -/

/-- The value is an object. -/
def IsObject (j : Json) : Prop := ∃ fields, j = .obj fields

theorem isObject_obj (fields : Table Json) : (obj fields).IsObject := ⟨fields, rfl⟩

theorem mergeOver_of_not_isObject (h : ¬ v.IsObject) (below? : Option Json) :
    mergeOver below? v = v := by
  cases v with
  | obj fields => exact absurd (isObject_obj fields) h
  | _ => rfl

/-- Over what is no object any value stays as it is. -/
theorem mergeOver_of_forall (h : ∀ w ∈ below?, ¬ w.IsObject) (v : Json) :
    mergeOver below? v = v := by
  cases v with
  | obj incoming =>
    unfold mergeOver
    split
    · next below => exact absurd (isObject_obj below) (h _ rfl)
    · rfl
  | _ => rfl

theorem mergeOver_none (v : Json) : mergeOver none v = v :=
  mergeOver_of_forall (by simp) v

theorem mergeOver_obj (below above : Table Json) :
    mergeOver (some (.obj below)) (.obj above) = .obj (merge below above) := by
  unfold mergeOver
  rfl

theorem IsObject.mergeOver (h : v.IsObject) (below? : Option Json) :
    (mergeOver below? v).IsObject := by
  obtain ⟨above, rfl⟩ := h
  unfold Json.mergeOver
  split
  · exact isObject_obj _
  · exact isObject_obj _

/-! ## Canonical values -/

theorem Canonical.sorted (h : (Json.obj above).Canonical) : above.Sorted := by
  cases h with
  | obj hsorted _ => exact hsorted

theorem Canonical.value (h : (Json.obj above).Canonical) (hget : above.get? k = some v) :
    v.Canonical := by
  cases h with
  | obj _ hvalues => exact hvalues _ (Table.mem_of_get? hget)

/-- **Laying one canonical value over another** gives a canonical value. -/
theorem Canonical.mergeOver (h : v.Canonical) (hbelow : ∀ w ∈ below?, w.Canonical) :
    (mergeOver below? v).Canonical := by
  induction h generalizing below? with
  | @obj above hsorted hvalues ih =>
    by_cases hobj : ∃ below, below? = some (.obj below)
    · obtain ⟨below, rfl⟩ := hobj
      have hcanonical : Canonical (.obj below) := hbelow _ rfl
      have hmerged := sorted_merge hcanonical.sorted above
      rw [mergeOver_obj]
      refine .obj hmerged fun e he => ?_
      -- a value of the merged object is laid over one below, or stands below itself
      have hget := hmerged.get?_eq_some_iff.2 he
      rw [get?_merge _ hsorted] at hget
      cases habove : Table.get? above e.1 with
      | none =>
        rw [habove] at hget
        exact hcanonical.value hget
      | some w =>
        rw [habove, Option.map_some, Option.some_or, Option.some_inj] at hget
        rw [← hget]
        exact ih (e.1, w) (Table.mem_of_get? habove) fun u hu => hcanonical.value hu
    · rw [mergeOver_of_forall]
      · exact .obj hsorted hvalues
      · rintro w hw ⟨below, rfl⟩
        exact hobj ⟨below, hw⟩
  | null => exact .null
  | bool b => exact .bool b
  | int n => exact .int n
  | float x => exact .float x
  | str s => exact .str s
  | arr hitems => exact .arr hitems

/-- An object that repeats what it is laid over changes nothing. -/
theorem merge_eq_self (hbelow : below.Sorted) (habove : above.Sorted)
    (h : ∀ k w, above.get? k = some w → below.get? k = some (mergeOver (below.get? k) w)) :
    merge below above = below := by
  refine (sorted_merge hbelow above).ext hbelow fun k => ?_
  rw [get?_merge _ habove]
  cases hget : above.get? k with
  | none => rfl
  | some w => exact (h k w hget).symm

/-- **A value laid over what it was laid over before** changes nothing more. -/
theorem Canonical.mergeOver_mergeOver (h : v.Canonical) (hbelow : ∀ w ∈ below?, w.Canonical) :
    Json.mergeOver (some (Json.mergeOver below? v)) v = Json.mergeOver below? v := by
  induction h generalizing below? with
  | @obj above hsorted hvalues ih =>
    by_cases hobj : ∃ below, below? = some (.obj below)
    · obtain ⟨below, rfl⟩ := hobj
      have hcanonical : Canonical (.obj below) := hbelow _ rfl
      rw [mergeOver_obj, mergeOver_obj]
      refine congrArg _ (merge_eq_self (sorted_merge hcanonical.sorted above) hsorted
        fun k w hget => ?_)
      have hmerged : Table.get? (merge below above) k =
          some (Json.mergeOver (Table.get? below k) w) := by
        rw [get?_merge _ hsorted, hget]
        rfl
      rw [hmerged, ih (k, w) (Table.mem_of_get? hget) fun u hu => hcanonical.value hu]
    · have hnone : ∀ w ∈ below?, ¬ w.IsObject := by
        rintro w hw ⟨below, rfl⟩
        exact hobj ⟨below, hw⟩
      rw [mergeOver_of_forall hnone, mergeOver_obj]
      refine congrArg _ (merge_eq_self hsorted hsorted fun k w hget => ?_)
      have hself : Json.mergeOver (some (Json.mergeOver none w)) w = Json.mergeOver none w :=
        ih (k, w) (Table.mem_of_get? hget) (by simp)
      rw [mergeOver_none] at hself
      rw [hget, hself]
  | _ => rfl

/-- **Merging the same object again** changes nothing. -/
theorem merge_merge (hbelow : (obj below).Canonical) (habove : (obj above).Canonical) :
    merge (merge below above) above = merge below above := by
  have h : mergeOver (some (mergeOver (some (.obj below)) (.obj above))) (.obj above) =
      mergeOver (some (.obj below)) (.obj above) :=
    habove.mergeOver_mergeOver fun w hw => Option.some.inj hw ▸ hbelow
  rw [mergeOver_obj, mergeOver_obj] at h
  exact Json.obj.inj h

/-- Merging an object into itself changes nothing. -/
theorem merge_self (h : (obj below).Canonical) : merge below below = below := by
  have hself : mergeOver (some (mergeOver none (.obj below))) (.obj below) =
      mergeOver none (.obj below) := h.mergeOver_mergeOver (by simp)
  rw [mergeOver_none, mergeOver_obj] at hself
  exact Json.obj.inj hself

/-! ## Values at paths -/

/-- The value at a path of keys, the outermost key first. -/
def at? (j : Json) : List String → Option Json
  | [] => some j
  | k :: ks => (j.field? k).bind fun v => at? v ks

/-- **Something blocks the path**: a value that is no object stands at its end or
before. -/
def Blocks (j : Json) (p : List String) : Prop :=
  ∃ q, q <+: p ∧ ∃ v, j.at? q = some v ∧ ¬ v.IsObject

theorem at?_cons (j : Json) (k : String) (ks : List String) :
    j.at? (k :: ks) = (j.field? k).bind fun v => v.at? ks :=
  rfl

theorem field?_obj (fields : Table Json) (k : String) : (obj fields).field? k = fields.get? k :=
  rfl

theorem field?_of_not_isObject (h : ¬ j.IsObject) (k : String) : j.field? k = none := by
  cases j with
  | obj fields => exact absurd (isObject_obj fields) h
  | _ => rfl

theorem at?_of_not_isObject (h : ¬ j.IsObject) : j.at? (k :: ks) = none := by
  rw [at?_cons, field?_of_not_isObject h, Option.bind_none]

theorem blocks_of_not_isObject (h : ¬ j.IsObject) (p : List String) : j.Blocks p :=
  ⟨[], List.nil_prefix, j, rfl, h⟩

/-- What blocks a path from an object on blocks it from the value at the first
key on. -/
theorem blocks_obj_cons_iff :
    (obj above).Blocks (k :: ks) ↔ ∃ v, above.get? k = some v ∧ v.Blocks ks := by
  constructor
  · rintro ⟨_ | ⟨k', q⟩, hq, w, hw, hobj⟩
    · cases hw
      exact absurd (isObject_obj above) hobj
    · obtain ⟨rfl, hrest⟩ := List.cons_prefix_cons.1 hq
      obtain ⟨v, hv, hvw⟩ := Option.bind_eq_some_iff.1 hw
      exact ⟨v, hv, q, hrest, w, hvw, hobj⟩
  · rintro ⟨v, hv, q, hq, w, hw, hobj⟩
    refine ⟨k :: q, List.cons_prefix_cons.2 ⟨rfl, hq⟩, w, ?_, hobj⟩
    rw [at?_cons, field?_obj, hv, Option.bind_some, hw]

open scoped Classical in
/-- **What stands at a path** once a value has been laid over another: the value
at the path over the one below it, or else, if nothing blocks the path, what
stands below. -/
theorem Canonical.at?_mergeOver (h : v.Canonical) (below? : Option Json) (p : List String) :
    (Json.mergeOver below? v).at? p =
      ((v.at? p).map (Json.mergeOver (below?.bind fun j => j.at? p))).or
        (if v.Blocks p then none else below?.bind fun j => j.at? p) := by
  induction p generalizing below? v with
  | nil =>
    have hroot : (below?.bind fun j => j.at? []) = below? := Option.bind_fun_some below?
    rw [hroot]
    rfl
  | cons k ks ih =>
    by_cases hv : v.IsObject
    · obtain ⟨above, rfl⟩ := hv
      by_cases hbelow : ∃ w ∈ below?, w.IsObject
      · -- both are objects, so that it goes on at the key
        obtain ⟨_, rfl, below, rfl⟩ := hbelow
        rw [mergeOver_obj, at?_cons, field?_obj, get?_merge _ h.sorted, at?_cons, field?_obj,
          Option.bind_some, at?_cons, field?_obj, blocks_obj_cons_iff]
        cases hget : Table.get? above k with
        | none => simp
        | some w => simpa using ih (h.value hget) (Table.get? below k)
      · have hnone : ∀ w ∈ below?, ¬ w.IsObject := fun w hw hobj => hbelow ⟨w, hw, hobj⟩
        have hshows : (below?.bind fun j => j.at? (k :: ks)) = none :=
          Option.bind_eq_none_iff.2 fun w hw => at?_of_not_isObject (hnone w hw)
        have hbare : Json.mergeOver none = id := funext mergeOver_none
        rw [mergeOver_of_forall hnone, hshows, hbare, Option.map_id, id, ite_self, Option.or_none]
    · rw [mergeOver_of_not_isObject hv, at?_of_not_isObject hv,
        if_pos (blocks_of_not_isObject hv _)]
      rfl

/-! ## What is merged -/

/-- **An object is what merging gives**, told path by path: `upper` is laid over
`lower`. -/
structure Merges (lower upper j : Json) : Prop where
  /-- A value of the upper object that is no object is there. -/
  laid : ∀ p v, upper.at? p = some v → ¬ v.IsObject → j.at? p = some v
  /-- So is an object of the upper one, with all that it holds, where the lower
  one has no object. -/
  replaced : ∀ p v, upper.at? p = some v → v.IsObject → (∀ w ∈ lower.at? p, ¬ w.IsObject) →
    j.at? p = some v
  /-- Where both have objects there is one. -/
  joined : ∀ p v w, upper.at? p = some v → v.IsObject → lower.at? p = some w → w.IsObject →
    ∃ u, j.at? p = some u ∧ u.IsObject
  /-- What the upper object does not reach is kept, unless a value on the way was
  replaced. -/
  kept : ∀ p v, lower.at? p = some v → upper.at? p = none → ¬ upper.Blocks p → j.at? p = some v
  /-- There is no other path. -/
  only : ∀ p, (j.at? p).isSome = true →
    (upper.at? p).isSome = true ∨ (lower.at? p).isSome = true ∧ ¬ upper.Blocks p

theorem Canonical.merges (h : (Json.obj above).Canonical) (below : Table Json) :
    Merges (.obj below) (.obj above) (.obj (merge below above)) := by
  have hat := h.at?_mergeOver (some (.obj below))
  rw [mergeOver_obj] at hat
  simp only [Option.bind_some] at hat
  refine ⟨fun p v hv hobj => ?_, fun p v hv hobj hnone => ?_, fun p v w hv hobj hw hbelow => ?_,
    fun p v hv hnone hopen => ?_, fun p hsome => ?_⟩
  · rw [hat, hv, Option.map_some, mergeOver_of_not_isObject hobj]
    rfl
  · rw [hat, hv, Option.map_some, mergeOver_of_forall hnone]
    rfl
  · rw [hat, hv]
    exact ⟨_, rfl, hobj.mergeOver _⟩
  · rw [hat, hnone, if_neg hopen, hv]
    rfl
  · rw [hat] at hsome
    cases hv : (Json.obj above).at? p with
    | some v => exact .inl rfl
    | none =>
      rw [hv] at hsome
      split at hsome
      · cases hsome
      · next hopen => exact .inr ⟨hsome, hopen⟩

/-- Values that hold the same at every path, but for what is in their objects. -/
def Agree (v w : Json) : Prop :=
  ∀ p, v.at? p = w.at? p ∨
    ∃ u u', v.at? p = some u ∧ u.IsObject ∧ w.at? p = some u' ∧ u'.IsObject

/-- **Canonical values that agree** at every path are the same. -/
theorem Canonical.eq_of_agree (hv : v.Canonical) (hw : w.Canonical) (h : Agree v w) : v = w := by
  induction hv generalizing w with
  | @obj above hsorted hvalues ih =>
    rcases h [] with heq | ⟨_, _, -, -, hroot, above', rfl⟩
    · exact Option.some.inj heq
    · obtain rfl : w = .obj above' := Option.some.inj hroot
      refine congrArg _ (hsorted.ext hw.sorted fun k => ?_)
      rcases h [k] with heq | ⟨u, u', hu, -, hu', -⟩
      · simpa [at?, field?_obj] using heq
      · have hget : Table.get? above k = some u := by simpa [at?, field?_obj] using hu
        have hget' : Table.get? above' k = some u' := by simpa [at?, field?_obj] using hu'
        rw [hget, hget']
        refine congrArg _ (ih (k, u) (Table.mem_of_get? hget) (hw.value hget') fun p => ?_)
        have hp := h (k :: p)
        rwa [at?_cons, at?_cons, field?_obj, field?_obj, hget, hget'] at hp
  | _ =>
    rcases h [] with heq | ⟨_, _, hroot, ⟨fields, rfl⟩, -, -⟩
    · exact Option.some.inj heq
    · cases hroot

/-- What is merged is told completely. -/
theorem Merges.agree {lower upper : Json} (hv : Merges lower upper v) (hw : Merges lower upper w) :
    Agree v w := by
  intro p
  by_cases hopen : (upper.at? p).isSome = true ∨ (lower.at? p).isSome = true ∧ ¬ upper.Blocks p
  · cases hupper : upper.at? p with
    | some u =>
      by_cases hobj : u.IsObject
      · by_cases hbelow : ∃ b ∈ lower.at? p, b.IsObject
        · obtain ⟨b, hb, hbelow⟩ := hbelow
          obtain ⟨u, hu, hu'⟩ := hv.joined p _ b hupper hobj hb hbelow
          obtain ⟨x, hx, hx'⟩ := hw.joined p _ b hupper hobj hb hbelow
          exact .inr ⟨u, x, hu, hu', hx, hx'⟩
        · have hnone : ∀ b ∈ lower.at? p, ¬ b.IsObject := fun b hb hbobj => hbelow ⟨b, hb, hbobj⟩
          exact .inl ((hv.replaced p u hupper hobj hnone).trans
            (hw.replaced p u hupper hobj hnone).symm)
      · exact .inl ((hv.laid p u hupper hobj).trans (hw.laid p u hupper hobj).symm)
    | none =>
      rw [hupper] at hopen
      obtain ⟨hlower, hblocks⟩ := hopen.resolve_left Bool.false_ne_true
      obtain ⟨b, hb⟩ := Option.isSome_iff_exists.1 hlower
      exact .inl ((hv.kept p b hb hupper hblocks).trans (hw.kept p b hb hupper hblocks).symm)
  · have hnone : ∀ {j}, Merges lower upper j → j.at? p = none := fun hj =>
      Option.not_isSome_iff_eq_none.1 fun hsome => hopen (hj.only p hsome)
    exact .inl ((hnone hv).trans (hnone hw).symm)

/-- **What merging gives, path by path.** Where the upper object has a value that
is no object the result has it, and where it has an object and the lower one
has none the result has that object whole. Where it has nothing, and has
replaced nothing on the way, the result has what the lower object has. It has
no other path, so that no other object is told like this. Merging the same
object again changes nothing, and neither does merging an object into itself,
or the empty object into another. -/
theorem merged_by_path (hbelow : (obj below).Canonical) (habove : (obj above).Canonical) :
    Merges (.obj below) (.obj above) (.obj (merge below above)) ∧
      (∀ j : Json, j.Canonical → Merges (.obj below) (.obj above) j →
        j = .obj (merge below above)) ∧
      merge (merge below above) above = merge below above ∧
      merge below below = below ∧ merge below [] = below := by
  have hmerges := habove.merges below
  have hcanonical : (obj (merge below above)).Canonical := by
    rw [← mergeOver_obj]
    refine habove.mergeOver fun w hw => ?_
    cases hw
    exact hbelow
  refine ⟨hmerges, fun j hj hjmerges => hj.eq_of_agree hcanonical (hjmerges.agree hmerges),
    merge_merge hbelow habove, merge_self hbelow, ?_⟩
  rw [merge, mergeFields]

/-- The properties of a step with a timer. -/
def timedProperties : Table Json :=
  [("group", .str "flat"), ("timer", .obj [("cycle", .str "R3"), ("duration", .str "PT5M")])]

/-- Other properties for the step. -/
def retimedProperties : Table Json :=
  [("group", .obj [("a", .int 1)]), ("timer", .obj [("duration", .str "PT1H")])]

/-- The duration of the timer changes and its cycle is kept; the group becomes
an object. -/
theorem timer_retimed :
    (obj timedProperties).Canonical ∧ (obj retimedProperties).Canonical ∧
      let merged := merge timedProperties retimedProperties
      (obj merged).at? ["timer", "duration"] = some (.str "PT1H") ∧
      (obj merged).at? ["timer", "cycle"] = some (.str "R3") ∧
      (obj merged).at? ["group"] = some (.obj [("a", .int 1)]) ∧
      merge merged retimedProperties = merged := by
  have htimed : (obj timedProperties).Canonical := by
    refine .obj (by rw [Table.Sorted]; decide +kernel) ?_
    simp only [timedProperties, List.forall_mem_cons]
    refine ⟨.str _, .obj (by rw [Table.Sorted]; decide +kernel) ?_, List.forall_mem_nil _⟩
    simp only [List.forall_mem_cons]
    exact ⟨.str _, .str _, List.forall_mem_nil _⟩
  have hretimed : (obj retimedProperties).Canonical := by
    refine .obj (by rw [Table.Sorted]; decide +kernel) ?_
    simp only [retimedProperties, List.forall_mem_cons]
    exact ⟨.obj (List.pairwise_singleton _ _) (List.forall_mem_singleton.2 (.int 1)),
      .obj (List.pairwise_singleton _ _) (List.forall_mem_singleton.2 (.str _)),
      List.forall_mem_nil _⟩
  have hstr : ∀ s, ¬ (Json.str s).IsObject := by
    rintro s ⟨fields, h⟩
    cases h
  obtain ⟨hmerges, -, hagain, -⟩ := merged_by_path htimed hretimed
  have hopen : ¬ (obj retimedProperties).Blocks ["timer", "cycle"] := by
    have htimer : retimedProperties.get? "timer" = some (.obj [("duration", .str "PT1H")]) := rfl
    rw [blocks_obj_cons_iff, htimer]
    rintro ⟨_, ⟨⟩, hblocks⟩
    obtain ⟨v, hv, -⟩ := blocks_obj_cons_iff.1 hblocks
    cases hv
  refine ⟨htimed, hretimed, hmerges.laid _ _ rfl (hstr _), hmerges.kept _ _ rfl rfl hopen,
    hmerges.replaced _ _ rfl (isObject_obj _) ?_, hagain⟩
  rintro w ⟨⟩
  exact hstr _

end Json

end WorkflowCanvas
