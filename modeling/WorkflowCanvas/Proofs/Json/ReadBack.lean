import WorkflowCanvas.Json.Record
import WorkflowCanvas.Proofs.Json.Reordering
/-!
# Reading back what was written

`ReadsAs read d x` says that `d`, and every document that reorders it, is
read as `x`. It holds of the leaves, and it is kept by lists, pairs, tables
and optional values. A record is written as the list of its fields
(`Written`), and what is found for a declared field reorders what was written
under its name (`Record.Holds`). So a record is read back field by field, and
one proof serves the text of a document and its value.
-/


namespace WorkflowCanvas

/-- **A value as it is read**: all objects have their fields sorted by key. -/
inductive Json.Canonical : Json → Prop
  | null : Canonical .null
  | bool (b : Bool) : Canonical (.bool b)
  | int (n : Int) : Canonical (.int n)
  | float (x : Float) : Canonical (.float x)
  | str (s : String) : Canonical (.str s)
  | arr {items : List Json} (h : ∀ v ∈ items, Canonical v) : Canonical (.arr items)
  | obj {fields : List (String × Json)} (hsorted : Table.Sorted fields)
      (h : ∀ e ∈ fields, Canonical e.2) : Canonical (.obj fields)

namespace Document

variable {α β : Type} {read : Document → Option α} {d d' : Document} {x : α}

/-- **A document is read as a value**, in whatever order its fields come. -/
structure ReadsAs (read : Document → Option α) (d : Document) (x : α) : Prop where
  wellFormed : d.WellFormed
  reads : ∀ d', Reorders d d' → read d' = some x

namespace ReadsAs

/-- The document itself is read so. -/
theorem self (h : ReadsAs read d x) : read d = some x := h.reads d h.wellFormed.reorders_self

/-- **The document has a value, and the value is read so.** -/
theorem exists_toJson? (h : ReadsAs read d x) :
    ∃ j, d.toJson? = some j ∧ read (ofJson j) = some x := by
  obtain ⟨j, hj, hre⟩ := h.wellFormed.exists_toJson?
  exact ⟨j, hj, h.reads _ hre⟩

/-! ## Leaves -/

theorem str (s : String) : ReadsAs asString? (.str s) s where
  wellFormed := WellFormed.str s
  reads := by
    intro d' h
    cases h
    rfl

theorem bool (b : Bool) : ReadsAs asBool? (.bool b) b where
  wellFormed := WellFormed.bool b
  reads := by
    intro d' h
    cases h
    rfl

theorem signed {n : Int} (hn : -Json.signedLimit ≤ n ∧ n < Json.signedLimit) :
    ReadsAs asSigned? (.int n) n where
  wellFormed := WellFormed.int n
  reads := by
    intro d' h
    cases h
    rw [asSigned?, if_pos hn]

theorem number {x : Float} (hx : x.isFinite = true) : ReadsAs asFloat? (number x) x := by
  have heq : Document.number x = .float x := if_pos hx
  rw [heq]
  refine ⟨WellFormed.float x, ?_⟩
  intro d' h
  cases h
  rfl

/-- An absent value is written as null. -/
theorem null : ReadsAs (asOption? read) .null none where
  wellFormed := WellFormed.null
  reads := by
    intro d' h
    cases h
    rfl

/-! ## Optional values, lists, pairs and tables -/

theorem asOption?_of_ne_null (h : d ≠ .null) : asOption? read d = (read d).map some := by
  cases d with
  | null => exact absurd rfl h
  | _ => rfl

theorem some (h : ReadsAs read d x) (hd : d ≠ .null) : ReadsAs (asOption? read) d (some x) where
  wellFormed := h.wellFormed
  reads := by
    intro d' hre
    have hd' : d' ≠ .null := by
      rintro rfl
      cases hre
      exact hd rfl
    rw [asOption?_of_ne_null hd', h.reads d' hre]
    rfl

/-- **An optional value is read back**, written as null where it is absent. -/
theorem option {encode : α → Document} {x? : Option α}
    (h : ∀ x, x? = .some x → ReadsAs read (encode x) x ∧ encode x ≠ .null) :
    ReadsAs (asOption? read) ((x?.map encode).getD .null) x? := by
  cases x? with
  | none => exact null
  | some x => exact some (h x rfl).1 (h x rfl).2

theorem text? (s? : Option String) : ReadsAs (asOption? asString?) (Document.text? s?) s? := by
  cases s? with
  | none => exact null
  | some s => exact some (str s) nofun

theorem listMap {encode : β → Document} {f : β → α} {ys : List β}
    (h : ∀ y ∈ ys, ReadsAs read (encode y) (f y)) :
    ReadsAs (asList? read) (Document.list encode ys) (ys.map f) where
  wellFormed := WellFormed.arr (List.forall_mem_map.2 fun y hy => (h y hy).wellFormed)
  reads := by
    intro d' hre
    cases hre with
    | @arr _ items' hall =>
      have hwritten := (List.forall₂_and_left ys items').2
        ⟨fun y hy => hy, List.forall₂_map_left_iff.1 hall⟩
      refine mapM_eq_some (List.forall₂_map_right_iff.2 ?_)
      exact (hwritten.imp fun y d' hy => (h y hy.1).reads d' hy.2).flip

/-- **A list is read back** item by item. -/
theorem list {encode : α → Document} {xs : List α} (h : ∀ x ∈ xs, ReadsAs read (encode x) x) :
    ReadsAs (asList? read) (Document.list encode xs) xs := by
  have hread := listMap (f := id) h
  rwa [List.map_id] at hread

theorem pair {read' : Document → Option β} {e : Document} {y : β} (h : ReadsAs read d x)
    (h' : ReadsAs read' e y) : ReadsAs (asPair? read read') (.arr [d, e]) (x, y) where
  wellFormed := by
    refine WellFormed.arr fun a ha => ?_
    rcases List.mem_pair.1 ha with rfl | rfl
    · exact h.wellFormed
    · exact h'.wellFormed
  reads := by
    rintro _ (_ | _ | _ | _ | _ | hall | _)
    cases hall with
    | cons hd hrest =>
      cases hrest with
      | cons he hnil =>
        cases hnil
        rw [asPair?, h.reads _ hd, h'.reads _ he]
        rfl

/-- **A sorted table is read back**, its entries in whatever order. -/
theorem table {encode : α → Document} {t : Table α} (hsorted : Table.Sorted t)
    (h : ∀ e ∈ t, ReadsAs read (encode e.2) e.2) :
    ReadsAs (asTable? read) (Document.table encode t) t where
  wellFormed := by
    refine WellFormed.obj ?_ (List.forall_mem_map.2 fun e he => (h e he).wellFormed)
    rw [List.map_map]
    exact hsorted.nodup_keys
  reads := by
    rintro _ (_ | _ | _ | _ | _ | _ | @⟨_, fields', hkeys, hperm, hre⟩)
    have hobj := Reorders.obj hkeys hperm hre
    -- a field is read as the entry that was written for it
    have hfield : ∀ f ∈ fields', ∃ e, ((read f.2).map fun v => (f.1, v)) = .some e ∧
        (e.1 = f.1 ∧ e ∈ t) := by
      intro f hf
      obtain ⟨d, hd, hdf⟩ := hobj.exists_left hf
      obtain ⟨e, he, heq⟩ := List.mem_map.1 hd
      obtain ⟨hkey, rfl⟩ := Prod.mk.inj heq
      refine ⟨e, ?_, hkey, he⟩
      rw [(h e he).reads _ hdf, ← hkey]
      rfl
    obtain ⟨entries, hentries, hall⟩ := exists_mapM hfield
    have hsame := keys_eq_of_forall₂ hall
    have hkeysOf : (entries.map (·.1)).Perm (List.map (·.1) t) := by
      rw [hsame]
      refine hperm.trans (List.Perm.of_eq ?_)
      rw [List.map_map]
      rfl
    have hentriesOf : entries.Perm t := by
      refine perm_of_perm_keys hsorted.nodup_keys hkeysOf fun e he => ?_
      obtain ⟨f, -, -, hmem⟩ := exists_mem_of_forall₂ hall he
      exact hmem
    rw [asTable?, hentries]
    exact congrArg Option.some (hsorted.ofList_of_perm hentriesOf)

/-- **A canonical value is read back from its document.** -/
theorem json {j : Json} (h : j.Canonical) : ReadsAs toJson? (ofJson j) j := by
  induction h with
  | null => exact ⟨WellFormed.null, by rintro _ ⟨⟩; rfl⟩
  | bool b => exact ⟨WellFormed.bool b, by rintro _ ⟨⟩; rfl⟩
  | int n => exact ⟨WellFormed.int n, by rintro _ ⟨⟩; rfl⟩
  | float x => exact ⟨WellFormed.float x, by rintro _ ⟨⟩; rfl⟩
  | str s => exact ⟨WellFormed.str s, by rintro _ ⟨⟩; rfl⟩
  | @arr items _ ih =>
    have hlist := list ih
    rw [ofJson, itemsOfJson_eq]
    refine ⟨hlist.wellFormed, fun d' hre => ?_⟩
    have hread := hlist.reads d' hre
    rcases hre with _ | _ | _ | _ | _ | @⟨_, items', hall⟩ | _
    rw [toJson?, itemsToJson?_eq]
    exact congrArg (Option.map Json.arr) hread
  | @obj fields hsorted _ ih =>
    have htable := table hsorted ih
    rw [ofJson, fieldsOfJson_eq]
    refine ⟨htable.wellFormed, fun d' hre => ?_⟩
    have hread := htable.reads d' hre
    rcases hre with _ | _ | _ | _ | _ | _ | @⟨_, fields', hkeys, hperm, hall⟩
    obtain ⟨entries, hentries, rfl⟩ := Option.map_eq_some_iff.1 hread
    rw [toJson?, fieldsToJson?_eq, hentries]
    rfl

/-- **An optional value that is null comes back as absent.** -/
theorem nonNull {j : Json} (h : j.Canonical) :
    ReadsAs (asOption? toJson?) (ofJson j) j.nonNull? := by
  cases h with
  | null => exact null
  | bool b => exact (json (.bool b)).some nofun
  | int n => exact (json (.int n)).some nofun
  | float x => exact (json (.float x)).some nofun
  | str s => exact (json (.str s)).some nofun
  | arr h => exact (json (.arr h)).some nofun
  | obj hsorted h => exact (json (.obj hsorted h)).some nofun

theorem fields {t : Table Json} (h : Json.Canonical (.obj t)) :
    ReadsAs asFields? (Document.fields t) t := by
  rcases h with _ | _ | _ | _ | _ | _ | ⟨hsorted, hvalues⟩
  exact table hsorted fun e he => json (hvalues e he)

end ReadsAs

/-! ## Records as they are written -/

/-- **Fields are written under names**: each name once at most and in this order,
with well-formed documents. -/
structure Written (names : List String) (fields : List (String × Document)) : Prop where
  keys : (fields.map (·.1)).Sublist names
  wellFormed : ∀ f ∈ fields, f.2.WellFormed

namespace Written

variable {names names' : List String} {fields fields' : List (String × Document)} {k : String}

theorem nil : Written [] [] := ⟨List.Sublist.refl _, nofun⟩

theorem cons (hd : d.WellFormed) (h : Written names fields) :
    Written (k :: names) ((k, d) :: fields) :=
  ⟨h.keys.cons_cons k, List.forall_mem_cons.2 ⟨hd, h.wellFormed⟩⟩

theorem append (h : Written names fields) (h' : Written names' fields') :
    Written (names ++ names') (fields ++ fields') where
  keys := by
    rw [List.map_append]
    exact h.keys.append h'.keys
  wellFormed := List.forall_mem_append.2 ⟨h.wellFormed, h'.wellFormed⟩

/-- A field that is left out when it is absent. -/
theorem field? {encode : α → Document} {x? : Option α}
    (h : ∀ x, x? = some x → (encode x).WellFormed) : Written [k] (Document.field? k encode x?) := by
  cases x? with
  | none => exact ⟨List.nil_sublist _, nofun⟩
  | some x => exact cons (h x rfl) nil

/-- A field that is left out when its list is empty. -/
theorem fieldUnlessEmpty {encode : List α → Document} {xs : List α}
    (h : (encode xs).WellFormed) : Written [k] (Document.fieldUnlessEmpty k encode xs) := by
  cases xs with
  | nil => exact ⟨List.nil_sublist _, nofun⟩
  | cons x xs => exact cons h nil

theorem sublist (h : Written names fields) (hsub : names.Sublist names') :
    Written names' fields := ⟨h.keys.trans hsub, h.wellFormed⟩

theorem obj (h : Written names fields) (hnames : names.Nodup) :
    (Document.obj fields).WellFormed := WellFormed.obj (hnames.sublist h.keys) h.wellFormed

end Written

/-- Where a field stands. -/
@[simp] theorem lookup_cons_eq_ite {k name : String} {rest : List (String × Document)} :
    ((k, d) :: rest).lookup name = if name = k then some d else rest.lookup name := by
  rw [List.lookup_cons]
  by_cases hk : name = k
  · rw [if_pos hk, beq_iff_eq.2 hk]
  · rw [if_neg hk, beq_false_of_ne hk]

/-- Where a field stands that is left out when it is absent. -/
@[simp] theorem lookup_field? {k name : String} {encode : α → Document} {x? : Option α} :
    (Document.field? k encode x?).lookup name = if name = k then x?.map encode else none := by
  cases x? with
  | none => exact (ite_self none).symm
  | some x => exact lookup_cons_eq_ite

/-- Where a field stands that is left out when its list is empty. -/
@[simp] theorem lookup_fieldUnlessEmpty {k name : String} {encode : List α → Document} {xs : List α} :
    (Document.fieldUnlessEmpty k encode xs).lookup name =
      if name = k then if xs = [] then none else some (encode xs) else none := by
  cases xs with
  | nil => exact (ite_self none).symm
  | cons x xs => exact lookup_cons_eq_ite

end Document

/-! ## Records as they are read -/

namespace Record

open Document (ReadsAs Reorders)

variable {α : Type} {r : Record} {names : List String} {fields : List (String × Document)}
variable {name : String} {d : Document} {read : Document → Option α} {encode : α → Document}

/-- The fields of one name are the one that is found there. -/
theorem filter_eq_toList (h : (fields.map (·.1)).Nodup) :
    (fields.filter fun f => f.1 == name) = (fields.lookup name).toList.map fun d => (name, d) := by
  induction fields with
  | nil => rfl
  | cons f rest ih =>
    obtain ⟨k, d⟩ := f
    obtain ⟨hnew, hrest⟩ := List.nodup_cons.1 h
    by_cases hk : k = name
    · subst hk
      have hnone : (rest.filter fun f => f.1 == k) = [] := by
        refine List.filter_eq_nil_iff.2 fun f hf hkey => hnew ?_
        exact List.mem_map.2 ⟨f, hf, beq_iff_eq.1 hkey⟩
      rw [List.filter_cons_of_pos (by simp), hnone, List.lookup_cons_self]
      rfl
    · have hne : (name == k) = false := beq_false_of_ne (Ne.symm hk)
      rw [List.filter_cons_of_neg (by simpa using hk), ih hrest, List.lookup_cons, hne]

/-- A field that is written once at most is found where it stands. -/
theorem unique?_eq (h : (fields.map (·.1)).Nodup) :
    unique? (name, []) fields = some (fields.lookup name) := by
  have hplain : (fields.filter fun f => f.1 == name || List.contains [] f.1) =
      fields.filter fun f => f.1 == name :=
    List.filter_congr fun f _ => Bool.or_false _
  rw [unique?, hplain, filter_eq_toList h]
  cases fields.lookup name <;> rfl

/-- **A record holds what was written under the names**, reordered. -/
def Holds (r : Record) (names : List String) (fields : List (String × Document)) : Prop :=
  ∀ name ∈ names, Option.Rel Reorders (fields.lookup name) (r.get? name)

/-- **An object is a record with the declared fields**, in whatever order they
come. -/
theorem exists_holds {d' : Document} (h : Reorders (.obj fields) d') (names : List String) :
    ∃ r, of? (plain names) d' = some r ∧ r.Holds names fields := by
  rcases h with _ | _ | _ | _ | _ | _ | @⟨_, fields', hkeys, hperm, hre⟩
  have hobj := Reorders.obj hkeys hperm hre
  refine ⟨⟨false, names.map fun name => (name, fields'.lookup name)⟩, ?_, ?_⟩
  · have hslots : slotsOfFields? (plain names) fields' =
        some (names.map fun name => (name, fields'.lookup name)) := by
      refine mapM_eq_some (List.forall₂_map_left_iff.2 (List.forall₂_map_right_iff.2 ?_))
      refine List.forall₂_same.2 fun name _ => ?_
      rw [unique?_eq hobj.nodup_keys.2]
      rfl
    rw [of?, hslots]
    rfl
  · intro name hname
    have hfound : (names.map fun name => (name, fields'.lookup name)).lookup name =
        some (fields'.lookup name) := by
      clear hkeys hperm hre hobj
      induction names with
      | nil => cases hname
      | cons n rest ih =>
        by_cases hn : name = n
        · subst hn
          exact List.lookup_cons_self
        · have hne : (name == n) = false := beq_false_of_ne hn
          rw [List.map_cons, List.lookup_cons, hne]
          exact ih ((List.mem_cons.1 hname).resolve_left hn)
    rw [get?, hfound]
    exact hobj.rel_lookup name

namespace Holds

/-- What was written under a name is found reordered. -/
theorem exists_get? (h : r.Holds names fields) (hname : name ∈ names)
    (hd : fields.lookup name = some d) : ∃ d', r.get? name = some d' ∧ Reorders d d' := by
  have hrel := h name hname
  rw [hd] at hrel
  rcases hget : r.get? name with _ | d'
  · rw [hget] at hrel
    cases hrel
  · rw [hget] at hrel
    exact ⟨d', rfl, Option.rel_some_some.1 hrel⟩

/-- What was left out is not found. -/
theorem get?_eq_none (h : r.Holds names fields) (hname : name ∈ names)
    (hd : fields.lookup name = none) : r.get? name = none := by
  have hrel := h name hname
  rw [hd] at hrel
  rcases hget : r.get? name with _ | d'
  · rfl
  · rw [hget] at hrel
    cases hrel

/-- A field that was written is read. -/
theorem required {x : α} (h : r.Holds names fields) (name : String) (hx : ReadsAs read d x)
    (hd : fields.lookup name = some d) (hname : name ∈ names) : r.required name read = some x := by
  obtain ⟨d', hget, hre⟩ := h.exists_get? hname hd
  rw [Record.required, hget]
  exact hx.reads d' hre

/-- A field that was written is read, also where it has a default. -/
theorem default {x : α} (h : r.Holds names fields) (name : String) (absent : α)
    (hx : ReadsAs read d x) (hd : fields.lookup name = some d) (hname : name ∈ names) :
    r.default name absent read = some x := by
  obtain ⟨d', hget, hre⟩ := h.exists_get? hname hd
  rw [Record.default, hget]
  exact hx.reads d' hre

/-- A field has its default where it is left out. -/
theorem default_absent (h : r.Holds names fields) (name : String) (absent : α)
    (hd : fields.lookup name = none) (hname : name ∈ names) :
    r.default name absent read = some absent := by
  rw [Record.default, h.get?_eq_none hname hd]

/-- A field is read that is written as null where it is absent. -/
theorem optional {x? : Option α} (h : r.Holds names fields) (name : String)
    (hx : ReadsAs (Document.asOption? read) d x?) (hd : fields.lookup name = some d)
    (hname : name ∈ names) : r.optional name read = some x? := by
  obtain ⟨d', hget, hre⟩ := h.exists_get? hname hd
  rw [Record.optional, hget]
  exact hx.reads d' hre

/-- A field is read that may be left out, and is written all the same. -/
theorem optionalDefault {x? : Option α} (h : r.Holds names fields) (name : String)
    (hx : ReadsAs (Document.asOption? read) d x?) (hd : fields.lookup name = some d)
    (hname : name ∈ names) : r.optionalDefault name read = some x? :=
  h.default name none hx hd hname

/-- What is read of a field that is left out where it is absent. -/
theorem field?_bind {β : Type} {encode : β → Document} {y? : Option β} {f : β → Option α}
    (h : r.Holds names fields) (name : String)
    (hy : ∀ y, y? = some y → ReadsAs (Document.asOption? read) (encode y) (f y))
    (hd : fields.lookup name = y?.map encode) (hname : name ∈ names) :
    r.optionalDefault name read = some (y?.bind f) := by
  cases y? with
  | none => exact h.default_absent name none hd hname
  | some y => exact h.default name none (hy y rfl) hd hname

/-- A field is read that is left out where it is absent. -/
theorem field? {x? : Option α} (h : r.Holds names fields) (name : String)
    (hx : ∀ x, x? = some x → ReadsAs (Document.asOption? read) (encode x) (some x))
    (hd : fields.lookup name = x?.map encode) (hname : name ∈ names) :
    r.optionalDefault name read = some x? := by
  have hread := h.field?_bind name hx hd hname
  rwa [Option.bind_fun_some] at hread

/-- A field is read that is left out where its list is empty. -/
theorem fieldUnlessEmpty {β : Type} {read : Document → Option (List β)}
    {encode : List β → Document} {xs : List β} (h : r.Holds names fields) (name : String)
    (hx : ReadsAs read (encode xs) xs)
    (hd : fields.lookup name = if xs = [] then none else some (encode xs)) (hname : name ∈ names) :
    r.default name [] read = some xs := by
  split at hd
  · next hnil =>
    rw [hnil]
    exact h.default_absent name [] hd hname
  · exact h.default name [] hx hd hname

end Holds

end Record

end WorkflowCanvas
