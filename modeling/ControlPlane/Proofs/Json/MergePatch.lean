import ControlPlane.Json.MergePatch
import ControlPlane.Proofs.Json.Equality

/-!
# Merge patches by their members

What a merge patch does is said member by member. `get?_applyMembers` is the view of a patched
object, `get?_patchMembers` that of the patch between two objects, and `exists_applyPatch_mergePatch`
puts them together for a target that need not be the object from which the patch was computed.
-/

namespace ControlPlane.Json

/-! ## Applying a patch -/

theorem isNull_eq_false {j : Json} : j.isNull = false ↔ j ≠ .null := by
  cases j <;> simp [isNull]

/-- What becomes of a member when the patch has `v` for it. -/
def patched (v : Json) (old : Option Json) : Option Json :=
  if v.isNull then none else some (v.applyPatch (old.getD .null))

theorem applyMembers_cons (k : String) (v : Json) (rest : List (String × Json)) (t : Dict Json) :
    applyMembers ((k, v) :: rest) t =
      applyMembers rest
        (match patched v (t.get? k) with
          | none => t.erase k
          | some w => t.insert k w) := by
  cases v <;> simp [applyMembers, patched, isNull]

/-- A member that the patch does not have stays; of the others each is patched by itself. -/
theorem get?_applyMembers {p : Dict Json} (hp : (p.map (·.1)).Nodup) (t : Dict Json) (k : String) :
    (applyMembers p t).get? k =
      match p.get? k with
      | none => t.get? k
      | some v => patched v (t.get? k) := by
  induction p generalizing t with
  | nil => rfl
  | cons e rest ih =>
    obtain ⟨l, v⟩ := e
    simp only [List.map_cons, List.nodup_cons] at hp
    rw [applyMembers_cons, ih hp.2]
    by_cases hk : l = k
    · subst hk
      rw [Dict.get?_eq_none_of_not_mem hp.1]
      cases hv : patched v (t.get? l) <;> simp [Dict.get?_cons, Dict.get?_erase, Dict.get?_insert, hv]
    · have hview : (match patched v (t.get? l) with
          | none => t.erase l
          | some w => t.insert l w).get? k = t.get? k := by
        split <;> simp [Dict.get?_erase, Dict.get?_insert, hk]
      simp [Dict.get?_cons, hk, hview]

theorem sorted_applyMembers (p : List (String × Json)) {t : Dict Json} (ht : t.Sorted) :
    (applyMembers p t).Sorted := by
  induction p generalizing t with
  | nil => exact ht
  | cons e rest ih =>
    obtain ⟨k, v⟩ := e
    rw [applyMembers_cons]
    apply ih
    split
    · exact ht.erase k
    · exact ht.insert k _

theorem applyPatch_of_not_object {p : Json} (h : ∀ m, p ≠ .object m) (t : Json) :
    p.applyPatch t = p := by
  cases p <;> simp_all [applyPatch]

theorem applyPatch_ne_null {p : Json} (h : p ≠ .null) (t : Json) : p.applyPatch t ≠ .null := by
  cases p <;> simp_all [applyPatch]

theorem mergePatch_ne_null {desired : Json} (h : desired ≠ .null) (stored : Json) :
    mergePatch stored desired ≠ .null := by
  cases desired <;> cases stored <;> simp_all [mergePatch]

/-- The members of a target that is patched; what is no object has none. -/
def targetMembers (t : Json) : Dict Json := t.asObject?.getD []

@[simp] theorem targetMembers_object (m : Dict Json) : (object m).targetMembers = m := rfl

theorem applyPatch_object (p : List (String × Json)) (t : Json) :
    (object p).applyPatch t = .object (applyMembers p t.targetMembers) := by
  simp [applyPatch, targetMembers]

theorem Canonical.targetMembers {t : Json} (h : t.Canonical) :
    (object t.targetMembers).Canonical := by
  cases t <;>
    first
      | exact h
      | exact canonical_object.2 ⟨Dict.Sorted.nil, by simp [Json.targetMembers, asObject?]⟩

mutual

theorem Canonical.applyPatch {p t : Json} (hp : p.Canonical) (ht : t.Canonical) :
    (p.applyPatch t).Canonical := by
  match p with
  | .object members =>
    rw [applyPatch_object]
    exact Canonical.applyMembers (canonical_object.1 hp).2 ht.targetMembers
  | .null | .bool _ | .number _ | .string _ | .array _ =>
    rw [applyPatch_of_not_object (by simp)]
    exact hp

theorem Canonical.applyMembers {p : List (String × Json)} {t : Dict Json}
    (hp : ∀ e ∈ p, e.2.Canonical) (ht : (object t).Canonical) :
    (object (applyMembers p t)).Canonical := by
  match p with
  | [] => exact ht
  | (k, v) :: rest =>
    have hrest : ∀ e ∈ rest, e.2.Canonical := fun e he => hp e (List.mem_cons_of_mem _ he)
    have hv : v.Canonical := hp (k, v) List.mem_cons_self
    obtain ⟨hs, hm⟩ := canonical_object.1 ht
    rw [applyMembers_cons]
    refine Canonical.applyMembers hrest (canonical_object.2 ?_)
    unfold patched
    by_cases hn : v.isNull = true
    · simp only [hn, if_true]
      exact ⟨hs.erase k, fun e he => hm e ((List.mem_filter.1 he).1)⟩
    · simp only [hn]
      refine ⟨hs.insert k _, ?_⟩
      intro e he
      rcases Dict.mem_insert he with rfl | he
      · refine Canonical.applyPatch hv ?_
        cases hold : t.get? k with
        | none => simp [Canonical]
        | some old => exact ht.get? hold
      · exact hm e he

end

/-! ## Null-free values -/

mutual

/-- No object that is reached through members alone has a null member. -/
def NullFree : Json → Prop
  | .object members => NullFreeMembers members
  | _ => True

def NullFreeMembers : List (String × Json) → Prop
  | [] => True
  | (_, x) :: rest => x ≠ .null ∧ x.NullFree ∧ NullFreeMembers rest

end

theorem nullFreeMembers_iff {members : List (String × Json)} :
    NullFreeMembers members ↔ ∀ e ∈ members, e.2 ≠ .null ∧ e.2.NullFree := by
  induction members with
  | nil => simp [NullFreeMembers]
  | cons e rest ih => simp [NullFreeMembers, ih, and_assoc]

theorem nullFree_object {members : List (String × Json)} :
    (object members).NullFree ↔ ∀ e ∈ members, e.2 ≠ .null ∧ e.2.NullFree := by
  simp [NullFree, nullFreeMembers_iff]

mutual

/-- The value is not null, and null stands nowhere in it, neither in an object nor in an array. -/
def NoNull : Json → Prop
  | .null => False
  | .array items => NoNullItems items
  | .object members => NoNullMembers members
  | _ => True

def NoNullItems : List Json → Prop
  | [] => True
  | x :: rest => x.NoNull ∧ NoNullItems rest

def NoNullMembers : List (String × Json) → Prop
  | [] => True
  | (_, x) :: rest => x.NoNull ∧ NoNullMembers rest

end

theorem noNullItems_iff {items : List Json} : NoNullItems items ↔ ∀ x ∈ items, x.NoNull := by
  induction items with
  | nil => simp [NoNullItems]
  | cons x rest ih => simp [NoNullItems, ih]

theorem noNullMembers_iff {members : List (String × Json)} :
    NoNullMembers members ↔ ∀ e ∈ members, e.2.NoNull := by
  induction members with
  | nil => simp [NoNullMembers]
  | cons e rest ih => simp [NoNullMembers, ih]

theorem NoNull.ne_null {j : Json} (h : j.NoNull) : j ≠ .null := by
  rintro rfl
  exact h

mutual

theorem NoNull.nullFree {j : Json} (h : j.NoNull) : j.NullFree := by
  match j with
  | .object members => exact NoNullMembers.nullFree h
  | .null | .bool _ | .number _ | .string _ | .array _ => trivial

theorem NoNullMembers.nullFree {members : List (String × Json)} (h : NoNullMembers members) :
    NullFreeMembers members := by
  match members with
  | [] => trivial
  | (_, x) :: rest => exact ⟨h.1.ne_null, NoNull.nullFree h.1, NoNullMembers.nullFree h.2⟩

end

mutual

/-- A patch without nulls, applied where there is nothing yet, is what it says. -/
theorem NullFree.applyPatch_null {p : Json} (hn : p.NullFree) (hc : p.Canonical) :
    p.applyPatch .null = p := by
  match p with
  | .object members =>
    obtain ⟨hs, hm⟩ := canonical_object.1 hc
    rw [applyPatch_object]
    refine congrArg object
      ((sorted_applyMembers members Dict.Sorted.nil).ext hs fun k => ?_)
    rw [get?_applyMembers hs.nodup_keys]
    cases hk : Dict.get? members k with
    | none => rfl
    | some v =>
      exact NullFree.patched_none (nullFree_object.1 hn) hm (Dict.mem_of_get? hk)
  | .null | .bool _ | .number _ | .string _ | .array _ => simp [applyPatch]

theorem NullFree.patched_none {members : List (String × Json)}
    (hn : ∀ e ∈ members, e.2 ≠ .null ∧ e.2.NullFree) (hc : ∀ e ∈ members, e.2.Canonical)
    {k : String} {v : Json} (hv : (k, v) ∈ members) : patched v none = some v := by
  match members with
  | (l, w) :: rest =>
    rcases List.mem_cons.1 hv with heq | hv
    · cases heq
      have hw := hn (k, v) List.mem_cons_self
      simp [patched, isNull_eq_false.2 hw.1, NullFree.applyPatch_null hw.2 (hc (k, v) List.mem_cons_self)]
    · exact NullFree.patched_none (fun e he => hn e (List.mem_cons_of_mem _ he))
        (fun e he => hc e (List.mem_cons_of_mem _ he)) hv

end

/-! ## Computing a patch -/

/-- The members of the patch between two objects. -/
def patchMembers (stored desired : Dict Json) : Dict Json :=
  changedMembers stored desired (removedMembers stored desired)

theorem mergePatch_object (stored desired : Dict Json) :
    mergePatch (.object stored) (.object desired) = .object (patchMembers stored desired) := by
  simp [mergePatch, patchMembers]

theorem mergePatch_of_not_object {stored desired : Json}
    (h : (∀ m, stored ≠ .object m) ∨ ∀ m, desired ≠ .object m) :
    mergePatch stored desired = desired := by
  cases desired <;> cases stored <;> simp_all [mergePatch]

/-- The member of a patch that turns one member into another one; none where nothing differs. -/
def change (stored desired : Option Json) : Option Json :=
  match stored, desired with
  | none, none => none
  | some _, none => some .null
  | none, some v => some v
  | some prior, some v => if prior.same v then none else some (mergePatch prior v)

theorem get?_removedMembers (stored desired : Dict Json) (k : String) :
    (removedMembers stored desired).get? k =
      if stored.contains k && !desired.contains k then some .null else none := by
  rw [removedMembers, Dict.get?_map (fun _ => Json.null),
    Dict.get?_filter_key fun k => !desired.contains k]
  cases hs : stored.get? k <;> cases hd : desired.get? k <;> simp [Dict.contains, hs, hd]

theorem changedMembers_cons (stored : Dict Json) (k : String) (v : Json)
    (rest : List (String × Json)) (patch : Dict Json) :
    changedMembers stored ((k, v) :: rest) patch =
      changedMembers stored rest
        (match change (stored.get? k) (some v) with
          | none => patch
          | some w => patch.insert k w) := by
  rw [changedMembers]
  cases stored.get? k with
  | none => rfl
  | some prior => cases hs : prior.same v <;> simp [change, hs]

theorem get?_changedMembers (stored : Dict Json) {desired : Dict Json}
    (hd : (desired.map (·.1)).Nodup) (patch : Dict Json) (k : String) :
    (changedMembers stored desired patch).get? k =
      match desired.get? k with
      | none => patch.get? k
      | some v => (change (stored.get? k) (some v)).or (patch.get? k) := by
  induction desired generalizing patch with
  | nil => rfl
  | cons e rest ih =>
    obtain ⟨l, v⟩ := e
    simp only [List.map_cons, List.nodup_cons] at hd
    rw [changedMembers_cons, ih hd.2]
    by_cases hk : l = k
    · subst hk
      rw [Dict.get?_eq_none_of_not_mem hd.1]
      cases hc : change (stored.get? l) (some v) <;> simp [Dict.get?_cons, Dict.get?_insert, hc]
    · have hview : (match change (stored.get? l) (some v) with
          | none => patch
          | some w => patch.insert l w).get? k = patch.get? k := by
        split <;> simp [Dict.get?_insert, hk]
      rw [Dict.get?_cons, if_neg hk, hview]

theorem get?_patchMembers (stored : Dict Json) {desired : Dict Json}
    (hd : (desired.map (·.1)).Nodup) (k : String) :
    (patchMembers stored desired).get? k = change (stored.get? k) (desired.get? k) := by
  rw [patchMembers, get?_changedMembers stored hd, get?_removedMembers]
  cases hs : stored.get? k <;> cases hk : desired.get? k <;>
    simp [Dict.contains, hs, hk, change]

theorem sorted_changedMembers (stored : Dict Json) (desired : List (String × Json))
    {patch : Dict Json} (hp : patch.Sorted) :
    (changedMembers stored desired patch).Sorted := by
  induction desired generalizing patch with
  | nil => exact hp
  | cons e rest ih =>
    rw [changedMembers_cons]
    apply ih
    split
    · exact hp
    · exact hp.insert _ _

theorem sorted_patchMembers {stored : Dict Json} (hs : stored.Sorted) (desired : Dict Json) :
    (patchMembers stored desired).Sorted := by
  refine sorted_changedMembers stored desired ?_
  have hf : Dict.Sorted (stored.filter fun e => !Dict.contains desired e.1) :=
    List.Pairwise.filter _ hs
  exact hf.map fun _ => Json.null

mutual

theorem Canonical.mergePatch {stored desired : Json} (hs : stored.Canonical)
    (hd : desired.Canonical) : (mergePatch stored desired).Canonical := by
  match desired with
  | .object members =>
    match stored with
    | .object prior =>
      rw [mergePatch_object]
      refine canonical_object.2 ⟨sorted_patchMembers (canonical_object.1 hs).1 members, ?_⟩
      refine Canonical.changedMembers (canonical_object.1 hs).2 (canonical_object.1 hd).2 ?_
      simp only [removedMembers, List.mem_map]
      rintro _ ⟨_, _, rfl⟩
      simp [Canonical]
    | .null | .bool _ | .number _ | .string _ | .array _ =>
      rw [mergePatch_of_not_object (by simp)]
      exact hd
  | .null | .bool _ | .number _ | .string _ | .array _ =>
    rw [mergePatch_of_not_object (by simp)]
    exact hd

theorem Canonical.changedMembers {stored : Dict Json} {desired : List (String × Json)}
    {patch : Dict Json} (hs : ∀ e ∈ stored, e.2.Canonical) (hd : ∀ e ∈ desired, e.2.Canonical)
    (hp : ∀ e ∈ patch, e.2.Canonical) :
    ∀ e ∈ changedMembers stored desired patch, e.2.Canonical := by
  match desired with
  | [] => exact hp
  | (k, v) :: rest =>
    have hv : v.Canonical := hd (k, v) List.mem_cons_self
    rw [Json.changedMembers]
    refine Canonical.changedMembers hs (fun e he => hd e (List.mem_cons_of_mem _ he)) ?_
    intro e he
    cases hk : stored.get? k with
    | none =>
      rw [hk] at he
      rcases Dict.mem_insert he with rfl | he
      · exact hv
      · exact hp e he
    | some prior =>
      simp only [hk] at he
      split at he
      · exact hp e he
      · rcases Dict.mem_insert he with rfl | he
        · exact Canonical.mergePatch (hs (k, prior) (Dict.mem_of_get? hk)) hv
        · exact hp e he

end

/-! ## Applying a patch elsewhere -/

/-- What becomes of the member `old` of a target under the patch from `stored` to `desired`. -/
def mergedMember (stored desired old : Option Json) : Option Json :=
  match change stored desired with
  | none => old
  | some v => patched v old

/-- The patch between two objects, applied to any target, acts on each member by itself. -/
theorem exists_applyPatch_mergePatch {stored desired : Dict Json} {target : Json}
    (hs : stored.Sorted) (hd : desired.Sorted) (ht : target.Canonical) :
    ∃ merged : Dict Json,
      (mergePatch (.object stored) (.object desired)).applyPatch target = .object merged ∧
        merged.Sorted ∧
        ∀ k, merged.get? k =
          mergedMember (stored.get? k) (desired.get? k) (target.targetMembers.get? k) := by
  refine ⟨_, by rw [mergePatch_object, applyPatch_object],
    sorted_applyMembers _ (canonical_object.1 ht.targetMembers).1, fun k => ?_⟩
  rw [get?_applyMembers (sorted_patchMembers hs desired).nodup_keys,
    get?_patchMembers stored hd.nodup_keys]
  rfl

end ControlPlane.Json
