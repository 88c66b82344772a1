import ControlPlane.Cluster.Answer
import ControlPlane.Proofs.Access.Role
import ControlPlane.Proofs.Cluster.Store

/-!
# Roles and bindings in a cluster

`Cluster.Changes T` says that all that has happened concerns the roles and bindings at the targets
`T`: whatever else is asked for is answered as before. In an orderly cluster a role or binding that
was not found can be created, one that was found can be changed, and one that was deleted is gone.
-/

namespace ControlPlane

/-- The collections of roles and of bindings. -/
def Collection.HoldsAccess : Collection → Prop
  | .roles | .bindings | .clusterRoles | .clusterBindings => True
  | _ => False

/-- The target is a role or a binding. -/
structure Target.IsAccess (t : Target) : Prop where
  collection : t.collection.HoldsAccess
  type : t.type = none

namespace Target

variable {t t' : Target} {j : Json}

theorem IsAccess.fits_iff (ht : t.IsAccess) (j : Json) : t.fits j = true ↔ j.place = t.place := by
  simp [fits, ht.type]

theorem IsAccess.disjoint (ht : t.IsAccess) (ht' : t'.IsAccess) (hne : t' ≠ t)
    (hcollection : t'.collection = t.collection) (hj : j.place = t.place) :
    t'.fits j = false := by
  refine Bool.eq_false_iff.2 fun hfits => hne ?_
  have hplace := ((ht'.fits_iff j).1 hfits).symm.trans hj
  have htype := ht'.type.trans ht.type.symm
  cases t
  cases t'
  cases hcollection
  cases hplace
  cases htype
  rfl

end Target

namespace Cluster

variable {s s' s'' : Cluster} {t : Target} {T T' : Target → Prop} {scope : Scope} {name : String}

theorem role_isAccess (scope : Scope) (name : String) : (role scope name).IsAccess := by
  cases scope <;> exact ⟨trivial, rfl⟩

theorem binding_isAccess (scope : Scope) (name : String) : (binding scope name).IsAccess := by
  cases scope <;> exact ⟨trivial, rfl⟩

/-- All objects are in key order, and roles and bindings are in places of their own. -/
structure Orderly (s : Cluster) : Prop where
  canonical : ∀ c, ∀ j ∈ s.objects c, j.Canonical
  distinct : ∀ c, c.HoldsAccess → ((s.objects c).map Json.place).Nodup

/-- The clusters differ in the roles and bindings at the targets `T` at most, and order is kept. -/
structure Changes (T : Target → Prop) (s s' : Cluster) : Prop where
  find : ∀ t : Target, t.IsAccess → ¬ T t → s'.find? t = s.find? t
  objects : ∀ c, ¬ c.HoldsAccess → s'.objects c = s.objects c
  reviews : s'.reviews = s.reviews
  orderly : s.Orderly → s'.Orderly

namespace Changes

theorem refl (T : Target → Prop) (s : Cluster) : Changes T s s :=
  ⟨fun _ _ _ => rfl, fun _ _ => rfl, rfl, id⟩

theorem trans (h : Changes T s s') (h' : Changes T s' s'') : Changes T s s'' where
  find t ht hT := (h'.find t ht hT).trans (h.find t ht hT)
  objects c hc := (h'.objects c hc).trans (h.objects c hc)
  reviews := h'.reviews.trans h.reviews
  orderly hs := h'.orderly (h.orderly hs)

theorem mono (h : Changes T s s') (hT : ∀ t, T t → T' t) : Changes T' s s' where
  find t ht hT' := h.find t ht fun h => hT' (hT t h)
  objects := h.objects
  reviews := h.reviews
  orderly := h.orderly

end Changes

/-- Only the objects of one collection are others, and these only at one target. -/
theorem Changes.of_target (ht : t.IsAccess)
    (hobjects : ∀ c, c ≠ t.collection → s'.objects c = s.objects c)
    (hfind : ∀ t' : Target, t'.IsAccess → t' ≠ t → t'.collection = t.collection →
      s'.find? t' = s.find? t')
    (hreviews : s'.reviews = s.reviews)
    (hcanonical : s.Orderly → ∀ j ∈ s'.objects t.collection, j.Canonical)
    (hdistinct : s.Orderly → ((s'.objects t.collection).map Json.place).Nodup) :
    Changes (· = t) s s' where
  find t' ht' hne := by
    by_cases hc : t'.collection = t.collection
    · exact hfind t' ht' hne hc
    · exact find?_of_objects_eq (hobjects _ hc)
  objects c hc := hobjects c fun heq => hc (heq ▸ ht.collection)
  reviews := hreviews
  orderly hs := by
    refine ⟨fun c => ?_, fun c hc => ?_⟩
    · by_cases h : c = t.collection
      · subst h
        exact hcanonical hs
      · rw [hobjects c h]
        exact hs.canonical c
    · by_cases h : c = t.collection
      · subst h
        exact hdistinct hs
      · rw [hobjects c h]
        exact hs.distinct c hc

theorem changes_replaced (ht : t.IsAccess) {j : Json} (hj : j.Canonical)
    (hplace : j.place = t.place) : Changes (· = t) s (s.replaced t j) := by
  have hobjects := objects_replaced_self s t j
  refine .of_target ht (fun c hc => objects_replaced_of_ne hc) ?_ rfl (fun hs i hi => ?_)
    fun hs => ?_
  · intro t' ht' hne hc
    have hdisjoint {i : Json} (hi : i.place = t.place) := ht.disjoint ht' hne hc hi
    rw [find?, find?, hc, hobjects]
    exact find?_updateFirst_of_disjoint (fun i hi => hdisjoint ((ht.fits_iff i).1 hi))
      fun _ _ => hdisjoint hplace
  · rw [hobjects] at hi
    rcases mem_of_mem_updateFirst hi with hi | ⟨_, -, rfl⟩
    · exact hs.canonical _ i hi
    · exact hj
  · rw [hobjects, map_updateFirst]
    · exact hs.distinct _ ht.collection
    · intro i hi
      exact hplace.trans ((ht.fits_iff i).1 (List.find?_some hi)).symm

theorem changes_created (ht : t.IsAccess) (hnone : s.find? t = none) {j : Json}
    (hj : j.Canonical) (hplace : j.place = t.place) : Changes (· = t) s (s.created t j) := by
  have hobjects := objects_created_self s t j
  refine .of_target ht (fun c hc => objects_created_of_ne hc) ?_ rfl (fun hs i hi => ?_)
    fun hs => ?_
  · intro t' ht' hne hc
    rw [find?, find?, hc, hobjects, List.find?_append,
      List.find?_cons_of_neg (by simp [ht.disjoint ht' hne hc hplace])]
    simp
  · rw [hobjects] at hi
    rcases List.mem_append.1 hi with hi | hi
    · exact hs.canonical _ i hi
    · exact List.mem_singleton.1 hi ▸ hj
  · rw [hobjects, List.map_append, List.nodup_append]
    refine ⟨hs.distinct _ ht.collection, by simp, ?_⟩
    intro p hp q hq hpq
    obtain ⟨i, hi, rfl⟩ := List.mem_map.1 hp
    obtain rfl := List.mem_singleton.1 hq
    exact List.find?_eq_none.1 hnone i hi ((ht.fits_iff i).2 (hpq.trans hplace))

theorem changes_removed (ht : t.IsAccess) : Changes (· = t) s (s.remove t) := by
  have hobjects := objects_removed_self s t
  refine .of_target ht (fun c hc => objects_withObjects_of_ne hc s _) ?_ rfl (fun hs i hi => ?_)
    fun hs => ?_
  · intro t' ht' hne hc
    rw [find?, find?, hc, hobjects]
    exact find?_eraseP_of_disjoint fun i hi => ht.disjoint ht' hne hc ((ht.fits_iff i).1 hi)
  · rw [hobjects] at hi
    exact hs.canonical _ i (List.mem_of_mem_eraseP hi)
  · rw [hobjects]
    exact List.Nodup.sublist (List.Sublist.map _ List.eraseP_sublist) (hs.distinct _ ht.collection)

namespace Orderly

variable {j : Json}

theorem find?_removed (hs : s.Orderly) (ht : t.IsAccess) : (s.remove t).find? t = none := by
  rw [find?, objects_removed_self]
  exact find?_eraseP_self ht.fits_iff (hs.distinct _ ht.collection)

theorem canonical_of_find? (hs : s.Orderly) (h : s.find? t = some j) : j.Canonical :=
  hs.canonical _ j (List.mem_of_find?_eq_some h)

end Orderly

/-! ## Calls that succeed -/

/-- What was not found can be created. -/
theorem exists_create {j : Json} (ht : t.IsAccess) (hnone : s.find? t = none) (hj : j.Canonical)
    (hplace : (j.withResourceVersion s.nextVersion).place = t.place) :
    ∃ s', s.create t j = (.ok (j.withResourceVersion s.nextVersion), s') ∧ Changes (· = t) s s' ∧
      s'.find? t = some (j.withResourceVersion s.nextVersion) := by
  exact ⟨s.created t (j.withResourceVersion s.nextVersion), create_of_none hnone,
    changes_created ht hnone (hj.withResourceVersion _) hplace,
    find?_created hnone ((ht.fits_iff _).2 hplace)⟩

/-- What was found can be changed, if its version is named or none is. -/
theorem exists_update {j : Json} (ht : t.IsAccess) (hfind : s.find? t = some j) {f : Json → Json}
    {version : Option String} (hversion : version = j.resourceVersion?) (hf : (f j).Canonical)
    (hplace : ((f j).withResourceVersion s.nextVersion).place = t.place) :
    ∃ s', s.update t version f = (.ok ((f j).withResourceVersion s.nextVersion), s') ∧
      Changes (· = t) s s' ∧ s'.find? t = some ((f j).withResourceVersion s.nextVersion) := by
  exact ⟨s.replaced t ((f j).withResourceVersion s.nextVersion), update_of_find? hfind hversion,
    changes_replaced ht (hf.withResourceVersion _) hplace,
    find?_replaced hfind ((ht.fits_iff _).2 hplace)⟩

/-! ## Reading -/

section Reading

variable {α : Type} {c : Codec α} {a : α} {metadata : α → Metadata} {withVersion : α → String → α}

/-- What is created is found afterwards. -/
theorem exists_create_get (hc : c.Versioned metadata withVersion) (ht : t.IsAccess)
    (hnone : s.get t c = .ok none) {j : Json} (hj : j.Canonical) (hread : c.read j = .ok a)
    (hplace : t.place = ⟨(metadata a).ns, (metadata a).anyName⟩) :
    ∃ s', s.create t j = (.ok (j.withResourceVersion s.nextVersion), s') ∧
      Changes (· = t) s s' ∧ s'.find? t = some (j.withResourceVersion s.nextVersion) ∧
      s'.get t c = .ok (some (withVersion a s.nextVersion)) := by
  obtain ⟨hstored, hread'⟩ := hc.place_and_read hj hread s.nextVersion
  obtain ⟨s', hcreate, hchanges, hfind⟩ :=
    exists_create (s := s) ht (get_eq_none.1 hnone) hj (hstored.trans hplace.symm)
  exact ⟨s', hcreate, hchanges, hfind, get_eq_some.2 ⟨_, hfind, hread'⟩⟩

/-- What is changed in the version in which it was found is found changed afterwards. -/
theorem Orderly.exists_update_get (hs : s.Orderly) (hc : c.Versioned metadata withVersion)
    (ht : t.IsAccess) (hget : s.get t c = .ok (some a)) {f : Json → Json} {b : α}
    (hf : ∀ m, (Json.object m).Canonical → c.read (.object m) = .ok a →
      (f (.object m)).Canonical ∧ c.read (f (.object m)) = .ok b)
    (hmetadata : metadata b = metadata a) :
    ∃ j s', s.find? t = some j ∧
      s.update t (metadata a).resourceVersion f =
        (.ok ((f j).withResourceVersion s.nextVersion), s') ∧
      Changes (· = t) s s' ∧ s'.find? t = some ((f j).withResourceVersion s.nextVersion) ∧
      s'.get t c = .ok (some (withVersion b s.nextVersion)) := by
  obtain ⟨j, hfind, hread⟩ := get_eq_some.1 hget
  obtain ⟨m, rfl⟩ := hc.exists_object hread
  have hm := hs.canonical_of_find? hfind
  obtain ⟨hfm, hfread⟩ := hf m hm hread
  have hplace : t.place = ⟨(metadata b).ns, (metadata b).anyName⟩ := by
    rw [hmetadata, ← hc.place hm hread, (ht.fits_iff _).1 (List.find?_some hfind)]
  obtain ⟨hstored, hread'⟩ := hc.place_and_read hfm hfread s.nextVersion
  obtain ⟨s', hupdate, hchanges, hfind'⟩ := exists_update (f := f) ht hfind
    (hc.resourceVersion hm hread).symm hfm (hstored.trans hplace.symm)
  exact ⟨_, s', hfind, hupdate, hchanges, hfind', get_eq_some.2 ⟨_, hfind', hread'⟩⟩

end Reading

/-! ## Roles and bindings -/

theorem exists_createRole {r : Role} (hr : r.metadata.Valid) (hns : r.metadata.ns = scope.ns?)
    (hnone : (s.answer (.getRole scope r.metadata.anyName)).1 = .ok none) :
    ∃ s' found, s.answer (.createRole scope r) = (.ok (), s') ∧
      Changes (· = role scope r.metadata.anyName) s s' ∧
      (s'.answer (.getRole scope r.metadata.anyName)).1 = .ok (some found) ∧
      found.rules = r.rules ∧ s'.find? (role scope r.metadata.anyName) =
        some (((Role.codec scope.breadth).encode r).withResourceVersion s.nextVersion) := by
  obtain ⟨s', hcreate, hchanges, hfind, hget⟩ := exists_create_get (Role.codec_versioned scope.breadth)
    (role_isAccess scope _) hnone (Role.codec_writes _ r hr).canonical (Role.read_encode hr)
    (congrArg (ObjectRef.mk · _) hns.symm)
  refine ⟨s', _, ?_, hchanges, hget, rfl, hfind⟩
  simp only [answer, hcreate, written]
  rfl

theorem Orderly.exists_patchRules (hs : s.Orderly) {r : Role}
    (hget : (s.answer (.getRole scope name)).1 = .ok (some r)) (rules : List AccessRule) :
    ∃ s' found, s.answer (.patchRules scope name r.metadata.resourceVersion rules) = (.ok (), s') ∧
      Changes (· = role scope name) s s' ∧
      (s'.answer (.getRole scope name)).1 = .ok (some found) ∧ found.rules = some rules ∧
      ∃ j, s.find? (role scope name) = some j ∧ s'.find? (role scope name) =
        some ((j.withMember "rules" (AccessRule.codec.list.encode rules)).withResourceVersion
          s.nextVersion) := by
  obtain ⟨j, s', hfind, hupdate, hchanges, hfind', hget'⟩ := hs.exists_update_get
    (f := (·.withMember "rules" (AccessRule.codec.list.encode rules)))
    (b := { r with rules := some rules }) (Role.codec_versioned scope.breadth)
    (role_isAccess scope name) hget
    (fun m hm hread => ⟨hm.withMember "rules"
      (Codec.Writes.list AccessRule.codec_writes rules fun _ _ => trivial).canonical,
      Role.read_withRules (Json.canonical_object.1 hm).1 hread rules⟩) rfl
  refine ⟨s', _, ?_, hchanges, hget', rfl, j, hfind, hfind'⟩
  simp only [answer, hupdate, written]
  rfl

theorem exists_createBinding {b : RoleBinding} (hb : b.metadata.Valid)
    (hns : b.metadata.ns = scope.ns?)
    (hnone : (s.answer (.getBinding scope b.metadata.anyName)).1 = .ok none) :
    ∃ s' found, s.answer (.createBinding scope b) = (.ok (), s') ∧
      Changes (· = binding scope b.metadata.anyName) s s' ∧
      (s'.answer (.getBinding scope b.metadata.anyName)).1 = .ok (some found) ∧
      found.roleRef = b.roleRef ∧ found.subjects = b.subjects ∧
      s'.find? (binding scope b.metadata.anyName) =
        some (((RoleBinding.codec scope.breadth).encode b).withResourceVersion s.nextVersion) := by
  obtain ⟨s', hcreate, hchanges, hfind, hget⟩ := exists_create_get
    (RoleBinding.codec_versioned scope.breadth) (binding_isAccess scope _) hnone
    (RoleBinding.codec_writes _ b hb).canonical (RoleBinding.read_encode hb)
    (congrArg (ObjectRef.mk · _) hns.symm)
  refine ⟨s', _, ?_, hchanges, hget, rfl, rfl, hfind⟩
  simp only [answer, hcreate, written]
  rfl

theorem Orderly.exists_patchSubjects (hs : s.Orderly) {b : RoleBinding}
    (hget : (s.answer (.getBinding scope name)).1 = .ok (some b))
    (subjects : List BindingSubject) :
    ∃ s' found,
      s.answer (.patchSubjects scope name b.metadata.resourceVersion subjects) = (.ok (), s') ∧
      Changes (· = binding scope name) s s' ∧
      (s'.answer (.getBinding scope name)).1 = .ok (some found) ∧
      found.roleRef = b.roleRef ∧ found.subjects = some subjects ∧
      ∃ j, s.find? (binding scope name) = some j ∧ s'.find? (binding scope name) =
        some ((j.withMember "subjects" (BindingSubject.codec.list.encode subjects)).withResourceVersion
          s.nextVersion) := by
  obtain ⟨j, s', hfind, hupdate, hchanges, hfind', hget'⟩ := hs.exists_update_get
    (f := (·.withMember "subjects" (BindingSubject.codec.list.encode subjects)))
    (b := { b with subjects := some subjects }) (RoleBinding.codec_versioned scope.breadth)
    (binding_isAccess scope name) hget
    (fun m hm hread => ⟨hm.withMember "subjects"
      (Codec.Writes.list BindingSubject.codec_writes subjects fun _ _ => trivial).canonical,
      RoleBinding.read_withSubjects (Json.canonical_object.1 hm).1 hread subjects⟩) rfl
  refine ⟨s', _, ?_, hchanges, hget', rfl, rfl, j, hfind, hfind'⟩
  simp only [answer, hupdate, written]
  rfl

/-! ## Calls that may be refused -/

/-- Whatever comes of the creation of a role, nothing else changes. -/
theorem changes_createRole (s : Cluster) {r : Role} (hr : r.metadata.Valid)
    (hns : r.metadata.ns = scope.ns?) :
    Changes (· = role scope r.metadata.anyName) s (s.answer (.createRole scope r)).2 := by
  cases hfind : s.find? (role scope r.metadata.anyName) with
  | none =>
    obtain ⟨s', _, hcreate, hchanges, -⟩ := exists_createRole hr hns (get_eq_none.2 hfind)
    rwa [hcreate]
  | some j =>
    simp only [answer, create, hfind]
    exact .refl _ s

/-- Whatever comes of the creation of a binding, nothing else changes. -/
theorem changes_createBinding (s : Cluster) {b : RoleBinding} (hb : b.metadata.Valid)
    (hns : b.metadata.ns = scope.ns?) :
    Changes (· = binding scope b.metadata.anyName) s (s.answer (.createBinding scope b)).2 := by
  cases hfind : s.find? (binding scope b.metadata.anyName) with
  | none =>
    obtain ⟨s', _, hcreate, hchanges, -⟩ := exists_createBinding hb hns (get_eq_none.2 hfind)
    rwa [hcreate]
  | some j =>
    simp only [answer, create, hfind]
    exact .refl _ s

/-- Whatever comes of changing another member than the metadata, nothing else changes. -/
theorem Orderly.changes_withMember (hs : s.Orderly) (ht : t.IsAccess) (version : Option String)
    {k : String} (hk : k ≠ "metadata") {v : Json} (hv : v.Canonical) :
    Changes (· = t) s (s.update t version (·.withMember k v)).2 := by
  rcases update_snd s t version (·.withMember k v) with hsame | ⟨j, hfind, -, hwritten⟩
  · rw [hsame]
    exact .refl _ s
  · rw [hwritten]
    refine changes_replaced ht
      (((hs.canonical_of_find? hfind).withMember k hv).withResourceVersion _) ?_
    rw [Json.place_withResourceVersion, Json.place_withMember hk]
    exact (ht.fits_iff j).1 (List.find?_some hfind)

/-- A binding that is deleted is gone. -/
theorem Orderly.deleteBinding (hs : s.Orderly) (scope : Scope) (name : String) :
    ∃ s', s.answer (.deleteBinding scope name) = (.ok (), s') ∧
      Changes (· = binding scope name) s s' ∧
      (s'.answer (.getBinding scope name)).1 = .ok none :=
  ⟨_, rfl, changes_removed (binding_isAccess scope name),
    get_eq_none.2 (hs.find?_removed (binding_isAccess scope name))⟩

end Cluster

end ControlPlane
