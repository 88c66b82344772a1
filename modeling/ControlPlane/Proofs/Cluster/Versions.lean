import ControlPlane.Proofs.Cluster.Store
import ControlPlane.Proofs.Facade.Backend

/-!
# Versions tell what has changed

Every write stores its object under a version that no object had before. So an object that is found
in a version that it once had is what it was then, whoever has written in between, and a write that
names this version changes that object and no other one.
-/

namespace ControlPlane

/-- The target means one object at most: of the backends in a place, one of a type. -/
def Target.Definite (t : Target) : Prop := t.collection = .backends → t.type ≠ none

namespace Cluster

variable {s s' s'' : Cluster} {t : Target} {i j : Json}

/-- Every object has a version that was given out, and what one target may mean is told apart by its
version. -/
structure Versioned (s : Cluster) : Prop where
  stamped : ∀ c, ∀ j ∈ s.objects c, ∃ v, j.resourceVersion? = some v ∧ GivenOut s.version v
  distinct : ∀ t : Target, t.Definite → ∀ i ∈ s.objects t.collection,
    ∀ j ∈ s.objects t.collection, t.fits i = true → t.fits j = true →
    i.resourceVersion? = j.resourceVersion? → i = j

/-! ## Writers -/

/-- Objects may be gone, and at most one is new. It is under the next version. -/
inductive Advances (s s' : Cluster) : Prop
  | loses (version : s.version ≤ s'.version) (objects : ∀ c, s'.objects c ⊆ s.objects c)
  | stores (j : Json) (fresh : j.resourceVersion? = some s.nextVersion)
    (version : s'.version = s.version + 1)
    (objects : ∀ c, ∀ i ∈ s'.objects c, i ∈ s.objects c ∨ i = j)

/-- All objects that were not there before are under versions that were given out since. -/
structure Renews (s s' : Cluster) : Prop where
  version_le : s.version ≤ s'.version
  objects : ∀ c, ∀ j ∈ s'.objects c, j ∈ s.objects c ∨
    ∃ n, s.version < n ∧ j.resourceVersion? = some (toString n)

theorem Advances.refl (s : Cluster) : s.Advances s :=
  .loses (Nat.le_refl _) fun _ => List.Subset.refl _

namespace Renews

theorem refl (s : Cluster) : s.Renews s := ⟨Nat.le_refl _, fun _ _ => .inl⟩

theorem trans (h : s.Renews s') (h' : s'.Renews s'') : s.Renews s'' where
  version_le := Nat.le_trans h.version_le h'.version_le
  objects c j hj := by
    rcases h'.objects c j hj with hj | ⟨n, hn, hversion⟩
    · exact h.objects c j hj
    · exact .inr ⟨n, Nat.lt_of_le_of_lt h.version_le hn, hversion⟩

end Renews

theorem Advances.renews (h : s.Advances s') : s.Renews s' := by
  cases h with
  | loses version objects => exact ⟨version, fun c j hj => .inl (objects c hj)⟩
  | stores j fresh version objects =>
    refine ⟨by omega, fun c i hi => (objects c i hi).imp_right ?_⟩
    rintro rfl
    exact ⟨s.version + 1, Nat.lt_succ_self _, fresh⟩

namespace Versioned

theorem advances (hs : s.Versioned) (h : s.Advances s') : s'.Versioned := by
  cases h with
  | loses version objects =>
    refine ⟨fun c j hj => ?_, fun t ht i hi j hj => ?_⟩
    · obtain ⟨v, hv, hout⟩ := hs.stamped c j (objects c hj)
      exact ⟨v, hv, hout.mono version⟩
    · exact hs.distinct t ht i (objects _ hi) j (objects _ hj)
  | stores new fresh version objects =>
    have hold {c : Collection} {j : Json} (hj : j ∈ s.objects c) :
        j.resourceVersion? ≠ new.resourceVersion? := by
      obtain ⟨v, hv, hout⟩ := hs.stamped c j hj
      rw [hv, fresh]
      exact fun h => hout.ne_nextVersion (Option.some.inj h)
    refine ⟨fun c j hj => ?_, fun t ht i hi j hj hfits hfits' hversion => ?_⟩
    · rw [version]
      rcases objects c j hj with hj | rfl
      · obtain ⟨v, hv, hout⟩ := hs.stamped c j hj
        exact ⟨v, hv, hout.mono (Nat.le_succ _)⟩
      · exact ⟨_, fresh, s.givenOut_nextVersion⟩
    · rcases objects _ i hi with hi | rfl <;> rcases objects _ j hj with hj | rfl
      · exact hs.distinct t ht i hi j hj hfits hfits' hversion
      · exact (hold hi hversion).elim
      · exact (hold hj hversion.symm).elim
      · rfl

/-- What is found in a version that it had before is what it was then. -/
theorem same (hs : s.Versioned) (h : s.Renews s') (ht : t.Definite)
    (hj : j ∈ s.objects t.collection) (hfits : t.fits j = true)
    (hi : i ∈ s'.objects t.collection) (hfits' : t.fits i = true)
    (hversion : i.resourceVersion? = j.resourceVersion?) : i = j := by
  rcases h.objects _ i hi with hi | ⟨n, hn, hnew⟩
  · exact hs.distinct t ht i hi j hj hfits' hfits hversion
  · obtain ⟨v, hv, hout⟩ := hs.stamped _ j hj
    rw [hv, hnew] at hversion
    exact (hout n hn (Option.some.inj hversion).symm).elim

end Versioned

theorem advances_replaced (h : j.resourceVersion? = some s.nextVersion) :
    s.Advances (s.replaced t j) := by
  refine .stores j h rfl fun c i hi => ?_
  by_cases hc : c = t.collection
  · subst hc
    rw [objects_replaced_self] at hi
    exact (mem_of_mem_updateFirst hi).imp_right fun ⟨_, _, heq⟩ => heq
  · rw [objects_replaced_of_ne hc] at hi
    exact .inl hi

theorem advances_created (h : j.resourceVersion? = some s.nextVersion) :
    s.Advances (s.created t j) := by
  refine .stores j h rfl fun c i hi => ?_
  by_cases hc : c = t.collection
  · subst hc
    rw [objects_created_self] at hi
    exact (List.mem_append.1 hi).imp_right List.mem_singleton.1
  · rw [objects_created_of_ne hc] at hi
    exact .inl hi

theorem advances_update (s : Cluster) (t : Target) (version : Option String) (f : Json → Json) :
    s.Advances (s.update t version f).2 := by
  rcases s.update_snd t version f with hsame | ⟨old, -, -, hreplaced⟩
  · rw [hsame]
    exact .refl s
  · rw [hreplaced]
    exact advances_replaced (Json.resourceVersion?_withResourceVersion _ _)

theorem advances_create (s : Cluster) (t : Target) (j : Json) : s.Advances (s.create t j).2 := by
  rcases s.create_snd t j with hsame | ⟨-, hcreated⟩
  · rw [hsame]
    exact .refl s
  · rw [hcreated]
    exact advances_created (Json.resourceVersion?_withResourceVersion _ _)

theorem objects_remove_subset (s : Cluster) (t : Target) (c : Collection) :
    (s.remove t).objects c ⊆ s.objects c := by
  by_cases hc : c = t.collection
  · subst hc
    rw [objects_removed_self]
    exact List.eraseP_subset
  · have hsame := objects_withObjects_of_ne hc s ((s.objects t.collection).eraseP t.fits)
    exact fun j hj => hsame ▸ hj

theorem Effect.advances (h : s.Effect s') : s.Advances s' := by
  cases h with
  | none => exact .refl s
  | created t j => exact s.advances_create t j
  | updated t version f => exact s.advances_update t version f
  | removed t => exact .loses (Nat.le_refl _) (s.objects_remove_subset t)

/-- Whatever is called, at most one object is new. -/
theorem advances_answer (s : Cluster) (c : Call) : s.Advances (s.answer c).2 :=
  (s.effect_answer c).advances

/-! ## Objects in key order -/

/-- All objects are in key order. -/
def Canonical (s : Cluster) : Prop := ∀ c, ∀ j ∈ s.objects c, j.Canonical

namespace Canonical

theorem update (hs : s.Canonical) (t : Target) (version : Option String) {f : Json → Json}
    (hf : ∀ j : Json, j.Canonical → (f j).Canonical) : (s.update t version f).2.Canonical := by
  rcases s.update_snd t version f with hsame | ⟨old, hfound, -, hreplaced⟩
  · rwa [hsame]
  intro c j hj
  rw [hreplaced] at hj
  by_cases hc : c = t.collection
  · subst hc
    rw [objects_replaced_self] at hj
    rcases mem_of_mem_updateFirst hj with hj | ⟨_, -, rfl⟩
    · exact hs _ j hj
    · exact (hf old (hs _ old (List.mem_of_find?_eq_some hfound))).withResourceVersion _
  · rw [objects_replaced_of_ne hc] at hj
    exact hs c j hj

theorem create (hs : s.Canonical) (t : Target) (hj : j.Canonical) :
    (s.create t j).2.Canonical := by
  rcases s.create_snd t j with hsame | ⟨-, hcreated⟩
  · rwa [hsame]
  intro c i hi
  rw [hcreated] at hi
  by_cases hc : c = t.collection
  · subst hc
    rw [objects_created_self] at hi
    rcases List.mem_append.1 hi with hi | hi
    · exact hs _ i hi
    · obtain rfl := List.mem_singleton.1 hi
      exact hj.withResourceVersion _
  · rw [objects_created_of_ne hc] at hi
    exact hs c i hi

theorem remove (hs : s.Canonical) (t : Target) : (s.remove t).Canonical :=
  fun c j hj => hs c j (s.objects_remove_subset t c hj)

end Canonical

/-- What any writer may do at a time: store one object under the next version, or remove some. -/
structure Write (s s' : Cluster) : Prop where
  advances : s.Advances s'
  canonical : s.Canonical → s'.Canonical

end Cluster

/-! ## Writes that name a version -/

/-- A change to one member of an object that is there in some version. -/
structure Rewrite where
  target : Target
  version : Option String
  change : Json → Json
  /-- The member that is to be another one afterwards. -/
  member : String

/-- The call changes an object that is there, and can name its version. -/
def Call.NamesVersion : Call → Prop
  | .replaceBackend _ _ _ | .patchFacadeStatus _ _ _ _ _ | .patchPolicyStatus _ _ _ _
  | .patchRules _ _ _ _ | .patchSubjects _ _ _ _ => True
  | _ => False

/-- What a call changes under a version that it names. -/
def Call.rewrite? : Call → Option Rewrite
  | .replaceBackend resource ns b =>
    some ⟨Cluster.backend resource ns b.metadata.anyName, b.metadata.resourceVersion,
      fun _ => GenericObject.codec.encode b, "spec"⟩
  | .patchFacadeStatus resource ns name version patch =>
    (FacadeKind.ofKind? resource.kind).map fun k =>
      ⟨Cluster.facade k ns name, version, Cluster.mergeStatus patch, "status"⟩
  | .patchPolicyStatus ns name version status =>
    some ⟨Cluster.policy ns name, version,
      (·.withMember "status" (PolicyStatus.codec.encode status)), "status"⟩
  | .patchRules scope name version rules =>
    some ⟨Cluster.role scope name, version,
      (·.withMember "rules" (AccessRule.codec.list.encode rules)), "rules"⟩
  | .patchSubjects scope name version subjects =>
    some ⟨Cluster.binding scope name, version,
      (·.withMember "subjects" (BindingSubject.codec.list.encode subjects)), "subjects"⟩
  | _ => none

namespace Rewrite

variable {c : Call} {w : Rewrite} {s s₀ s' : Cluster}

/-- Only a facade of a kind that is not known has no status to be changed, and then the call
fails. -/
theorem exists_of_ok (hc : c.NamesVersion) {a : c.Answer} (h : s.answer c = (.ok a, s')) :
    ∃ w, c.rewrite? = some w := by
  cases c <;> try exact hc.elim
  case patchFacadeStatus resource ns name version patch =>
    cases hk : FacadeKind.ofKind? resource.kind with
    | some k => exact ⟨_, congrArg (Option.map _) hk⟩
    | none => simp [Cluster.answer, hk] at h
  all_goals exact ⟨_, rfl⟩

theorem definite (hw : c.rewrite? = some w) : w.target.Definite := by
  cases c <;> try cases hw
  case replaceBackend => exact fun _ => nofun
  case patchFacadeStatus resource ns name version patch =>
    obtain ⟨k, -, rfl⟩ := Option.map_eq_some_iff.1 hw
    exact nofun
  case patchPolicyStatus => exact nofun
  case patchRules scope name version rules => cases scope <;> exact nofun
  case patchSubjects scope name version subjects => cases scope <;> exact nofun

/-- The call succeeds if and as the change does. -/
theorem exists_update (hw : c.rewrite? = some w) {a : c.Answer} (h : s.answer c = (.ok a, s')) :
    ∃ j, s.update w.target w.version w.change = (.ok j, s') := by
  have hwritten {r : Except Error Json × Cluster} {u : Unit} (h : Cluster.written r = (.ok u, s')) :
      ∃ j, r = (.ok j, s') := by
    obtain ⟨hr, rfl⟩ := Prod.mk.inj h
    obtain ⟨j, hj, -⟩ := Except.map_eq_ok.1 hr
    exact ⟨j, Prod.ext hj rfl⟩
  cases c <;> try cases hw
  case replaceBackend resource ns b =>
    obtain ⟨hr, rfl⟩ := Prod.mk.inj h
    obtain ⟨j, hj, -⟩ := Except.bind_eq_ok.1 hr
    exact ⟨j, Prod.ext hj rfl⟩
  case patchFacadeStatus resource ns name version patch =>
    obtain ⟨k, hk, rfl⟩ := Option.map_eq_some_iff.1 hw
    simp only [Cluster.answer, hk] at h
    exact hwritten h
  all_goals exact hwritten h

/-- A change that names the version that an object once had, and succeeds, is one of this object. -/
theorem applies (hw : c.rewrite? = some w) {a : c.Answer} (h : s.answer c = (.ok a, s'))
    (hs₀ : s₀.Versioned) (hrenews : s₀.Renews s) {o : Json}
    (ho : o ∈ s₀.objects w.target.collection) (hfits : w.target.fits o = true)
    (hversion : w.version = o.resourceVersion?) :
    s.find? w.target = some o ∧
      s' = s.replaced w.target ((w.change o).withResourceVersion s.nextVersion) := by
  obtain ⟨j, hupdate⟩ := exists_update hw h
  obtain ⟨old, hfound, hold, rfl, rfl⟩ := Cluster.update_eq_ok hupdate
  obtain ⟨v, hv, -⟩ := hs₀.stamped _ o ho
  have hsame : old.resourceVersion? = o.resourceVersion? := by
    rcases hold with hnone | hold
    · rw [hversion, hv] at hnone
      cases hnone
    · exact hold.symm.trans hversion
  obtain rfl : old = o := hs₀.same hrenews (definite hw) ho hfits
    (List.mem_of_find?_eq_some hfound) (List.find?_some hfound) hsame
  exact ⟨hfound, rfl⟩

end Rewrite

/-! ## What stays the same -/

/-- Every member of the objects is the same but one. Of the metadata this holds where it is in the
form in which metadata is written; where it is not, it may have been written anew as it was read. -/
structure Json.SameBut (member : String) (o o' : Json) : Prop where
  members : ∀ key, key ≠ member → key ≠ "metadata" → o'.get? key = o.get? key
  metadata : o'.get? "metadata" = o.get? "metadata" ∨
    ∃ m x, o.get? "metadata" = some m ∧ ¬ Metadata.Standard m ∧ Metadata.codec.read m = .ok x ∧
      o'.get? "metadata" = some (Metadata.codec.encode x)

theorem Json.sameBut_withMember {member : String} (h : member ≠ "metadata") (o x : Json) :
    o.SameBut member (o.withMember member x) where
  members _ hkey _ := get?_withMember_of_ne hkey.symm o x
  metadata := .inl (get?_withMember_of_ne h o x)

namespace GenericObject

variable {m : Dict Json} {type : TypeName} {b : Backend}

/-- The members of an object that is written with other data. -/
theorem ReadFrom.get?_encode (h : ReadFrom m type b) {data : Dict Json} (hs : data.Sorted)
    (hdata : ∀ e ∈ data, isData e.1 = true) (key : String) :
    (codec.encode { b with data := data }).get? key =
      Dict.get? (members type (Metadata.codec.encode b.metadata) data) key := by
  have hwritten : codec.encode { b with data := data } =
      .object (Dict.ofList (members type (Metadata.codec.encode b.metadata) data)) := by
    simp only [codec, h.type_eq]
    rfl
  rw [hwritten]
  exact Dict.get?_ofList (nodup_members hs hdata type _) key

theorem ReadFrom.get?_withSpec (h : ReadFrom m type b) (spec : Json) (key : String) :
    (codec.encode (b.withSpec spec)).get? key =
      Dict.get? (members type (Metadata.codec.encode b.metadata) (b.data.insert "spec" spec)) key := by
  refine h.get?_encode (h.sorted_data.insert "spec" spec) (fun e he => ?_) key
  rcases Dict.mem_insert he with rfl | he
  · exact rfl
  · exact h.valid.isData e he

theorem ReadFrom.spec_withSpec (h : ReadFrom m type b) (spec : Json) :
    (codec.encode (b.withSpec spec)).get? "spec" = some spec := by
  rw [h.get?_withSpec]
  simp [members, Dict.get?_cons, Dict.get?_insert]

/-- A backend that is written with another spec is the same but for that. -/
theorem ReadFrom.sameBut_withSpec (h : ReadFrom m type b) (spec : Json) :
    (Json.object m).SameBut "spec" (codec.encode (b.withSpec spec)) := by
  have hget := h.get?_withSpec spec
  obtain ⟨hversion, hkind⟩ := (type_object h.sorted).1 h.type
  refine ⟨fun key hspec hmetadata => ?_, ?_⟩
  · refine (hget key).trans ?_
    simp only [members, List.cons_append, List.nil_append, Dict.get?_cons]
    by_cases hv : "apiVersion" = key
    · subst hv
      rw [if_pos rfl]
      exact hversion.symm
    rw [if_neg hv]
    by_cases hk : "kind" = key
    · subst hk
      rw [if_pos rfl]
      exact hkind.symm
    have hisData : isData key = true := by
      simp [isData, Ne.symm hv, Ne.symm hk, hmetadata]
    rw [if_neg hk, if_neg hmetadata.symm, Dict.get?_insert_of_ne hspec.symm, h.get?_data,
      if_pos hisData]
    rfl
  · obtain ⟨mm, hmm, hsorted, hread⟩ := h.metadata
    have hread := (Metadata.decode_object hsorted).2 hread
    have hwritten : (codec.encode (b.withSpec spec)).get? "metadata" =
        some (Metadata.codec.encode b.metadata) :=
      (hget "metadata").trans (by simp [members, Dict.get?_cons])
    by_cases hstandard : Metadata.Standard (.object mm)
    · refine .inl (hwritten.trans ?_)
      rw [hstandard.encode_eq hread]
      exact hmm.symm
    · exact .inr ⟨_, _, hmm, hstandard, hread, hwritten⟩

end GenericObject

end ControlPlane
