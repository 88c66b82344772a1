import ControlPlane.Proofs.Policy.Stored
import Mathlib.Data.List.Forall2

/-!
# Policies as they are listed

`Cluster.Lists` says what the list of the policies of a namespace is, in which each has a name of
its own. The status of each of them can be written under the version that was listed, and nothing
else in the list changes by that.
-/

namespace List.Forall₂

variable {α β γ : Type} {R : α → β → Prop} {as : List α} {bs : List β}

theorem map_eq_map (h : Forall₂ R as bs) {f : α → γ} {g : β → γ} (hR : ∀ a b, R a b → f a = g b) :
    as.map f = bs.map g := by
  rw [← forall₂_eq_eq_eq, forall₂_map_left_iff, forall₂_map_right_iff]
  exact h.imp hR

theorem forall_mem_right (h : Forall₂ R as bs) {p : β → Prop} (hR : ∀ a b, R a b → p b) :
    ∀ b ∈ bs, p b := by
  induction h with
  | nil => exact fun _ hb => nomatch hb
  | cons hab _ ih => exact List.forall_mem_cons.2 ⟨hR _ _ hab, ih⟩

end List.Forall₂

namespace Except

variable {ε α β : Type}

theorem mapM_eq_ok_iff {f : α → Except ε β} {as : List α} {bs : List β} :
    as.mapM f = .ok bs ↔ List.Forall₂ (fun a b => f a = .ok b) as bs := by
  induction as generalizing bs with
  | nil => cases bs <;> simp [pure, Except.pure]
  | cons a as ih =>
    rw [mapM_cons_eq_ok, List.forall₂_cons_left_iff]
    simp only [ih]

end Except

namespace ControlPlane

namespace Policy

/-- The conditions that a policy reports. -/
def conditions (p : Policy) : List Condition := (p.status.getD default).conditions

/-- The policy with another status, and under another version. -/
def withStatus (p : Policy) (version : String) (status : PolicyStatus) : Policy :=
  Observed.withVersion { p with status := some status } version

@[simp] theorem anyName_withStatus (p : Policy) (version : String) (status : PolicyStatus) :
    (p.withStatus version status).metadata.anyName = p.metadata.anyName := rfl

@[simp] theorem conditions_withStatus (p : Policy) (version : String) (status : PolicyStatus) :
    (p.withStatus version status).conditions = status.conditions := rfl

end Policy

namespace Cluster

variable {s : Cluster} {ns : String} {policies : List Policy} {p : Policy} {j : Json}

/-- The policies of the namespace are listed as `policies`, each under a name of its own. -/
structure Lists (s : Cluster) (ns : String) (policies : List Policy) : Prop where
  canonical : ∀ j ∈ s.inNamespace .policies ns, j.Canonical
  listed : (s.answer (.listPolicies ns)).1 = .ok policies
  distinct : (policies.map (·.metadata.anyName)).Nodup

/-- The object is the policy, in its place in the namespace. -/
structure StoresPolicy (ns : String) (j : Json) (p : Policy) : Prop where
  canonical : j.Canonical
  read : Policy.codec.read j = .ok p
  place : j.place = ⟨some ns, p.metadata.anyName⟩

/-- An object of another status is the policy with that status. -/
theorem StoresPolicy.withStatus (h : StoresPolicy ns j p) {status : PolicyStatus}
    (hstatus : status.Valid) (version : String) :
    StoresPolicy ns ((j.withMember "status" (PolicyStatus.codec.encode status)).withResourceVersion
      version) (p.withStatus version status) := by
  obtain ⟨⟨m, rfl⟩, -, hns, -⟩ := Observed.of_stored h.canonical (by rw [h.place]) h.read
  have hplain := PolicyStatus.codec_writes status hstatus
  have hread := Observed.read_withStatus (Json.canonical_object.1 h.canonical).1 h.read
    hplain.ne_null (PolicyStatus.codec_restores .direct status hstatus)
  obtain ⟨hcanonical, hstored, hplace⟩ :=
    stored_policy (h.canonical.withMember "status" hplain.canonical) hread hns rfl
  exact ⟨hcanonical, hstored, hplace⟩

namespace Lists

theorem forall₂ (hs : s.Lists ns policies) :
    List.Forall₂ (StoresPolicy ns) (s.inNamespace .policies ns) policies := by
  have hread := Except.mapM_eq_ok_iff.1 hs.listed
  have hstored : ∀ j ∈ s.inNamespace .policies ns, j.Canonical ∧ j.place.ns = some ns :=
    fun j hj => ⟨hs.canonical j hj, (mem_inNamespace.1 hj).2⟩
  refine ((List.forall₂_and_left _ _).2 ⟨hstored, hread⟩).imp ?_
  rintro j p ⟨⟨hcanonical, hns⟩, hread⟩
  have hread := Except.mapError_eq_ok.1 hread
  exact ⟨hcanonical, hread, (Observed.of_stored hcanonical hns hread).2.1⟩

theorem of_forall₂ (h : List.Forall₂ (StoresPolicy ns) (s.inNamespace .policies ns) policies)
    (hn : (policies.map (·.metadata.anyName)).Nodup) : s.Lists ns policies where
  canonical := ((List.forall₂_and_left _ _).1 (h.imp fun _ _ h => ⟨h.canonical, h⟩)).1
  listed := Except.mapM_eq_ok_iff.2 (h.imp fun _ _ h => Except.mapError_eq_ok.2 h.read)
  distinct := hn

/-- The places of the policies are their own as well. -/
theorem nodup_places (hs : s.Lists ns policies) :
    ((s.inNamespace .policies ns).map Json.place).Nodup := by
  have hplaces : (s.inNamespace .policies ns).map Json.place =
      (policies.map (·.metadata.anyName)).map (ObjectRef.mk (some ns)) := by
    rw [List.map_map]
    exact hs.forall₂.map_eq_map fun _ _ h => h.place
  rw [hplaces]
  exact List.Pairwise.map _ (fun _ _ hne heq => hne (ObjectRef.mk.inj heq).2) hs.distinct

/-- A policy that is listed is found by its name. -/
theorem exists_found (hs : s.Lists ns policies) (hp : p ∈ policies) :
    ∃ j, s.find? (policy ns p.metadata.anyName) = some j ∧ StoresPolicy ns j p := by
  obtain ⟨j, hj, hread⟩ := (mem_of_listed hs.listed).1 hp
  have hstored : StoresPolicy ns j p := by
    have hns := (mem_inNamespace.1 hj).2
    exact ⟨hs.canonical j hj, hread, (Observed.of_stored (hs.canonical j hj) hns hread).2.1⟩
  cases hfind : s.find? (policy ns p.metadata.anyName) with
  | none =>
    have hnone := List.find?_eq_none.1 hfind j (mem_inNamespace.1 hj).1
    exact (hnone ((fits_policy ns _ j).2 hstored.place)).elim
  | some i =>
    have hplace := (fits_policy ns _ i).1
      (List.find?_some (p := (policy ns p.metadata.anyName).fits) hfind)
    have hi : i ∈ s.inNamespace .policies ns :=
      mem_inNamespace.2 ⟨List.mem_of_find?_eq_some hfind, by rw [hplace]⟩
    obtain rfl := eq_of_key hs.nodup_places hi hj (hplace.trans hstored.place.symm)
    exact ⟨i, rfl, hstored⟩

/-- Policies of one name are one policy. -/
theorem unique (hs : s.Lists ns policies) {q : Policy} (hp : p ∈ policies) (hq : q ∈ policies)
    (h : p.metadata.anyName = q.metadata.anyName) : p = q :=
  eq_of_key hs.distinct hp hq h

theorem validStatus (hs : s.Lists ns policies) (hp : p ∈ policies) :
    PolicyStatus.Valid (p.status.getD default) := by
  obtain ⟨j, -, hstored⟩ := hs.exists_found hp
  obtain ⟨⟨m, rfl⟩, -⟩ := Observed.of_stored hstored.canonical (by rw [hstored.place]) hstored.read
  exact validStatus_of_read hstored.canonical hstored.read

/-- Only the policy of the name is another object in the namespace. -/
theorem inNamespace_replaced (hs : s.Lists ns policies) {name : String}
    (hplace : j.place = ⟨some ns, name⟩) :
    (s.replaced (policy ns name) j).inNamespace .policies ns =
      (s.inNamespace .policies ns).map fun i => if (policy ns name).fits i then j else i := by
  have hfits := fits_policy ns name
  have hobjects : (s.replaced (policy ns name) j).objects .policies =
      updateFirst (policy ns name).fits (fun _ => j) (s.objects .policies) :=
    objects_replaced_self s (policy ns name) j
  rw [inNamespace, hobjects, filter_updateFirst]
  · exact updateFirst_eq_map hfits hs.nodup_places
  · intro i hi
    rw [(hfits i).1 hi]
    exact decide_eq_true rfl
  · intro i hi
    rw [hplace]
    exact decide_eq_true rfl

/-- The status of a policy that is listed can be written under its version, and only that policy
changes. -/
theorem patch (hs : s.Lists ns policies) (hp : p ∈ policies) {status : PolicyStatus}
    (hstatus : status.Valid) :
    ∃ s', s.answer (.patchPolicyStatus ns p.metadata.anyName p.metadata.resourceVersion status) =
        (.ok (), s') ∧
      s'.Lists ns (policies.map fun q =>
        if q.metadata.anyName = p.metadata.anyName then p.withStatus s.nextVersion status
        else q) := by
  obtain ⟨j, hfind, hstored⟩ := hs.exists_found hp
  have hversion := (Observed.of_stored hstored.canonical (by rw [hstored.place]) hstored.read).2.2.2
  have hwritten := hstored.withStatus hstatus s.nextVersion
  generalize hj' : (j.withMember "status" (PolicyStatus.codec.encode status)).withResourceVersion
    s.nextVersion = j' at hwritten
  have hupdate := update_of_find? (f := (·.withMember "status" (PolicyStatus.codec.encode status)))
    hfind hversion.symm
  rw [hj'] at hupdate
  refine ⟨s.replaced (policy ns p.metadata.anyName) j', ?_, .of_forall₂ ?_ ?_⟩
  · show written (s.update _ _ _) = _
    rw [hupdate]
    rfl
  · have hplace : j'.place = ⟨some ns, p.metadata.anyName⟩ := hwritten.place
    rw [hs.inNamespace_replaced hplace, List.forall₂_map_left_iff,
      List.forall₂_map_right_iff]
    refine hs.forall₂.imp fun i q h => ?_
    by_cases hname : q.metadata.anyName = p.metadata.anyName
    · have hfits := (fits_policy ns p.metadata.anyName i).2 (by rw [h.place, hname])
      rw [if_pos hfits, if_pos hname]
      exact hwritten
    · have hfits : ¬ (policy ns p.metadata.anyName).fits i = true := by
        rw [fits_policy, h.place]
        exact fun heq => hname (ObjectRef.mk.inj heq).2
      rw [if_neg hfits, if_neg hname]
      exact h
  · rw [List.map_map]
    refine Eq.subst (List.map_congr_left fun q _ => ?_) hs.distinct
    by_cases hname : q.metadata.anyName = p.metadata.anyName
    · simp [hname]
    · simp [hname]

end Lists

end Cluster

end ControlPlane
