import ControlPlane.Cluster.Answer

/-!
# Clusters that differ in one object

When an object is created, changed or deleted, the cluster before and the cluster after agree on
everything but what is found at one place of one collection. What is looked up elsewhere is the same
in both, so that a lookup which tells them apart has asked for that place.
-/

namespace ControlPlane.Cluster

/-- The clusters agree on everything beside the objects of the collection `c` at the place `p`. -/
structure AgreeBeside (c : Collection) (p : ObjectRef) (s s' : Cluster) : Prop where
  collections : ∀ d, d ≠ c → s'.objects d = s.objects d
  objects : (s'.objects c).filter (·.place ≠ p) = (s.objects c).filter (·.place ≠ p)

namespace AgreeBeside

variable {c d : Collection} {p : ObjectRef} {s s' : Cluster} {t : Target} {ns : String}

theorem symm (h : AgreeBeside c p s s') : AgreeBeside c p s' s :=
  ⟨fun d hd => (h.collections d hd).symm, h.objects.symm⟩

/-- One object was created, or deleted if the clusters are read the other way round. -/
theorem of_added (before after : List Json) {j : Json}
    (hcollections : ∀ d, d ≠ c → s'.objects d = s.objects d)
    (hold : s.objects c = before ++ after) (hnew : s'.objects c = before ++ j :: after) :
    AgreeBeside c j.place s s' := by
  refine ⟨hcollections, ?_⟩
  rw [hold, hnew]
  simp

/-- One object was changed where it stands. -/
theorem of_changed (before after : List Json) {i j : Json}
    (hcollections : ∀ d, d ≠ c → s'.objects d = s.objects d)
    (hold : s.objects c = before ++ i :: after) (hnew : s'.objects c = before ++ j :: after)
    (hplace : i.place = j.place) : AgreeBeside c j.place s s' := by
  refine ⟨hcollections, ?_⟩
  rw [hold, hnew]
  simp [hplace]

/-- Objects that are picked from among those elsewhere are the same. -/
theorem filter_eq (h : AgreeBeside c p s s') {keep : Json → Bool}
    (hkeep : ∀ j, keep j = true → j.place ≠ p) :
    (s'.objects c).filter keep = (s.objects c).filter keep := by
  have hsame (l : List Json) : l.filter keep = (l.filter (·.place ≠ p)).filter keep := by
    rw [List.filter_filter]
    refine List.filter_congr fun j _ => ?_
    cases hj : keep j with
    | false => rfl
    | true => simp [hkeep j hj]
  rw [hsame, h.objects, ← hsame]

/-- What is found differently is at the place. -/
theorem of_find?_ne (h : AgreeBeside c p s s') (hne : s'.find? t ≠ s.find? t) :
    t.collection = c ∧ t.place = p := by
  refine Classical.byContradiction fun helsewhere => hne ?_
  unfold find?
  by_cases hc : t.collection = c
  · subst hc
    have hkeep : ∀ j, t.fits j = true → j.place ≠ p := by
      intro j hj hp
      simp only [Target.fits, Bool.and_eq_true, decide_eq_true_eq] at hj
      exact helsewhere ⟨rfl, hj.1.symm.trans hp⟩
    rw [← List.head?_filter, ← List.head?_filter, h.filter_eq hkeep]
  · rw [h.collections _ hc]

/-- What is listed differently is in the namespace of the place. -/
theorem of_inNamespace_ne (h : AgreeBeside c p s s')
    (hne : s'.inNamespace d ns ≠ s.inNamespace d ns) : d = c ∧ p.ns = some ns := by
  refine Classical.byContradiction fun helsewhere => hne ?_
  unfold inNamespace
  by_cases hd : d = c
  · subst hd
    refine h.filter_eq fun j hj hp => helsewhere ⟨rfl, ?_⟩
    rw [← hp]
    exact of_decide_eq_true hj
  · rw [h.collections _ hd]

end AgreeBeside

end ControlPlane.Cluster
