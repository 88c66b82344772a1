import ControlPlane.Cluster.Answer
import ControlPlane.Proofs.Cluster.Store
import ControlPlane.Proofs.Facade.Status
import ControlPlane.Proofs.Object

/-!
# Policies in a cluster

`Cluster.HasPolicy` says that a policy is among those of a namespace, and `Cluster.WellKept` that
these can be read, are in places of their own and carry versions that the cluster has given out.
`PolicyChange` is what can become of them in one step: some are gone, one has another spec or
status, or one is new.
-/

namespace ControlPlane

namespace PolicyStatus

/-- The times of all transitions are instants of the calendar. -/
abbrev Valid : PolicyStatus → Prop := Status.Valid fun _ => True

theorem codec_yields : codec.Yields Valid := Record.Yields.codec (Status.record_yields .any)

theorem codec_writes : codec.Writes Valid := Record.Writes.codec (Status.record_writes .unit)

theorem codec_restores : codec.Restores Valid :=
  Record.Restores.codec (Status.record_restores .unit) (by decide)

end PolicyStatus

namespace Cluster

variable {s s' : Cluster} {ns name : String} {p q : Policy}

/-- The policy is among those of the namespace. -/
def HasPolicy (s : Cluster) (ns : String) (p : Policy) : Prop :=
  ∃ j ∈ s.inNamespace .policies ns, Policy.codec.read j = .ok p

/-- The policies of the namespace can be read, are in places of their own and carry versions that
were given out. -/
structure WellKept (s : Cluster) (ns : String) : Prop where
  distinct : ((s.objects .policies).map (·.place)).Nodup
  canonical : ∀ j ∈ s.inNamespace .policies ns, j.Canonical
  readable : ∀ j ∈ s.inNamespace .policies ns, ∃ (p : Policy) (v : String),
    Policy.codec.read j = .ok p ∧ p.metadata.resourceVersion = some v ∧ GivenOut s.version v

theorem mem_inNamespace {c : Collection} {j : Json} :
    j ∈ s.inNamespace c ns ↔ j ∈ s.objects c ∧ j.place.ns = some ns := by
  simp [inNamespace]

theorem fits_policy (ns name : String) (j : Json) :
    (policy ns name).fits j = true ↔ j.place = ⟨some ns, name⟩ := by
  simp only [Target.fits, policy, Option.isNone_none, Bool.true_or, Bool.and_true]
  exact decide_eq_true_iff

/-- A policy that is read of a stored object is found in its place. -/
theorem WellKept.place_of_read (hs : s.WellKept ns) {j : Json} (hj : j ∈ s.inNamespace .policies ns)
    (h : Policy.codec.read j = .ok p) :
    (∃ m, j = .object m) ∧ j.place = ⟨some ns, p.metadata.anyName⟩ ∧ p.metadata.ns = some ns ∧
      j.resourceVersion? = p.metadata.resourceVersion :=
  Observed.of_stored (hs.canonical _ hj) (mem_inNamespace.1 hj).2 h

/-- Policies of one name are one policy. -/
theorem WellKept.unique (hs : s.WellKept ns) (hp : s.HasPolicy ns p) (hq : s.HasPolicy ns q)
    (h : p.metadata.anyName = q.metadata.anyName) : p = q := by
  obtain ⟨i, hi, hip⟩ := hp
  obtain ⟨j, hj, hjq⟩ := hq
  have hplace : i.place = j.place := by
    rw [(hs.place_of_read hi hip).2.1, (hs.place_of_read hj hjq).2.1, h]
  obtain rfl := eq_of_key hs.distinct (mem_inNamespace.1 hi).1 (mem_inNamespace.1 hj).1 hplace
  exact Except.ok.inj (hip.symm.trans hjq)

theorem WellKept.exists_version (hs : s.WellKept ns) (hp : s.HasPolicy ns p) :
    ∃ v, p.metadata.resourceVersion = some v ∧ GivenOut s.version v := by
  obtain ⟨j, hj, hread⟩ := hp
  obtain ⟨q, v, hq, hv⟩ := hs.readable j hj
  obtain rfl := Except.ok.inj (hread.symm.trans hq)
  exact ⟨v, hv⟩

theorem validStatus_of_read {m : Dict Json} (hm : (Json.object m).Canonical)
    (hread : Policy.codec.read (.object m) = .ok p) :
    PolicyStatus.Valid (p.status.getD default) := by
  cases hstatus : p.status with
  | none => exact ⟨fun _ hc => (List.not_mem_nil hc).elim, trivial⟩
  | some t =>
    exact Observed.of_status (Json.canonical_object.1 hm).1 hread PolicyStatus.codec_yields hstatus

theorem WellKept.validStatus (hs : s.WellKept ns) (hp : s.HasPolicy ns p) :
    PolicyStatus.Valid (p.status.getD default) := by
  obtain ⟨j, hj, hread⟩ := hp
  obtain ⟨m, rfl⟩ := (hs.place_of_read hj hread).1
  exact validStatus_of_read (hs.canonical _ hj) hread

/-- No policy of the namespace is older, and none is active. -/
def Foremost (s : Cluster) (ns : String) (q : Policy) : Prop :=
  ∀ p, s.HasPolicy ns p → q.metadata.noYoungerThan p.metadata = true ∧ p.isActive = false

/-- What can become of the policies of a namespace in one step. -/
inductive PolicyChange (ns : String) (s s' : Cluster) : Prop
  | shrinks (version : s.version ≤ s'.version)
      (policies : ∀ p, s'.HasPolicy ns p → s.HasPolicy ns p)
  /-- A policy becomes active only if it was or could not be more entitled to be. -/
  | rewrites (q q' : Policy) (old : s.HasPolicy ns q)
      (metadata : q'.metadata = q.metadata.withVersion s.nextVersion)
      (active : q'.isActive = true → q.isActive = true ∨ s.Foremost ns q)
      (version : s'.version = s.version + 1)
      (policies : ∀ p, s'.HasPolicy ns p →
        p = q' ∨ s.HasPolicy ns p ∧ p.metadata.anyName ≠ q.metadata.anyName)
  | grows (q' : Policy) (inactive : q'.isActive = false)
      (fresh : q'.metadata.resourceVersion = some s.nextVersion)
      (young : ∀ p, s.HasPolicy ns p → p.metadata.noYoungerThan q'.metadata = true)
      (version : s'.version = s.version + 1)
      (policies : ∀ p, s'.HasPolicy ns p → p = q' ∨ s.HasPolicy ns p)

theorem PolicyChange.refl (s : Cluster) : PolicyChange ns s s :=
  .shrinks (Nat.le_refl _) fun _ hp => hp

theorem PolicyChange.version_le (h : PolicyChange ns s s') : s.version ≤ s'.version := by
  cases h <;> omega

/-- At most one policy stays active. -/
theorem PolicyChange.sole (h : PolicyChange ns s s')
    (hs : ∀ p q, s.HasPolicy ns p → s.HasPolicy ns q → p.isActive = true → q.isActive = true →
      p.metadata.anyName = q.metadata.anyName) :
    ∀ p q, s'.HasPolicy ns p → s'.HasPolicy ns q → p.isActive = true → q.isActive = true →
      p.metadata.anyName = q.metadata.anyName := by
  intro p q hp hq hpa hqa
  cases h with
  | shrinks _ policies => exact hs p q (policies p hp) (policies q hq) hpa hqa
  | rewrites o o' old metadata active _ policies =>
    -- No other policy is active when this one becomes active.
    have hother {x : Policy} (ho : o'.isActive = true) (hx : s.HasPolicy ns x)
        (hxa : x.isActive = true) : x.metadata.anyName = o.metadata.anyName := by
      rcases active ho with hoa | hforemost
      · exact hs x o hx old hxa hoa
      · rw [(hforemost x hx).2] at hxa
        cases hxa
    rcases policies p hp with rfl | ⟨hp, hpn⟩ <;> rcases policies q hq with rfl | ⟨hq, hqn⟩
    · rfl
    · exact (hqn (hother hpa hq hqa)).elim
    · exact (hpn (hother hqa hp hpa)).elim
    · exact hs p q hp hq hpa hqa
  | grows o inactive _ _ _ policies =>
    have hold {x : Policy} (hx : s'.HasPolicy ns x) (hxa : x.isActive = true) :
        s.HasPolicy ns x := by
      rcases policies x hx with rfl | hx
      · rw [inactive] at hxa
        cases hxa
      · exact hx
    exact hs p q (hold hp hpa) (hold hq hqa) hpa hqa

/-! ## Writes -/

theorem WellKept.found (hs : s.WellKept ns) {j : Json} (h : s.find? (policy ns name) = some j) :
    ∃ m q, j = .object m ∧ j ∈ s.inNamespace .policies ns ∧ Policy.codec.read j = .ok q ∧
      j.place = ⟨some ns, name⟩ ∧ q.metadata.anyName = name ∧
      j.resourceVersion? = q.metadata.resourceVersion := by
  have hplace := (fits_policy ns name j).1 (List.find?_some (p := (policy ns name).fits) h)
  have hj : j ∈ s.inNamespace .policies ns :=
    mem_inNamespace.2 ⟨List.mem_of_find?_eq_some h, by rw [hplace]⟩
  obtain ⟨q, -, hread, -⟩ := hs.readable j hj
  obtain ⟨⟨m, rfl⟩, hplace', -, hversion⟩ := hs.place_of_read hj hread
  rw [hplace] at hplace'
  exact ⟨m, q, rfl, hj, hread, hplace, (ObjectRef.mk.inj hplace').2.symm, hversion⟩

/-- A policy that is given a new version is read with it and stays in its place. -/
theorem stored_policy {m : Dict Json} (hm : (Json.object m).Canonical)
    (hread : Policy.codec.read (.object m) = .ok q) (hns : q.metadata.ns = some ns)
    {version : String} {j : Json} (hj : j = (Json.object m).withResourceVersion version) :
    j.Canonical ∧ Policy.codec.read j = .ok (q.withVersion version) ∧
      j.place = ⟨some ns, q.metadata.anyName⟩ := by
  subst hj
  have hcanonical := hm.withResourceVersion version
  have hstored := Observed.read_withResourceVersion hm hread version
  refine ⟨hcanonical, hstored, (Observed.place_of_read hcanonical hstored).trans ?_⟩
  show ObjectRef.mk q.metadata.ns q.metadata.anyName = _
  rw [hns]

/-- A write of one policy under a new version leaves the policies well kept. -/
theorem WellKept.written (hs : s.WellKept ns) (hversion : s'.version = s.version + 1)
    (hdistinct : ((s'.objects .policies).map (·.place)).Nodup) {j : Json} (hj : j.Canonical)
    (hread : Policy.codec.read j = .ok (q.withVersion s.nextVersion))
    (hmembers : ∀ i ∈ s'.inNamespace .policies ns, i ∈ s.inNamespace .policies ns ∨ i = j) :
    s'.WellKept ns := by
  refine ⟨hdistinct, fun i hi => ?_, fun i hi => ?_⟩
  · rcases hmembers i hi with hi | rfl
    · exact hs.canonical i hi
    · exact hj
  · rw [hversion]
    rcases hmembers i hi with hi | rfl
    · obtain ⟨p, v, hp, hv, hout⟩ := hs.readable i hi
      exact ⟨p, v, hp, hv, hout.mono (Nat.le_succ _)⟩
    · exact ⟨_, _, hread, rfl, s.givenOut_nextVersion⟩

/-- A policy that is written again, in its place and under a new version. -/
theorem WellKept.replaced (hs : s.WellKept ns) {m m' : Dict Json} {q q' : Policy}
    (hfind : s.find? (policy ns name) = some (.object m))
    (hread : Policy.codec.read (.object m) = .ok q) (hm' : (Json.object m').Canonical)
    (hread' : Policy.codec.read (.object m') = .ok q') (hmetadata : q'.metadata = q.metadata)
    {j : Json} (hj : j = (Json.object m').withResourceVersion s.nextVersion) :
    (s.replaced (policy ns name) j).WellKept ns ∧
      ∀ p, (s.replaced (policy ns name) j).HasPolicy ns p →
        p = q'.withVersion s.nextVersion ∨
          s.HasPolicy ns p ∧ p.metadata.anyName ≠ q.metadata.anyName := by
  obtain ⟨_, q₁, -, hmem, hq₁, -, hname, -⟩ := hs.found hfind
  obtain rfl := Except.ok.inj (hread.symm.trans hq₁)
  have hns : q'.metadata.ns = some ns := hmetadata ▸ (hs.place_of_read hmem hread).2.2.1
  obtain ⟨hcanonical, hstored, hplace⟩ := stored_policy hm' hread' hns hj
  rw [hmetadata, hname] at hplace
  have hobjects : (s.replaced (policy ns name) j).objects .policies =
      updateFirst (policy ns name).fits (fun _ => j) (s.objects .policies) :=
    objects_replaced_self s (policy ns name) j
  have hmembers {i : Json} (hi : i ∈ (s.replaced (policy ns name) j).inNamespace .policies ns) :
      i ∈ s.inNamespace .policies ns ∧ i.place ≠ ⟨some ns, name⟩ ∨ i = j := by
    obtain ⟨hi, hns⟩ := mem_inNamespace.1 hi
    rw [hobjects] at hi
    rcases mem_updateFirst (fits_policy ns name) hs.distinct hi with ⟨hi, hne⟩ | ⟨-, -, hi⟩
    · exact .inl ⟨mem_inNamespace.2 ⟨hi, hns⟩, hne⟩
    · exact .inr hi
  have hplaces : (updateFirst (policy ns name).fits (fun _ => j) (s.objects .policies)).map
      Json.place = (s.objects .policies).map Json.place :=
    map_updateFirst fun i hi =>
      hplace.trans ((fits_policy ns name i).1 (List.find?_some (p := (policy ns name).fits) hi)).symm
  refine ⟨hs.written rfl ?_ hcanonical hstored fun i hi => (hmembers hi).imp_left And.left, ?_⟩
  · rw [hobjects]
    exact hplaces ▸ hs.distinct
  · rintro p ⟨i, hi, hip⟩
    rcases hmembers hi with ⟨hi, hne⟩ | rfl
    · refine .inr ⟨⟨i, hi, hip⟩, fun heq => hne ?_⟩
      rw [(hs.place_of_read hi hip).2.1, heq, hname]
    · exact .inl (Except.ok.inj (hip.symm.trans hstored))

theorem change_of_patch (hs : s.WellKept ns) {version : Option String} (hversion : version ≠ none)
    {status : PolicyStatus} (hstatus : status.Valid)
    (hactive : ∀ q, s.HasPolicy ns q → q.metadata.anyName = name →
      q.metadata.resourceVersion = version → status.isReady = true →
      q.isActive = true ∨ s.Foremost ns q) :
    (s.answer (.patchPolicyStatus ns name version status)).2.WellKept ns ∧
      PolicyChange ns s (s.answer (.patchPolicyStatus ns name version status)).2 := by
  rcases s.update_snd (policy ns name) version
    (·.withMember "status" (PolicyStatus.codec.encode status)) with h | ⟨old, hfind, hold, h⟩
  · have h : (s.answer (.patchPolicyStatus ns name version status)).2 = s := h
    rw [h]
    exact ⟨hs, .refl s⟩
  · obtain ⟨m, q, rfl, hmem, hread, -, hname, hv⟩ := hs.found hfind
    have hplain := PolicyStatus.codec_writes status hstatus
    have hcanonical := hs.canonical _ hmem
    have hwritten := Observed.read_withStatus (Json.canonical_object.1 hcanonical).1 hread
      hplain.ne_null (PolicyStatus.codec_restores .direct status hstatus)
    obtain ⟨hkept, hpolicies⟩ := hs.replaced hfind hread
      (hcanonical.withMember "status" hplain.canonical) hwritten rfl rfl
    have h : (s.answer (.patchPolicyStatus ns name version status)).2 = _ := h
    rw [h]
    refine ⟨hkept, .rewrites q _ ⟨_, hmem, hread⟩ ?_ ?_ rfl hpolicies⟩
    · rfl
    · exact hactive q ⟨_, hmem, hread⟩ hname (hv.symm.trans (hold.resolve_left hversion).symm)

theorem change_of_edit (hs : s.WellKept ns) {j : Json} (hj : j.Canonical) {x : PolicySpec}
    (hx : PolicySpec.codec.read j = .ok x) :
    (s.update (policy ns name) none (·.withMember "spec" j)).2.WellKept ns ∧
      PolicyChange ns s (s.update (policy ns name) none (·.withMember "spec" j)).2 := by
  rcases s.update_snd (policy ns name) none (·.withMember "spec" j) with h | ⟨old, hfind, -, h⟩
  · rw [h]
    exact ⟨hs, .refl s⟩
  · obtain ⟨m, q, rfl, hmem, hread, -, -⟩ := hs.found hfind
    have hcanonical := hs.canonical _ hmem
    have hwritten := Observed.read_withSpec (Json.canonical_object.1 hcanonical).1 hread hx
    obtain ⟨hkept, hpolicies⟩ := hs.replaced hfind hread (hcanonical.withMember "spec" hj) hwritten
      rfl rfl
    rw [h]
    refine ⟨hkept, .rewrites q _ ⟨_, hmem, hread⟩ ?_ ?_ rfl hpolicies⟩
    · rfl
    · exact Or.inl

theorem change_of_removal (hs : s.WellKept ns) (name : String) :
    (s.remove (policy ns name)).WellKept ns ∧ PolicyChange ns s (s.remove (policy ns name)) := by
  have hobjects : (s.remove (policy ns name)).objects .policies =
      (s.objects .policies).eraseP (policy ns name).fits :=
    objects_withObjects_self s .policies _
  have hmembers {i : Json} (hi : i ∈ (s.remove (policy ns name)).inNamespace .policies ns) :
      i ∈ s.inNamespace .policies ns := by
    obtain ⟨hi, hns⟩ := mem_inNamespace.1 hi
    rw [hobjects] at hi
    exact mem_inNamespace.2 ⟨List.mem_of_mem_eraseP hi, hns⟩
  refine ⟨⟨?_, fun i hi => hs.canonical i (hmembers hi), fun i hi => hs.readable i (hmembers hi)⟩,
    .shrinks (Nat.le_refl _) ?_⟩
  · rw [hobjects]
    exact List.Nodup.sublist (List.Sublist.map _ List.eraseP_sublist) hs.distinct
  · rintro p ⟨i, hi, hip⟩
    exact ⟨i, hmembers hi, hip⟩

theorem change_of_creation (hs : s.WellKept ns) {m : Dict Json} (hm : (Json.object m).Canonical)
    (hread : Policy.codec.read (.object m) = .ok q) (hns : q.metadata.ns = some ns)
    (hstatus : q.status = none)
    (hyoung : ∀ p, s.HasPolicy ns p → p.metadata.noYoungerThan q.metadata = true) :
    (s.create (policy ns q.metadata.anyName) (.object m)).2.WellKept ns ∧
      PolicyChange ns s (s.create (policy ns q.metadata.anyName) (.object m)).2 := by
  rcases s.create_snd (policy ns q.metadata.anyName) (.object m) with h | ⟨hfind, h⟩
  · rw [h]
    exact ⟨hs, .refl s⟩
  rw [h]
  generalize hi : (Json.object m).withResourceVersion s.nextVersion = i at h
  obtain ⟨hcanonical, hstored, hplace⟩ := stored_policy hm hread hns hi.symm
  have hobjects : (s.created (policy ns q.metadata.anyName) i).objects .policies =
      s.objects .policies ++ [i] := objects_created_self s (policy ns q.metadata.anyName) i
  have hmembers {l : Json}
      (hl : l ∈ (s.created (policy ns q.metadata.anyName) i).inNamespace .policies ns) :
      l ∈ s.inNamespace .policies ns ∨ l = i := by
    obtain ⟨hl, hns⟩ := mem_inNamespace.1 hl
    rw [hobjects] at hl
    rcases List.mem_append.1 hl with hl | hl
    · exact .inl (mem_inNamespace.2 ⟨hl, hns⟩)
    · exact .inr (List.mem_singleton.1 hl)
  refine ⟨hs.written rfl ?_ hcanonical hstored fun l => hmembers,
    .grows (q.withVersion s.nextVersion) ?_ rfl hyoung rfl ?_⟩
  · rw [hobjects, List.map_append, List.nodup_append]
    refine ⟨hs.distinct, by simp, ?_⟩
    intro p hp p' hp' hpp'
    obtain ⟨l, hl, rfl⟩ := List.mem_map.1 hp
    obtain rfl := List.mem_singleton.1 hp'
    refine List.find?_eq_none.1 hfind l hl ?_
    exact (fits_policy ns _ l).2 (hpp'.trans hplace)
  · show (Observed.isReady _ : Bool) = false
    simp only [Observed.isReady, Observed.withVersion, hstatus]
  · rintro p ⟨l, hl, hlp⟩
    rcases hmembers hl with hl | rfl
    · exact .inr ⟨l, hl, hlp⟩
    · exact .inl (Except.ok.inj (hlp.symm.trans hstored))

/-! ## The active policy -/

/-- All policies of the namespace can be listed, and at most one of them is active. -/
def AtMostOneActive (s : Cluster) (ns : String) : Prop :=
  ∃ policies, (s.answer (.listPolicies ns)).1 = .ok policies ∧
    (policies.filter (·.isActive)).length ≤ 1

theorem mem_of_listed {policies : List Policy}
    (h : (s.answer (.listPolicies ns)).1 = .ok policies) :
    p ∈ policies ↔ s.HasPolicy ns p := by
  simp only [Except.mem_iff_of_mapM_eq_ok h, readAs, Except.mapError_eq_ok, HasPolicy]

theorem WellKept.atMostOneActive_iff (hs : s.WellKept ns) : s.AtMostOneActive ns ↔
    ∀ p q, s.HasPolicy ns p → s.HasPolicy ns q → p.isActive = true → q.isActive = true →
      p.metadata.anyName = q.metadata.anyName := by
  constructor
  · rintro ⟨policies, hlisted, hone⟩ p q hp hq hpa hqa
    have hmem {p : Policy} (hp : s.HasPolicy ns p) (hpa : p.isActive = true) :
        p ∈ policies.filter (·.isActive) :=
      List.mem_filter.2 ⟨(mem_of_listed hlisted).2 hp, hpa⟩
    have hp := hmem hp hpa
    have hq := hmem hq hqa
    match hfilter : policies.filter (·.isActive) with
    | [] => simp [hfilter] at hp
    | [x] =>
      rw [hfilter, List.mem_singleton] at hp hq
      rw [hp, hq]
    | _ :: _ :: _ => simp [hfilter] at hone
  · intro h
    obtain ⟨policies, hlisted, hplaces⟩ : ∃ policies,
        (s.inNamespace .policies ns).mapM (readAs Policy.codec) = .ok policies ∧
        policies.map (fun p => (⟨some ns, p.metadata.anyName⟩ : ObjectRef)) =
          (s.inNamespace .policies ns).map Json.place := by
      refine Except.exists_mapM_eq_ok ?_
      intro j hj
      obtain ⟨p, -, hp, -⟩ := hs.readable j hj
      exact ⟨p, Except.mapError_eq_ok.2 hp, (hs.place_of_read hj hp).2.1.symm⟩
    have hlisted : (s.answer (.listPolicies ns)).1 = .ok policies := hlisted
    refine ⟨policies, hlisted, ?_⟩
    have hnames : (policies.map fun p => (⟨some ns, p.metadata.anyName⟩ : ObjectRef)).Nodup := by
      rw [hplaces]
      exact List.Nodup.sublist (List.Sublist.map _ List.filter_sublist) hs.distinct
    have hactive := List.Nodup.sublist
      (List.Sublist.map (fun p : Policy => (⟨some ns, p.metadata.anyName⟩ : ObjectRef))
        (List.filter_sublist (p := (·.isActive)))) hnames
    refine length_le_one_of_keys hactive ?_
    intro p hp q hq
    obtain ⟨hp, hpa⟩ := List.mem_filter.1 hp
    obtain ⟨hq, hqa⟩ := List.mem_filter.1 hq
    rw [h p q ((mem_of_listed hlisted).1 hp) ((mem_of_listed hlisted).1 hq) hpa hqa]

end Cluster

end ControlPlane
