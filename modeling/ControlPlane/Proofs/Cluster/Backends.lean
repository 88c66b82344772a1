import ControlPlane.Proofs.Facade.Stored

/-!
# Backends in a cluster

Backends are told apart by their types and places. `Cluster.Keeps` says of all stored backends that
they can be read, carry versions that were given out, and satisfy a predicate of where they are and
what is read. It is kept by the writes of backends, each of which gives out a new version. So what
was once read of a backend is what is stored as long as the version is the same: `Cluster.Remembers`
stays true whatever becomes of the backends.
-/

namespace ControlPlane

open Cluster (backend)

/-- The target is a backend of some type in some namespace. -/
def Target.IsBackend (t : Target) : Prop := ∃ resource ns name, t = backend resource ns name

namespace Target.IsBackend

variable {t t' : Target} {j : Json}

theorem fits_iff (ht : t.IsBackend) : t.fits j = true ↔ (j.type?, j.place) = (t.type, t.place) := by
  obtain ⟨resource, ns, name, rfl⟩ := ht
  constructor
  · intro h
    obtain ⟨hplace, htype⟩ := Bool.and_eq_true_iff.1 h
    exact Prod.ext (of_decide_eq_true htype) (of_decide_eq_true hplace)
  · intro h
    obtain ⟨htype, hplace⟩ := Prod.mk.inj h
    exact Bool.and_eq_true_iff.2 ⟨decide_eq_true hplace, decide_eq_true htype⟩

theorem ext (ht : t.IsBackend) (ht' : t'.IsBackend) (h : (t.type, t.place) = (t'.type, t'.place)) :
    t = t' := by
  obtain ⟨resource, ns, name, rfl⟩ := ht
  obtain ⟨resource', ns', name', rfl⟩ := ht'
  simp only [backend, Prod.mk.injEq] at h ⊢
  simp only [Target.mk.injEq, true_and]
  exact ⟨h.2, h.1⟩

/-- An object fits one target only. -/
theorem unique (ht : t.IsBackend) (ht' : t'.IsBackend) (h : t.fits j = true)
    (h' : t'.fits j = true) : t = t' :=
  ht.ext ht' ((ht.fits_iff.1 h).symm.trans (ht'.fits_iff.1 h'))

theorem disjoint (ht : t.IsBackend) (ht' : t'.IsBackend) (hne : t' ≠ t) (h : t.fits j = true) :
    t'.fits j = false :=
  Bool.eq_false_iff.2 fun h' => hne (ht'.unique ht h' h)

theorem collection (ht : t.IsBackend) : t.collection = .backends := by
  obtain ⟨resource, ns, name, rfl⟩ := ht
  rfl

end Target.IsBackend

/-- The backend under another version, and with its times in whole seconds. -/
def Backend.underVersion (b : Backend) (version : String) : Backend :=
  ⟨b.type, b.metadata.wholeSeconds.withVersion version, b.data⟩

/-- The object is the backend at the target, under none of the versions after the `n`th. -/
structure Backend.StoredAs (n : Nat) (t : Target) (j : Json) (b : Backend) : Prop where
  target : t.IsBackend
  fits : t.fits j = true
  readFrom : ∃ m type, j = .object m ∧ GenericObject.ReadFrom m type b
  version : ∃ v, b.metadata.resourceVersion = some v ∧ Cluster.GivenOut n v

namespace Backend.StoredAs

variable {n n' : Nat} {t : Target} {j : Json} {b : Backend}

theorem mono (h : StoredAs n t j b) (hn : n ≤ n') : StoredAs n' t j b := by
  obtain ⟨v, hv, hout⟩ := h.version
  exact ⟨h.target, h.fits, h.readFrom, v, hv, hout.mono hn⟩

theorem read (h : StoredAs n t j b) : GenericObject.codec.read j = .ok b := by
  obtain ⟨m, type, rfl, hread⟩ := h.readFrom
  exact hread.read

theorem valid (h : StoredAs n t j b) : b.Valid := by
  obtain ⟨m, type, rfl, hread⟩ := h.readFrom
  exact hread.valid

theorem type_and_ref (h : StoredAs n t j b) : b.type = t.type ∧ b.metadata.ref = t.place := by
  obtain ⟨htype, hplace⟩ := Prod.mk.inj (h.target.fits_iff.1 h.fits)
  obtain ⟨m, type, rfl, hread⟩ := h.readFrom
  exact ⟨(hread.type_eq.trans hread.type.symm).trans htype, hread.place.symm.trans hplace⟩

theorem resourceVersion (h : StoredAs n t j b) :
    j.resourceVersion? = b.metadata.resourceVersion := by
  obtain ⟨m, type, rfl, hread⟩ := h.readFrom
  exact hread.resourceVersion

/-- A backend is stored as it is written, but for its version and the precision of its times. -/
theorem written {resource : ApiResource} {ns : String}
    (ht : b.type = some ⟨resource.apiVersion, resource.kind⟩) (hns : b.metadata.ns = some ns)
    (hb : b.Valid) (s : Cluster) :
    StoredAs (s.version + 1) (backend resource ns b.metadata.anyName)
      ((GenericObject.codec.encode b).withResourceVersion s.nextVersion)
      (b.underVersion s.nextVersion) := by
  obtain ⟨m, hstored, hcanonical, htype, hplace, hread⟩ :=
    GenericObject.exists_stored ht hb s.nextVersion
  have htarget : (backend resource ns b.metadata.anyName).IsBackend := ⟨resource, ns, _, rfl⟩
  have hparts := GenericObject.readFrom_of_read hcanonical (by rw [hplace, hns]) htype hread
  rw [hstored, Backend.underVersion, ht]
  refine ⟨htarget, htarget.fits_iff.2 ?_, ⟨m, _, rfl, hparts⟩, s.nextVersion, rfl,
    s.givenOut_nextVersion⟩
  rw [htype, hplace, hns]
  rfl

/-- A backend whose status is written is another one in its status and version only. -/
theorem withStatus (h : StoredAs n t j b) {x : Json} (hx : x.Canonical) (s : Cluster) :
    StoredAs (s.version + 1) t ((j.withMember "status" x).withResourceVersion s.nextVersion)
      ⟨b.type, b.metadata.withVersion s.nextVersion, b.data.insert "status" x⟩ := by
  obtain ⟨m, type, rfl, hread⟩ := h.readFrom
  obtain ⟨m', hm', hread'⟩ :=
    (hread.withMember (show GenericObject.isData "status" = true by decide) hx).withResourceVersion
      s.nextVersion
  rw [Json.withMember_object, hm']
  refine ⟨h.target, h.target.fits_iff.2 ?_, ⟨m', type, rfl, hread'⟩, s.nextVersion, rfl,
    s.givenOut_nextVersion⟩
  rw [← h.target.fits_iff.1 h.fits, hread'.type, hread.type, hread'.place, hread.place]
  rfl

end Backend.StoredAs

namespace Cluster

variable {s s' : Cluster} {t : Target} {j : Json} {b : Backend} {P Q : Target → Backend → Prop}

/-- No two backends have the same type and the same place. -/
def DistinctBackends (s : Cluster) : Prop :=
  ((s.objects .backends).map fun j => (j.type?, j.place)).Nodup

/-- The backends can be read, are told apart by their types and places, carry versions that were
given out, and satisfy `P`. -/
structure Keeps (s : Cluster) (P : Target → Backend → Prop) : Prop where
  distinct : s.DistinctBackends
  kept : ∀ j ∈ s.objects .backends, ∃ t b, b.StoredAs s.version t j ∧ P t b

/-- What is found at a target is what was found before, is gone, or has the next version. -/
structure Moves (s s' : Cluster) : Prop where
  version : s.version ≤ s'.version
  found : ∀ t : Target, t.IsBackend → s'.find? t = s.find? t ∨ s'.find? t = none ∨
    ∃ j, s'.find? t = some j ∧ j.resourceVersion? = some s.nextVersion

theorem Moves.of_objects_eq (h : s'.objects .backends = s.objects .backends)
    (hv : s.version ≤ s'.version) : Moves s s' where
  version := hv
  found t ht := .inl (find?_of_objects_eq (by rw [ht.collection, h]))

theorem Keeps.of_objects_eq (hs : s.Keeps P) (h : s'.objects .backends = s.objects .backends)
    (hv : s.version ≤ s'.version) (hP : ∀ t b, P t b → Q t b) : s'.Keeps Q := by
  refine ⟨?_, fun j hj => ?_⟩
  · unfold DistinctBackends
    rw [h]
    exact hs.distinct
  · obtain ⟨t, b, hstored, hp⟩ := hs.kept j (h ▸ hj)
    exact ⟨t, b, hstored.mono hv, hP t b hp⟩

theorem Keeps.of_find? (hs : s.Keeps P) (ht : t.IsBackend) (h : s.find? t = some j) :
    ∃ b, b.StoredAs s.version t j ∧ P t b := by
  have hmem : j ∈ s.objects .backends := ht.collection ▸ List.mem_of_find?_eq_some h
  obtain ⟨t', b, hstored, hp⟩ := hs.kept j hmem
  obtain rfl := hstored.target.unique ht hstored.fits (List.find?_some (p := t.fits) h)
  exact ⟨b, hstored, hp⟩

/-! ## Writes of backends -/

/-- The object is written at the target, and the other backends stay. -/
structure Sets (s : Cluster) (t : Target) (j : Json) (s' : Cluster) : Prop where
  version : s'.version = s.version + 1
  distinct : s'.DistinctBackends
  members : ∀ i ∈ s'.objects .backends, i ∈ s.objects .backends ∧ t.fits i = false ∨ i = j
  found : s'.find? t = some j
  elsewhere : ∀ t' : Target, t'.IsBackend → t' ≠ t → s'.find? t' = s.find? t'

theorem sets_created (hs : s.DistinctBackends) (ht : t.IsBackend) (hnone : s.find? t = none)
    (hj : t.fits j = true) : s.Sets t j (s.created t j) := by
  have hobjects := objects_created_self s t j
  have hfree : ∀ i ∈ s.objects t.collection, t.fits i = false := fun i hi =>
    Bool.eq_false_iff.2 (List.find?_eq_none.1 hnone i hi)
  rw [ht.collection] at hobjects hfree
  refine ⟨rfl, ?_, fun i hi => ?_, find?_created hnone hj, fun t' ht' hne => ?_⟩
  · unfold DistinctBackends
    rw [hobjects, List.map_append, List.nodup_append]
    refine ⟨hs, by simp, ?_⟩
    intro k hk k' hk' heq
    obtain ⟨i, hi, rfl⟩ := List.mem_map.1 hk
    obtain rfl := List.mem_singleton.1 hk'
    have hfits := ht.fits_iff.2 (heq.trans (ht.fits_iff.1 hj))
    rw [hfree i hi] at hfits
    cases hfits
  · rw [hobjects] at hi
    rcases List.mem_append.1 hi with hi | hi
    · exact .inl ⟨hi, hfree i hi⟩
    · exact .inr (List.mem_singleton.1 hi)
  · rw [find?, find?, ht'.collection, hobjects, List.find?_append,
      List.find?_cons_of_neg (by simp [ht.disjoint ht' hne hj])]
    simp

theorem sets_replaced (hs : s.DistinctBackends) (ht : t.IsBackend) {old : Json}
    (hold : s.find? t = some old) (hj : t.fits j = true) : s.Sets t j (s.replaced t j) := by
  have hobjects := objects_replaced_self s t j
  rw [ht.collection] at hobjects
  refine ⟨rfl, ?_, fun i hi => ?_, find?_replaced hold hj, fun t' ht' hne => ?_⟩
  · unfold DistinctBackends
    rw [hobjects, map_updateFirst]
    · exact hs
    · intro i hi
      exact (ht.fits_iff.1 hj).trans (ht.fits_iff.1 (List.find?_some hi)).symm
  · rw [hobjects] at hi
    have hkey (i : Json) := ht.fits_iff (j := i)
    rcases mem_updateFirst hkey hs hi with ⟨hi, hne⟩ | ⟨-, -, hi⟩
    · exact .inl ⟨hi, Bool.eq_false_iff.2 fun hfits => hne (ht.fits_iff.1 hfits)⟩
    · exact .inr hi
  · rw [find?, find?, ht'.collection, hobjects]
    exact find?_updateFirst_of_disjoint (fun i hi => ht.disjoint ht' hne hi)
      fun _ _ => ht.disjoint ht' hne hj

namespace Sets

variable {b : Backend}

theorem moves (h : s.Sets t j s') (hj : b.StoredAs (s.version + 1) t j)
    (hv : b.metadata.resourceVersion = some s.nextVersion) : Moves s s' := by
  refine ⟨by rw [h.version]; exact Nat.le_succ _, fun t' ht' => ?_⟩
  by_cases hne : t' = t
  · subst hne
    exact .inr (.inr ⟨j, h.found, hj.resourceVersion.trans hv⟩)
  · exact .inl (h.elsewhere t' ht' hne)

/-- After the write all backends satisfy `Q`, if those at other targets did and the new one does. -/
theorem keeps (h : s.Sets t j s') (hs : s.Keeps P) (hj : b.StoredAs (s.version + 1) t j)
    (hQ : Q t b) (hP : ∀ t' b, t' ≠ t → P t' b → Q t' b) : s'.Keeps Q := by
  refine ⟨h.distinct, fun i hi => ?_⟩
  rw [h.version]
  rcases h.members i hi with ⟨hi, hfits⟩ | rfl
  · obtain ⟨t', b', hstored, hp⟩ := hs.kept i hi
    refine ⟨t', b', hstored.mono (Nat.le_succ _), hP t' b' ?_ hp⟩
    rintro rfl
    rw [hstored.fits] at hfits
    cases hfits
  · exact ⟨t, b, hj, hQ⟩

end Sets

/-! ## Deletions of backends -/

theorem objects_removed (ht : t.IsBackend) (s : Cluster) :
    (s.remove t).objects .backends = (s.objects .backends).eraseP t.fits := by
  have hself := objects_removed_self s t
  rwa [ht.collection] at hself

theorem find?_removed (hs : s.DistinctBackends) (ht : t.IsBackend) :
    ((s.remove t).objects .backends).find? t.fits = none := by
  rw [objects_removed ht]
  exact find?_eraseP_self (fun i => ht.fits_iff (j := i)) hs

theorem moves_removed (hs : s.DistinctBackends) (ht : t.IsBackend) : Moves s (s.remove t) := by
  refine ⟨Nat.le_refl _, fun t' ht' => ?_⟩
  simp only [find?, ht'.collection]
  by_cases hne : t' = t
  · subst hne
    exact .inr (.inl (find?_removed hs ht))
  · rw [objects_removed ht]
    exact .inl (find?_eraseP_of_disjoint fun i hi => ht.disjoint ht' hne hi)

/-- After a deletion the backends at other targets are left. -/
theorem Keeps.removed (hs : s.Keeps P) (ht : t.IsBackend)
    (hP : ∀ t' b, t' ≠ t → P t' b → Q t' b) : (s.remove t).Keeps Q := by
  have hgone := find?_removed hs.distinct ht
  have hobjects := objects_removed ht s
  refine ⟨?_, fun i hi => ?_⟩
  · unfold DistinctBackends
    rw [hobjects]
    exact List.Nodup.sublist (List.Sublist.map _ List.eraseP_sublist) hs.distinct
  · obtain ⟨t', b, hstored, hp⟩ := hs.kept i (List.mem_of_mem_eraseP (hobjects ▸ hi))
    refine ⟨t', b, hstored, hP t' b ?_ hp⟩
    rintro rfl
    exact List.find?_eq_none.1 hgone i hi hstored.fits

/-! ## Reports of status -/

/-- When a status is reported for a backend, the backends satisfy what does not depend on it. -/
theorem Keeps.reported (hs : s.Keeps P) (ht : t.IsBackend) {x : Json} (hx : x.Canonical)
    (hP : ∀ b version, P t b →
      P t ⟨b.type, b.metadata.withVersion version, b.data.insert "status" x⟩) :
    Moves s (s.update t none (·.withMember "status" x)).2 ∧
      (s.update t none (·.withMember "status" x)).2.Keeps P := by
  rcases s.update_snd t none (·.withMember "status" x) with h | ⟨old, hfind, -, h⟩ <;> rw [h]
  · exact ⟨.of_objects_eq rfl (Nat.le_refl _), hs⟩
  · obtain ⟨b, hstored, hp⟩ := hs.of_find? ht hfind
    have hnew := hstored.withStatus hx s
    have hsets := sets_replaced hs.distinct ht hfind hnew.fits
    exact ⟨hsets.moves hnew rfl, hsets.keeps hs hnew (hP b _ hp) fun _ _ _ hp => hp⟩

/-! ## What was read before -/

/-- What was read of a backend is what is stored while the version is the same. -/
structure Remembers (s : Cluster) (t : Target) (b : Backend) : Prop where
  valid : b.Valid
  type : b.type = t.type
  place : b.metadata.ref = t.place
  current : ∃ v, b.metadata.resourceVersion = some v ∧ GivenOut s.version v ∧
    ∀ j, s.find? t = some j → j.resourceVersion? = some v → GenericObject.codec.read j = .ok b

theorem remembers_of_stored (h : b.StoredAs s.version t j) (hfind : s.find? t = some j) :
    s.Remembers t b := by
  obtain ⟨htype, hplace⟩ := h.type_and_ref
  obtain ⟨v, hv, hout⟩ := h.version
  refine ⟨h.valid, htype, hplace, v, hv, hout, fun i hi _ => ?_⟩
  obtain rfl := Option.some.inj (hfind.symm.trans hi)
  exact h.read

/-- What was read stays true whatever becomes of the backends. -/
theorem Remembers.moves (h : s.Remembers t b) (ht : t.IsBackend) (hs : Moves s s') :
    s'.Remembers t b := by
  obtain ⟨v, hv, hout, hcurrent⟩ := h.current
  refine ⟨h.valid, h.type, h.place, v, hv, hout.mono hs.version, fun j hj hversion => ?_⟩
  rcases hs.found t ht with hsame | hgone | ⟨i, hi, hnew⟩
  · exact hcurrent j (hsame ▸ hj) hversion
  · rw [hgone] at hj
    cases hj
  · -- A backend that was written since has a version that was not given out before.
    obtain rfl := Option.some.inj (hi.symm.trans hj)
    rw [hnew] at hversion
    exact (hout.ne_nextVersion (Option.some.inj hversion).symm).elim

/-! ## Calls -/

theorem update_spares (h : t.collection ≠ .backends) (version : Option String) (f : Json → Json) :
    (s.update t version f).2.objects .backends = s.objects .backends ∧
      s.version ≤ (s.update t version f).2.version := by
  rcases s.update_snd t version f with hs | ⟨old, -, -, hs⟩ <;> rw [hs]
  · exact ⟨rfl, Nat.le_refl _⟩
  · exact ⟨objects_replaced_of_ne h.symm, Nat.le_succ _⟩

theorem create_spares (h : t.collection ≠ .backends) (j : Json) :
    (s.create t j).2.objects .backends = s.objects .backends ∧
      s.version ≤ (s.create t j).2.version := by
  rcases s.create_snd t j with hs | ⟨-, hs⟩ <;> rw [hs]
  · exact ⟨rfl, Nat.le_refl _⟩
  · exact ⟨objects_created_of_ne h.symm, Nat.le_succ _⟩

section Calls

variable {resource : ApiResource} {ns : String}
  (ht : b.type = some ⟨resource.apiVersion, resource.kind⟩) (hns : b.metadata.ns = some ns)
  (hb : b.Valid)

include ht hns hb

/-- What was written is answered. -/
theorem stored_written (s s' : Cluster) :
    stored (.ok ((GenericObject.codec.encode b).withResourceVersion s.nextVersion), s') =
      (.ok (b.underVersion s.nextVersion), s') :=
  congrArg (·, s') (Except.mapError_eq_ok.2 (Backend.StoredAs.written ht hns hb s).read)

/-- A backend that is not there yet can be created. -/
theorem createBackend_of_none (hnone : s.find? (backend resource ns b.metadata.anyName) = none) :
    s.answer (.createBackend resource ns b) = (.ok (b.underVersion s.nextVersion),
      s.created (backend resource ns b.metadata.anyName)
        ((GenericObject.codec.encode b).withResourceVersion s.nextVersion)) := by
  rw [← stored_written ht hns hb]
  simp only [answer, create_of_none hnone]

/-- A backend that is there in the version that is named can be replaced. -/
theorem replaceBackend_of_find? {old : Json}
    (hfind : s.find? (backend resource ns b.metadata.anyName) = some old)
    (hversion : b.metadata.resourceVersion = old.resourceVersion?) :
    s.answer (.replaceBackend resource ns b) = (.ok (b.underVersion s.nextVersion),
      s.replaced (backend resource ns b.metadata.anyName)
        ((GenericObject.codec.encode b).withResourceVersion s.nextVersion)) := by
  rw [← stored_written ht hns hb]
  simp only [answer, update_of_find? hfind hversion]

/-- A backend is created if there is none, and else nothing happens. -/
theorem createBackend_cases (hs : s.DistinctBackends) :
    (∃ e, s.answer (.createBackend resource ns b) = (.error e, s)) ∨
      s.find? (backend resource ns b.metadata.anyName) = none ∧ ∃ j s',
        s.answer (.createBackend resource ns b) = (.ok (b.underVersion s.nextVersion), s') ∧
        s.Sets (backend resource ns b.metadata.anyName) j s' ∧
        (b.underVersion s.nextVersion).StoredAs (s.version + 1)
          (backend resource ns b.metadata.anyName) j := by
  have hwritten := Backend.StoredAs.written ht hns hb s
  cases hfind : s.find? (backend resource ns b.metadata.anyName) with
  | some old =>
    refine .inl ⟨alreadyExists (backend resource ns b.metadata.anyName), ?_⟩
    simp only [answer, create_of_found hfind]
    rfl
  | none =>
    exact .inr ⟨rfl, _, _, createBackend_of_none ht hns hb hfind,
      sets_created hs hwritten.target hfind hwritten.fits, hwritten⟩

/-- A backend is replaced if it is there in the version that is named, and else nothing happens. -/
theorem replaceBackend_cases (hs : s.DistinctBackends) :
    (∃ e, s.answer (.replaceBackend resource ns b) = (.error e, s)) ∨ ∃ old j s',
        s.find? (backend resource ns b.metadata.anyName) = some old ∧
        (b.metadata.resourceVersion = none ∨ b.metadata.resourceVersion = old.resourceVersion?) ∧
        s.answer (.replaceBackend resource ns b) = (.ok (b.underVersion s.nextVersion), s') ∧
        s.Sets (backend resource ns b.metadata.anyName) j s' ∧
        (b.underVersion s.nextVersion).StoredAs (s.version + 1)
          (backend resource ns b.metadata.anyName) j := by
  have hwritten := Backend.StoredAs.written ht hns hb s
  rcases hupdate : s.update (backend resource ns b.metadata.anyName) b.metadata.resourceVersion
    (fun _ => GenericObject.codec.encode b) with ⟨result, c⟩
  have hanswer : s.answer (.replaceBackend resource ns b) = stored (result, c) :=
    congrArg stored hupdate
  cases result with
  | error e =>
    have hkept := update_error hupdate
    exact .inl ⟨e, by rw [hanswer, hkept]; rfl⟩
  | ok j =>
    obtain ⟨old, hfind, hversion, rfl, rfl⟩ := update_eq_ok hupdate
    refine .inr ⟨old, _, _, hfind, hversion, ?_,
      sets_replaced hs hwritten.target hfind hwritten.fits, hwritten⟩
    rw [hanswer, stored_written ht hns hb]

end Calls

theorem role_spares (scope : Scope) (name : String) : (role scope name).collection ≠ .backends := by
  cases scope <;> simp [role]

theorem binding_spares (scope : Scope) (name : String) :
    (binding scope name).collection ≠ .backends := by
  cases scope <;> simp [binding]

end Cluster

/-- The step neither reads nor writes backends. -/
def Step.SparesBackends : Step → Prop
  | .api (.getBackend _ _ _) | .api (.createBackend _ _ _) | .api (.replaceBackend _ _ _) => False
  | _ => True

/-- Other steps leave the backends as they are. -/
theorem System.answer_spares {c : Step} (h : c.SparesBackends) (s : System) :
    (answer c s).2.cluster.objects .backends = s.cluster.objects .backends ∧
      s.cluster.version ≤ (answer c s).2.cluster.version := by
  cases c with
  | memory c => exact ⟨rfl, Nat.le_refl _⟩
  | api c =>
    cases c with
    | getBackend _ _ _ | createBackend _ _ _ | replaceBackend _ _ _ => exact h.elim
    | patchFacadeStatus resource ns name version patch =>
      simp only [answer, Cluster.answer]
      split
      · exact Cluster.update_spares (by simp [Cluster.facade]) _ _
      · exact ⟨rfl, Nat.le_refl _⟩
    | patchPolicyStatus ns name version status =>
      exact Cluster.update_spares (by simp [Cluster.policy]) _ _
    | createRole scope r => exact Cluster.create_spares (Cluster.role_spares _ _) _
    | patchRules scope name version rules =>
      exact Cluster.update_spares (Cluster.role_spares _ _) _ _
    | createBinding scope b => exact Cluster.create_spares (Cluster.binding_spares _ _) _
    | patchSubjects scope name version subjects =>
      exact Cluster.update_spares (Cluster.binding_spares _ _) _ _
    | deleteBinding scope name =>
      exact ⟨Cluster.objects_withObjects_of_ne (Cluster.binding_spares _ _).symm _ _, Nat.le_refl _⟩
    | _ => exact ⟨rfl, Nat.le_refl _⟩

end ControlPlane
