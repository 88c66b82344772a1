import ControlPlane.Object
import ControlPlane.Proofs.Metadata

/-!
# Reading objects with a status

An object is read member by member. What a server writes to it, another version and another status,
changes nothing else that is read.
-/

namespace ControlPlane.Observed

open Document (ofJson ofMembers)

variable {S T : Type} {kind : String} {spec : Codec S} {status : Codec T} {m : Dict Json}
  {x : Observed S T}

/-- The members of an object read as the parts of `x`. -/
structure ReadFrom (spec : Codec S) (status : Codec T) (m : Dict Json) (x : Observed S T) :
    Prop where
  metadata : Record.Holds (Metadata.codec.decode .direct) none (m.get? "metadata") x.metadata
  spec : Record.Holds (spec.decode .direct) none (m.get? "spec") x.spec
  status : Record.Holds (status.option.decode .direct) (some none) (m.get? "status") x.status

theorem read_object (hm : m.Sorted) :
    (codec kind spec status).read (.object m) = .ok x ↔ ReadFrom spec status m x := by
  refine (Record.decodeDistinct_eq_ok hm).trans ?_
  constructor
  · intro h₃
    obtain ⟨_, _, h₂, hstatus, rfl⟩ := Record.read_seq_eq_ok.1 h₃
    obtain ⟨_, _, h₁, hspec, rfl⟩ := Record.read_seq_eq_ok.1 h₂
    obtain ⟨_, hmetadata, rfl⟩ := Record.read_map_eq_ok.1 h₁
    exact ⟨(Record.read_required hm).1 hmetadata, (Record.read_required hm).1 hspec,
      (Record.read_member hm).1 hstatus⟩
  · obtain ⟨⟨metadata, spec⟩, status⟩ := x
    rintro ⟨hmetadata, hspec, hstatus⟩
    exact Record.read_seq_eq_ok.2 ⟨_, status, Record.read_seq_eq_ok.2 ⟨_, spec,
      Record.read_map_eq_ok.2 ⟨metadata, (Record.read_required hm).2 hmetadata, rfl⟩,
      (Record.read_required hm).2 hspec, rfl⟩, (Record.read_member hm).2 hstatus, rfl⟩

theorem ReadFrom.exists_metadata (h : ReadFrom spec status m x) (hm : (Json.object m).Canonical) :
    ∃ mm, m.get? "metadata" = some (.object mm) ∧ Metadata.ReadFrom .direct mm x.metadata ∧
      Dict.Sorted mm := by
  have hmetadata := h.metadata
  cases hj : m.get? "metadata" with
  | none =>
    rw [hj] at hmetadata
    cases hmetadata
  | some j =>
    rw [hj] at hmetadata
    obtain ⟨mm, rfl⟩ := Metadata.exists_object_of_decode hmetadata
    have hsorted := (Json.canonical_object.1 (Json.Canonical.get? hm hj)).1
    exact ⟨mm, rfl, (Metadata.decode_object hsorted).1 hmetadata, hsorted⟩

theorem place_of_read (hm : (Json.object m).Canonical)
    (h : (codec kind spec status).read (.object m) = .ok x) :
    (Json.object m).place = ⟨x.metadata.ns, x.metadata.anyName⟩ := by
  have hread := (read_object (Json.canonical_object.1 hm).1).1 h
  obtain ⟨mm, hmm, hmetadata, -⟩ := hread.exists_metadata hm
  exact Json.place_object hmm hmetadata

theorem resourceVersion_of_read (hm : (Json.object m).Canonical)
    (h : (codec kind spec status).read (.object m) = .ok x) :
    (Json.object m).resourceVersion? = x.metadata.resourceVersion := by
  have hread := (read_object (Json.canonical_object.1 hm).1).1 h
  obtain ⟨mm, hmm, hmetadata, -⟩ := hread.exists_metadata hm
  exact Json.resourceVersion?_object hmm hmetadata

/-- What is read of an object in a namespace says where the object is found and in which version. -/
theorem of_stored {j : Json} {ns : String} (hj : j.Canonical) (hns : j.place.ns = some ns)
    (h : (codec kind spec status).read j = .ok x) :
    (∃ m, j = .object m) ∧ j.place = ⟨some ns, x.metadata.anyName⟩ ∧ x.metadata.ns = some ns ∧
      j.resourceVersion? = x.metadata.resourceVersion := by
  obtain ⟨m, rfl⟩ : ∃ m, j = .object m := by
    cases j with
    | object m => exact ⟨m, rfl⟩
    | _ => cases hns
  have hplace := place_of_read hj h
  rw [hplace] at hns ⊢
  refine ⟨⟨m, rfl⟩, ?_, hns, resourceVersion_of_read hj h⟩
  exact congrArg (ObjectRef.mk · _) hns

/-- The object under another version. -/
def withVersion (x : Observed S T) (version : String) : Observed S T :=
  { x with metadata := x.metadata.withVersion version }

theorem read_withResourceVersion (hm : (Json.object m).Canonical)
    (h : (codec kind spec status).read (.object m) = .ok x) (version : String) :
    (codec kind spec status).read ((Json.object m).withResourceVersion version) =
      .ok (x.withVersion version) := by
  have hsorted := (Json.canonical_object.1 hm).1
  have hread := (read_object hsorted).1 h
  obtain ⟨mm, hmm, hmetadata, hmms⟩ := hread.exists_metadata hm
  rw [Json.withResourceVersion_object hmm]
  refine (read_object (hsorted.insert _ _)).2 ⟨?_, ?_, ?_⟩
  · rw [Dict.get?_insert_self]
    exact (Metadata.decode_object (hmms.insert _ _)).2 (hmetadata.withVersion version)
  · rw [Dict.get?_insert_of_ne (by decide)]
    exact hread.spec
  · rw [Dict.get?_insert_of_ne (by decide)]
    exact hread.status

theorem read_withStatus (hm : m.Sorted) (h : (codec kind spec status).read (.object m) = .ok x)
    {j : Json} {t : T} (hj : j ≠ .null) (ht : status.read j = .ok t) :
    (codec kind spec status).read ((Json.object m).withMember "status" j) =
      .ok { x with status := some t } := by
  have hread := (read_object hm).1 h
  rw [Json.withMember_object]
  refine (read_object (hm.insert _ _)).2 ⟨?_, ?_, ?_⟩
  · rw [Dict.get?_insert_of_ne (by decide)]
    exact hread.metadata
  · rw [Dict.get?_insert_of_ne (by decide)]
    exact hread.spec
  · rw [Dict.get?_insert_self]
    exact (Codec.option_decode_ofJson hj).2 ⟨t, ht, rfl⟩

/-- A status that is read satisfies what all of its kind do. -/
theorem of_status (hm : m.Sorted) (h : (codec kind spec status).read (.object m) = .ok x)
    {P : T → Prop} (hP : status.Yields P) {t : T} (ht : x.status = some t) : P t := by
  have hread := ((read_object hm).1 h).status
  rw [ht] at hread
  cases hj : m.get? "status" with
  | none =>
    rw [hj] at hread
    cases hread
  | some j =>
    rw [hj] at hread
    exact hP.option _ _ _ hread t rfl

theorem read_withSpec (hm : m.Sorted) (h : (codec kind spec status).read (.object m) = .ok x)
    {j : Json} {y : S} (hy : spec.read j = .ok y) :
    (codec kind spec status).read ((Json.object m).withMember "spec" j) =
      .ok { x with spec := y } := by
  have hread := (read_object hm).1 h
  rw [Json.withMember_object]
  refine (read_object (hm.insert _ _)).2 ⟨?_, ?_, ?_⟩
  · rw [Dict.get?_insert_of_ne (by decide)]
    exact hread.metadata
  · rw [Dict.get?_insert_self]
    exact hy
  · rw [Dict.get?_insert_of_ne (by decide)]
    exact hread.status

end ControlPlane.Observed
