import ControlPlane.Access.Role
import ControlPlane.Proofs.Metadata

/-!
# Reading and writing roles and bindings

A role and a binding say their type, but need not, and have metadata. `ArtifactHead` says what both
have in common, and how it fares when an object gets another version or another list. What is
written of a role or a binding is read back.
-/

namespace ControlPlane

open Document (ofJson ofMembers)

namespace Record

variable {R α : Type} {key value : String} {o : Origin} {m : Dict Json}

theorem read_fixed (hm : m.Sorted) {u : Unit} :
    (fixed (R := R) key value).read o (ofMembers m) = .ok u ↔
      ∀ j, m.get? key = some j → j = .string value := by
  refine (read_member hm).trans ?_
  cases m.get? key with
  | none => simp [Holds]
  | some j =>
    cases j with
    | string s =>
      by_cases hs : s = value <;> simp [Holds, ofJson, Codec.string, Document.invalidValue, hs]
    | _ => simp [Holds, ofJson, Codec.string, Document.invalidType]

theorem fixed_writes {P : R → Prop} : (fixed (R := R) key value).Writes P Json.Proper :=
  .member fun _ _ _ hj => Option.some.inj hj ▸ Json.Form.proper _ (Json.plain_string value)

theorem fixed_restores {P : R → Prop} : (fixed (R := R) key value).Restores (fun _ => ()) P :=
  .member fun _ _ _ => by simp [Holds, ofJson, Codec.string]

/-- A member with this value, or without one, reads as `a`, and so does a null if `a` is the
default value. -/
def Fills [Inhabited α] (c : Codec α) (value : Option Json) (a : α) : Prop :=
  match value with
  | none | some .null => a = default
  | some j => c.read j = .ok a

theorem read_filled [Inhabited α] {c : Codec α} {get : R → α} (hm : m.Sorted) {a : α} :
    (filled key c get).read .direct (ofMembers m) = .ok a ↔ Fills c (m.get? key) a := by
  refine (read_member hm).trans ?_
  cases hv : m.get? key with
  | none => simp [Holds, Fills, eq_comm]
  | some j =>
    by_cases hj : j = .null
    · subst hj
      simp [Holds, Fills, ofJson, Codec.option, Except.map, eq_comm]
    · have hfills : Fills c (some j) a ↔ c.read j = .ok a := by
        cases j <;> first
          | exact absurd rfl hj
          | exact Iff.rfl
      rw [hfills]
      refine Except.map_eq_ok.trans ⟨?_, fun hread => ?_⟩
      · rintro ⟨_, hsome, rfl⟩
        obtain ⟨x, hx, rfl⟩ := (Codec.option_decode_ofJson hj).1 hsome
        exact hx
      · exact ⟨some a, (Codec.option_decode_ofJson hj).2 ⟨a, hread, rfl⟩, rfl⟩

end Record

namespace Metadata

variable {m : Dict Json} {x : Metadata}

/-- Objects without metadata are found and changed as those with empty metadata. -/
theorem exists_metadata (h : Record.Fills codec (m.get? "metadata") x)
    (hm : (Json.object m).Canonical) :
    ∃ mm, Dict.Sorted mm ∧ ReadFrom .direct mm x ∧
      (∀ k v, ((m.get? "metadata").getD .null).withMember k v = .object (Dict.insert mm k v)) ∧
      ∀ k, (Json.object m).metadataText? k = (Dict.get? mm k).bind Json.asString? := by
  cases hj : m.get? "metadata" with
  | none =>
    rw [hj] at h
    obtain rfl := h
    refine ⟨[], .nil, ?_, fun _ _ => rfl, fun k => ?_⟩
    · constructor <;> rfl
    · simp [Json.metadataText?, Json.get?, hj]
  | some j =>
    rw [hj] at h
    cases j with
    | null =>
      obtain rfl := h
      refine ⟨[], .nil, ?_, fun _ _ => rfl, fun k => ?_⟩
      · constructor <;> rfl
      · simp [Json.metadataText?, Json.get?, hj, Json.text?]
    | object mm =>
      have hsorted := (Json.canonical_object.1 (Json.Canonical.get? hm hj)).1
      exact ⟨mm, hsorted, (decode_object hsorted).1 h, fun _ _ => rfl,
        Json.metadataText?_object hj⟩
    | _ => cases h

/-- An object is found where its metadata says, also if it need not have any. -/
theorem place_of_fills (h : Record.Fills codec (m.get? "metadata") x)
    (hm : (Json.object m).Canonical) : (Json.object m).place = ⟨x.ns, x.anyName⟩ := by
  obtain ⟨mm, -, hread, -, htext⟩ := exists_metadata h hm
  simp only [Json.place, htext, hread.ns.asString, hread.name.asString,
    hread.generateName.asString, anyName]

end Metadata

/-! ## What roles and bindings have in common -/

/-- The members say this type if they say any, and the metadata reads as `x`. -/
structure ArtifactHead (kind : String) (m : Dict Json) (x : Metadata) : Prop where
  apiVersion : ∀ j, m.get? "apiVersion" = some j → j = .string accessApiVersion
  kind : ∀ j, m.get? "kind" = some j → j = .string kind
  metadata : Record.Fills Metadata.codec (m.get? "metadata") x

namespace ArtifactHead

variable {kind : String} {m : Dict Json} {x : Metadata}

theorem place (h : ArtifactHead kind m x) (hm : (Json.object m).Canonical) :
    (Json.object m).place = ⟨x.ns, x.anyName⟩ :=
  Metadata.place_of_fills h.metadata hm

theorem resourceVersion (h : ArtifactHead kind m x) (hm : (Json.object m).Canonical) :
    (Json.object m).resourceVersion? = x.resourceVersion := by
  obtain ⟨mm, -, hread, -, htext⟩ := Metadata.exists_metadata h.metadata hm
  simp only [Json.resourceVersion?, htext, hread.resourceVersion.asString]

/-- A member besides has no part in the head. -/
theorem insert (h : ArtifactHead kind m x) {k : String} (v : Json)
    (hk : k ∉ ["apiVersion", "kind", "metadata"]) : ArtifactHead kind (m.insert k v) x := by
  simp only [List.mem_cons, List.not_mem_nil, or_false, not_or] at hk
  refine ⟨?_, ?_, ?_⟩
  · rw [Dict.get?_insert_of_ne hk.1]
    exact h.apiVersion
  · rw [Dict.get?_insert_of_ne hk.2.1]
    exact h.kind
  · rw [Dict.get?_insert_of_ne hk.2.2]
    exact h.metadata

/-- Another version is a matter of the metadata. -/
theorem withVersion (h : ArtifactHead kind m x) (hm : (Json.object m).Canonical)
    (version : String) : ∃ m', (Json.object m).withResourceVersion version = .object m' ∧
      ArtifactHead kind m' (x.withVersion version) ∧
      ∀ k, "metadata" ≠ k → Dict.get? m' k = m.get? k := by
  obtain ⟨mm, hsorted, hread, hmember, -⟩ := Metadata.exists_metadata h.metadata hm
  refine ⟨_, congrArg (fun j => Json.object (Dict.insert m "metadata" j)) (hmember _ _),
    ⟨?_, ?_, ?_⟩, fun k hk => Dict.get?_insert_of_ne hk _ _⟩
  · rw [Dict.get?_insert_of_ne (by decide)]
    exact h.apiVersion
  · rw [Dict.get?_insert_of_ne (by decide)]
    exact h.kind
  · rw [Dict.get?_insert_self]
    exact (Metadata.decode_object (hsorted.insert _ _)).2 (hread.withVersion version)

end ArtifactHead

/-- What the codec reads says in its metadata where it is found and in which version, and reads the
same in another version. -/
structure Codec.Versioned {α : Type} (c : Codec α) (metadata : α → Metadata)
    (withVersion : α → String → α) : Prop where
  exists_object : ∀ {j x}, c.read j = .ok x → ∃ m, j = .object m
  place : ∀ {m x}, (Json.object m).Canonical → c.read (.object m) = .ok x →
    (Json.object m).place = ⟨(metadata x).ns, (metadata x).anyName⟩
  resourceVersion : ∀ {m x}, (Json.object m).Canonical → c.read (.object m) = .ok x →
    (Json.object m).resourceVersion? = (metadata x).resourceVersion
  read_withVersion : ∀ {m x}, (Json.object m).Canonical → c.read (.object m) = .ok x →
    ∀ version, c.read ((Json.object m).withResourceVersion version) = .ok (withVersion x version)
  metadata_withVersion : ∀ x version, metadata (withVersion x version) =
    (metadata x).withVersion version

theorem Codec.Versioned.place_and_read {α : Type} {c : Codec α} {metadata : α → Metadata}
    {withVersion : α → String → α} (hc : c.Versioned metadata withVersion) {j : Json} {x : α}
    (hj : j.Canonical) (h : c.read j = .ok x) (version : String) :
    (j.withResourceVersion version).place = ⟨(metadata x).ns, (metadata x).anyName⟩ ∧
      c.read (j.withResourceVersion version) = .ok (withVersion x version) := by
  obtain ⟨m, rfl⟩ := hc.exists_object h
  have hnew := hj.withResourceVersion version
  have hstored := hc.read_withVersion hj h version
  obtain ⟨m', hm'⟩ := hc.exists_object hstored
  refine ⟨?_, hstored⟩
  rw [hm'] at hnew hstored ⊢
  rw [hc.place hnew hstored, hc.metadata_withVersion]
  rfl

/-! ## The parts -/

section Texts

variable {R : Type} {key : String}

theorem Record.texts_writes {get : R → Option (List String)} :
    (optional key (.list .string) get "").Writes fun _ => True :=
  .optional (Codec.Writes.list Codec.string_writes) fun _ _ _ _ _ _ => trivial

theorem Record.texts_restores {get : R → Option (List String)} :
    (optional key (.list .string) get "").Restores get fun _ => True :=
  .optional (Codec.Writes.list Codec.string_writes) (Codec.Restores.list Codec.string_restores)
    fun _ _ _ _ _ _ => trivial

theorem Record.text_restores {get : R → String} :
    (filled key .string get).Restores get fun _ => True :=
  .filled Codec.string_writes Codec.string_restores fun _ _ => trivial

theorem Record.optionalText_restores {get : R → Option String} :
    (optional key .string get "").Restores get fun _ => True :=
  .optional Codec.string_writes Codec.string_restores fun _ _ _ _ => trivial

end Texts

namespace AccessRule

theorem codec_writes : codec.Writes fun _ => True :=
  Record.Writes.objectCodec (.seq (.seq (.seq (.seq (.map Record.texts_writes _)
    Record.texts_writes) Record.texts_writes) Record.texts_writes)
    (.filled (Codec.Writes.list Codec.string_writes) fun _ _ _ _ => trivial))

theorem codec_restores : codec.Restores fun _ => True :=
  Record.Restores.objectCodec (.seq (.seq (.seq (.seq (.map Record.texts_restores _)
    Record.texts_restores) Record.texts_restores) Record.texts_restores)
    (.filled (Codec.Writes.list Codec.string_writes)
      (Codec.Restores.list Codec.string_restores) fun _ _ _ _ => trivial)) (by decide)

end AccessRule

namespace BindingSubject

theorem codec_writes : codec.Writes fun _ => True :=
  Record.Writes.objectCodec (.seq (.seq (.seq (.map
    (.optional Codec.string_writes fun _ _ _ _ => trivial) _)
    (.filled Codec.string_writes fun _ _ => trivial))
    (.filled Codec.string_writes fun _ _ => trivial))
    (.optional Codec.string_writes fun _ _ _ _ => trivial))

theorem codec_restores : codec.Restores fun _ => True :=
  Record.Restores.objectCodec (.seq (.seq (.seq (.map Record.optionalText_restores _)
    Record.text_restores) Record.text_restores) Record.optionalText_restores) (by decide)

end BindingSubject

namespace RoleRef

theorem codec_writes : codec.Writes fun _ => True :=
  Record.Writes.objectCodec (.seq (.seq (.map
    (.filled Codec.string_writes fun _ _ => trivial) _)
    (.filled Codec.string_writes fun _ _ => trivial))
    (.filled Codec.string_writes fun _ _ => trivial))

theorem codec_restores : codec.Restores fun _ => True :=
  Record.Restores.objectCodec (.seq (.seq (.map Record.text_restores _) Record.text_restores)
    Record.text_restores) (by decide)

end RoleRef

/-! ## Roles -/

namespace Role

variable {b : Breadth} {m : Dict Json} {x : Role}

/-- The members of an object read as the parts of `x`. -/
structure ReadFrom (b : Breadth) (m : Dict Json) (x : Role) : Prop where
  head : ArtifactHead b.roleKind m x.metadata
  rules : Record.Holds (AccessRule.codec.list.option.decode .direct) (some none) (m.get? "rules")
    x.rules

theorem read_object (hm : m.Sorted) : (codec b).read (.object m) = .ok x ↔ ReadFrom b m x := by
  refine Record.objectCodec_decode_object.trans ?_
  constructor
  · intro h₄
    obtain ⟨_, _, h₃, hrules, rfl⟩ := Record.read_seq_eq_ok.1 h₄
    obtain ⟨_, _, h₂, hmetadata, rfl⟩ := Record.read_seq_eq_ok.1 h₃
    obtain ⟨_, _, h₁, hkind, rfl⟩ := Record.read_seq_eq_ok.1 h₂
    obtain ⟨_, hversion, rfl⟩ := Record.read_map_eq_ok.1 h₁
    exact ⟨⟨(Record.read_fixed hm).1 hversion, (Record.read_fixed hm).1 hkind,
      (Record.read_filled hm).1 hmetadata⟩, (Record.read_optional hm).1 hrules⟩
  · obtain ⟨metadata, rules⟩ := x
    rintro ⟨⟨hversion, hkind, hmetadata⟩, hrules⟩
    refine Record.read_seq_eq_ok.2 ⟨_, rules, ?_, (Record.read_optional hm).2 hrules, rfl⟩
    refine Record.read_seq_eq_ok.2 ⟨_, metadata, ?_, (Record.read_filled hm).2 hmetadata, rfl⟩
    refine Record.read_seq_eq_ok.2
      ⟨fun _ m r => mk m r, (), ?_, (Record.read_fixed hm).2 hkind, rfl⟩
    exact Record.read_map_eq_ok.2 ⟨(), (Record.read_fixed hm).2 hversion, rfl⟩

theorem codec_writes (b : Breadth) :
    (codec b).Writes (fun x => x.metadata.Valid) Json.Proper :=
  Record.Writes.objectCodec (.seq (.seq (.seq (.map Record.fixed_writes _) Record.fixed_writes)
    (.filled Metadata.codec_writes fun _ h => h))
    (.optional (Codec.Writes.list AccessRule.codec_writes).proper fun _ _ _ _ _ _ => trivial))

/-- What is written of a role is read back, its times in whole seconds. -/
theorem read_encode (hx : x.metadata.Valid) :
    (codec b).read ((codec b).encode x) = .ok { x with metadata := x.metadata.wholeSeconds } :=
  Record.objectCodec_decode_object.2 <|
    Record.Restores.read_encode (.seq (.seq (.seq (.map Record.fixed_restores _)
      Record.fixed_restores)
      (.filled_as Metadata.codec_writes Metadata.codec_restoresAs fun _ h => h))
      (.optional (Codec.Writes.list AccessRule.codec_writes)
        (Codec.Restores.list AccessRule.codec_restores) fun _ _ _ _ _ _ => trivial))
      (by cases b <;> decide) .direct hx

/-- The role under another version. -/
def withVersion (x : Role) (version : String) : Role :=
  { x with metadata := x.metadata.withVersion version }

theorem codec_versioned (b : Breadth) : (codec b).Versioned (·.metadata) withVersion where
  exists_object {j _} h := by
    cases j with
    | object m => exact ⟨m, rfl⟩
    | _ => cases h
  place hm h := ((read_object (Json.canonical_object.1 hm).1).1 h).head.place hm
  resourceVersion hm h := ((read_object (Json.canonical_object.1 hm).1).1 h).head.resourceVersion hm
  read_withVersion hm h version := by
    have hread := (read_object (Json.canonical_object.1 hm).1).1 h
    have hnew := hm.withResourceVersion version
    obtain ⟨m', hm', hhead, hsame⟩ := hread.head.withVersion hm version
    rw [hm'] at hnew ⊢
    refine (read_object (Json.canonical_object.1 hnew).1).2 ⟨hhead, ?_⟩
    rw [hsame _ (by decide)]
    exact hread.rules
  metadata_withVersion _ _ := rfl

theorem read_withRules (hm : m.Sorted) (h : (codec b).read (.object m) = .ok x)
    (rules : List AccessRule) :
    (codec b).read ((Json.object m).withMember "rules" (AccessRule.codec.list.encode rules)) =
      .ok { x with rules := some rules } := by
  have hread := (read_object hm).1 h
  refine (read_object (hm.insert _ _)).2 ⟨hread.head.insert _ (by decide), ?_⟩
  rw [Dict.get?_insert_self]
  have hwrites := Codec.Writes.list AccessRule.codec_writes rules fun _ _ => trivial
  exact (Codec.option_decode_ofJson hwrites.ne_null).2
    ⟨rules, Codec.Restores.list AccessRule.codec_restores .direct rules fun _ _ => trivial, rfl⟩

end Role

/-! ## Bindings -/

namespace RoleBinding

variable {b : Breadth} {m : Dict Json} {x : RoleBinding}

/-- The members of an object read as the parts of `x`. -/
structure ReadFrom (b : Breadth) (m : Dict Json) (x : RoleBinding) : Prop where
  head : ArtifactHead b.bindingKind m x.metadata
  roleRef : Record.Fills RoleRef.codec (m.get? "roleRef") x.roleRef
  subjects : Record.Holds (BindingSubject.codec.list.option.decode .direct) (some none)
    (m.get? "subjects") x.subjects

theorem read_object (hm : m.Sorted) : (codec b).read (.object m) = .ok x ↔ ReadFrom b m x := by
  refine Record.objectCodec_decode_object.trans ?_
  constructor
  · intro h₅
    obtain ⟨_, _, h₄, hsubjects, rfl⟩ := Record.read_seq_eq_ok.1 h₅
    obtain ⟨_, _, h₃, hroleRef, rfl⟩ := Record.read_seq_eq_ok.1 h₄
    obtain ⟨_, _, h₂, hmetadata, rfl⟩ := Record.read_seq_eq_ok.1 h₃
    obtain ⟨_, _, h₁, hkind, rfl⟩ := Record.read_seq_eq_ok.1 h₂
    obtain ⟨_, hversion, rfl⟩ := Record.read_map_eq_ok.1 h₁
    exact ⟨⟨(Record.read_fixed hm).1 hversion, (Record.read_fixed hm).1 hkind,
      (Record.read_filled hm).1 hmetadata⟩, (Record.read_filled hm).1 hroleRef,
      (Record.read_optional hm).1 hsubjects⟩
  · obtain ⟨metadata, roleRef, subjects⟩ := x
    rintro ⟨⟨hversion, hkind, hmetadata⟩, hroleRef, hsubjects⟩
    refine Record.read_seq_eq_ok.2 ⟨_, subjects, ?_, (Record.read_optional hm).2 hsubjects, rfl⟩
    refine Record.read_seq_eq_ok.2 ⟨_, roleRef, ?_, (Record.read_filled hm).2 hroleRef, rfl⟩
    refine Record.read_seq_eq_ok.2 ⟨_, metadata, ?_, (Record.read_filled hm).2 hmetadata, rfl⟩
    refine Record.read_seq_eq_ok.2
      ⟨fun _ m r s => mk m r s, (), ?_, (Record.read_fixed hm).2 hkind, rfl⟩
    exact Record.read_map_eq_ok.2 ⟨(), (Record.read_fixed hm).2 hversion, rfl⟩

theorem codec_writes (b : Breadth) :
    (codec b).Writes (fun x => x.metadata.Valid) Json.Proper :=
  Record.Writes.objectCodec (.seq (.seq (.seq (.seq (.map Record.fixed_writes _)
    Record.fixed_writes) (.filled Metadata.codec_writes fun _ h => h))
    (.filled RoleRef.codec_writes.proper fun _ _ => trivial))
    (.optional (Codec.Writes.list BindingSubject.codec_writes).proper fun _ _ _ _ _ _ => trivial))

/-- What is written of a binding is read back, its times in whole seconds. -/
theorem read_encode (hx : x.metadata.Valid) :
    (codec b).read ((codec b).encode x) = .ok { x with metadata := x.metadata.wholeSeconds } :=
  Record.objectCodec_decode_object.2 <|
    Record.Restores.read_encode (.seq (.seq (.seq (.seq (.map Record.fixed_restores _)
      Record.fixed_restores)
      (.filled_as Metadata.codec_writes Metadata.codec_restoresAs fun _ h => h))
      (.filled RoleRef.codec_writes RoleRef.codec_restores fun _ _ => trivial))
      (.optional (Codec.Writes.list BindingSubject.codec_writes)
        (Codec.Restores.list BindingSubject.codec_restores) fun _ _ _ _ _ _ => trivial))
      (by cases b <;> decide) .direct hx

/-- The binding under another version. -/
def withVersion (x : RoleBinding) (version : String) : RoleBinding :=
  { x with metadata := x.metadata.withVersion version }

theorem codec_versioned (b : Breadth) : (codec b).Versioned (·.metadata) withVersion where
  exists_object {j _} h := by
    cases j with
    | object m => exact ⟨m, rfl⟩
    | _ => cases h
  place hm h := ((read_object (Json.canonical_object.1 hm).1).1 h).head.place hm
  resourceVersion hm h := ((read_object (Json.canonical_object.1 hm).1).1 h).head.resourceVersion hm
  read_withVersion hm h version := by
    have hread := (read_object (Json.canonical_object.1 hm).1).1 h
    have hnew := hm.withResourceVersion version
    obtain ⟨m', hm', hhead, hsame⟩ := hread.head.withVersion hm version
    rw [hm'] at hnew ⊢
    refine (read_object (Json.canonical_object.1 hnew).1).2 ⟨hhead, ?_, ?_⟩
    · rw [hsame _ (by decide)]
      exact hread.roleRef
    · rw [hsame _ (by decide)]
      exact hread.subjects
  metadata_withVersion _ _ := rfl

theorem read_withSubjects (hm : m.Sorted) (h : (codec b).read (.object m) = .ok x)
    (subjects : List BindingSubject) :
    (codec b).read ((Json.object m).withMember "subjects"
      (BindingSubject.codec.list.encode subjects)) = .ok { x with subjects := some subjects } := by
  have hread := (read_object hm).1 h
  refine (read_object (hm.insert _ _)).2 ⟨hread.head.insert _ (by decide), ?_, ?_⟩
  · rw [Dict.get?_insert_of_ne (by decide)]
    exact hread.roleRef
  · rw [Dict.get?_insert_self]
    have hwrites := Codec.Writes.list BindingSubject.codec_writes subjects fun _ _ => trivial
    exact (Codec.option_decode_ofJson hwrites.ne_null).2 ⟨subjects,
      Codec.Restores.list BindingSubject.codec_restores .direct subjects fun _ _ => trivial, rfl⟩

end RoleBinding

namespace Namespace

variable {m : Dict Json} {x : Namespace}

/-- A namespace is found where its metadata says. -/
theorem place_of_read (hm : (Json.object m).Canonical)
    (h : codec.read (.object m) = .ok x) :
    (Json.object m).place = ⟨x.metadata.ns, x.metadata.anyName⟩ := by
  unfold codec Codec.read at h
  rw [Record.objectCodec_decode_object] at h
  obtain ⟨_, _, h₂, hmetadata, rfl⟩ := Record.read_seq_eq_ok.1 h
  obtain ⟨_, _, h₁, -, rfl⟩ := Record.read_seq_eq_ok.1 h₂
  obtain ⟨_, -, rfl⟩ := Record.read_map_eq_ok.1 h₁
  exact Metadata.place_of_fills ((Record.read_filled (Json.canonical_object.1 hm).1).1 hmetadata) hm

end Namespace

end ControlPlane
