import ControlPlane.Cluster.Basic
import ControlPlane.Proofs.Codec.Laws

/-!
# Reading metadata

Metadata is read from objects alone, each member by itself. What an API server looks at, the place
of an object and its version, is what is read; and to give an object another version changes nothing
else that is read.
-/

namespace ControlPlane

open Document (ofJson ofMembers)

/-- A text that may be absent or null reads as the text that is there. -/
theorem Record.Holds.asString {o : Origin} {value : Option Json} {a : Option String}
    (h : Record.Holds (Codec.string.option.decode o) (some none) value a) :
    value.bind Json.asString? = a := by
  cases value with
  | none => exact Option.some.inj h
  | some j =>
    cases j with
    | null => exact Except.ok.inj h
    | string s => exact Except.ok.inj h
    | _ => cases h

/-- A time is written in whole seconds, whether or not it is one. -/
theorem Codec.map_encode_wholeSecond (t : Option Instant) :
    (t.map (·.wholeSecond)).map (instant .seconds).encode = t.map (instant .seconds).encode := by
  simp [Function.comp_def, instant, Instant.text_wholeSecond]

namespace OwnerReference

theorem codec_writes : codec.Writes fun _ => True :=
  Record.Writes.objectCodec (.seq (.seq (.seq (.seq (.seq (.map
    (.filled Codec.string_writes fun _ _ => trivial) _)
    (.filled Codec.string_writes fun _ _ => trivial))
    (.filled Codec.string_writes fun _ _ => trivial))
    (.filled Codec.string_writes fun _ _ => trivial))
    (.optional Codec.bool_writes fun _ _ _ _ => trivial))
    (.optional Codec.bool_writes fun _ _ _ _ => trivial))

theorem codec_restores : codec.Restores fun _ => True :=
  have string {key : String} {get : OwnerReference → String} :
      (Record.filled key .string get).Restores get fun _ => True :=
    .filled Codec.string_writes Codec.string_restores fun _ _ => trivial
  have bool {key : String} {get : OwnerReference → Option Bool} :
      (Record.optional key .bool get "").Restores get fun _ => True :=
    .optional Codec.bool_writes Codec.bool_restores fun _ _ _ _ => trivial
  Record.Restores.objectCodec (.seq (.seq (.seq (.seq (.seq (.map string _) string) string) string)
    bool) bool) (by decide)

end OwnerReference

namespace ManagedFieldsEntry

/-- The fields are in key order and not null, and the time is an instant of the calendar. -/
structure Valid (e : ManagedFieldsEntry) : Prop where
  fields : ∀ j, e.fields = some j → j.Proper
  time : ∀ t, e.time = some t → t.Valid

theorem codec_yields : codec.Yields Valid := by
  refine Record.Yields.objectCodec (.seq (.seq (.seq (.seq (.seq (.seq
    (.map (Q := fun _ => True) .any ?_) .any) (.member Codec.raw_option_yields (by simp) (by simp)))
    .any) .any) .any) (.optional (Codec.instant_yields _)))
  exact fun _ _ _ _ _ hfields _ _ _ _ _ _ _ htime => ⟨hfields, htime⟩

theorem codec_writes : codec.Writes Valid Json.Proper :=
  have string {key : String} {get : ManagedFieldsEntry → Option String} :
      (Record.optional key .string get "").Writes Valid Json.Proper :=
    .optional Codec.string_writes.proper fun _ _ _ _ => trivial
  Record.Writes.objectCodec (.seq (.seq (.seq (.seq (.seq (.seq (.map string _) string)
    (.optional Codec.raw_writes fun _ h => h.fields)) string) string) string)
    (.optional (Codec.instant_writes _).proper fun _ _ _ _ => trivial))

/-- The entry as it is written: its time is a whole second. -/
def wholeSeconds (e : ManagedFieldsEntry) : ManagedFieldsEntry :=
  { e with time := e.time.map (·.wholeSecond) }

theorem codec_restoresAs : codec.RestoresAs wholeSeconds Valid :=
  have string {key : String} {get : ManagedFieldsEntry → Option String} :
      (Record.optional key .string get "").Restores get Valid :=
    .optional Codec.string_writes Codec.string_restores fun _ _ _ _ => trivial
  Record.Restores.objectCodec_as (.seq (.seq (.seq (.seq (.seq (.seq (.map string _) string)
    (.optional Codec.raw_writes Codec.raw_restores fun _ h => h.fields)) string) string) string)
    (.optional_as (Codec.instant_writes _).always Codec.instant_restoresAs fun _ h => h.time))
    (by decide)

theorem encode_wholeSeconds (e : ManagedFieldsEntry) :
    codec.encode e.wholeSeconds = codec.encode e := by
  simp only [codec, Record.objectCodec, Record.encode, Record.optional, Record.member, Functor.map,
    Seq.seq, wholeSeconds, Codec.map_encode_wholeSecond]

end ManagedFieldsEntry

namespace Metadata

variable {o : Origin} {m : Dict Json} {x : Metadata}

/-- The members of an object read as the fields of `x`. -/
structure ReadFrom (o : Origin) (m : Dict Json) (x : Metadata) : Prop where
  name : Record.Holds (Codec.string.option.decode o) (some none) (m.get? "name") x.name
  generateName : Record.Holds (Codec.string.option.decode o) (some none) (m.get? "generateName")
    x.generateName
  ns : Record.Holds (Codec.string.option.decode o) (some none) (m.get? "namespace") x.ns
  uid : Record.Holds (Codec.string.option.decode o) (some none) (m.get? "uid") x.uid
  resourceVersion : Record.Holds (Codec.string.option.decode o) (some none)
    (m.get? "resourceVersion") x.resourceVersion
  generation : Record.Holds (Codec.int64.option.decode o) (some none) (m.get? "generation")
    x.generation
  creationTimestamp : Record.Holds ((Codec.instant .seconds).option.decode o) (some none)
    (m.get? "creationTimestamp") x.creationTimestamp
  deletionTimestamp : Record.Holds ((Codec.instant .seconds).option.decode o) (some none)
    (m.get? "deletionTimestamp") x.deletionTimestamp
  labels : Record.Holds (Codec.string.dict.option.decode o) (some none) (m.get? "labels") x.labels
  annotations : Record.Holds (Codec.string.dict.option.decode o) (some none)
    (m.get? "annotations") x.annotations
  finalizers : Record.Holds (Codec.string.list.option.decode o) (some none)
    (m.get? "finalizers") x.finalizers
  ownerReferences : Record.Holds (OwnerReference.codec.list.option.decode o) (some none)
    (m.get? "ownerReferences") x.ownerReferences
  managedFields : Record.Holds (ManagedFieldsEntry.codec.list.option.decode o) (some none)
    (m.get? "managedFields") x.managedFields
  deletionGracePeriodSeconds : Record.Holds (Codec.int64.option.decode o) (some none)
    (m.get? "deletionGracePeriodSeconds") x.deletionGracePeriodSeconds
  selfLink : Record.Holds (Codec.string.option.decode o) (some none) (m.get? "selfLink") x.selfLink

theorem decode_object (hm : m.Sorted) :
    codec.decode o (ofJson (.object m)) = .ok x ↔ ReadFrom o m x := by
  rw [codec, Record.objectCodec_decode_object]
  constructor
  · intro h₁₅
    obtain ⟨_, _, h₁₄, hselfLink, rfl⟩ := Record.read_seq_eq_ok.1 h₁₅
    obtain ⟨_, _, h₁₃, hgrace, rfl⟩ := Record.read_seq_eq_ok.1 h₁₄
    obtain ⟨_, _, h₁₂, hmanaged, rfl⟩ := Record.read_seq_eq_ok.1 h₁₃
    obtain ⟨_, _, h₁₁, hownerReferences, rfl⟩ := Record.read_seq_eq_ok.1 h₁₂
    obtain ⟨_, _, h₁₀, hfinalizers, rfl⟩ := Record.read_seq_eq_ok.1 h₁₁
    obtain ⟨_, _, h₉, hannotations, rfl⟩ := Record.read_seq_eq_ok.1 h₁₀
    obtain ⟨_, _, h₈, hlabels, rfl⟩ := Record.read_seq_eq_ok.1 h₉
    obtain ⟨_, _, h₇, hdeletion, rfl⟩ := Record.read_seq_eq_ok.1 h₈
    obtain ⟨_, _, h₆, hcreation, rfl⟩ := Record.read_seq_eq_ok.1 h₇
    obtain ⟨_, _, h₅, hgeneration, rfl⟩ := Record.read_seq_eq_ok.1 h₆
    obtain ⟨_, _, h₄, hversion, rfl⟩ := Record.read_seq_eq_ok.1 h₅
    obtain ⟨_, _, h₃, huid, rfl⟩ := Record.read_seq_eq_ok.1 h₄
    obtain ⟨_, _, h₂, hns, rfl⟩ := Record.read_seq_eq_ok.1 h₃
    obtain ⟨_, _, h₁, hgenerate, rfl⟩ := Record.read_seq_eq_ok.1 h₂
    obtain ⟨_, hname, rfl⟩ := Record.read_map_eq_ok.1 h₁
    constructor <;> exact (Record.read_optional hm).1 ‹_›
  · intro h
    obtain ⟨name, generateName, ns, uid, resourceVersion, generation, creationTimestamp,
      deletionTimestamp, labels, annotations, finalizers, ownerReferences, managedFields,
      deletionGracePeriodSeconds, selfLink⟩ := x
    have hread := fun {α : Type} {key : String} {c : Codec α} {get : Metadata → Option α}
      {a : Option α} (h : Record.Holds (c.option.decode o) (some none) (m.get? key) a) =>
      (Record.read_optional hm : (Record.optional key c get "").read o (ofMembers m) = .ok a ↔ _).2 h
    refine Record.read_seq_eq_ok.2 ⟨_, selfLink, ?_, hread h.selfLink, rfl⟩
    refine Record.read_seq_eq_ok.2
      ⟨_, deletionGracePeriodSeconds, ?_, hread h.deletionGracePeriodSeconds, rfl⟩
    refine Record.read_seq_eq_ok.2 ⟨_, managedFields, ?_, hread h.managedFields, rfl⟩
    refine Record.read_seq_eq_ok.2 ⟨_, ownerReferences, ?_, hread h.ownerReferences, rfl⟩
    refine Record.read_seq_eq_ok.2 ⟨_, finalizers, ?_, hread h.finalizers, rfl⟩
    refine Record.read_seq_eq_ok.2 ⟨_, annotations, ?_, hread h.annotations, rfl⟩
    refine Record.read_seq_eq_ok.2 ⟨_, labels, ?_, hread h.labels, rfl⟩
    refine Record.read_seq_eq_ok.2 ⟨_, deletionTimestamp, ?_, hread h.deletionTimestamp, rfl⟩
    refine Record.read_seq_eq_ok.2 ⟨_, creationTimestamp, ?_, hread h.creationTimestamp, rfl⟩
    refine Record.read_seq_eq_ok.2 ⟨_, generation, ?_, hread h.generation, rfl⟩
    refine Record.read_seq_eq_ok.2 ⟨_, resourceVersion, ?_, hread h.resourceVersion, rfl⟩
    refine Record.read_seq_eq_ok.2 ⟨_, uid, ?_, hread h.uid, rfl⟩
    refine Record.read_seq_eq_ok.2 ⟨_, ns, ?_, hread h.ns, rfl⟩
    refine Record.read_seq_eq_ok.2 ⟨_, generateName, ?_, hread h.generateName, rfl⟩
    exact Record.read_map_eq_ok.2 ⟨name, hread h.name, rfl⟩

/-- Metadata is read from nothing but objects. -/
theorem exists_object_of_decode {j : Json} (h : codec.decode o (ofJson j) = .ok x) :
    ∃ m, j = .object m := by
  cases j with
  | object m => exact ⟨m, rfl⟩
  | _ => cases h

/-! ## Metadata that is written -/

/-- The times are instants of the calendar, the numbers have 64 bits, and the dictionaries are in key
order. -/
structure Valid (x : Metadata) : Prop where
  generation : ∀ n, x.generation = some n → n < 0x8000000000000000
  creationTimestamp : ∀ t, x.creationTimestamp = some t → t.Valid
  deletionTimestamp : ∀ t, x.deletionTimestamp = some t → t.Valid
  labels : ∀ d, x.labels = some d → d.Sorted
  annotations : ∀ d, x.annotations = some d → d.Sorted
  managedFields : ∀ es, x.managedFields = some es → ∀ e ∈ es, e.Valid
  deletionGracePeriodSeconds : ∀ n, x.deletionGracePeriodSeconds = some n → n < 0x8000000000000000

theorem codec_yields : codec.Yields Valid := by
  refine Record.Yields.objectCodec (.seq (.seq (.seq (.seq (.seq (.seq (.seq (.seq (.seq (.seq
    (.seq (.seq (.seq (.seq (.map (Q := fun _ => True) .any ?_) .any) .any) .any) .any)
    (.optional Codec.int64_yields)) (.optional (Codec.instant_yields _)))
    (.optional (Codec.instant_yields _))) (.optional Codec.dict_yields))
    (.optional Codec.dict_yields)) .any) .any)
    (.optional (Codec.Yields.list ManagedFieldsEntry.codec_yields)))
    (.optional Codec.int64_yields)) .any)
  exact fun _ _ _ _ _ _ _ _ _ _ _ hgeneration _ hcreation _ hdeletion _ hlabels _ hannotations
    _ _ _ _ _ hmanaged _ hgrace _ _ =>
      ⟨hgeneration, hcreation, hdeletion, hlabels, hannotations, hmanaged, hgrace⟩

theorem codec_writes : codec.Writes Valid Json.Proper :=
  have string {key : String} {get : Metadata → Option String} :
      (Record.optional key .string get "").Writes Valid Json.Proper :=
    .optional Codec.string_writes.proper fun _ _ _ _ => trivial
  have int {key : String} {get : Metadata → Option Int} :
      (Record.optional key .int64 get "").Writes Valid Json.Proper :=
    .optional Codec.int64_writes.proper fun _ _ _ _ => trivial
  have timestamp {key : String} {get : Metadata → Option Instant} :
      (Record.optional key (.instant .seconds) get "").Writes Valid Json.Proper :=
    .optional (Codec.instant_writes _).proper fun _ _ _ _ => trivial
  have dict {key : String} {get : Metadata → Option (Dict String)}
      (h : ∀ x : Metadata, x.Valid → ∀ d, get x = some d → d.Sorted) :
      (Record.optional key (.dict .string) get "").Writes Valid Json.Proper :=
    .optional (Codec.Writes.dict Codec.string_writes.proper) h
  Record.Writes.objectCodec (.seq (.seq (.seq (.seq (.seq (.seq (.seq (.seq (.seq (.seq
    (.seq (.seq (.seq (.seq (.map string _) string) string) string) string) int) timestamp)
    timestamp) (dict fun _ h => h.labels)) (dict fun _ h => h.annotations))
    (.optional (Codec.Writes.list Codec.string_writes).proper fun _ _ _ _ _ _ => trivial))
    (.optional (Codec.Writes.list OwnerReference.codec_writes).proper fun _ _ _ _ _ _ => trivial))
    (.optional (Codec.Writes.list ManagedFieldsEntry.codec_writes) fun _ h => h.managedFields))
    int) string)

/-- The metadata as it is written: its times are whole seconds. -/
def wholeSeconds (x : Metadata) : Metadata :=
  { x with
    creationTimestamp := x.creationTimestamp.map (·.wholeSecond)
    deletionTimestamp := x.deletionTimestamp.map (·.wholeSecond)
    managedFields := x.managedFields.map (List.map (·.wholeSeconds)) }

/-- Metadata is read back as it was written, the times in whole seconds. -/
theorem codec_restoresAs : codec.RestoresAs wholeSeconds Valid :=
  have string {key : String} {get : Metadata → Option String} :
      (Record.optional key .string get "").Restores get Valid :=
    .optional Codec.string_writes Codec.string_restores fun _ _ _ _ => trivial
  have int {key : String} {get : Metadata → Option Int}
      (h : ∀ x : Metadata, x.Valid → ∀ n, get x = some n → n < 0x8000000000000000) :
      (Record.optional key .int64 get "").Restores get Valid :=
    .optional Codec.int64_writes.always Codec.int64_restores h
  have timestamp {key : String} {get : Metadata → Option Instant}
      (h : ∀ x : Metadata, x.Valid → ∀ t, get x = some t → t.Valid) :
      (Record.optional key (.instant .seconds) get "").Restores
        (fun x => (get x).map (·.wholeSecond)) Valid :=
    .optional_as (Codec.instant_writes _).always Codec.instant_restoresAs h
  have dict {key : String} {get : Metadata → Option (Dict String)}
      (h : ∀ x : Metadata, x.Valid → ∀ d, get x = some d → d.Sorted) :
      (Record.optional key (.dict .string) get "").Restores get Valid :=
    .optional (Codec.Writes.dict Codec.string_writes) (Codec.Restores.dict Codec.string_restores) h
  Record.Restores.objectCodec_as (.seq (.seq (.seq (.seq (.seq (.seq (.seq (.seq (.seq (.seq
    (.seq (.seq (.seq (.seq (.map string _) string) string) string) string)
    (int fun _ h => h.generation)) (timestamp fun _ h => h.creationTimestamp))
    (timestamp fun _ h => h.deletionTimestamp)) (dict fun _ h => h.labels))
    (dict fun _ h => h.annotations))
    (.optional (Codec.Writes.list Codec.string_writes)
      (Codec.Restores.list Codec.string_restores) fun _ _ _ _ _ _ => trivial))
    (.optional (Codec.Writes.list OwnerReference.codec_writes)
      (Codec.Restores.list OwnerReference.codec_restores) fun _ _ _ _ _ _ => trivial))
    (.optional_as (Codec.Writes.list ManagedFieldsEntry.codec_writes)
      (Codec.RestoresAs.list ManagedFieldsEntry.codec_restoresAs) fun _ h => h.managedFields))
    (int fun _ h => h.deletionGracePeriodSeconds)) string) (by decide)

/-- What is written is an object that reads as what it was, with its times in whole seconds. -/
theorem exists_encode (hx : x.Valid) : ∃ m, codec.encode x = .object m ∧ Dict.Sorted m ∧
    ReadFrom .direct m x.wholeSeconds := by
  have hsorted {members : List (String × Json)} : Dict.Sorted (Dict.ofList members) :=
    Dict.sorted_ofList members
  exact ⟨_, rfl, hsorted, (decode_object hsorted).1 (codec_restoresAs .direct x hx)⟩

theorem encode_wholeSeconds (x : Metadata) : codec.encode x.wholeSeconds = codec.encode x := by
  have hmanaged : (x.managedFields.map (List.map (·.wholeSeconds))).map
      ManagedFieldsEntry.codec.list.encode =
        x.managedFields.map ManagedFieldsEntry.codec.list.encode := by
    simp [Function.comp_def, Codec.list, ManagedFieldsEntry.encode_wholeSeconds]
  simp only [codec, Record.objectCodec, Record.encode, Record.optional, Record.member, Functor.map,
    Seq.seq, wholeSeconds, Codec.map_encode_wholeSecond, hmanaged]

/-- Metadata in the form in which it is written: it has no members but those that are known, none of
them is null, and times are in whole seconds. -/
def Standard (j : Json) : Prop := ∃ x : Metadata, x.Valid ∧ codec.encode x = j

/-- Metadata in this form is written as it was read. -/
theorem Standard.encode_eq {j : Json} (hj : Standard j) (h : codec.read j = .ok x) :
    codec.encode x = j := by
  obtain ⟨y, hy, rfl⟩ := hj
  obtain rfl := Except.ok.inj (h.symm.trans (codec_restoresAs .direct y hy))
  exact encode_wholeSeconds y

/-- The metadata under another version. -/
def withVersion (x : Metadata) (version : String) : Metadata :=
  { x with resourceVersion := some version }

theorem ReadFrom.withVersion (h : ReadFrom o m x) (version : String) :
    ReadFrom o (m.insert "resourceVersion" (.string version)) (x.withVersion version) := by
  obtain ⟨_, _, _, _, -, _, _, _, _, _, _, _, _, _, _⟩ := h
  constructor <;> simp only [Dict.get?_insert, String.reduceEq, reduceIte, Metadata.withVersion] <;>
    first
      | assumption
      | rfl

end Metadata

namespace Json

variable {m mm : Dict Json} {o : Origin} {x : Metadata}

theorem Canonical.withMember {j v : Json} (hj : j.Canonical) (k : String) (hv : v.Canonical) :
    (j.withMember k v).Canonical := by
  have hm : (object (j.asObject?.getD [])).Canonical := hj.targetMembers
  obtain ⟨hs, hc⟩ := canonical_object.1 hm
  refine canonical_object.2 ⟨hs.insert k v, ?_⟩
  intro e he
  rcases Dict.mem_insert he with rfl | he
  · exact hv
  · exact hc e he

theorem Canonical.getD_get? {j : Json} (hj : j.Canonical) (k : String) :
    ((j.get? k).getD .null).Canonical := by
  cases hv : j.get? k with
  | none => simp [Canonical]
  | some v =>
    cases j with
    | object m => exact Canonical.get? hj hv
    | _ => cases hv

theorem Canonical.withResourceVersion {j : Json} (hj : j.Canonical) (version : String) :
    (j.withResourceVersion version).Canonical :=
  hj.withMember _ ((hj.getD_get? "metadata").withMember _ (by simp [Canonical]))

theorem withMember_object (m : Dict Json) (k : String) (v : Json) :
    (object m).withMember k v = .object (Dict.insert m k v) := rfl

theorem get?_withMember_self (j : Json) (k : String) (v : Json) :
    (j.withMember k v).get? k = some v := Dict.get?_insert_self ..

theorem get?_withMember_of_ne {k q : String} (h : k ≠ q) (j v : Json) :
    (j.withMember k v).get? q = j.get? q := by
  refine (Dict.get?_insert_of_ne h _ _).trans ?_
  cases j <;> rfl

/-- Other members than the metadata do not say where an object is. -/
theorem place_withMember {k : String} (hk : k ≠ "metadata") (j v : Json) :
    (j.withMember k v).place = j.place := by
  simp only [place, metadataText?, get?_withMember_of_ne hk]

/-- The version does not say where an object is. -/
theorem place_withResourceVersion (j : Json) (version : String) :
    (j.withResourceVersion version).place = j.place := by
  have htext {q : String} (hq : "resourceVersion" ≠ q) :
      (j.withResourceVersion version).metadataText? q = j.metadataText? q := by
    rw [metadataText?, withResourceVersion, get?_withMember_self, Option.bind_some, text?,
      get?_withMember_of_ne hq, metadataText?]
    cases j.get? "metadata" <;> rfl
  simp only [place, htext (q := "namespace") (by decide), htext (q := "name") (by decide),
    htext (q := "generateName") (by decide)]

theorem resourceVersion?_withResourceVersion (j : Json) (version : String) :
    (j.withResourceVersion version).resourceVersion? = some version := by
  rw [resourceVersion?, metadataText?, withResourceVersion, get?_withMember_self, Option.bind_some,
    text?, get?_withMember_self]
  rfl

theorem withResourceVersion_object (h : m.get? "metadata" = some (.object mm)) (version : String) :
    (object m).withResourceVersion version =
      .object (Dict.insert m "metadata"
        (.object (Dict.insert mm "resourceVersion" (.string version)))) := by
  simp only [withResourceVersion, get?, h, Option.getD_some, withMember_object]

theorem metadataText?_object (h : m.get? "metadata" = some (.object mm)) (k : String) :
    (object m).metadataText? k = (mm.get? k).bind asString? := by
  simp only [metadataText?, get?, h, Option.bind_some, text?]

/-- An object is found where its metadata says. -/
theorem place_object (h : m.get? "metadata" = some (.object mm)) (hx : Metadata.ReadFrom o mm x) :
    (object m).place = ⟨x.ns, x.anyName⟩ := by
  simp only [place, metadataText?_object h, hx.ns.asString, hx.name.asString,
    hx.generateName.asString, Metadata.anyName]

theorem resourceVersion?_object (h : m.get? "metadata" = some (.object mm))
    (hx : Metadata.ReadFrom o mm x) : (object m).resourceVersion? = x.resourceVersion := by
  simp only [resourceVersion?, metadataText?_object h, hx.resourceVersion.asString]

end Json

end ControlPlane
