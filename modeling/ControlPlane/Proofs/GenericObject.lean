import ControlPlane.GenericObject
import ControlPlane.Proofs.Metadata

/-!
# Reading and writing objects of any kind

An object of a known type is written as its type, its metadata and its other members, and is read
back as it was but for the precision of its times.
-/

namespace ControlPlane.GenericObject

open Document (ofJson ofMembers)

/-- Whether a member says neither the type nor the metadata of an object. -/
def isData (key : String) : Bool := key ≠ "apiVersion" && key ≠ "kind" && key ≠ "metadata"

section TakeType

variable {v k : Option String} {key : String} {x : Json} {s : String} {t : TypeName}
  {rest : List (String × Json)}

theorem takeType_apiVersion :
    takeType none k (("apiVersion", .string s) :: rest) = takeType (some s) k rest := rfl

theorem takeType_kind :
    takeType v none (("kind", .string s) :: rest) = takeType v (some s) rest := rfl

theorem takeType_data (hv : key ≠ "apiVersion") (hk : key ≠ "kind") :
    takeType v k ((key, x) :: rest) =
      ((takeType v k rest).1, (key, x) :: (takeType v k rest).2) := by
  show (if key = "apiVersion" then _ else if key = "kind" then _ else _) = _
  rw [if_neg hv, if_neg hk]

/-- A part of the type is taken from a text, and not twice. -/
theorem takeType_cons_cases (h : (takeType v k ((key, x) :: rest)).1 = some t) :
    (∃ s, key = "apiVersion" ∧ v = none ∧ x = .string s) ∨
      (∃ s, key = "kind" ∧ k = none ∧ x = .string s) ∨
      key ≠ "apiVersion" ∧ key ≠ "kind" := by
  by_cases hv : key = "apiVersion"
  · subst hv
    cases v with
    | some v => cases h
    | none =>
      cases x with
      | string s => exact .inl ⟨s, rfl, rfl, rfl⟩
      | _ => cases h
  · by_cases hk : key = "kind"
    · subst hk
      cases k with
      | some k => cases h
      | none =>
        cases x with
        | string s => exact .inr (.inl ⟨s, rfl, rfl, rfl⟩)
        | _ => cases h
    · exact .inr (.inr ⟨hv, hk⟩)

/-- A type that is taken is the texts at both of its keys, and the other members are left. -/
theorem takeType_of_some {d : List (String × Json)} (h : (takeType v k d).1 = some t) :
    v.or ((Dict.get? d "apiVersion").bind Json.asString?) = some t.apiVersion ∧
      k.or ((Dict.get? d "kind").bind Json.asString?) = some t.kind ∧
      (takeType v k d).2 = d.filter fun e => e.1 ≠ "apiVersion" && e.1 ≠ "kind" := by
  induction d generalizing v k with
  | nil =>
    cases v <;> cases k <;> cases h
    exact ⟨rfl, rfl, rfl⟩
  | cons e rest ih =>
    obtain ⟨key, x⟩ := e
    rcases takeType_cons_cases h with ⟨s, rfl, rfl, rfl⟩ | ⟨s, rfl, rfl, rfl⟩ | ⟨hv', hk'⟩
    · rw [takeType_apiVersion] at h ⊢
      obtain ⟨hv, hk, hd⟩ := ih h
      refine ⟨?_, ?_, ?_⟩
      · simpa [Dict.get?_cons, Json.asString?] using hv
      · simpa [Dict.get?_cons] using hk
      · simpa using hd
    · rw [takeType_kind] at h ⊢
      obtain ⟨hv, hk, hd⟩ := ih h
      refine ⟨?_, ?_, ?_⟩
      · simpa [Dict.get?_cons] using hv
      · simpa [Dict.get?_cons, Json.asString?] using hk
      · simpa using hd
    · rw [takeType_data hv' hk'] at h ⊢
      obtain ⟨hv, hk, hd⟩ := ih h
      refine ⟨?_, ?_, ?_⟩
      · simpa [Dict.get?_cons, hv'] using hv
      · simpa [Dict.get?_cons, hk'] using hk
      · rw [List.filter_cons_of_pos (by simp [hv', hk']), ← hd]

/-- Where each of the two keys has a text, one that was not taken before, the type is taken. -/
theorem exists_takeType {d : List (String × Json)} (hn : (d.map (·.1)).Nodup)
    (hv : (v = none ∧ ∃ s, Dict.get? d "apiVersion" = some (.string s)) ∨
      (v.isSome ∧ Dict.get? d "apiVersion" = none))
    (hk : (k = none ∧ ∃ s, Dict.get? d "kind" = some (.string s)) ∨
      (k.isSome ∧ Dict.get? d "kind" = none)) :
    ∃ t, (takeType v k d).1 = some t := by
  induction d generalizing v k with
  | nil =>
    cases v <;> cases k <;> simp [Dict.get?] at hv hk
    exact ⟨_, rfl⟩
  | cons e rest ih =>
    obtain ⟨key, x⟩ := e
    simp only [List.map_cons, List.nodup_cons] at hn
    have hnone := Dict.get?_eq_none_of_not_mem hn.1
    rw [Dict.get?_cons] at hv hk
    by_cases hv' : key = "apiVersion"
    · subst hv'
      simp at hv
      obtain ⟨rfl, s, rfl⟩ := hv
      rw [takeType_apiVersion]
      exact ih hn.2 (.inr ⟨rfl, hnone⟩) hk
    · rw [if_neg hv'] at hv
      by_cases hk' : key = "kind"
      · subst hk'
        simp at hk
        obtain ⟨rfl, s, rfl⟩ := hk
        rw [takeType_kind]
        exact ih hn.2 hv (.inr ⟨rfl, hnone⟩)
      · rw [if_neg hk'] at hk
        rw [takeType_data hv' hk']
        exact ih hn.2 hv hk

end TakeType

theorem asString_bind_eq_some {v : Option Json} {s : String} :
    v.bind Json.asString? = some s ↔ v = some (.string s) := by
  cases v with
  | none => simp
  | some j => cases j <;> simp [Json.asString?]

variable {m : Dict Json} {t : TypeName}

theorem type_object (hm : m.Sorted) : (Json.object m).type? = some t ↔
    m.get? "apiVersion" = some (.string t.apiVersion) ∧
      m.get? "kind" = some (.string t.kind) := by
  show (takeType none none m).1 = some t ↔ _
  constructor
  · intro h
    obtain ⟨hv, hk, -⟩ := takeType_of_some h
    exact ⟨asString_bind_eq_some.1 hv, asString_bind_eq_some.1 hk⟩
  · rintro ⟨hv, hk⟩
    obtain ⟨t', ht'⟩ := exists_takeType hm.nodup_keys (.inl ⟨rfl, _, hv⟩) (.inl ⟨rfl, _, hk⟩)
    obtain ⟨hv', hk', -⟩ := takeType_of_some ht'
    rw [hv] at hv'
    rw [hk] at hk'
    rw [ht']
    cases t
    cases t'
    cases hv'
    cases hk'
    rfl

theorem read_object (hm : (Json.object m).Canonical) {j : Json}
    (hj : m.get? "metadata" = some j) (ht : (Json.object m).type? = some t) {b : GenericObject} :
    codec.read (.object m) = .ok b ↔
      ∃ x, Metadata.codec.decode .direct (ofJson j) = .ok x ∧
        b = ⟨some t, x, m.filter fun e => isData e.1⟩ := by
  obtain ⟨hs, hc⟩ := Json.canonical_object.1 hm
  -- The other members, which are in order and all have a value.
  have hothers : (ofMembers m).filter (fun e => e.1 ≠ "metadata") =
      ofMembers (m.filter fun e => e.1 ≠ "metadata") :=
    Document.filter_ofMembers (fun k => k ≠ "metadata") m
  have hsorted : Dict.Sorted (m.filter fun e => e.1 ≠ "metadata") := hs.erase "metadata"
  have hcanonical : Json.CanonicalMembers (m.filter fun e => e.1 ≠ "metadata") :=
    Json.canonicalMembers_iff.2 fun e he => hc e (List.mem_filter.1 he).1
  have hvalues := Document.memberValues_ofMembers hcanonical
  have htype : (takeType none none (m.filter fun e => e.1 ≠ "metadata")).1 = some t := by
    refine (type_object hsorted).2 ?_
    have hget := fun k => Dict.get?_filter_key (fun k => k ≠ "metadata") m k
    rw [hget, hget]
    exact (type_object hs).1 ht
  have htake : takeType none none (m.filter fun e => e.1 ≠ "metadata") =
      (some t, m.filter fun e => isData e.1) := by
    refine Prod.ext htype ((takeType_of_some htype).2.2.trans ?_)
    rw [List.filter_filter]
    rfl
  have hdata : Dict.ofList (m.filter fun e => isData e.1) = m.filter fun e => isData e.1 :=
    Dict.Sorted.ofList_eq (List.Pairwise.filter _ hs)
  simp only [Codec.read, codec, ofJson, Document.named_ofMembers hs, hj, Option.map_some,
    Option.toList_some, hothers, hvalues]
  constructor
  · intro h
    obtain ⟨x, hx, h⟩ := Except.bind_eq_ok.1 h
    refine ⟨x, hx, ?_⟩
    simp only [Except.mapError_ok, bind, Except.bind, htake, hdata, pure, Except.pure] at h
    exact (Except.ok.inj h).symm
  · rintro ⟨x, hx, rfl⟩
    refine Except.bind_eq_ok.2 ⟨x, hx, ?_⟩
    simp only [Except.mapError_ok, bind, Except.bind, htake, hdata, pure, Except.pure]

/-- The other members are in key order at every depth and say neither type nor metadata, and the
metadata is valid. -/
structure Valid (b : GenericObject) : Prop where
  metadata : b.metadata.Valid
  canonical : (Json.object b.data).Canonical
  isData : ∀ e ∈ b.data, isData e.1 = true

/-- The members of an object of a known type read as the parts of `b`. -/
structure ReadFrom (m : Dict Json) (t : TypeName) (b : GenericObject) : Prop where
  canonical : (Json.object m).Canonical
  type : (Json.object m).type? = some t
  metadata : ∃ mm, m.get? "metadata" = some (.object mm) ∧ Dict.Sorted mm ∧
    Metadata.ReadFrom .direct mm b.metadata
  parts : b = ⟨some t, b.metadata, m.filter fun e => GenericObject.isData e.1⟩

/-- What is read of an object that is found somewhere, under a known type. -/
theorem readFrom_of_read (hm : (Json.object m).Canonical) {ns : String}
    (hns : (Json.object m).place.ns = some ns) (ht : (Json.object m).type? = some t)
    {b : GenericObject} (h : codec.read (.object m) = .ok b) : ReadFrom m t b := by
  cases hj : m.get? "metadata" with
  | none => simp [Json.place, Json.metadataText?, Json.get?, hj] at hns
  | some j =>
    obtain ⟨x, hx, rfl⟩ := (read_object hm hj ht).1 h
    obtain ⟨mm, rfl⟩ := Metadata.exists_object_of_decode hx
    have hmms := (Json.canonical_object.1 (Json.Canonical.get? hm hj)).1
    exact ⟨hm, ht, ⟨mm, hj, hmms, (Metadata.decode_object hmms).1 hx⟩, rfl⟩

namespace ReadFrom

variable {b : GenericObject}

theorem sorted (h : ReadFrom m t b) : m.Sorted := (Json.canonical_object.1 h.canonical).1

theorem read (h : ReadFrom m t b) : codec.read (.object m) = .ok b := by
  obtain ⟨mm, hj, hmms, hmetadata⟩ := h.metadata
  exact (read_object h.canonical hj h.type).2
    ⟨_, (Metadata.decode_object hmms).2 hmetadata, h.parts⟩

theorem type_eq (h : ReadFrom m t b) : b.type = some t := congrArg GenericObject.type h.parts

theorem place (h : ReadFrom m t b) :
    (Json.object m).place = ⟨b.metadata.ns, b.metadata.anyName⟩ := by
  obtain ⟨mm, hj, -, hmetadata⟩ := h.metadata
  exact Json.place_object hj hmetadata

theorem resourceVersion (h : ReadFrom m t b) :
    (Json.object m).resourceVersion? = b.metadata.resourceVersion := by
  obtain ⟨mm, hj, -, hmetadata⟩ := h.metadata
  exact Json.resourceVersion?_object hj hmetadata

theorem get?_data (h : ReadFrom m t b) (k : String) :
    b.data.get? k = if GenericObject.isData k = true then m.get? k else none := by
  rw [h.parts]
  exact Dict.get?_filter_key GenericObject.isData m k

theorem sorted_data (h : ReadFrom m t b) : Dict.Sorted b.data := by
  rw [h.parts]
  exact List.Pairwise.filter _ h.sorted

theorem valid (h : ReadFrom m t b) : b.Valid := by
  obtain ⟨mm, -, hmms, hmetadata⟩ := h.metadata
  refine ⟨Metadata.codec_yields _ _ _ ((Metadata.decode_object hmms).2 hmetadata), ?_, ?_⟩
  · refine Json.canonical_object.2 ⟨h.sorted_data, fun e he => ?_⟩
    rw [h.parts] at he
    exact (Json.canonical_object.1 h.canonical).2 e (List.mem_filter.1 he).1
  · intro e he
    rw [h.parts] at he
    exact (List.mem_filter.1 he).2

/-- Members of the same type are read with other metadata and other data. -/
theorem of_members (h : ReadFrom m t b) {n : Dict Json} (hn : (Json.object n).Canonical)
    (htype : ∀ k, k = "apiVersion" ∨ k = "kind" → n.get? k = m.get? k) {x : Metadata}
    (hmetadata : ∃ mm, n.get? "metadata" = some (.object mm) ∧ Dict.Sorted mm ∧
      Metadata.ReadFrom .direct mm x)
    {d : Dict Json} (hd : d.Sorted)
    (hget : ∀ k, d.get? k = if GenericObject.isData k = true then n.get? k else none) :
    ReadFrom n t ⟨some t, x, d⟩ := by
  have hsorted := (Json.canonical_object.1 hn).1
  refine ⟨hn, ?_, hmetadata, ?_⟩
  · rw [type_object hsorted, htype _ (.inl rfl), htype _ (.inr rfl)]
    exact (type_object h.sorted).1 h.type
  · refine congrArg (GenericObject.mk (some t) x) (hd.ext (List.Pairwise.filter _ hsorted) ?_)
    intro k
    rw [hget, Dict.get?_filter_key GenericObject.isData]

/-- Another member is read as it is, and the rest as before. -/
theorem withMember (h : ReadFrom m t b) {key : String} (hkey : GenericObject.isData key = true)
    {x : Json} (hx : x.Canonical) :
    ReadFrom (m.insert key x) t { b with data := b.data.insert key x } := by
  have hne := hkey
  simp only [GenericObject.isData, Bool.and_eq_true, decide_eq_true_eq] at hne
  have hnew := h.of_members (n := m.insert key x) (h.canonical.withMember key hx)
    (x := b.metadata) (d := b.data.insert key x) ?_ ?_ (h.sorted_data.insert _ _) ?_
  · rw [h.type_eq]
    exact hnew
  · rintro k (rfl | rfl)
    · exact Dict.get?_insert_of_ne hne.1.1 ..
    · exact Dict.get?_insert_of_ne hne.1.2 ..
  · obtain ⟨mm, hj, hmm⟩ := h.metadata
    exact ⟨mm, (Dict.get?_insert_of_ne hne.2 ..).trans hj, hmm⟩
  · intro k
    rw [Dict.get?_insert, h.get?_data]
    by_cases hk : key = k
    · subst hk
      simp [hkey, Dict.get?_insert]
    · simp [hk, Dict.get?_insert]

/-- Under another version an object is read with that version, and the rest as before. -/
theorem withResourceVersion (h : ReadFrom m t b) (version : String) :
    ∃ m', (Json.object m).withResourceVersion version = .object m' ∧
      ReadFrom m' t { b with metadata := b.metadata.withVersion version } := by
  obtain ⟨mm, hj, hmms, hmetadata⟩ := h.metadata
  have hcanonical := h.canonical.withResourceVersion version
  rw [Json.withResourceVersion_object hj] at hcanonical ⊢
  have hnew := h.of_members hcanonical (x := b.metadata.withVersion version) (d := b.data)
    ?_ ?_ h.sorted_data ?_
  · refine ⟨_, rfl, ?_⟩
    rw [h.type_eq]
    exact hnew
  · rintro k (rfl | rfl) <;> exact Dict.get?_insert_of_ne (by decide) ..
  · exact ⟨_, Dict.get?_insert_self .., hmms.insert _ _, hmetadata.withVersion version⟩
  · intro k
    rw [h.get?_data, Dict.get?_insert]
    by_cases hk : "metadata" = k
    · subst hk
      simp [GenericObject.isData]
    · simp [hk]

end ReadFrom

/-- The members that are written of an object of a known type. -/
def members (t : TypeName) (metadata : Json) (data : Dict Json) : List (String × Json) :=
  [("apiVersion", .string t.apiVersion), ("kind", .string t.kind)] ++ [("metadata", metadata)] ++
    data

theorem nodup_members {data : Dict Json} (hs : data.Sorted)
    (hd : ∀ e ∈ data, isData e.1 = true) (t : TypeName) (metadata : Json) :
    ((members t metadata data).map (·.1)).Nodup := by
  have hdata := hs.nodup_keys
  simp only [isData, Bool.and_eq_true, decide_eq_true_eq] at hd
  have hkey : ∀ k ∈ data.map (·.1), k ≠ "apiVersion" ∧ k ≠ "kind" ∧ k ≠ "metadata" := by
    intro k hk
    obtain ⟨e, he, rfl⟩ := List.mem_map.1 hk
    exact ⟨(hd e he).1.1, (hd e he).1.2, (hd e he).2⟩
  simp only [members, List.cons_append, List.nil_append, List.map_cons, List.nodup_cons,
    List.mem_cons, String.reduceEq, false_or]
  exact ⟨fun h => (hkey _ h).1 rfl, fun h => (hkey _ h).2.1 rfl, fun h => (hkey _ h).2.2 rfl,
    hdata⟩

/-- The members that are written, in key order and with other metadata. -/
theorem get?_members {data : Dict Json} (hs : data.Sorted)
    (hd : ∀ e ∈ data, isData e.1 = true) (t : TypeName) (old new : Json) (k : String) :
    ((Dict.ofList (members t old data)).insert "metadata" new).get? k =
      Dict.get? (members t new data) k := by
  rw [Dict.get?_insert, Dict.get?_ofList (nodup_members hs hd t old)]
  simp only [members, List.cons_append, List.nil_append, Dict.get?_cons]
  by_cases hm : "metadata" = k
  · subst hm
    simp only [String.reduceEq, if_true, if_false]
  · simp only [hm, if_false]

theorem canonical_members {data : Dict Json} (hd : (Json.object data).Canonical) {j : Json}
    (hj : j.Canonical) (t : TypeName) :
    (Json.object (Dict.ofList (members t j data))).Canonical := by
  refine Json.canonical_object.2 ⟨Dict.sorted_ofList _, ?_⟩
  intro e he
  have he := Dict.mem_ofList he
  simp only [members, List.cons_append, List.nil_append, List.mem_cons] at he
  rcases he with rfl | rfl | rfl | he
  · simp [Json.Canonical]
  · simp [Json.Canonical]
  · exact hj
  · exact (Json.canonical_object.1 hd).2 e he

/-- The data are the members that say neither type nor metadata. -/
theorem get?_members_of_isData {data : Dict Json} (hd : ∀ e ∈ data, isData e.1 = true)
    (t : TypeName) (j : Json) (k : String) :
    (if isData k = true then Dict.get? (members t j data) k else none) = data.get? k := by
  by_cases hk : isData k = true
  · have hne := hk
    simp only [isData, Bool.and_eq_true, decide_eq_true_eq] at hne
    simp [members, Dict.get?_cons, hk, Ne.symm hne.1.1, Ne.symm hne.1.2, Ne.symm hne.2]
  · rw [if_neg hk]
    refine (Dict.get?_eq_none_of_forall_ne fun e he heq => hk ?_).symm
    rw [← heq]
    exact hd e he

/-- An object that is stored under a new version is found in its place, and is read as it was but
for the version and the precision of its times. -/
theorem exists_stored {b : GenericObject} (ht : b.type = some t) (hb : b.Valid)
    (version : String) :
    ∃ m, (codec.encode b).withResourceVersion version = .object m ∧ (Json.object m).Canonical ∧
      (Json.object m).type? = some t ∧
      (Json.object m).place = ⟨b.metadata.ns, b.metadata.anyName⟩ ∧
      codec.read (.object m) = .ok
        ⟨some t, b.metadata.wholeSeconds.withVersion version, b.data⟩ := by
  obtain ⟨mm, hencode, hmms, hread⟩ := Metadata.exists_encode hb.metadata
  have hplain := Metadata.codec_writes b.metadata hb.metadata
  have hdata := (Json.canonical_object.1 hb.canonical).1
  rw [hencode] at hplain
  have hget := get?_members hdata hb.isData t (.object mm)
    (.object (Dict.insert mm "resourceVersion" (.string version)))
  have hmetadata : (Dict.ofList (members t (.object mm) b.data)).get? "metadata" =
      some (.object mm) := by
    rw [Dict.get?_ofList (nodup_members hdata hb.isData t _)]
    simp [members, Dict.get?_cons]
  have hwritten : codec.encode b = .object (Dict.ofList (members t (.object mm) b.data)) := by
    simp only [codec, ht, hencode]
    rfl
  have hstored := Json.withResourceVersion_object hmetadata version
  have hold : (codec.encode b).Canonical :=
    hwritten ▸ canonical_members hb.canonical hplain.canonical t
  have hnew := hold.withResourceVersion version
  rw [hwritten, hstored] at hnew ⊢
  have hsorted := (Json.canonical_object.1 hnew).1
  have htype := (type_object hsorted (t := t)).2
    ⟨by rw [hget]; simp [members, Dict.get?_cons], by rw [hget]; simp [members, Dict.get?_cons]⟩
  have hmm := (hget "metadata").trans (by simp [members, Dict.get?_cons]; rfl)
  have hversion := hread.withVersion version
  have hplace := Json.place_object hmm hversion
  refine ⟨_, rfl, hnew, htype, hplace, (read_object hnew hmm htype).2
    ⟨_, (Metadata.decode_object (hmms.insert _ _)).2 hversion, ?_⟩⟩
  refine congrArg (GenericObject.mk (some t) _) (hdata.ext (List.Pairwise.filter _ hsorted) ?_)
  intro k
  rw [Dict.get?_filter_key GenericObject.isData, hget]
  exact (get?_members_of_isData hb.isData t _ k).symm

end ControlPlane.GenericObject
