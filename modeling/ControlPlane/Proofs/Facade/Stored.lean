import ControlPlane.Proofs.Controller.Gate
import ControlPlane.Proofs.Controller.System
import ControlPlane.Proofs.Facade.Backend
import ControlPlane.Proofs.Object

/-!
# Facades and backends in a cluster

`Facade.Stored` says that a facade is what is read of the JSON in its place. A status that is
written there is the status of the facade that is stored afterwards, and a backend that is created
or replaced is found where its facade looks for it.
-/

namespace ControlPlane

theorem FacadeKind.ofKind?_kind (k : FacadeKind) : ofKind? k.kind = some k := by
  cases k <;> decide

theorem FacadeKind.exists_encode_status (k : FacadeKind) (t : Status k.Details) :
    ∃ d, k.statusCodec.encode t = .object d := by
  obtain ⟨_, _, h⟩ := k.statusCodec_eq
  rw [h]
  exact ⟨_, rfl⟩

/-- The default status is an empty one. -/
theorem FacadeKind.valid_default (k : FacadeKind) : k.ValidStatus default := by
  have hconditions : ∀ c ∈ (default : Status k.Details).conditions, c.Valid :=
    fun c hc => (List.not_mem_nil hc).elim
  cases k with
  | inventory => exact ⟨hconditions, fun s hs => (List.not_mem_nil hs).elim⟩
  | connection => exact ⟨hconditions, trivial⟩
  | dbInstance => exact ⟨hconditions, Dict.Sorted.nil⟩

namespace Facade

variable {k : FacadeKind} {f : Facade k} {m : Dict Json}

/-- Where the facade is found in a cluster. -/
def target (f : Facade k) : Target where
  collection := .facades k
  place := f.metadata.ref

/-- The members `m` are stored in the place of the facade, and are read as the facade. Their status
is absent or an object. -/
structure Stored (f : Facade k) (s : Cluster) (m : Dict Json) : Prop where
  find : s.find? f.target = some (.object m)
  canonical : (Json.object m).Canonical
  status : ∀ j, m.get? "status" = some j → ∃ d, j = .object d
  read : (codec k).read (.object m) = .ok f

/-- What is written of the spec of a facade that was read is plain JSON. -/
theorem plain_specJson_of_read (hm : m.Sorted) (h : (codec k).read (.object m) = .ok f) :
    f.specJson.Plain := by
  have hread := ((Observed.read_object hm).1 h).spec
  cases hj : m.get? "spec" with
  | none =>
    rw [hj] at hread
    cases hread
  | some j =>
    rw [hj] at hread
    exact k.plain_specCodec_encode hread

namespace Stored

variable {s : Cluster}

theorem sorted (h : f.Stored s m) : m.Sorted := (Json.canonical_object.1 h.canonical).1

/-- The status of the facade is what is read of the stored one. -/
theorem status_cases (h : f.Stored s m) :
    (m.get? "status" = none ∧ f.status = none) ∨
      ∃ d t, m.get? "status" = some (.object d) ∧ k.statusCodec.read (.object d) = .ok t ∧
        f.status = some t := by
  have hread := ((Observed.read_object h.sorted).1 h.read).status
  cases hj : m.get? "status" with
  | none =>
    rw [hj] at hread
    exact .inl ⟨rfl, (Option.some.inj hread).symm⟩
  | some j =>
    obtain ⟨d, rfl⟩ := h.status j hj
    rw [hj] at hread
    obtain ⟨t, ht, hstatus⟩ := (Codec.option_decode_ofJson (by simp)).1 hread
    exact .inr ⟨d, t, rfl, ht, hstatus.symm⟩

theorem validStatus (h : f.Stored s m) : k.ValidStatus f.currentStatus := by
  unfold currentStatus
  cases hstatus : f.status with
  | none => exact k.valid_default
  | some t => exact Observed.of_status h.sorted h.read k.statusCodec_yields hstatus

theorem plain_specJson (h : f.Stored s m) : f.specJson.Plain :=
  plain_specJson_of_read h.sorted h.read

theorem of_objects_eq {s' : Cluster} (h : f.Stored s m)
    (hs : s'.objects (.facades k) = s.objects (.facades k)) : f.Stored s' m where
  find := (Cluster.find?_of_objects_eq (t := f.target) hs).trans h.find
  canonical := h.canonical
  status := h.status
  read := h.read

/-- The patched status is an object that is read as the status that was meant. -/
theorem exists_patched (h : f.Stored s m) {t : Status k.Details} (ht : k.ValidStatus t) :
    ∃ d, (f.statusPatch t).applyPatch ((m.get? "status").getD .null) = .object d ∧
      (Json.object d).Canonical ∧ k.statusCodec.read (.object d) = .ok t := by
  have hplain := k.statusCodec_writes t ht
  obtain ⟨e, he⟩ := k.exists_encode_status t
  rcases h.status_cases with ⟨hj, hstatus⟩ | ⟨d, t₀, hj, ht₀, hstatus⟩
  · have hread := k.statusCodec_merges_null ht
    simp only [statusPatch, hj, hstatus, Option.map_none, Option.getD_none]
    rw [he, Json.mergePatch_of_not_object (.inl (by simp)), Json.applyPatch_object] at hread ⊢
    rw [he] at hplain
    have hcanonical := hplain.canonical.applyPatch (t := .null) (by simp [Json.Canonical])
    rw [Json.applyPatch_object] at hcanonical
    exact ⟨_, rfl, hcanonical, hread⟩
  · have hread := k.statusCodec_merges (Json.Canonical.get? h.canonical hj) ht₀ ht
    have hplain₀ := k.statusCodec_writes t₀ (k.statusCodec_yields _ _ _ ht₀)
    obtain ⟨e₀, he₀⟩ := k.exists_encode_status t₀
    simp only [statusPatch, hj, hstatus, Option.map_some, Option.getD_some]
    have hcanonical := (hplain₀.canonical.mergePatch hplain.canonical).applyPatch
      (Json.Canonical.get? h.canonical hj)
    rw [he, he₀, Json.mergePatch_object, Json.applyPatch_object] at hread hcanonical ⊢
    exact ⟨_, rfl, hcanonical, hread⟩

/-- The call that writes a status is an update of the object in the facade's place. -/
theorem answer_statusCall (s : Cluster) {ns : String} (hns : f.metadata.ns = some ns)
    (t : Status k.Details) :
    s.answer (f.statusCall t) = Cluster.written (s.update f.target f.metadata.resourceVersion
      (Cluster.mergeStatus (f.statusPatch t))) := by
  have hkind : FacadeKind.ofKind? k.resource.kind = some k := k.ofKind?_kind
  simp only [Cluster.answer, statusCall, hkind, hns, Option.getD_some, target, Metadata.ref,
    Cluster.facade]

/-- Where the facade is stored as it is, its status can be written, and nothing else is. -/
theorem write_succeeds {s : System} (h : f.Stored s.cluster m) {ns : String}
    (hns : f.metadata.ns = some ns) (t : Status k.Details) :
    ∃ d, System.answer (.api (f.statusCall t)) s =
      (.ok (), { s with
        cluster := s.cluster.replaced f.target
          (((Json.object m).withMember "status" d).withResourceVersion s.cluster.nextVersion) }) := by
  have hversion := (Observed.resourceVersion_of_read h.canonical h.read).symm
  refine ⟨(f.statusPatch t).applyPatch (((Json.object m).get? "status").getD .null), ?_⟩
  simp only [System.answer, answer_statusCall s.cluster hns,
    Cluster.update_of_find? h.find hversion]
  rfl

/-- A status that is written is the status of the facade that is stored afterwards, and nothing but
the facade has changed. -/
theorem write {s s' : System} (h : f.Stored s.cluster m) {ns : String}
    (hns : f.metadata.ns = some ns) {t : Status k.Details} (ht : k.ValidStatus t)
    (hw : System.answer (.api (f.statusCall t)) s = (.ok (), s')) :
    ∃ v m', (f.updated (some v) (some t)).Stored s'.cluster m' ∧ System.Agrees k s s' ∧
      s'.memory = s.memory ∧ s'.cluster.objects .backends = s.cluster.objects .backends := by
  obtain ⟨d, hpatched, hcanonical, hread⟩ := h.exists_patched ht
  obtain ⟨hreply, rfl⟩ := Prod.mk.inj hw
  rw [answer_statusCall s.cluster hns] at hreply ⊢
  rcases hupdate : s.cluster.update f.target f.metadata.resourceVersion
    (Cluster.mergeStatus (f.statusPatch t)) with ⟨result, c⟩
  rw [hupdate] at hreply
  obtain ⟨j, rfl, -⟩ := Except.map_eq_ok.1 hreply
  obtain ⟨old, hold, -, rfl, rfl⟩ := Cluster.update_eq_ok hupdate
  obtain rfl := Option.some.inj (h.find.symm.trans hold)
  have hmerged : Cluster.mergeStatus (f.statusPatch t) (.object m) =
      .object (Dict.insert m "status" (.object d)) := by
    rw [Cluster.mergeStatus, Json.withMember_object]
    exact congrArg (fun j => Json.object (Dict.insert m "status" j)) hpatched
  have hcanonical' : (Json.object (Dict.insert m "status" (.object d))).Canonical :=
    h.canonical.withMember "status" hcanonical
  have hread' := Observed.read_withResourceVersion hcanonical'
    (Observed.read_withStatus h.sorted h.read (by simp) hread) s.cluster.nextVersion
  have hstored := hcanonical'.withResourceVersion s.cluster.nextVersion
  refine ⟨s.cluster.nextVersion, _, ⟨?_, hstored, ?_, hread'⟩, ⟨rfl, rfl, fun c _ hc => ?_⟩, rfl,
    ?_⟩
  · rw [hmerged]
    refine Cluster.find?_replaced h.find ?_
    have hplace := Observed.place_of_read hstored hread'
    exact (Bool.and_true _).trans (decide_eq_true hplace)
  · intro j hj
    rw [Dict.get?_insert_of_ne (by decide), Json.asObject?, Option.getD_some,
      Dict.get?_insert_self] at hj
    exact ⟨d, (Option.some.inj hj).symm⟩
  · exact Cluster.objects_replaced_of_ne hc
  · exact Cluster.objects_replaced_of_ne (t := f.target) (by simp [target])

end Stored

end Facade

/-- The backends are stored in key order, and those in the place of the facade report no condition
twice. -/
structure Facade.Admissible {k : FacadeKind} (f : Facade k) (s : Cluster) : Prop where
  canonical : ∀ j ∈ s.objects .backends, j.Canonical
  distinct : ∀ j ∈ s.objects .backends, ∀ b : Backend, GenericObject.codec.read j = .ok b →
    b.metadata.ref = f.metadata.ref → b.ReportsDistinct k

namespace Cluster

variable {s s' : Cluster} {resource : ApiResource} {ns : String} {b b' : Backend}

theorem get_of_objects_eq {α : Type} {t : Target}
    (h : s'.objects t.collection = s.objects t.collection) (c : Codec α) :
    s'.get t c = s.get t c := by
  simp only [get, find?_of_objects_eq h]

/-- A backend under a new version fits its target and is read as it was, but for its version and
the precision of its times. -/
theorem backend_fits (ht : b.type = some ⟨resource.apiVersion, resource.kind⟩)
    (hns : b.metadata.ns = some ns) (hb : b.Valid) {version : String} {j : Json}
    (hj : j = (GenericObject.codec.encode b).withResourceVersion version) :
    (backend resource ns b.metadata.anyName).fits j = true ∧
      (readAs GenericObject.codec j = .ok b' → b'.data = b.data ∧
        b'.metadata.controllerOwner? = b.metadata.controllerOwner?) := by
  obtain ⟨m, hstored, -, htype, hplace, hread⟩ := GenericObject.exists_stored ht hb version
  rw [hj, hstored]
  refine ⟨?_, fun h => ?_⟩
  · simp only [Target.fits, backend, htype, hplace, hns, decide_true, Option.isNone_some,
      Bool.false_or, Bool.and_self]
  · rw [readAs, hread] at h
    obtain rfl := Except.ok.inj h
    exact ⟨rfl, rfl⟩

/-- After a write of `b` the backend `b'` is found in its place, with the members and the controller
of `b`, and nothing but backends has changed. -/
structure Puts (s : Cluster) (resource : ApiResource) (ns : String) (b b' : Backend)
    (s' : Cluster) : Prop where
  found : s'.get (backend resource ns b.metadata.anyName) GenericObject.codec = .ok (some b')
  data : b'.data = b.data
  owner : b'.metadata.controllerOwner? = b.metadata.controllerOwner?
  others : ∀ c, c ≠ .backends → s'.objects c = s.objects c
  served : s'.served = s.served

theorem puts_created (ht : b.type = some ⟨resource.apiVersion, resource.kind⟩)
    (hns : b.metadata.ns = some ns) (hb : b.Valid)
    (h : s.answer (.createBackend resource ns b) = (.ok b', s')) :
    s.Puts resource ns b b' s' := by
  obtain ⟨hreply, rfl⟩ := Prod.mk.inj h
  rcases hcreate : s.create (backend resource ns b.metadata.anyName)
    (GenericObject.codec.encode b) with ⟨result, s₁⟩
  simp only [hcreate] at hreply ⊢
  obtain ⟨j, rfl, hread⟩ := Except.bind_eq_ok.1 hreply
  obtain ⟨hfind, hj, rfl⟩ := create_eq_ok hcreate
  obtain ⟨hfits, hsame⟩ := backend_fits ht hns hb hj
  obtain ⟨hdata, howner⟩ := hsame hread
  refine ⟨?_, hdata, howner, fun c hc => objects_created_of_ne hc, rfl⟩
  simp only [get, find?_created hfind hfits, hread, Except.map]

theorem puts_replaced (ht : b.type = some ⟨resource.apiVersion, resource.kind⟩)
    (hns : b.metadata.ns = some ns) (hb : b.Valid)
    (h : s.answer (.replaceBackend resource ns b) = (.ok b', s')) :
    s.Puts resource ns b b' s' := by
  obtain ⟨hreply, rfl⟩ := Prod.mk.inj h
  rcases hupdate : s.update (backend resource ns b.metadata.anyName) b.metadata.resourceVersion
    (fun _ => GenericObject.codec.encode b) with ⟨result, s₁⟩
  simp only [hupdate] at hreply ⊢
  obtain ⟨j, rfl, hread⟩ := Except.bind_eq_ok.1 hreply
  obtain ⟨old, hfind, -, hj, rfl⟩ := update_eq_ok hupdate
  obtain ⟨hfits, hsame⟩ := backend_fits ht hns hb hj
  obtain ⟨hdata, howner⟩ := hsame hread
  refine ⟨?_, hdata, howner, fun c hc => objects_replaced_of_ne hc, rfl⟩
  simp only [get, find?_replaced hfind hfits, hread, Except.map]

/-- A backend that is found is read from its members, under the type of its target. -/
theorem readFrom_of_find? {name : String} {j : Json} (hs : ∀ j ∈ s.objects .backends, j.Canonical)
    (hfind : s.find? (backend resource ns name) = some j)
    (hread : GenericObject.codec.read j = .ok b) :
    ∃ m, j = .object m ∧ (Json.object m).place = ⟨some ns, name⟩ ∧
      GenericObject.ReadFrom m ⟨resource.apiVersion, resource.kind⟩ b := by
  have hmem : j ∈ s.objects .backends := List.mem_of_find?_eq_some hfind
  have hfits : (backend resource ns name).fits j = true := List.find?_some hfind
  obtain ⟨hplace, htype⟩ := Bool.and_eq_true_iff.1 hfits
  have hplace : j.place = ⟨some ns, name⟩ := of_decide_eq_true hplace
  have htype : j.type? = some ⟨resource.apiVersion, resource.kind⟩ := of_decide_eq_true htype
  have hns : j.place.ns = some ns := by rw [hplace]
  obtain ⟨m, rfl⟩ : ∃ m, j = .object m := by
    cases j with
    | object m => exact ⟨m, rfl⟩
    | _ => cases hns
  exact ⟨m, rfl, hplace, GenericObject.readFrom_of_read (hs _ hmem) hns htype hread⟩

/-- A backend that is found has the type and the place at which it was looked for. -/
theorem of_get {name : String} (hs : ∀ j ∈ s.objects .backends, j.Canonical)
    (h : s.get (backend resource ns name) GenericObject.codec = .ok (some b)) :
    ∃ j ∈ s.objects .backends, GenericObject.codec.read j = .ok b ∧
      b.type = some ⟨resource.apiVersion, resource.kind⟩ ∧ b.metadata.ref = ⟨some ns, name⟩ ∧
      b.Valid := by
  obtain ⟨j, hfind, hread⟩ := get_eq_some.1 h
  obtain ⟨m, rfl, hplace, hparts⟩ := readFrom_of_find? hs hfind hread
  exact ⟨_, List.mem_of_find?_eq_some hfind, hread, hparts.type_eq,
    hparts.place.symm.trans hplace, hparts.valid⟩

end Cluster

end ControlPlane
