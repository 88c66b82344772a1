import ControlPlane.Proofs.Cluster.Versions
import ControlPlane.Proofs.Controller.KnownKinds

/-!
# What a run brings about

A run of a facade that comes to its end past the gate leaves a backend of the kind that the provider
registers, with the spec of the facade and under its control, and the status of the facade that
follows from it. It writes at most twice: the backend, which is made where there was none and
otherwise gets another spec and nothing else, and after it the status of the facade.
-/

namespace ControlPlane

open Controller
open Cluster (backend)

/-! ## Writes -/

/-- The step changes something at the API server. -/
def Step.isWrite : Step → Bool
  | .api (.createBackend _ _ _) | .api (.replaceBackend _ _ _)
  | .api (.patchFacadeStatus _ _ _ _ _) | .api (.patchPolicyStatus _ _ _ _)
  | .api (.createRole _ _) | .api (.patchRules _ _ _ _) | .api (.createBinding _ _)
  | .api (.patchSubjects _ _ _ _) | .api (.deleteBinding _ _) => true
  | _ => false

theorem Step.KeepsCluster.isWrite {c : Step} (h : c.KeepsCluster) : c.isWrite = false := by
  unfold Step.isWrite
  split <;> first
    | exact h.elim
    | rfl

/-- The writes among events, in their order. -/
def Event.writes (t : List Event) : List Event := t.filter fun e => e.1.isWrite

namespace Event

@[simp] theorem writes_append (t t' : List Event) : writes (t ++ t') = writes t ++ writes t' :=
  List.filter_append ..

theorem writes_eq_nil {t : List Event} (h : ∀ e ∈ t, Step.KeepsCluster e.1) : writes t = [] :=
  List.filter_eq_nil_iff.2 fun e he => by simp [(h e he).isWrite]

end Event

open Event (writes)

theorem Controller.Only.writes_eq_nil {α σ : Type} {answer : (c : Step) → σ → c.Reply × σ}
    {P : Step → Prop} {x : Controller α} (hx : Only P x) (hP : ∀ c, P c → c.KeepsCluster)
    {s s' : σ} {t : List Event} {r : Except Error α} (h : Runs answer x s t r s') :
    writes t = [] :=
  Event.writes_eq_nil fun e he => hP _ (hx.forall_events h e he)

/-! ## Providers and their kinds -/

/-- Of the providers that are known, this is the first that is registered under the name. -/
def System.Registers (s : System) (name : String) (p : Provider) : Prop :=
  ∃ providers, (exec System.answer registrations s).1 = .ok providers ∧
    registered? providers name = some p

theorem System.Registers.unique {s : System} {name : String} {p q : Provider}
    (hp : s.Registers name p) (hq : s.Registers name q) : p = q := by
  obtain ⟨providers, hproviders, hp⟩ := hp
  obtain ⟨providers', hproviders', hq⟩ := hq
  obtain rfl := Except.ok.inj (hproviders.symm.trans hproviders')
  exact Option.some.inj (hp.symm.trans hq)

variable {k : FacadeKind} {s s' : System} {t : List Event}

namespace Controller

/-- A provider that is found is one that is registered under the name. -/
theorem registers_of_provider {name key : String} {p : Provider}
    (h : Runs System.answer (Controller.provider name key) s t (.ok p) s') :
    s.Registers name p := by
  rcases h.bind_inv with ⟨_, _, hr⟩ | ⟨providers, t₁, s₁, t₂, hproviders, hrest, -⟩
  · cases hr
  · refine ⟨providers, congrArg Prod.fst hproviders.exec, ?_⟩
    cases hp : registered? providers name with
    | none =>
      rw [hp] at hrest
      obtain ⟨-, hr, -⟩ := hrest.unique .throw
      cases hr
    | some q =>
      rw [hp] at hrest
      obtain ⟨-, hr, -⟩ := hrest.unique .pure
      rw [Except.ok.inj hr]

/-- Where the kinds are recalled as they are, the backends are of the kind that the provider
registers. -/
theorem kind_of_backendResource {p : Provider} {resource : ApiResource}
    (hm : s.memory.Recalls p k)
    (h : Runs System.answer (backendResource p k) s t (.ok resource) s') :
    resource.apiVersion = p.backendApiVersion ∧ resource.kind = p.kindFor k := by
  cases resolves_of_runs h with
  | known _ _ hkey => exact hm _ hkey
  | found _ _ hserved => simpa using List.find?_some (Except.ok.inj hserved)
  | guessed => exact ⟨rfl, rfl⟩

end Controller

namespace Facade

variable {f : Facade k} {m : Dict Json} {ns : String} {now : Instant}

/-- The facade goes on with the provider of this name: it refers to it, or it refers to an inventory
that admits it and has this provider. -/
def GoesOn (f : Facade k) (s : System) (ns name : String) : Prop :=
  match f.reference with
  | .provider ref => ref.name = name
  | .inventory ref =>
    (exec System.answer (gate ⟨k, ns, ref.namespaceOr ns, ref.name⟩) s).1 = .ok (.ok name)

/-! ## The two writes -/

/-- How the backend is brought up to date, by at most one write `w`: it is left as it is, or made
where there was none, or the one that the run has got is sent back with nothing but its spec
changed. The JSON that is sent then is the one that is stored but for the spec. -/
inductive SyncsBackend (f : Facade k) (resource : ApiResource) (ns : String) (t : List Event)
    (s : Cluster) : List Event → Cluster → Prop
  | kept : SyncsBackend f resource ns t s [] s
  | created (b b' : Backend) (hnone : s.find? (backend resource ns f.metadata.anyName) = none)
    (hb : f.newBackend resource f.specJson = .ok b) :
    SyncsBackend f resource ns t s [⟨.api (.createBackend resource ns b), .ok b'⟩]
      (s.created (backend resource ns f.metadata.anyName)
        ((GenericObject.codec.encode b).withResourceVersion s.nextVersion))
  | replaced (j : Json) (b b' : Backend)
    (hfind : s.find? (backend resource ns f.metadata.anyName) = some j)
    (hread : GenericObject.codec.read j = .ok b)
    (hgot : ⟨.api (.getBackend resource ns f.metadata.anyName), .ok (some b)⟩ ∈ t)
    (hsame : j.SameBut "spec" (GenericObject.codec.encode (b.withSpec f.specJson)))
    (hspec : (GenericObject.codec.encode (b.withSpec f.specJson)).get? "spec" = some f.specJson) :
    SyncsBackend f resource ns t s
      [⟨.api (.replaceBackend resource ns (b.withSpec f.specJson)), .ok b'⟩]
      (s.replaced (backend resource ns f.metadata.anyName)
        ((GenericObject.codec.encode (b.withSpec f.specJson)).withResourceVersion s.nextVersion))

/-- How the status `x` of the facade that is stored as `m` is brought up to date, by at most one
write: it is left as it is, or written, and nothing but the status and the version changes. -/
inductive SyncsStatus (f : Facade k) (m : Dict Json) (x : Status k.Details) (s : Cluster) :
    List Event → Cluster → Prop
  | kept (h : f.status = some x) : SyncsStatus f m x s [] s
  | patched (d : Json) :
    SyncsStatus f m x s [⟨.api (f.statusCall x), .ok ()⟩]
      (s.replaced f.target
        (((Json.object m).withMember "status" d).withResourceVersion s.nextVersion))

theorem SyncsBackend.mono {resource : ApiResource} {c c' : Cluster} {w t' : List Event}
    (h : f.SyncsBackend resource ns t c w c') (ht : t ⊆ t') :
    f.SyncsBackend resource ns t' c w c' := by
  cases h with
  | kept => exact .kept
  | created b b' hnone hb => exact .created b b' hnone hb
  | replaced j b b' hfind hread hgot hsame hspec =>
    exact .replaced j b b' hfind hread (ht hgot) hsame hspec

/-- What a run past the gate has brought about: the backend `b` of the provider's kind, and the
status `x` of the facade. -/
structure Provisioned (f : Facade k) (now : Instant) (m : Dict Json) (ns : String) (p : Provider)
    (resource : ApiResource) (b : Backend) (x : Status k.Details) (s : System) (t : List Event)
    (s' : System) : Prop where
  kind : resource.apiVersion = p.backendApiVersion ∧ resource.kind = p.kindFor k
  found : s'.cluster.get (backend resource ns f.metadata.anyName) GenericObject.codec = .ok (some b)
  spec : b.spec? = some f.specJson
  owner : ∃ owner, b.metadata.controllerOwner? = some owner ∧ some owner.uid = f.metadata.uid
  derived : f.deriveStatus now b = .ok x
  reported : ∃ version m', (f.updated version (some x)).Stored s'.cluster m'
  writes : ∃ w w' c, writes t = w ++ w' ∧ f.SyncsBackend resource ns t s.cluster w c ∧
    f.SyncsStatus m x c w' s'.cluster

/-- What has only looked things up before makes no difference. -/
theorem Provisioned.preceded {p : Provider} {resource : ApiResource} {b : Backend}
    {x : Status k.Details} {s₀ : System} {t₀ : List Event}
    (h : f.Provisioned now m ns p resource b x s t s') (hs : s.cluster = s₀.cluster)
    (ht₀ : Event.writes t₀ = []) : f.Provisioned now m ns p resource b x s₀ (t₀ ++ t) s' := by
  refine { h with writes := ?_ }
  obtain ⟨w, w', c, hw, hbackend, hstatus⟩ := h.writes
  refine ⟨w, w', c, ?_, ?_, hstatus⟩
  · rw [Event.writes_append, ht₀, List.nil_append, hw]
  · rw [← hs]
    exact hbackend.mono (List.subset_append_right _ _)

/-! ## The parts of a run -/

/-- The backend of the facade is there, with its spec and under its control. -/
structure Supplied (f : Facade k) (resource : ApiResource) (ns : String) (b : Backend)
    (s : Cluster) : Prop where
  found : s.get (backend resource ns f.metadata.anyName) GenericObject.codec = .ok (some b)
  spec : b.spec? = some f.specJson
  owner : f.checkOwner b = .ok ()

/-- Where there is no backend one is made. -/
theorem syncs_created (hns : f.metadata.ns = some ns) (hspec : f.specJson.Plain)
    {resource : ApiResource} {found : Option Backend}
    (hnone : s.cluster.find? (backend resource ns f.metadata.anyName) = none)
    (h : Runs System.answer (do
      let b ← f.newBackend resource f.specJson
      unlessConflict (api (.createBackend resource ns b))) s t (.ok found) s') (t' : List Event) :
    ∃ b, found = some b ∧ f.Supplied resource ns b s'.cluster ∧
      f.SyncsBackend resource ns t' s.cluster (writes t) s'.cluster := by
  rcases h.bind_inv with ⟨_, _, hr⟩ | ⟨b, t₁, s₁, t₂, hlift, hcreate, rfl⟩
  · cases hr
  obtain ⟨rfl, hnew, rfl⟩ := hlift.unique (.lift _)
  obtain ⟨htype, hvalid, href, hcheck, -⟩ := newBackend_eq_ok hspec.canonical hnew.symm
  obtain ⟨hbns, hname⟩ := ObjectRef.mk.inj href
  have hbns := hbns.trans hns
  have hwritten := Backend.StoredAs.written htype hbns hvalid s₁.cluster
  have hanswer := Cluster.createBackend_of_none htype hbns hvalid (hname ▸ hnone)
  obtain ⟨rfl, hfound, rfl⟩ :=
    hcreate.unique (Runs.api (System.answer_api hanswer)).unlessConflict
  rw [hname] at hwritten ⊢
  have hspec' : b.spec? = some f.specJson := spec?_newBackend hnew.symm
  refine ⟨_, Except.ok.inj hfound, ⟨?_, hspec', ?_⟩, .created b _ hnone hnew.symm⟩
  · exact Cluster.get_eq_some.2 ⟨_, Cluster.find?_created hnone hwritten.fits, hwritten.read⟩
  · exact checkOwner_eq_ok.2 (checkOwner_eq_ok.1 hcheck)

/-- A backend that is there gets the spec of the facade, if it has another one. -/
theorem syncs_replaced (hspec : f.specJson.Plain)
    (hb : ∀ j ∈ s.cluster.objects .backends, j.Canonical) {resource : ApiResource}
    {current : Backend} {found : Option Backend}
    (hget : s.cluster.get (backend resource ns f.metadata.anyName) GenericObject.codec =
      .ok (some current))
    (h : Runs System.answer (do
      f.checkOwner current
      if current.hasSpec f.specJson then return some current
      unlessConflict (api (.replaceBackend resource ns (current.withSpec f.specJson)))) s t
        (.ok found) s')
    {t' : List Event}
    (ht' : ⟨.api (.getBackend resource ns f.metadata.anyName), .ok (some current)⟩ ∈ t') :
    ∃ b, found = some b ∧ f.Supplied resource ns b s'.cluster ∧
      f.SyncsBackend resource ns t' s.cluster (writes t) s'.cluster := by
  rcases h.bind_inv with ⟨_, _, hr⟩ | ⟨_, t₁, s₁, t₂, hlift, hrest, rfl⟩
  · cases hr
  obtain ⟨rfl, hcheck, rfl⟩ := hlift.unique (.lift _)
  cases hhas : current.hasSpec f.specJson with
  | true =>
    simp only [hhas, if_true] at hrest
    obtain ⟨rfl, hfound, rfl⟩ := hrest.unique .pure
    have hspec' := Backend.spec?_of_hasSpec hhas hspec.doubleFree
    exact ⟨current, Except.ok.inj hfound, ⟨hget, hspec', hcheck.symm⟩, .kept⟩
  | false =>
    simp only [hhas, Bool.false_eq_true, if_false] at hrest
    obtain ⟨j, hfind, hread⟩ := Cluster.get_eq_some.1 hget
    obtain ⟨m, rfl, hplace, hparts⟩ := Cluster.readFrom_of_find? hb hfind hread
    obtain ⟨hbns, hname⟩ := ObjectRef.mk.inj (hparts.place.symm.trans hplace)
    have hvalid := Backend.valid_withSpec hparts.valid hspec.canonical
    have hwritten := Backend.StoredAs.written (b := current.withSpec f.specJson) hparts.type_eq hbns
      hvalid s₁.cluster
    have hanswer := Cluster.replaceBackend_of_find? (b := current.withSpec f.specJson)
      hparts.type_eq hbns hvalid (hname ▸ hfind) hparts.resourceVersion.symm
    obtain ⟨rfl, hfound, rfl⟩ :=
      hrest.unique (Runs.api (System.answer_api hanswer)).unlessConflict
    have hspec' := current.spec?_withSpec f.specJson
    have htarget : backend resource ns (current.withSpec f.specJson).metadata.anyName =
        backend resource ns f.metadata.anyName := congrArg _ hname
    rw [htarget] at hwritten ⊢
    have hsame := hparts.sameBut_withSpec f.specJson
    have hset := hparts.spec_withSpec f.specJson
    refine ⟨_, Except.ok.inj hfound, ⟨?_, hspec', ?_⟩,
      .replaced _ current _ hfind hread ht' hsame hset⟩
    · exact Cluster.get_eq_some.2 ⟨_, Cluster.find?_replaced hfind hwritten.fits, hwritten.read⟩
    · exact checkOwner_eq_ok.2 (checkOwner_eq_ok.1 hcheck.symm)

/-- What is done about the backend where nobody interferes meets no conflict. -/
theorem syncBackend_ok (hns : f.metadata.ns = some ns) (hspec : f.specJson.Plain)
    (hb : ∀ j ∈ s.cluster.objects .backends, j.Canonical) {resource : ApiResource}
    {found : Option Backend}
    (h : Runs System.answer (f.syncBackend resource ns) s t (.ok found) s') :
    ∃ b, found = some b ∧ f.Supplied resource ns b s'.cluster ∧
      f.SyncsBackend resource ns t s.cluster (writes t) s'.cluster := by
  rcases h.bind_inv with ⟨_, _, hr⟩ | ⟨current, t₁, s₁, t₂, hget, hrest, rfl⟩
  · cases hr
  obtain ⟨rfl, hgot, rfl⟩ := hget.lookup_inv (c := .getBackend resource ns _) trivial
  cases current with
  | none => exact syncs_created hns hspec (Cluster.get_eq_none.1 hgot) hrest _
  | some current => exact syncs_replaced hspec hb hgot hrest List.mem_cons_self

theorem SyncsBackend.objects {resource : ApiResource} {c c' : Cluster} {w : List Event}
    (h : f.SyncsBackend resource ns t c w c') {d : Collection} (hd : d ≠ .backends) :
    c'.objects d = c.objects d := by
  cases h with
  | kept => rfl
  | created => exact Cluster.objects_created_of_ne hd
  | replaced => exact Cluster.objects_replaced_of_ne hd

/-- The status that follows from the backend is there in the end. -/
theorem report_ok (hf : f.Stored s.cluster m) (hns : f.metadata.ns = some ns)
    {x : Status k.Details} (hx : k.ValidStatus x) {interval : Duration} {r : Except Error Action}
    (h : Runs System.answer (f.report interval x) s t r s') :
    (∃ version m', (f.updated version (some x)).Stored s'.cluster m') ∧
      s'.cluster.objects .backends = s.cluster.objects .backends ∧
      f.SyncsStatus m x s.cluster (writes t) s'.cluster := by
  unfold report at h
  by_cases hsame : f.status = some x
  · simp only [hsame, ne_eq, not_true, if_false] at h
    obtain ⟨rfl, -, rfl⟩ := h.unique ((Runs.memory rfl).bind .pure)
    refine ⟨⟨f.metadata.resourceVersion, m, ?_⟩, rfl, .kept hsame⟩
    rw [← hsame]
    exact hf
  · simp only [hsame, ne_eq, not_false_eq_true, if_true] at h
    obtain ⟨d, hwrite⟩ := hf.write_succeeds hns x
    have hwritten := (Runs.api hwrite).unlessConflict
    obtain ⟨rfl, -, rfl⟩ := h.unique (hwritten.bind ((Runs.memory rfl).bind .pure))
    obtain ⟨version, m', hstored, -, -, hbackends⟩ := hf.write hns hx hwrite
    exact ⟨⟨version, m', hstored⟩, hbackends, .patched d⟩

/-- Once the kind of the backend is known, backend and status are brought up to date. -/
theorem provision_ok (hf : f.Stored s.cluster m) (hns : f.metadata.ns = some ns)
    (hnow : now.Valid) (hb : ∀ j ∈ s.cluster.objects .backends, j.Canonical) {p : Provider}
    {resource : ApiResource} (hkind : resource.apiVersion = p.backendApiVersion ∧
      resource.kind = p.kindFor k) {interval : Duration} {a : Action}
    (h : Runs System.answer (f.provision interval now resource ns) s t (.ok a) s') :
    ∃ b x, f.Provisioned now m ns p resource b x s t s' := by
  rcases h.bind_inv with ⟨_, _, hr⟩ | ⟨found, t₁, s₁, t₂, hsync, hrest, rfl⟩
  · cases hr
  obtain ⟨b, rfl, ⟨hfound, hspec, hcheck⟩, hsyncs⟩ := syncBackend_ok hns hf.plain_specJson hb hsync
  rcases hrest.bind_inv with ⟨_, _, hr⟩ | ⟨x, t₃, s₃, t₄, hderive, hreport, rfl⟩
  · cases hr
  obtain ⟨rfl, hx, rfl⟩ := hderive.unique (.lift _)
  have hf₁ := hf.of_objects_eq (hsyncs.objects (d := .facades k) (by simp))
  have hvalid := valid_deriveStatus hnow hf.validStatus hx.symm
  obtain ⟨hstored, hbackends, hstatus⟩ := report_ok hf₁ hns hvalid hreport
  refine ⟨b, x, hkind, ?_, hspec, checkOwner_eq_ok.1 hcheck, hx.symm, hstored, writes t₁, writes t₄,
    s₃.cluster, by simp, hsyncs.mono (List.subset_append_left _ _), hstatus⟩
  exact (Cluster.get_of_objects_eq (t := backend resource ns f.metadata.anyName) hbackends _).trans
    hfound

/-- A provider that is found is found without a write. -/
theorem provider_ok {name : String} {p : Provider}
    (h : Runs System.answer (Facade.provider now f name) s t (.ok p) s') :
    s.Registers name p ∧ s' = s ∧ writes t = [] := by
  have honly := provider_only (k := k) name f.key
  rcases h.tryCatch_inv with ⟨q, hfound, hr⟩ | ⟨e, t₁, s₁, t₂, -, hhandle, -⟩
  · obtain rfl := Except.ok.inj hr
    exact ⟨registers_of_provider hfound, (honly.observes (.refl s) hfound).1,
      honly.writes_eq_nil (fun _ hc => hc.isLookup.keepsCluster) hfound⟩
  · -- Whatever is done about an error, it is thrown in the end.
    cases e with
    | providerNotFound provider resource =>
      rcases hhandle.bind_inv with ⟨_, _, hr⟩ | ⟨_, t₃, s₃, t₄, -, hthrow, -⟩
      · cases hr
      · obtain ⟨-, hr, -⟩ := hthrow.unique .throw
        cases hr
    | _ =>
      obtain ⟨-, hr, -⟩ := hhandle.unique .throw
      cases hr

theorem proceed_ok (hf : f.Stored s.cluster m) (hns : f.metadata.ns = some ns)
    (hnow : now.Valid) (hb : ∀ j ∈ s.cluster.objects .backends, j.Canonical) {name : String}
    (hmemory : ∀ p, s.Registers name p → s.memory.Recalls p k) {interval : Duration} {a : Action}
    (h : Runs System.answer (f.proceed interval now ns name) s t (.ok a) s') :
    ∃ p, s.Registers name p ∧ ∃ resource b x, f.Provisioned now m ns p resource b x s t s' := by
  rw [proceed_eq] at h
  rcases h.bind_inv with ⟨_, _, hr⟩ | ⟨p, t₁, s₁, t₂, hprovider, hrest, rfl⟩
  · cases hr
  obtain ⟨hp, rfl, hwrites₁⟩ := provider_ok hprovider
  rcases hrest.bind_inv with ⟨_, _, hr⟩ | ⟨resource, t₃, s₃, t₄, hresource, hwatch, rfl⟩
  · cases hr
  have hkind := kind_of_backendResource (hmemory p hp) hresource
  have hwrites₃ := (backendResource_only (P := Step.KeepsCluster) (fun _ => trivial)
    (fun _ _ => trivial) (fun _ _ => trivial) p k).writes_eq_nil (fun _ hc => hc) hresource
  obtain ⟨-, hcluster, -⟩ := backendResource_again hresource
  obtain ⟨t₅, hprovision, rfl⟩ := hwatch.memory_bind_inv
  obtain ⟨b, x, hprovisioned⟩ :=
    provision_ok (hcluster ▸ hf) hns hnow (hcluster ▸ hb) hkind hprovision
  have hnone : Event.writes
      (t₁ ++ (t₃ ++ [⟨.memory (.ensureWatch k p.registeredName resource), ()⟩])) = [] := by
    simp [hwrites₁, hwrites₃]
    rfl
  have hwatched := hprovisioned.preceded hcluster hnone
  refine ⟨p, hp, resource, b, x, ?_⟩
  simpa only [List.append_assoc, List.singleton_append] using hwatched

/-- A run past the gate that comes to its end leaves the backend and the status of the facade as
they should be, and has written no more than these two. Whatever the controllers have done since
they started, the backend is of the kind that the provider registers, if neither this kind nor one
that was found before has a slash in its name. -/
theorem reconcile_provisions (interval : Duration) (now : Instant) (hnow : now.Valid)
    (f : Facade k) (ns : String) (hns : f.metadata.ns = some ns) (s : System) (m : Dict Json)
    (hf : f.Stored s.cluster m) (hb : ∀ j ∈ s.cluster.objects .backends, j.Canonical)
    (name : String) (hname : f.GoesOn s ns name) (hreached : s.memory.Reached)
    (hslash : ∀ p, s.Registers name p → '/' ∉ (p.kindFor k).toList) (t : List Event) (s' : System)
    (h : Runs System.answer (f.reconcile interval now) s t (.ok (.requeue interval)) s') :
    ∃ p, s.Registers name p ∧ ∃ resource b x, f.Provisioned now m ns p resource b x s t s' := by
  have hmemory (p : Provider) (hp : s.Registers name p) : s.memory.Recalls p k :=
    hreached.filed.recalls (hslash p hp)
  unfold GoesOn at hname
  cases href : f.reference with
  | provider ref =>
    simp only [href] at hname
    rw [reconcile_of_provider hns href, hname] at h
    exact proceed_ok hf hns hnow hb hmemory h
  | inventory ref =>
    simp only [href] at hname
    rw [reconcile_of_inventory href hns rfl] at h
    have honly := gate_shared href ⟨k, ns, ref.namespaceOr ns, ref.name⟩
    have hgate := Runs.refl System.answer (gate ⟨k, ns, ref.namespaceOr ns, ref.name⟩) s
    rw [hname] at hgate
    have hwrites := honly.writes_eq_nil (fun _ hc => hc.isLookup.keepsCluster) hgate
    obtain ⟨hs, -⟩ := honly.observes (.refl s) hgate
    rw [hs] at hgate
    rcases h.bind_inv with ⟨_, _, hr⟩ | ⟨verdict, t₁, s₁, t₂, hfirst, hrest, rfl⟩
    · cases hr
    obtain ⟨rfl, hverdict, rfl⟩ := hgate.unique hfirst
    obtain rfl := Except.ok.inj hverdict
    obtain ⟨p, hp, resource, b, x, hprovisioned⟩ := proceed_ok hf hns hnow hb hmemory hrest
    exact ⟨p, hp, resource, b, x, hprovisioned.preceded rfl hwrites⟩

/-- The backend of an inventory has another spec than the inventory, and reports that it is ready.
It gets the spec and keeps everything else, and the inventory is ready then. How its kind is served
was found in an earlier run. -/
theorem reconcile_provisions_over_drift :
    let m : Dict Json :=
      [("metadata", .object [("name", .string "orders"), ("namespace", .string "team"),
          ("resourceVersion", .string "3"), ("uid", .string "1")]),
        ("spec", .object [("credentialsRef", .object [("name", .string "secret")]),
          ("providerRef", .object [("name", .string "crunchy")])])]
    let f : Facade .inventory :=
      ⟨⟨{ name := some "orders", ns := some "team", uid := some "1", resourceVersion := some "3" },
        ⟨⟨"crunchy"⟩, ⟨"secret"⟩, none, ⟨none, none, none⟩⟩⟩, none⟩
    let owner : Json := .object [("apiVersion", .string planeApiVersion), ("controller", .bool true),
      ("kind", .string "DBaaSInventory"), ("name", .string "orders"), ("uid", .string "1")]
    let stored : Json := .object
      [("apiVersion", .string planeApiVersion), ("kind", .string "Vault"),
        ("metadata", .object [("name", .string "orders"), ("namespace", .string "team"),
          ("ownerReferences", .array [owner]), ("resourceVersion", .string "7")]),
        ("payload", .string "kept"), ("spec", .object []),
        ("status", .object [("conditions", .array [.object
          [("status", .string "True"), ("type", .string "Ready")]])])]
    let p : Provider := ⟨{ name := some "crunchy" },
      ⟨⟨"crunchy", none, none⟩, none, "Vault", "Link", "Base", [], []⟩⟩
    let served : ApiResource := ⟨"dbaas.dev", "v1beta1", planeApiVersion, "Vault", "vaultz"⟩
    let early : System :=
      { cluster :=
          { objects := fun c =>
              if c = .facades .inventory then [.object m]
              else if c = .backends then [stored] else []
            version := 7
            served := [served] }
        memory := { providers := some ⟨[(p.metadata.ref, p)]⟩ } }
    let s : System :=
      { early with memory := (exec System.answer (f.reconcile (.ofSeconds 60) ⟨0, 0⟩) early).2.memory }
    ∃ t s' q resource b x,
      Runs System.answer (f.reconcile (.ofSeconds 60) ⟨0, 0⟩) s t (.ok (.requeue (.ofSeconds 60))) s' ∧
        s.memory.kinds = [(served.key, served)] ∧ s.memory.Reached ∧
        s.Registers "crunchy" q ∧ f.Provisioned ⟨0, 0⟩ m "team" q resource b x s t s' ∧
        (writes t).length = 2 := by
  intro m f owner stored p served early s
  have hf : f.Stored s.cluster m := by
    refine ⟨rfl, ?_, fun j hj => ?_, rfl⟩
    · simp only [m, Json.Canonical, Json.CanonicalMembers, Dict.Sorted]
      decide
    · cases hj
  have hb : ∀ j ∈ s.cluster.objects .backends, j.Canonical := by
    intro j hj
    obtain rfl : j = stored := List.mem_singleton.1 hj
    simp only [stored, owner, Json.Canonical, Json.CanonicalMembers, Json.CanonicalItems,
      Dict.Sorted]
    decide
  have hfirst := Runs.refl System.answer (f.reconcile (.ofSeconds 60) ⟨0, 0⟩) early
  have hreached := (Memory.Reached.of_kinds_nil (m := early.memory) rfl).reconcile
    (List.forall_mem_singleton.2 (by decide)) _ _ hfirst
  have hslash : ∀ q, s.Registers "crunchy" q → '/' ∉ (q.kindFor .inventory).toList := by
    intro q hq
    have hseen : (exec System.answer registrations s).1.toOption = some [p] := by
      decide +kernel +zetaReduce
    have hp : registered? [p] "crunchy" = some p := by decide +kernel +zetaReduce
    obtain rfl := hq.unique ⟨[p], Except.toOption_eq_some.1 hseen, hp⟩
    decide
  have hkinds : s.memory.kinds = [(served.key, served)] := by decide +kernel +zetaReduce
  have hrun := Runs.refl System.answer (f.reconcile (.ofSeconds 60) ⟨0, 0⟩) s
  have hlength : (writes (trace System.answer (f.reconcile (.ofSeconds 60) ⟨0, 0⟩) s)).length =
      2 := by decide +kernel +zetaReduce
  have hresult : (exec System.answer (f.reconcile (.ofSeconds 60) ⟨0, 0⟩) s).1.toOption =
      some (.requeue (.ofSeconds 60)) := by decide +kernel +zetaReduce
  rw [Except.toOption_eq_some.1 hresult] at hrun
  obtain ⟨q, hq, resource, b, x, hprovisioned⟩ := reconcile_provisions (.ofSeconds 60) ⟨0, 0⟩
    ⟨rfl, .inl (by decide)⟩ f "team" rfl s m hf hb "crunchy" rfl hreached hslash _ _ hrun
  exact ⟨_, _, q, resource, b, x, hrun, hkinds, hreached, hq, hprovisioned, hlength⟩

/-- The kind `Vault` of `db.dev/v1` has the same key as a kind `v1/Vault` of `db.dev`. Once a run for
the first has learnt how it is served, a run for the second comes to its end past the gate without
a backend of the second kind. -/
theorem reconcile_provisions_another_kind :
    let m (name provider : String) : Dict Json :=
      [("metadata", .object [("name", .string name), ("namespace", .string "team"),
          ("uid", .string name)]),
        ("spec", .object [("credentialsRef", .object [("name", .string "secret")]),
          ("providerRef", .object [("name", .string provider)])])]
    let f (name provider : String) : Facade .inventory :=
      ⟨⟨{ name := some name, ns := some "team", uid := some name },
        ⟨⟨provider⟩, ⟨"secret"⟩, none, ⟨none, none, none⟩⟩⟩, none⟩
    let p (name version kind : String) : Provider :=
      ⟨{ name := some name }, ⟨⟨name, none, none⟩, some version, kind, "Link", "Base", [], []⟩⟩
    let vault := p "crunchy" "db.dev/v1" "Vault"
    let other := p "mongo" "db.dev" "v1/Vault"
    let start : System :=
      { cluster :=
          { objects := fun c =>
              if c = .facades .inventory then
                [.object (m "orders" "crunchy"), .object (m "shop" "mongo")]
              else []
            served := [⟨"db.dev", "v1", "db.dev/v1", "Vault", "vaults"⟩] }
        memory := { providers := some ⟨[(vault.metadata.ref, vault), (other.metadata.ref, other)]⟩ } }
    let s := (exec System.answer ((f "orders" "crunchy").reconcile (.ofSeconds 60) ⟨0, 0⟩) start).2
    ∃ t s', (f "shop" "mongo").Stored s.cluster (m "shop" "mongo") ∧
      (f "shop" "mongo").GoesOn s "team" "mongo" ∧ s.memory.Reached ∧
      s.Registers "mongo" other ∧
      Runs System.answer ((f "shop" "mongo").reconcile (.ofSeconds 60) ⟨0, 0⟩) s t
        (.ok (.requeue (.ofSeconds 60))) s' ∧
      ∀ resource : ApiResource, resource.apiVersion = other.backendApiVersion →
        resource.kind = other.kindFor .inventory →
        s'.cluster.get (backend resource "team" "shop") GenericObject.codec = .ok none := by
  intro m f p vault other start s
  have hstored : (f "shop" "mongo").Stored s.cluster (m "shop" "mongo") := by
    refine ⟨by decide +kernel +zetaReduce, ?_, fun j hj => ?_, rfl⟩
    · simp only [m, Json.Canonical, Json.CanonicalMembers, Dict.Sorted]
      decide
    · cases hj
  have hfirst :=
    Runs.refl System.answer ((f "orders" "crunchy").reconcile (.ofSeconds 60) ⟨0, 0⟩) start
  have hreached := (Memory.Reached.of_kinds_nil (m := start.memory) rfl).reconcile
    (List.forall_mem_singleton.2 (by decide)) _ _ hfirst
  have hseen : (exec System.answer registrations s).1.toOption = some [vault, other] := by
    decide +kernel +zetaReduce
  have hother : registered? [vault, other] "mongo" = some other := by decide +kernel +zetaReduce
  have hrun := Runs.refl System.answer ((f "shop" "mongo").reconcile (.ofSeconds 60) ⟨0, 0⟩) s
  have hresult : (exec System.answer ((f "shop" "mongo").reconcile (.ofSeconds 60) ⟨0, 0⟩)
      s).1.toOption = some (.requeue (.ofSeconds 60)) := by decide +kernel +zetaReduce
  rw [Except.toOption_eq_some.1 hresult] at hrun
  refine ⟨_, _, hstored, rfl, hreached, ⟨_, Except.toOption_eq_some.1 hseen, hother⟩, hrun, ?_⟩
  intro resource hversion hkind
  have hnone : (exec System.answer ((f "shop" "mongo").reconcile (.ofSeconds 60) ⟨0, 0⟩)
      s).2.cluster.find? (backend (.ofKind "db.dev" "v1/Vault") "team" "shop") = none := by
    decide +kernel +zetaReduce
  have hsame : backend resource "team" "shop" = backend (.ofKind "db.dev" "v1/Vault") "team" "shop" := by
    simp only [backend, hversion, hkind]
    rfl
  rw [hsame]
  exact Cluster.get_eq_none.2 hnone

end Facade

end ControlPlane
