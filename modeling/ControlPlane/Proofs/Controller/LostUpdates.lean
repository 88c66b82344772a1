import ControlPlane.Proofs.Cluster.Versions
import ControlPlane.Proofs.Controller.Sharing
import ControlPlane.Proofs.Controller.Sources

/-!
# No update is lost

Others may write between any two calls of a run, so that what it has read can be out of date by the
time it writes. But what it changes it changes under the version that it read. Where each write
gives out a new version, such a change succeeds only as long as the object is what it was, and then
nothing that others have written is overwritten.
-/

namespace ControlPlane

open Controller

/-! ## Key order -/

/-- Wherever the step is taken, the objects stay in key order. -/
def Step.KeepsOrder (c : Step) : Prop :=
  ∀ call, c = .api call → ∀ s : Cluster, s.Canonical → (s.answer call).2.Canonical

theorem Step.KeepsCluster.keepsOrder {c : Step} (h : c.KeepsCluster) : c.KeepsOrder := by
  rintro call rfl s hs
  have hsame : (s.answer call).2 = s := System.cluster_answer h ⟨s, {}⟩
  rwa [hsame]

theorem Namespace.Takes.keepsOrder {h : List Event} {c : Step} (hc : Namespace.Takes h c) :
    c.KeepsOrder := by
  cases hc with
  | keep hkeeps => exact hkeeps.keepsOrder
  | @createRole v role hrole =>
    rintro _ ⟨⟩ s hs
    obtain ⟨owner, -, rfl⟩ := ViewedObject.role_eq_ok.1 hrole
    have hvalid := ViewedObject.artifactMetadata_valid v.artifactNs v.roleName owner
    exact hs.create _ (Role.codec_writes _ _ hvalid).canonical
  | patchRules hread rules =>
    rintro _ ⟨⟩ s hs
    exact hs.update _ _ fun j hj => hj.withMember "rules"
      (Codec.Writes.list AccessRule.codec_writes rules fun _ _ => trivial).canonical
  | @createBinding v subjects binding hbinding =>
    rintro _ ⟨⟩ s hs
    obtain ⟨owner, -, rfl⟩ := ViewedObject.binding_eq_ok.1 hbinding
    have hvalid := ViewedObject.artifactMetadata_valid v.artifactNs v.roleName owner
    exact hs.create _ (RoleBinding.codec_writes _ _ hvalid).canonical
  | deleteBinding scope name =>
    rintro _ ⟨⟩ s hs
    exact hs.remove _
  | patchSubjects hread subjects =>
    rintro _ ⟨⟩ s hs
    exact hs.update _ _ fun j hj => hj.withMember "subjects"
      (Codec.Writes.list BindingSubject.codec_writes subjects fun _ _ => trivial).canonical

namespace Cluster

variable {s s' start : Cluster} {e : Event} {t before : List Event} {target : Target} {o : Json}

namespace Serves

theorem renews (h : Serves Write s t s') : s.Renews s' :=
  h.leads Renews.refl Renews.trans (fun h => h.advances.renews)
    fun _ _ s c _ => (s.advances_answer c).renews

theorem versioned (h : Serves Write s t s') (hs : s.Versioned) : s'.Versioned :=
  h.leads (R := fun s s' => s.Versioned → s'.Versioned) (fun _ => id) (fun h h' hs => h' (h hs))
    (fun h hs => hs.advances h.advances) (fun _ _ s c _ hs => hs.advances (s.advances_answer c)) hs

theorem canonical (h : Serves Write s t s') (ht : ∀ e ∈ t, e.1.KeepsOrder) (hs : s.Canonical) :
    s'.Canonical :=
  h.leads (R := fun s s' => s.Canonical → s'.Canonical) (fun _ => id) (fun h h' hs => h' (h hs))
    Write.canonical (fun e he s c hc hs => ht e he c hc s hs) hs

end Serves

/-- When the event came, the object was among those that the target means. The events are followed
from `start` to `s`. -/
inductive Saw (start : Cluster) (before : List Event) (s : Cluster) (e : Event) (target : Target)
    (o : Json) : Prop
  | intro {first rest : List Event} {s₁ s₂ : Cluster} (hbefore : before = first ++ e :: rest)
    (hfirst : Serves Write start first s₁) (hanswers : s₁.Answers e s₂)
    (hrest : Serves Write s₂ rest s) (ho : o ∈ s₁.objects target.collection)
    (hfits : target.fits o = true)

end Cluster

namespace Rewrite

variable {w : Rewrite} {c : Call} {a : c.Answer} {o : Json} {start s s' : Cluster}
  {before : List Event} {e : Event}

/-- The object is there when the change is made, nothing but one of its members changes, and it is
stored under the next version. -/
structure Changes (w : Rewrite) (o : Json) (s s' : Cluster) : Prop where
  current : s.find? w.target = some o
  written : s' = s.replaced w.target ((w.change o).withResourceVersion s.nextVersion)
  same : o.SameBut w.member (w.change o)

/-- What had the version that is named is what is changed. -/
theorem changes (hw : c.rewrite? = some w) (ha : s.answer c = (.ok a, s'))
    (hstart : start.Versioned) (hrenews : start.Renews s)
    (ho : o ∈ start.objects w.target.collection) (hfits : w.target.fits o = true)
    (hversion : w.version = o.resourceVersion?) (hsame : o.SameBut w.member (w.change o)) :
    w.Changes o s s' := by
  obtain ⟨hcurrent, hwritten⟩ := applies hw ha hstart hrenews ho hfits hversion
  exact ⟨hcurrent, hwritten, hsame⟩

/-- What was seen in the version that is named is what is changed. -/
theorem changes_of_saw (hw : c.rewrite? = some w) (ha : s.answer c = (.ok a, s'))
    (hstart : start.Versioned) (hsaw : start.Saw before s e w.target o)
    (hversion : w.version = o.resourceVersion?) (hsame : o.SameBut w.member (w.change o)) :
    w.Changes o s s' := by
  obtain ⟨-, hfirst, hanswers, hrest, ho, hfits⟩ := hsaw
  have hrenews := (hanswers.leads (.refl _) fun c _ => (Cluster.advances_answer _ c).renews).trans
    hrest.renews
  exact changes hw ha (hfirst.versioned hstart) hrenews ho hfits hversion hsame

/-- Lookups change nothing. -/
theorem not_keepsCluster (hw : c.rewrite? = some w) : ¬ Step.KeepsCluster (.api c) := by
  cases c <;> first
    | exact id
    | cases hw

end Rewrite

/-- The call was computed from the object: from the one that the run was handed, or from one that
was stored when the run asked for it. -/
inductive ComputedFrom (now : Instant) (j : Json) (start : Cluster) (before : List Event)
    (s : Cluster) : ControllerId → Call → Json → Prop
  | status {k : FacadeKind} {f : Facade k} (hfacade : (Facade.codec k).read j = .ok f)
    (x : Status k.Details) :
    ComputedFrom now j start before s (.facade k) (f.statusCall x) j
  | backend {k : FacadeKind} {f : Facade k} (hfacade : (Facade.codec k).read j = .ok f)
    {resource : ApiResource} {ns : String} {current : Backend} {o : Json}
    (hread : GenericObject.codec.read o = .ok current)
    (hsaw : start.Saw before s
      ⟨.api (.getBackend resource ns f.metadata.anyName), .ok (some current)⟩
      (Cluster.backend resource ns f.metadata.anyName) o) :
    ComputedFrom now j start before s (.facade k)
      (.replaceBackend resource ns (current.withSpec f.specJson)) o
  | policy {ns : String} {policies : List Policy} {winner p : Policy} {o : Json}
    (hwinner : Policy.governing? (Policy.sort policies) = some winner) (hp : p ∈ policies)
    (hread : Policy.codec.read o = .ok p)
    (hsaw : start.Saw before s ⟨.api (.listPolicies ns), .ok policies⟩
      (Cluster.policy ns p.metadata.anyName) o) :
    ComputedFrom now j start before s .policy
      (.patchPolicyStatus ns p.metadata.anyName p.metadata.resourceVersion
        ((p.status.getD default).setCondition (p.verdict now ns winner.metadata.anyName)).2) o
  | role {scope : Scope} {name : String} {found : Role} {o : Json} (rules : List AccessRule)
    (hread : (Role.codec scope.breadth).read o = .ok found)
    (hsaw : start.Saw before s ⟨.api (.getRole scope name), .ok (some found)⟩
      (Cluster.role scope name) o) :
    ComputedFrom now j start before s .grants
      (.patchRules scope name found.metadata.resourceVersion rules) o
  | binding {scope : Scope} {name : String} {found : RoleBinding} {o : Json}
    (subjects : List BindingSubject) (hread : (RoleBinding.codec scope.breadth).read o = .ok found)
    (hsaw : start.Saw before s ⟨.api (.getBinding scope name), .ok (some found)⟩
      (Cluster.binding scope name) o) :
    ComputedFrom now j start before s .grants
      (.patchSubjects scope name found.metadata.resourceVersion subjects) o

/-- What a lookup found was stored when the lookup was answered, and in key order if nothing before
has changed that. -/
theorem Cluster.Serves.exists_saw {α : Type} {codec : Codec α} {found : α} {e : Event}
    {target : Target} {first rest : List Event} {start s : Cluster}
    (h : start.Serves Write (first ++ e :: rest) s) (hfirst : ∀ e ∈ first, e.1.KeepsOrder)
    (hcanonical : start.Canonical)
    (hget : ∀ b b' : Cluster, b.Answers e b' → b.get target codec = .ok (some found)) :
    ∃ (b : Cluster) (o : Json), b.Canonical ∧ b.find? target = some o ∧ codec.read o = .ok found ∧
      start.Saw (first ++ e :: rest) s e target o := by
  obtain ⟨b, b', hbefore, hanswers, hafter⟩ := h.append_cons_inv
  obtain ⟨o, hfind, hread⟩ := get_eq_some.1 (hget b b' hanswers)
  exact ⟨b, o, hbefore.canonical hfirst hcanonical, hfind, hread, .intro rfl hbefore hanswers hafter
    (List.mem_of_find?_eq_some hfind) (List.find?_some hfind)⟩

/-- What a lookup found names the version in which it was stored. -/
theorem Cluster.Serves.exists_saw_version {α : Type} {codec : Codec α} {metadata : α → Metadata}
    {withVersion : α → String → α} (hcodec : codec.Versioned metadata withVersion) {found : α}
    {e : Event} {target : Target} {first rest : List Event} {start s : Cluster}
    (h : start.Serves Write (first ++ e :: rest) s) (hfirst : ∀ e ∈ first, e.1.KeepsOrder)
    (hcanonical : start.Canonical)
    (hget : ∀ b b' : Cluster, b.Answers e b' → b.get target codec = .ok (some found)) :
    ∃ o, codec.read o = .ok found ∧ start.Saw (first ++ e :: rest) s e target o ∧
      (metadata found).resourceVersion = o.resourceVersion? := by
  obtain ⟨b, o, hb, hfind, ho, hsaw⟩ := h.exists_saw hfirst hcanonical hget
  obtain ⟨m, rfl⟩ := hcodec.exists_object ho
  exact ⟨_, ho, hsaw,
    (hcodec.resourceVersion (hb _ _ (List.mem_of_find?_eq_some hfind)) ho).symm⟩

/-! ## Runs -/

section Runs

variable {σ : Type} {answer : (c : Step) → σ → c.Reply × σ} {interval : Duration} {now : Instant}
  {j : Json} {m : Dict Json} {start s₁ s₂ : Cluster} {s s' : σ} {r : Except Error Action}
  {before after : List Event} {c : Call} {a : c.Answer} {w : Rewrite}

/-- The status of a facade is written to the facade that was handed over. -/
theorem Facade.changes_status {k : FacadeKind} {f : Facade k} {ns : String}
    (hns : f.metadata.ns = some ns) (hread : (codec k).read (.object m) = .ok f)
    (hm : .object m ∈ start.objects (.facades k)) (hstart : start.Versioned)
    (hcanonical : start.Canonical) {x : Status k.Details} {u : Unit}
    (hw : (f.statusCall x).rewrite? = some w) (hrenews : start.Renews s₁)
    (ha : s₁.answer (f.statusCall x) = (.ok u, s₂)) : w.Changes (.object m) s₁ s₂ := by
  have hkind : FacadeKind.ofKind? k.resource.kind = some k := k.ofKind?_kind
  have hw' := hw
  simp only [statusCall, Call.rewrite?, hkind, hns, Option.getD_some, Option.map_some,
    Option.some.injEq] at hw'
  subst hw'
  have hobject := hcanonical _ _ hm
  have hplace := Observed.place_of_read hobject hread
  rw [hns] at hplace
  have hfits : (Cluster.facade k ns f.metadata.anyName).fits (.object m) = true :=
    Bool.and_eq_true_iff.2 ⟨decide_eq_true hplace, rfl⟩
  exact Rewrite.changes hw ha hstart hrenews hm hfits
    (Observed.resourceVersion_of_read hobject hread).symm
    (Json.sameBut_withMember (show "status" ≠ "metadata" by decide) _ _)

theorem Facade.exists_changes {k : FacadeKind} {f : Facade k}
    (hread : (codec k).read (.object m) = .ok f) (hm : .object m ∈ start.objects (.facades k))
    (hstart : start.Versioned) (hcanonical : start.Canonical)
    (h : Runs answer (f.reconcile interval now) s (before ++ ⟨.api c, .ok a⟩ :: after) r s')
    (hw : c.rewrite? = some w) (hserves : start.Serves Cluster.Write before s₁)
    (ha : s₁.answer c = (.ok a, s₂)) :
    ∃ o, ComputedFrom now (.object m) start before s₁ (.facade k) c o ∧ w.Changes o s₁ s₂ := by
  cases hns : f.metadata.ns with
  | none =>
    rw [reconcile_of_cluster_wide hns] at h
    have hnone := (h.unique .throw).1
    simp at hnone
  | some ns =>
    have htakes : f.Takes before (.api c) := (f.reconcile_takes interval now).of_trace h.trace
    cases htakes with
    | keep hkeeps => exact (Rewrite.not_keepsCluster hw hkeeps).elim
    | ask => cases hw
    | create => cases hw
    | status x =>
      exact ⟨_, .status hread x,
        changes_status hns hread hm hstart hcanonical hw hserves.renews ha⟩
    | @replace resource ns' current hasked =>
      obtain ⟨first, rest, rfl⟩ := List.append_of_mem hasked
      have htrace := h.trace
      rw [List.append_assoc, List.cons_append] at htrace
      have hask : f.Takes first (.api (.getBackend resource ns' f.metadata.anyName)) :=
        (f.reconcile_takes interval now).of_trace htrace
      have hkept : Kept first := by
        cases hask with
        | keep _ hspares => exact hspares.elim
        | ask _ _ hkept => exact hkept
      obtain ⟨b, o, hb, hfind, ho, hsaw⟩ := hserves.exists_saw
        (fun e he => (hkept e he).keepsOrder) hcanonical
        fun _ _ hanswers => congrArg Prod.fst hanswers.eq_of_ok
      obtain ⟨m', rfl, hplace, hparts⟩ := Cluster.readFrom_of_find? (hb .backends) hfind ho
      have hname : current.metadata.anyName = f.metadata.anyName :=
        congrArg ObjectRef.name (hparts.place.symm.trans hplace)
      refine ⟨_, .backend hread ho hsaw, ?_⟩
      cases hw
      rw [← hname] at hsaw
      exact Rewrite.changes_of_saw rfl ha hstart hsaw hparts.resourceVersion.symm
        (hparts.sameBut_withSpec f.specJson)

theorem Policy.exists_changes {p : Policy} (hstart : start.Versioned)
    (hcanonical : start.Canonical)
    (h : Runs answer (p.reconcile interval now) s (before ++ ⟨.api c, .ok a⟩ :: after) r s')
    (hw : c.rewrite? = some w) (hserves : start.Serves Cluster.Write before s₁)
    (ha : s₁.answer c = (.ok a, s₂)) :
    ∃ o, ComputedFrom now j start before s₁ .policy c o ∧ w.Changes o s₁ s₂ := by
  cases hns : p.metadata.ns with
  | none =>
    simp only [reconcile, hns] at h
    have hnone := (h.unique .throw).1
    simp at hnone
  | some ns =>
    have htakes : Takes now ns before (.api c) :=
      (reconcile_takes hns interval now).of_trace h.trace
    cases htakes with
    | list => cases hw
    | @announce policies winner _ hwinner hc rest =>
      cases hc with
      | status q hq =>
        obtain ⟨b, b', hfirst, hanswers, hrest⟩ := hserves.cons_inv
        have hb := hfirst.canonical (fun _ he => nomatch he) hcanonical
        have hq := mem_sort.1 hq
        obtain ⟨o, ho, hread⟩ :=
          (Cluster.mem_of_listed (congrArg Prod.fst hanswers.eq_of_ok)).1 hq
        obtain ⟨hmem, hplaced⟩ := Cluster.mem_inNamespace.1 ho
        obtain ⟨-, hplace, -, hversion⟩ := Observed.of_stored (hb _ o hmem) hplaced hread
        have hsaw : start.Saw (⟨.api (.listPolicies ns), .ok policies⟩ :: rest) s₁
            ⟨.api (.listPolicies ns), .ok policies⟩ (Cluster.policy ns q.metadata.anyName) o :=
          .intro rfl hfirst hanswers hrest hmem ((Cluster.fits_policy ns _ o).2 hplace)
        refine ⟨o, .policy hwinner hq hread hsaw, ?_⟩
        cases hw
        exact Rewrite.changes_of_saw rfl ha hstart hsaw hversion.symm
          (Json.sameBut_withMember (show "status" ≠ "metadata" by decide) _ _)

/-- All that a run of the grants controller does keeps the order. -/
theorem Namespace.keepsOrder_of_runs {n : Namespace} {t : List Event}
    (h : Runs answer (n.reconcile interval) s t r s') : ∀ e ∈ t, e.1.KeepsOrder := by
  intro e he
  obtain ⟨first, rest, rfl⟩ := List.append_of_mem he
  have htakes : Takes first e.1 := (n.reconcile_takes interval).of_trace h.trace
  exact htakes.keepsOrder

theorem Namespace.exists_changes {n : Namespace} (hstart : start.Versioned)
    (hcanonical : start.Canonical)
    (h : Runs answer (n.reconcile interval) s (before ++ ⟨.api c, .ok a⟩ :: after) r s')
    (hw : c.rewrite? = some w) (hserves : start.Serves Cluster.Write before s₁)
    (ha : s₁.answer c = (.ok a, s₂)) :
    ∃ o, ComputedFrom now j start before s₁ .grants c o ∧ w.Changes o s₁ s₂ := by
  have htakes : Takes before (.api c) := (n.reconcile_takes interval).of_trace h.trace
  have hordered := keepsOrder_of_runs h
  cases htakes with
  | keep hkeeps => exact (Rewrite.not_keepsCluster hw hkeeps).elim
  | createRole | createBinding | deleteBinding => cases hw
  | @patchRules scope name found hasked rules =>
    obtain ⟨first, rest, rfl⟩ := List.append_of_mem hasked
    obtain ⟨o, ho, hsaw, hversion⟩ := hserves.exists_saw_version (Role.codec_versioned _)
      (fun e he => hordered e (by simp [he])) hcanonical
      fun _ _ hanswers => congrArg Prod.fst hanswers.eq_of_ok
    refine ⟨_, .role rules ho hsaw, ?_⟩
    cases hw
    exact Rewrite.changes_of_saw rfl ha hstart hsaw hversion
      (Json.sameBut_withMember (show "rules" ≠ "metadata" by decide) _ _)
  | @patchSubjects scope name found hasked subjects =>
    obtain ⟨first, rest, rfl⟩ := List.append_of_mem hasked
    obtain ⟨o, ho, hsaw, hversion⟩ := hserves.exists_saw_version (RoleBinding.codec_versioned _)
      (fun e he => hordered e (by simp [he])) hcanonical
      fun _ _ hanswers => congrArg Prod.fst hanswers.eq_of_ok
    refine ⟨_, .binding subjects ho hsaw, ?_⟩
    cases hw
    exact Rewrite.changes_of_saw rfl ha hstart hsaw hversion
      (Json.sameBut_withMember (show "subjects" ≠ "metadata" by decide) _ _)

end Runs

/-- Whatever others write between the calls of a run: what it changes and can name the version of is
the object that the change was computed from, as this is stored by then, and only the member that is
meant changes. -/
theorem no_update_lost {σ : Type} (answer : (c : Step) → σ → c.Reply × σ) (interval : Duration)
    (now : Instant) (id : ControllerId) (m : Dict Json) (x : Controller Action)
    (hx : id.reconcile interval now (.object m) = .ok x) (start : Cluster)
    (hstart : start.Versioned) (hcanonical : start.Canonical)
    (hm : .object m ∈ start.objects id.collection) (s s' : σ) (r : Except Error Action)
    (before after : List Event) (c : Call) (a : c.Answer)
    (h : Runs answer x s (before ++ ⟨.api c, .ok a⟩ :: after) r s') (hc : c.NamesVersion)
    (s₁ s₂ : Cluster) (hserves : start.Serves Cluster.Write before s₁)
    (ha : s₁.answer c = (.ok a, s₂)) :
    ∃ w o, c.rewrite? = some w ∧ ComputedFrom now (.object m) start before s₁ id c o ∧
      w.Changes o s₁ s₂ := by
  obtain ⟨w, hw⟩ := Rewrite.exists_of_ok hc ha
  cases id with
  | facade k =>
    obtain ⟨f, hread, hf⟩ := Except.bind_eq_ok.1 hx
    obtain rfl := Except.ok.inj hf
    obtain ⟨o, hcomputed, hchanges⟩ :=
      Facade.exists_changes hread hm hstart hcanonical h hw hserves ha
    exact ⟨w, o, hw, hcomputed, hchanges⟩
  | policy =>
    obtain ⟨p, -, hp⟩ := Except.bind_eq_ok.1 hx
    obtain rfl := Except.ok.inj hp
    obtain ⟨o, hcomputed, hchanges⟩ := Policy.exists_changes hstart hcanonical h hw hserves ha
    exact ⟨w, o, hw, hcomputed, hchanges⟩
  | grants =>
    obtain ⟨n, -, hn⟩ := Except.bind_eq_ok.1 hx
    obtain rfl := Except.ok.inj hn
    obtain ⟨o, hcomputed, hchanges⟩ := Namespace.exists_changes hstart hcanonical h hw hserves ha
    exact ⟨w, o, hw, hcomputed, hchanges⟩

/-- A backend was replaced by one with this metadata. -/
def Event.replacedBackend (metadata : Option Json) : Event → Bool
  | ⟨.api (.replaceBackend _ _ b), .ok _⟩ =>
    (GenericObject.codec.encode b).get? "metadata" = metadata
  | _ => false

/-- Before each call of a run somebody touches the namespace. The run finds that the backend of an
inventory has another spec, and replaces the backend that it found, with what is recorded there of
those who manage its fields. -/
theorem no_update_lost_among_others :
    let m : Dict Json :=
      [("metadata", .object [("name", .string "orders"), ("namespace", .string "team"),
          ("resourceVersion", .string "3"), ("uid", .string "1")]),
        ("spec", .object [("credentialsRef", .object [("name", .string "secret")]),
          ("providerRef", .object [("name", .string "crunchy")])])]
    let owner : Json := .object [("apiVersion", .string planeApiVersion), ("controller", .bool true),
      ("kind", .string "DBaaSInventory"), ("name", .string "orders"), ("uid", .string "1")]
    let managed : Json := .object [("fieldsType", .string "FieldsV1"),
      ("fieldsV1", .object [("f:spec", .object [])]), ("manager", .string "crunchy"),
      ("time", .string "2024-05-01T10:00:00Z")]
    let stored : Json := .object
      [("apiVersion", .string planeApiVersion), ("kind", .string "Vault"),
        ("metadata", .object [("managedFields", .array [managed]), ("name", .string "orders"),
          ("namespace", .string "team"), ("ownerReferences", .array [owner]),
          ("resourceVersion", .string "7"), ("selfLink", .string "/vaults/orders")]),
        ("payload", .string "kept"), ("spec", .object [])]
    let team : Json := .object
      [("metadata", .object [("name", .string "team"), ("resourceVersion", .string "5")])]
    let p : Provider := ⟨{ name := some "crunchy" },
      ⟨⟨"crunchy", none, none⟩, none, "Vault", "Link", "Base", [], []⟩⟩
    let s : System :=
      { cluster :=
          { objects := fun c =>
              if c = .facades .inventory then [.object m]
              else if c = .backends then [stored]
              else if c = .namespaces then [team] else []
            version := 7 }
        memory := { providers := some ⟨[(p.metadata.ref, p)]⟩ } }
    let touched (s : Cluster) : Cluster :=
      (s.update { collection := .namespaces, place := ⟨none, "team"⟩ } none fun j => j).2
    let answer (c : Step) (s : System) := System.answer c { s with cluster := touched s.cluster }
    ∃ x before after resource ns b a r s' s₁ s₂ w o,
      (ControllerId.facade .inventory).reconcile (.ofSeconds 60) ⟨0, 0⟩ (.object m) = .ok x ∧
        Runs answer x s (before ++ ⟨.api (.replaceBackend resource ns b), .ok a⟩ :: after) r s' ∧
        s.cluster.Serves Cluster.Write before s₁ ∧
        s₁.answer (.replaceBackend resource ns b) = (.ok a, s₂) ∧
        Call.rewrite? (.replaceBackend resource ns b) = some w ∧
        ComputedFrom ⟨0, 0⟩ (.object m) s.cluster before s₁ (.facade .inventory)
          (.replaceBackend resource ns b) o ∧ w.Changes o s₁ s₂ ∧
        (GenericObject.codec.encode b).get? "metadata" = stored.get? "metadata" := by
  intro m owner managed stored team p s touched answer
  let f : Facade .inventory :=
    ⟨⟨{ name := some "orders", ns := some "team", uid := some "1", resourceVersion := some "3" },
      ⟨⟨"crunchy"⟩, ⟨"secret"⟩, none, ⟨none, none, none⟩⟩⟩, none⟩
  have hx : (ControllerId.facade .inventory).reconcile (.ofSeconds 60) ⟨0, 0⟩ (.object m) =
      .ok (f.reconcile (.ofSeconds 60) ⟨0, 0⟩) := rfl
  have hobjects {c : Collection} {j : Json} (hj : j ∈ s.cluster.objects c) :
      c = .facades .inventory ∧ j = .object m ∨ c = .backends ∧ j = stored ∨
        c = .namespaces ∧ j = team := by
    simp only [s] at hj
    split at hj
    · next hc => exact .inl ⟨hc, List.mem_singleton.1 hj⟩
    · split at hj
      · next hc => exact .inr (.inl ⟨hc, List.mem_singleton.1 hj⟩)
      · split at hj
        · next hc => exact .inr (.inr ⟨hc, List.mem_singleton.1 hj⟩)
        · cases hj
  have hout (n : Nat) (hn : n ≤ 7) : Cluster.GivenOut 7 (toString n) := fun k hk h => by
    have := Cluster.toString_inj h
    omega
  have hstart : s.cluster.Versioned := by
    refine ⟨fun c j hj => ?_, fun t _ i hi j hj _ _ _ => ?_⟩
    · rcases hobjects hj with ⟨-, rfl⟩ | ⟨-, rfl⟩ | ⟨-, rfl⟩
      · exact ⟨_, rfl, hout 3 (by decide)⟩
      · exact ⟨_, rfl, hout 7 (by decide)⟩
      · exact ⟨_, rfl, hout 5 (by decide)⟩
    · rcases hobjects hi with ⟨hc, rfl⟩ | ⟨hc, rfl⟩ | ⟨hc, rfl⟩ <;>
        rcases hobjects hj with ⟨hc', rfl⟩ | ⟨hc', rfl⟩ | ⟨hc', rfl⟩ <;>
        first
          | rfl
          | cases hc.symm.trans hc'
  have hcanonical : s.cluster.Canonical := by
    intro c j hj
    rcases hobjects hj with ⟨-, rfl⟩ | ⟨-, rfl⟩ | ⟨-, rfl⟩ <;>
      simp only [m, stored, owner, managed, team, Json.Canonical, Json.CanonicalMembers,
        Json.CanonicalItems, Dict.Sorted] <;>
      decide
  have hwrite (s : Cluster) : s.Write (touched s) :=
    ⟨s.advances_update _ _ _, fun hs => hs.update _ _ fun _ hj => hj⟩
  have hrun := Runs.refl answer (f.reconcile (.ofSeconds 60) ⟨0, 0⟩) s
  have hstep (c : Step) (s : System) : ∃ s₁, Cluster.Serves Cluster.Write s.cluster [] s₁ ∧
      s₁.Answers ⟨c, (answer c s).1⟩ (answer c s).2.cluster :=
    ⟨_, .others (hwrite s.cluster) (.done _),
      System.cluster_answers c ⟨touched s.cluster, s.memory⟩⟩
  have hserves := Cluster.serves_of_runs hstep hrun
  have hreplaces : (trace answer (f.reconcile (.ofSeconds 60) ⟨0, 0⟩) s).any
      (Event.replacedBackend (stored.get? "metadata")) = true := by decide +kernel +zetaReduce
  obtain ⟨e, he, hreplaced⟩ := List.any_eq_true.1 hreplaces
  obtain ⟨resource, ns, b, a, rfl, hmetadata⟩ : ∃ resource ns b a,
      e = ⟨.api (.replaceBackend resource ns b), .ok a⟩ ∧
        (GenericObject.codec.encode b).get? "metadata" = stored.get? "metadata" := by
    unfold Event.replacedBackend at hreplaced
    split at hreplaced
    · exact ⟨_, _, _, _, rfl, of_decide_eq_true hreplaced⟩
    · cases hreplaced
  obtain ⟨before, after, ht⟩ := List.append_of_mem he
  rw [ht] at hrun hserves
  obtain ⟨s₁, s₂, hbefore, hanswers, -⟩ := hserves.append_cons_inv
  obtain ⟨w, o, hw, hcomputed, hchanges⟩ := no_update_lost answer (.ofSeconds 60) ⟨0, 0⟩
    (.facade .inventory) m _ hx s.cluster hstart hcanonical (List.mem_singleton_self _)
    _ _ _ _ _ _ _ hrun trivial s₁ s₂ hbefore hanswers.eq_of_ok
  exact ⟨_, before, after, resource, ns, b, a, _, _, s₁, s₂, w, o, hx, hrun, hbefore,
    hanswers.eq_of_ok, hw, hcomputed, hchanges, hmetadata⟩

end ControlPlane
