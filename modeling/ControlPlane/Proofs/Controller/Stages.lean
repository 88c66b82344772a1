import ControlPlane.Proofs.Cluster.Backends
import ControlPlane.Proofs.Controller.Facade
import ControlPlane.Proofs.History

/-!
# The stages of a run

Before a run of a facade asks for its backend it only looks things up. Where the provider is missing
or the inventory does not admit the facade, this is recorded and the run ends. What is to be shown
of a whole run is so shown of three things: of a lookup, of a condition that is recorded, and of
what is done once the kind of the backend is known. Of bringing the backend up to date it is shown
case by case, over what the run finds.
-/

namespace ControlPlane

open Controller

/-- The step is one of those by which a run finds out of which kind its backend is. -/
def Step.Prepares : Step → Prop
  | .api .listProviders | .api (.getInventory _ _) | .api (.listPolicies _)
  | .api (.namespaceLabels _) | .api (.discover _ _)
  | .memory .seenProviders | .memory (.knownKind _) | .memory (.learnKind _ _)
  | .memory (.ensureWatch _ _ _) => True
  | _ => False

namespace Step.Prepares

variable {c : Step}

theorem keepsCluster (h : c.Prepares) : c.KeepsCluster := by
  unfold Prepares at h
  split at h <;> first
    | exact trivial
    | exact h.elim

theorem sparesBackends (h : c.Prepares) : c.SparesBackends := by
  unfold Prepares at h
  split at h <;> first
    | exact trivial
    | exact h.elim

end Step.Prepares

theorem Step.IsShared.prepares {k : FacadeKind} {c : Step} (h : c.IsShared k) : c.Prepares := by
  unfold IsShared at h
  split at h <;> first
    | exact trivial
    | exact h.elim

theorem GateRead.prepares {a : Admission} {c : Step} (h : GateRead a c) : c.Prepares := by
  cases h <;> exact trivial

/-- What the step remembers of a kind was found before, for the version and the name that make its
key. -/
def Step.LearnsFound (h : List Event) : Step → Prop
  | .memory (.learnKind key r) => ∃ version kind, key = ApiResource.typeKey version kind ∧
      ⟨.api (.discover version kind), .ok (some r)⟩ ∈ h
  | _ => True

theorem Step.IsLookup.learnsFound {c : Step} (hc : c.IsLookup) (h : List Event) :
    c.LearnsFound h := by
  unfold IsLookup at hc
  split at hc <;> first
    | exact trivial
    | exact hc.elim

namespace Controller

/-- Nothing is called but to discover the kind. -/
theorem backendResource_only {P : Step → Prop} (hknown : ∀ key, P (.memory (.knownKind key)))
    (hlearn : ∀ key resource, P (.memory (.learnKind key resource)))
    (hdiscover : ∀ version kind, P (.api (.discover version kind))) (p : Provider)
    (k : FacadeKind) : Only P (backendResource p k) := by
  unfold backendResource
  refine .ite (.bind .throw fun _ => ?_) ?_
  all_goals
    refine .bind (.memory (hknown _)) fun known => ?_
    cases known with
    | some r => exact .pure
    | none =>
      refine .bind (.api (hdiscover _ _)) fun served => ?_
      cases served with
      | some r => exact .bind (.memory (hlearn _ _)) fun _ => .pure
      | none => exact .pure

end Controller

namespace Facade

variable {k : FacadeKind} {f : Facade k} {h : List Event} {interval : Duration} {now : Instant}
  {P : List Event → Step → Prop} {Q : Except Error Action → List Event → Prop}
  {I : List Event → Prop}

/-- What makes `Q` hold of the result and the events of every run of the facade that starts with
`I`: lookups keep `I`, and wherever `I` holds the run may end, or record a condition and then end,
or provide for the backend. -/
structure Stages (f : Facade k) (interval : Duration) (now : Instant)
    (P : List Event → Step → Prop) (Q : Except Error Action → List Event → Prop)
    (I : List Event → Prop) : Prop where
  lookup : ∀ h c, I h → c.Prepares → c.LearnsFound h → P h c ∧ ∀ r, I (h ++ [⟨c, r⟩])
  stop : ∀ h r, I h → Q r h
  record : ∀ h c, I h → Ensures P (fun _ h' => ∀ r, Q r h') (f.recordCondition c) h
  provision : ∀ h resource ns, f.metadata.ns = some ns → I h →
    Ensures P Q (f.provision interval now resource ns) h

/-- The run goes on with `I`, or it has ended in an error. -/
def Onward (Q : Except Error Action → List Event → Prop) (I : List Event → Prop) {α : Type} :
    Except Error α → List Event → Prop
  | .ok _, h => I h
  | .error e, h => Q (.error e) h

namespace Stages

theorem ensures_of_only (hs : f.Stages interval now P Q I) {α : Type} {x : Controller α}
    (hx : Only (fun c => c.Prepares ∧ c.IsLookup) x) (hI : I h) :
    Ensures P (fun _ h' => I h') x h :=
  Ensures.of_invariant hx hI fun h c hI hc => hs.lookup h c hI hc.1 (hc.2.learnsFound h)

theorem onward (hs : f.Stages interval now P Q I) {α : Type} {x : Controller α}
    (hx : Ensures P (fun _ h' => I h') x h) : Ensures P (Onward Q I) x h := by
  refine hx.mono fun r h' hI => ?_
  cases r with
  | ok a => exact hI
  | error e => exact hs.stop h' _ hI

/-- What is learnt of a kind is what was found. -/
theorem resource (hs : f.Stages interval now P Q I) (hI : I h) (p : Provider) :
    Ensures P (fun _ h' => I h') (backendResource p k) h := by
  unfold backendResource
  refine .ite (fun _ => .throw hI) fun _ => ?_
  have hknown (key : String) := hs.lookup h (.memory (.knownKind key)) hI trivial trivial
  have hask : Ensures P (fun _ h' => I h')
      (memory (.knownKind (ApiResource.typeKey p.backendApiVersion (p.kindFor k)))) h :=
    .memory (hknown _).1 (hknown _).2
  refine hask.bind (fun _ _ _ hI => hI) fun known h₁ _ hI => ?_
  cases known with
  | some r => exact .pure hI
  | none =>
    have hdiscover (version kind : String) :=
      hs.lookup h₁ (.api (.discover version kind)) hI trivial trivial
    have hfind : Ensures P (fun r h' => I h' ∧
        ⟨.api (.discover p.backendApiVersion (p.kindFor k)), r⟩ ∈ h')
        (api (.discover p.backendApiVersion (p.kindFor k))) h₁ :=
      .api (hdiscover _ _).1 fun r => ⟨(hdiscover _ _).2 r, by simp⟩
    refine hfind.bind (fun _ _ _ hI => hI.1) fun served h₂ _ hserved => ?_
    obtain ⟨hI, hfound⟩ := hserved
    cases served with
    | none => exact .pure hI
    | some r =>
      have hlearn := hs.lookup h₂ (.memory (.learnKind _ r)) hI trivial ⟨_, _, rfl, hfound⟩
      have hremember : Ensures P (fun _ h' => I h') (memory (.learnKind _ r)) h₂ :=
        .memory hlearn.1 hlearn.2
      exact hremember.bind (fun _ _ _ hI => hI) fun _ _ _ hI => .pure hI

/-- A missing provider is recorded. -/
theorem provider (hs : f.Stages interval now P Q I) (hI : I h) (name : String) :
    Ensures P (Onward Q I) (Facade.provider now f name) h := by
  have hfind : Ensures P (fun _ h' => I h') (Controller.provider name f.key) h :=
    hs.ensures_of_only (Program.Only.mono (provider_only (k := k) name f.key)
      fun _ hc => ⟨hc.prepares, hc.isLookup⟩) hI
  refine hfind.tryCatch (fun _ _ _ hI => hI) fun e h' _ hI => ?_
  cases e with
  | providerNotFound provider resource =>
    exact (hs.record h' _ hI).bind (fun _ _ _ hQ => hQ _) fun _ _ _ hQ => .throw (hQ _)
  | _ => exact .throw (hs.stop h' _ hI)

theorem proceed (hs : f.Stages interval now P Q I) (hI : I h) {ns : String}
    (hns : f.metadata.ns = some ns) (name : String) :
    Ensures P Q (f.proceed interval now ns name) h := by
  rw [proceed_eq]
  refine (hs.provider hI name).bind (fun _ _ _ hQ => hQ) fun p h₁ _ hI => ?_
  refine (hs.onward (hs.resource hI p)).bind (fun _ _ _ hQ => hQ) fun resource h₂ _ hI => ?_
  have hensure := hs.lookup h₂ (.memory (.ensureWatch k p.registeredName resource)) hI trivial
    trivial
  have hwatch : Ensures P (fun _ h' => I h')
      (memory (.ensureWatch k p.registeredName resource)) h₂ := .memory hensure.1 hensure.2
  refine (hs.onward hwatch).bind (fun _ _ _ hQ => hQ) fun _ h₃ _ hI => ?_
  exact hs.provision h₃ resource ns hns hI

/-- What the stages are shown to do makes up the run. -/
theorem reconcile (hs : f.Stages interval now P Q I) (hI : I []) :
    Ensures P Q (f.reconcile interval now) [] := by
  refine f.reconcile_cases (motive := fun x => Ensures P Q x []) interval now
    (.throw (hs.stop [] _ hI)) (fun ns hns name => hs.proceed hI hns name) fun a hns => ?_
  have hgate : Ensures P (fun _ h' => I h') (gate a) [] :=
    hs.ensures_of_only (Program.Only.mono (gate_only a) fun _ hc => ⟨hc.prepares, hc.isLookup⟩) hI
  refine (hs.onward hgate).bind (fun _ _ _ hQ => hQ) fun verdict h' _ hI => ?_
  cases verdict with
  | ok name => exact hs.proceed hI hns name
  | error o =>
    exact (hs.record h' _ hI).bind (fun _ _ _ hQ => hQ _) fun _ _ _ hQ => .lift (hQ _)

end Stages

section Only

variable {A : Step → Prop}

theorem recordCondition_only (hstatus : ∀ x, A (.api (f.statusCall x))) {c : Condition} :
    Only A (f.recordCondition c) := by
  unfold recordCondition
  split
  exact .ite (.bind (.unlessConflict (.api (hstatus _))) fun _ => .pure) .pure

theorem report_only (hstatus : ∀ x, A (.api (f.statusCall x)))
    (hforget : A (.memory (.forgetFailures (.facade k) f.key))) {x : Status k.Details} :
    Only A (f.report interval x) := by
  have hrest : Only A (do
      memory (.forgetFailures (.facade k) f.key)
      return .requeue interval : Controller Action) := .bind (.memory hforget) fun _ => .pure
  exact .ite (.bind (.unlessConflict (.api (hstatus _))) fun _ => .ite .pure hrest) hrest

end Only

/-- The events once the backend has been asked for. -/
abbrev asked (f : Facade k) (resource : ApiResource) (ns : String) (h : List Event)
    (r : Except Error (Option Backend)) : List Event :=
  h ++ [⟨.api (.getBackend resource ns f.metadata.anyName), r⟩]

/-- The ways of bringing the backend up to date. -/
theorem syncBackend_ensures {R : Except Error (Option Backend) → List Event → Prop}
    {resource : ApiResource} {ns : String}
    (ask : P h (.api (.getBackend resource ns f.metadata.anyName)))
    (unread : ∀ e, R (.error e) (f.asked resource ns h (.error e)))
    (unnamed : ∀ e, R (.error e) (f.asked resource ns h (.ok none)))
    (missing : ∀ b, f.newBackend resource f.specJson = .ok b →
      Ensures P R (unlessConflict (api (.createBackend resource ns b)))
        (f.asked resource ns h (.ok none)))
    (refused : ∀ b e, f.checkOwner b = .error e →
      R (.error e) (f.asked resource ns h (.ok (some b))))
    (current : ∀ b, f.checkOwner b = .ok () → b.hasSpec f.specJson = true →
      R (.ok (some b)) (f.asked resource ns h (.ok (some b))))
    (drifted : ∀ b, f.checkOwner b = .ok () → b.hasSpec f.specJson = false →
      Ensures P R (unlessConflict (api (.replaceBackend resource ns (b.withSpec f.specJson))))
        (f.asked resource ns h (.ok (some b)))) :
    Ensures P R (f.syncBackend resource ns) h := by
  have hget : Ensures P (fun r h' => h' = f.asked resource ns h r)
      (api (.getBackend resource ns f.metadata.anyName)) h := .api ask fun _ => rfl
  have hlift {α : Type} (r : Except Error α) (h : List Event) :
      Ensures P (fun r' h' => r' = r ∧ h' = h) (liftM r) h := .lift ⟨rfl, rfl⟩
  refine hget.bind ?_ ?_
  · rintro e _ - rfl
    exact unread e
  · rintro found _ - rfl
    cases found with
    | none =>
      refine (hlift (f.newBackend resource f.specJson) _).bind ?_ ?_
      · rintro e _ - ⟨-, rfl⟩
        exact unnamed e
      · rintro b _ - ⟨hb, rfl⟩
        exact missing b hb.symm
    | some b =>
      refine (hlift (f.checkOwner b) _).bind ?_ ?_
      · rintro e _ - ⟨he, rfl⟩
        exact refused b e he.symm
      · rintro _ _ - ⟨hb, rfl⟩
        refine .ite (fun hspec => .pure (current b hb.symm hspec)) fun hspec => ?_
        exact drifted b hb.symm (Bool.eq_false_iff.2 hspec)

/-- What is done once the backend is up to date, or is not. -/
theorem provision_ensures {R : Except Error (Option Backend) → List Event → Prop}
    {resource : ApiResource} {ns : String} (sync : Ensures P R (f.syncBackend resource ns) h)
    (failed : ∀ e h', R (.error e) h' → Q (.error e) h')
    (contested : ∀ h', R (.ok none) h' → Q (.ok (.requeue conflictPause)) h')
    (unreadable : ∀ b e h', R (.ok (some b)) h' → f.deriveStatus now b = .error e →
      Q (.error e) h')
    (derived : ∀ b x h', R (.ok (some b)) h' → f.deriveStatus now b = .ok x →
      Ensures P Q (f.report interval x) h') :
    Ensures P Q (f.provision interval now resource ns) h := by
  refine sync.bind (fun e h' _ hR => failed e h' hR) fun found h' _ hR => ?_
  cases found with
  | none => exact .pure (contested h' hR)
  | some b =>
    have hderive : Ensures P (fun r h'' => r = f.deriveStatus now b ∧ h'' = h')
        (liftM (f.deriveStatus now b)) h' := .lift ⟨rfl, rfl⟩
    refine hderive.bind ?_ ?_
    · rintro e _ - ⟨he, rfl⟩
      exact unreadable b e _ hR he.symm
    · rintro x _ - ⟨hx, rfl⟩
      exact derived b x _ hR hx.symm

end Facade

end ControlPlane
