import ControlPlane.Proofs.Facade.Stored

/-!
# Reconciling a facade again

Where a run has written all that it wanted to, the next one has nothing to write: it finds the
backend with the spec that it wants, derives the status that is there, and comes to the same result,
also where that is an error. `Facade.Settled` says so of each part of the run.
-/

namespace ControlPlane

open Controller

variable {k : FacadeKind} {s s' : System} {t : List Event}

namespace Controller

/-- How it is resolved in a system how the backends of a provider are served: it is remembered, or
found and then remembered, or guessed, unless the provider registers no such kind. -/
inductive Resolves (p : Provider) (k : FacadeKind) (s : System) :
    Except Error ApiResource → System → Prop
  | unregistered (hkind : (p.kindFor k).isEmpty = true) : Resolves p k s
    (.error (.validation p.registeredName s!"provider registers no {k.role} kind")) s
  | known (resource : ApiResource) (hkind : (p.kindFor k).isEmpty = false)
    (hkey : s.memory.kinds.get? (ApiResource.typeKey p.backendApiVersion (p.kindFor k)) =
      some resource) : Resolves p k s (.ok resource) s
  | found (resource : ApiResource) (hkind : (p.kindFor k).isEmpty = false)
    (hserved : (s.cluster.answer (.discover p.backendApiVersion (p.kindFor k))).1 =
      .ok (some resource)) :
    Resolves p k s (.ok resource) (System.answer (.memory (.learnKind
      (ApiResource.typeKey p.backendApiVersion (p.kindFor k)) resource)) s).2
  | guessed (hkind : (p.kindFor k).isEmpty = false)
    (hkey : s.memory.kinds.get? (ApiResource.typeKey p.backendApiVersion (p.kindFor k)) = none)
    (hserved : (s.cluster.answer (.discover p.backendApiVersion (p.kindFor k))).1 = .ok none) :
    Resolves p k s (.ok (.ofKind p.backendApiVersion (p.kindFor k))) s

theorem resolves_of_runs {p : Provider} {r : Except Error ApiResource}
    (h : Runs System.answer (backendResource p k) s t r s') : Resolves p k s r s' := by
  unfold backendResource at h
  cases hkind : (p.kindFor k).isEmpty with
  | true =>
    simp only [hkind, if_true] at h
    obtain ⟨-, rfl, rfl⟩ := h.unique (Runs.throw.bind_error)
    exact .unregistered hkind
  | false =>
    simp only [hkind, Bool.false_eq_true, if_false] at h
    obtain ⟨_, h, -⟩ := h.memory_bind_inv
    simp only [System.answer, Memory.answer] at h
    cases hkey : s.memory.kinds.get? (ApiResource.typeKey p.backendApiVersion (p.kindFor k)) with
    | some resource =>
      rw [hkey] at h
      obtain ⟨-, rfl, rfl⟩ := h.unique .pure
      exact .known resource hkind hkey
    | none =>
      rw [hkey] at h
      have hdiscover : Runs System.answer (api (.discover p.backendApiVersion (p.kindFor k))) s _
        (.ok (s.cluster.served.find? _)) s := .api rfl
      cases hserved : s.cluster.served.find? fun r =>
          decide (r.apiVersion = p.backendApiVersion ∧ r.kind = p.kindFor k) with
      | some resource =>
        rw [hserved] at hdiscover
        obtain ⟨-, rfl, rfl⟩ := h.unique
          (hdiscover.bind ((Runs.memory (c := .learnKind _ resource) rfl).bind .pure))
        exact .found resource hkind (congrArg Except.ok hserved)
      | none =>
        rw [hserved] at hdiscover
        obtain ⟨-, rfl, rfl⟩ := h.unique (hdiscover.bind .pure)
        exact .guessed hkind hkey (congrArg Except.ok hserved)

/-- What is remembered is not asked for. -/
theorem observes_known {p : Provider} {resource : ApiResource}
    (hkind : (p.kindFor k).isEmpty = false)
    (hkey : s.memory.kinds.get? (ApiResource.typeKey p.backendApiVersion (p.kindFor k)) =
      some resource) : Observes (backendResource p k) s (.ok resource) := by
  unfold backendResource
  simp only [hkind, Bool.false_eq_true, if_false]
  exact .bind (.memory (c := .knownKind _) trivial hkey) (.pure _ s)

/-- The kind of a backend is found again. -/
theorem backendResource_again {p : Provider} {r : Except Error ApiResource}
    (h : Runs System.answer (backendResource p k) s t r s') :
    System.Agrees k s s' ∧ s'.cluster = s.cluster ∧
      ∀ s'', System.Agrees k s s'' → s''.memory.kinds = s'.memory.kinds →
        Observes (backendResource p k) s'' r := by
  cases resolves_of_runs h with
  | unregistered hkind =>
    refine ⟨.refl s, rfl, fun s'' _ _ => ?_⟩
    unfold backendResource
    simp only [hkind, if_true]
    exact (Observes.throw _ s'').bind_error
  | known resource hkind hkey =>
    exact ⟨.refl s, rfl, fun s'' _ hkinds => observes_known hkind (hkinds ▸ hkey)⟩
  | found resource hkind _ =>
    refine ⟨⟨rfl, rfl, fun _ _ _ => rfl⟩, rfl, fun s'' _ hkinds => observes_known hkind ?_⟩
    rw [hkinds]
    exact Dict.get?_insert_self ..
  | guessed hkind hkey hserved =>
    refine ⟨.refl s, rfl, fun s'' hs hkinds => ?_⟩
    have hunknown : Observes (memory (.knownKind
        (ApiResource.typeKey p.backendApiVersion (p.kindFor k)))) s'' (.ok none) :=
      .memory (c := .knownKind _) trivial ((congrArg (Dict.get? · _) hkinds).trans hkey)
    have hnone : Observes (api (.discover p.backendApiVersion (p.kindFor k))) s'' (.ok none) :=
      .api (c := .discover _ _) trivial ((hs.answer (c := .api (.discover _ _)) trivial).trans hserved)
    unfold backendResource
    simp only [hkind, Bool.false_eq_true, if_false]
    exact hunknown.bind (hnone.bind (.pure _ s''))

end Controller

namespace Facade

variable {f : Facade k} {m : Dict Json} {ns : String} {now : Instant}

/-- The facade is stored, perhaps with another version and another status, and at any time what is
run comes to `r` and writes nothing. -/
def Settled {α : Type} (x : Instant → Facade k → Controller α) (f : Facade k) (s : System)
    (r : Except Error α) : Prop :=
  ∃ version status m, (f.updated version status).Stored s.cluster m ∧
    ∀ now, Quiet (x now (f.updated version status)) s r

/-! ## Conditions -/

/-- A condition that was recorded is there, and is not recorded again. -/
theorem recordCondition_again (hf : f.Stored s.cluster m) (hns : f.metadata.ns = some ns)
    {c : Condition} (hc : c.Valid) {r : Except Error Unit}
    (h : Runs System.answer (f.recordCondition c) s t r s') (ht : ∀ e ∈ t, Event.Succeeded e) :
    r = .ok () ∧ System.Agrees k s s' ∧
      ∃ version status m', (f.updated version status).Stored s'.cluster m' ∧ ∀ time s'',
        Observes ((f.updated version status).recordCondition { c with lastTransitionTime := time })
          s'' (.ok ()) := by
  have hagain := f.currentStatus.setCondition_again c
  have hobserves (f : Facade k) (c : Condition) (h : (f.currentStatus.setCondition c).1 = false)
      (s : System) : Observes (f.recordCondition c) s (.ok ()) :=
    ⟨[], runs_recordCondition_unchanged h s, fun _ he => nomatch he⟩
  cases hchanged : (f.currentStatus.setCondition c).1 with
  | false =>
    obtain ⟨-, rfl, rfl⟩ := h.unique (runs_recordCondition_unchanged hchanged s)
    rw [Status.setCondition_eq_iff.2 hchanged] at hagain
    exact ⟨rfl, .refl s', _, f.status, m, hf,
      fun time s'' => hobserves f _ (hagain time) s''⟩
  | true =>
    rcases hwrite : System.answer (.api (f.statusCall (f.currentStatus.setCondition c).2)) s with
      ⟨result, s₁⟩
    obtain ⟨rfl, rfl, rfl⟩ := h.unique (runs_recordCondition_changed hchanged hwrite)
    obtain ⟨_, rfl⟩ := ht _ (List.mem_singleton_self _)
    obtain ⟨v, m', hstored, hagrees, -⟩ := hf.write hns (hf.validStatus.setCondition hc) hwrite
    exact ⟨rfl, hagrees, _, _, m', hstored,
      fun time s'' => hobserves (f.updated _ (some _)) _ (hagain time) s''⟩

theorem valid_ready (hnow : now.Valid) (status : ConditionStatus) (reason message : String) :
    (Condition.ready now status reason message).Valid := by
  intro t ht
  obtain rfl := Option.some.inj ht
  exact hnow

/-! ## Providers -/

theorem provider_only (name key : String) :
    Only (Step.IsShared k) (Controller.provider name key) := by
  refine .bind (.bind (.memory trivial) fun seen => .ite (.api trivial) .pure) ?_
  intro providers
  cases registered? providers name with
  | some p => exact .pure
  | none => exact .throw

/-- A provider that was found is found again, and one that was not is not found again. -/
theorem provider_again (hf : f.Stored s.cluster m) (hns : f.metadata.ns = some ns)
    (hnow : now.Valid) {name : String} {r : Except Error Provider}
    (h : Runs System.answer (Facade.provider now f name) s t r s')
    (ht : ∀ e ∈ t, Event.Succeeded e) :
    (∃ p, r = .ok p ∧ s' = s ∧ ∀ s'', System.Agrees k s s'' → ∀ version status now,
      Observes (Facade.provider now (f.updated version status) name) s'' (.ok p)) ∨
    ∃ e, r = .error e ∧ System.Agrees k s s' ∧
      Settled (fun now f => Facade.provider now f name) f s' (.error e) := by
  have honly := provider_only (k := k) name f.key
  rcases h.tryCatch_inv with ⟨p, hfound, rfl⟩ | ⟨e, t₁, s₁, t₂, hmissing, hhandle, rfl⟩
  · refine .inl ⟨p, rfl, (honly.observes (.refl s) hfound).1, ?_⟩
    intro s'' hs version status now
    exact (honly.observes hs hfound).2.tryCatch
  · obtain ⟨rfl, -⟩ := honly.observes (.refl s) hmissing
    have hagain {s'' : System} (hs : System.Agrees k s₁ s'') :
      Observes (Controller.provider name f.key) s'' (.error e) := (honly.observes hs hmissing).2
    refine .inr ⟨e, ?_⟩
    cases e with
    | providerNotFound provider resource =>
      have hc := valid_ready hnow .fails Reason.providerNotFound
        (Error.providerNotFound provider resource).message
      rcases hhandle.bind_inv with ⟨e, hrecord, rfl⟩ | ⟨_, t₃, s₃, t₄, hrecord, hthrow, rfl⟩
      · obtain ⟨h, -⟩ := recordCondition_again hf hns hc hrecord fun e he =>
          ht e (List.mem_append_right _ he)
        cases h
      · obtain ⟨-, hagrees, version, status, m', hstored, hobserves⟩ :=
          recordCondition_again hf hns hc hrecord fun e he =>
            ht e (List.mem_append_right _ (List.mem_append_left _ he))
        obtain ⟨-, rfl, rfl⟩ := hthrow.unique .throw
        refine ⟨rfl, hagrees, version, status, m', hstored, fun now₁ => Observes.quiet ?_⟩
        exact (hagain hagrees).tryCatch_error
          ((hobserves (some now₁) s').bind (.throw _ s'))
    | _ =>
      obtain ⟨-, rfl, rfl⟩ := hhandle.unique .throw
      refine ⟨rfl, .refl s', f.metadata.resourceVersion, f.status, m, hf, ?_⟩
      intro now₁
      refine Observes.quiet ?_
      exact (hagain (.refl s')).tryCatch_error (.throw _ s')

/-! ## Backends -/

/-- A backend that is there as it should be is left alone. -/
theorem syncBackend_observes {resource : ApiResource} {b : Backend}
    (hget : s.cluster.get (Cluster.backend resource ns f.metadata.anyName) GenericObject.codec =
      .ok (some b)) (howner : f.checkOwner b = .ok ()) (hspec : b.hasSpec f.specJson = true) :
    Observes (f.syncBackend resource ns) s (.ok (some b)) := by
  have hfound : Observes (api (.getBackend resource ns f.metadata.anyName)) s (.ok (some b)) :=
    .api (c := .getBackend resource ns f.metadata.anyName) trivial hget
  have howned : Observes (liftM (f.checkOwner b) : Controller Unit) s (.ok ()) := by
    rw [← howner]
    exact .lift _ s
  refine hfound.bind (howned.bind ?_)
  simp only [hspec, if_true]
  exact .pure _ s

/-- What a run does for the backend is done: the next run comes to the same, and has nothing left
to write. -/
structure Synced (f : Facade k) (resource : ApiResource) (ns : String) (s s' : System)
    (r : Except Error (Option Backend)) : Prop where
  memory : s'.memory = s.memory
  agrees : System.Agrees k s s'
  facades : s'.cluster.objects (.facades k) = s.cluster.objects (.facades k)
  backend : ∀ b, r = .ok b → ∃ b', b = some b' ∧ b'.ReportsDistinct k
  again : ∀ s'', s''.cluster.objects .backends = s'.cluster.objects .backends →
    ∀ version status, Observes ((f.updated version status).syncBackend resource ns) s'' r

theorem Synced.of_puts {resource : ApiResource} {b b' : Backend} {c : Cluster}
    (hns : b.metadata.ref = f.metadata.ref) (howner : f.checkOwner b = .ok ())
    (hspec : b.hasSpec f.specJson = true) (hb : b.ReportsDistinct k)
    (h : s.cluster.Puts resource ns b b' c) :
    Synced f resource ns s { s with cluster := c } (.ok (some b')) where
  memory := rfl
  agrees := ⟨rfl, h.served, fun c hc _ => h.others c hc⟩
  facades := h.others _ (by simp)
  backend b₁ hb₁ := ⟨b', (Except.ok.inj hb₁).symm, hb.of_data_eq h.data⟩
  again s'' hs version status := by
    have howner' : f.checkOwner b' = .ok () := by
      rw [checkOwner_eq_ok] at howner ⊢
      rwa [h.owner]
    have hspec' : b'.hasSpec f.specJson = true := by
      rwa [Backend.hasSpec, Backend.spec?, h.data]
    have hfound := h.found
    rw [(ObjectRef.mk.inj hns).2] at hfound
    refine syncBackend_observes (f := f.updated version status) ?_ howner' hspec'
    exact (Cluster.get_of_objects_eq
      (t := Cluster.backend resource ns f.metadata.anyName) hs _).trans hfound

theorem Synced.refused {resource : ApiResource} {e : Error}
    (h : ∀ s'', s''.cluster.objects .backends = s.cluster.objects .backends →
      ∀ version status,
        Observes ((f.updated version status).syncBackend resource ns) s'' (.error e)) :
    Synced f resource ns s s (.error e) :=
  ⟨rfl, .refl s, rfl, fun _ hb => (nomatch hb), h⟩

theorem observes_backend {resource : ApiResource} {b : Option Backend} {s'' : System}
    (h : (System.answer (.api (.getBackend resource ns f.metadata.anyName)) s).1 = .ok b)
    (hs : s''.cluster.objects .backends = s.cluster.objects .backends) :
    Observes (api (.getBackend resource ns f.metadata.anyName)) s'' (.ok b) :=
  .api (c := .getBackend resource ns f.metadata.anyName) trivial
    ((Cluster.get_of_objects_eq (t := Cluster.backend resource ns f.metadata.anyName) hs _).trans h)

theorem observes_lift_error {α : Type} {x : Except Error α} {e : Error} (h : .error e = x)
    (s : System) : Observes (liftM x : Controller α) s (.error e) := by
  rw [h]
  exact .lift x s

/-- A backend that was missing is made, if the facade can own one. -/
theorem synced_of_missing (hns : f.metadata.ns = some ns) (hspec : f.specJson.Plain)
    {resource : ApiResource} {r : Except Error (Option Backend)}
    (hget : (System.answer (.api (.getBackend resource ns f.metadata.anyName)) s).1 = .ok none)
    (h : Runs System.answer (do
      let b ← f.newBackend resource f.specJson
      unlessConflict (api (.createBackend resource ns b))) s t r s')
    (ht : ∀ e ∈ t, Event.Succeeded e) : Synced f resource ns s s' r := by
  rcases h.bind_inv with ⟨e, hnew, rfl⟩ | ⟨b, t₁, s₁, t₂, hnew, hcreate, rfl⟩
  · obtain ⟨-, he, rfl⟩ := hnew.unique (.lift _)
    exact .refused fun s'' hs _ _ =>
      (observes_backend hget hs).bind (observes_lift_error he s'').bind_error
  · obtain ⟨-, hmade, rfl⟩ := hnew.unique (.lift _)
    obtain ⟨hb, hvalid, hplace, howner, hhas, hnone⟩ := newBackend_eq_ok hspec.canonical hmade.symm
    obtain ⟨b', hcreated, rfl⟩ :=
      hcreate.unlessConflict_api_inv fun e he => ht e (List.mem_append_right _ he)
    obtain ⟨hreply, rfl⟩ := Prod.mk.inj hcreated
    have hdistinct : b.ReportsDistinct k := by
      intro raw _ hraw
      rw [hnone] at hraw
      cases hraw
    exact .of_puts hplace howner hhas hdistinct (Cluster.puts_created hb
      ((ObjectRef.mk.inj hplace).1.trans hns) hvalid (Prod.ext hreply rfl))

/-- A backend that is there gets the spec of the facade, if the facade controls it. -/
theorem synced_of_found (hns : f.metadata.ns = some ns) (hspec : f.specJson.Plain)
    (hb : f.Admissible s.cluster) {resource : ApiResource} {current : Backend}
    {r : Except Error (Option Backend)}
    (hget : (System.answer (.api (.getBackend resource ns f.metadata.anyName)) s).1 =
      .ok (some current))
    (h : Runs System.answer (do
      f.checkOwner current
      if current.hasSpec f.specJson then return some current
      unlessConflict (api (.replaceBackend resource ns (current.withSpec f.specJson)))) s t r s')
    (ht : ∀ e ∈ t, Event.Succeeded e) : Synced f resource ns s s' r := by
  obtain ⟨j, hj, hread, htype, hplace, hvalid⟩ := Cluster.of_get hb.canonical hget
  have hplace : current.metadata.ref = f.metadata.ref := by rw [hplace, Metadata.ref, hns]
  have hdistinct := hb.distinct j hj current hread hplace
  rcases h.bind_inv with ⟨e, hcheck, rfl⟩ | ⟨_, t₁, s₁, t₂, hcheck, hrest, rfl⟩
  · obtain ⟨-, he, rfl⟩ := hcheck.unique (.lift _)
    exact .refused fun s'' hs _ _ =>
      (observes_backend hget hs).bind (observes_lift_error he s'').bind_error
  obtain ⟨-, howner, rfl⟩ := hcheck.unique (.lift _)
  cases hhas : current.hasSpec f.specJson with
  | true =>
    simp only [hhas, if_true] at hrest
    obtain ⟨-, rfl, rfl⟩ := hrest.unique .pure
    refine ⟨rfl, .refl _, rfl, fun b hb => ⟨current, (Except.ok.inj hb).symm, hdistinct⟩, ?_⟩
    intro s'' hs version status
    have hfound := Cluster.get_of_objects_eq
      (t := Cluster.backend resource ns f.metadata.anyName) hs GenericObject.codec
    exact syncBackend_observes (f := f.updated version status) (hfound.trans hget) howner.symm hhas
  | false =>
    simp only [hhas, Bool.false_eq_true, if_false] at hrest
    obtain ⟨b', hreplaced, rfl⟩ :=
      hrest.unlessConflict_api_inv fun e he => ht e (List.mem_append_right _ he)
    obtain ⟨hreply, rfl⟩ := Prod.mk.inj hreplaced
    have hdistinct' : (current.withSpec f.specJson).ReportsDistinct k := by
      intro raw st hraw
      rw [Backend.status?_withSpec] at hraw
      exact hdistinct raw st hraw
    exact .of_puts (b := current.withSpec f.specJson) hplace howner.symm
      (current.hasSpec_withSpec _) hdistinct' (Cluster.puts_replaced htype
        ((ObjectRef.mk.inj hplace).1.trans hns)
        (Backend.valid_withSpec hvalid hspec.canonical) (Prod.ext hreply rfl))

/-- The backend that a run leaves is found as it should be by the next one, and an obstacle to it is
met again. -/
theorem syncBackend_again (hns : f.metadata.ns = some ns) (hspec : f.specJson.Plain)
    (hb : f.Admissible s.cluster) {resource : ApiResource} {r : Except Error (Option Backend)}
    (h : Runs System.answer (f.syncBackend resource ns) s t r s')
    (ht : ∀ e ∈ t, Event.Succeeded e) : Synced f resource ns s s' r := by
  obtain ⟨found, s₁, t₂, hget, hrest, ht₂, -⟩ := h.api_bind_inv ht
  obtain rfl : s = s₁ := congrArg Prod.snd hget
  cases found with
  | none => exact synced_of_missing hns hspec (congrArg Prod.fst hget) hrest ht₂
  | some current => exact synced_of_found hns hspec hb (congrArg Prod.fst hget) hrest ht₂

/-! ## Whole runs -/

/-- What is done with a status that was derived. -/
def report (interval : Duration) (f : Facade k) (x : Status k.Details) : Controller Action := do
  if f.status ≠ some x then
    if (← unlessConflict (f.writeStatus x)).isNone then return .requeue conflictPause
  memory (.forgetFailures (.facade k) f.key)
  return .requeue interval

/-- What is done once the kind of the backend is known. -/
def provision (interval : Duration) (now : Instant) (f : Facade k) (resource : ApiResource)
    (ns : String) : Controller Action := do
  match ← f.syncBackend resource ns with
  | none => return .requeue conflictPause
  | some b =>
    let x ← f.deriveStatus now b
    f.report interval x

theorem proceed_eq (interval : Duration) (now : Instant) (f : Facade k) (ns name : String) :
    f.proceed interval now ns name = (do
      let p ← Facade.provider now f name
      let resource ← backendResource p k
      memory (.ensureWatch k p.registeredName resource)
      f.provision interval now resource ns) := rfl

theorem report_again (hf : f.Stored s.cluster m) (hns : f.metadata.ns = some ns)
    {x : Status k.Details} (hx : k.ValidStatus x) {interval : Duration} {r : Except Error Action}
    (h : Runs System.answer (f.report interval x) s t r s') (ht : ∀ e ∈ t, Event.Succeeded e) :
    r = .ok (.requeue interval) ∧ System.Agrees k s s' ∧
      s'.memory.kinds = s.memory.kinds ∧
      s'.cluster.objects .backends = s.cluster.objects .backends ∧
      ∃ version m', (f.updated version (some x)).Stored s'.cluster m' := by
  unfold report at h
  by_cases hsame : f.status = some x
  · simp only [hsame, ne_eq, not_true, if_false] at h
    obtain ⟨-, rfl, rfl⟩ := h.unique ((Runs.memory rfl).bind .pure)
    refine ⟨rfl, ⟨rfl, rfl, fun _ _ _ => rfl⟩, rfl, rfl, f.metadata.resourceVersion, m, ?_⟩
    rw [← hsame]
    exact hf
  · simp only [hsame, ne_eq, not_false_eq_true, if_true] at h
    rcases h.bind_inv with ⟨e, hwrite, rfl⟩ | ⟨a, t₁, s₁, t₂, hwrite, hrest, rfl⟩
    · obtain ⟨_, -, hok⟩ := Runs.unlessConflict_api_inv (c := f.statusCall x) hwrite ht
      cases hok
    · obtain ⟨_, hwritten, hok⟩ := Runs.unlessConflict_api_inv (c := f.statusCall x) hwrite
        fun e he => ht e (List.mem_append_left _ he)
      obtain rfl := Except.ok.inj hok
      obtain ⟨version, m', hstored, hagrees, hmemory, hbackends⟩ := hf.write hns hx hwritten
      obtain ⟨-, rfl, rfl⟩ := hrest.unique ((Runs.memory rfl).bind .pure)
      have hkinds : s₁.memory.kinds = s.memory.kinds := congrArg Memory.kinds hmemory
      exact ⟨rfl, hagrees.trans ⟨rfl, rfl, fun _ _ _ => rfl⟩, hkinds, hbackends, version, m',
        hstored⟩

theorem quiet_report {x : Status k.Details} (h : f.status = some x) (interval : Duration)
    (s : System) : Quiet (f.report interval x) s (.ok (.requeue interval)) := by
  unfold report
  simp only [h, ne_eq, not_true, if_false]
  exact .memory (Observes.pure _ _).quiet

/-- The backend and the status that a run leaves are those that the next one wants. -/
theorem provision_again (hf : f.Stored s.cluster m) (hns : f.metadata.ns = some ns)
    (hnow : now.Valid) (hb : f.Admissible s.cluster) {interval : Duration} {resource : ApiResource}
    {r : Except Error Action} (h : Runs System.answer (f.provision interval now resource ns) s t r s')
    (ht : ∀ e ∈ t, Event.Succeeded e) :
    System.Agrees k s s' ∧ s'.memory.kinds = s.memory.kinds ∧
      ∃ version status m', (f.updated version status).Stored s'.cluster m' ∧
        ∀ s'', s''.cluster.objects .backends = s'.cluster.objects .backends → ∀ now,
          Quiet ((f.updated version status).provision interval now resource ns) s'' r := by
  rcases h.bind_inv with ⟨e, hsync, rfl⟩ | ⟨found, t₁, s₁, t₂, hsync, hrest, rfl⟩
  · have hsynced := syncBackend_again hns hf.plain_specJson hb hsync ht
    refine ⟨hsynced.agrees, congrArg Memory.kinds hsynced.memory, f.metadata.resourceVersion,
      f.status, m, hf.of_objects_eq hsynced.facades, fun s'' hs now => Observes.quiet ?_⟩
    exact (hsynced.again s'' hs _ _).bind_error
  have ht₂ : ∀ e ∈ t₂, Event.Succeeded e := fun e he => ht e (List.mem_append_right _ he)
  have hsynced := syncBackend_again hns hf.plain_specJson hb hsync fun e he =>
    ht e (List.mem_append_left _ he)
  have hf₁ := hf.of_objects_eq hsynced.facades
  have hkinds₁ : s₁.memory.kinds = s.memory.kinds := congrArg Memory.kinds hsynced.memory
  obtain ⟨b, rfl, hdistinct⟩ := hsynced.backend _ rfl
  rcases hrest.bind_inv with ⟨e, hderive, rfl⟩ | ⟨x, t₃, s₃, t₄, hderive, hreport, rfl⟩
  · obtain ⟨-, he, rfl⟩ := hderive.unique (.lift _)
    refine ⟨hsynced.agrees, hkinds₁, f.metadata.resourceVersion, f.status, m, hf₁, ?_⟩
    intro s'' hs now₁
    have hfails := deriveStatus_error he.symm f.metadata.resourceVersion f.status now₁
    exact ((hsynced.again s'' hs _ _).bind (observes_lift_error hfails.symm s'').bind_error).quiet
  · obtain ⟨-, hx, rfl⟩ := hderive.unique (.lift _)
    have hvalid := valid_deriveStatus hnow hf.validStatus hx.symm
    obtain ⟨rfl, hagrees, hkinds, hbackends, version, m', hstored⟩ :=
      report_again hf₁ hns hvalid hreport fun e he => ht₂ e (List.mem_append_right _ he)
    refine ⟨hsynced.agrees.trans hagrees, hkinds.trans hkinds₁, version, some x, m', hstored, ?_⟩
    intro s'' hs now₁
    have hagain := deriveStatus_again hx.symm hdistinct.datesRepeats version now₁
    have hderived : Observes
        (liftM ((f.updated version (some x)).deriveStatus now₁ b) : Controller (Status k.Details))
        s'' (.ok x) := by
      rw [← hagain]
      exact .lift _ s''
    exact (hsynced.again s'' (hs.trans hbackends) _ _).bind_quiet
      (hderived.bind_quiet (quiet_report rfl interval s''))

/-- An admitted facade settles. -/
theorem proceed_again (hf : f.Stored s.cluster m) (hns : f.metadata.ns = some ns)
    (hnow : now.Valid) (hb : f.Admissible s.cluster) {interval : Duration} {name : String}
    {r : Except Error Action} (h : Runs System.answer (f.proceed interval now ns name) s t r s')
    (ht : ∀ e ∈ t, Event.Succeeded e) :
    System.Agrees k s s' ∧ Settled (fun now f => f.proceed interval now ns name) f s' r := by
  rw [proceed_eq] at h
  simp only [proceed_eq]
  rcases h.bind_inv with ⟨e, hprovider, rfl⟩ | ⟨p, t₁, s₁, t₂, hprovider, hrest, rfl⟩
  · rcases provider_again hf hns hnow hprovider ht with ⟨_, hok, -⟩ | ⟨_, he, hagrees, version,
      status, m', hstored, hquiet⟩
    · cases hok
    · obtain rfl := Except.error.inj he
      exact ⟨hagrees, version, status, m', hstored, fun now => (hquiet now).bind_error⟩
  have ht₂ : ∀ e ∈ t₂, Event.Succeeded e := fun e he => ht e (List.mem_append_right _ he)
  rcases provider_again hf hns hnow hprovider fun e he => ht e (List.mem_append_left _ he) with
    ⟨_, hp, rfl, hprovided⟩ | ⟨_, he, -⟩
  case inr => cases he
  obtain rfl := Except.ok.inj hp
  rcases hrest.bind_inv with ⟨e, hresource, rfl⟩ | ⟨resource, t₃, s₃, t₄, hresource, hwatch, rfl⟩
  · obtain ⟨hagrees, hcluster, hagain⟩ := backendResource_again hresource
    refine ⟨hagrees, f.metadata.resourceVersion, f.status, m, hcluster ▸ hf, ?_⟩
    intro now₁
    exact ((hprovided s' hagrees _ _ now₁).bind (hagain s' hagrees rfl).bind_error).quiet
  · obtain ⟨hagrees₃, hcluster, hagain⟩ := backendResource_again hresource
    obtain ⟨t₅, hprovision, rfl⟩ := hwatch.memory_bind_inv
    obtain ⟨hagrees, hkinds, version, status, m', hstored, hquiet⟩ :=
      provision_again (hcluster ▸ hf) hns hnow (hcluster ▸ hb) hprovision fun e he =>
        ht₂ e (List.mem_append_right _ (List.mem_cons_of_mem _ he))
    have hwatched (s : System) : System.Agrees k s
        (System.answer (.memory (.ensureWatch k p.registeredName resource)) s).2 :=
      ⟨rfl, rfl, fun _ _ _ => rfl⟩
    have hagrees : System.Agrees k s₁ s' := hagrees₃.trans ((hwatched s₃).trans hagrees)
    refine ⟨hagrees, version, status, m', hstored, ?_⟩
    intro now₁
    exact (hprovided s' hagrees _ _ now₁).bind_quiet
      ((hagain s' hagrees hkinds).bind_quiet
        (.memory (hquiet (System.answer (.memory _) s').2 rfl now₁)))

theorem gate_shared {ref : NamespacedRef} (href : f.reference = .inventory ref) (a : Admission) :
    Only (Step.IsShared k) (gate a) := by
  have hk : k ≠ .inventory := by
    rintro rfl
    cases href
  refine Program.Only.mono (gate_only a) ?_
  intro c hc
  cases hc with
  | inventory => exact hk
  | policies => exact trivial
  | labels => exact trivial

theorem reconcile_of_provider {ref : ProviderRef} (hns : f.metadata.ns = some ns)
    (href : f.reference = .provider ref) (interval : Duration) (now : Instant) :
    f.reconcile interval now = f.proceed interval now ns ref.name := by
  unfold reconcile
  simp only [hns, href]

theorem reconcile_of_cluster_wide (hns : f.metadata.ns = none) (interval : Duration)
    (now : Instant) : f.reconcile interval now =
      throw (.validation f.metadata.anyName "facade must be namespaced") := by
  unfold reconcile
  simp only [hns]

/-- How a run goes on after the gate. -/
def heed (f : Facade k) (interval : Duration) (now : Instant) (a : Admission) :
    Except Obstacle String → Controller Action
  | .ok name => f.proceed interval now a.ns name
  | .error o => do
    f.recordCondition (o.condition now a)
    liftM (o.outcome interval a)

/-- A run is refused at once, or it goes on with the provider that the facade names, or it asks the
gate. -/
theorem reconcile_cases {motive : Controller Action → Prop} (f : Facade k) (interval : Duration)
    (now : Instant)
    (refused : motive (throw (.validation f.metadata.anyName "facade must be namespaced")))
    (named : ∀ ns, f.metadata.ns = some ns → ∀ name, motive (f.proceed interval now ns name))
    (gated : ∀ a, f.metadata.ns = some a.ns → motive (gate a >>= f.heed interval now a)) :
    motive (f.reconcile interval now) := by
  cases hns : f.metadata.ns with
  | none => exact reconcile_of_cluster_wide hns interval now ▸ refused
  | some ns =>
    cases href : f.reference with
    | provider ref => exact reconcile_of_provider hns href interval now ▸ named ns hns ref.name
    | inventory ref =>
      rw [reconcile_of_inventory href hns rfl]
      exact gated ⟨k, ns, ref.ns.getD ns, ref.name⟩ hns

/-- A facade that depends on an inventory settles, admitted or not. -/
theorem settled_of_inventory (hf : f.Stored s.cluster m) (hns : f.metadata.ns = some ns)
    (hnow : now.Valid) (hb : f.Admissible s.cluster) {ref : NamespacedRef}
    (href : f.reference = .inventory ref) {interval : Duration} {r : Except Error Action}
    (h : Runs System.answer (f.reconcile interval now) s t r s')
    (ht : ∀ e ∈ t, Event.Succeeded e) :
    Settled (fun now f => f.reconcile interval now) f s' r := by
  have hreconcile version status now₁ := reconcile_of_inventory (f := f.updated version status)
    ((updated_reference f version status).trans href) hns rfl interval now₁
  rw [reconcile_of_inventory href hns rfl] at h
  unfold Settled
  simp only [hreconcile]
  generalize (⟨k, ns, ref.ns.getD ns, ref.name⟩ : Admission) = a at h
  have honly := gate_shared href a
  rcases h.bind_inv with ⟨e, hgate, rfl⟩ | ⟨verdict, t₁, s₁, t₂, hgate, hrest, rfl⟩
  · obtain ⟨rfl, hagain⟩ := honly.observes (.refl s) hgate
    exact ⟨f.metadata.resourceVersion, f.status, m, hf, fun now₁ => hagain.bind_error.quiet⟩
  have ht₂ : ∀ e ∈ t₂, Event.Succeeded e := fun e he => ht e (List.mem_append_right _ he)
  obtain ⟨rfl, -⟩ := honly.observes (.refl s) hgate
  cases verdict with
  | ok name =>
    obtain ⟨hagrees, version, status, m', hstored, hquiet⟩ :=
      proceed_again hf hns hnow hb hrest ht₂
    refine ⟨version, status, m', hstored, ?_⟩
    intro now₁
    exact (honly.observes hagrees hgate).2.bind_quiet (hquiet now₁)
  | error o =>
    have hc : (o.condition now a).Valid := valid_ready hnow _ _ _
    rcases hrest.bind_inv with ⟨e, hrecord, rfl⟩ | ⟨_, t₃, s₃, t₄, hrecord, hlift, rfl⟩
    · obtain ⟨hok, -⟩ := recordCondition_again hf hns hc hrecord ht₂
      cases hok
    · obtain ⟨-, hagrees, version, status, m', hstored, hobserves⟩ :=
        recordCondition_again hf hns hc hrecord fun e he => ht₂ e (List.mem_append_left _ he)
      obtain ⟨-, rfl, rfl⟩ := hlift.unique (.lift _)
      refine ⟨version, status, m', hstored, ?_⟩
      intro now₁
      exact ((honly.observes hagrees hgate).2.bind
        ((hobserves (some now₁) s').bind (.lift _ s'))).quiet

theorem reconcile_settled (hf : f.Stored s.cluster m) (hnow : now.Valid)
    (hb : f.Admissible s.cluster) {interval : Duration} {r : Except Error Action}
    (h : Runs System.answer (f.reconcile interval now) s t r s')
    (ht : ∀ e ∈ t, Event.Succeeded e) :
    Settled (fun now f => f.reconcile interval now) f s' r := by
  cases hns : f.metadata.ns with
  | none =>
    have hreconcile version status now₁ :=
      reconcile_of_cluster_wide (f := f.updated version status) hns interval now₁
    rw [reconcile_of_cluster_wide hns] at h
    obtain ⟨-, rfl, rfl⟩ := h.unique .throw
    unfold Settled
    simp only [hreconcile]
    exact ⟨f.metadata.resourceVersion, f.status, m, hf, fun _ => (Observes.throw _ s').quiet⟩
  | some ns =>
    cases href : f.reference with
    | inventory ref => exact settled_of_inventory hf hns hnow hb href h ht
    | provider ref =>
      have hreconcile version status now₁ := reconcile_of_provider (f := f.updated version status)
        hns ((updated_reference f version status).trans href) interval now₁
      rw [reconcile_of_provider hns href] at h
      unfold Settled
      simp only [hreconcile]
      exact (proceed_again hf hns hnow hb h ht).2

/-- Reconciling is idempotent: where no call of a run has failed, another run of the facade that is
stored then, at whatever time, comes to the same result, writes neither backend nor status and
leaves the cluster as it is. -/
theorem reconcile_idempotent (interval : Duration) (now : Instant) (hnow : now.Valid)
    (f : Facade k) (s : System) (m : Dict Json) (hf : f.Stored s.cluster m)
    (hb : f.Admissible s.cluster)
    (hs : ∀ e ∈ trace System.answer (f.reconcile interval now) s, Event.Succeeded e) :
    ∃ r s', exec System.answer (f.reconcile interval now) s = (r, s') ∧
      ∃ (f₁ : Facade k) (m₁ : Dict Json), f₁.Stored s'.cluster m₁ ∧ f₁.target = f.target ∧
        ∀ now₁, ∃ t s'', Runs System.answer (f₁.reconcile interval now₁) s' t r s'' ∧
          (∀ e ∈ t, Step.WritesNothing e.1) ∧ s''.cluster = s'.cluster := by
  obtain ⟨version, status, m₁, hstored, hquiet⟩ :=
    reconcile_settled hf hnow hb (.refl System.answer (f.reconcile interval now) s) hs
  exact ⟨_, _, rfl, f.updated version status, m₁, hstored, rfl,
    fun now₁ => (hquiet now₁).exists_runs⟩

/-- A connection whose inventory is missing says so once. -/
theorem reconcile_idempotent_without_inventory :
    let m : Dict Json :=
      [("metadata", .object [("name", .string "orders"), ("namespace", .string "team")]),
        ("spec", .object [("databaseServiceID", .string "db"),
          ("inventoryRef", .object [("name", .string "prod")])])]
    let s : System :=
      { cluster := { objects := fun c => if c = .facades .connection then [.object m] else [] } }
    let f : Facade .connection :=
      ⟨⟨{ name := some "orders", ns := some "team" }, ⟨⟨"prod", none⟩, "db", none, none⟩⟩, none⟩
    ∃ (s' s'' : System) (f₁ : Facade .connection) (t : List Event),
      exec System.answer (f.reconcile (.ofSeconds 60) ⟨0, 0⟩) s =
        (.error (.inventoryNotFound "prod" "team"), s') ∧ s'.cluster.version = 1 ∧
      Runs System.answer (f₁.reconcile (.ofSeconds 60) ⟨86400, 0⟩) s' t
        (.error (.inventoryNotFound "prod" "team")) s'' ∧
      (∀ e ∈ t, Step.WritesNothing e.1) ∧ s''.cluster = s'.cluster := by
  intro m s f
  have hf : f.Stored s.cluster m := by
    refine ⟨rfl, ?_, fun j hj => ?_, rfl⟩
    · simp only [m, Json.Canonical, Json.CanonicalMembers, Dict.Sorted]
      decide
    · cases hj
  have hb : f.Admissible s.cluster := by
    have hnone : s.cluster.objects .backends = [] := rfl
    constructor <;> simp [hnone]
  let a : Admission := ⟨.connection, "team", "team", "prod"⟩
  have htrace : trace System.answer (f.reconcile (.ofSeconds 60) ⟨0, 0⟩) s =
      [⟨.api (.getInventory "team" "prod"), .ok none⟩,
        ⟨.api (f.statusCall (f.currentStatus.setCondition (Obstacle.missing.condition ⟨0, 0⟩ a)).2),
          .ok ()⟩] := rfl
  have hs : ∀ e ∈ trace System.answer (f.reconcile (.ofSeconds 60) ⟨0, 0⟩) s,
      Event.Succeeded e := by
    rw [htrace]
    exact List.forall_mem_cons.2 ⟨⟨none, rfl⟩, List.forall_mem_singleton.2 ⟨(), rfl⟩⟩
  obtain ⟨r, s', hexec, f₁, m₁, -, -, hagain⟩ := reconcile_idempotent (.ofSeconds 60) ⟨0, 0⟩
    ⟨rfl, .inl (by decide)⟩ f s m hf hb hs
  obtain ⟨t, s'', hrun, hwrites, hcluster⟩ := hagain ⟨86400, 0⟩
  have hfirst : exec System.answer (f.reconcile (.ofSeconds 60) ⟨0, 0⟩) s =
    (.error (.inventoryNotFound "prod" "team"), _) := rfl
  have hversion : (exec System.answer (f.reconcile (.ofSeconds 60) ⟨0, 0⟩) s).2.cluster.version =
    1 := rfl
  rw [hexec] at hfirst hversion
  obtain ⟨rfl, -⟩ := Prod.mk.inj hfirst
  exact ⟨s', s'', f₁, t, hexec, hversion, hrun, hwrites, hcluster⟩

end Facade

end ControlPlane
