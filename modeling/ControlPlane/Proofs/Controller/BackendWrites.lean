import ControlPlane.Proofs.Controller.Stages

/-!
# What a run writes to backends

Whatever the API server answers, a run of a facade creates no backend but its own, and replaces none
but one that it has read and found to be its own, changing nothing but the spec. Once it has read a
backend that is not its own it takes no further step, and it has written nothing before.
-/

namespace ControlPlane

open Controller

namespace Facade

variable {k : FacadeKind} {f : Facade k} {b : Backend} {h t : List Event} {α : Type}

/-- The backend has no controller, or its first controller has another uid than the facade. -/
def Disowns (f : Facade k) (b : Backend) : Prop :=
  ∀ owner, b.metadata.controllerOwner? = some owner → some owner.uid ≠ f.metadata.uid

/-- Only a backend that the facade does not control is refused. -/
theorem checkOwner_error {e : Error} (h : f.checkOwner b = .error e) :
    f.Disowns b ∧ ∃ resource message, e = .validation resource message := by
  unfold checkOwner at h
  unfold Disowns
  cases howner : b.metadata.controllerOwner? with
  | none =>
    rw [howner] at h
    exact ⟨nofun, _, _, (Except.error.inj h).symm⟩
  | some owner =>
    rw [howner] at h
    by_cases huid : some owner.uid = f.metadata.uid
    · simp only [if_pos huid] at h
      cases h
    · simp only [if_neg huid] at h
      refine ⟨fun o ho => ?_, _, _, (Except.error.inj h).symm⟩
      obtain rfl := Option.some.inj ho
      exact huid

theorem not_disowns {u : Unit} (h : f.checkOwner b = .ok u) : ¬ f.Disowns b := by
  obtain ⟨owner, howner, huid⟩ := checkOwner_eq_ok.1 h
  exact fun hdisowns => hdisowns owner howner huid

theorem exists_owner (hb : ¬ f.Disowns b) :
    ∃ owner, b.metadata.controllerOwner? = some owner ∧ some owner.uid = f.metadata.uid := by
  cases h : f.checkOwner b with
  | ok _ => exact checkOwner_eq_ok.1 h
  | error e => exact (hb (checkOwner_error h).1).elim

/-- The run has read a backend that the facade does not control. -/
def MetStranger (f : Facade k) (h : List Event) : Prop :=
  ∃ resource ns name b, (⟨.api (.getBackend resource ns name), .ok (some b)⟩ : Event) ∈ h ∧
    f.Disowns b

/-- The step is in order after the events: no stranger was met, and a backend is created or replaced
only as the one of the facade. -/
def Minds (f : Facade k) (h : List Event) (c : Step) : Prop :=
  ¬ f.MetStranger h ∧
    match c with
    | .api (.createBackend resource ns b) =>
      f.metadata.ns = some ns ∧ f.newBackend resource f.specJson = .ok b
    | .api (.replaceBackend resource ns b) =>
      ∃ current, (⟨.api (.getBackend resource ns f.metadata.anyName), .ok (some current)⟩ : Event) ∈
        h ∧ b = current.withSpec f.specJson
    | _ => True

/-- A run that has met a stranger has written nothing and fails as invalid. -/
def Ends (f : Facade k) (r : Except Error α) (h : List Event) : Prop :=
  f.MetStranger h → (∀ e ∈ h, Step.WritesNothing e.1) ∧
    ∃ resource message, r = .error (.validation resource message)

/-- No stranger was met and nothing written. -/
structure Fresh (f : Facade k) (h : List Event) : Prop where
  stranger : ¬ f.MetStranger h
  writes : ∀ e ∈ h, Step.WritesNothing e.1

theorem metStranger_append_spares (ht : ∀ e ∈ t, Step.SparesBackends e.1)
    (hmet : f.MetStranger (h ++ t)) : f.MetStranger h := by
  obtain ⟨resource, ns, name, b, hmem, hb⟩ := hmet
  rcases List.mem_append.1 hmem with hmem | hmem
  · exact ⟨resource, ns, name, b, hmem, hb⟩
  · exact (ht _ hmem).elim

theorem minds_of_spares (hmet : ¬ f.MetStranger h) {c : Step} (hc : c.SparesBackends) :
    f.Minds h c := by
  refine ⟨hmet, ?_⟩
  unfold Step.SparesBackends at hc
  split <;> first
    | exact trivial
    | exact hc.elim

/-- What does not touch backends meets no stranger. -/
theorem ensures_of_spares {x : Controller α} (hx : Only Step.SparesBackends x)
    (hmet : ¬ f.MetStranger h) : Ensures f.Minds (fun _ h' => ¬ f.MetStranger h') x h := by
  have hnone {t : List Event} (ht : ∀ e ∈ t, Step.SparesBackends e.1) :
      ¬ f.MetStranger (h ++ t) := fun hmet' => hmet (metStranger_append_spares ht hmet')
  refine (Ensures.of_only hx fun t c ht hc => minds_of_spares (hnone ht) hc).mono ?_
  rintro r _ ⟨t, rfl, ht⟩
  exact hnone ht

/-- A lookup meets no stranger. -/
theorem fresh_prepared (hf : f.Fresh h) {c : Step} (hc : c.Prepares) (r : c.Reply) :
    f.Fresh (h ++ [⟨c, r⟩]) := by
  refine ⟨fun hmet => hf.stranger (metStranger_append_spares ?_ hmet), ?_⟩
  · exact List.forall_mem_singleton.2 hc.sparesBackends
  · exact List.forall_mem_append.2
      ⟨hf.writes, List.forall_mem_singleton.2 hc.keepsCluster.writesNothing⟩

/-! ## The backend -/

theorem metStranger_append (hmet : f.MetStranger (h ++ t)) : f.MetStranger h ∨ f.MetStranger t := by
  obtain ⟨resource, ns, name, b, hmem, hb⟩ := hmet
  exact (List.mem_append.1 hmem).imp (fun hmem => ⟨resource, ns, name, b, hmem, hb⟩)
    fun hmem => ⟨resource, ns, name, b, hmem, hb⟩

/-- A write of a backend is no meeting. -/
theorem not_metStranger_write (hmet : ¬ f.MetStranger h) {c : Step} {r : c.Reply}
    (hc : ¬ c.WritesNothing) : ¬ f.MetStranger (h ++ [⟨c, r⟩]) := by
  intro hmet'
  rcases metStranger_append hmet' with hmet' | ⟨resource, ns, name, b, hmem, -⟩
  · exact hmet hmet'
  · cases List.mem_singleton.1 hmem
    exact hc trivial

theorem fresh_asked (hf : f.Fresh h) (resource : ApiResource) (ns : String)
    (r : Except Error (Option Backend)) (hr : ∀ b, r = .ok (some b) → ¬ f.Disowns b) :
    f.Fresh (f.asked resource ns h r) := by
  refine ⟨fun hmet => ?_, List.forall_mem_append.2 ⟨hf.writes, List.forall_mem_singleton.2 trivial⟩⟩
  rcases metStranger_append hmet with hmet | ⟨resource', ns', name', b, hmem, hb⟩
  · exact hf.stranger hmet
  · cases List.mem_singleton.1 hmem
    exact hr b rfl hb

/-- What has been done about the backend: the run can end here, and goes on only if no stranger was
met. -/
def Dealt (f : Facade k) (r : Except Error α) (h : List Event) : Prop :=
  f.Ends r h ∧ ∀ a, r = .ok a → ¬ f.MetStranger h

theorem dealt_of_not_met (hmet : ¬ f.MetStranger h) (r : Except Error α) : f.Dealt r h :=
  ⟨fun h => (hmet h).elim, fun _ _ => hmet⟩

theorem dealt_of_error {e : Error} (hends : f.Ends (.error e : Except Error α) h) :
    f.Dealt (.error e : Except Error α) h :=
  ⟨hends, fun a ha => by cases ha⟩

/-- A write of a backend that is in order ends well, whatever comes of it. -/
theorem write_minds {c : Call} (hc : ¬ Step.WritesNothing (.api c)) (hminds : f.Minds h (.api c)) :
    Ensures f.Minds f.Dealt (unlessConflict (api c)) h := by
  have hwrite : Ensures f.Minds (fun _ h' => ¬ f.MetStranger h') (api c) h :=
    .api hminds fun r => not_metStranger_write hminds.1 hc
  exact hwrite.unlessConflict (fun _ _ _ hmet => dealt_of_not_met hmet _)
    (fun _ _ _ hmet => dealt_of_not_met hmet _) fun _ _ _ hmet => dealt_of_not_met hmet _

theorem syncBackend_minds (hf : f.Fresh h) {resource : ApiResource} {ns : String}
    (hns : f.metadata.ns = some ns) :
    Ensures f.Minds f.Dealt (f.syncBackend resource ns) h := by
  have herror (e : Error) := fresh_asked hf resource ns (.error e) fun _ hr => nomatch hr
  have hnone := fresh_asked hf resource ns (.ok none) fun _ hr => nomatch hr
  have howned {b : Backend} (hb : f.checkOwner b = .ok ()) :
      f.Fresh (f.asked resource ns h (.ok (some b))) := by
    refine fresh_asked hf resource ns _ ?_
    rintro _ ⟨⟩
    exact not_disowns hb
  refine syncBackend_ensures ⟨hf.stranger, trivial⟩ ?unread ?unnamed ?missing ?refused ?current
    ?drifted
  case unread => exact fun e => dealt_of_not_met (herror e).stranger _
  case unnamed => exact fun e => dealt_of_not_met hnone.stranger _
  case missing =>
    exact fun b hb => write_minds (c := .createBackend resource ns b) id ⟨hnone.stranger, hns, hb⟩
  case refused =>
    intro b e he
    obtain ⟨-, resource', message, rfl⟩ := checkOwner_error he
    refine dealt_of_error fun _ => ⟨?_, resource', message, rfl⟩
    exact List.forall_mem_append.2 ⟨hf.writes, List.forall_mem_singleton.2 trivial⟩
  case current => exact fun b hb _ => dealt_of_not_met (howned hb).stranger _
  case drifted =>
    intro b hb _
    refine write_minds (c := .replaceBackend resource ns (b.withSpec f.specJson)) id
      ⟨(howned hb).stranger, b, ?_, rfl⟩
    exact List.mem_append_right _ (List.mem_singleton_self _)

/-! ## The whole run -/

theorem ends_of_not_met (hmet : ¬ f.MetStranger h) (r : Except Error α) : f.Ends r h :=
  fun h => (hmet h).elim

/-- What has ended with an error ends what it is part of. -/
theorem Ends.of_error {β : Type} {e : Error} (hends : f.Ends (.error e : Except Error α) h) :
    f.Ends (.error e : Except Error β) h := by
  intro hmet
  obtain ⟨hwrites, resource, message, he⟩ := hends hmet
  exact ⟨hwrites, resource, message, congrArg Except.error (Except.error.inj he)⟩

/-- Where no stranger was met the run goes on in any way that does not touch backends. -/
theorem ends_of_spares {x : Controller α} (hx : Only Step.SparesBackends x)
    (hmet : ¬ f.MetStranger h) : Ensures f.Minds f.Ends x h :=
  (ensures_of_spares hx hmet).mono fun r _ hmet => ends_of_not_met hmet r

theorem provision_minds (hf : f.Fresh h) {ns : String} (hns : f.metadata.ns = some ns)
    (interval : Duration) (now : Instant) (resource : ApiResource) :
    Ensures f.Minds f.Ends (f.provision interval now resource ns) h := by
  refine provision_ensures (syncBackend_minds hf hns) ?failed ?contested ?unreadable ?derived
  case failed => exact fun e h' hdealt => hdealt.1.of_error
  case contested => exact fun h' hdealt => ends_of_not_met (hdealt.2 none rfl) _
  case unreadable => exact fun b e h' hdealt _ => ends_of_not_met (hdealt.2 (some b) rfl) _
  case derived =>
    exact fun b x h' hdealt _ =>
      ends_of_spares (report_only (fun _ => trivial) trivial) (hdealt.2 (some b) rfl)

/-- Every step of a run is in order after what has happened before, and the run ends as it should
when it has met a stranger. -/
theorem reconcile_minds (f : Facade k) (interval : Duration) (now : Instant) :
    Ensures f.Minds f.Ends (f.reconcile interval now) [] := by
  have hstages : f.Stages interval now f.Minds f.Ends f.Fresh :=
    { lookup := fun h c hf hc _ =>
        ⟨minds_of_spares hf.stranger hc.sparesBackends, fresh_prepared hf hc⟩
      stop := fun h r hf => ends_of_not_met hf.stranger r
      record := fun h c hf =>
        (ensures_of_spares (recordCondition_only fun _ => trivial) hf.stranger).mono
          fun _ _ hmet r => ends_of_not_met hmet r
      provision := fun h resource ns hns hf => provision_minds hf hns interval now resource }
  refine hstages.reconcile ⟨?_, fun _ he => nomatch he⟩
  rintro ⟨_, _, _, _, hmem, -⟩
  cases hmem

end Facade

end ControlPlane
