import ControlPlane.Proofs.Controller.BackendWrites

/-!
# Whose backends they are

A facade is who its uid says. `Attested` says of a backend that its controller has created it and is
the only one to have replaced it since, with the spec of one of its versions. A step of a run keeps
this of all backends, if the run has read the backend that it replaces and found its own uid there:
if the backend is another one by then, so is its version.
-/

namespace ControlPlane

open Cluster (backend)

/-- A version of a facade of any kind. -/
abbrev AnyFacade := (k : FacadeKind) × Facade k

/-- What tells facades apart. -/
def AnyFacade.uid? (f : AnyFacade) : Option String := f.2.metadata.uid

/-! ## Records -/

/-- A backend was successfully created at the target. -/
inductive Event.Creates (t : Target) : Event → Prop
  | intro (resource : ApiResource) (ns : String) (b b' : Backend)
    (ht : t = backend resource ns b.metadata.anyName) :
    Creates t ⟨.api (.createBackend resource ns b), .ok b'⟩

/-- The backend at the target was successfully replaced. -/
inductive Event.Replaces (t : Target) : Event → Prop
  | intro (resource : ApiResource) (ns : String) (b b' : Backend)
    (ht : t = backend resource ns b.metadata.anyName) :
    Replaces t ⟨.api (.replaceBackend resource ns b), .ok b'⟩

/-- What is on record: a run of a facade has taken a step, or somebody has deleted a backend. -/
inductive Entry where
  | step (f : AnyFacade) (e : Event)
  | deletion (t : Target)

/-- The backend at the target has been neither deleted nor created, and if it has been replaced then
by a run of a facade with this uid. -/
def Entry.Respects (t : Target) (uid : String) : Entry → Prop
  | .step f e => ¬ e.Creates t ∧ (e.Replaces t → f.uid? = some uid)
  | .deletion t' => t' ≠ t

/-- A run of a facade with this uid has created the backend at the target. Since then nobody has
deleted it, and only runs of facades with this uid have replaced it. -/
def ManagedBy (log : List Entry) (t : Target) (uid : String) : Prop :=
  ∃ before f e after, log = before ++ .step f e :: after ∧ e.Creates t ∧ f.uid? = some uid ∧
    ∀ entry ∈ after, entry.Respects t uid

/-- The backend has a controller, which has created it and is the only one to have replaced it since,
and its spec is that of a version of its controller. -/
def Attested (versions : List AnyFacade) (log : List Entry) (t : Target) (b : Backend) : Prop :=
  ∃ owner, b.metadata.controllerOwner? = some owner ∧ ManagedBy log t owner.uid ∧
    ∃ f ∈ versions, f.uid? = some owner.uid ∧ b.spec? = some f.2.specJson

variable {versions : List AnyFacade} {log : List Entry} {t : Target} {b b' : Backend}
  {uid : String} {entry : Entry}

theorem ManagedBy.of_creates {f : AnyFacade} {e : Event} (he : e.Creates t)
    (hf : f.uid? = some uid) : ManagedBy (log ++ [.step f e]) t uid :=
  ⟨log, f, e, [], rfl, he, hf, fun _ h => nomatch h⟩

theorem ManagedBy.append (h : ManagedBy log t uid) (hentry : entry.Respects t uid) :
    ManagedBy (log ++ [entry]) t uid := by
  obtain ⟨before, f, e, after, rfl, he, hf, hafter⟩ := h
  refine ⟨before, f, e, after ++ [entry], by simp, he, hf, ?_⟩
  exact List.forall_mem_append.2 ⟨hafter, List.forall_mem_singleton.2 hentry⟩

theorem Attested.append (h : Attested versions log t b)
    (hentry : ∀ uid, entry.Respects t uid) : Attested versions (log ++ [entry]) t b := by
  obtain ⟨owner, howner, hmanaged, hspec⟩ := h
  exact ⟨owner, howner, hmanaged.append (hentry owner.uid), hspec⟩

theorem Attested.mono (h : Attested versions log t b) {versions' : List AnyFacade}
    (hversions : versions ⊆ versions') : Attested versions' log t b := by
  obtain ⟨owner, howner, hmanaged, f, hf, hspec⟩ := h
  exact ⟨owner, howner, hmanaged, f, hversions hf, hspec⟩

/-- Only the controller and the spec of a backend matter. -/
theorem Attested.of_eq (h : Attested versions log t b)
    (howner : b'.metadata.controllerOwner? = b.metadata.controllerOwner?)
    (hspec : b'.spec? = b.spec?) : Attested versions log t b' := by
  unfold Attested
  rw [howner, hspec]
  exact h

/-- A step that creates and replaces nothing concerns no backend. -/
theorem respects_step {f : AnyFacade} {e : Event} (hc : ¬ e.Creates t) (hr : ¬ e.Replaces t)
    (uid : String) : (Entry.step f e).Respects t uid :=
  ⟨hc, fun h => (hr h).elim⟩

theorem respects_of_spares {f : AnyFacade} {e : Event} (he : Step.SparesBackends e.1)
    (uid : String) : (Entry.step f e).Respects t uid := by
  refine respects_step ?_ ?_ uid <;>
  · rintro ⟨_, _, _, _, _⟩
    exact he

theorem respects_error {f : AnyFacade} {c : Call} {e : Error} (uid : String) :
    (Entry.step f ⟨.api c, .error e⟩).Respects t uid := by
  refine respects_step ?_ ?_ uid <;>
  · intro h
    cases h

/-! ## One step -/

section Steps

variable {f : AnyFacade} {x : System}

/-- A call that is refused leaves the backends as they are. -/
theorem refused {s : Cluster} (hkept : s.Keeps (Attested versions log)) (f : AnyFacade) (c : Call)
    (e : Error) :
    Cluster.Moves s s ∧ s.Keeps (Attested versions (log ++ [.step f ⟨.api c, .error e⟩])) := by
  refine ⟨.of_objects_eq rfl (Nat.le_refl _), hkept.of_objects_eq rfl (Nat.le_refl _) ?_⟩
  exact fun t b h => h.append respects_error

/-- A backend is created with its creator as controller. -/
theorem answer_createBackend (hkept : x.cluster.Keeps (Attested versions log)) (hf : f ∈ versions)
    (hspec : f.2.specJson.Plain) {resource : ApiResource} {ns : String} {b : Backend}
    (hns : f.2.metadata.ns = some ns) (hnew : f.2.newBackend resource f.2.specJson = .ok b) :
    let a := System.answer (.api (.createBackend resource ns b)) x
    Cluster.Moves x.cluster a.2.cluster ∧ a.2.cluster.Keeps
      (Attested versions (log ++ [.step f ⟨.api (.createBackend resource ns b), a.1⟩])) := by
  obtain ⟨htype, hvalid, href, hcheck, -⟩ := Facade.newBackend_eq_ok hspec.canonical hnew
  obtain ⟨owner, howner, huid⟩ := Facade.checkOwner_eq_ok.1 hcheck
  have hbns : b.metadata.ns = some ns := (congrArg ObjectRef.ns href).trans hns
  rcases Cluster.createBackend_cases htype hbns hvalid hkept.distinct with
    ⟨e, hanswer⟩ | ⟨-, j, s', hanswer, hsets, hstored⟩
  · simp only [System.answer, hanswer]
    exact refused hkept f _ e
  · simp only [System.answer, hanswer]
    refine ⟨hsets.moves hstored rfl, hsets.keeps hkept hstored ?_ fun t' b' hne h => ?_⟩
    · exact .of_eq (b := b) ⟨owner, howner, .of_creates (.intro _ _ _ _ rfl) huid.symm, f, hf,
        huid.symm, Facade.spec?_newBackend hnew⟩ rfl rfl
    · refine h.append (respects_step ?_ ?_)
      · rintro ⟨_, _, _, _, ht⟩
        exact hne ht
      · intro h
        cases h

/-- A backend is replaced by its controller only. -/
theorem answer_replaceBackend (hkept : x.cluster.Keeps (Attested versions log)) (hf : f ∈ versions)
    (hspec : f.2.specJson.Plain) {resource : ApiResource} {ns : String} {current : Backend}
    (hread : x.cluster.Remembers (backend resource ns f.2.metadata.anyName) current)
    (howned : ¬ f.2.Disowns current) :
    let c : Call := .replaceBackend resource ns (current.withSpec f.2.specJson)
    let a := System.answer (.api c) x
    Cluster.Moves x.cluster a.2.cluster ∧
      a.2.cluster.Keeps (Attested versions (log ++ [.step f ⟨.api c, a.1⟩])) := by
  obtain ⟨owner, howner, huid⟩ := Facade.exists_owner howned
  obtain ⟨v, hv, -, hcurrent⟩ := hread.current
  have hns : current.metadata.ns = some ns := congrArg ObjectRef.ns hread.place
  have hname : current.metadata.anyName = f.2.metadata.anyName :=
    congrArg ObjectRef.name hread.place
  rcases Cluster.replaceBackend_cases (b := current.withSpec f.2.specJson) hread.type hns
      (Backend.valid_withSpec hread.valid hspec.canonical) hkept.distinct with
    ⟨e, hanswer⟩ | ⟨old, j, s', hfind, hversion, hanswer, hsets, hstored⟩
  · simp only [System.answer, hanswer]
    exact refused hkept f _ e
  · -- What is replaced has the version that was read, so it is what was read.
    have hold : GenericObject.codec.read old = .ok current := by
      refine hcurrent old ?_ ?_
      · rw [← hname]
        exact hfind
      · rcases hversion with hnone | hsame
        · cases hv.symm.trans hnone
        · exact hsame.symm.trans hv
    obtain ⟨b, hb, owner', howner', hmanaged, -⟩ := hkept.of_find? hstored.target hfind
    obtain rfl := Except.ok.inj (hb.read.symm.trans hold)
    obtain rfl := Option.some.inj (howner.symm.trans howner')
    simp only [System.answer, hanswer]
    refine ⟨hsets.moves hstored rfl, hsets.keeps hkept hstored ?_ fun t' b' hne h => ?_⟩
    · refine .of_eq (b := b.withSpec f.2.specJson) ⟨owner, howner, hmanaged.append ⟨?_, ?_⟩,
        f, hf, huid.symm, b.spec?_withSpec f.2.specJson⟩ rfl rfl
      · intro h
        cases h
      · exact fun _ => huid.symm
    · refine h.append (respects_step ?_ ?_)
      · intro h
        cases h
      · rintro ⟨_, _, _, _, ht⟩
        exact hne ht

/-- What is read of a backend is what is stored. -/
theorem answer_getBackend (hkept : x.cluster.Keeps (Attested versions log))
    (resource : ApiResource) (ns name : String) :
    let a := System.answer (.api (.getBackend resource ns name)) x
    Cluster.Moves x.cluster a.2.cluster ∧
      a.2.cluster.Keeps
        (Attested versions (log ++ [.step f ⟨.api (.getBackend resource ns name), a.1⟩])) ∧
      ∀ b, a.1 = .ok (some b) → a.2.cluster.Remembers (backend resource ns name) b := by
  refine ⟨.of_objects_eq rfl (Nat.le_refl _), hkept.of_objects_eq rfl (Nat.le_refl _) ?_, ?_⟩
  · refine fun t b h => h.append (respects_step ?_ ?_) <;>
    · intro h
      cases h
  · intro b hb
    obtain ⟨j, hfind, hread⟩ := Cluster.get_eq_some.1 hb
    obtain ⟨b', hstored, -⟩ := hkept.of_find? ⟨resource, ns, name, rfl⟩ hfind
    obtain rfl := Except.ok.inj (hstored.read.symm.trans hread)
    exact Cluster.remembers_of_stored hstored hfind

/-- A step that does not touch backends leaves them with their controllers. -/
theorem answer_sparing (hkept : x.cluster.Keeps (Attested versions log)) {c : Step}
    (hc : c.SparesBackends) :
    let a := System.answer c x
    Cluster.Moves x.cluster a.2.cluster ∧
      a.2.cluster.Keeps (Attested versions (log ++ [.step f ⟨c, a.1⟩])) := by
  obtain ⟨hobjects, hversion⟩ := System.answer_spares hc x
  refine ⟨.of_objects_eq hobjects hversion, hkept.of_objects_eq hobjects hversion fun t b h => ?_⟩
  exact h.append (respects_of_spares hc)

end Steps

end ControlPlane
