import ControlPlane.Proofs.Controller.Ownership
import Mathlib.Logic.Relation

/-!
# Facades in operation

Runs of any number of facades are in progress at once, on what they have read, while facades come
and go and backends are deleted. What a run has read of a backend stays true of the version that it
has read, so that the runs never take a backend from its controller.
-/

namespace ControlPlane

open Controller
open Cluster (backend)

variable {versions : List AnyFacade} {log : List Entry}

/-! ## Runs in progress -/

/-- A run of a facade that is in progress: what it has done and what it goes on with. -/
structure FacadeRun where
  facade : AnyFacade
  past : List Event
  rest : Program Step Step.Reply (Except Error Action)

/-- The run is of a version of a facade that there was, goes on as runs of facades do, and what it
has read of backends is true of the versions that it has read. -/
structure FacadeRun.Sound (versions : List AnyFacade) (s : Cluster) (r : FacadeRun) : Prop where
  version : r.facade ∈ versions
  minds : r.rest.Ensures r.facade.2.Minds r.facade.2.Ends r.past
  reads : ∀ resource ns name b,
    (⟨.api (.getBackend resource ns name), .ok (some b)⟩ : Event) ∈ r.past →
      s.Remembers (backend resource ns name) b

namespace FacadeRun

variable {r : FacadeRun} {f : AnyFacade} {past : List Event} {x : System} {s s' : Cluster}
  {versions' : List AnyFacade}

/-- Whatever becomes of the backends, the run stays sound. -/
theorem Sound.moves (h : r.Sound versions s) (hversions : versions ⊆ versions')
    (hs : Cluster.Moves s s') : r.Sound versions' s' where
  version := hversions h.version
  minds := h.minds
  reads resource ns name b hb := (h.reads resource ns name b hb).moves ⟨resource, ns, name, rfl⟩ hs

/-- With a reply that is true of what is stored, the run goes on soundly. -/
theorem Sound.goesOn {c : Step} {next : c.Reply → Program Step Step.Reply (Except Error Action)}
    (h : Sound versions s ⟨f, past, .call c next⟩) (a : c.Reply) (hs : Cluster.Moves s s')
    (ha : ∀ resource ns name b,
      (⟨c, a⟩ : Event) = ⟨.api (.getBackend resource ns name), .ok (some b)⟩ →
        s'.Remembers (backend resource ns name) b) :
    Sound versions s' ⟨f, past ++ [⟨c, a⟩], next a⟩ where
  version := h.version
  minds := h.minds.2 a
  reads resource ns name b hb := by
    rcases List.mem_append.1 hb with hb | hb
    · exact (h.reads resource ns name b hb).moves ⟨resource, ns, name, rfl⟩ hs
    · exact ha resource ns name b (List.mem_singleton.1 hb).symm

/-- What a step of a run does to the backends, and what it reads of them. -/
theorem Sound.answer {c : Step} {next : c.Reply → Program Step Step.Reply (Except Error Action)}
    (h : Sound versions x.cluster ⟨f, past, .call c next⟩)
    (hkept : x.cluster.Keeps (Attested versions log)) (hspec : f.2.specJson.Plain) :
    let a := System.answer c x
    Cluster.Moves x.cluster a.2.cluster ∧
      a.2.cluster.Keeps (Attested versions (log ++ [.step f ⟨c, a.1⟩])) ∧
      ∀ resource ns name b,
        (⟨c, a.1⟩ : Event) = ⟨.api (.getBackend resource ns name), .ok (some b)⟩ →
          a.2.cluster.Remembers (backend resource ns name) b := by
  have hminds : f.2.Minds past c := h.minds.1
  by_cases hc : c.SparesBackends
  · obtain ⟨hmoves, hkeeps⟩ := answer_sparing (f := f) hkept hc
    refine ⟨hmoves, hkeeps, fun resource ns name b h => ?_⟩
    obtain rfl : c = .api (.getBackend resource ns name) := congrArg Sigma.fst h
    exact hc.elim
  cases c with
  | memory c => exact (hc trivial).elim
  | api c =>
    cases c with
    | createBackend resource ns b =>
      obtain ⟨-, hns, hnew⟩ := hminds
      obtain ⟨hmoves, hkeeps⟩ := answer_createBackend hkept h.version hspec hns hnew
      exact ⟨hmoves, hkeeps, fun _ _ _ _ h => by cases h⟩
    | replaceBackend resource ns b =>
      obtain ⟨hmet, current, hread, rfl⟩ := hminds
      have howned : ¬ f.2.Disowns current := fun hdisowns =>
        hmet ⟨resource, ns, f.2.metadata.anyName, current, hread, hdisowns⟩
      obtain ⟨hmoves, hkeeps⟩ := answer_replaceBackend hkept h.version hspec
        (h.reads _ _ _ _ hread) howned
      exact ⟨hmoves, hkeeps, fun _ _ _ _ h => by cases h⟩
    | getBackend resource ns name =>
      obtain ⟨hmoves, hkeeps, hread⟩ := answer_getBackend (f := f) hkept resource ns name
      refine ⟨hmoves, hkeeps, fun resource' ns' name' b h => ?_⟩
      generalize (System.answer (.api (.getBackend resource ns name)) x).1 = a at h hread
      cases h
      exact hread b rfl
    | _ => exact (hc trivial).elim

end FacadeRun

/-! ## Operation -/

/-- A system in operation: the versions of facades that have been observed, the runs that are in
progress or have ended, and what is on record. -/
structure Operation where
  system : System
  versions : List AnyFacade := []
  runs : List FacadeRun := []
  log : List Entry := []

namespace Operation

/-- What can happen next. A version of a facade is observed, a run begins on one that was observed,
or a run takes a step, the call of which may fail. Somebody deletes a backend, or its provider
reports a status. Everything else may change in any way: facades may be created, edited and deleted,
and created again under new uids. -/
inductive Next : Operation → Operation → Prop
  | observe (x : System) (versions runs log) (k : FacadeKind) (f : Facade k) (m : Dict Json)
    (hm : .object m ∈ x.cluster.objects (.facades k)) (hcanonical : (Json.object m).Canonical)
    (hread : (Facade.codec k).read (.object m) = .ok f) :
    Next ⟨x, versions, runs, log⟩ ⟨x, ⟨k, f⟩ :: versions, runs, log⟩
  | begin (x : System) (versions runs log) (f : AnyFacade) (hf : f ∈ versions)
    (interval : Duration) (now : Instant) :
    Next ⟨x, versions, runs, log⟩
      ⟨x, versions, ⟨f, [], (f.2.reconcile interval now).run⟩ :: runs, log⟩
  | step (x : System) (versions before after log) (f : AnyFacade) (past) (c : Step) (next) :
    Next ⟨x, versions, before ++ ⟨f, past, .call c next⟩ :: after, log⟩
      ⟨(System.answer c x).2, versions,
        before ++ ⟨f, past ++ [⟨c, (System.answer c x).1⟩], next (System.answer c x).1⟩ :: after,
        log ++ [.step f ⟨c, (System.answer c x).1⟩]⟩
  | fail (x : System) (versions before after log) (f : AnyFacade) (past) (c : Call) (next)
    (e : Error) :
    Next ⟨x, versions, before ++ ⟨f, past, .call (.api c) next⟩ :: after, log⟩
      ⟨x, versions, before ++ ⟨f, past ++ [⟨.api c, .error e⟩], next (.error e)⟩ :: after,
        log ++ [.step f ⟨.api c, .error e⟩]⟩
  | delete (x : System) (versions runs log) (resource : ApiResource) (ns name : String) :
    Next ⟨x, versions, runs, log⟩
      ⟨{ x with cluster := x.cluster.remove (backend resource ns name) }, versions, runs,
        log ++ [.deletion (backend resource ns name)]⟩
  | report (x : System) (versions runs log) (resource : ApiResource) (ns name : String)
    (status : Json) (hstatus : status.Canonical) :
    Next ⟨x, versions, runs, log⟩
      ⟨{ x with cluster := (x.cluster.update (backend resource ns name) none
        (·.withMember "status" status)).2 }, versions, runs, log⟩
  | other (x y : System) (versions runs log)
    (hbackends : y.cluster.objects .backends = x.cluster.objects .backends)
    (hversion : x.cluster.version ≤ y.cluster.version) :
    Next ⟨x, versions, runs, log⟩ ⟨y, versions, runs, log⟩

/-- Every backend has the controller that created it, the versions of facades hand on plain specs,
and the runs are sound. -/
structure Sound (o : Operation) : Prop where
  kept : o.system.cluster.Keeps (Attested o.versions o.log)
  plain : ∀ f ∈ o.versions, f.2.specJson.Plain
  runs : ∀ r ∈ o.runs, r.Sound o.versions o.system.cluster

/-- When the backends change with their controllers kept, all stays sound. -/
theorem Sound.change {o : Operation} (h : o.Sound) {x : System} {log : List Entry}
    (hmoves : Cluster.Moves o.system.cluster x.cluster)
    (hkept : x.cluster.Keeps (Attested o.versions log)) :
    Sound ⟨x, o.versions, o.runs, log⟩ where
  kept := hkept
  plain := h.plain
  runs r hr := (h.runs r hr).moves (List.Subset.refl _) hmoves

/-- When one of the runs goes on soundly, all stays sound. -/
theorem Sound.goesOn {x y : System} {versions : List AnyFacade} {before after : List FacadeRun}
    {r r' : FacadeRun} {log log' : List Entry} (h : Sound ⟨x, versions, before ++ r :: after, log⟩)
    (hmoves : Cluster.Moves x.cluster y.cluster) (hkept : y.cluster.Keeps (Attested versions log'))
    (hr' : r'.Sound versions y.cluster) : Sound ⟨y, versions, before ++ r' :: after, log'⟩ where
  kept := hkept
  plain := h.plain
  runs := by
    obtain ⟨-, -, hruns⟩ := h.change hmoves hkept
    intro q hq
    rcases List.mem_append.1 hq with hq | hq
    · exact hruns q (List.mem_append_left _ hq)
    · rcases List.mem_cons.1 hq with rfl | hq
      · exact hr'
      · exact hruns q (List.mem_append_right _ (List.mem_cons_of_mem _ hq))

/-- Whatever happens next, the operation stays sound. -/
theorem Sound.next {o o' : Operation} (h : o.Sound) (hnext : Next o o') : o'.Sound := by
  cases hnext with
  | observe x versions runs log k f m hm hcanonical hread =>
    have hsub : versions ⊆ ⟨k, f⟩ :: versions := List.subset_cons_self _ _
    refine ⟨?_, List.forall_mem_cons.2 ⟨?_, h.plain⟩, fun r hr => ?_⟩
    · exact h.kept.of_objects_eq rfl (Nat.le_refl _) fun t b hb => hb.mono hsub
    · exact Facade.plain_specJson_of_read (Json.canonical_object.1 hcanonical).1 hread
    · exact (h.runs r hr).moves hsub (.of_objects_eq rfl (Nat.le_refl _))
  | begin x versions runs log f hf interval now =>
    refine ⟨h.kept, h.plain, List.forall_mem_cons.2 ⟨⟨hf, ?_, fun _ _ _ _ hb => ?_⟩, h.runs⟩⟩
    · exact f.2.reconcile_minds interval now
    · cases hb
  | step x versions before after log f past c next =>
    have hrun := h.runs ⟨f, past, .call c next⟩ (by simp)
    obtain ⟨hmoves, hkept, hread⟩ := hrun.answer h.kept (h.plain f hrun.version)
    exact h.goesOn hmoves hkept (hrun.goesOn _ hmoves hread)
  | fail x versions before after log f past c next e =>
    have hrun := h.runs ⟨f, past, .call (.api c) next⟩ (by simp)
    obtain ⟨hmoves, hkept⟩ := refused h.kept f c e
    exact h.goesOn hmoves hkept (hrun.goesOn _ hmoves fun _ _ _ _ hb => by cases hb)
  | delete x versions runs log resource ns name =>
    have ht : (backend resource ns name).IsBackend := ⟨resource, ns, name, rfl⟩
    refine h.change (x := { x with cluster := _ }) (Cluster.moves_removed h.kept.distinct ht) ?_
    exact h.kept.removed ht fun t b hne hb => hb.append fun _ => Ne.symm hne
  | report x versions runs log resource ns name status hstatus =>
    obtain ⟨hmoves, hkept⟩ := h.kept.reported ⟨resource, ns, name, rfl⟩ hstatus
      fun b version hb => hb.of_eq rfl (Dict.get?_insert_of_ne (by decide) ..)
    exact h.change (x := { x with cluster := _ }) hmoves hkept
  | other x y versions runs log hbackends hversion =>
    refine h.change (.of_objects_eq hbackends hversion) ?_
    exact h.kept.of_objects_eq hbackends hversion fun t b hb => hb

/-- A run that has read a backend that is not its own has ended. -/
theorem Sound.ended {o : Operation} (h : o.Sound) {r : FacadeRun} (hr : r ∈ o.runs)
    (hmet : r.facade.2.MetStranger r.past) : (∀ e ∈ r.past, Step.WritesNothing e.1) ∧
      ∃ resource message, r.rest = .done (.error (.validation resource message)) := by
  obtain ⟨f, past, rest⟩ := r
  have hminds := (h.runs _ hr).minds
  cases rest with
  | call c next => exact (hminds.1.1 hmet).elim
  | done result =>
    obtain ⟨hwrites, resource, message, rfl⟩ := hminds hmet
    exact ⟨hwrites, resource, message, rfl⟩

/-- A run that nobody interferes with goes on to its end. -/
theorem reaches_end (p : Program Step Step.Reply (Except Error Action)) (x : System)
    (versions : List AnyFacade) (before after : List FacadeRun) (f : AnyFacade) (past : List Event)
    (log : List Entry) :
    Relation.ReflTransGen Next ⟨x, versions, before ++ ⟨f, past, p⟩ :: after, log⟩
      ⟨(p.run System.answer x).2, versions,
        before ++ ⟨f, past ++ p.trace System.answer x, .done (p.run System.answer x).1⟩ :: after,
        log ++ (p.trace System.answer x).map (.step f)⟩ := by
  induction p generalizing x past log with
  | done a =>
    simp only [Program.run, Program.trace, List.append_nil, List.map_nil]
    exact .refl
  | call c next ih =>
    refine .head (.step x versions before after log f past c next) ?_
    have hrest := ih (System.answer c x).1 (System.answer c x).2
      (past ++ [⟨c, (System.answer c x).1⟩]) (log ++ [.step f ⟨c, (System.answer c x).1⟩])
    rwa [List.append_assoc, List.append_assoc] at hrest

/-- A facade can be observed and reconciled while nobody else does anything. -/
theorem reaches_reconciled (x : System) (versions runs log) {k : FacadeKind} (f : Facade k)
    {m : Dict Json} (hm : .object m ∈ x.cluster.objects (.facades k))
    (hcanonical : (Json.object m).Canonical) (hread : (Facade.codec k).read (.object m) = .ok f)
    (interval : Duration) (now : Instant) {t : List Event} {r : Except Error Action} {y : System}
    (hruns : Runs System.answer (f.reconcile interval now) x t r y) :
    Relation.ReflTransGen Next ⟨x, versions, runs, log⟩
      ⟨y, ⟨k, f⟩ :: versions, ⟨⟨k, f⟩, t, .done r⟩ :: runs, log ++ t.map (.step ⟨k, f⟩)⟩ := by
  have hend := reaches_end (f.reconcile interval now).run x (⟨k, f⟩ :: versions) [] runs ⟨k, f⟩ []
    log
  obtain ⟨hexec, htrace⟩ := hruns
  unfold exec at hexec
  unfold trace at htrace
  rw [hexec, htrace] at hend
  exact .head (.observe x versions runs log k f m hm hcanonical hread)
    (.head (.begin x _ runs log ⟨k, f⟩ List.mem_cons_self interval now) hend)

/-- What has begun without backends, versions and runs is sound. -/
theorem sound_of_empty (x : System) (hx : x.cluster.objects .backends = []) :
    Sound { system := x } where
  kept := ⟨by simp [Cluster.DistinctBackends, hx], fun j hj => by simp [hx] at hj⟩
  plain := List.forall_mem_nil _
  runs := List.forall_mem_nil _

theorem Sound.reaches {o o' : Operation} (h : o.Sound) (hsteps : Relation.ReflTransGen Next o o') :
    o'.Sound := by
  induction hsteps with
  | refl => exact h
  | tail _ hnext ih => exact ih.next hnext

theorem Sound.exists_attested {o : Operation} (h : o.Sound) {j : Json}
    (hj : j ∈ o.system.cluster.objects .backends) : ∃ t b, t.IsBackend ∧ t.fits j = true ∧
      GenericObject.codec.read j = .ok b ∧ Attested o.versions o.log t b := by
  obtain ⟨t, b, hstored, hattested⟩ := h.kept.kept j hj
  exact ⟨t, b, hstored.target, hstored.fits, hstored.read, hattested⟩

/-- From a store without backends, whatever happens and in whatever order, every backend has the
controller that created it and that alone has replaced it since, with the spec of one of its
versions. A run that reads a backend of another controller, or of none, fails as invalid and has
written nothing. -/
theorem backends_stay_owned (x : System) (hx : x.cluster.objects .backends = []) (o : Operation)
    (h : Relation.ReflTransGen Next { system := x } o) :
    (∀ j ∈ o.system.cluster.objects .backends, ∃ t b, t.IsBackend ∧ t.fits j = true ∧
      GenericObject.codec.read j = .ok b ∧ Attested o.versions o.log t b) ∧
    ∀ r ∈ o.runs, r.facade.2.MetStranger r.past → (∀ e ∈ r.past, Step.WritesNothing e.1) ∧
      ∃ resource message, r.rest = .done (.error (.validation resource message)) := by
  have hsound := (sound_of_empty x hx).reaches h
  exact ⟨fun j hj => hsound.exists_attested hj, fun r hr => hsound.ended hr⟩

/-- The uid of the object that owns the backend that was found. -/
def foundOwner? : Event → Option String
  | ⟨.api (.getBackend _ _ _), .ok (some b)⟩ => b.metadata.controllerOwner?.map (·.uid)
  | _ => none

/-- A facade is deleted and created again under another uid. The new one finds the backend of the
old one and fails. -/
theorem backends_stay_owned_after_recreation :
    let m (uid : String) : Dict Json :=
      [("metadata", .object [("name", .string "orders"), ("namespace", .string "team"),
          ("uid", .string uid)]),
        ("spec", .object [("credentialsRef", .object [("name", .string "secret")]),
          ("providerRef", .object [("name", .string "crunchy")])])]
    let f (uid : String) : AnyFacade := ⟨.inventory,
      ⟨⟨{ name := some "orders", ns := some "team", uid := some uid },
        ⟨⟨"crunchy"⟩, ⟨"secret"⟩, none, ⟨none, none, none⟩⟩⟩, none⟩⟩
    let p : Provider := ⟨{ name := some "crunchy" },
      ⟨⟨"crunchy", none, none⟩, none, "Vault", "Link", "Base", [], []⟩⟩
    let x : System :=
      { cluster := { objects := fun c => if c = .facades .inventory then [.object (m "1")] else [] }
        memory :=
          { providers := some ⟨[(p.metadata.ref, p)]⟩
            kinds := [("dbaas.dev/v1beta1/Vault", .ofKind planeApiVersion "Vault")] } }
    ∃ o, Relation.ReflTransGen Next { system := x } o ∧
      (∃ j t b, o.system.cluster.objects .backends = [j] ∧ t.fits j = true ∧
        GenericObject.codec.read j = .ok b ∧ Attested o.versions o.log t b) ∧
      ∃ r ∈ o.runs, r.facade = f "2" ∧ (f "2").2.MetStranger r.past ∧
        ∃ resource message, r.rest = .done (.error (.validation resource message)) := by
  intro m f p x
  have hcanonical : (Json.object (m "1")).Canonical ∧ (Json.object (m "2")).Canonical := by
    simp only [m, Json.Canonical, Json.CanonicalMembers, Dict.Sorted]
    decide
  let x₁ := (exec System.answer ((f "1").2.reconcile (.ofSeconds 60) ⟨0, 0⟩) x).2
  let y : System :=
    { x₁ with cluster := x₁.cluster.withObjects (.facades .inventory) [.object (m "2")] }
  obtain ⟨events, result, z, hruns, hlength, hmet⟩ : ∃ t r z,
      Runs System.answer ((f "2").2.reconcile (.ofSeconds 60) ⟨0, 0⟩) y t r z ∧
        (z.cluster.objects .backends).length = 1 ∧ (f "2").2.MetStranger t := by
    refine ⟨_, _, _, .refl .., by decide +kernel +zetaReduce, ?_⟩
    have hread : (trace System.answer ((f "2").2.reconcile (.ofSeconds 60) ⟨0, 0⟩) y).any
        (fun e => foundOwner? e = some "1") = true := by
      decide +kernel +zetaReduce
    obtain ⟨e, he, hb⟩ := List.any_eq_true.1 hread
    unfold foundOwner? at hb
    split at hb
    · next resource ns name b =>
      refine ⟨resource, ns, name, b, he, fun owner howner huid => ?_⟩
      simp [howner] at hb
      simp [hb, f] at huid
    · cases hb
  have hfirst := reaches_reconciled x [] [] [] (f "1").2 List.mem_cons_self hcanonical.1 rfl
    (.ofSeconds 60) ⟨0, 0⟩ (.refl ..)
  have hsteps : Relation.ReflTransGen Next { system := x } _ :=
    (hfirst.tail (.other x₁ y _ _ _ rfl (Nat.le_refl _))).trans
      (reaches_reconciled y _ _ _ (f "2").2 List.mem_cons_self hcanonical.2 rfl (.ofSeconds 60)
        ⟨0, 0⟩ hruns)
  obtain ⟨howned, hended⟩ := backends_stay_owned x rfl _ hsteps
  obtain ⟨j, hj⟩ := List.length_eq_one_iff.1 hlength
  obtain ⟨t, b, -, hfits, hread, hattested⟩ := howned j (by simp [hj])
  obtain ⟨-, hinvalid⟩ := hended _ List.mem_cons_self hmet
  exact ⟨_, hsteps, ⟨j, t, b, hj, hfits, hread, hattested⟩, _, List.mem_cons_self, rfl, hmet,
    hinvalid⟩

end Operation

end ControlPlane
