import ControlPlane.Proofs.Controller.BackendWrites
import ControlPlane.Proofs.Facade.DerivedStatus

/-!
# Reporting the status of a backend

The status of a backend becomes the status of its facade as it is, or not at all. What can be read
is passed through, and while there is none the facade waits for it with the status that it has.
Where the status cannot be read, the run of the facade that has got the backend fails and leaves the
status of the facade alone.
-/

namespace ControlPlane

open Controller

/-- The step does not write the status of a facade. -/
def Step.SparesStatus : Step → Prop
  | .api (.patchFacadeStatus _ _ _ _ _) => False
  | _ => True

theorem Step.KeepsCluster.sparesStatus {c : Step} (h : c.KeepsCluster) : c.SparesStatus := by
  unfold SparesStatus
  split <;> first
    | exact h
    | exact trivial

namespace Facade

variable {k : FacadeKind} {f : Facade k} {b b' : Backend} {now : Instant} {h : List Event}

/-- At this event the run gets the backend `b` for the facade: it finds it under the facade's
control and with its spec, or it has written it. -/
def Obtains (f : Facade k) (b : Backend) : Event → Prop
  | ⟨.api (.getBackend _ _ _), r⟩ =>
    r = .ok (some b) ∧ ¬ f.Disowns b ∧ b.hasSpec f.specJson = true
  | ⟨.api (.createBackend _ _ _), r⟩ | ⟨.api (.replaceBackend _ _ _), r⟩ => r = .ok b
  | _ => False

theorem not_obtains_of_spares {e : Event} (h : e.1.SparesBackends) : ¬ f.Obtains b e := by
  unfold Obtains
  split <;> first
    | exact h.elim
    | exact id

/-- No status of a facade was written, and a backend was obtained only if it is the result. -/
structure Got (f : Facade k) (r : Except Error (Option Backend)) (h : List Event) : Prop where
  spares : ∀ e ∈ h, e.1.SparesStatus
  result : ∀ b, ∀ e ∈ h, f.Obtains b e → r = .ok (some b)

/-- Nothing was written, and no backend was obtained. -/
structure Waiting (f : Facade k) (h : List Event) : Prop where
  spares : ∀ e ∈ h, e.1.SparesStatus
  none : ∀ b, ∀ e ∈ h, ¬ f.Obtains b e

/-- If a backend was obtained from which no status follows, the run has failed for that and has not
written the status. -/
def Withholds (f : Facade k) (now : Instant) (r : Except Error Action) (h : List Event) : Prop :=
  ∀ b e, f.deriveStatus now b = .error e → (∃ e' ∈ h, f.Obtains b e') →
    r = .error e ∧ ∀ e' ∈ h, e'.1.SparesStatus

theorem Waiting.append (hh : f.Waiting h) {e : Event} (hspares : e.1.SparesStatus)
    (hnone : ∀ b, ¬ f.Obtains b e) : f.Waiting (h ++ [e]) :=
  ⟨List.forall_mem_append.2 ⟨hh.spares, List.forall_mem_singleton.2 hspares⟩, fun b =>
    List.forall_mem_append.2 ⟨hh.none b, List.forall_mem_singleton.2 (hnone b)⟩⟩

theorem Waiting.got (hh : f.Waiting h) (r : Except Error (Option Backend)) : f.Got r h :=
  ⟨hh.spares, fun b e he hobtains => (hh.none b e he hobtains).elim⟩

theorem Waiting.got_append (hh : f.Waiting h) {e : Event} {r : Except Error (Option Backend)}
    (hspares : e.1.SparesStatus) (hr : ∀ b, f.Obtains b e → r = .ok (some b)) :
    f.Got r (h ++ [e]) := by
  refine ⟨List.forall_mem_append.2 ⟨hh.spares, List.forall_mem_singleton.2 hspares⟩, fun b => ?_⟩
  refine List.forall_mem_append.2 ⟨fun e he hobtains => (hh.none b e he hobtains).elim, ?_⟩
  exact List.forall_mem_singleton.2 (hr b)

/-- The backend that a write gives is the one that was obtained. -/
theorem write_got (hh : f.Waiting h) {x : Controller Backend}
    (hx : Ensures (fun _ _ => True) (fun r h' => ∃ e, h' = h ++ [e] ∧ e.1.SparesStatus ∧
      ∀ b, f.Obtains b e → r = .ok b) x h) :
    Ensures (fun _ _ => True) f.Got (unlessConflict x) h := by
  refine hx.unlessConflict ?_ ?_ ?_
  · rintro a _ - ⟨e, rfl, hspares, hresult⟩
    refine hh.got_append hspares fun b hb => ?_
    rw [Except.ok.inj (hresult b hb)]
  · rintro _ _ - ⟨e, rfl, hspares, hresult⟩
    exact hh.got_append hspares fun b hb => nomatch hresult b hb
  · rintro _ _ - ⟨e, rfl, hspares, hresult⟩
    exact hh.got_append hspares fun b hb => nomatch hresult b hb

/-- Bringing the backend up to date gives the backend that was obtained. -/
theorem syncBackend_got (hh : f.Waiting h) (resource : ApiResource) (ns : String) :
    Ensures (fun _ _ => True) f.Got (f.syncBackend resource ns) h := by
  have hwaiting (r : Except Error (Option Backend)) (hr : ∀ b, r = .ok (some b) →
      ¬ f.Disowns b → b.hasSpec f.specJson ≠ true) : f.Waiting (f.asked resource ns h r) :=
    hh.append trivial fun b hb => hr b hb.1 hb.2.1 hb.2.2
  refine syncBackend_ensures trivial ?unread ?unnamed ?missing ?refused ?current ?drifted
  case unread => exact fun e => (hwaiting (.error e) fun _ hr => nomatch hr).got _
  case unnamed => exact fun e => (hwaiting (.ok none) fun _ hr => nomatch hr).got _
  case missing =>
    exact fun b _ => write_got (hwaiting (.ok none) fun _ hr => nomatch hr)
      (.api (c := .createBackend resource ns b) trivial fun _ => ⟨_, rfl, trivial, fun _ hb => hb⟩)
  case refused =>
    intro b e he
    refine (hwaiting _ ?_).got _
    rintro _ ⟨⟩ howned -
    exact howned (checkOwner_error he).1
  case current =>
    intro b _ _
    exact hh.got_append trivial fun b' hb => hb.1
  case drifted =>
    intro b _ hspec
    refine write_got (hwaiting _ ?_)
      (.api (c := .replaceBackend resource ns (b.withSpec f.specJson)) trivial
        fun _ => ⟨_, rfl, trivial, fun _ hb => hb⟩)
    rintro _ ⟨⟩ - hspec'
    rw [hspec] at hspec'
    cases hspec'

/-- What does not touch backends obtains none. -/
theorem ensures_obtains (f : Facade k) {α : Type} {x : Controller α}
    (hx : Only Step.SparesBackends x) (h : List Event) :
    Ensures (fun _ _ => True) (fun _ h' => ∀ b, ∀ e ∈ h', f.Obtains b e → e ∈ h) x h := by
  refine .of_invariant hx (I := fun h' => ∀ b, ∀ e ∈ h', f.Obtains b e → e ∈ h)
    (fun _ _ he _ => he) fun h' c hh hc => ⟨trivial, fun r b => ?_⟩
  refine List.forall_mem_append.2 ⟨hh b, List.forall_mem_singleton.2 fun hb => ?_⟩
  exact (not_obtains_of_spares hc hb).elim

theorem withholds_of_none {r : Except Error Action} (hh : ∀ b, ∀ e ∈ h, ¬ f.Obtains b e) :
    f.Withholds now r h := by
  rintro b - - ⟨e, he, hobtains⟩
  exact (hh b e he hobtains).elim

theorem provision_withholds (hh : f.Waiting h) (interval : Duration) (now : Instant)
    (resource : ApiResource) (ns : String) :
    Ensures (fun _ _ => True) (f.Withholds now) (f.provision interval now resource ns) h := by
  have honly {b b' : Backend} {h' : List Event} (hgot : f.Got (.ok (some b)) h')
      (hb' : ∃ e ∈ h', f.Obtains b' e) : b = b' := by
    obtain ⟨e, he, hobtains⟩ := hb'
    exact Option.some.inj (Except.ok.inj (hgot.result b' e he hobtains))
  refine provision_ensures (syncBackend_got hh resource ns) ?failed ?contested ?unreadable ?derived
  case failed =>
    exact fun _ _ hgot => withholds_of_none fun b e he hb => nomatch hgot.result b e he hb
  case contested =>
    exact fun _ hgot => withholds_of_none fun b e he hb => nomatch hgot.result b e he hb
  case unreadable =>
    intro b e h' hgot he b' e' he' hb'
    obtain rfl := honly hgot hb'
    obtain rfl := Except.error.inj (he.symm.trans he')
    exact ⟨rfl, hgot.spares⟩
  case derived =>
    intro b x h' hgot hx
    refine (f.ensures_obtains (report_only (fun _ => trivial) trivial) h').mono ?_
    rintro r h'' hsame b' e' he' ⟨e, he, hb'⟩
    obtain rfl := honly hgot ⟨e, hsame b' e he hb', hb'⟩
    cases hx.symm.trans he'

theorem reconcile_withholds (f : Facade k) (interval : Duration) (now : Instant) :
    Ensures (fun _ _ => True) (f.Withholds now) (f.reconcile interval now) [] := by
  have hstages : f.Stages interval now (fun _ _ => True) (f.Withholds now) f.Waiting :=
    { lookup := fun h c hh hc _ => ⟨trivial, fun r =>
        hh.append hc.keepsCluster.sparesStatus fun b => not_obtains_of_spares hc.sparesBackends⟩
      stop := fun h r hh => withholds_of_none hh.none
      record := fun h c hh => (f.ensures_obtains (recordCondition_only fun _ => trivial) h).mono
        fun _ h' hsame r => withholds_of_none fun b e he hb => hh.none b e (hsame b e he hb) hb
      provision := fun h resource ns _ hh => provision_withholds hh interval now resource ns }
  exact hstages.reconcile ⟨fun _ he => (nomatch he), fun _ _ he => (nomatch he)⟩

/-- The status of a backend passes through or is withheld. What can be read becomes the status of
the facade, with nothing of the one before but the times that the backend does not give. While there
is none the facade keeps its status and waits for the backend. What cannot be read is an error that
names the kind of the facade, with which every run that gets the backend ends, and no such run
writes the status of a facade. -/
theorem status_passes_through (f : Facade k) (b : Backend) (now : Instant) :
    (∀ raw s, b.status? = some raw → k.statusCodec.read raw = .ok s →
      ∃ conditions, f.deriveStatus now b = .ok ⟨conditions, s.details⟩ ∧
        List.Forall₂ (fun c d => ∃ t, StampedAt now f.currentStatus.conditions c t ∧
          d = { c with lastTransitionTime := some t }) s.conditions conditions) ∧
    (b.status? = none →
      ∃ conditions c, f.deriveStatus now b = .ok ⟨conditions, f.currentStatus.details⟩ ∧
        Condition.Revised Condition.readyType f.currentStatus.conditions conditions ∧
        Condition.find? conditions Condition.readyType = some c ∧
        c.Says .unknown Reason.backendPending "waiting for the provider to report status") ∧
    ∀ raw message, b.status? = some raw → k.statusCodec.read raw = .error message →
      f.deriveStatus now b = .error (.serialization message (some k.kind)) ∧
        ∀ (σ : Type) (answer : (c : Step) → σ → c.Reply × σ) (interval : Duration) (s s' : σ)
          (t : List Event) (r : Except Error Action),
          Runs answer (f.reconcile interval now) s t r s' → (∃ e ∈ t, f.Obtains b e) →
            r = .error (.serialization message (some k.kind)) ∧ ∀ e ∈ t, e.1.SparesStatus := by
  refine ⟨fun raw s hraw hs => ?_, fun hnone => ?_, fun raw message hraw hs => ?_⟩
  · exact ⟨_, deriveStatus_of_read hraw hs f now, forall₂_stamp now _ s.conditions⟩
  · have hderive : f.deriveStatus now b = .ok
        ⟨Condition.put (pendingCondition now) f.currentStatus.conditions,
          f.currentStatus.details⟩ := by
      rw [deriveStatus_of_none hnone, ← Status.conditions_setCondition]
      rfl
    exact ⟨_, _, hderive, Condition.revised_put (pendingCondition now) _,
      Condition.find?_put (pendingCondition now) _,
      Condition.says_recorded _ (pendingCondition now)⟩
  · have hderive := deriveStatus_of_unreadable hraw hs f now
    refine ⟨hderive, fun σ answer interval s s' t r hrun hobtains => ?_⟩
    have hwithholds : f.Withholds now r t := (f.reconcile_withholds interval now).of_runs hrun
    exact hwithholds b _ hderive hobtains

/-- An inventory takes over a readiness whose time it knows, waits for one that is not reported, and
keeps its status where the backend reports what cannot be read. -/
theorem status_passes_through_or_is_kept :
    let p : Provider := ⟨{ name := some "crunchy" },
      ⟨⟨"crunchy", none, none⟩, none, "Vault", "Link", "Base", [], []⟩⟩
    let c : Condition := ⟨"Ready", .holds, "", "", none⟩
    let before : List Condition := [{ c with reason := "Ready", lastTransitionTime := some ⟨5, 0⟩ }]
    let f : Facade .inventory :=
      ⟨⟨{ name := some "orders", ns := some "team", uid := some "1" },
        ⟨⟨"crunchy"⟩, ⟨"secret"⟩, none, ⟨none, none, none⟩⟩⟩, some ⟨before, ⟨[]⟩⟩⟩
    let owner : OwnerReference :=
      ⟨planeApiVersion, "DBaaSInventory", "orders", "1", some true, none⟩
    let reporting (status : Json) : Backend :=
      { type := none, metadata := { ownerReferences := some [owner] }
        data := [("spec", f.specJson), ("status", status)] }
    let answer (status : Json) : (c : Step) → Unit → c.Reply × Unit
      | .api (.getBackend _ _ _), s => (.ok (some (reporting status)), s)
      | .api .listProviders, s => (.ok [p], s)
      | c, s => ((System.answer c {}).1, s)
    (∃ d t, f.deriveStatus ⟨60, 0⟩ (reporting (.object [("conditions", .array [.object
          [("status", .string "True"), ("type", .string "Ready")]])])) = .ok ⟨[d], ⟨[]⟩⟩ ∧
        StampedAt ⟨60, 0⟩ before c t ∧ d = { c with lastTransitionTime := some t }) ∧
      (∃ conditions d, f.deriveStatus ⟨60, 0⟩ (reporting .null) = .ok ⟨conditions, ⟨[]⟩⟩ ∧
        Condition.find? conditions "Ready" = some d ∧ d.reason = Reason.backendPending) ∧
      ∃ message t, Runs (answer (.string "broken")) (f.reconcile (.ofSeconds 60) ⟨60, 0⟩) () t
          (.error (.serialization message (some "DBaaSInventory"))) () ∧
        ∀ e ∈ t, e.1.SparesStatus := by
  intro p c before f owner reporting answer
  refine ⟨?_, ?_, ?_⟩
  · obtain ⟨hread, -⟩ := status_passes_through f (reporting (.object [("conditions", .array [.object
          [("status", .string "True"), ("type", .string "Ready")]])])) ⟨60, 0⟩
    obtain ⟨conditions, hderive, hpassed⟩ := hread _ ⟨[c], ⟨[]⟩⟩ rfl rfl
    cases hpassed with
    | cons hd hrest =>
      cases hrest
      obtain ⟨t, ht, rfl⟩ := hd
      exact ⟨_, t, hderive, ht, rfl⟩
  · obtain ⟨-, hnone, -⟩ := status_passes_through f (reporting .null) ⟨60, 0⟩
    obtain ⟨conditions, d, hderive, -, hfind, -, hreason, -⟩ := hnone rfl
    exact ⟨conditions, d, hderive, hfind, hreason⟩
  · obtain ⟨-, -, herror⟩ := status_passes_through f (reporting (.string "broken")) ⟨60, 0⟩
    have hregistered : registered? [p] "crunchy" = some p := by
      simp [registered?, p, Provider.registeredName]
    have hlist : Runs (answer (.string "broken")) registrations () _ (.ok [p]) () := ⟨rfl, rfl⟩
    obtain ⟨t₁, hprovider⟩ : ∃ t, Runs (answer (.string "broken"))
        (Controller.provider "crunchy" f.key) () t (.ok p) () := by
      refine ⟨_, hlist.bind_nil ?_⟩
      rw [hregistered]
      exact .pure
    have hresource : Runs (answer (.string "broken")) (backendResource p .inventory) () _
        (.ok (.ofKind p.backendApiVersion "Vault")) () := ⟨rfl, rfl⟩
    have hwatch : Runs (answer (.string "broken")) (memory (.ensureWatch .inventory "crunchy"
        (.ofKind p.backendApiVersion "Vault"))) () _ (.ok ()) () := .memory rfl
    have hprovision := Runs.refl (answer (.string "broken"))
      (f.provision (.ofSeconds 60) ⟨60, 0⟩ (.ofKind p.backendApiVersion "Vault") "team") ()
    have hrun : Runs (answer (.string "broken")) (f.reconcile (.ofSeconds 60) ⟨60, 0⟩) () _ _ () :=
      hprovider.tryCatch.bind (hresource.bind (hwatch.bind hprovision))
    obtain ⟨message, hmessage⟩ : ∃ message,
        FacadeKind.inventory.statusCodec.read (.string "broken") = .error message := ⟨_, rfl⟩
    have hobtains : f.Obtains (reporting (.string "broken"))
        ⟨.api (.getBackend (.ofKind p.backendApiVersion "Vault") "team" "orders"),
          .ok (some (reporting (.string "broken")))⟩ :=
      ⟨rfl, fun hdisowns => hdisowns owner rfl rfl, Json.same_refl _⟩
    obtain ⟨hr, hspares⟩ := (herror _ message rfl hmessage).2 _ _ _ _ _ _ _ hrun
      ⟨_, List.mem_append_right _ (List.mem_append_right _ (List.mem_append_right _
        List.mem_cons_self)), hobtains⟩
    rw [hr] at hrun
    exact ⟨message, _, hrun, hspares⟩

end Facade

end ControlPlane
