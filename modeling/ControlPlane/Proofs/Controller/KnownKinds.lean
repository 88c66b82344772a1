import ControlPlane.Proofs.Controller.Operation

/-!
# Kinds that are remembered

The controllers remember how a kind is served under a key that is put together from its version and
its name. Where the names have no slash the key tells the kind. What is remembered under the key of
a kind is then this kind, from the start of the controllers on and however their runs come between
each other. Where a name has one the keys of two kinds may be the same.
-/

namespace ControlPlane

open Controller

/-- If it is remembered how the backends of the provider are served, then what is remembered is of
the kind that the provider registers. -/
def Memory.Recalls (m : Memory) (p : Provider) (k : FacadeKind) : Prop :=
  ∀ r, m.kinds.get? (ApiResource.typeKey p.backendApiVersion (p.kindFor k)) = some r →
    r.apiVersion = p.backendApiVersion ∧ r.kind = p.kindFor k

/-- What is remembered is filed under its own key, and the names of kinds have no slash. -/
def Memory.Filed (m : Memory) : Prop :=
  ∀ key r, m.kinds.get? key = some r → key = r.key ∧ '/' ∉ r.kind.toList

/-- A kind that is found is the one that was asked for, and its name has no slash. -/
def Event.FindsKind : Event → Prop
  | ⟨.api (.discover version kind), .ok (some r)⟩ =>
    r.apiVersion = version ∧ r.kind = kind ∧ '/' ∉ kind.toList
  | _ => True

/-! ## Keys -/

theorem append_cons_inj {α : Type} {a : α} {xs ys xs' ys' : List α} (hx : a ∉ xs) (hx' : a ∉ xs')
    (h : xs ++ a :: ys = xs' ++ a :: ys') : xs = xs' ∧ ys = ys' := by
  induction xs generalizing xs' with
  | nil => cases xs' <;> simp_all
  | cons b xs ih => cases xs' <;> grind

theorem ApiResource.typeKey_inj {version version' kind kind' : String} (hk : '/' ∉ kind.toList)
    (hk' : '/' ∉ kind'.toList) (h : typeKey version kind = typeKey version' kind') :
    version = version' ∧ kind = kind' := by
  have hreverse (v k : String) :
      (v ++ "/" ++ k).toList.reverse = k.toList.reverse ++ '/' :: v.toList.reverse := by
    simp
  have hsame := (hreverse version kind).symm.trans
    ((congrArg (·.toList.reverse) h).trans (hreverse version' kind'))
  obtain ⟨hkind, hversion⟩ := append_cons_inj (by simpa using hk) (by simpa using hk') hsame
  exact ⟨String.toList_inj.1 (List.reverse_inj.1 hversion),
    String.toList_inj.1 (List.reverse_inj.1 hkind)⟩

namespace Memory.Filed

variable {m m' : Memory}

/-- Where the key of a kind tells the kind, all kinds are recalled as they are. -/
theorem recalls (hm : m.Filed) {p : Provider} {k : FacadeKind}
    (hk : '/' ∉ (p.kindFor k).toList) : m.Recalls p k := by
  intro r hr
  obtain ⟨hkey, hslash⟩ := hm _ r hr
  obtain ⟨hversion, hkind⟩ := ApiResource.typeKey_inj hk hslash hkey
  exact ⟨hversion.symm, hkind.symm⟩

theorem of_kinds_eq (hm : m.Filed) (h : m'.kinds = m.kinds) : m'.Filed := by
  unfold Filed
  rw [h]
  exact hm

/-- What is learnt is filed, if it was found. -/
theorem answer (hm : m.Filed) {c : MemoryCall} {h : List Event}
    (hc : Step.LearnsFound h (.memory c)) (hh : ∀ e ∈ h, e.FindsKind) : (m.answer c).2.Filed := by
  cases c with
  | learnKind key r =>
    obtain ⟨version, kind, rfl, hfound⟩ := hc
    obtain ⟨rfl, rfl, hslash⟩ := hh _ hfound
    intro key' r' hr'
    simp only [Memory.answer, Dict.get?_insert] at hr'
    split at hr'
    · next hkey =>
      obtain rfl := Option.some.inj hr'
      exact ⟨hkey.symm, hslash⟩
    · exact hm key' r' hr'
  | _ => exact hm.of_kinds_eq rfl

end Memory.Filed

/-- Every kind that is served is found as the one that was asked for. -/
theorem Cluster.findsKind_answer {s : Cluster} (hs : ∀ r ∈ s.served, '/' ∉ r.kind.toList)
    (c : Call) : Event.FindsKind ⟨.api c, (s.answer c).1⟩ := by
  cases c with
  | discover version kind =>
    show Event.FindsKind ⟨.api (.discover version kind),
      .ok (s.served.find? fun r => r.apiVersion = version ∧ r.kind = kind)⟩
    cases hfound : s.served.find? fun r => r.apiVersion = version ∧ r.kind = kind with
    | none => exact trivial
    | some r =>
      have hkind : r.apiVersion = version ∧ r.kind = kind := by simpa using List.find?_some hfound
      obtain ⟨rfl, rfl⟩ := hkind
      exact ⟨rfl, rfl, hs r (List.mem_of_find?_eq_some hfound)⟩
  | _ => exact trivial

namespace Facade

variable {k : FacadeKind}

theorem ensures_learns {α : Type} {x : Controller α} (hx : Only (fun c => ∀ h, c.LearnsFound h) x)
    (h : List Event) : Ensures Step.LearnsFound (fun _ _ => True) x h :=
  (Ensures.of_only hx fun t _ _ hc => hc (h ++ t)).mono fun _ _ _ => trivial

theorem provision_learns (f : Facade k) (interval : Duration) (now : Instant)
    (resource : ApiResource) (ns : String) (h : List Event) :
    Ensures Step.LearnsFound (fun _ _ => True) (f.provision interval now resource ns) h := by
  have hwrite (c : Call) (h : List Event) :
      Ensures Step.LearnsFound (fun _ _ => True) (unlessConflict (api c)) h :=
    ensures_learns (.unlessConflict (.api fun _ => trivial)) h
  have hsync : Ensures Step.LearnsFound (fun _ _ => True) (f.syncBackend resource ns) h := by
    refine syncBackend_ensures trivial ?unread ?unnamed ?missing ?refused ?current ?drifted
    case missing => exact fun b _ => hwrite (.createBackend resource ns b) _
    case drifted =>
      exact fun b _ _ => hwrite (.replaceBackend resource ns (b.withSpec f.specJson)) _
    all_goals intros; trivial
  refine provision_ensures hsync ?failed ?contested ?unreadable ?derived
  case derived =>
    exact fun b x h' _ _ =>
      ensures_learns (report_only (fun _ _ => trivial) fun _ => trivial) h'
  all_goals intros; trivial

/-- A run remembers nothing of kinds but what it has found. -/
theorem reconcile_learns (f : Facade k) (interval : Duration) (now : Instant) :
    Ensures Step.LearnsFound (fun _ _ => True) (f.reconcile interval now) [] := by
  have hstages : f.Stages interval now Step.LearnsFound (fun _ _ => True) (fun _ => True) :=
    { lookup := fun h c _ _ hc => ⟨hc, fun _ => trivial⟩
      stop := fun _ _ _ => trivial
      record := fun h c _ =>
        (ensures_learns (recordCondition_only fun _ _ => trivial) h).mono fun _ _ _ _ => trivial
      provision := fun h resource ns _ _ => f.provision_learns interval now resource ns h }
  exact hstages.reconcile trivial

end Facade

/-! ## Runs on one memory -/

/-- The controllers at work: what they remember, and the runs of facades that are in progress or
have ended. -/
structure Workload where
  memory : Memory := {}
  runs : List FacadeRun := []

namespace Workload

/-- What can happen next. A run of a facade begins, or asks the memory, or calls the API server and
gets any reply, except that the kinds that are found are those that were asked for and have no slash
in their names. Whatever else is remembered than kinds may change in any way. -/
inductive Next : Workload → Workload → Prop
  | begin (m : Memory) (runs) (f : AnyFacade) (interval : Duration) (now : Instant) :
    Next ⟨m, runs⟩ ⟨m, ⟨f, [], (f.2.reconcile interval now).run⟩ :: runs⟩
  | call (m : Memory) (before after) (f : AnyFacade) (past) (c : Call) (next) (r : c.Reply)
    (hr : Event.FindsKind ⟨.api c, r⟩) :
    Next ⟨m, before ++ ⟨f, past, .call (.api c) next⟩ :: after⟩
      ⟨m, before ++ ⟨f, past ++ [⟨.api c, r⟩], next r⟩ :: after⟩
  | ask (m : Memory) (before after) (f : AnyFacade) (past) (c : MemoryCall) (next) :
    Next ⟨m, before ++ ⟨f, past, .call (.memory c) next⟩ :: after⟩
      ⟨(m.answer c).2,
        before ++ ⟨f, past ++ [⟨.memory c, (m.answer c).1⟩], next (m.answer c).1⟩ :: after⟩
  | other (m m' : Memory) (runs) (h : m'.kinds = m.kinds) : Next ⟨m, runs⟩ ⟨m', runs⟩

end Workload

/-- What the run has found are the kinds it has asked for, and it will remember no others. -/
structure FacadeRun.Learning (r : FacadeRun) : Prop where
  found : ∀ e ∈ r.past, e.FindsKind
  learns : r.rest.Ensures Step.LearnsFound (fun _ _ => True) r.past

theorem FacadeRun.Learning.goesOn {f : AnyFacade} {past : List Event} {c : Step}
    {next : c.Reply → Program Step Step.Reply (Except Error Action)}
    (h : Learning ⟨f, past, .call c next⟩) {r : c.Reply} (hr : Event.FindsKind ⟨c, r⟩) :
    Learning ⟨f, past ++ [⟨c, r⟩], next r⟩ where
  found := List.forall_mem_append.2 ⟨h.found, List.forall_mem_singleton.2 hr⟩
  learns := h.learns.2 r

namespace Workload

structure Sound (w : Workload) : Prop where
  filed : w.memory.Filed
  runs : ∀ r ∈ w.runs, r.Learning

/-- When one of the runs goes on, all stays sound. -/
theorem Sound.goesOn {m m' : Memory} {before after : List FacadeRun} {r r' : FacadeRun}
    (h : Sound ⟨m, before ++ r :: after⟩) (hm' : m'.Filed) (hr' : r'.Learning) :
    Sound ⟨m', before ++ r' :: after⟩ := by
  obtain ⟨hbefore, hrest⟩ := List.forall_mem_append.1 h.runs
  exact ⟨hm', List.forall_mem_append.2
    ⟨hbefore, List.forall_mem_cons.2 ⟨hr', (List.forall_mem_cons.1 hrest).2⟩⟩⟩

/-- Whatever happens next, what is remembered stays filed. -/
theorem Sound.next {w w' : Workload} (h : w.Sound) (hnext : Next w w') : w'.Sound := by
  cases hnext with
  | begin m runs f interval now =>
    have hrun := f.2.reconcile_learns interval now
    exact ⟨h.filed, List.forall_mem_cons.2 ⟨⟨fun _ he => (nomatch he), hrun⟩, h.runs⟩⟩
  | call m before after f past c next r hr =>
    have hrun := h.runs ⟨f, past, .call (.api c) next⟩ (by simp)
    exact h.goesOn h.filed (hrun.goesOn hr)
  | ask m before after f past c next =>
    have hrun := h.runs ⟨f, past, .call (.memory c) next⟩ (by simp)
    exact h.goesOn (h.filed.answer hrun.learns.1 hrun.found) (hrun.goesOn trivial)
  | other m m' runs hkinds => exact ⟨h.filed.of_kinds_eq hkinds, h.runs⟩

theorem Sound.reached {w w' : Workload} (h : w.Sound) (hsteps : Relation.ReflTransGen Next w w') :
    w'.Sound := by
  induction hsteps with
  | refl => exact h
  | tail _ hnext ih => exact ih.next hnext

/-- A run that nobody interferes with goes on to its end. -/
theorem reaches_end (p : Program Step Step.Reply (Except Error Action)) (s : System)
    (hs : ∀ r ∈ s.cluster.served, '/' ∉ r.kind.toList) (f : AnyFacade) (past : List Event)
    (runs : List FacadeRun) :
    Relation.ReflTransGen Next ⟨s.memory, ⟨f, past, p⟩ :: runs⟩
      ⟨(p.run System.answer s).2.memory,
        ⟨f, past ++ p.trace System.answer s, .done (p.run System.answer s).1⟩ :: runs⟩ := by
  induction p generalizing s past with
  | done a =>
    simp only [Program.run, Program.trace, List.append_nil]
    exact .refl
  | call c next ih =>
    have hrest := ih (System.answer c s).1 (System.answer c s).2 ?served
      (past ++ [⟨c, (System.answer c s).1⟩])
    case served =>
      cases c with
      | api c => exact (s.cluster.effect_answer c).served ▸ hs
      | memory c => exact hs
    rw [List.append_assoc] at hrest
    refine .head ?_ hrest
    cases c with
    | api c => exact .call s.memory [] runs f past c next _ (Cluster.findsKind_answer hs c)
    | memory c => exact .ask s.memory [] runs f past c next

end Workload

/-- What the controllers may remember some time after they have started. -/
def Memory.Reached (m : Memory) : Prop :=
  ∃ m₀ runs, m₀.kinds = [] ∧ Relation.ReflTransGen Workload.Next ⟨m₀, []⟩ ⟨m, runs⟩

namespace Memory.Reached

variable {m : Memory} {k : FacadeKind} {f : Facade k} {s s' : System}

theorem of_kinds_nil (h : m.kinds = []) : m.Reached := ⟨m, [], h, .refl⟩

theorem filed (h : m.Reached) : m.Filed := by
  obtain ⟨m₀, runs, hnil, hsteps⟩ := h
  have hfiled : m₀.Filed := by
    intro key r hr
    rw [hnil] at hr
    cases hr
  have hstart : Workload.Sound ⟨m₀, []⟩ := ⟨hfiled, fun _ hr => nomatch hr⟩
  exact (hstart.reached hsteps).filed

/-- A run on a cluster that serves no kind with a slash in its name leads on. -/
theorem reconcile (h : s.memory.Reached) (hs : ∀ r ∈ s.cluster.served, '/' ∉ r.kind.toList)
    (interval : Duration) (now : Instant) {t : List Event} {r : Except Error Action}
    (hrun : Runs System.answer (f.reconcile interval now) s t r s') : s'.memory.Reached := by
  obtain ⟨m₀, runs, hnil, hsteps⟩ := h
  have hend := Workload.reaches_end (f.reconcile interval now).run s hs ⟨k, f⟩ [] runs
  have hmemory : ((f.reconcile interval now).run.run System.answer s).2.memory = s'.memory :=
    congrArg (·.2.memory) hrun.exec
  rw [hmemory] at hend
  exact ⟨m₀, _, hnil, (hsteps.tail (.begin s.memory runs ⟨k, f⟩ interval now)).trans hend⟩

end Memory.Reached

end ControlPlane
