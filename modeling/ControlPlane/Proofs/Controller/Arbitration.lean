import ControlPlane.Controller.Arbitration
import ControlPlane.Proofs.Controller.System
import ControlPlane.Proofs.Policy.Governing
import ControlPlane.Proofs.Policy.Stored
import Mathlib.Logic.Relation

/-!
# Races between arbitrations

Runs that arbitrate between the policies of a namespace work on snapshots of their own, which the
other runs and the authors of the policies make stale. What keeps two policies from becoming active
is a fact about the winner of each snapshot that stays true: while the winner has the version of the
snapshot it is active, or no policy is older and none is active. A policy that is created later is
younger, and one that another run makes active would have to be the oldest as well.
-/

namespace ControlPlane

open Controller

variable {ns : String} {s s' : Cluster} {policies : List Policy} {winner : Policy} {now : Instant}

/-! ## What a run knows -/

/-- What a run that listed the policies knows of them and of the one that it means to be active. -/
structure Snapshot (ns : String) (s : Cluster) (policies : List Policy) (winner : Policy) :
    Prop where
  named : ∀ p ∈ policies, p.metadata.anyName = winner.metadata.anyName → p = winner
  valid : ∀ p ∈ policies, PolicyStatus.Valid (p.status.getD default)
  versions : ∀ p ∈ policies, ∃ v, p.metadata.resourceVersion = some v ∧
    Cluster.GivenOut s.version v
  member : winner ∈ policies
  /-- While the winner is as it was, it is active or has the best claim. -/
  claim : ∀ q, s.HasPolicy ns q → q.metadata.anyName = winner.metadata.anyName →
    q.metadata.resourceVersion = winner.metadata.resourceVersion →
    q.isActive = true ∨ s.Foremost ns q

/-- What a run knows stays true whatever becomes of the policies. -/
theorem Snapshot.step (h : Snapshot ns s policies winner) (hc : Cluster.PolicyChange ns s s') :
    Snapshot ns s' policies winner := by
  refine ⟨h.named, h.valid, fun p hp => ?_, h.member, fun q hq hname hversion => ?_⟩
  · obtain ⟨v, hv, hout⟩ := h.versions p hp
    exact ⟨v, hv, hout.mono hc.version_le⟩
  obtain ⟨v, hv, hout⟩ := h.versions winner h.member
  cases hc with
  | shrinks _ present =>
    refine (h.claim q (present q hq) hname hversion).imp_right ?_
    intro hforemost p hp
    exact hforemost p (present p hp)
  | rewrites o o' old metadata active _ present =>
    rcases present q hq with rfl | ⟨hq, hne⟩
    · rw [metadata, hv] at hversion
      exact (hout.ne_nextVersion (Option.some.inj hversion).symm).elim
    refine (h.claim q hq hname hversion).imp_right ?_
    intro hforemost p hp
    rcases present p hp with rfl | ⟨hp, -⟩
    · obtain ⟨hage, hinactive⟩ := hforemost o old
      refine ⟨by rw [metadata]; exact hage, Bool.eq_false_iff.2 ?_⟩
      intro ha
      rcases active ha with ho | ho
      · rw [hinactive] at ho
        cases ho
      · exact hne (Metadata.anyName_eq_of_noYoungerThan hage (ho q hq).1)
    · exact hforemost p hp
  | grows o inactive fresh young _ present =>
    rcases present q hq with rfl | hq
    · rw [fresh, hv] at hversion
      exact (hout.ne_nextVersion (Option.some.inj hversion).symm).elim
    refine (h.claim q hq hname hversion).imp_right ?_
    intro hforemost p hp
    rcases present p hp with rfl | hp
    · exact ⟨young q hq, inactive⟩
    · exact hforemost p hp

/-- What a run knows when it has listed the policies. -/
theorem Snapshot.of_listed (hs : s.WellKept ns)
    (hlisted : (s.answer (.listPolicies ns)).1 = .ok policies)
    (hw : Policy.governing? (Policy.sort policies) = some winner) :
    Snapshot ns s (Policy.sort policies) winner := by
  have hmem {p : Policy} : p ∈ Policy.sort policies ↔ s.HasPolicy ns p :=
    Policy.mem_sort.trans (Cluster.mem_of_listed hlisted)
  have hgoverns := Policy.governs_governing (Policy.sort policies)
  rw [hw] at hgoverns
  have hwinner : winner ∈ Policy.sort policies := by
    rcases hgoverns with ⟨hmem, -⟩ | ⟨-, hmem, -⟩
    · exact (List.mem_filter.1 hmem).1
    · exact hmem
  refine ⟨fun p hp hname => hs.unique (hmem.1 hp) (hmem.1 hwinner) hname, fun p hp => ?_,
    fun p hp => hs.exists_version (hmem.1 hp), hwinner, fun q hq hname _ => ?_⟩
  · exact hs.validStatus (hmem.1 hp)
  · obtain rfl := hs.unique hq (hmem.1 hwinner) hname
    rcases hgoverns with ⟨hactive, -⟩ | ⟨hinactive, -, hold⟩
    · exact .inl (List.mem_filter.1 hactive).2
    · exact .inr fun p hp => ⟨hold p (hmem.2 hp), hinactive p (hmem.2 hp)⟩

/-! ## What a run does -/

/-- The steps of a run once it has its snapshot: it tells a policy its verdict, under the version of
the snapshot, or uses its memory. -/
inductive Announcement (ns : String) (now : Instant) (policies : List Policy) (winner : Policy) :
    Step → Prop
  | status (p : Policy) (hp : p ∈ policies) :
    Announcement ns now policies winner (.api (.patchPolicyStatus ns p.metadata.anyName
      p.metadata.resourceVersion ((p.status.getD default).setCondition
        (p.verdict now ns winner.metadata.anyName)).2))
  | memory (c : MemoryCall) : Announcement ns now policies winner (.memory c)

theorem announce_only (now : Instant) {rest : List Policy} (h : ∀ p ∈ rest, p ∈ policies) :
    Only (Announcement ns now policies winner)
      (Policy.announce now ns winner.metadata.anyName rest) := by
  induction rest with
  | nil => exact .pure
  | cons p rest ih =>
    have hwrite : Only (Announcement ns now policies winner)
        (Policy.writeStatus ns p ((p.status.getD default).setCondition
          (p.verdict now ns winner.metadata.anyName)).2) := by
      refine .tryCatch (.bind (.api (.status p (h p List.mem_cons_self))) fun _ => .pure) ?_
      intro e
      exact .ite .pure (.ite .pure .throw)
    have hrest (settled : Bool) : Only (Announcement ns now policies winner)
        (if settled then Policy.announce now ns winner.metadata.anyName rest else return false) := by
      cases settled with
      | true => exact ih fun q hq => h q (List.mem_cons_of_mem _ hq)
      | false => exact .pure
    unfold Policy.announce
    split
    next hset =>
      rw [hset] at hwrite
      exact .ite (.bind hwrite hrest) (.bind .pure hrest)

/-- What a run does with the policies that it listed. -/
def arbitrate (interval : Duration) (now : Instant) (ns : String) (p : Policy)
    (policies : List Policy) : Controller Action := do
  match Policy.governing? policies with
  | none => return .awaitChange
  | some winner =>
    if ← Policy.announce now ns winner.metadata.anyName policies then
      memory (.forgetFailures .policy p.key)
      return .requeue interval
    else return .requeue conflictPause

theorem reconcile_eq {p : Policy} (hns : p.metadata.ns = some ns) (interval : Duration)
    (now : Instant) : Policy.reconcile interval now p = (do
      let policies ← api (.listPolicies ns)
      arbitrate interval now ns p (Policy.sort policies)) := by
  unfold Policy.reconcile
  simp only [hns]
  rfl

theorem valid_verdict (hnow : now.Valid) (ns winner : String) (p : Policy) :
    (p.verdict now ns winner).Valid := by
  unfold Policy.verdict
  split <;>
  · intro t ht
    obtain rfl := Option.some.inj ht
    exact hnow

/-- A policy that is told that it is active is the winner. -/
theorem isReady_verdict {winner : String} {p : Policy} {t : PolicyStatus}
    (h : (t.setCondition (p.verdict now ns winner)).2.isReady = true) :
    p.metadata.anyName = winner := by
  by_cases hname : p.metadata.anyName = winner
  · exact hname
  · have hput := Condition.isTrue_put (p.verdict now ns winner) t.conditions
    have hverdict : p.verdict now ns winner = .ready now .fails Reason.activePolicyExists
      s!"policy {winner} is already active in namespace {ns}" := if_neg hname
    rw [hverdict] at hput h
    have hready := (congrArg (Condition.isTrue · Condition.readyType)
      (Condition.set_snd t.conditions _)).symm.trans h
    rw [show Condition.isTrue _ Condition.readyType = _ from hput] at hready
    cases hready

/-- A step after the snapshot changes the policies as it may. -/
theorem Announcement.change {x : System} (hx : x.cluster.WellKept ns)
    (h : Snapshot ns x.cluster policies winner) (hnow : now.Valid) {c : Step}
    (hc : Announcement ns now policies winner c) :
    (System.answer c x).2.cluster.WellKept ns ∧
      Cluster.PolicyChange ns x.cluster (System.answer c x).2.cluster := by
  cases hc with
  | memory c => exact ⟨hx, .refl _⟩
  | status p hp =>
    obtain ⟨v, hv, -⟩ := h.versions p hp
    have hvalid := Status.Valid.setCondition (h.valid p hp)
      (valid_verdict hnow ns winner.metadata.anyName p)
    refine Cluster.change_of_patch hx (by simp [hv]) hvalid ?_
    intro q hq hname hversion hready
    obtain rfl := h.named p hp (isReady_verdict hready)
    exact h.claim q hq hname hversion

/-- A run of an arbitration: it has not begun, has its snapshot or is done. -/
inductive ArbitrationRun (ns : String) (s : Cluster) :
    Program Step Step.Reply (Except Error Action) → Prop
  | waiting {p : Policy} (hns : p.metadata.ns = some ns) (interval : Duration) {now : Instant}
    (hnow : now.Valid) : ArbitrationRun ns s (Policy.reconcile interval now p).run
  | announcing {policies : List Policy} {winner : Policy} (h : Snapshot ns s policies winner)
    {now : Instant} (hnow : now.Valid) {x : Program Step Step.Reply (Except Error Action)}
    (hx : x.Only (Announcement ns now policies winner)) : ArbitrationRun ns s x
  | done (r : Except Error Action) : ArbitrationRun ns s (.done r)

namespace ArbitrationRun

/-- The steps of others leave a run to be one. -/
theorem mono {x : Program Step Step.Reply (Except Error Action)} (h : ArbitrationRun ns s x)
    (hc : Cluster.PolicyChange ns s s') : ArbitrationRun ns s' x := by
  cases h with
  | waiting hns interval hnow => exact .waiting hns interval hnow
  | announcing h hnow hx => exact .announcing (h.step hc) hnow hx
  | done r => exact .done r

theorem of_arbitrate {x : System} (hx : x.cluster.WellKept ns)
    (hlisted : (x.cluster.answer (.listPolicies ns)).1 = .ok policies) (interval : Duration)
    (hnow : now.Valid) (p : Policy) :
    ArbitrationRun ns x.cluster (arbitrate interval now ns p (Policy.sort policies)).run := by
  unfold arbitrate
  cases hw : Policy.governing? (Policy.sort policies) with
  | none => exact .done _
  | some winner =>
    refine .announcing (.of_listed hx hlisted hw) hnow ?_
    refine Only.bind (announce_only now fun p hp => hp) ?_
    intro settled
    cases settled with
    | true => exact .bind (.memory (.memory _)) fun _ => .pure
    | false => exact .pure

/-- A run takes its next step: it may change the policies, and stays a run. -/
theorem step {x : System} (hx : x.cluster.WellKept ns) {c : Step}
    {next : c.Reply → Program Step Step.Reply (Except Error Action)}
    (h : ArbitrationRun ns x.cluster (.call c next)) :
    (System.answer c x).2.cluster.WellKept ns ∧
      Cluster.PolicyChange ns x.cluster (System.answer c x).2.cluster ∧
      ArbitrationRun ns (System.answer c x).2.cluster (next (System.answer c x).1) := by
  generalize hprogram : Program.call c next = program at h
  cases h with
  | done r => cases hprogram
  | announcing h hnow honly =>
    subst hprogram
    obtain ⟨hkept, hchange⟩ := Announcement.change hx h hnow honly.1
    exact ⟨hkept, hchange, .announcing (h.step hchange) hnow (honly.2 _)⟩
  | @waiting p hns interval now hnow =>
    rw [reconcile_eq hns] at hprogram
    cases hprogram
    refine ⟨hx, .refl _, ?_⟩
    cases hlisted : (System.answer (.api (.listPolicies ns)) x).1 with
    | error e => exact .done _
    | ok policies => exact of_arbitrate hx hlisted interval hnow p

end ArbitrationRun

/-! ## Races -/

/-- Runs in progress on a system. -/
structure Race where
  system : System
  runs : List (Program Step Step.Reply (Except Error Action))

/-- What can happen next: a run begins or takes a step, or somebody deletes a policy, edits its spec
or creates one that is younger than all others. -/
inductive Race.Next (ns : String) : Race → Race → Prop
  | begin (x : System) (runs) (p : Policy) (hns : p.metadata.ns = some ns) (interval : Duration)
    (now : Instant) (hnow : now.Valid) :
    Next ns ⟨x, runs⟩ ⟨x, (Policy.reconcile interval now p).run :: runs⟩
  | step (x : System) (before after) (c : Step) (next) :
    Next ns ⟨x, before ++ .call c next :: after⟩
      ⟨(System.answer c x).2, before ++ next (System.answer c x).1 :: after⟩
  | delete (x : System) (runs) (name : String) :
    Next ns ⟨x, runs⟩ ⟨{ x with cluster := x.cluster.remove (Cluster.policy ns name) }, runs⟩
  | edit (x : System) (runs) (name : String) (spec : Json) (hspec : spec.Canonical)
    (hread : ∃ y, PolicySpec.codec.read spec = .ok y) :
    Next ns ⟨x, runs⟩ ⟨{ x with cluster :=
      (x.cluster.update (Cluster.policy ns name) none (·.withMember "spec" spec)).2 }, runs⟩
  | create (x : System) (runs) (m : Dict Json) (hm : (Json.object m).Canonical) (p : Policy)
    (hread : Policy.codec.read (.object m) = .ok p) (hns : p.metadata.ns = some ns)
    (hstatus : p.status = none)
    (hyoung : ∀ q, x.cluster.HasPolicy ns q → p.metadata.noYoungerThan q.metadata = false) :
    Next ns ⟨x, runs⟩ ⟨{ x with cluster :=
      (x.cluster.create (Cluster.policy ns p.metadata.anyName) (.object m)).2 }, runs⟩

namespace Race

/-- The policies are well kept, no two are active and all runs are runs of arbitrations. -/
structure Sound (ns : String) (r : Race) : Prop where
  kept : r.system.cluster.WellKept ns
  one : r.system.cluster.AtMostOneActive ns
  runs : ∀ x ∈ r.runs, ArbitrationRun ns r.system.cluster x

theorem Sound.change {r : Race} (h : r.Sound ns) {x : System} (hkept : x.cluster.WellKept ns)
    (hchange : Cluster.PolicyChange ns r.system.cluster x.cluster) : Sound ns ⟨x, r.runs⟩ where
  kept := hkept
  one := hkept.atMostOneActive_iff.2 (hchange.sole (h.kept.atMostOneActive_iff.1 h.one))
  runs y hy := (h.runs y hy).mono hchange

/-- Whatever happens next, the race stays sound. -/
theorem Sound.next {r r' : Race} (h : r.Sound ns) (hnext : Next ns r r') : r'.Sound ns := by
  cases hnext with
  | begin x runs p hns interval now hnow =>
    exact ⟨h.kept, h.one, List.forall_mem_cons.2 ⟨.waiting hns interval hnow, h.runs⟩⟩
  | step x before after c next =>
    have hrun := h.runs (.call c next) (by simp)
    obtain ⟨hkept, hchange, hrun'⟩ := hrun.step h.kept
    obtain ⟨-, hone, hruns⟩ := h.change hkept hchange
    refine ⟨hkept, hone, ?_⟩
    intro y hy
    rcases List.mem_append.1 hy with hy | hy
    · exact hruns y (List.mem_append_left _ hy)
    · rcases List.mem_cons.1 hy with rfl | hy
      · exact hrun'
      · exact hruns y (List.mem_append_right _ (List.mem_cons_of_mem _ hy))
  | delete x runs name =>
    obtain ⟨hkept, hchange⟩ := Cluster.change_of_removal h.kept name
    exact h.change (x := { x with cluster := _ }) hkept hchange
  | edit x runs name spec hspec hread =>
    obtain ⟨y, hy⟩ := hread
    obtain ⟨hkept, hchange⟩ := Cluster.change_of_edit h.kept hspec hy
    exact h.change (x := { x with cluster := _ }) hkept hchange
  | create x runs m hm p hread hns hstatus hyoung =>
    have holder (q : Policy) (hq : x.cluster.HasPolicy ns q) :
        q.metadata.noYoungerThan p.metadata = true :=
      (Metadata.noYoungerThan_total q.metadata p.metadata).resolve_right
        (by simp [hyoung q hq])
    obtain ⟨hkept, hchange⟩ := Cluster.change_of_creation h.kept hm hread hns hstatus holder
    exact h.change (x := { x with cluster := _ }) hkept hchange

/-- However many runs there are and however their steps are interleaved with those of others, no two
policies of the namespace become active. -/
theorem at_most_one_active (ns : String) (r r' : Race) (hkept : r.system.cluster.WellKept ns)
    (hone : r.system.cluster.AtMostOneActive ns) (hruns : r.runs = [])
    (h : Relation.ReflTransGen (Next ns) r r') : r'.system.cluster.AtMostOneActive ns := by
  have hsound : r'.Sound ns := by
    induction h with
    | refl => exact ⟨hkept, hone, by simp [hruns]⟩
    | tail _ hnext ih => exact ih.next hnext
  exact hsound.one

/-- Two runs are in progress, one of them with its snapshot, when the active policy is deleted. -/
theorem at_most_one_active_after_deletion :
    let alpha : Json := .object
      [("metadata", .object [("name", .string "alpha"), ("namespace", .string "team"),
          ("resourceVersion", .string "1")]), ("spec", .object []),
        ("status", .object [("conditions", .array [.object
          [("status", .string "True"), ("type", .string "Ready")]])])]
    let beta : Json := .object
      [("metadata", .object [("name", .string "beta"), ("namespace", .string "team"),
          ("resourceVersion", .string "2")]), ("spec", .object [])]
    let x : System :=
      { cluster := { version := 2, objects := fun c => if c = .policies then [alpha, beta] else [] } }
    ∃ r, Relation.ReflTransGen (Next "team") ⟨x, []⟩ r ∧ r.runs.length = 2 ∧
      r.system.cluster.objects .policies = [beta] ∧ r.system.cluster.AtMostOneActive "team" := by
  intro alpha beta x
  let p : Policy := ⟨⟨{ name := some "alpha", ns := some "team", resourceVersion := some "1" },
    ⟨⟨none, none, none⟩⟩⟩, some ⟨[⟨"Ready", .holds, "", "", none⟩], ()⟩⟩
  let q : Policy := ⟨⟨{ name := some "beta", ns := some "team", resourceVersion := some "2" },
    ⟨⟨none, none, none⟩⟩⟩, none⟩
  have hobjects {j : Json} (hj : j ∈ x.cluster.inNamespace .policies "team") :
      j = alpha ∨ j = beta := by
    simpa using (show j ∈ [alpha, beta] from hj)
  have hout (n : Nat) (hn : n ≤ 2) : Cluster.GivenOut 2 (toString n) := fun k hk h => by
    have := Cluster.toString_inj h
    omega
  have hkept : x.cluster.WellKept "team" := by
    refine ⟨by decide, fun j hj => ?_, fun j hj => ?_⟩
    · rcases hobjects hj with rfl | rfl <;>
        simp only [alpha, beta, Json.Canonical, Json.CanonicalMembers, Json.CanonicalItems,
          Dict.Sorted] <;>
        decide
    · rcases hobjects hj with rfl | rfl
      · exact ⟨p, _, rfl, rfl, hout 1 (by decide)⟩
      · exact ⟨q, _, rfl, rfl, hout 2 (by decide)⟩
  have hone : x.cluster.AtMostOneActive "team" := ⟨[p, q], rfl, by decide⟩
  have hsteps : Relation.ReflTransGen (Next "team") ⟨x, []⟩ _ :=
    (((Relation.ReflTransGen.refl.tail (.begin x [] p rfl (.ofSeconds 60) ⟨0, 0⟩
      ⟨rfl, .inl (by decide)⟩)).tail (.begin x _ q rfl (.ofSeconds 60) ⟨0, 0⟩
      ⟨rfl, .inl (by decide)⟩)).tail (.step x [] _ _ _)).tail (.delete _ _ "alpha")
  exact ⟨_, hsteps, rfl, rfl, at_most_one_active "team" ⟨x, []⟩ _ hkept hone rfl hsteps⟩

end Race

end ControlPlane
