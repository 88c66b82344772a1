import ControlPlane.Proofs.Controller.Arbitration
import ControlPlane.Proofs.Policy.Listed

/-!
# Verdicts on policies

A run of an arbitration that nobody interferes with tells every policy of the namespace its
verdict. Only those that were told something else before are written, and only the first `Ready`
condition of these is another one afterwards. The policy that governs is then the only active one,
so it goes on to govern, and later runs find that everybody has been told.
-/

namespace ControlPlane.Policy

open Controller

variable {ns winner : String} {policies rest : List Policy} {p q : Policy} {now : Instant}
  {s : System}

/-! ## Policies that have been told -/

/-- The first `Ready` condition of a policy says whether the policy is the one named `winner`, and
which one governs if it is not. -/
def Told (ns winner : String) (p : Policy) : Prop :=
  ∃ c ∈ Condition.find? p.conditions Condition.readyType,
    if p.metadata.anyName = winner then
      c.Says .holds Reason.ready "policy is active for the namespace"
    else
      c.Says .fails Reason.activePolicyExists
        s!"policy {winner} is already active in namespace {ns}"

instance (ns winner : String) : DecidablePred (Told ns winner) := fun p =>
  inferInstanceAs (Decidable (∃ c, c ∈ Condition.find? p.conditions Condition.readyType ∧ _))

/-- The status of a policy once it is told its verdict. -/
def toldStatus (now : Instant) (ns winner : String) (p : Policy) : PolicyStatus :=
  ((p.status.getD default).setCondition (p.verdict now ns winner)).2

theorem type_verdict (now : Instant) (ns winner : String) (p : Policy) :
    (p.verdict now ns winner).type = Condition.readyType := by
  unfold verdict
  split <;> rfl

/-- A policy has been told if its first `Ready` condition says what the verdict does. -/
theorem told_iff (now : Instant) : Told ns winner p ↔
    ∃ c ∈ Condition.find? p.conditions (p.verdict now ns winner).type,
      c.Says (p.verdict now ns winner).status (p.verdict now ns winner).reason
        (p.verdict now ns winner).message := by
  rw [type_verdict, Told, verdict]
  split <;> rfl

theorem setCondition_verdict (now : Instant) (ns winner : String) (p : Policy) :
    (p.status.getD default).setCondition (p.verdict now ns winner) =
      (decide (¬ Told ns winner p), toldStatus now ns winner p) := by
  refine Prod.ext (Bool.eq_iff_iff.2 ?_) rfl
  rw [decide_eq_true_iff, told_iff now, ← Bool.not_eq_false]
  exact not_congr Condition.set_fst_eq_false_iff_says

theorem conditions_toldStatus (now : Instant) (ns winner : String) (p : Policy) :
    (toldStatus now ns winner p).conditions =
      Condition.put (p.verdict now ns winner) p.conditions :=
  Condition.set_snd _ _

/-- A policy that has been told is active if it is the one that governs. -/
theorem Told.isActive_iff (h : Told ns winner p) :
    p.isActive = true ↔ p.metadata.anyName = winner := by
  obtain ⟨c, hc, hverdict⟩ := h
  have hactive : p.isActive = decide (c.status = .holds) := by
    unfold Policy.isActive Observed.isReady
    unfold Policy.conditions at hc
    cases hstatus : p.status with
    | none =>
      rw [hstatus] at hc
      cases hc
    | some t =>
      rw [hstatus] at hc
      simp only [Status.isReady, Condition.isTrue]
      rw [show Condition.find? t.conditions Condition.readyType = some c from hc]
  rw [hactive, decide_eq_true_iff]
  split at hverdict
  · next hname => exact ⟨fun _ => hname, fun _ => hverdict.1⟩
  · next hname =>
    refine ⟨fun hholds => ?_, fun hn => (hname hn).elim⟩
    rw [hverdict.1] at hholds
    cases hholds

/-- What becomes of a policy when all are told their verdicts: nothing but its first `Ready`
condition and its version is another, and nothing at all if it had been told before. -/
structure Informed (ns winner : String) (p q : Policy) : Prop where
  metadata : ∃ version, q.metadata = { p.metadata with resourceVersion := version }
  spec : q.spec = p.spec
  conditions : Condition.Revised Condition.readyType p.conditions q.conditions
  told : Told ns winner q
  kept : Told ns winner p → q = p

theorem revised_verdict (now : Instant) (ns winner : String) (p : Policy) :
    Condition.Revised Condition.readyType p.conditions
      (Condition.put (p.verdict now ns winner) p.conditions) := by
  rw [← type_verdict now ns winner p]
  exact Condition.revised_put _ _

theorem Told.informed (h : Told ns winner p) : Informed ns winner p p where
  metadata := ⟨p.metadata.resourceVersion, rfl⟩
  spec := rfl
  conditions := by
    have hrevised := revised_verdict default ns winner p
    rwa [Condition.put_of_unchanged
      (Condition.set_fst_eq_false_iff_says.2 ((told_iff default).1 h))] at hrevised
  told := h
  kept _ := rfl

theorem informed_withStatus (h : ¬ Told ns winner p) (now : Instant) (version : String) :
    Informed ns winner p (p.withStatus version (toldStatus now ns winner p)) where
  metadata := ⟨some version, rfl⟩
  spec := rfl
  conditions := by
    rw [conditions_withStatus, conditions_toldStatus]
    exact revised_verdict now ns winner p
  told := by
    refine (told_iff now).2 ?_
    rw [conditions_withStatus, conditions_toldStatus]
    exact ⟨_, Condition.find?_put _ _, Condition.says_recorded _ _⟩
  kept htold := (h htold).elim

/-! ## A run -/

theorem announce_cons_told (h : Told ns winner p) :
    announce now ns winner (p :: rest) = announce now ns winner rest := by
  rw [announce, setCondition_verdict]
  simp only [h, not_true_eq_false, decide_false, Bool.false_eq_true, if_false]
  rfl

theorem announce_cons (h : ¬ Told ns winner p) :
    announce now ns winner (p :: rest) = (do
      let settled ← writeStatus ns p (toldStatus now ns winner p)
      if settled then announce now ns winner rest else return false) := by
  rw [announce, setCondition_verdict]
  simp only [h, not_false_eq_true, decide_true, if_true]

/-- Where everybody has been told nothing is written. -/
theorem announce_of_told (h : ∀ p ∈ rest, Told ns winner p) :
    Runs System.answer (announce now ns winner rest) s [] (.ok true) s := by
  induction rest with
  | nil => exact .pure
  | cons p rest ih =>
    rw [announce_cons_told (h p List.mem_cons_self)]
    exact ih fun q hq => h q (List.mem_cons_of_mem _ hq)

/-- The step by which a policy is told its verdict, when it succeeds. -/
def telling (now : Instant) (ns winner : String) (p : Policy) : Event :=
  ⟨.api (.patchPolicyStatus ns p.metadata.anyName p.metadata.resourceVersion
    (toldStatus now ns winner p)), .ok ()⟩

theorem runs_writeStatus {s' : Cluster}
    (h : s.cluster.answer (.patchPolicyStatus ns p.metadata.anyName p.metadata.resourceVersion
      (toldStatus now ns winner p)) = (.ok (), s')) :
    Runs System.answer (writeStatus ns p (toldStatus now ns winner p)) s
      [telling now ns winner p] (.ok true) { s with cluster := s' } := by
  have hcall : System.answer (.api (.patchPolicyStatus ns p.metadata.anyName
      p.metadata.resourceVersion (toldStatus now ns winner p))) s =
      (.ok (), { s with cluster := s' }) := by
    simp only [System.answer, h]
  exact ((Runs.api hcall).bind_nil (f := fun _ => pure true) .pure).tryCatch

/-- The policies that were not told are told one by one, and the others stay as they are. -/
theorem announce_informs (winner : String) (hnow : now.Valid) (hs : s.cluster.Lists ns policies)
    (hrest : ∀ p ∈ rest, p ∈ policies) (hn : (rest.map (·.metadata.anyName)).Nodup) :
    ∃ s' after, Runs System.answer (announce now ns winner rest) s
        ((rest.filter fun p => ¬ Told ns winner p).map (telling now ns winner)) (.ok true) s' ∧
      s'.cluster.Lists ns after ∧
      List.Forall₂ (fun p q => (p ∈ rest → Informed ns winner p q) ∧ (p ∉ rest → q = p))
        policies after := by
  induction rest generalizing s policies with
  | nil => exact ⟨s, policies, .pure, hs, List.forall₂_same.2 fun p _ => ⟨nofun, fun _ => rfl⟩⟩
  | cons p rest ih =>
    obtain ⟨hfresh, hn⟩ := List.nodup_cons.1 hn
    have hp := hrest p List.mem_cons_self
    have hrest := fun q hq => hrest q (List.mem_cons_of_mem _ hq)
    have hother {q : Policy} (hq : q ∈ rest) : q.metadata.anyName ≠ p.metadata.anyName :=
      fun heq => hfresh (List.mem_map.2 ⟨q, hq, heq⟩)
    by_cases htold : Told ns winner p
    · obtain ⟨s', after, hrun, hlists, hall⟩ := ih hs hrest hn
      refine ⟨s', after, ?_, hlists, hall.imp ?_⟩
      · rwa [announce_cons_told htold, List.filter_cons_of_neg (by simpa using htold)]
      · rintro q q' ⟨hin, hout⟩
        refine ⟨fun hq => ?_, fun hq => hout fun hmem => hq (List.mem_cons_of_mem _ hmem)⟩
        rcases List.mem_cons.1 hq with rfl | hq
        · rw [hout fun hmem => hother hmem rfl]
          exact htold.informed
        · exact hin hq
    · have hvalid : PolicyStatus.Valid (toldStatus now ns winner p) :=
        Status.Valid.setCondition (hs.validStatus hp) (valid_verdict hnow ns winner p)
      obtain ⟨c, hcall, hlists⟩ := hs.patch hp hvalid
      have hkept {q : Policy} (hq : q.metadata.anyName ≠ p.metadata.anyName) :
          (if q.metadata.anyName = p.metadata.anyName then
            p.withStatus s.cluster.nextVersion (toldStatus now ns winner p) else q) = q := if_neg hq
      obtain ⟨s', after, hrun, hlists, hall⟩ := ih (s := { s with cluster := c }) hlists
        (fun q hq => List.mem_map.2 ⟨q, hrest q hq, hkept (hother hq)⟩) hn
      refine ⟨s', after, ?_, hlists, ?_⟩
      · rw [announce_cons htold, List.filter_cons_of_pos (by simpa using htold)]
        exact (runs_writeStatus hcall).bind hrun
      · have hall := (List.forall₂_and_left _ _).2
          ⟨fun q (hq : q ∈ policies) => hq, List.forall₂_map_left_iff.1 hall⟩
        refine hall.imp ?_
        rintro q q' ⟨hq, hin, hout⟩
        by_cases hname : q.metadata.anyName = p.metadata.anyName
        · -- This is the policy that was written, and it is not written again.
          obtain rfl := hs.unique hq hp hname
          rw [if_pos rfl] at hout
          rw [hout fun hmem => hother hmem rfl]
          exact ⟨fun _ => informed_withStatus htold now _, fun h => (h List.mem_cons_self).elim⟩
        · rw [if_neg hname] at hin hout
          refine ⟨fun hmem => ?_, fun hmem => hout fun h => hmem (List.mem_cons_of_mem _ h)⟩
          rcases List.mem_cons.1 hmem with rfl | hmem
          · exact (hname rfl).elim
          · exact hin hmem

/-- Of policies that were told the verdicts the one that governs is the only active one. -/
theorem sole_of_told (hs : s.cluster.Lists ns policies) (htold : ∀ p ∈ policies, Told ns winner p)
    (hp : p ∈ policies) (hname : p.metadata.anyName = winner) :
    policies.filter (·.isActive) = [p] :=
  filter_eq_singleton hs.distinct hp fun q hq => hname ▸ (htold q hq).isActive_iff

/-- Where the only active policy governs and everybody has been told, a run writes nothing. -/
theorem reconcile_quiet (hs : s.cluster.Lists ns policies)
    (hw : policies.filter (·.isActive) = [p]) (hname : p.metadata.anyName = winner)
    (htold : ∀ p ∈ policies, Told ns winner p) (hq : q.metadata.ns = some ns)
    (interval : Duration) (now : Instant) :
    Quiet (reconcile interval now q) s (.ok (.requeue interval)) := by
  have hlist : Observes (api (.listPolicies ns)) s (.ok policies) :=
    .api (c := .listPolicies ns) trivial hs.listed
  have hgoverning : governing? (sort policies) = some p :=
    (governing?_sort policies).trans (governing?_of_sole hw)
  have hannounce : Observes (announce now ns p.metadata.anyName (sort policies)) s (.ok true) := by
    rw [hname]
    exact ⟨[], announce_of_told fun x hx => htold x (mem_sort.1 hx), fun _ he => nomatch he⟩
  rw [reconcile_eq hq]
  refine hlist.bind_quiet ?_
  simp only [arbitrate, hgoverning]
  refine hannounce.bind_quiet ?_
  exact .memory (Observes.pure _ _).quiet

/-- A run tells everybody who has not been told that the policy that governs does, and where nothing
changes afterwards further runs have nothing to write. -/
theorem reconcile_tells (hs : s.cluster.Lists ns policies) (hne : policies ≠ [])
    (hp : p.metadata.ns = some ns) (interval : Duration) (hnow : now.Valid) :
    ∃ winner after s', governing? policies = some winner ∧
      Runs System.answer (reconcile interval now p) s
        (⟨.api (.listPolicies ns), .ok policies⟩ ::
          ((sort policies).filter fun q => ¬ Told ns winner.metadata.anyName q).map
            (telling now ns winner.metadata.anyName) ++
          [⟨.memory (.forgetFailures .policy p.key), ()⟩])
        (.ok (.requeue interval)) s' ∧
      s'.cluster.Lists ns after ∧
      List.Forall₂ (Informed ns winner.metadata.anyName) policies after ∧
      (∃ w, after.filter (·.isActive) = [w] ∧ w.metadata.anyName = winner.metadata.anyName) ∧
      ∀ s₁ : System, s₁.cluster = s'.cluster → ∀ q : Policy, q.metadata.ns = some ns →
        ∀ (interval : Duration) (now : Instant),
          Quiet (reconcile interval now q) s₁ (.ok (.requeue interval)) := by
  obtain ⟨winner, hwinner, hgoverning⟩ := exists_governing hne
  have hgoverning' := (governing?_sort policies).trans hgoverning
  have hn : ((sort policies).map (·.metadata.anyName)).Nodup :=
    ((List.mergeSort_perm policies _).map _).nodup_iff.2 hs.distinct
  obtain ⟨s', after, hrun, hlists, hall⟩ := announce_informs winner.metadata.anyName hnow hs
    (fun q hq => mem_sort.1 hq) hn
  have hinformed : List.Forall₂ (Informed ns winner.metadata.anyName) policies after := by
    refine ((List.forall₂_and_left _ _).2 ⟨fun q (hq : q ∈ policies) => hq, hall⟩).imp ?_
    rintro q q' ⟨hq, hin, -⟩
    exact hin (mem_sort.2 hq)
  have htold := hinformed.forall_mem_right fun _ _ h => h.told
  -- The policy that governs is among the policies afterwards, under its name.
  have hnames := hinformed.map_eq_map (f := (·.metadata.anyName)) (g := (·.metadata.anyName))
    fun q q' h => by
      obtain ⟨v, hv⟩ := h.metadata
      rw [hv]
      rfl
  obtain ⟨w, hw, hname⟩ := List.mem_map.1 (hnames ▸ List.mem_map_of_mem hwinner)
  have hsole := sole_of_told hlists htold hw hname
  refine ⟨winner, after, { s' with memory := (s'.memory.answer (.forgetFailures .policy p.key)).2 },
    hgoverning, ?_, hlists, hinformed, ⟨w, hsole, hname⟩, ?_⟩
  · have hlist : Runs System.answer (api (.listPolicies ns)) s _ (.ok policies) s :=
      .api (Prod.ext hs.listed rfl)
    rw [reconcile_eq hp]
    refine hlist.bind ?_
    simp only [arbitrate, hgoverning']
    refine hrun.bind ?_
    exact (Runs.memory rfl).bind_nil .pure
  · intro s₁ hs₁ q hq interval now
    have hlists₁ : s₁.cluster.Lists ns after := by
      rw [hs₁]
      exact hlists
    exact reconcile_quiet hlists₁ hsole hname htold hq interval now

end ControlPlane.Policy
