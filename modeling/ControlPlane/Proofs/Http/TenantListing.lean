import ControlPlane.Operator
import ControlPlane.Proofs.Controller.Convergence
import ControlPlane.Proofs.Controller.GrantSubjects
import ControlPlane.Proofs.Policy.Choice

/-!
# How the tenants of a namespace are listed

A server that knows the field selector narrows the tenants down, and one that refuses it is asked
for all of them. Either way the tenants are listed in an order of the server's own. What the
controllers go on with is the same: the tenants that claim the namespace, by age. Whom inventories
take over from the tenants, and in which order, is therefore the same as well.
-/

namespace ControlPlane

namespace Tenant

variable {tenants listed others : List Tenant} {ns : String} {t : Tenant}

/-- Tenants with names of their own are put in a strict order. -/
theorem pairwise_sort (hn : (tenants.map (·.metadata.anyName)).Nodup) :
    (sort tenants).Pairwise fun t u => t.metadata.age < u.metadata.age := by
  have hsorted := Metadata.pairwise_sort (·.metadata) tenants
  have hnames : ((sort tenants).map (·.metadata.anyName)).Nodup :=
    ((List.mergeSort_perm tenants _).map _).nodup_iff.2 hn
  refine (hsorted.and (List.pairwise_map.1 hnames)).imp fun ⟨hle, hne⟩ => ?_
  exact lt_of_le_of_ne (Metadata.noYoungerThan_iff.1 hle) fun hage =>
    hne (Metadata.anyName_eq_of_age hage)

theorem sort_eq_of_perm (h : listed.Perm tenants)
    (hn : (tenants.map (·.metadata.anyName)).Nodup) : sort listed = sort tenants := by
  have hperm : (sort listed).Perm (sort tenants) :=
    (List.mergeSort_perm listed _).trans (h.trans (List.mergeSort_perm tenants _).symm)
  refine hperm.eq_of_pairwise (fun t u _ _ htu hut => ?_)
    (pairwise_sort ((h.map _).nodup_iff.2 hn)) (pairwise_sort hn)
  exact absurd hut htu.asymm

theorem pairwise_claiming (hn : (tenants.map (·.metadata.anyName)).Nodup) :
    (claiming tenants ns).Pairwise fun t u => t.metadata.age < u.metadata.age :=
  pairwise_sort ((List.filter_sublist.map _).nodup hn)

theorem mem_claiming : t ∈ claiming tenants ns ↔ t ∈ tenants ∧ t.spec.inventoryNamespace = ns := by
  simp [claiming, sort, claims]

/-- The tenants that claim a namespace are found among others too, in whatever order. -/
theorem claiming_eq_of_perm (hn : (tenants.map (·.metadata.anyName)).Nodup)
    (h : listed.Perm (tenants.filter (·.spec.inventoryNamespace = ns) ++ others))
    (hothers : ∀ t ∈ others, t.spec.inventoryNamespace ≠ ns) :
    claiming listed ns = claiming tenants ns := by
  have hnone : others.filter (·.claims ns) = [] :=
    List.filter_eq_nil_iff.2 fun t ht => by simpa [claims] using hothers t ht
  have hclaiming : (listed.filter (·.claims ns)).Perm (tenants.filter (·.claims ns)) := by
    have hfiltered := h.filter (·.claims ns)
    rw [List.filter_append, hnone, List.append_nil, List.filter_filter] at hfiltered
    simpa [claims] using hfiltered
  exact sort_eq_of_perm hclaiming ((List.filter_sublist.map _).nodup hn)

end Tenant

namespace Http

variable {α β σ : Type} {answer : Request → σ → Response × σ} {s s' : σ}

namespace Exchange

/-- What an exchange with a server finds, and the state of the server afterwards. -/
def exec (answer : Request → σ → Response × σ) (x : Exchange α) (s : σ) :
    Except ClusterError α × σ :=
  Program.run answer x.run s

variable {x : Exchange α} {a : α} {e : ClusterError} {handle : ClusterError → Exchange α}

/-- What follows on an exchange goes on from what it finds. -/
theorem run_bind {r : Except ClusterError α} (h : x.exec answer s = (r, s'))
    (f : Except ClusterError α → Program Request (fun _ => Response) β) :
    (Program.bind x.run f).run answer s = (f r).run answer s' := by
  unfold exec at h
  rw [Program.run_bind, h]

theorem exec_tryCatch_ok (h : x.exec answer s = (.ok a, s')) :
    (tryCatch x handle : Exchange α).exec answer s = (.ok a, s') :=
  run_bind h _

theorem exec_tryCatch_error (h : x.exec answer s = (.error e, s')) :
    (tryCatch x handle : Exchange α).exec answer s = (handle e).exec answer s' :=
  run_bind h _

theorem exec_map {f : α → β} (h : x.exec answer s = (.ok a, s')) :
    (f <$> x : Exchange β).exec answer s = (.ok (f a), s') :=
  run_bind h _

/-- A call is replied to with what its exchange finds. -/
theorem run_reply (h : x.exec answer s = (.ok a, s')) :
    (reply x).run answer s = (.ok a, s') :=
  run_bind h _

end Exchange

/-- Asked for the tenants that claim a namespace the server lists them, from `s` on and up to `s'`.
One that knows the selector lists them in any order, and others beside them. One that refuses it as
a bad request lists all tenants in any order when it is asked for all. -/
inductive ListsTenants (answer : Request → σ → Response × σ) (all : List Tenant) (ns : String)
    (s s' : σ) : Prop where
  | narrowed {listed others : List Tenant}
    (hlisted : (tenants.list Tenant.codec (some (claimSelector ns))).exec answer s =
      (.ok listed, s'))
    (hperm : listed.Perm (all.filter (·.spec.inventoryNamespace = ns) ++ others))
    (hothers : ∀ t ∈ others, t.spec.inventoryNamespace ≠ ns)
  | refused {a : ApiError} {listed : List Tenant} {s₁ : σ}
    (hrefused : (tenants.list Tenant.codec (some (claimSelector ns))).exec answer s =
      (.error (.api a), s₁))
    (hcode : a.code = 400)
    (hlisted : (tenants.list Tenant.codec none).exec answer s₁ = (.ok listed, s'))
    (hperm : listed.Perm all)

variable {all : List Tenant} {ns : String} {manager : String}

/-- Either way the controllers are told of the tenants that claim the namespace, among others. -/
theorem ListsTenants.candidates (h : ListsTenants answer all ns s s') :
    ∃ listed others : List Tenant, (candidates ns).exec answer s = (.ok listed, s') ∧
      listed.Perm (all.filter (·.spec.inventoryNamespace = ns) ++ others) ∧
      ∀ t ∈ others, t.spec.inventoryNamespace ≠ ns := by
  cases h with
  | @narrowed listed others hlisted hperm hothers =>
    exact ⟨listed, others, Exchange.exec_tryCatch_ok hlisted, hperm, hothers⟩
  | @refused a listed s₁ hrefused hcode hlisted hperm =>
    -- Here the others are all tenants that do not claim the namespace.
    refine ⟨listed, all.filter fun t => !decide (t.spec.inventoryNamespace = ns), ?_, ?_, ?_⟩
    · refine (Exchange.exec_tryCatch_error hrefused).trans ?_
      simp only [if_pos hcode]
      exact hlisted
    · exact hperm.trans (List.filter_append_perm _ all).symm
    · exact fun t ht => by simpa using (List.mem_filter.1 ht).2

theorem ListsTenants.run (hn : (all.map (·.metadata.anyName)).Nodup)
    (h : ListsTenants answer all ns s s') :
    (converse manager (.listTenants ns)).run answer s = (.ok (Tenant.claiming all ns), s') := by
  obtain ⟨listed, others, hlisted, hperm, hothers⟩ := h.candidates
  rw [← Tenant.claiming_eq_of_perm hn hperm hothers]
  exact Exchange.run_reply (Exchange.exec_map hlisted)

/-- The steps of the controllers where calls are made by requests to a server, which is kept beside
the memory of the controllers. -/
def serve (manager : String) (answer : Request → σ → Response × σ) :
    (c : Step) → σ × Memory → c.Reply × (σ × Memory)
  | .api c, (s, memory) =>
    let (r, s) := (converse manager c).run answer s
    (r, (s, memory))
  | .memory c, (s, memory) =>
    let (r, memory) := memory.answer c
    (r, (s, memory))

/-- The steps of the operator are answered in this way by its own server. -/
theorem serve_operator (c : Step) (o : Operator) :
    serve o.manager Server.answer c (o.server, o.memory) =
      ((o.answer c).1, ((o.answer c).2.server, (o.answer c).2.memory)) := by
  cases c <;> rfl

/-- Where the server lists the tenants whenever it is asked, the inventories are given out to those
whom they name or else to those whom the tenants that claim the namespace name. -/
theorem ListsTenants.grants (hn : (all.map (·.metadata.anyName)).Nodup)
    (h : ∀ s, ∃ s', ListsTenants answer all ns s s') {before after : σ × Memory} {t : List Event}
    {gs : Grants}
    (hrun : Controller.Runs (serve manager answer) (Controller.grants ns) before t (.ok gs) after) :
    ∃ inventories : List Inventory, ⟨.api (.listInventories ns), .ok inventories⟩ ∈ t ∧
      gs.inventories.map Grant.outline =
        inventories.map fun i => (i.viewed ns, i.readers (Tenant.claiming all ns)) := by
  obtain ⟨inventories, claimed, viewers, s₁, s₂, t', rfl, -, hclaimed, rfl⟩ :=
    Controller.grants_told hrun
  -- Listing the inventories may have changed the server; it lists the tenants all the same.
  obtain ⟨s', hlisted⟩ := h s₁.1
  rw [serve, hlisted.run hn] at hclaimed
  obtain rfl := Except.ok.inj (congrArg Prod.fst hclaimed)
  refine ⟨inventories, List.mem_cons_self, ?_⟩
  simp [Controller.grantsFor, Grant.outline, subjects_inventoryViewers]

/-- Of tenants with names of their own the controllers find those that claim a namespace, each once
and by age: those without a time of creation first, then by that time, then by name. They find the
same whether the server narrows the tenants down or refuses to, in whichever order it lists them.
So those whom an inventory without readers of its own is left to are the same too, and in the same
order, as long as the server lists the tenants in one of these ways. -/
theorem tenants_found_alike (all : List Tenant) (ns : String)
    (hn : (all.map (·.metadata.anyName)).Nodup) :
    ∃ claimed : List Tenant,
      (∀ t, t ∈ claimed ↔ t ∈ all ∧ t.spec.inventoryNamespace = ns) ∧
      claimed.Nodup ∧
      claimed.Pairwise (fun t u => t.metadata.age < u.metadata.age) ∧
      ∀ (manager : String) (σ : Type) (answer : Request → σ → Response × σ),
        (∀ s s', ListsTenants answer all ns s s' →
          (converse manager (.listTenants ns)).run answer s = (.ok claimed, s')) ∧
        ((∀ s, ∃ s', ListsTenants answer all ns s s') → ∀ before t gs after,
          Controller.Runs (serve manager answer) (Controller.grants ns) before t (.ok gs) after →
          ∃ inventories : List Inventory, ⟨.api (.listInventories ns), .ok inventories⟩ ∈ t ∧
            gs.inventories.map Grant.outline =
              inventories.map (fun i => (i.viewed ns, i.readers claimed)) ∧
            ∀ i ∈ inventories, i.declaredAuthz? = none →
              i.readers claimed = (claimed.flatMap (·.spec.authz.named)).eraseDups) := by
  have hage : (Tenant.claiming all ns).Pairwise fun t u => t.metadata.age < u.metadata.age :=
    Tenant.pairwise_claiming hn
  refine ⟨Tenant.claiming all ns, fun t => Tenant.mem_claiming, ?_, hage,
    fun manager σ answer => ⟨fun s s' h => h.run hn, fun h before t gs after hrun => ?_⟩⟩
  · refine hage.imp fun hlt => ?_
    rintro rfl
    exact lt_irrefl _ hlt
  · obtain ⟨inventories, htold, houtline⟩ := ListsTenants.grants hn h hrun
    exact ⟨inventories, htold, houtline, fun i _ hi => Inventory.readers_of_undeclared _ hi⟩

/-- One server narrows the tenants down and one refuses to, and they list them in different
orders. -/
theorem tenants_found_alike_by_two_servers :
    let tenant (name : String) : Tenant := ⟨{ name := some name }, ⟨"t", ⟨[], []⟩⟩⟩
    let item (name : String) : String := "\x7b\"metadata\":\x7b\"name\":\"" ++ name ++
      "\"\x7d,\"spec\":\x7b\"inventoryNamespace\":\"t\"\x7d\x7d"
    let page (first second : String) : Response :=
      ⟨200, "\x7b\"metadata\":\x7b\x7d,\"items\":[" ++ first ++ "," ++ second ++ "]\x7d"⟩
    let narrowing (_ : Request) (_ : Unit) : Response × Unit := (page (item "b") (item "a"), ())
    let refusing (r : Request) (_ : Unit) : Response × Unit :=
      if r.uri = tenants.path ++ "?" then (page (item "a") (item "b"), ())
      else (⟨400, "field label not supported"⟩, ())
    (converse "m" (.listTenants "t")).run narrowing () = (.ok [tenant "a", tenant "b"], ()) ∧
      (converse "m" (.listTenants "t")).run refusing () = (.ok [tenant "a", tenant "b"], ()) := by
  intro tenant item page narrowing refusing
  have hnames : ([tenant "a", tenant "b"].map (·.metadata.anyName)).Nodup := by decide
  obtain ⟨claimed, hmem, hnodup, hage, hfound⟩ :=
    tenants_found_alike [tenant "a", tenant "b"] "t" hnames
  have hclaimed : claimed = [tenant "a", tenant "b"] := by
    have hperm : claimed.Perm [tenant "a", tenant "b"] :=
      (List.perm_ext_iff_of_nodup hnodup (by decide)).2 fun t => by
        rw [hmem]
        simp only [List.mem_cons, List.not_mem_nil, or_false, and_iff_left_iff_imp]
        rintro (rfl | rfl) <;> rfl
    refine hperm.eq_of_pairwise (fun t u _ _ htu hut => absurd hut htu.asymm) hage ?_
    exact List.pairwise_pair.2 (Metadata.age_lt_iff.2 (by decide))
  have hnarrowed : ListsTenants narrowing [tenant "a", tenant "b"] "t" () () := by
    have hlisted : (tenants.list Tenant.codec (some (claimSelector "t"))).exec narrowing () =
        (.ok [tenant "b", tenant "a"], ()) := by decide +kernel
    exact .narrowed hlisted (List.Perm.swap (tenant "a") (tenant "b") []) fun t ht => nomatch ht
  have hrefused : ListsTenants refusing [tenant "a", tenant "b"] "t" () () := by
    have hrefusal : (tenants.list Tenant.codec (some (claimSelector "t"))).exec refusing () =
        (.error (.api ⟨"400 Bad Request", "\"field label not supported\"",
          "Failed to parse error data", 400⟩), ()) := by decide +kernel
    have hlisted : (tenants.list Tenant.codec none).exec refusing () =
        (.ok [tenant "a", tenant "b"], ()) := by decide +kernel
    exact .refused hrefusal rfl hlisted (.refl _)
  rw [hclaimed] at hfound
  exact ⟨(hfound "m" Unit narrowing).1 () () hnarrowed, (hfound "m" Unit refusing).1 () () hrefused⟩

end Http

end ControlPlane
