import ControlPlane.Facade.Dependents
import ControlPlane.Proofs.Cluster.Difference
import ControlPlane.Proofs.Controller.Convergence

/-!
# Events that change the grants of a namespace

The grants of a namespace are made from its inventories, from the tenants that claim it, and from
what reviews say. When an inventory or a tenant is created, updated or deleted, the event has one
namespace reconciled, and no other grants have changed, unless a tenant was updated to claim another
namespace than before: the event shows the new claim alone.
-/

namespace ControlPlane

open Controller

/-- Answers what the cluster holds, and to reviews what `ask` says. -/
def System.answerAsking (ask : AccessQuestion → Except Error SubjectSet) :
    (c : Step) → System → c.Reply × System
  | .api (.review q), s => (ask q, s)
  | c, s => System.answer c s

/-- The inventories of the namespace, the tenants that claim it or the grants that follow from them
are not the same in the two systems. -/
def GrantsDiffer (ask : AccessQuestion → Except Error SubjectSet) (ns : String)
    (s s' : System) : Prop :=
  (s'.cluster.answer (.listInventories ns)).1 ≠ (s.cluster.answer (.listInventories ns)).1 ∨
    (s'.cluster.answer (.listTenants ns)).1 ≠ (s.cluster.answer (.listTenants ns)).1 ∨
    (exec (System.answerAsking ask) (grants ns) s').1 ≠
      (exec (System.answerAsking ask) (grants ns) s).1

/-- An object that grants are made from. -/
inductive GrantObject
  | inventory (i : Inventory)
  | tenant (t : Tenant)

namespace GrantObject

variable {c : Collection} {p : ObjectRef} {x : Option GrantObject} {s s' : Cluster} {ns : String}

def collection : GrantObject → Collection
  | inventory _ => .facades .inventory
  | tenant _ => .tenants

/-- The members of an object read as this one. -/
def ReadFrom (m : Dict Json) : GrantObject → Prop
  | inventory i => Inventory.codec.read (.object m) = .ok i
  | tenant t => Tenant.codec.read (.object m) = .ok t

/-- The namespace that is reconciled after an event which shows the object. -/
def grantNamespace? : GrantObject → Option ObjectRef
  | inventory i => i.metadata.grantNamespace?
  | tenant t => t.grantNamespace?

/-- This is what the cluster has at the place in the collection. -/
def StandsAt (c : Collection) (p : ObjectRef) (s : Cluster) : Option GrantObject → Prop
  | none => (s.objects c).filter (·.place = p) = []
  | some x => x.collection = c ∧ ∃ m, (Json.object m).Canonical ∧ x.ReadFrom m ∧
    (s.objects c).filter (·.place = p) = [.object m]

/-- One object was created, updated or deleted: it was `old` if there was one before, and it is
`new` if there is one now. -/
structure Change (c : Collection) (p : ObjectRef) (old new : Option GrantObject)
    (s s' : Cluster) : Prop where
  beside : s.AgreeBeside c p s'
  before : StandsAt c p s old
  after : StandsAt c p s' new

/-- The event of an inventory has its own namespace reconciled. -/
theorem StandsAt.grantNamespace {x : GrantObject}
    (h : StandsAt (.facades .inventory) p s (some x)) :
    x.grantNamespace? = p.ns.map namespaceRef := by
  obtain ⟨hcollection, m, hm, hread, hfilter⟩ := h
  have hplace : (Json.object m).place = p := by
    have hmem : Json.object m ∈ (s.objects (.facades .inventory)).filter (·.place = p) := by
      simp [hfilter]
    exact of_decide_eq_true (List.mem_filter.1 hmem).2
  cases x with
  | inventory i =>
    rw [← hplace, Observed.place_of_read hm hread]
    rfl
  | tenant t => cases hcollection

theorem StandsAt.read (h : StandsAt .tenants p s x) {j : Json} (hj : j ∈ s.objects .tenants)
    (hplace : j.place = p) :
    ∃ t, x = some (tenant t) ∧ Cluster.readAs Tenant.codec j = .ok t := by
  have hmem : j ∈ (s.objects .tenants).filter (·.place = p) :=
    List.mem_filter.2 ⟨hj, decide_eq_true hplace⟩
  cases x with
  | none => simp [show (s.objects .tenants).filter (·.place = p) = [] from h] at hmem
  | some x =>
    obtain ⟨hcollection, m, -, hread, hfilter⟩ := h
    rw [hfilter, List.mem_singleton] at hmem
    subst hmem
    cases x with
    | inventory i => cases hcollection
    | tenant t => exact ⟨t, rfl, Except.mapError_eq_ok.2 hread⟩

/-- A tenant that does not claim the namespace has no part in the list of those that do. -/
theorem StandsAt.listTenants (h : StandsAt .tenants p s x)
    (hclaim : ∀ t, x = some (tenant t) → t.claims ns = false) :
    (s.answer (.listTenants ns)).1 =
      ((((s.objects .tenants).filter (·.place ≠ p)).mapM (Cluster.readAs Tenant.codec)).map
        (List.filter (·.claims ns))).map Tenant.sort := by
  rw [← Except.filter_mapM]
  · simp only [Cluster.answer]
    cases (s.objects .tenants).mapM (Cluster.readAs Tenant.codec) <;> rfl
  · intro j hj hplace
    obtain ⟨t, ht, hread⟩ := h.read hj (by simpa using hplace)
    exact ⟨t, hread, hclaim t ht⟩

namespace Change

variable {old new : Option GrantObject}

/-- What the event shows stands in one of the clusters. -/
theorem stands (h : Change c p old new s s') {x : GrantObject} (hx : new.or old = some x) :
    StandsAt c p s (some x) ∨ StandsAt c p s' (some x) := by
  cases new with
  | none =>
    obtain rfl : old = some x := hx
    exact .inl h.before
  | some y =>
    obtain rfl : y = x := Option.some.inj hx
    exact .inr h.after

/-- Where other inventories are listed, the event is that of an inventory in the namespace. -/
theorem of_listInventories_ne (h : Change c p old new s s') {x : GrantObject}
    (hx : new.or old = some x)
    (hne : (s'.answer (.listInventories ns)).1 ≠ (s.answer (.listInventories ns)).1) :
    x.grantNamespace? = some (namespaceRef ns) := by
  have hlist : s'.inNamespace (.facades .inventory) ns ≠ s.inNamespace (.facades .inventory) ns :=
    fun hsame => hne (by simp only [Cluster.answer, hsame])
  obtain ⟨rfl, hp⟩ := h.beside.of_inNamespace_ne hlist
  have hshown : x.grantNamespace? = p.ns.map namespaceRef := by
    rcases h.stands hx with hstands | hstands <;> exact hstands.grantNamespace
  rw [hshown, hp]
  rfl

/-- Where other tenants are listed, the tenant claims the namespace or did so before. -/
theorem of_listTenants_ne (h : Change c p old new s s')
    (hne : (s'.answer (.listTenants ns)).1 ≠ (s.answer (.listTenants ns)).1) :
    ∃ t, (old = some (tenant t) ∨ new = some (tenant t)) ∧ t.claims ns = true := by
  refine Classical.byContradiction fun hnone => hne ?_
  by_cases hc : c = .tenants
  · subst hc
    have hold : ∀ t, old = some (tenant t) → t.claims ns = false := fun t ht =>
      Bool.eq_false_iff.2 fun hclaim => hnone ⟨t, .inl ht, hclaim⟩
    have hnew : ∀ t, new = some (tenant t) → t.claims ns = false := fun t ht =>
      Bool.eq_false_iff.2 fun hclaim => hnone ⟨t, .inr ht, hclaim⟩
    rw [h.before.listTenants hold, h.after.listTenants hnew, h.beside.objects]
  · simp only [Cluster.answer, h.beside.collections .tenants fun heq => hc heq.symm]

end Change

theorem grantNamespace?_of_claims {t : Tenant} (hns : ns ≠ "") (ht : t.claims ns = true) :
    (tenant t).grantNamespace? = some (namespaceRef ns) := by
  have hclaim : t.spec.inventoryNamespace = ns := of_decide_eq_true ht
  have hempty : ns.isEmpty = false := by simpa using hns
  simp only [grantNamespace?, Tenant.grantNamespace?, hclaim, hempty]
  rfl

end GrantObject

/-- Grants that differ are made from inventories or tenants that differ. -/
theorem GrantsDiffer.listed {ask : AccessQuestion → Except Error SubjectSet} {ns : String}
    {s s' : System} (h : GrantsDiffer ask ns s s') :
    (s'.cluster.answer (.listInventories ns)).1 ≠ (s.cluster.answer (.listInventories ns)).1 ∨
      (s'.cluster.answer (.listTenants ns)).1 ≠ (s.cluster.answer (.listTenants ns)).1 := by
  rcases h with h | h | h
  · exact .inl h
  · exact .inr h
  · have hkeeps (s : System) (c : Step) (hc : c.IsGrantQuestion ns) :
        (System.answerAsking ask c s).2 = s := by
      unfold Step.IsGrantQuestion at hc
      split at hc <;> first
        | rfl
        | exact hc.elim
    obtain ⟨c, hc, hreply⟩ := (grants_only ns).exists_reply_ne (hkeeps s) (hkeeps s') h
    unfold Step.IsGrantQuestion at hc
    split at hc
    · exact .inl (hc ▸ hreply)
    · exact .inr (hc ▸ hreply)
    · exact absurd rfl hreply
    · exact hc.elim

/-- When an inventory or a tenant is created, updated or deleted and reviews are answered as before,
the namespace whose grants change is the one that the event has reconciled, or else it is one that a
tenant claimed before and does not claim any more. No namespace goes without a name. -/
theorem GrantObject.namespaces_complete (ask : AccessQuestion → Except Error SubjectSet)
    {c : Collection} {p : ObjectRef} {old new : Option GrantObject} {s s' : System}
    (h : Change c p old new s.cluster s'.cluster) {x : GrantObject} (hx : new.or old = some x)
    {ns : String} (hns : ns ≠ "") (hne : GrantsDiffer ask ns s s') :
    x.grantNamespace? = some (namespaceRef ns) ∨
      ∃ t t', old = some (.tenant t) ∧ new = some (.tenant t') ∧
        t.spec.inventoryNamespace = ns ∧ t'.spec.inventoryNamespace ≠ ns := by
  rcases hne.listed with hne | hne
  · exact .inl (h.of_listInventories_ne hx hne)
  · obtain ⟨t, ht | ht, hclaim⟩ := h.of_listTenants_ne hne
    · cases hnew : new with
      | none =>
        rw [hnew, ht] at hx
        obtain rfl := Option.some.inj hx
        exact .inl (grantNamespace?_of_claims hns hclaim)
      | some y =>
        rw [hnew] at hx
        obtain rfl : y = x := Option.some.inj hx
        have hbefore : StandsAt c p s.cluster (some (.tenant t)) := ht ▸ h.before
        have hafter : StandsAt c p s'.cluster (some y) := hnew ▸ h.after
        cases y with
        | inventory i => cases hafter.1.trans hbefore.1.symm
        | tenant t' =>
          by_cases hclaim' : t'.claims ns = true
          · exact .inl (grantNamespace?_of_claims hns hclaim')
          · exact .inr ⟨t, t', ht, rfl, of_decide_eq_true hclaim, of_decide_eq_false
              (Bool.eq_false_iff.2 hclaim')⟩
    · rw [ht] at hx
      obtain rfl := Option.some.inj hx
      exact .inl (grantNamespace?_of_claims hns hclaim)

/-- When a tenant is deleted, the namespace that it claimed is reconciled. -/
theorem GrantObject.namespaces_complete_on_deletion :
    let m : Dict Json :=
      [("metadata", .object [("name", .string "acme")]),
        ("spec", .object [("inventoryNamespace", .string "team")])]
    let t : Tenant := ⟨{ name := some "acme" }, ⟨"team", ⟨[], []⟩⟩⟩
    let s : System :=
      { cluster := { objects := fun c => if c = .tenants then [.object m] else [] } }
    GrantsDiffer (fun _ => .ok .empty) "team" s {} ∧
      (tenant t).grantNamespace? = some (namespaceRef "team") := by
  intro m t s
  have hcanonical : (Json.object m).Canonical := by
    simp only [m, Json.Canonical, Json.CanonicalMembers, Dict.Sorted]
    decide
  let deleted : System := {}
  have hbeside : s.cluster.AgreeBeside .tenants (Json.object m).place deleted.cluster :=
    .symm (.of_added [] [] (fun d hd => if_neg hd) rfl rfl)
  have hchange : Change .tenants ⟨none, "acme"⟩ (some (tenant t)) none s.cluster
      deleted.cluster :=
    ⟨hbeside, ⟨rfl, m, hcanonical, rfl, rfl⟩, rfl⟩
  have hbefore : (s.cluster.answer (.listTenants "team")).1 = .ok [t] :=
    congrArg Except.ok (List.mergeSort_singleton t)
  have hafter : (deleted.cluster.answer (.listTenants "team")).1 = .ok [] :=
    congrArg Except.ok List.mergeSort_nil
  have hdiffer : GrantsDiffer (fun _ => .ok .empty) "team" s deleted := by
    refine .inr (.inl ?_)
    rw [hbefore, hafter]
    simp
  refine ⟨hdiffer, ?_⟩
  rcases namespaces_complete (fun _ => .ok .empty) hchange rfl (by decide) hdiffer with
    hreported | ⟨_, _, _, hnew, -⟩
  · exact hreported
  · cases hnew

/-- When a tenant is updated to claim another namespace, the one that it claimed before is not
reconciled, although those whom the tenant names should lose the inventories there. -/
theorem GrantObject.namespaces_incomplete_on_move :
    let m (ns : String) : Dict Json :=
      [("metadata", .object [("name", .string "acme")]),
        ("spec", .object [("authz", .object [("users", .array [.string "ann"])]),
          ("inventoryNamespace", .string ns)])]
    let t (ns : String) : Tenant := ⟨{ name := some "acme" }, ⟨ns, ⟨["ann"], []⟩⟩⟩
    let inventory : Json := .object
      [("metadata", .object [("name", .string "orders"), ("namespace", .string "old")]),
        ("spec", .object [("credentialsRef", .object [("name", .string "secret")]),
          ("providerRef", .object [("name", .string "crunchy")])])]
    let s (ns : String) : System :=
      { cluster :=
          { objects := fun c =>
              if c = .tenants then [.object (m ns)]
              else if c = .facades .inventory then [inventory]
              else [] } }
    let ask : AccessQuestion → Except Error SubjectSet := fun _ => .ok .empty
    Change .tenants ⟨none, "acme"⟩ (some (tenant (t "old"))) (some (tenant (t "new")))
        (s "old").cluster (s "new").cluster ∧
      (∃ gs gs' g g', (exec (System.answerAsking ask) (grants "old") (s "old")).1 = .ok gs ∧
        (exec (System.answerAsking ask) (grants "old") (s "new")).1 = .ok gs' ∧
        gs.inventories = [g] ∧ gs'.inventories = [g'] ∧
        g.subjects = .ofNames ["ann"] [] ∧ g'.subjects = .empty) ∧
      (tenant (t "new")).grantNamespace? ≠ some (namespaceRef "old") := by
  intro m t inventory s ask
  have hcanonical (ns : String) : (Json.object (m ns)).Canonical := by
    simp only [m, Json.Canonical, Json.CanonicalMembers, Json.CanonicalItems, Dict.Sorted,
      List.pairwise_cons, List.mem_singleton, forall_eq, List.not_mem_nil, false_implies,
      implies_true, List.Pairwise.nil, and_true, true_and]
    decide
  have hbeside : (s "old").cluster.AgreeBeside .tenants (Json.object (m "new")).place
      (s "new").cluster :=
    .of_changed [] [] (fun d hd => (if_neg hd).trans (if_neg hd).symm) rfl rfl rfl
  let orders : Inventory :=
    ⟨⟨{ name := some "orders", ns := some "old" },
      ⟨⟨"crunchy"⟩, ⟨"secret"⟩, none, ⟨none, none, none⟩⟩⟩, none⟩
  have hbefore : Runs (System.answerAsking ask) (grants "old") (s "old") _
      (.ok (grantsFor "old" [orders] [t "old"] .empty)) (s "old") :=
    .bind (.api rfl) (.bind (.api (Prod.ext (congrArg Except.ok (List.mergeSort_singleton _)) rfl))
      ⟨rfl, rfl⟩)
  have hafter : Runs (System.answerAsking ask) (grants "old") (s "new") _
      (.ok (grantsFor "old" [orders] [] .empty)) (s "new") :=
    .bind (.api rfl) (.bind (.api (Prod.ext (congrArg Except.ok List.mergeSort_nil) rfl))
      ⟨rfl, rfl⟩)
  refine ⟨⟨hbeside, ?_, ?_⟩, ?_, by decide⟩
  · exact ⟨rfl, _, hcanonical "old", rfl, rfl⟩
  · exact ⟨rfl, _, hcanonical "new", rfl, rfl⟩
  · exact ⟨_, _, _, _, congrArg Prod.fst hbefore.exec, congrArg Prod.fst hafter.exec, rfl, rfl, rfl,
      rfl⟩

end ControlPlane
