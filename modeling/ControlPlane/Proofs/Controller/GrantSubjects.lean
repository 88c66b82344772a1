import ControlPlane.Controller.Grants
import ControlPlane.Proofs.Access.Subject
import ControlPlane.Proofs.Controller.System

/-!
# Whom the grants are for

A run that no call of which fails gives out one grant for each tenant and one for each inventory.
The tenants may be read by those whom the access reviews tell, the inventories by those who are
named for them.
-/

namespace ControlPlane

open Controller

/-- The subjects that are named, users first. -/
def Authz.named (a : Authz) : List Subject :=
  a.users.map Subject.ofUser ++ a.groups.map Subject.ofGroup

/-- Those whom the inventory names if it names any, and otherwise those whom the tenants name, each
where it is named first. -/
def Inventory.readers (tenants : List Tenant) (i : Inventory) : List Subject :=
  let own := (i.spec.authz.map Authz.named).getD []
  (if own = [] then tenants.flatMap (·.spec.authz.named) else own).eraseDups

/-- What the access reviews of a namespace tell. -/
structure GrantReviews where
  /-- Those who may create inventories. -/
  creators : SubjectSet
  /-- Those who may create secrets. -/
  secretCreators : SubjectSet
  /-- Those who may list the inventories. -/
  listers : SubjectSet
  /-- For each inventory those who may read it by name. -/
  readers : List SubjectSet
  /-- Those who may list the tenants of the cluster. -/
  tenantListers : SubjectSet

namespace GrantReviews

/-- The review of one question, and whom it tells. -/
def told (q : AccessQuestion) (subjects : SubjectSet) : Event := ⟨.api (.review q), .ok subjects⟩

/-- The question who may do what the verb says to the resource of the group in a namespace, to all
of its objects or to the one of this name. -/
def within (ns verb group resource : String) (name : Option String) : AccessQuestion where
  verb := verb
  group := group
  resource := resource
  ns := some ns
  name := name

/-- The reviews in their order. All but the last are about the namespace. -/
def events (a : GrantReviews) (ns : String) (inventories : List Inventory) : List Event :=
  told (within ns "create" "dbaas.dev" "dbaasinventories" none) a.creators ::
    told (within ns "create" "" "secrets" none) a.secretCreators ::
    told (within ns "list" "dbaas.dev" "dbaasinventories" none) a.listers ::
      (List.zipWith (fun i =>
          told (within ns "get" "dbaas.dev" "dbaasinventories" (some i.metadata.anyName)))
        inventories a.readers ++
      [told ⟨"list", "dbaas.dev", "dbaastenants", none, none⟩ a.tenantListers])

theorem told_inj {q : AccessQuestion} {x y : SubjectSet} : told q x = told q y ↔ x = y := by
  simp [told]

theorem readers_inj {inventories : List Inventory} {xs ys : List SubjectSet}
    (hx : xs.length = inventories.length) (hy : ys.length = inventories.length)
    {q : Inventory → AccessQuestion}
    (h : List.zipWith (fun i => told (q i)) inventories xs =
      List.zipWith (fun i => told (q i)) inventories ys) : xs = ys := by
  induction inventories generalizing xs ys with
  | nil => rw [List.length_eq_zero_iff.1 hx, List.length_eq_zero_iff.1 hy]
  | cons i rest ih =>
    obtain ⟨x, xs, rfl⟩ := List.exists_cons_of_length_eq_add_one hx
    obtain ⟨y, ys, rfl⟩ := List.exists_cons_of_length_eq_add_one hy
    obtain ⟨hfirst, hrest⟩ := List.cons.inj h
    rw [told_inj.1 hfirst, ih (Nat.succ.inj hx) (Nat.succ.inj hy) hrest]

/-- What the reviews tell can be read off their events. -/
theorem eq_of_events {a b : GrantReviews} {ns : String} {inventories : List Inventory}
    (ha : a.readers.length = inventories.length) (hb : b.readers.length = inventories.length)
    (h : a.events ns inventories = b.events ns inventories) : a = b := by
  obtain ⟨hcreators, h⟩ := List.cons.inj h
  obtain ⟨hsecrets, h⟩ := List.cons.inj h
  obtain ⟨hlisters, h⟩ := List.cons.inj h
  obtain ⟨hreaders, htenants⟩ := List.append_inj' h rfl
  have hreaders := readers_inj ha hb hreaders
  rw [told_inj] at hcreators hsecrets hlisters
  rw [List.singleton_inj, told_inj] at htenants
  cases a
  cases b
  simp_all

/-- The administrators, those who may list the inventories and those who may read one of them, each
where it comes first, but for those who may list all tenants. -/
def viewers (a : GrantReviews) : List Subject :=
  (a.creators.subjects.filter (· ∈ a.secretCreators.subjects) ++ a.listers.subjects ++
    a.readers.flatMap (·.subjects)).eraseDups.filter (· ∉ a.tenantListers.subjects)

theorem nodup_viewers (a : GrantReviews) : a.viewers.Nodup := (nodup_eraseDups _).filter _

theorem mem_viewers {a : GrantReviews} {x : Subject} :
    x ∈ a.viewers ↔
      (x ∈ a.creators.subjects ∧ x ∈ a.secretCreators.subjects ∨ x ∈ a.listers.subjects ∨
        ∃ readers ∈ a.readers, x ∈ readers.subjects) ∧ x ∉ a.tenantListers.subjects := by
  simp [viewers, List.mem_eraseDups]

end GrantReviews

/-- The object and those who may read it. -/
def Grant.outline (g : Grant) : ViewedObject × List Subject := (g.viewed, g.subjects.subjects)

/-! ## Those who are named -/

theorem SubjectSet.subjects_ofAuthz (a : Authz) : (ofAuthz a).subjects = a.named.eraseDups :=
  subjects_ofNames a.users a.groups

theorem Authz.named_eq_nil {a : Authz} : a.named = [] ↔ a.isEmpty = true := by
  simp [named, isEmpty]

theorem subjects_tenantDefaults (tenants : List Tenant) :
    (tenantDefaults tenants).subjects = (tenants.flatMap (·.spec.authz.named)).eraseDups := by
  induction tenants using List.reverseRecOn with
  | nil => rfl
  | append_singleton tenants t ih =>
    have hstep : tenantDefaults (tenants ++ [t]) =
        (tenantDefaults tenants).union (.ofAuthz t.spec.authz) := by
      simp [tenantDefaults]
    rw [hstep, SubjectSet.subjects_union, ih, SubjectSet.subjects_ofAuthz, eraseDups_append_left,
      eraseDups_append_right]
    simp

theorem subjects_inventoryViewers (tenants : List Tenant) (i : Inventory) :
    (inventoryViewers tenants i).subjects = i.readers tenants := by
  have hnone (hi : i.declaredAuthz? = none) (hown : (i.spec.authz.map Authz.named).getD [] = []) :
      (inventoryViewers tenants i).subjects = i.readers tenants := by
    rw [inventoryViewers, hi, Inventory.readers, if_pos hown]
    exact subjects_tenantDefaults tenants
  cases hauthz : i.spec.authz with
  | none => exact hnone (by simp [Inventory.declaredAuthz?, hauthz]) (by simp [hauthz])
  | some a =>
    cases ha : a.isEmpty with
    | true =>
      have hnamed := Authz.named_eq_nil.2 ha
      exact hnone (by simp [Inventory.declaredAuthz?, hauthz, ha]) (by simp [hauthz, hnamed])
    | false =>
      have hsome : i.declaredAuthz? = some a := by simp [Inventory.declaredAuthz?, hauthz, ha]
      have hown : (i.spec.authz.map Authz.named).getD [] = a.named := by simp [hauthz]
      have hne : a.named ≠ [] := fun h => by simp [Authz.named_eq_nil.1 h] at ha
      rw [inventoryViewers, hsome, Inventory.readers, hown, if_neg hne]
      exact SubjectSet.subjects_ofAuthz a

/-- An inventory that names nobody may be read by those whom the tenants name. -/
theorem Inventory.readers_of_undeclared {i : Inventory} (tenants : List Tenant)
    (hi : i.declaredAuthz? = none) :
    i.readers tenants = (tenants.flatMap (·.spec.authz.named)).eraseDups := by
  rw [← subjects_inventoryViewers, inventoryViewers, hi]
  exact subjects_tenantDefaults tenants

/-! ## Those whom the reviews tell -/

namespace Controller

variable {α β σ : Type} {answer : (c : Step) → σ → c.Reply × σ} {s s' : σ} {t : List Event}
  {ns : String} {inventories : List Inventory}

/-- The readers of each inventory are added in turn. -/
theorem addReaders_told {subjects : SubjectSet} {r : Except Error SubjectSet}
    (h : Runs answer (addReaders ns inventories subjects) s t r s')
    (ht : ∀ e ∈ t, Event.Succeeded e) :
    ∃ readers all, r = .ok all ∧ readers.length = inventories.length ∧
      t = List.zipWith (fun i => GrantReviews.told (.getInventory ns i.metadata.anyName))
        inventories readers ∧
      all.subjects = (subjects.subjects ++ readers.flatMap (·.subjects)).eraseDups := by
  induction inventories generalizing subjects s t with
  | nil =>
    obtain ⟨rfl, rfl, -⟩ := h.unique .pure
    exact ⟨[], subjects, rfl, rfl, rfl, by simp [SubjectSet.eraseDups_subjects]⟩
  | cons i rest ih =>
    obtain ⟨readers, s₁, t', -, hrest, ht', rfl⟩ := h.api_bind_inv ht
    obtain ⟨others, all, rfl, hlength, rfl, hall⟩ := ih hrest ht'
    refine ⟨readers :: others, all, rfl, by simp [hlength], rfl, ?_⟩
    rw [hall, SubjectSet.subjects_union, eraseDups_append_left, List.flatMap_cons,
      List.append_assoc]

/-- The viewers of the tenants are those whom the reviews tell. -/
theorem tenantViewers_told {r : Except Error SubjectSet}
    (h : Runs answer (tenantViewers ns inventories) s t r s') (ht : ∀ e ∈ t, Event.Succeeded e) :
    ∃ (a : GrantReviews) (viewers : SubjectSet), r = .ok viewers ∧
      a.readers.length = inventories.length ∧ t = a.events ns inventories ∧
      viewers.subjects = a.viewers := by
  simp only [tenantViewers, admins, developers, review, bind_assoc, pure_bind] at h
  obtain ⟨creators, s₁, t₁, -, h₁, ht₁, rfl⟩ := h.api_bind_inv ht
  obtain ⟨secretCreators, s₂, t₂, -, h₂, ht₂, rfl⟩ := h₁.api_bind_inv ht₁
  obtain ⟨listers, s₃, t₃, -, h₃, ht₃, rfl⟩ := h₂.api_bind_inv ht₂
  rcases h₃.bind_inv with ⟨e, hreaders, -⟩ | ⟨all, t₄, s₄, t₅, hreaders, h₄, rfl⟩
  · obtain ⟨readers, all, hr, -⟩ := addReaders_told hreaders ht₃
    cases hr
  obtain ⟨ht₄, ht₅⟩ := List.forall_mem_append.1 ht₃
  obtain ⟨readers, _, hr, hlength, rfl, hall⟩ := addReaders_told hreaders ht₄
  obtain rfl := Except.ok.inj hr
  obtain ⟨tenantListers, s₅, t₆, -, h₅, -, rfl⟩ := h₄.api_bind_inv ht₅
  obtain ⟨rfl, rfl, -⟩ := h₅.unique .pure
  refine ⟨⟨creators, secretCreators, listers, readers, tenantListers⟩, _, rfl, hlength, rfl, ?_⟩
  rw [SubjectSet.subjects_difference, SubjectSet.subjects_union, hall, eraseDups_append_right,
    SubjectSet.subjects_intersection, ← List.append_assoc]
  rfl

/-- A run no call of which fails gives out one grant for each inventory and one for each tenant, in
their order. An inventory may be read by those whom it names, if it names any, and otherwise by
those whom the tenants name. Each tenant may be read by those who may create inventories and also
secrets, who may list the inventories or who may read one of them, unless they may list all tenants,
each once and in the order of the reviews. Where there is no tenant nobody is asked about. -/
theorem grants_as_reviewed {r : Except Error Grants} (h : Runs answer (grants ns) s t r s')
    (ht : ∀ e ∈ t, Event.Succeeded e) :
    ∃ (inventories : List Inventory) (tenants : List Tenant) (reviews : List Event) (gs : Grants),
      t = ⟨.api (.listInventories ns), .ok inventories⟩ ::
        ⟨.api (.listTenants ns), .ok tenants⟩ :: reviews ∧
      r = .ok gs ∧
      gs.inventories.map Grant.outline =
        inventories.map (fun i => (i.viewed ns, i.readers tenants)) ∧
      (tenants = [] → reviews = [] ∧ gs.tenants = [] ∧
        ∀ i ∈ inventories, i.declaredAuthz? = none → i.readers tenants = []) ∧
      (tenants ≠ [] → ∃ a : GrantReviews, a.readers.length = inventories.length ∧
        reviews = a.events ns inventories ∧
        gs.tenants.map Grant.outline = tenants.map (fun t => (t.viewed, a.viewers)) ∧
        a.viewers.Nodup ∧ ∀ x, x ∈ a.viewers ↔
          (x ∈ a.creators.subjects ∧ x ∈ a.secretCreators.subjects ∨ x ∈ a.listers.subjects ∨
            ∃ readers ∈ a.readers, x ∈ readers.subjects) ∧ x ∉ a.tenantListers.subjects) := by
  obtain ⟨inventories, s₁, t₁, -, h₁, ht₁, rfl⟩ := h.api_bind_inv ht
  obtain ⟨tenants, s₂, t₂, -, h₂, ht₂, rfl⟩ := h₁.api_bind_inv ht₁
  have hinventories : (inventories.map fun i => Grant.mk (i.viewed ns)
      (inventoryViewers tenants i)).map Grant.outline =
        inventories.map fun i => (i.viewed ns, i.readers tenants) := by
    simp [Grant.outline, subjects_inventoryViewers]
  split at h₂
  · next hnone =>
    obtain rfl := List.isEmpty_iff.1 hnone
    obtain ⟨rfl, rfl, -⟩ := h₂.unique (Runs.pure.bind_nil .pure)
    refine ⟨inventories, [], [], _, rfl, rfl, hinventories, fun _ => ⟨rfl, rfl, ?_⟩,
      fun hne => (hne rfl).elim⟩
    intro i _ hi
    rw [← subjects_inventoryViewers, inventoryViewers, hi]
    rfl
  · next hsome =>
    rcases h₂.bind_inv with ⟨e, hviewers, -⟩ | ⟨viewers, t₃, s₃, t₄, hviewers, h₃, rfl⟩
    · obtain ⟨a, viewers, hr, -⟩ := tenantViewers_told hviewers ht₂
      cases hr
    obtain ⟨ht₃, -⟩ := List.forall_mem_append.1 ht₂
    obtain ⟨a, _, hr, hlength, rfl, hviewers⟩ := tenantViewers_told hviewers ht₃
    obtain rfl := Except.ok.inj hr
    obtain ⟨rfl, rfl, -⟩ := h₃.unique .pure
    refine ⟨inventories, tenants, _, _, rfl, rfl, hinventories,
      fun hnil => (hsome (List.isEmpty_iff.2 hnil)).elim, fun _ => ⟨a, hlength, ?_, ?_,
        a.nodup_viewers, fun x => GrantReviews.mem_viewers⟩⟩
    · exact List.append_nil _
    · simp [Grant.outline, hviewers]

/-- Some may read the tenants for more than one reason, and one may list all tenants. The first
inventory names its readers, the second leaves them to the tenants. -/
theorem grants_as_reviewed_with_overlaps :
    let inventory (name : String) (authz : Option Authz) : Inventory :=
      ⟨⟨{ name := some name, ns := some "team" },
        ⟨⟨"crunchy"⟩, ⟨"secret"⟩, authz, ⟨none, none, none⟩⟩⟩, none⟩
    let tenant (name : String) (authz : Authz) : Tenant :=
      ⟨{ name := some name }, ⟨"team", authz⟩⟩
    let inventories := [inventory "orders" (some ⟨["ann", "ann"], ["ops"]⟩), inventory "stock" none]
    let tenants := [tenant "acme" ⟨["bob"], ["dev"]⟩, tenant "zeta" ⟨["eve", "bob"], []⟩]
    let a : GrantReviews := {
      creators := ⟨[.user "ann", .user "bob", .group "ops"], by simp⟩
      secretCreators := ⟨[.group "ops", .user "bob"], by simp⟩
      listers := ⟨[.user "cid", .user "bob"], by simp⟩
      readers := [⟨[.user "dan", .user "cid"], by simp⟩, ⟨[.user "eve"], by simp⟩]
      tenantListers := ⟨[.user "cid"], by simp⟩ }
    let answer : (c : Step) → List SubjectSet → c.Reply × List SubjectSet
      | .api (.listInventories _), rest => (.ok inventories, rest)
      | .api (.listTenants _), rest => (.ok tenants, rest)
      | .api (.review _), subjects :: rest => (.ok subjects, rest)
      | c, rest => ((System.answer c {}).1, rest)
    ∃ gs, (exec answer (grants "team") (a.creators :: a.secretCreators :: a.listers ::
        (a.readers ++ [a.tenantListers]))).1 = .ok gs ∧
      gs.tenants.map Grant.outline =
        tenants.map (fun t => (t.viewed, [.user "bob", .group "ops", .user "dan", .user "eve"])) ∧
      gs.inventories.map Grant.outline =
        [((inventory "orders" (some ⟨["ann", "ann"], ["ops"]⟩)).viewed "team",
            [.user "ann", .group "ops"]),
          ((inventory "stock" none).viewed "team", [.user "bob", .group "dev", .user "eve"])] := by
  intro inventory tenant inventories tenants a answer
  have hrun := Runs.refl answer (grants "team") (a.creators :: a.secretCreators :: a.listers ::
    (a.readers ++ [a.tenantListers]))
  have htrace : trace answer (grants "team") (a.creators :: a.secretCreators :: a.listers ::
      (a.readers ++ [a.tenantListers])) = ⟨.api (.listInventories "team"), .ok inventories⟩ ::
        ⟨.api (.listTenants "team"), .ok tenants⟩ :: a.events "team" inventories := rfl
  rw [htrace] at hrun
  obtain ⟨inventories', tenants', reviews, gs, htold, hr, hinventories, -, htenants⟩ :=
    grants_as_reviewed hrun (by
      simp [GrantReviews.events, GrantReviews.told, Event.Succeeded, a, inventories])
  injection htold with hlisted htold
  injection htold with hclaimed htold
  obtain rfl : inventories = inventories' := by simpa using hlisted
  obtain rfl : tenants = tenants' := by simpa using hclaimed
  obtain ⟨b, hlength, hevents, houtline, -⟩ := htenants (by simp [tenants])
  obtain rfl : a = b := GrantReviews.eq_of_events rfl hlength (htold.trans hevents)
  refine ⟨gs, hr, houtline.trans ?_, hinventories.trans ?_⟩
  · have hviewers : a.viewers = [.user "bob", .group "ops", .user "dan", .user "eve"] := by
      decide
    rw [hviewers]
  · have hown : (inventory "orders" (some ⟨["ann", "ann"], ["ops"]⟩)).readers tenants =
        [.user "ann", .group "ops"] := by decide
    have hleft : (inventory "stock" none).readers tenants =
        [.user "bob", .group "dev", .user "eve"] := by decide
    simp only [inventories, List.map_cons, List.map_nil, hown, hleft]

end Controller

end ControlPlane
