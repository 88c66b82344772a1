import ControlPlane.Facade.Backend
import ControlPlane.ObjectStore
import ControlPlane.Proofs.Text.Split

/-!
# The facade that a backend belongs to

An event of a backend is an event for the facade that controls it. The facade is told from the first
controller among the owners, whatever other owners there are, and by the group of its kind but not
by the version. What the event of a new backend finds is the facade that it was made for.
-/

namespace ControlPlane

/-! ### Groups -/

theorem groupOf_append {group : String} (h : '/' ∉ group.toList) (version : String) :
    groupOf (group ++ "/" ++ version) = group := by
  have hslash : "/".toList = ['/'] := by decide
  have hparts : (group ++ "/" ++ version).toList = group.toList ++ '/' :: version.toList := by
    simp [String.toList_append, hslash]
  unfold groupOf splitApiVersion
  dsimp only
  rw [hparts, Text.dropWhile_ne_append h, Text.takeWhile_ne_append h]
  exact String.ofList_toList

/-- A group that is not the core group is followed by a slash and a version. -/
theorem exists_version_of_groupOf {apiVersion : String} (h : groupOf apiVersion ≠ "") :
    ∃ version, apiVersion = groupOf apiVersion ++ "/" ++ version := by
  have hslash : "/".toList = ['/'] := by decide
  unfold groupOf splitApiVersion at h ⊢
  dsimp only at h ⊢
  split at h
  · exact (h rfl).elim
  · next c version hdrop =>
    refine ⟨String.ofList version, ?_⟩
    rw [← String.toList_inj]
    simpa [String.toList_append, hslash] using Text.eq_append_of_dropWhile_ne hdrop

theorem groupOf_eq_planeGroup {apiVersion : String} :
    groupOf apiVersion = planeGroup ↔ ∃ version, apiVersion = planeGroup ++ "/" ++ version := by
  constructor
  · intro h
    have hne : groupOf apiVersion ≠ "" := by
      rw [h]
      decide
    obtain ⟨version, hversion⟩ := exists_version_of_groupOf hne
    rw [h] at hversion
    exact ⟨version, hversion⟩
  · rintro ⟨version, rfl⟩
    exact groupOf_append (by decide) version

namespace OwnerReference

variable {owner : OwnerReference} {owners : List OwnerReference}

theorem isOfKind_planeApiVersion {kind : String} :
    owner.isOfKind planeApiVersion kind = true ↔
      owner.kind = kind ∧ ∃ version, owner.apiVersion = planeGroup ++ "/" ++ version := by
  have hplane : groupOf planeApiVersion = planeGroup := by decide
  rw [isOfKind, hplane, Bool.and_eq_true, decide_eq_true_eq, decide_eq_true_eq,
    groupOf_eq_planeGroup]

/-! ### Controllers -/

/-- Of these owners it is the first that controls the object. -/
def LeadsAmong (owner : OwnerReference) (owners : List OwnerReference) : Prop :=
  ∃ before after, owners = before ++ owner :: after ∧ owner.controller = some true ∧
    ∀ r ∈ before, r.controller ≠ some true

end OwnerReference

theorem Metadata.controllerOwner?_eq_some {m : Metadata} {owner : OwnerReference} :
    m.controllerOwner? = some owner ↔ owner.LeadsAmong (m.ownerReferences.getD []) := by
  unfold controllerOwner? OwnerReference.LeadsAmong
  rw [List.find?_eq_some_iff_append]
  simp only [decide_eq_true_eq, Bool.not_eq_true', decide_eq_false_iff_not]
  grind

/-- The object with other owners. -/
def GenericObject.withOwners (x : GenericObject) (owners : List OwnerReference) : GenericObject :=
  { x with metadata := { x.metadata with ownerReferences := some owners } }

theorem FacadeKind.kind_inj {k l : FacadeKind} : k.kind = l.kind ↔ k = l := by
  cases k <;> cases l <;> decide

namespace Facade

variable {k : FacadeKind} {f : Facade k} {b : Backend} {r : ObjectRef}

/-- An object belongs to a facade in its own namespace, of the kind and with the name of its first
controller. -/
theorem owning?_eq_some : owning? k b = some r ↔
    ∃ (owner : OwnerReference) (ns version : String),
      owner.LeadsAmong (b.metadata.ownerReferences.getD []) ∧ b.metadata.ns = some ns ∧
      owner.kind = k.kind ∧ owner.apiVersion = planeGroup ++ "/" ++ version ∧
      r = ⟨some ns, owner.name⟩ := by
  simp only [← Metadata.controllerOwner?_eq_some]
  constructor
  · intro h
    unfold owning? at h
    split at h
    · next owner ns howner hns =>
      split at h
      · next hkind =>
        obtain ⟨hkind, version, hversion⟩ := OwnerReference.isOfKind_planeApiVersion.1 hkind
        exact ⟨owner, ns, version, howner, hns, hkind, hversion, (Option.some.inj h).symm⟩
      · cases h
    · cases h
  · rintro ⟨owner, ns, version, howner, hns, hkind, hversion, rfl⟩
    have howned := OwnerReference.isOfKind_planeApiVersion.2 ⟨hkind, version, hversion⟩
    simp [owning?, howner, hns, howned]

/-- The object belongs to this facade, and to none of another kind. -/
def BelongsTo (k : FacadeKind) (r : ObjectRef) (b : Backend) : Prop :=
  owning? k b = some r ∧ ∀ l, l ≠ k → owning? l b = none

theorem belongsTo_of_controllerOwner {owner : OwnerReference} {ns version : String}
    (howner : b.metadata.controllerOwner? = some owner) (hns : b.metadata.ns = some ns)
    (hkind : owner.kind = k.kind) (hversion : owner.apiVersion = planeGroup ++ "/" ++ version) :
    BelongsTo k ⟨some ns, owner.name⟩ b := by
  have hleads := Metadata.controllerOwner?_eq_some.1 howner
  refine ⟨owning?_eq_some.2 ⟨owner, ns, version, hleads, hns, hkind, hversion, rfl⟩, ?_⟩
  intro l hl
  have hother : owner.isOfKind planeApiVersion l.kind = false := by
    refine Bool.eq_false_iff.2 fun h => hl ?_
    rw [← FacadeKind.kind_inj, ← (OwnerReference.isOfKind_planeApiVersion.1 h).1, hkind]
  simp [owning?, howner, hns, hother]

theorem belongsTo_withOwners {owner : OwnerReference} {before after : List OwnerReference}
    {ns version : String} (hns : b.metadata.ns = some ns)
    (hbefore : ∀ r ∈ before, r.controller ≠ some true) (hcontroller : owner.controller = some true)
    (hkind : owner.kind = k.kind) (hversion : owner.apiVersion = planeGroup ++ "/" ++ version) :
    BelongsTo k ⟨some ns, owner.name⟩ (b.withOwners (before ++ owner :: after)) := by
  have hleads : owner.LeadsAmong (before ++ owner :: after) :=
    ⟨before, after, rfl, hcontroller, hbefore⟩
  exact belongsTo_of_controllerOwner (Metadata.controllerOwner?_eq_some.2 hleads) hns hkind hversion

/-- The reference that a new backend has to its facade. -/
theorem newBackend_of_stored {name uid : String} (hname : f.metadata.name = some name)
    (huid : f.metadata.uid = some uid) (resource : ApiResource) (spec : Json) :
    ∃ b, f.newBackend resource spec = .ok b ∧ b.metadata.ns = f.metadata.ns ∧
      b.metadata.ownerReferences =
        some [⟨planeApiVersion, k.kind, name, uid, some true, none⟩] := by
  have howner : f.metadata.ownerReference planeApiVersion k.kind =
      .ok ⟨planeApiVersion, k.kind, name, uid, some true, none⟩ := by
    simp [Metadata.ownerReference, Metadata.ownerReference?, hname, huid]
  exact ⟨_, by rw [newBackend, howner]; rfl, rfl, rfl⟩

/-- A backend can be made for a facade that is stored in a namespace, and has it for its only owner.
The events of the backend find the facade, and none of another kind, whatever owners that do not
control it stand before and after that one, and under whichever version of its group the owner is
referred to. Conversely, what the events of an object find is in its namespace and has the name of
its first controller, which is of the kind and the group in question. -/
theorem events_find_facade (f : Facade k) {name ns uid : String}
    (hname : f.metadata.name = some name) (hns : f.metadata.ns = some ns)
    (huid : f.metadata.uid = some uid) (resource : ApiResource) (spec : Json)
    (before after : List OwnerReference)
    (hothers : ∀ r ∈ before ++ after, r.controller ≠ some true) :
    f.metadata.ref = ⟨some ns, name⟩ ∧
    (∃ b owner, f.newBackend resource spec = .ok b ∧
      b.metadata.ownerReferences = some [owner] ∧
      owner.apiVersion = planeGroup ++ "/" ++ planeVersion ∧
      BelongsTo k f.metadata.ref (b.withOwners (before ++ owner :: after)) ∧
      ∀ version, BelongsTo k f.metadata.ref (b.withOwners
        (before ++ { owner with apiVersion := planeGroup ++ "/" ++ version } :: after))) ∧
    ∀ (l : FacadeKind) (b : Backend) (r : ObjectRef), owning? l b = some r ↔
      ∃ (owner : OwnerReference) (ns version : String),
        owner.LeadsAmong (b.metadata.ownerReferences.getD []) ∧ b.metadata.ns = some ns ∧
        owner.kind = l.kind ∧ owner.apiVersion = planeGroup ++ "/" ++ version ∧
        r = ⟨some ns, owner.name⟩ := by
  obtain ⟨b, hb, hbns, howners⟩ := newBackend_of_stored hname huid resource spec
  have href : f.metadata.ref = ⟨some ns, name⟩ := by
    simp [Metadata.ref, Metadata.anyName, hname, hns]
  have hversion : planeApiVersion = planeGroup ++ "/" ++ planeVersion := by decide
  have hbefore : ∀ r ∈ before, r.controller ≠ some true := fun r hr =>
    hothers r (List.mem_append_left _ hr)
  refine ⟨href, ⟨b, _, hb, howners, hversion, ?_, fun version => ?_⟩, fun l b r => owning?_eq_some⟩
  · rw [href]
    exact belongsTo_withOwners (hbns.trans hns) hbefore rfl rfl hversion
  · rw [href]
    exact belongsTo_withOwners (hbns.trans hns) hbefore rfl rfl rfl

/-- A connection whose backend also belongs to two objects that do not control it, an inventory
among them. -/
theorem events_find_facade_among_owners :
    let f : Facade .connection :=
      ⟨⟨{ name := some "shop", ns := some "team", uid := some "u-shop" },
        ⟨⟨"orders", none⟩, "db-1", none, none⟩⟩, none⟩
    let inventory : OwnerReference :=
      ⟨planeApiVersion, Inventory.kind, "orders", "u-orders", some false, none⟩
    let job : OwnerReference := ⟨"batch/v1", "Job", "setup", "u-setup", none, none⟩
    ∃ b owner, f.newBackend (.ofKind "db.dev/v1" "Binding") f.specJson = .ok b ∧
      b.metadata.ownerReferences = some [owner] ∧
      owning? .connection (b.withOwners [inventory, owner, job]) = some ⟨some "team", "shop"⟩ ∧
      owning? .connection (b.withOwners
        [inventory, { owner with apiVersion := "dbaas.dev/v1" }, job]) =
          some ⟨some "team", "shop"⟩ ∧
      owning? .inventory (b.withOwners [inventory, owner, job]) = none := by
  intro f inventory job
  obtain ⟨-, ⟨b, owner, hb, howner, -, hfound, hversions⟩, -⟩ :=
    events_find_facade f rfl rfl rfl (.ofKind "db.dev/v1" "Binding") f.specJson [inventory] [job]
      (by decide)
  exact ⟨b, owner, hb, howner, hfound.1, (hversions "v1").1, hfound.2 .inventory (by decide)⟩

end Facade

end ControlPlane
