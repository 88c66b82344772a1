import ControlPlane.Access.Role
import ControlPlane.Facade.Dependents

/-!
# The facades that an event concerns

A store that a watch keeps holds one object for each place. From such a store the dependents of an
inventory, of a policy and of a namespace are the facades that refer to what has changed, or that
live in it, each of them once.
-/

namespace ControlPlane

namespace ObjectStore

variable {α : Type} {metadata : α → Metadata} {store : ObjectStore α}

/-- The store holds what a watch has seen: it was empty at first, and since then objects were taken
in, each at its place, and removed. -/
inductive Kept (metadata : α → Metadata) : ObjectStore α → Prop
  | empty : Kept metadata {}
  | apply {store : ObjectStore α} {r : ObjectRef} {a : α} (h : Kept metadata store)
    (hr : (metadata a).storeRef? = some r) : Kept metadata (store.apply r a)
  | remove {store : ObjectStore α} (h : Kept metadata store) (r : ObjectRef) :
    Kept metadata (store.remove r)

theorem ref_of_storeRef? {m : Metadata} {r : ObjectRef} (h : m.storeRef? = some r) : m.ref = r := by
  obtain ⟨n, hn, rfl⟩ := Option.map_eq_some_iff.1 h
  simp [Metadata.ref, Metadata.anyName, hn]

namespace Kept

theorem ref (h : Kept metadata store) :
    ∀ e ∈ store.entries, e.1 = (metadata e.2).ref := by
  induction h with
  | empty => exact fun _ he => nomatch he
  | apply _ hr ih =>
    intro e he
    rcases List.mem_append.1 he with he | he
    · exact ih e (List.mem_filter.1 he).1
    · rw [List.mem_singleton.1 he, ref_of_storeRef? hr]
  | remove _ r ih => exact fun e he => ih e (List.mem_filter.1 he).1

theorem nodup_keys (h : Kept metadata store) : (store.entries.map (·.1)).Nodup := by
  have hremove {s : ObjectStore α} (hs : (s.entries.map (·.1)).Nodup) (r : ObjectRef) :
      ((s.remove r).entries.map (·.1)).Nodup :=
    hs.sublist (List.filter_sublist.map _)
  induction h with
  | empty => exact List.nodup_nil
  | @apply s r a _ _ ih =>
    have hfresh : r ∉ (s.remove r).entries.map (·.1) := by simp [ObjectStore.remove]
    simp only [ObjectStore.apply, List.map_append, List.map_cons, List.map_nil]
    refine List.nodup_append.2 ⟨hremove ih r, by simp, ?_⟩
    rintro r' hr' q hq rfl
    exact hfresh (List.mem_singleton.1 hq ▸ hr')
  | remove _ r ih => exact hremove ih r

/-- No two of the objects are found at one place. -/
theorem nodup (h : Kept metadata store) :
    (store.objects.map fun a => (metadata a).ref).Nodup := by
  have hkeys : store.objects.map (fun a => (metadata a).ref) = store.entries.map (·.1) := by
    rw [objects, List.map_map]
    exact List.map_congr_left fun e he => (h.ref e he).symm
  rw [hkeys]
  exact h.nodup_keys

end Kept

end ObjectStore

/-- What an event of a watch shows that has to do with the inventory gate: an object as it is now,
or as it was last. -/
inductive GateEvent
  | inventory (i : Inventory)
  | policy (p : Policy)
  | space (n : Namespace)

namespace GateEvent

open Facade

variable {k : FacadeKind} {store : ObjectStore (Facade k)}

/-- The facades that are looked at again after the event. -/
def dependents (store : ObjectStore (Facade k)) : GateEvent → List ObjectRef
  | inventory i => dependentsOfInventory store i.metadata
  | policy p => dependentsOfPolicy store p.metadata
  | space n => dependentsOfNamespace store n.metadata

/-- The facade refers to the inventory, to an inventory in the namespace of the policy, or it is in
the namespace and refers to an inventory. A reference without a namespace is one to the namespace of
the facade. -/
def Concerns (f : Facade k) : GateEvent → Prop
  | inventory i => ∃ ref ns, f.reference = .inventory ref ∧ f.metadata.ns = some ns ∧
    i.metadata.ns = some (ref.ns.getD ns) ∧ ref.name = i.metadata.anyName
  | policy p => ∃ ref ns, f.reference = .inventory ref ∧ f.metadata.ns = some ns ∧
    p.metadata.ns = some (ref.ns.getD ns)
  | space n => (∃ ref, f.reference = .inventory ref) ∧ f.metadata.ns = some n.metadata.anyName

theorem inventoryRef?_eq_some {f : Facade k} {r : String × String} :
    f.inventoryRef? = some r ↔ ∃ ref ns, f.reference = .inventory ref ∧
      f.metadata.ns = some ns ∧ (ref.ns.getD ns, ref.name) = r := by
  unfold inventoryRef?
  cases f.reference <;> cases f.metadata.ns <;> simp [NamespacedRef.namespaceOr]

/-- Some facades of the store, in its order, are those with `P`. -/
def Selects (store : ObjectStore (Facade k)) (refs : List ObjectRef) (P : Facade k → Prop) : Prop :=
  ∃ fs : List (Facade k), refs = fs.map (·.metadata.ref) ∧ fs.Sublist store.objects ∧
    ∀ f, f ∈ fs ↔ f ∈ store.objects ∧ P f

theorem selects_referring (store : ObjectStore (Facade k)) (ns : String) (name : Option String) :
    Selects store (referring store ns name) fun f =>
      ∃ ref own, f.reference = .inventory ref ∧ f.metadata.ns = some own ∧
        ns = ref.ns.getD own ∧ ∀ n, name = some n → ref.name = n := by
  refine ⟨_, rfl, List.filter_sublist, fun f => ?_⟩
  rw [List.mem_filter]
  refine and_congr_right fun _ => ?_
  cases hr : f.inventoryRef? with
  | none =>
    refine iff_of_false (fun h => nomatch h) ?_
    rintro ⟨ref, own, href, hown, -⟩
    rw [inventoryRef?_eq_some.2 ⟨ref, own, href, hown, rfl⟩] at hr
    cases hr
  | some r =>
    obtain ⟨ref, own, href, hown, rfl⟩ := inventoryRef?_eq_some.1 hr
    cases name <;> simp [href, hown, eq_comm (a := ns)]

/-- The dependents are the stored facades that the event concerns. -/
theorem selects_dependents (store : ObjectStore (Facade k)) (e : GateEvent) :
    Selects store (e.dependents store) e.Concerns := by
  have hnone {P : Facade k → Prop} (hP : ∀ f, ¬ P f) : Selects store [] P :=
    ⟨[], rfl, List.nil_sublist _, fun f => by simp [hP f]⟩
  cases e with
  | inventory i =>
    simp only [dependents, dependentsOfInventory]
    cases hns : i.metadata.ns with
    | none => exact hnone fun f ⟨_, _, _, _, h, _⟩ => by simp [hns] at h
    | some ns => simpa [Concerns, hns] using selects_referring store ns (some i.metadata.anyName)
  | policy p =>
    simp only [dependents, dependentsOfPolicy]
    cases hns : p.metadata.ns with
    | none => exact hnone fun f ⟨_, _, _, _, h⟩ => by simp [hns] at h
    | some ns => simpa [Concerns, hns] using selects_referring store ns none
  | space n =>
    refine ⟨_, rfl, List.filter_sublist, fun f => ?_⟩
    rw [List.mem_filter]
    cases hf : f.reference <;> simp [Concerns, hf]

theorem mem_dependents {f : Facade k} {e : GateEvent} (hf : f ∈ store.objects)
    (he : e.Concerns f) : f.metadata.ref ∈ e.dependents store := by
  obtain ⟨fs, hdependents, -, hmem⟩ := selects_dependents store e
  rw [hdependents]
  exact List.mem_map_of_mem ((hmem f).2 ⟨hf, he⟩)

end GateEvent

end ControlPlane
