import ControlPlane.Proofs.Access.Role
import ControlPlane.Proofs.Cluster.Difference
import ControlPlane.Proofs.Controller.Gate
import ControlPlane.Proofs.Facade.Dependents
import ControlPlane.Proofs.Object

/-!
# Events that change the decision of the gate

The gate looks up one inventory, the policies of one namespace and the labels of another. If a
single object is created, changed or deleted and the gate decides otherwise than before, one of
these is answered otherwise, and then the event of that object concerns the facade.
-/

namespace ControlPlane

open Controller Facade

namespace GateEvent

variable {k : FacadeKind} {e : GateEvent} {s s' : System}

def collection : GateEvent → Collection
  | inventory _ => .facades .inventory
  | policy _ => .policies
  | space _ => .namespaces

def metadata : GateEvent → Metadata
  | inventory i => i.metadata
  | policy p => p.metadata
  | space n => n.metadata

/-- The members of the object read as what the event shows. -/
def Shows (m : Dict Json) : GateEvent → Prop
  | inventory i => Inventory.codec.read (.object m) = .ok i
  | policy p => Policy.codec.read (.object m) = .ok p
  | space n => Namespace.codec.read (.object m) = .ok n

theorem place_of_shows {m : Dict Json} (hm : (Json.object m).Canonical) (h : e.Shows m) :
    (Json.object m).place = e.metadata.ref := by
  cases e with
  | inventory i => exact Observed.place_of_read hm h
  | policy p => exact Observed.place_of_read hm h
  | space n => exact Namespace.place_of_read hm h

/-- What the gate is answered differently is about the object of the event. -/
theorem concerns_of_reply_ne (hs : s.cluster.AgreeBeside e.collection e.metadata.ref s'.cluster)
    {f : Facade k} {ref : NamespacedRef} (href : f.reference = .inventory ref) {ns : String}
    (hns : f.metadata.ns = some ns) {a : Admission}
    (ha : a = ⟨k, ns, ref.ns.getD ns, ref.name⟩) {c : Step} (hc : GateRead a c)
    (hne : (System.answer c s').1 ≠ (System.answer c s).1) : e.Concerns f := by
  subst ha
  cases hc with
  | inventory =>
    let t := Cluster.facade .inventory (ref.ns.getD ns) ref.name
    have hfind : s'.cluster.find? t ≠ s.cluster.find? t := fun hsame =>
      hne (by simp only [System.answer, Cluster.answer, Cluster.get, t, hsame])
    obtain ⟨hcollection, hplace⟩ := hs.of_find?_ne hfind
    obtain ⟨hplaceNs, hname⟩ := ObjectRef.mk.inj hplace
    cases e with
    | inventory i => exact ⟨ref, ns, href, hns, hplaceNs.symm, hname⟩
    | policy p => cases hcollection
    | space n => cases hcollection
  | policies =>
    have hlist : s'.cluster.inNamespace .policies (ref.ns.getD ns) ≠
        s.cluster.inNamespace .policies (ref.ns.getD ns) := fun hsame =>
      hne (by simp only [System.answer, Cluster.answer, hsame])
    obtain ⟨hcollection, hplaceNs⟩ := hs.of_inNamespace_ne hlist
    cases e with
    | inventory i => cases hcollection
    | policy p => exact ⟨ref, ns, href, hns, hplaceNs⟩
    | space n => cases hcollection
  | labels =>
    let t : Target := { collection := .namespaces, place := ⟨none, ns⟩ }
    have hfind : s'.cluster.find? t ≠ s.cluster.find? t := fun hsame =>
      hne (by simp only [System.answer, Cluster.answer, Cluster.labels, t, hsame])
    obtain ⟨hcollection, hplace⟩ := hs.of_find?_ne hfind
    obtain ⟨-, hname⟩ := ObjectRef.mk.inj hplace
    cases e with
    | inventory i => cases hcollection
    | policy p => cases hcollection
    | space n => exact ⟨⟨ref, href⟩, hname ▸ hns⟩

end GateEvent

/-- If two systems agree on everything beside one inventory, one policy or one namespace, then every
stored facade on which the gate decides differently in them is among the dependents of that object.
The dependents are just the stored facades that refer to it or live in it, each once. -/
theorem GateEvent.dependents_complete {k : FacadeKind} {store : ObjectStore (Facade k)}
    (hstore : store.Kept (·.metadata)) {e : GateEvent} {m : Dict Json}
    (hm : (Json.object m).Canonical) (he : e.Shows m) {s s' : System}
    (hs : s.cluster.AgreeBeside e.collection (Json.object m).place s'.cluster) :
    (∀ f ∈ store.objects, ∀ ref ns, f.reference = .inventory ref → f.metadata.ns = some ns →
      ∀ a : Admission, a = ⟨k, ns, ref.ns.getD ns, ref.name⟩ →
      (exec System.answer (gate a) s').1 ≠ (exec System.answer (gate a) s).1 →
      f.metadata.ref ∈ e.dependents store) ∧
    ∃ fs : List (Facade k), e.dependents store = fs.map (·.metadata.ref) ∧
      (fs.map (·.metadata.ref)).Nodup ∧ ∀ f, f ∈ fs ↔ f ∈ store.objects ∧ e.Concerns f := by
  rw [place_of_shows hm he] at hs
  refine ⟨fun f hf ref ns href hns a ha hne => ?_, ?_⟩
  · obtain ⟨c, hc, hreply⟩ := (gate_only a).exists_reply_ne
      (fun c hc => System.answer_lookup hc.isLookup s)
      (fun c hc => System.answer_lookup hc.isLookup s') hne
    exact mem_dependents hf (concerns_of_reply_ne hs href hns ha hc hreply)
  · obtain ⟨fs, hdependents, hsublist, hmem⟩ := selects_dependents store e
    exact ⟨fs, hdependents, hstore.nodup.sublist (hsublist.map _), hmem⟩

/-- A connection hears of it when its inventory is deleted. -/
theorem GateEvent.dependents_complete_on_deletion :
    let m : Dict Json :=
      [("metadata", .object [("name", .string "prod"), ("namespace", .string "dbaas")]),
        ("spec", .object [("credentialsRef", .object [("name", .string "secret")]),
          ("providerRef", .object [("name", .string "crunchy")])]),
        ("status", .object [("conditions", .array [.object
          [("status", .string "True"), ("type", .string "Ready")]])])]
    let i : Inventory :=
      ⟨⟨{ name := some "prod", ns := some "dbaas" },
        ⟨⟨"crunchy"⟩, ⟨"secret"⟩, none, ⟨none, none, none⟩⟩⟩,
        some ⟨[⟨"Ready", .holds, "", "", none⟩], ⟨[]⟩⟩⟩
    let f : Facade .connection :=
      ⟨⟨{ name := some "orders", ns := some "dbaas" }, ⟨⟨"prod", none⟩, "db", none, none⟩⟩, none⟩
    let s : System :=
      { cluster := { objects := fun c => if c = .facades .inventory then [.object m] else [] } }
    let a : Admission := ⟨.connection, "dbaas", "dbaas", "prod"⟩
    (exec System.answer (gate a) {}).1 ≠ (exec System.answer (gate a) s).1 ∧
      f.metadata.ref ∈ (inventory i).dependents (ObjectStore.apply {} f.metadata.ref f) := by
  intro m i f s a
  have hcanonical : (Json.object m).Canonical := by
    simp only [m, Json.Canonical, Json.CanonicalMembers, Json.CanonicalItems, Dict.Sorted]
    decide
  let deleted : System := {}
  have hs : s.cluster.AgreeBeside (inventory i).collection (Json.object m).place
      deleted.cluster :=
    .symm (.of_added [] [] (fun d hd => if_neg hd) rfl rfl)
  have hbefore : (exec System.answer (gate a) s).1 = .ok (.ok "crunchy") := rfl
  have hafter : (exec System.answer (gate a) deleted).1 = .ok (.error .missing) := rfl
  have hne : (exec System.answer (gate a) deleted).1 ≠ (exec System.answer (gate a) s).1 := by
    rw [hbefore, hafter]
    simp
  have hstore : (ObjectStore.apply {} f.metadata.ref f).Kept (·.metadata) := .apply .empty rfl
  have hshows : (inventory i).Shows m := rfl
  have htriggers := (dependents_complete hstore hcanonical hshows hs).1
  exact ⟨hne, htriggers f (List.mem_singleton_self f) ⟨"prod", none⟩ "dbaas" rfl rfl a rfl hne⟩

end ControlPlane
