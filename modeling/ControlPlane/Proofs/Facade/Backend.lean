import ControlPlane.Facade.Backend
import ControlPlane.ObjectStore
import ControlPlane.Proofs.Facade.Spec
import ControlPlane.Proofs.GenericObject

/-!
# Backends and the status that follows from them

Writes change the version of a facade and its status, and nothing that its backend is made of. The
status that follows from a backend is a fixed point: derived again, at another time and from the
status written before, it is the same, as long as the backend does not report the same condition
twice.
-/

namespace ControlPlane

namespace Backend

/-- No two conditions that the backend reports have the same type and the same status. -/
def ReportsDistinct (k : FacadeKind) (b : Backend) : Prop :=
  ∀ raw s, b.status? = some raw → k.statusCodec.read raw = .ok s →
    s.conditions.Pairwise fun c d => ¬ (c.type = d.type ∧ c.status = d.status)

/-- No condition that the backend reports without a time has the type and the status of another one
that it reports before. -/
def DatesRepeats (k : FacadeKind) (b : Backend) : Prop :=
  ∀ raw s, b.status? = some raw → k.statusCodec.read raw = .ok s →
    s.conditions.Pairwise fun c d => d.lastTransitionTime = none →
      ¬ (c.type = d.type ∧ c.status = d.status)

theorem ReportsDistinct.datesRepeats {k : FacadeKind} {b : Backend} (h : b.ReportsDistinct k) :
    b.DatesRepeats k := by
  intro raw s hraw hs
  refine (h raw s hraw hs).imp ?_
  exact fun hne _ => hne

theorem hasSpec_withSpec (b : Backend) (spec : Json) : (b.withSpec spec).hasSpec spec = true := by
  simp only [hasSpec, spec?, withSpec, Dict.get?_insert_self, Json.same_refl]

/-- A backend that has a spec without doubles has just that. -/
theorem spec?_of_hasSpec {b : Backend} {spec : Json} (h : b.hasSpec spec = true)
    (hspec : spec.DoubleFree) : b.spec? = some spec := by
  unfold hasSpec at h
  split at h
  · next s hs => rw [hs, Json.eq_of_same hspec (Json.same_symm h)]
  · cases h

theorem spec?_withSpec (b : Backend) (spec : Json) : (b.withSpec spec).spec? = some spec :=
  Dict.get?_insert_self ..

theorem status?_withSpec (b : Backend) (spec : Json) : (b.withSpec spec).status? = b.status? := by
  simp only [status?, withSpec, Dict.get?_insert_of_ne (show "spec" ≠ "status" by decide)]

theorem valid_withSpec {b : Backend} (hb : b.Valid) {spec : Json} (hspec : spec.Canonical) :
    (b.withSpec spec).Valid where
  metadata := hb.metadata
  canonical := hb.canonical.withMember "spec" hspec
  isData e he := by
    rcases Dict.mem_insert he with rfl | he
    · exact rfl
    · exact hb.isData e he

theorem ReportsDistinct.of_data_eq {k : FacadeKind} {b b' : Backend} (h : b.ReportsDistinct k)
    (hdata : b'.data = b.data) : b'.ReportsDistinct k := by
  intro raw s hraw
  rw [status?, hdata] at hraw
  exact h raw s hraw

end Backend

namespace Facade

variable {k : FacadeKind} {f : Facade k} {b : Backend} {now : Instant}

/-- The facade with another version and another status. -/
def updated (f : Facade k) (version : Option String) (status : Option (Status k.Details)) :
    Facade k :=
  { f with metadata := { f.metadata with resourceVersion := version }, status := status }

theorem updated_reference (f : Facade k) (version : Option String)
    (status : Option (Status k.Details)) : (f.updated version status).reference = f.reference := by
  cases k <;> rfl

/-- The facade has control of a backend of which it is the first controller. -/
theorem checkOwner_eq_ok : f.checkOwner b = .ok () ↔
    ∃ owner, b.metadata.controllerOwner? = some owner ∧ some owner.uid = f.metadata.uid := by
  unfold checkOwner
  cases b.metadata.controllerOwner? with
  | none => simp
  | some owner =>
    by_cases h : some owner.uid = f.metadata.uid <;> simp [h]

theorem newBackend_eq_ok {resource : ApiResource} {spec : Json} (hspec : spec.Canonical)
    (h : f.newBackend resource spec = .ok b) :
    b.type = some ⟨resource.apiVersion, resource.kind⟩ ∧ b.Valid ∧
      b.metadata.ref = f.metadata.ref ∧ f.checkOwner b = .ok () ∧ b.hasSpec spec = true ∧
      b.status? = none := by
  obtain ⟨owner, howner, hb⟩ := Except.bind_eq_ok.1 h
  obtain rfl := Except.ok.inj hb
  unfold Metadata.ownerReference Metadata.ownerReference? at howner
  split at howner
  · next r hr =>
    obtain rfl := Except.ok.inj howner
    split at hr
    · next name uid _ huid =>
      obtain rfl := Option.some.inj hr
      refine ⟨rfl, ⟨?_, ?_, ?_⟩, rfl, checkOwner_eq_ok.2 ⟨_, rfl, huid.symm⟩, spec.same_refl, rfl⟩
      · constructor <;> simp [managedLabels, Dict.Sorted]
      · exact Json.canonical_object.2 ⟨List.pairwise_singleton _ _, by simpa using hspec⟩
      · simp [GenericObject.isData]
    · cases hr
  · cases howner

/-- A new backend has the spec that is handed on. -/
theorem spec?_newBackend {resource : ApiResource} {spec : Json}
    (h : f.newBackend resource spec = .ok b) : b.spec? = some spec := by
  obtain ⟨owner, -, hb⟩ := Except.bind_eq_ok.1 h
  obtain rfl := Except.ok.inj hb
  rfl

/-! ## The derived status -/

theorem transitionTime_eq (now : Instant) (prior : List Condition) (c : Condition) :
    transitionTime now prior c =
      ((Condition.alike? prior c).bind (·.lastTransitionTime)).getD now := by
  unfold transitionTime Condition.alike?
  cases prior.find? fun p => p.type = c.type ∧ p.status = c.status <;> rfl

/-- The time that a condition has when it has been stamped. -/
def stampedTime (now : Instant) (prior : List Condition) (c : Condition) : Instant :=
  c.lastTransitionTime.getD (transitionTime now prior c)

theorem stamp_eq (now : Instant) (prior : List Condition) (c : Condition) :
    stamp now prior c = { c with lastTransitionTime := some (stampedTime now prior c) } := by
  obtain ⟨type, status, reason, message, time⟩ := c
  cases time <;> rfl

theorem stampedTime_of_none {c : Condition} (h : c.lastTransitionTime = none)
    (prior : List Condition) : stampedTime now prior c = transitionTime now prior c := by
  rw [stampedTime, h]
  rfl

theorem alike?_map_stamp (now : Instant) (prior conditions : List Condition) (c : Condition) :
    Condition.alike? (conditions.map (stamp now prior)) c =
      (Condition.alike? conditions c).map (stamp now prior) := by
  simp only [Condition.alike?, List.find?_map, Function.comp_def, stamp_eq]

/-- Where the conditions before are stamped ones, the time is that of the first that is alike. -/
theorem transitionTime_map_stamp {conditions : List Condition} {c d : Condition}
    (h : Condition.alike? conditions c = some d) (now now₁ : Instant) (prior : List Condition) :
    transitionTime now₁ (conditions.map (stamp now prior)) c = stampedTime now prior d := by
  rw [transitionTime_eq, alike?_map_stamp, h, Option.map_some, stamp_eq]
  rfl

/-- Stamping is determined by the times. -/
theorem map_stamp_congr {now now₁ : Instant} {prior prior₁ conditions : List Condition}
    (h : ∀ c ∈ conditions, c.lastTransitionTime = none →
      transitionTime now₁ prior₁ c = transitionTime now prior c) :
    conditions.map (stamp now₁ prior₁) = conditions.map (stamp now prior) := by
  refine List.map_congr_left fun c hc => ?_
  unfold stamp
  split
  · rfl
  · next hnone => rw [h c hc hnone]

/-- The first condition of a type and status keeps the time with which it was stamped. -/
theorem stampedTime_map_stamp {conditions : List Condition} {c : Condition}
    (h : Condition.alike? conditions c = some c) (now now₁ : Instant) (prior : List Condition) :
    stampedTime now₁ (conditions.map (stamp now prior)) c = stampedTime now prior c := by
  cases ht : c.lastTransitionTime with
  | some t => simp only [stampedTime, ht, Option.getD_some]
  | none => rw [stampedTime_of_none ht, transitionTime_map_stamp h]

/-- The times that were given once are given again, if each condition without a time is the first
of its type and status. -/
theorem stamp_again (now now₁ : Instant) (prior : List Condition) {conditions : List Condition}
    (h : conditions.Pairwise fun c d => d.lastTransitionTime = none →
      ¬ (c.type = d.type ∧ c.status = d.status)) :
    conditions.map (stamp now₁ (conditions.map (stamp now prior))) =
      conditions.map (stamp now prior) := by
  refine map_stamp_congr fun c hc hnone => ?_
  rw [transitionTime_map_stamp (Condition.alike?_of_pairwise h hc hnone), stampedTime_of_none hnone]

/-- Times that were given twice are given again, whatever is repeated: the second time each
condition has borrowed from the first of its type and status, which has kept its time. -/
theorem stamp_third (now now₁ now₂ : Instant) (prior conditions : List Condition) :
    conditions.map (stamp now₂ (conditions.map (stamp now₁ (conditions.map (stamp now prior))))) =
      conditions.map (stamp now₁ (conditions.map (stamp now prior))) := by
  refine map_stamp_congr fun c hc _ => ?_
  obtain ⟨d, hd⟩ := Condition.exists_alike? hc
  rw [transitionTime_map_stamp hd, transitionTime_map_stamp hd,
    stampedTime_map_stamp (Condition.alike?_self hd)]

theorem deriveStatus_of_none (h : b.status? = none) (f : Facade k) (now : Instant) :
    f.deriveStatus now b = .ok (f.currentStatus.setCondition (pendingCondition now)).2 := by
  rw [deriveStatus, h]

theorem deriveStatus_of_read {raw : Json} {s : Status k.Details} (h : b.status? = some raw)
    (hs : k.statusCodec.read raw = .ok s) (f : Facade k) (now : Instant) :
    f.deriveStatus now b =
      .ok { s with conditions := s.conditions.map (stamp now f.currentStatus.conditions) } := by
  simp only [deriveStatus, h, hs]

theorem deriveStatus_of_unreadable {raw : Json} {message : String} (h : b.status? = some raw)
    (hs : k.statusCodec.read raw = .error message) (f : Facade k) (now : Instant) :
    f.deriveStatus now b = .error (.serialization message (some k.kind)) := by
  simp only [deriveStatus, h, hs]

/-- A status is derived in two ways. -/
theorem deriveStatus_eq_ok {t : Status k.Details} (h : f.deriveStatus now b = .ok t) :
    (b.status? = none ∧ t = (f.currentStatus.setCondition (pendingCondition now)).2) ∨
      ∃ raw s, b.status? = some raw ∧ k.statusCodec.read raw = .ok s ∧
        t = { s with conditions := s.conditions.map (stamp now f.currentStatus.conditions) } := by
  cases hraw : b.status? with
  | none =>
    rw [deriveStatus_of_none hraw] at h
    exact .inl ⟨rfl, (Except.ok.inj h).symm⟩
  | some raw =>
    cases hs : k.statusCodec.read raw with
    | error message =>
      rw [deriveStatus_of_unreadable hraw hs] at h
      cases h
    | ok s =>
      rw [deriveStatus_of_read hraw hs] at h
      exact .inr ⟨raw, s, rfl, hs, (Except.ok.inj h).symm⟩

theorem deriveStatus_error {e : Error} (h : f.deriveStatus now b = .error e)
    (version : Option String) (status : Option (Status k.Details)) (now₁ : Instant) :
    (f.updated version status).deriveStatus now₁ b = .error e := by
  unfold deriveStatus at h ⊢
  split at h
  · cases h
  · split at h
    · exact h
    · cases h

/-- The status that was derived is derived again from itself. -/
theorem deriveStatus_again {t : Status k.Details} (h : f.deriveStatus now b = .ok t)
    (hb : b.DatesRepeats k) (version : Option String) (now₁ : Instant) :
    (f.updated version (some t)).deriveStatus now₁ b = .ok t := by
  rcases deriveStatus_eq_ok h with ⟨hraw, rfl⟩ | ⟨raw, s, hraw, hs, rfl⟩
  · rw [deriveStatus_of_none hraw]
    exact congrArg Except.ok (Status.setCondition_eq_iff.2
      (f.currentStatus.setCondition_again (pendingCondition now) (some now₁)))
  · rw [deriveStatus_of_read hraw hs]
    have hagain := stamp_again now now₁ f.currentStatus.conditions (hb raw s hraw hs)
    exact congrArg (fun conditions => Except.ok (Status.mk conditions s.details)) hagain

theorem valid_transitionTime (hnow : now.Valid) {prior : List Condition}
    (hprior : ∀ c ∈ prior, c.Valid) (c : Condition) : (transitionTime now prior c).Valid := by
  unfold transitionTime
  split
  · next p hp =>
    cases ht : p.lastTransitionTime with
    | none => exact hnow
    | some t => exact hprior p (List.mem_of_find?_eq_some hp) t ht
  · exact hnow

theorem valid_stamp (hnow : now.Valid) {prior : List Condition} (hprior : ∀ c ∈ prior, c.Valid)
    {c : Condition} (hc : c.Valid) : (stamp now prior c).Valid := by
  rw [stamp_eq]
  intro t ht
  obtain rfl := Option.some.inj ht
  unfold stampedTime
  cases h : c.lastTransitionTime with
  | some t => exact hc t h
  | none => exact valid_transitionTime hnow hprior c

theorem valid_pendingCondition (hnow : now.Valid) : (pendingCondition now).Valid := by
  intro t ht
  obtain rfl := Option.some.inj ht
  exact hnow

theorem valid_deriveStatus {t : Status k.Details} (hnow : now.Valid)
    (hf : k.ValidStatus f.currentStatus) (h : f.deriveStatus now b = .ok t) : k.ValidStatus t := by
  rcases deriveStatus_eq_ok h with ⟨-, rfl⟩ | ⟨raw, s, -, hs, rfl⟩
  · exact hf.setCondition (valid_pendingCondition hnow)
  · obtain ⟨hconditions, hdetails⟩ := k.statusCodec_yields _ _ _ hs
    refine ⟨fun c hc => ?_, hdetails⟩
    obtain ⟨d, hd, rfl⟩ := List.mem_map.1 hc
    exact valid_stamp hnow hf.1 (hconditions d hd)

end Facade

end ControlPlane
