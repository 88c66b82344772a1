import ControlPlane.Facade.Kind
import ControlPlane.Proofs.Codec.Merge
import ControlPlane.Proofs.Condition

/-!
# Laws of statuses

The types of the details admit values that no status has: times that are no instants, and
dictionaries out of order. `FacadeKind.ValidStatus` excludes them. Every status that is read is
valid, and a valid status is read back as it was written, also when it is written as a patch.
-/

namespace ControlPlane

open Document (ofJson ofMembers)
open Json (mergePatch applyPatch mergedMember patched change)

theorem LocalRef.codec_writes : LocalRef.codec.Writes fun _ => True :=
  Record.Writes.codec (.map (.required Codec.string_writes fun _ _ => trivial) _)

theorem LocalRef.codec_restores : LocalRef.codec.Restores fun _ => True :=
  Record.Restores.codec (.map (.required Codec.string_restores fun _ _ => trivial) _) (by decide)

/-- References that differ differ in their only member, so that the patch replaces it. -/
theorem LocalRef.codec_merges : LocalRef.codec.Merges fun _ => True := by
  intro o j s t hj _ _ hsame
  have hne : s.name ≠ t.name := fun heq => by
    obtain rfl : s = t := by
      cases s
      cases t
      exact congrArg LocalRef.mk heq
    simp at hsame
  have hone (name : String) : Dict.Sorted [("name", Json.string name)] :=
    List.pairwise_singleton _ _
  obtain ⟨merged, heq, hsorted, hget⟩ :=
    Json.exists_applyPatch_mergePatch (hone s.name) (hone t.name) hj
  have hname : merged.get? "name" = some (.string t.name) := by
    rw [hget]
    simp [Dict.get?, mergedMember, change, Json.same, hne, mergePatch, patched, Json.isNull,
      applyPatch]
  show LocalRef.codec.decode o (ofJson ((mergePatch (.object [("name", .string s.name)])
    (.object [("name", .string t.name)])).applyPatch j)) = .ok t
  rw [heq]
  refine (Record.codec_decode_object hsorted).2
    (Record.read_map_eq_ok.2 ⟨t.name, (Record.read_required hsorted).2 ?_, rfl⟩)
  rw [hname]
  rfl

namespace DatabaseService

def Valid (s : DatabaseService) : Prop := Dict.Sorted s.serviceInfo

theorem codec_yields : codec.Yields Valid := by
  refine Record.Yields.codec (.seq (.seq (.seq (.map (Q := fun _ => True) .any ?_) .any) .any)
    .dict)
  exact fun _ _ _ _ _ _ _ h => h

theorem codec_writes : codec.Writes Valid :=
  Record.Writes.codec (.seq (.seq (.seq (.map
    (.required Codec.string_writes fun _ _ => trivial) _)
    (.optional Codec.string_writes fun _ _ _ _ => trivial))
    (.optional Codec.string_writes fun _ _ _ _ => trivial))
    (.dict fun _ hs => hs))

theorem codec_restores : codec.Restores Valid :=
  Record.Restores.codec (.seq (.seq (.seq (.map
    (.required Codec.string_restores fun _ _ => trivial) _)
    (.optional Codec.string_writes Codec.string_restores fun _ _ _ _ => trivial))
    (.optional Codec.string_writes Codec.string_restores fun _ _ _ _ => trivial))
    (.dict fun _ hs => hs)) (by decide)

end DatabaseService

/-! ## Details -/

namespace InventoryDetails

def Valid (d : InventoryDetails) : Prop := ∀ s ∈ d.databaseServices, s.Valid

theorem record_yields : record.Yields Valid :=
  .map (.list DatabaseService.codec_yields) fun _ h => h

theorem record_writes : record.Writes Valid :=
  .map (.list DatabaseService.codec_writes fun _ h => h) _

theorem record_restores : record.Restores id Valid :=
  .map (.list DatabaseService.codec_restores fun _ h => h) _

theorem record_merges : record.Merges Valid := by
  intro o m m' s t hm hm' hs hPs hPt hk
  have hsorted := (Json.canonical_object.1 hm).1
  obtain ⟨services, hservices, rfl⟩ := Record.read_map_eq_ok.1 hs
  refine Record.read_map_eq_ok.2 ⟨t.databaseServices, (Record.read_list hm').2 ?_, rfl⟩
  have hmerged := hk "databaseServices" (by decide)
  simp only [record, Record.get?_write_map, Record.get?_write_list, if_true] at hmerged
  rw [hmerged]
  exact Record.holds_merged_list DatabaseService.codec_writes DatabaseService.codec_restores
    ((Record.read_list hsorted).1 hservices) hPs hPt

end InventoryDetails

namespace ConnectionDetails

theorem record_writes : record.Writes fun _ => True :=
  .seq (.map (.optional LocalRef.codec_writes fun _ _ _ _ => trivial) _)
    (.optional LocalRef.codec_writes fun _ _ _ _ => trivial)

theorem record_restores : record.Restores id fun _ => True :=
  .seq (.map (.optional LocalRef.codec_writes LocalRef.codec_restores fun _ _ _ _ => trivial) _)
    (.optional LocalRef.codec_writes LocalRef.codec_restores fun _ _ _ _ => trivial)

theorem record_merges : record.Merges fun _ => True := by
  intro o m m' s t hm hm' hs _ _ hk
  have hsorted := (Json.canonical_object.1 hm).1
  have hold := fun k j => Json.Canonical.get? hm (k := k) (v := j)
  have hcredentials := hk "credentialsRef" (by decide)
  have hinfo := hk "connectionInfoRef" (by decide)
  simp only [record, Record.get?_write_seq, Record.get?_write_map, Record.get?_write_optional,
    String.reduceEq, reduceIte, Option.or_none, Option.none_or] at hcredentials hinfo
  obtain ⟨_, info, hg, hreadInfo, rfl⟩ := Record.read_seq_eq_ok.1 hs
  obtain ⟨credentials, hreadCredentials, rfl⟩ := Record.read_map_eq_ok.1 hg
  refine Record.read_seq_eq_ok.2 ⟨_, t.connectionInfoRef, Record.read_map_eq_ok.2
    ⟨t.credentialsRef, (Record.read_optional hm').2 ?_, rfl⟩, (Record.read_optional hm').2 ?_, rfl⟩
  · rw [hcredentials]
    exact Record.holds_merged_optional LocalRef.codec_writes LocalRef.codec_restores
      LocalRef.codec_merges (hold _) ((Record.read_optional hsorted).1 hreadCredentials)
      (fun _ _ => trivial) (fun _ _ => trivial)
  · rw [hinfo]
    exact Record.holds_merged_optional LocalRef.codec_writes LocalRef.codec_restores
      LocalRef.codec_merges (hold _) ((Record.read_optional hsorted).1 hreadInfo)
      (fun _ _ => trivial) (fun _ _ => trivial)

end ConnectionDetails

namespace InstanceDetails

def Valid (d : InstanceDetails) : Prop := Dict.Sorted d.instanceInfo

theorem record_yields : record.Yields Valid := by
  refine .seq (.seq (.map (Q := fun _ => True) .any ?_) .dict) .any
  exact fun _ _ _ h _ _ => h

theorem record_writes : record.Writes Valid :=
  .seq (.seq (.map (.optional Codec.string_writes fun _ _ _ _ => trivial) _)
    (.dict fun _ h => h)) (.optional Codec.string_writes fun _ _ _ _ => trivial)

theorem record_restores : record.Restores id Valid :=
  .seq (.seq (.map (.optional Codec.string_writes Codec.string_restores fun _ _ _ _ => trivial) _)
    (.dict fun _ h => h)) (.optional Codec.string_writes Codec.string_restores fun _ _ _ _ => trivial)

theorem record_merges : record.Merges Valid := by
  intro o m m' s t hm hm' hs _ hPt hk
  have hsorted := (Json.canonical_object.1 hm).1
  have hold := fun k j => Json.Canonical.get? hm (k := k) (v := j)
  have hid := hk "instanceID" (by decide)
  have hinfo := hk "instanceInfo" (by decide)
  have hphase := hk "phase" (by decide)
  simp only [record, Record.get?_write_seq, Record.get?_write_map, Record.get?_write_optional,
    Record.get?_write_dict, String.reduceEq, reduceIte, Option.or_none, Option.none_or]
    at hid hinfo hphase
  obtain ⟨_, phase, hg, hreadPhase, rfl⟩ := Record.read_seq_eq_ok.1 hs
  obtain ⟨_, info, hg', hreadInfo, rfl⟩ := Record.read_seq_eq_ok.1 hg
  obtain ⟨id, hreadId, rfl⟩ := Record.read_map_eq_ok.1 hg'
  refine Record.read_seq_eq_ok.2 ⟨_, t.phase, Record.read_seq_eq_ok.2 ⟨_, t.instanceInfo,
    Record.read_map_eq_ok.2 ⟨t.instanceId, (Record.read_optional hm').2 ?_, rfl⟩,
    (Record.read_dict hm').2 ?_, rfl⟩, (Record.read_optional hm').2 ?_, rfl⟩
  · rw [hid]
    exact Record.holds_merged_optional Codec.string_writes Codec.string_restores
      Codec.string_merges (hold _) ((Record.read_optional hsorted).1 hreadId)
      (fun _ _ => trivial) (fun _ _ => trivial)
  · rw [hinfo]
    exact Record.holds_merged_dict (hold _) ((Record.read_dict hsorted).1 hreadInfo) hPt
  · rw [hphase]
    exact Record.holds_merged_optional Codec.string_writes Codec.string_restores
      Codec.string_merges (hold _) ((Record.read_optional hsorted).1 hreadPhase)
      (fun _ _ => trivial) (fun _ _ => trivial)

end InstanceDetails

/-! ## Statuses -/

namespace Status

variable {Details : Type} {r : Record Details Details} {V : Details → Prop}

/-- The times of all transitions are instants of the calendar, and the details satisfy `V`. -/
def Valid (V : Details → Prop) (s : Status Details) : Prop :=
  (∀ c ∈ s.conditions, c.Valid) ∧ V s.details

theorem record_yields (h : r.Yields V) : (record r).Yields (Valid V) :=
  .seq (.map (.list Condition.codec_yields) fun _ hc _ hd => ⟨hc, hd⟩) (.within h)

theorem record_writes (h : r.Writes V) : (record r).Writes (Valid V) :=
  .seq (.map (.list Condition.codec_writes fun _ hs => hs.1) _) (.within h fun _ hs => hs.2)

theorem record_restores (h : r.Restores id V) : (record r).Restores id (Valid V) :=
  .seq (.map (.list Condition.codec_restores fun _ hs => hs.1) _) (.within h fun _ hs => hs.2)

theorem record_merges (h : r.Merges V) (hr : r.Restores id V) (hn : "conditions" ∉ r.keys) :
    (record r).Merges (Valid V) := by
  intro o m m' s t hm hm' hs hPs hPt hk
  have hsorted := (Json.canonical_object.1 hm).1
  obtain ⟨_, details, hg, hreadDetails, rfl⟩ := Record.read_seq_eq_ok.1 hs
  obtain ⟨conditions, hreadConditions, rfl⟩ := Record.read_map_eq_ok.1 hg
  refine Record.read_seq_eq_ok.2 ⟨_, t.details, Record.read_map_eq_ok.2
    ⟨t.conditions, (Record.read_list hm').2 ?_, rfl⟩, ?_, rfl⟩
  · have hconditions := hk "conditions" List.mem_cons_self
    simp only [record, Record.get?_write_seq, Record.get?_write_map, Record.get?_write_list,
      if_true] at hconditions
    have hwithin : ∀ x : Status Details,
        Dict.get? ((Record.within r (·.details)).write x) "conditions" = none :=
      fun x => hr.get?_write hn
    rw [hwithin, hwithin, Option.or_none, Option.or_none] at hconditions
    rw [hconditions]
    exact Record.holds_merged_list Condition.codec_writes Condition.codec_restores
      ((Record.read_list hsorted).1 hreadConditions) hPs.1 hPt.1
  · refine h o m m' details t.details hm hm' hreadDetails hPs.2 hPt.2 ?_
    intro k hkr
    have hne : "conditions" ≠ k := fun heq => hn (heq ▸ hkr)
    have hkey := hk k (List.mem_cons_of_mem _ hkr)
    simp only [record, Record.get?_write_seq, Record.get?_write_map, Record.get?_write_list, hne,
      if_false, Option.none_or] at hkey
    exact hkey

theorem conditions_setCondition (s : Status Details) (c : Condition) :
    (s.setCondition c).2.conditions = Condition.put c s.conditions := Condition.set_snd _ c

theorem Valid.setCondition {s : Status Details} (hs : s.Valid V) {c : Condition} (hc : c.Valid) :
    (s.setCondition c).2.Valid V := by
  refine ⟨?_, hs.2⟩
  rw [conditions_setCondition]
  exact hc.put hs.1

/-- The flag says whether the status changed. -/
theorem setCondition_eq_iff {s : Status Details} {c : Condition} :
    (s.setCondition c).2 = s ↔ (s.setCondition c).1 = false := by
  refine Iff.trans ?_ Condition.put_eq_iff
  rw [← Condition.set_snd]
  exact ⟨congrArg Status.conditions, fun h => congrArg (Status.mk · s.details) h⟩

/-- Recording the same again at another time changes nothing. -/
theorem setCondition_again (s : Status Details) (c : Condition) (t : Option Instant) :
    ((s.setCondition c).2.setCondition { c with lastTransitionTime := t }).1 = false := by
  show (Condition.set (Condition.set s.conditions c).2 _).1 = false
  rw [Condition.set_snd]
  exact Condition.set_put s.conditions c t

end Status

namespace FacadeKind

def detailsRecord : (k : FacadeKind) → Record k.Details k.Details
  | .inventory => InventoryDetails.record
  | .connection => ConnectionDetails.record
  | .dbInstance => InstanceDetails.record

def ValidDetails : (k : FacadeKind) → k.Details → Prop
  | .inventory => InventoryDetails.Valid
  | .connection => fun _ => True
  | .dbInstance => InstanceDetails.Valid

/-- The times are instants of the calendar and the dictionaries are in key order. -/
def ValidStatus (k : FacadeKind) (s : Status k.Details) : Prop := s.Valid k.ValidDetails

theorem detailsRecord_yields (k : FacadeKind) : k.detailsRecord.Yields k.ValidDetails :=
  match k with
  | .inventory => InventoryDetails.record_yields
  | .connection => .any
  | .dbInstance => InstanceDetails.record_yields

theorem detailsRecord_writes (k : FacadeKind) : k.detailsRecord.Writes k.ValidDetails :=
  match k with
  | .inventory => InventoryDetails.record_writes
  | .connection => ConnectionDetails.record_writes
  | .dbInstance => InstanceDetails.record_writes

theorem detailsRecord_restores (k : FacadeKind) : k.detailsRecord.Restores id k.ValidDetails :=
  match k with
  | .inventory => InventoryDetails.record_restores
  | .connection => ConnectionDetails.record_restores
  | .dbInstance => InstanceDetails.record_restores

theorem detailsRecord_merges (k : FacadeKind) : k.detailsRecord.Merges k.ValidDetails :=
  match k with
  | .inventory => InventoryDetails.record_merges
  | .connection => ConnectionDetails.record_merges
  | .dbInstance => InstanceDetails.record_merges

theorem nodup_statusKeys (k : FacadeKind) : (Status.record k.detailsRecord).keys.Nodup := by
  cases k <;> decide

theorem statusCodec_eq (k : FacadeKind) :
    ∃ name doc, k.statusCodec = Record.codec name doc (Status.record k.detailsRecord) :=
  match k with
  | .inventory => ⟨_, _, rfl⟩
  | .connection => ⟨_, _, rfl⟩
  | .dbInstance => ⟨_, _, rfl⟩

theorem statusCodec_yields (k : FacadeKind) : k.statusCodec.Yields k.ValidStatus := by
  obtain ⟨name, doc, h⟩ := k.statusCodec_eq
  rw [h]
  exact Record.Yields.codec (Status.record_yields k.detailsRecord_yields)

theorem statusCodec_writes (k : FacadeKind) : k.statusCodec.Writes k.ValidStatus := by
  obtain ⟨name, doc, h⟩ := k.statusCodec_eq
  rw [h]
  exact Record.Writes.codec (Status.record_writes k.detailsRecord_writes)

theorem statusCodec_restores (k : FacadeKind) : k.statusCodec.Restores k.ValidStatus := by
  obtain ⟨name, doc, h⟩ := k.statusCodec_eq
  rw [h]
  exact Record.Restores.codec (Status.record_restores k.detailsRecord_restores) k.nodup_statusKeys

/-- The patch from one status to another one turns any object that reads as the first into one that
reads as the second. -/
theorem statusCodec_merges (k : FacadeKind) {m : Dict Json} {s t : Status k.Details}
    (hm : (Json.object m).Canonical) (hs : k.statusCodec.read (.object m) = .ok s)
    (ht : k.ValidStatus t) :
    k.statusCodec.read ((mergePatch (k.statusCodec.encode s)
      (k.statusCodec.encode t)).applyPatch (.object m)) = .ok t := by
  have hvalid := k.statusCodec_yields _ _ _ hs
  have hn : "conditions" ∉ k.detailsRecord.keys := by cases k <;> decide
  obtain ⟨name, doc, h⟩ := k.statusCodec_eq
  rw [h] at hs ⊢
  exact (Status.record_merges k.detailsRecord_merges k.detailsRecord_restores hn).codec
    (Status.record_restores k.detailsRecord_restores) k.nodup_statusKeys hm hs hvalid ht

/-- Where there is no status yet, the patch is the status itself. -/
theorem statusCodec_merges_null (k : FacadeKind) {t : Status k.Details} (ht : k.ValidStatus t) :
    k.statusCodec.read ((mergePatch .null (k.statusCodec.encode t)).applyPatch .null) =
      .ok t := by
  have hplain := k.statusCodec_writes t ht
  rw [Json.mergePatch_of_not_object (.inl (by simp)),
    hplain.nullFree.applyPatch_null hplain.canonical]
  exact k.statusCodec_restores _ t ht

end FacadeKind

end ControlPlane
