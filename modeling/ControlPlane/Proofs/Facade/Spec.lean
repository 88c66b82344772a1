import ControlPlane.Facade.Kind
import ControlPlane.Proofs.Facade.Status

/-!
# Laws of specs

The specs that are read have their dictionaries in key order. Of such specs plain JSON is written,
and they are read back as they were.
-/

namespace ControlPlane

theorem ProviderRef.codec_writes : ProviderRef.codec.Writes fun _ => True :=
  Record.Writes.codec (.map (.required Codec.string_writes fun _ _ => trivial) _)

theorem ProviderRef.codec_restores : ProviderRef.codec.Restores fun _ => True :=
  Record.Restores.codec (.map (.required Codec.string_restores fun _ _ => trivial) _) (by decide)

theorem NamespacedRef.codec_writes : NamespacedRef.codec.Writes fun _ => True :=
  Record.Writes.codec (.seq (.map (.required Codec.string_writes fun _ _ => trivial) _)
    (.optional Codec.string_writes fun _ _ _ _ => trivial))

theorem NamespacedRef.codec_restores : NamespacedRef.codec.Restores fun _ => True :=
  Record.Restores.codec (.seq (.map (.required Codec.string_restores fun _ _ => trivial) _)
    (.optional Codec.string_writes Codec.string_restores fun _ _ _ _ => trivial)) (by decide)

theorem Authz.codec_writes : Authz.codec.Writes fun _ => True :=
  Record.Writes.codec (.seq (.map (.list Codec.string_writes fun _ _ _ _ => trivial) _)
    (.list Codec.string_writes fun _ _ _ _ => trivial))

theorem Authz.codec_restores : Authz.codec.Restores fun _ => True :=
  Record.Restores.codec (.seq (.map (.list Codec.string_restores fun _ _ _ _ => trivial) _)
    (.list Codec.string_restores fun _ _ _ _ => trivial)) (by decide)

theorem SelectorOperator.codec_restores : SelectorOperator.codec.Restores fun _ => True :=
  Codec.enumeration_restores fun a => by cases a <;> rfl

theorem SelectorRequirement.codec_writes : SelectorRequirement.codec.Writes fun _ => True :=
  Record.Writes.codec (.seq (.seq (.map (.required Codec.string_writes fun _ _ => trivial) _)
    (.required (Codec.enumeration_writes _ _) fun _ _ => trivial))
    (.defaulted (Codec.Writes.list Codec.string_writes) fun _ _ _ _ => trivial))

theorem SelectorRequirement.codec_restores : SelectorRequirement.codec.Restores fun _ => True :=
  Record.Restores.codec (.seq (.seq (.map (.required Codec.string_restores fun _ _ => trivial) _)
    (.required SelectorOperator.codec_restores fun _ _ => trivial))
    (.defaulted (Codec.Restores.list Codec.string_restores) fun _ _ _ _ => trivial)) (by decide)

namespace NamespaceSelector

def Valid (s : NamespaceSelector) : Prop := ∀ d, s.matchLabels = some d → d.Sorted

theorem codec_yields : codec.Yields Valid := by
  refine Record.Yields.codec (.seq (.map (.optional Codec.dict_yields) ?_) .any)
  exact fun _ h _ _ => h

theorem codec_writes : codec.Writes Valid :=
  Record.Writes.codec (.seq
    (.map (.optional (Codec.Writes.dict Codec.string_writes) fun _ h => h) _)
    (.list SelectorRequirement.codec_writes fun _ _ _ _ => trivial))

theorem codec_restores : codec.Restores Valid :=
  Record.Restores.codec (.seq
    (.map (.optional (Codec.Writes.dict Codec.string_writes)
      (Codec.Restores.dict Codec.string_restores) fun _ h => h) _)
    (.list SelectorRequirement.codec_restores fun _ _ _ _ => trivial)) (by decide)

end NamespaceSelector

namespace PolicyFields

def Valid (p : PolicyFields) : Prop := ∀ s, p.connectionNsSelector = some s → s.Valid

theorem record_yields : record.Yields Valid := by
  refine .seq (.seq (.map (Q := fun _ => True) .any ?_) .any)
    (.optional NamespaceSelector.codec_yields)
  exact fun _ _ _ _ _ h => h

theorem record_writes : record.Writes Valid :=
  .seq (.seq (.map (.optional Codec.bool_writes fun _ _ _ _ => trivial) _)
    (.optional (Codec.Writes.list Codec.string_writes) fun _ _ _ _ _ _ => trivial))
    (.optional NamespaceSelector.codec_writes fun _ h => h)

theorem record_restores : record.Restores id Valid :=
  .seq (.seq (.map (.optional Codec.bool_writes Codec.bool_restores fun _ _ _ _ => trivial) _)
    (.optional (Codec.Writes.list Codec.string_writes) (Codec.Restores.list Codec.string_restores)
      fun _ _ _ _ _ _ => trivial))
    (.optional NamespaceSelector.codec_writes NamespaceSelector.codec_restores fun _ h => h)

end PolicyFields

namespace InventorySpec

def Valid (s : InventorySpec) : Prop := s.policy.Valid

theorem codec_yields : codec.Yields Valid := by
  refine Record.Yields.gatheringCodec (.seq (.seq (.seq (.map (Q := fun _ => True) .any ?_) .any)
    .any) (.flatten PolicyFields.record_yields))
  exact fun _ _ _ _ _ _ _ h => h

theorem codec_writes : codec.Writes Valid :=
  Record.Writes.gatheringCodec (.seq (.seq (.seq
    (.map (.required ProviderRef.codec_writes fun _ _ => trivial) _)
    (.required LocalRef.codec_writes fun _ _ => trivial))
    (.optional Authz.codec_writes fun _ _ _ _ => trivial))
    (.flatten PolicyFields.record_writes fun _ h => h))

theorem codec_restores : codec.Restores Valid :=
  Record.Restores.gatheringCodec codec_writes (.seq (.seq (.seq
    (.map (.required ProviderRef.codec_restores fun _ _ => trivial) _)
    (.required LocalRef.codec_restores fun _ _ => trivial))
    (.optional Authz.codec_writes Authz.codec_restores fun _ _ _ _ => trivial))
    (.flatten PolicyFields.record_writes PolicyFields.record_restores fun _ h => h)) (by decide)

end InventorySpec

theorem ConnectionSpec.codec_writes : ConnectionSpec.codec.Writes fun _ => True :=
  Record.Writes.codec (.seq (.seq (.seq
    (.map (.required NamespacedRef.codec_writes fun _ _ => trivial) _)
    (.required Codec.string_writes fun _ _ => trivial))
    (.optional Codec.string_writes fun _ _ _ _ => trivial))
    (.optional Codec.string_writes fun _ _ _ _ => trivial))

theorem ConnectionSpec.codec_restores : ConnectionSpec.codec.Restores fun _ => True :=
  Record.Restores.codec (.seq (.seq (.seq
    (.map (.required NamespacedRef.codec_restores fun _ _ => trivial) _)
    (.required Codec.string_restores fun _ _ => trivial))
    (.optional Codec.string_writes Codec.string_restores fun _ _ _ _ => trivial))
    (.optional Codec.string_writes Codec.string_restores fun _ _ _ _ => trivial)) (by decide)

namespace InstanceSpec

def Valid (s : InstanceSpec) : Prop := Dict.Sorted s.otherInstanceParams

theorem codec_yields : codec.Yields Valid := by
  refine Record.Yields.codec (.seq (.seq (.seq (.seq (.map (Q := fun _ => True) .any ?_) .any) .any)
    .any) .dict)
  exact fun _ _ _ _ _ _ _ _ _ h => h

theorem codec_writes : codec.Writes Valid :=
  Record.Writes.codec (.seq (.seq (.seq (.seq
    (.map (.required NamespacedRef.codec_writes fun _ _ => trivial) _)
    (.required Codec.string_writes fun _ _ => trivial))
    (.optional Codec.string_writes fun _ _ _ _ => trivial))
    (.optional Codec.string_writes fun _ _ _ _ => trivial))
    (.dict fun _ h => h))

theorem codec_restores : codec.Restores Valid :=
  Record.Restores.codec (.seq (.seq (.seq (.seq
    (.map (.required NamespacedRef.codec_restores fun _ _ => trivial) _)
    (.required Codec.string_restores fun _ _ => trivial))
    (.optional Codec.string_writes Codec.string_restores fun _ _ _ _ => trivial))
    (.optional Codec.string_writes Codec.string_restores fun _ _ _ _ => trivial))
    (.dict fun _ h => h)) (by decide)

end InstanceSpec

namespace FacadeKind

/-- The dictionaries are in key order. -/
def ValidSpec : (k : FacadeKind) → k.Spec → Prop
  | .inventory => InventorySpec.Valid
  | .connection => fun _ => True
  | .dbInstance => InstanceSpec.Valid

theorem specCodec_yields (k : FacadeKind) : k.specCodec.Yields k.ValidSpec :=
  match k with
  | .inventory => InventorySpec.codec_yields
  | .connection => fun _ _ _ _ => trivial
  | .dbInstance => InstanceSpec.codec_yields

theorem specCodec_writes (k : FacadeKind) : k.specCodec.Writes k.ValidSpec :=
  match k with
  | .inventory => InventorySpec.codec_writes
  | .connection => ConnectionSpec.codec_writes
  | .dbInstance => InstanceSpec.codec_writes

theorem specCodec_restores (k : FacadeKind) : k.specCodec.Restores k.ValidSpec :=
  match k with
  | .inventory => InventorySpec.codec_restores
  | .connection => ConnectionSpec.codec_restores
  | .dbInstance => InstanceSpec.codec_restores

/-- What is written of a spec that was read is plain JSON. -/
theorem plain_specCodec_encode (k : FacadeKind) {o : Origin} {d : Document} {s : k.Spec}
    (h : k.specCodec.decode o d = .ok s) : (k.specCodec.encode s).Plain :=
  k.specCodec_writes s (k.specCodec_yields o d s h)

end FacadeKind

end ControlPlane
