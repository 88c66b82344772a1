import ControlPlane.Proofs.Facade.Spec
import ControlPlane.Proofs.Policy.Stored
import ControlPlane.Provider
import ControlPlane.Tenant

/-!
# Lossless codecs

A codec is lossless when a value and what is written of it determine each other. The specs and
statuses of all resources have lossless codecs. What their types admit beyond the values there are,
dictionaries out of order and times that are no instants, is excluded by the predicates.
-/

namespace ControlPlane

open Document (ofJson)

namespace Codec

variable {α : Type} {c : Codec α} {P : α → Prop}

/-- What is read of `j` is written as `j` again. -/
def Fixes (c : Codec α) (j : Json) : Prop := (c.read j).map c.encode = .ok j

/-- The values that satisfy `P` are those there are: each is read back as it was written, without a
null in between, and whatever is read is one of them. So what is written of something that was read
is read as the same, and is written as it is. -/
structure Lossless (c : Codec α) (P : α → Prop) : Prop where
  restores : ∀ o a, P a → c.decode o (ofJson (c.encode a)) = .ok a
  noNull : ∀ a, P a → (c.encode a).NoNull
  yields : ∀ o d a, c.decode o d = .ok a → P a
  settles : ∀ o d a, c.decode o d = .ok a → c.read (c.encode a) = .ok a ∧ c.Fixes (c.encode a)

theorem Restores.lossless (hr : c.Restores P) (hw : c.Writes P) (hy : c.Yields P) :
    c.Lossless P where
  restores := hr
  noNull a ha := (hw a ha).noNull
  yields := hy
  settles o d a h := by
    have hread : c.read (c.encode a) = .ok a := hr .direct a (hy o d a h)
    exact ⟨hread, Except.map_eq_ok.2 ⟨a, hread, rfl⟩⟩

end Codec

namespace PolicySpec

def Valid (s : PolicySpec) : Prop := s.fields.Valid

theorem codec_yields : codec.Yields Valid :=
  Record.Yields.gatheringCodec (.map (.flatten PolicyFields.record_yields) fun _ h => h)

theorem codec_writes : codec.Writes Valid :=
  Record.Writes.gatheringCodec (.map (.flatten PolicyFields.record_writes fun _ h => h) _)

theorem codec_restores : codec.Restores Valid :=
  Record.Restores.gatheringCodec codec_writes
    (.map (.flatten PolicyFields.record_writes PolicyFields.record_restores fun _ h => h) _)
    (by decide)

end PolicySpec

theorem ProviderInfo.codec_writes : ProviderInfo.codec.Writes fun _ => True :=
  Record.Writes.codec (.seq (.seq (.map (.required Codec.string_writes fun _ _ => trivial) _)
    (.optional Codec.string_writes fun _ _ _ _ => trivial))
    (.optional Codec.string_writes fun _ _ _ _ => trivial))

theorem ProviderInfo.codec_restores : ProviderInfo.codec.Restores fun _ => True :=
  Record.Restores.codec (.seq (.seq (.map (.required Codec.string_restores fun _ _ => trivial) _)
    (.optional Codec.string_writes Codec.string_restores fun _ _ _ _ => trivial))
    (.optional Codec.string_writes Codec.string_restores fun _ _ _ _ => trivial)) (by decide)

theorem CredentialField.codec_writes : CredentialField.codec.Writes fun _ => True :=
  Record.Writes.codec (.seq (.seq (.seq
    (.map (.required Codec.string_writes fun _ _ => trivial) _)
    (.optional Codec.string_writes fun _ _ _ _ => trivial))
    (.optional Codec.string_writes fun _ _ _ _ => trivial))
    (.defaulted Codec.bool_writes fun _ _ => trivial))

theorem CredentialField.codec_restores : CredentialField.codec.Restores fun _ => True :=
  Record.Restores.codec (.seq (.seq (.seq
    (.map (.required Codec.string_restores fun _ _ => trivial) _)
    (.optional Codec.string_writes Codec.string_restores fun _ _ _ _ => trivial))
    (.optional Codec.string_writes Codec.string_restores fun _ _ _ _ => trivial))
    (.defaulted Codec.bool_restores fun _ _ => trivial)) (by decide)

theorem InstanceParameterSpec.codec_writes : InstanceParameterSpec.codec.Writes fun _ => True :=
  Record.Writes.codec (.seq (.seq (.seq (.seq
    (.map (.required Codec.string_writes fun _ _ => trivial) _)
    (.optional Codec.string_writes fun _ _ _ _ => trivial))
    (.optional Codec.string_writes fun _ _ _ _ => trivial))
    (.defaulted Codec.bool_writes fun _ _ => trivial))
    (.optional Codec.string_writes fun _ _ _ _ => trivial))

theorem InstanceParameterSpec.codec_restores : InstanceParameterSpec.codec.Restores fun _ => True :=
  Record.Restores.codec (.seq (.seq (.seq (.seq
    (.map (.required Codec.string_restores fun _ _ => trivial) _)
    (.optional Codec.string_writes Codec.string_restores fun _ _ _ _ => trivial))
    (.optional Codec.string_writes Codec.string_restores fun _ _ _ _ => trivial))
    (.defaulted Codec.bool_restores fun _ _ => trivial))
    (.optional Codec.string_writes Codec.string_restores fun _ _ _ _ => trivial)) (by decide)

theorem ProviderSpec.codec_writes : ProviderSpec.codec.Writes fun _ => True :=
  Record.Writes.codec (.seq (.seq (.seq (.seq (.seq (.seq
    (.map (.required ProviderInfo.codec_writes fun _ _ => trivial) _)
    (.optional Codec.string_writes fun _ _ _ _ => trivial))
    (.required Codec.string_writes fun _ _ => trivial))
    (.required Codec.string_writes fun _ _ => trivial))
    (.required Codec.string_writes fun _ _ => trivial))
    (.list CredentialField.codec_writes fun _ _ _ _ => trivial))
    (.list InstanceParameterSpec.codec_writes fun _ _ _ _ => trivial))

theorem ProviderSpec.codec_restores : ProviderSpec.codec.Restores fun _ => True :=
  Record.Restores.codec (.seq (.seq (.seq (.seq (.seq (.seq
    (.map (.required ProviderInfo.codec_restores fun _ _ => trivial) _)
    (.optional Codec.string_writes Codec.string_restores fun _ _ _ _ => trivial))
    (.required Codec.string_restores fun _ _ => trivial))
    (.required Codec.string_restores fun _ _ => trivial))
    (.required Codec.string_restores fun _ _ => trivial))
    (.list CredentialField.codec_restores fun _ _ _ _ => trivial))
    (.list InstanceParameterSpec.codec_restores fun _ _ _ _ => trivial)) (by decide)

theorem TenantSpec.codec_writes : TenantSpec.codec.Writes fun _ => True :=
  Record.Writes.codec (.seq (.map (.required Codec.string_writes fun _ _ => trivial) _)
    (.defaulted Authz.codec_writes fun _ _ => trivial))

theorem TenantSpec.codec_restores : TenantSpec.codec.Restores fun _ => True :=
  Record.Restores.codec (.seq (.map (.required Codec.string_restores fun _ _ => trivial) _)
    (.defaulted Authz.codec_restores fun _ _ => trivial)) (by decide)

/-- The specs and the statuses of all resources survive their JSON form. -/
theorem resource_codecs_lossless :
    (∀ k : FacadeKind, k.specCodec.Lossless k.ValidSpec ∧ k.statusCodec.Lossless k.ValidStatus) ∧
      PolicySpec.codec.Lossless PolicySpec.Valid ∧
      PolicyStatus.codec.Lossless PolicyStatus.Valid ∧
      (ProviderSpec.codec.Lossless fun _ => True) ∧
      TenantSpec.codec.Lossless fun _ => True := by
  refine ⟨fun k => ⟨?_, ?_⟩, ?_, ?_, ?_, ?_⟩
  · exact k.specCodec_restores.lossless k.specCodec_writes k.specCodec_yields
  · exact k.statusCodec_restores.lossless k.statusCodec_writes k.statusCodec_yields
  · exact PolicySpec.codec_restores.lossless PolicySpec.codec_writes PolicySpec.codec_yields
  · exact PolicyStatus.codec_restores.lossless PolicyStatus.codec_writes PolicyStatus.codec_yields
  · exact ProviderSpec.codec_restores.lossless ProviderSpec.codec_writes fun _ _ _ _ => trivial
  · exact TenantSpec.codec_restores.lossless TenantSpec.codec_writes fun _ _ _ _ => trivial

end ControlPlane
