import ControlPlane.Facade.Backend
import ControlPlane.Proofs.Facade.Status

/-!
# Writing a status as a patch

The control plane knows the status of a facade by what it could read of it, and writes another one
as the patch between the two. The server applies the patch to the JSON that it has. A write lands
when the result reads as the status that was meant.
-/

namespace ControlPlane

open Json (mergePatch applyPatch)

/-- A status that is written as a patch is the status that is read afterwards, whatever the JSON of
the status before holds besides. -/
theorem status_write_lands (k : FacadeKind) (t : Status k.Details) (ht : k.ValidStatus t) :
    (∀ (stored : Dict Json) (s : Status k.Details), (Json.object stored).Canonical →
      k.statusCodec.read (.object stored) = .ok s →
      k.statusCodec.read ((mergePatch (k.statusCodec.encode s)
        (k.statusCodec.encode t)).applyPatch (.object stored)) = .ok t) ∧
    k.statusCodec.read ((mergePatch .null (k.statusCodec.encode t)).applyPatch .null) = .ok t :=
  ⟨fun _ _ hc hs => k.statusCodec_merges hc hs ht, k.statusCodec_merges_null ht⟩

/-- A member that is not read and a null stay in place and do no harm. -/
theorem status_write_lands_among_others :
    FacadeKind.connection.statusCodec.read
      ((mergePatch (FacadeKind.connection.statusCodec.encode ⟨[], ⟨none, some ⟨"info"⟩⟩⟩)
        (FacadeKind.connection.statusCodec.encode ⟨[], ⟨some ⟨"secret"⟩, some ⟨"other"⟩⟩⟩)).applyPatch
        (.object [("connectionInfoRef", .object [("name", .string "info")]),
          ("credentialsRef", .null), ("observed", .bool true)])) =
      .ok ⟨[], ⟨some ⟨"secret"⟩, some ⟨"other"⟩⟩⟩ :=
  (status_write_lands .connection ⟨[], ⟨some ⟨"secret"⟩, some ⟨"other"⟩⟩⟩
    ⟨by simp, trivial⟩).1 _ ⟨[], ⟨none, some ⟨"info"⟩⟩⟩
    (by simp only [Json.Canonical, Json.CanonicalMembers, Dict.Sorted]; decide) rfl

end ControlPlane
