import ControlPlane.Access.Role
import ControlPlane.Http.Client
import ControlPlane.Manifest.Basic
import ControlPlane.Retry

/-!
# Installing manifests

The manifests are applied in order before the controllers start. Each is tried several times, and
the first that cannot be applied ends the installation.
-/

namespace ControlPlane

/-- A manifest that could not be applied, and the error of the last attempt. -/
structure InstallFailure (ε : Type) where
  manifest : KindManifest
  cause : ε

def InstallFailure.message (f : InstallFailure ClusterError) : String :=
  s!"failed to apply CRD {f.manifest.name}: {f.cause.text}"

/-- What the API server answers to a manifest; of its spec only the presence counts. -/
structure Definition where
  metadata : Metadata
deriving Inhabited

def Definition.codec : Codec Definition :=
  Record.objectCodec "CustomResourceDefinition" "" <|
    (fun _ _ m _ => Definition.mk m)
      <$> .fixed "apiVersion" "apiextensions.k8s.io/v1"
      <*> .fixed "kind" "CustomResourceDefinition"
      <*> .filled "metadata" Metadata.codec (·.metadata)
      <*> .filled "spec" spec fun _ => ()
where
  spec : Codec Unit := Record.objectCodec "CustomResourceDefinitionSpec" "" .unit

/-- The resource of manifests. -/
def ApiResource.definitions : ApiResource :=
  .ofKind "apiextensions.k8s.io/v1" "CustomResourceDefinition"

namespace KindManifest

/-- Applies manifests in order, with pauses between the attempts of one. The number of attempts has
to be limited. -/
def applyAll {m : Type → Type} [Monad m] {ε α : Type} (c : RetryConfig)
    (apply : KindManifest → m (Except ε α)) (pause : Duration → m Unit) :
    List KindManifest → m (Retried (InstallFailure ε) Unit)
  | [] => return .done (.ok ())
  | manifest :: rest => do
    match ← retrying c (apply manifest) pause c.maxAttempts 1 with
    | .done (.ok _) => applyAll c apply pause rest
    | .done (.error cause) => return .done (.error ⟨manifest, cause⟩)
    | .undefinedDelay => return .undefinedDelay
    | .unfinished => return .unfinished

/-- Applies a manifest once, overruling other writers. -/
def apply (manager : String) (manifest : KindManifest) : Http.Exchange Definition :=
  Http.Endpoint.patch ⟨.definitions, none⟩ Definition.codec manager manifest.name ""
    (.apply manifest.toJson)

/-- The attempts to apply a manifest. -/
def attempts : Nat := 5

/-- Applies all manifests; `manager` is the name of the writer. -/
def install (manager : String) :
    Program Http.Request (fun _ => Http.Response) (Retried (InstallFailure ClusterError) Unit) :=
  applyAll { maxAttempts := attempts } (fun manifest => (apply manager manifest).run)
    (fun _ => pure ()) all

end KindManifest

end ControlPlane
