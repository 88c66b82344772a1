import ControlPlane.Object
import ControlPlane.Reference

/-!
# Tenants

A tenant claims a namespace for its inventories and says who may read them by default.
-/

namespace ControlPlane

structure TenantSpec where
  inventoryNamespace : String
  authz : Authz
deriving DecidableEq, Inhabited

def TenantSpec.codec : Codec TenantSpec :=
  Record.codec "DBaaSTenantSpec"
    ("Claims an inventory namespace and declares who may read its inventories.\n\n" ++
      "Inventories without their own `authz` inherit the tenant's.")
    (TenantSpec.mk
      <$> .required "inventoryNamespace" .string (·.inventoryNamespace)
        "Namespace holding the tenant's inventories"
      <*> .defaulted "authz" Authz.codec ⟨[], []⟩ (·.authz)
        "Default users and groups for inventories in that namespace")

abbrev Tenant := Declared TenantSpec

namespace Tenant

def kind : String := "DBaaSTenant"

def plural : String := "dbaastenants"

def codec : Codec Tenant := Declared.codec kind TenantSpec.codec

/-- Tenants by age. -/
def sort (tenants : List Tenant) : List Tenant :=
  tenants.mergeSort fun a b => a.metadata.noYoungerThan b.metadata

def claims (t : Tenant) (ns : String) : Bool := t.spec.inventoryNamespace = ns

/-- The tenants that claim a namespace, by age. -/
def claiming (tenants : List Tenant) (ns : String) : List Tenant :=
  sort (tenants.filter (·.claims ns))

end Tenant

end ControlPlane
