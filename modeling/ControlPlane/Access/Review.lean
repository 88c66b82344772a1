import ControlPlane.Access.Subject
import ControlPlane.Facade.Inventory
import ControlPlane.Tenant

/-!
# Access reviews

A review asks the API server who may do something: in one namespace or in the whole cluster, to all
objects of a resource or to a single one.
-/

namespace ControlPlane

/-- What a review asks about; without a namespace it asks about the whole cluster. -/
structure AccessQuestion where
  verb : String
  group : String
  resource : String
  ns : Option String := none
  name : Option String := none
deriving DecidableEq, Inhabited

namespace AccessQuestion

/-- Who may create inventories in a namespace? -/
def createInventories (ns : String) : AccessQuestion where
  verb := "create"
  group := planeGroup
  resource := Inventory.plural
  ns := some ns

/-- Who may create secrets in a namespace? -/
def createSecrets (ns : String) : AccessQuestion where
  verb := "create"
  group := ""
  resource := "secrets"
  ns := some ns

/-- Who may list the inventories of a namespace? -/
def listInventories (ns : String) : AccessQuestion where
  verb := "list"
  group := planeGroup
  resource := Inventory.plural
  ns := some ns

/-- Who may read this one inventory of a namespace? -/
def getInventory (ns name : String) : AccessQuestion where
  verb := "get"
  group := planeGroup
  resource := Inventory.plural
  ns := some ns
  name := some name

/-- Who may list the tenants of the cluster? -/
def listTenants : AccessQuestion where
  verb := "list"
  group := planeGroup
  resource := Tenant.plural

end AccessQuestion

/-- The names that a review of one question gives. -/
structure ReviewAnswer where
  question : AccessQuestion
  users : List String
  groups : List String
deriving DecidableEq, Inhabited

/-- The answer to a question: that of the first review of it, and nobody if there is none. -/
def ReviewAnswer.subjects (answers : List ReviewAnswer) (q : AccessQuestion) : SubjectSet :=
  match answers.find? fun a => a.question = q with
  | some a => .ofNames a.users a.groups
  | none => .empty

end ControlPlane
