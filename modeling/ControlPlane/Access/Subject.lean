import ControlPlane.Reference

/-!
# Subjects

Whoever may be given access: a user, a group, or a service account of some namespace. A service
account is a user whose name has the form `system:serviceaccount:<namespace>:<name>`.

A `SubjectSet` keeps its subjects in the order in which they were added, each once.
-/

namespace ControlPlane

inductive SubjectKind where
  | user
  | group
  | serviceAccount
deriving DecidableEq, Inhabited

def SubjectKind.name : SubjectKind → String
  | .user => "User"
  | .group => "Group"
  | .serviceAccount => "ServiceAccount"

structure Subject where
  type : SubjectKind
  name : String
  /-- The namespace of a service account. -/
  ns? : Option String
deriving DecidableEq, Inhabited

namespace Subject

def user (name : String) : Subject := ⟨.user, name, none⟩

def group (name : String) : Subject := ⟨.group, name, none⟩

def serviceAccount (ns name : String) : Subject := ⟨.serviceAccount, name, some ns⟩

@[simp] theorem user_inj {a b : String} : user a = user b ↔ a = b := by simp [user]

@[simp] theorem group_inj {a b : String} : group a = group b ↔ a = b := by simp [group]

@[simp] theorem serviceAccount_inj {ns ns' a b : String} :
    serviceAccount ns a = serviceAccount ns' b ↔ ns = ns' ∧ a = b := by
  simp [serviceAccount, and_comm]

@[simp] theorem user_ne_group (a b : String) : user a ≠ group b := nofun

@[simp] theorem group_ne_user (a b : String) : group a ≠ user b := nofun

@[simp] theorem user_ne_serviceAccount (a ns b : String) : user a ≠ serviceAccount ns b := nofun

@[simp] theorem serviceAccount_ne_user (ns a b : String) : serviceAccount ns a ≠ user b := nofun

@[simp] theorem serviceAccount_ne_group (ns a b : String) : serviceAccount ns a ≠ group b := nofun

@[simp] theorem group_ne_serviceAccount (a ns b : String) : group a ≠ serviceAccount ns b := nofun

/-- What the names of service accounts as users begin with. -/
def serviceAccountLead : List Char := "system:serviceaccount:".toList

/-- The rest of `cs` behind `lead`. -/
def stripLead : (lead cs : List Char) → Option (List Char)
  | [], cs => some cs
  | _ :: _, [] => none
  | l :: lead, c :: cs => if l = c then stripLead lead cs else none

/-- The subject that a user's name stands for. -/
def ofUser (name : String) : Subject :=
  match stripLead serviceAccountLead name.toList with
  | none => .user name
  | some rest =>
    match rest.takeWhile (· ≠ ':'), rest.dropWhile (· ≠ ':') with
    | n :: ns, _ :: c :: cs => .serviceAccount (String.ofList (n :: ns)) (String.ofList (c :: cs))
    | _, _ => .user name

def ofGroup (name : String) : Subject := .group name

/-- The name of the kind of subject. -/
def kind (s : Subject) : String := s.type.name

end Subject

/-- Subjects in the order in which they were added, each once. -/
structure SubjectSet where
  subjects : List Subject
  nodup : subjects.Nodup := by simp

namespace SubjectSet

def empty : SubjectSet where
  subjects := []

def contains (s : SubjectSet) (x : Subject) : Bool := s.subjects.contains x

/-- Adds a subject at the end unless it is there. -/
def add (s : SubjectSet) (x : Subject) : SubjectSet :=
  if h : x ∈ s.subjects then s
  else
    { subjects := s.subjects ++ [x]
      nodup := by
        refine List.nodup_append.2 ⟨s.nodup, by simp, ?_⟩
        intro a ha b hb
        rw [List.mem_singleton.1 hb]
        exact fun hab => h (hab ▸ ha) }

/-- Adds a subject; the flag says whether it was new. -/
def insert (s : SubjectSet) (x : Subject) : Bool × SubjectSet := (!s.contains x, s.add x)

def addAll (s : SubjectSet) (xs : List Subject) : SubjectSet := xs.foldl add s

def ofList (xs : List Subject) : SubjectSet := empty.addAll xs

/-- The subjects with these names, users first. -/
def ofNames (users groups : List String) : SubjectSet :=
  ofList (users.map Subject.ofUser ++ groups.map Subject.ofGroup)

def ofAuthz (a : Authz) : SubjectSet := ofNames a.users a.groups

/-- The subjects of `s` and then the new ones of `t`. -/
def union (s t : SubjectSet) : SubjectSet := s.addAll t.subjects

def filter (s : SubjectSet) (p : Subject → Bool) : SubjectSet where
  subjects := s.subjects.filter p
  nodup := List.Pairwise.filter _ s.nodup

def intersection (s t : SubjectSet) : SubjectSet := s.filter t.contains

def difference (s t : SubjectSet) : SubjectSet := s.filter fun x => !t.contains x

end SubjectSet

end ControlPlane
