import ControlPlane.Access.Role
import ControlPlane.Proofs.Access.Subject
import ControlPlane.Proofs.Text.Split

/-!
# Who a subject is

No two names stand for the same subject. A service account is told from all other users by the form
of its name, which can be put together again from its namespace and its own name; every other user
keeps the name as it is. Bindings tell subjects apart as well, so that the distinct names of a
review are as many subjects, and as many entries of a binding.
-/

namespace ControlPlane

theorem SubjectKind.name_inj {k l : SubjectKind} : k.name = l.name ↔ k = l := by
  cases k <;> cases l <;> decide

namespace Subject

variable {ns name x y : String} {lead cs rest : List Char}

theorem stripLead_eq_some : stripLead lead cs = some rest ↔ cs = lead ++ rest := by
  induction lead generalizing cs with
  | nil => simp [stripLead]
  | cons l lead ih =>
    cases cs with
    | nil => simp [stripLead]
    | cons c cs =>
      unfold stripLead
      split
      · next h => simp [ih, h]
      · next h => simp [Ne.symm h]

/-- The name that a service account has as a user. -/
def accountName (ns name : String) : String := "system:serviceaccount:" ++ ns ++ ":" ++ name

/-- The parts of the name of a service account: neither is empty, and the namespace ends at the
first colon. -/
@[mk_iff] structure AccountParts (ns name : String) : Prop where
  ns_ne : ns ≠ ""
  colonFree : ':' ∉ ns.toList
  name_ne : name ≠ ""

theorem toList_accountName (ns name : String) :
    (accountName ns name).toList = serviceAccountLead ++ (ns.toList ++ ':' :: name.toList) := by
  have hcolon : ":".toList = [':'] := by decide
  unfold accountName serviceAccountLead
  rw [String.toList_append, String.toList_append, String.toList_append, hcolon,
    List.append_assoc, List.append_assoc, List.singleton_append]

theorem ofUser_accountName (h : AccountParts ns name) :
    ofUser (accountName ns name) = serviceAccount ns name := by
  have hstrip := stripLead_eq_some.2 (toList_accountName ns name)
  have htake := Text.takeWhile_ne_append h.colonFree name.toList
  have hdrop := Text.dropWhile_ne_append h.colonFree name.toList
  obtain ⟨n, ns', hns⟩ := List.exists_cons_of_ne_nil (mt String.toList_eq_nil_iff.1 h.ns_ne)
  obtain ⟨c, cs, hname⟩ := List.exists_cons_of_ne_nil (mt String.toList_eq_nil_iff.1 h.name_ne)
  unfold ofUser
  rw [hstrip]
  dsimp only
  rw [htake, hdrop, hns, hname]
  show serviceAccount (String.ofList (n :: ns')) (String.ofList (c :: cs)) = _
  rw [← hns, ← hname, String.ofList_toList, String.ofList_toList]

/-- Either the name is that of a service account, or it is kept as it is. -/
theorem ofUser_cases (x : String) :
    ofUser x = user x ∨
      ∃ ns name, AccountParts ns name ∧ x = accountName ns name ∧
        ofUser x = serviceAccount ns name := by
  unfold ofUser
  split
  · exact .inl rfl
  · next rest hstrip =>
    split
    · next n ns colon c cs htake hdrop =>
      have hparts : rest = (n :: ns) ++ ':' :: c :: cs := by
        rw [← htake]
        exact Text.eq_append_of_dropWhile_ne hdrop
      refine .inr ⟨String.ofList (n :: ns), String.ofList (c :: cs), ⟨?_, ?_, ?_⟩, ?_, rfl⟩
      · simp
      · rw [String.toList_ofList, ← htake]
        intro hmem
        simpa using List.all_eq_true.1 List.all_takeWhile _ hmem
      · simp
      · rw [← String.toList_inj, toList_accountName, String.toList_ofList, String.toList_ofList,
          ← hparts]
        exact stripLead_eq_some.1 hstrip
    · exact .inl rfl

theorem ofUser_eq_serviceAccount_iff :
    ofUser x = serviceAccount ns name ↔ x = accountName ns name ∧ AccountParts ns name := by
  constructor
  · intro h
    rcases ofUser_cases x with hx | ⟨ns', name', hparts, rfl, hx⟩
    · exact (user_ne_serviceAccount _ _ _ (hx.symm.trans h)).elim
    · obtain ⟨rfl, rfl⟩ := serviceAccount_inj.1 (hx.symm.trans h)
      exact ⟨rfl, hparts⟩
  · rintro ⟨rfl, hparts⟩
    exact ofUser_accountName hparts

theorem ofUser_eq_user_iff :
    ofUser x = user x ↔ ¬ ∃ ns name, x = accountName ns name ∧ AccountParts ns name := by
  constructor
  · rintro h ⟨ns, name, haccount⟩
    exact serviceAccount_ne_user _ _ _ ((ofUser_eq_serviceAccount_iff.2 haccount).symm.trans h)
  · intro h
    refine (ofUser_cases x).resolve_right ?_
    rintro ⟨ns, name, hparts, hx, -⟩
    exact h ⟨ns, name, hx, hparts⟩

/-! ### The name behind a subject -/

/-- The name of the user that the subject stands for. -/
def userName? (s : Subject) : Option String :=
  match s.type, s.ns? with
  | .user, none => some s.name
  | .serviceAccount, some ns => some (accountName ns s.name)
  | _, _ => none

@[simp] theorem userName?_ofUser (x : String) : (ofUser x).userName? = some x := by
  rcases ofUser_cases x with hx | ⟨ns, name, -, rfl, hx⟩
  · rw [hx]
    rfl
  · rw [hx]
    rfl

@[simp] theorem userName?_ofGroup (x : String) : (ofGroup x).userName? = none := rfl

theorem ofUser_inj : ofUser x = ofUser y ↔ x = y := by
  constructor
  · intro h
    simpa using congrArg userName? h
  · rintro rfl
    rfl

theorem ofGroup_inj : ofGroup x = ofGroup y ↔ x = y := group_inj

theorem ofUser_ne_ofGroup (x y : String) : ofUser x ≠ ofGroup y := by
  intro h
  simpa using congrArg userName? h

theorem toBinding_inj {a b : Subject} : a.toBinding = b.toBinding ↔ a = b := by
  constructor
  · intro h
    obtain ⟨-, hkind, hname, hns⟩ := BindingSubject.mk.inj h
    have htype := SubjectKind.name_inj.1 hkind
    cases a
    cases b
    simp_all
  · rintro rfl
    rfl

end Subject

namespace SubjectSet

/-- Every distinct name is a subject, users before groups, each where it comes first. -/
theorem subjects_ofNames_eq (users groups : List String) :
    (ofNames users groups).subjects =
      users.eraseDups.map Subject.ofUser ++ groups.eraseDups.map Subject.ofGroup := by
  have hdisjoint : ∀ s ∈ groups.map Subject.ofGroup, s ∉ users.map Subject.ofUser := by
    intro s hgroup huser
    obtain ⟨y, -, rfl⟩ := List.mem_map.1 hgroup
    obtain ⟨x, -, hx⟩ := List.mem_map.1 huser
    exact Subject.ofUser_ne_ofGroup x y hx
  rw [subjects_ofNames, eraseDups_append_of_disjoint hdisjoint,
    eraseDups_map fun _ _ => Subject.ofUser_inj.1, eraseDups_map fun _ _ => Subject.ofGroup_inj.1]

end SubjectSet

namespace Subject

/-- Names and subjects correspond: a user's name can be read off the subject, a service account is
told by the form of its name, no user is a group, and so a review tells of as many subjects as it
has distinct names, which no binding confuses. -/
theorem names_told_apart (x y : String) (users groups : List String) :
    (ofUser x = ofUser y ↔ x = y) ∧ ofUser x ≠ ofGroup y ∧ (ofUser x).userName? = some x ∧
    (∀ ns name, ofUser x = serviceAccount ns name ↔
      x = "system:serviceaccount:" ++ ns ++ ":" ++ name ∧
        ns ≠ "" ∧ ':' ∉ ns.toList ∧ name ≠ "") ∧
    (ofUser x = user x ↔ ¬ ∃ ns name, ofUser x = serviceAccount ns name) ∧
    (SubjectSet.ofNames users groups).subjects =
      users.eraseDups.map ofUser ++ groups.eraseDups.map ofGroup ∧
    (SubjectSet.ofNames users groups).subjects.length =
      users.toFinset.card + groups.toFinset.card ∧
    (∀ a b : Subject, a.toBinding = b.toBinding ↔ a = b) ∧
    ((ofUser x).toBinding = (ofUser y).toBinding ↔ x = y) ∧
    ((ofGroup x).toBinding = (ofGroup y).toBinding ↔ x = y) ∧
    (ofUser x).toBinding ≠ (ofGroup y).toBinding := by
  refine ⟨ofUser_inj, ofUser_ne_ofGroup x y, userName?_ofUser x, fun ns name => ?account, ?user,
    SubjectSet.subjects_ofNames_eq users groups, ?count, fun _ _ => toBinding_inj,
    toBinding_inj.trans ofUser_inj, toBinding_inj.trans ofGroup_inj,
    mt toBinding_inj.1 (ofUser_ne_ofGroup x y)⟩
  case account =>
    rw [ofUser_eq_serviceAccount_iff, accountParts_iff]
    exact Iff.rfl
  case user =>
    simp only [ofUser_eq_user_iff, ofUser_eq_serviceAccount_iff]
  case count =>
    rw [SubjectSet.subjects_ofNames_eq, List.length_append, List.length_map, List.length_map,
      length_eraseDups, length_eraseDups]

/-- The account's own name may have colons, and a namespace alone makes no account. -/
example : ofUser "system:serviceaccount:ci:bot:x" = serviceAccount "ci" "bot:x" ∧
    ofUser "system:serviceaccount:ci" = user "system:serviceaccount:ci" := by
  decide +kernel

end Subject

end ControlPlane
