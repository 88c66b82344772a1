import ControlPlane.Proofs.Access.Identity

/-!
# How sets of subjects are put together

A `Construction` is a set of subjects as it is written down: names and subjects that are collected,
inserted, united, intersected and taken away. Whatever the construction is, its value has the
elements that it denotes, each once, and the order of its parts.
-/

namespace ControlPlane

namespace Subject

/-- The subject is that of a name. -/
def Named (x : Subject) : Prop := (∃ name, ofUser name = x) ∨ ∃ name, ofGroup name = x

/-- A service account is in a namespace, and other subjects are in the group that serves roles. -/
theorem toBinding_of_named {x : Subject} (h : x.Named) :
    (x.toBinding.kind = "ServiceAccount" ∧ x.toBinding.ns.isSome ∧ x.toBinding.apiGroup = none) ∨
      (x.toBinding.kind = "User" ∨ x.toBinding.kind = "Group") ∧ x.toBinding.ns = none ∧
        x.toBinding.apiGroup = some "rbac.authorization.k8s.io" := by
  rcases h with ⟨name, rfl⟩ | ⟨name, rfl⟩
  · rcases ofUser_cases name with hx | ⟨ns, account, -, -, hx⟩
    · rw [hx]
      exact .inr ⟨.inl rfl, rfl, rfl⟩
    · rw [hx]
      exact .inl ⟨rfl, rfl, rfl⟩
  · exact .inr ⟨.inr rfl, rfl, rfl⟩

end Subject

namespace SubjectSet

@[ext] theorem ext {s t : SubjectSet} (h : s.subjects = t.subjects) : s = t := by
  cases s
  cases t
  congr

variable {s t : SubjectSet} {x : Subject}

/-! ### Elements and order -/

theorem mem_union : x ∈ (s.union t).subjects ↔ x ∈ s.subjects ∨ x ∈ t.subjects := by
  simp

theorem mem_intersection :
    x ∈ (s.intersection t).subjects ↔ x ∈ s.subjects ∧ x ∈ t.subjects := by
  simp

theorem mem_difference : x ∈ (s.difference t).subjects ↔ x ∈ s.subjects ∧ x ∉ t.subjects := by
  simp

/-- The subjects of the first set come first. -/
theorem subjects_union_eq_append (s t : SubjectSet) :
    (s.union t).subjects = s.subjects ++ t.subjects.filter (· ∉ s.subjects) := by
  have hnew : t.subjects.removeAll s.subjects = t.subjects.filter (· ∉ s.subjects) := by
    simp [List.removeAll]
  rw [subjects_union, List.eraseDups_append, eraseDups_subjects, hnew, eraseDups_filter,
    eraseDups_subjects]

theorem union_assoc (s t u : SubjectSet) : (s.union t).union u = s.union (t.union u) := by
  apply SubjectSet.ext
  simp only [subjects_union]
  rw [eraseDups_append_left, eraseDups_append_right, List.append_assoc]

theorem union_of_subset (h : t.subjects ⊆ s.subjects) : s.union t = s := by
  apply SubjectSet.ext
  have hnone : t.subjects.filter (· ∉ s.subjects) = [] := by
    apply List.filter_eq_nil_iff.2
    intro x hx
    simpa using h hx
  rw [subjects_union_eq_append, hnone, List.append_nil]

theorem insert_fst : (s.insert x).1 = true ↔ x ∉ s.subjects := by
  simp [insert, contains]

theorem subjects_insert (s : SubjectSet) (x : Subject) :
    (s.insert x).2.subjects = if x ∈ s.subjects then s.subjects else s.subjects ++ [x] := by
  unfold insert add
  split <;> rfl

/-! ### Entries of bindings -/

theorem nodup_toBindings (s : SubjectSet) : s.toBindings.Nodup :=
  s.nodup.map fun _ _ => Subject.toBinding_inj.1

/-! ### Constructions -/

inductive Construction where
  | empty
  | names (users groups : List String)
  | authz (a : Authz)
  | list (xs : List Subject)
  | insert (c : Construction) (x : Subject)
  | union (c d : Construction)
  | intersection (c d : Construction)
  | difference (c d : Construction)

namespace Construction

/-- The set that is put together. -/
def value : Construction → SubjectSet
  | empty => .empty
  | names users groups => .ofNames users groups
  | authz a => .ofAuthz a
  | list xs => .ofList xs
  | insert c x => (c.value.insert x).2
  | union c d => c.value.union d.value
  | intersection c d => c.value.intersection d.value
  | difference c d => c.value.difference d.value

/-- The subject is to be in the set. -/
def Denotes : Construction → Subject → Prop
  | empty, _ => False
  | names users groups, x =>
    (∃ name ∈ users, .ofUser name = x) ∨ ∃ name ∈ groups, .ofGroup name = x
  | authz a, x => (∃ name ∈ a.users, .ofUser name = x) ∨ ∃ name ∈ a.groups, .ofGroup name = x
  | list xs, x => x ∈ xs
  | insert c y, x => c.Denotes x ∨ x = y
  | union c d, x => c.Denotes x ∨ d.Denotes x
  | intersection c d, x => c.Denotes x ∧ d.Denotes x
  | difference c d, x => c.Denotes x ∧ ¬ d.Denotes x

/-- All subjects that are handed in are those of names. -/
def FromNames : Construction → Prop
  | empty | names _ _ | authz _ => True
  | list xs => ∀ x ∈ xs, x.Named
  | insert c x => c.FromNames ∧ x.Named
  | union c d | intersection c d | difference c d => c.FromNames ∧ d.FromNames

variable {c d : Construction} {x : Subject}

/-- The elements of the value are those that the construction denotes. -/
theorem mem_value : x ∈ c.value.subjects ↔ c.Denotes x := by
  induction c with
  | empty => simp [value, Denotes, SubjectSet.empty]
  | names users groups => simp [value, Denotes]
  | authz a => simp [value, Denotes, ofAuthz]
  | list xs => simp [value, Denotes]
  | insert c y ih =>
    rw [value, subjects_insert, Denotes, ← ih]
    split <;> grind
  | union c d ihc ihd => rw [value, mem_union, ihc, ihd, Denotes]
  | intersection c d ihc ihd => rw [value, mem_intersection, ihc, ihd, Denotes]
  | difference c d ihc ihd => rw [value, mem_difference, ihc, ihd, Denotes]

theorem named_of_denotes (hc : c.FromNames) (hx : c.Denotes x) : x.Named := by
  induction c with
  | empty => exact hx.elim
  | names users groups => exact hx.imp (fun ⟨name, _, h⟩ => ⟨name, h⟩) fun ⟨name, _, h⟩ => ⟨name, h⟩
  | authz a => exact hx.imp (fun ⟨name, _, h⟩ => ⟨name, h⟩) fun ⟨name, _, h⟩ => ⟨name, h⟩
  | list xs => exact hc x hx
  | insert c y ih =>
    rcases hx with hx | rfl
    · exact ih hc.1 hx
    · exact hc.2
  | union c d ihc ihd => exact hx.elim (ihc hc.1) (ihd hc.2)
  | intersection c d ihc ihd => exact ihc hc.1 hx.1
  | difference c d ihc ihd => exact ihc hc.1 hx.1

end Construction

/-- Sets that are put together in any way are ordered sets. They have each subject once, and the
subjects that they are made of by the rules of sets; a union is the first set and then what the
second one adds, and the other operations keep the order of the first set. Their entries of a
binding are as many and in the same order, and well-formed when all subjects are those of names. -/
theorem constructions_ordered (c d e : Construction) (x : Subject) :
    c.value.subjects.Nodup ∧ (x ∈ c.value.subjects ↔ c.Denotes x) ∧
    (x ∈ (c.value.union d.value).subjects ↔ x ∈ c.value.subjects ∨ x ∈ d.value.subjects) ∧
    (x ∈ (c.value.intersection d.value).subjects ↔
      x ∈ c.value.subjects ∧ x ∈ d.value.subjects) ∧
    (x ∈ (c.value.difference d.value).subjects ↔ x ∈ c.value.subjects ∧ x ∉ d.value.subjects) ∧
    (c.value.union d.value).subjects =
      c.value.subjects ++ d.value.subjects.filter (· ∉ c.value.subjects) ∧
    (c.value.intersection d.value).subjects.Sublist c.value.subjects ∧
    (c.value.difference d.value).subjects.Sublist c.value.subjects ∧
    (c.value.union d.value).union e.value = c.value.union (d.value.union e.value) ∧
    (d.value.subjects ⊆ c.value.subjects → c.value.union d.value = c.value) ∧
    ((c.value.insert x).1 = true ↔ x ∉ c.value.subjects) ∧
    (c.value.insert x).2.subjects =
      (if x ∈ c.value.subjects then c.value.subjects else c.value.subjects ++ [x]) ∧
    c.value.toBindings = c.value.subjects.map (·.toBinding) ∧ c.value.toBindings.Nodup ∧
    (c.FromNames → ∀ b ∈ c.value.toBindings,
      (b.kind = "ServiceAccount" ∧ b.ns.isSome ∧ b.apiGroup = none) ∨
        (b.kind = "User" ∨ b.kind = "Group") ∧ b.ns = none ∧
          b.apiGroup = some "rbac.authorization.k8s.io") := by
  refine ⟨c.value.nodup, Construction.mem_value, mem_union, mem_intersection, mem_difference,
    subjects_union_eq_append _ _, List.filter_sublist, List.filter_sublist, union_assoc _ _ _,
    union_of_subset, insert_fst, subjects_insert _ _, rfl, nodup_toBindings _, ?_⟩
  intro hc b hb
  obtain ⟨y, hy, rfl⟩ := List.mem_map.1 hb
  exact Subject.toBinding_of_named (Construction.named_of_denotes hc (Construction.mem_value.1 hy))

/-- The entries of a user, an account and a group, to which the group is added once more. -/
theorem constructions_ordered_of_known_group :
    let c := Construction.names ["ann", "system:serviceaccount:ci:bot"] ["ops"]
    let d := Construction.insert .empty (.ofGroup "ops")
    c.value.union d.value = c.value ∧
      ∀ b ∈ c.value.toBindings,
        (b.kind = "ServiceAccount" ∧ b.ns.isSome ∧ b.apiGroup = none) ∨
          (b.kind = "User" ∨ b.kind = "Group") ∧ b.ns = none ∧
            b.apiGroup = some "rbac.authorization.k8s.io" := by
  intro c d
  obtain ⟨-, -, -, -, -, -, -, -, -, hsubset, -, -, -, -, hentries⟩ :=
    constructions_ordered c d .empty (.ofGroup "ops")
  have hd : d.value.subjects ⊆ c.value.subjects := by
    intro x hx
    have hgroup : x = .ofGroup "ops" := by
      simpa [d, Construction.Denotes] using Construction.mem_value.1 hx
    exact Construction.mem_value.2 (.inr ⟨"ops", by simp, hgroup.symm⟩)
  exact ⟨hsubset hd, hentries trivial⟩

end SubjectSet

end ControlPlane
