import ControlPlane.Json.Basic
import ControlPlane.Proofs.Dict

/-!
# Equality of JSON values

Every value is the same as itself. Two doubles can be the same number and differ as values; where a
value holds no double, what is the same as it is it.
-/

namespace ControlPlane

@[simp] theorem Number.same_refl (n : Number) : n.same n = true := by
  cases n <;> simp [Number.same]

namespace Json

mutual

@[simp] theorem same_refl (j : Json) : j.same j = true := by
  match j with
  | .null => rfl
  | .bool b => simp [same]
  | .number n => simp [same]
  | .string s => simp [same]
  | .array items => simp only [same, sameItems_refl items]
  | .object members => simp only [same, sameMembers_refl members]

theorem sameItems_refl (items : List Json) : sameItems items items = true := by
  match items with
  | [] => rfl
  | x :: rest => simp [sameItems, same_refl x, sameItems_refl rest]

theorem sameMembers_refl (members : List (String × Json)) :
    sameMembers members members = true := by
  match members with
  | [] => rfl
  | (k, x) :: rest => simp [sameMembers, same_refl x, sameMembers_refl rest]

end

mutual

theorem same_symm {a b : Json} (h : a.same b = true) : b.same a = true := by
  match a, b with
  | .null, .null => rfl
  | .bool _, .bool _ => simp_all [same]
  | .number (.integer _), .number (.integer _) => simp_all [same, Number.same]
  | .number (.double _), .number (.double _) => exact Binary64.same_symm h
  | .string _, .string _ => simp_all [same]
  | .array xs, .array ys =>
    simp only [same] at h ⊢
    exact sameItems_symm h
  | .object xs, .object ys =>
    simp only [same] at h ⊢
    exact sameMembers_symm h

theorem sameItems_symm {xs ys : List Json} (h : sameItems xs ys = true) :
    sameItems ys xs = true := by
  match xs, ys with
  | [], [] => rfl
  | x :: xs, y :: ys =>
    simp only [sameItems, Bool.and_eq_true] at h ⊢
    exact ⟨same_symm h.1, sameItems_symm h.2⟩

theorem sameMembers_symm {xs ys : List (String × Json)} (h : sameMembers xs ys = true) :
    sameMembers ys xs = true := by
  match xs, ys with
  | [], [] => rfl
  | (k, x) :: xs, (l, y) :: ys =>
    simp only [sameMembers, Bool.and_eq_true, beq_iff_eq] at h ⊢
    exact ⟨⟨h.1.1.symm, same_symm h.1.2⟩, sameMembers_symm h.2⟩

end

mutual

/-- No double occurs in the value. -/
def DoubleFree : Json → Prop
  | .number (.double _) => False
  | .array items => DoubleFreeItems items
  | .object members => DoubleFreeMembers members
  | _ => True

def DoubleFreeItems : List Json → Prop
  | [] => True
  | x :: rest => x.DoubleFree ∧ DoubleFreeItems rest

def DoubleFreeMembers : List (String × Json) → Prop
  | [] => True
  | (_, x) :: rest => x.DoubleFree ∧ DoubleFreeMembers rest

end

theorem doubleFreeItems_iff {items : List Json} :
    DoubleFreeItems items ↔ ∀ x ∈ items, x.DoubleFree := by
  induction items with
  | nil => simp [DoubleFreeItems]
  | cons x rest ih => simp [DoubleFreeItems, ih]

theorem doubleFreeMembers_iff {members : List (String × Json)} :
    DoubleFreeMembers members ↔ ∀ e ∈ members, e.2.DoubleFree := by
  induction members with
  | nil => simp [DoubleFreeMembers]
  | cons e rest ih => simp [DoubleFreeMembers, ih]

theorem canonicalItems_iff {items : List Json} :
    CanonicalItems items ↔ ∀ x ∈ items, x.Canonical := by
  induction items with
  | nil => simp [CanonicalItems]
  | cons x rest ih => simp [CanonicalItems, ih]

theorem canonicalMembers_iff {members : List (String × Json)} :
    CanonicalMembers members ↔ ∀ e ∈ members, e.2.Canonical := by
  induction members with
  | nil => simp [CanonicalMembers]
  | cons e rest ih => simp [CanonicalMembers, ih]

theorem canonical_array {items : List Json} :
    (array items).Canonical ↔ ∀ x ∈ items, x.Canonical := by
  simp [Canonical, canonicalItems_iff]

theorem canonical_object {members : List (String × Json)} :
    (object members).Canonical ↔ Dict.Sorted members ∧ ∀ e ∈ members, e.2.Canonical := by
  simp [Canonical, canonicalMembers_iff]

theorem Canonical.get? {members : Dict Json} (h : (object members).Canonical) {k : String}
    {v : Json} (hv : members.get? k = some v) : v.Canonical :=
  (canonical_object.1 h).2 (k, v) (Dict.mem_of_get? hv)

mutual

theorem eq_of_same {a b : Json} (ha : a.DoubleFree) (h : a.same b = true) : a = b := by
  match a, b with
  | .null, .null => rfl
  | .bool _, .bool _ => simp_all [same]
  | .number (.integer _), .number (.integer _) => simp_all [same, Number.same]
  | .string _, .string _ => simp_all [same]
  | .array xs, .array ys =>
    simp only [same] at h
    simp only [DoubleFree] at ha
    rw [eq_of_sameItems ha h]
  | .object xs, .object ys =>
    simp only [same] at h
    simp only [DoubleFree] at ha
    rw [eq_of_sameMembers ha h]

theorem eq_of_sameItems {xs ys : List Json} (ha : DoubleFreeItems xs)
    (h : sameItems xs ys = true) : xs = ys := by
  match xs, ys with
  | [], [] => rfl
  | x :: xs, y :: ys =>
    simp only [sameItems, Bool.and_eq_true] at h
    rw [eq_of_same ha.1 h.1, eq_of_sameItems ha.2 h.2]

theorem eq_of_sameMembers {xs ys : List (String × Json)} (ha : DoubleFreeMembers xs)
    (h : sameMembers xs ys = true) : xs = ys := by
  match xs, ys with
  | [], [] => rfl
  | (k, x) :: xs, (l, y) :: ys =>
    simp only [sameMembers, Bool.and_eq_true, beq_iff_eq] at h
    rw [h.1.1, eq_of_same ha.1 h.1.2, eq_of_sameMembers ha.2 h.2]

end

end Json

end ControlPlane
