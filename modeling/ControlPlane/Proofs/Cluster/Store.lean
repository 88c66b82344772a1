import ControlPlane.Cluster.Answer
import ControlPlane.Proofs.Except

/-!
# What a cluster stores

A write changes the object that it is for, in its collection, and nothing else. When the object
fits its target as before, it is the one that is found there afterwards. Its version is one that no
object had before, as long as every stored version was given out.
-/

namespace ControlPlane

section Lists

variable {α : Type} {fits : α → Bool} {f : α → α} {l : List α} {a : α}

theorem find?_updateFirst (h : l.find? fits = some a) (hf : fits (f a) = true) :
    (updateFirst fits f l).find? fits = some (f a) := by
  induction l with
  | nil => cases h
  | cons b rest ih =>
    cases hb : fits b with
    | true =>
      rw [List.find?_cons_of_pos hb] at h
      obtain rfl := Option.some.inj h
      simp only [updateFirst, hb, if_true, List.find?_cons_of_pos hf]
    | false =>
      rw [List.find?_cons_of_neg (by simp [hb])] at h
      simp only [updateFirst, hb, Bool.false_eq_true, if_false]
      rw [List.find?_cons_of_neg (by simp [hb])]
      exact ih h

/-- An item is among the others as before, or is the changed one. -/
theorem mem_of_mem_updateFirst {b : α} (h : b ∈ updateFirst fits f l) :
    b ∈ l ∨ ∃ a ∈ l, b = f a := by
  induction l with
  | nil => cases h
  | cons a rest ih =>
    simp only [updateFirst] at h
    split at h
    · rcases List.mem_cons.1 h with rfl | h
      · exact .inr ⟨a, List.mem_cons_self, rfl⟩
      · exact .inl (List.mem_cons_of_mem _ h)
    · rcases List.mem_cons.1 h with rfl | h
      · exact .inl List.mem_cons_self
      · rcases ih h with h | ⟨c, hc, rfl⟩
        · exact .inl (List.mem_cons_of_mem _ h)
        · exact .inr ⟨c, List.mem_cons_of_mem _ hc, rfl⟩

/-- What is looked for among other items is found as before when an item is changed. -/
theorem find?_updateFirst_of_disjoint {other : α → Bool}
    (hold : ∀ a, fits a = true → other a = false)
    (hnew : ∀ a, fits a = true → other (f a) = false) :
    (updateFirst fits f l).find? other = l.find? other := by
  induction l with
  | nil => rfl
  | cons a rest ih =>
    cases ha : fits a with
    | true =>
      simp only [updateFirst, ha, if_true]
      rw [List.find?_cons_of_neg (by simp [hnew a ha]),
        List.find?_cons_of_neg (by simp [hold a ha])]
    | false =>
      simp only [updateFirst, ha, Bool.false_eq_true, if_false, List.find?_cons, ih]

theorem find?_eraseP_of_disjoint {other : α → Bool} (h : ∀ a, fits a = true → other a = false) :
    (l.eraseP fits).find? other = l.find? other := by
  induction l with
  | nil => rfl
  | cons a rest ih =>
    cases ha : fits a with
    | true =>
      rw [List.eraseP_cons_of_pos ha, List.find?_cons_of_neg (by simp [h a ha])]
    | false =>
      rw [List.eraseP_cons_of_neg (by simp [ha])]
      simp only [List.find?_cons, ih]

/-- Where only kept items are changed, and stay to be kept, they can be kept first. -/
theorem filter_updateFirst {keep : α → Bool} (hold : ∀ a, fits a = true → keep a = true)
    (hnew : ∀ a, fits a = true → keep (f a) = true) :
    (updateFirst fits f l).filter keep = updateFirst fits f (l.filter keep) := by
  induction l with
  | nil => rfl
  | cons a rest ih =>
    cases ha : fits a with
    | true => simp [updateFirst, ha, hold a ha, hnew a ha]
    | false =>
      cases hk : keep a with
      | true => simp [updateFirst, ha, hk, ih]
      | false => simp [updateFirst, ha, hk, ih]

section Keys

variable {κ : Type} {key : α → κ} {k : κ}

/-- Where keys are unique, the first item that is found by its key is the only one. -/
theorem updateFirst_eq_map (hfits : ∀ a, fits a = true ↔ key a = k) (hn : (l.map key).Nodup) :
    updateFirst fits f l = l.map fun a => if fits a then f a else a := by
  induction l with
  | nil => rfl
  | cons a rest ih =>
    simp only [List.map_cons, List.nodup_cons] at hn
    cases ha : fits a with
    | true =>
      have hother : ∀ b ∈ rest, fits b = false := by
        intro b hb
        refine Bool.eq_false_iff.2 fun hbf => hn.1 ?_
        rw [(hfits a).1 ha, ← (hfits b).1 hbf]
        exact List.mem_map_of_mem hb
      have hrest : rest.map (fun a => if fits a then f a else a) = rest := by
        refine (List.map_congr_left fun b hb => ?_).trans (List.map_id rest)
        simp [hother b hb]
      simp [updateFirst, ha, hrest]
    | false => simp [updateFirst, ha, ih hn.2]

theorem map_updateFirst (h : ∀ a, l.find? fits = some a → key (f a) = key a) :
    (updateFirst fits f l).map key = l.map key := by
  induction l with
  | nil => rfl
  | cons c rest ih =>
    cases hc : fits c with
    | true =>
      simp only [updateFirst, hc, if_true, List.map_cons]
      rw [h c (List.find?_cons_of_pos hc)]
    | false =>
      simp only [updateFirst, hc, Bool.false_eq_true, if_false, List.map_cons]
      rw [ih fun a ha => h a (by rw [List.find?_cons_of_neg (by simp [hc]), ha])]

/-- Where keys are unique, the item that is found by its key is replaced, and the others stay. -/
theorem mem_updateFirst {b : α} (hfits : ∀ a, fits a = true ↔ key a = k)
    (hn : (l.map key).Nodup) (h : b ∈ updateFirst fits f l) :
    b ∈ l ∧ key b ≠ k ∨ ∃ a, l.find? fits = some a ∧ b = f a := by
  induction l with
  | nil => cases h
  | cons c rest ih =>
    simp only [List.map_cons, List.nodup_cons] at hn
    cases hc : fits c with
    | true =>
      simp only [updateFirst, hc, if_true] at h
      rcases List.mem_cons.1 h with rfl | h
      · exact .inr ⟨c, List.find?_cons_of_pos hc, rfl⟩
      · refine .inl ⟨List.mem_cons_of_mem _ h, fun hb => hn.1 ?_⟩
        rw [(hfits c).1 hc, ← hb]
        exact List.mem_map_of_mem h
    | false =>
      simp only [updateFirst, hc, Bool.false_eq_true, if_false] at h
      rcases List.mem_cons.1 h with rfl | h
      · exact .inl ⟨List.mem_cons_self, fun hb => by simp [(hfits b).2 hb] at hc⟩
      · rcases ih hn.2 h with ⟨hmem, hb⟩ | ⟨a, ha, rfl⟩
        · exact .inl ⟨List.mem_cons_of_mem _ hmem, hb⟩
        · exact .inr ⟨a, by rw [List.find?_cons_of_neg (by simp [hc]), ha], rfl⟩

/-- Where keys are unique, an item that is erased by its key is not found any more. -/
theorem find?_eraseP_self (hfits : ∀ a, fits a = true ↔ key a = k) (hn : (l.map key).Nodup) :
    (l.eraseP fits).find? fits = none := by
  induction l with
  | nil => rfl
  | cons a rest ih =>
    simp only [List.map_cons, List.nodup_cons] at hn
    cases ha : fits a with
    | true =>
      rw [List.eraseP_cons_of_pos ha, List.find?_eq_none]
      intro b hb hbk
      refine hn.1 ?_
      rw [(hfits a).1 ha, ← (hfits b).1 hbk]
      exact List.mem_map_of_mem hb
    | false =>
      rw [List.eraseP_cons_of_neg (by simp [ha]), List.find?_cons_of_neg (by simp [ha])]
      exact ih hn.2

/-- Where keys are unique, items of one key are one item. -/
theorem eq_of_key (hn : (l.map key).Nodup) {b : α} (ha : a ∈ l) (hb : b ∈ l)
    (h : key a = key b) : a = b := by
  induction l with
  | nil => cases ha
  | cons c rest ih =>
    simp only [List.map_cons, List.nodup_cons] at hn
    rcases List.mem_cons.1 ha with rfl | ha' <;> rcases List.mem_cons.1 hb with rfl | hb'
    · rfl
    · exact (hn.1 (h ▸ List.mem_map_of_mem hb')).elim
    · exact (hn.1 (h ▸ List.mem_map_of_mem ha')).elim
    · exact ih hn.2 ha' hb'

theorem length_le_one_of_keys (hn : (l.map key).Nodup) (h : ∀ a ∈ l, ∀ b ∈ l, key a = key b) :
    l.length ≤ 1 := by
  match l with
  | [] | [_] => simp
  | a :: b :: rest =>
    have hkeys := h a (by simp) b (by simp)
    simp [hkeys] at hn

/-- Where keys are unique, one item has the key of an item that is there. -/
theorem filter_eq_singleton {keep : α → Bool} (hn : (l.map key).Nodup) (ha : a ∈ l)
    (hkeep : ∀ b ∈ l, keep b = true ↔ key b = key a) : l.filter keep = [a] := by
  have hmem : a ∈ l.filter keep := List.mem_filter.2 ⟨ha, (hkeep a ha).2 rfl⟩
  have hkey {b : α} (hb : b ∈ l.filter keep) : key b = key a :=
    (hkeep b (List.mem_filter.1 hb).1).1 (List.mem_filter.1 hb).2
  have hkeys : ((l.filter keep).map key).Nodup :=
    List.Nodup.sublist (List.Sublist.map key List.filter_sublist) hn
  have hlength := length_le_one_of_keys hkeys fun b hb c hc => (hkey hb).trans (hkey hc).symm
  match hfilter : l.filter keep with
  | [] => simp [hfilter] at hmem
  | [b] => simp [List.mem_singleton.1 (hfilter ▸ hmem)]
  | _ :: _ :: _ => simp [hfilter] at hlength

end Keys

end Lists

namespace Cluster

variable {s : Cluster} {t : Target} {j : Json} {c : Collection}

/-! ## Versions -/

/-- None of the versions after the `n`th is `v`. -/
def GivenOut (n : Nat) (v : String) : Prop := ∀ k, n < k → v ≠ toString k

theorem GivenOut.mono {n n' : Nat} {v : String} (h : GivenOut n v) (hn : n ≤ n') :
    GivenOut n' v := fun k hk => h k (by omega)

theorem toString_inj {m n : Nat} (h : toString m = toString n) : m = n := by
  have hdigits : Nat.toDigits 10 m = Nat.toDigits 10 n := by
    rw [← Nat.toList_repr, ← Nat.toList_repr]
    exact congrArg String.toList h
  rw [← Nat.ofDigitChars_ten_toDigits (n := m), hdigits, Nat.ofDigitChars_ten_toDigits]

theorem givenOut_nextVersion (s : Cluster) : GivenOut (s.version + 1) s.nextVersion :=
  fun k hk h => by
    have := toString_inj h
    omega

/-- The new version is none that was given out before. -/
theorem GivenOut.ne_nextVersion {v : String} (h : GivenOut s.version v) : v ≠ s.nextVersion :=
  h _ (Nat.lt_succ_self _)

/-! ## Objects -/

theorem objects_withObjects_self (s : Cluster) (c : Collection) (objects : List Json) :
    (s.withObjects c objects).objects c = objects := if_pos rfl

theorem objects_withObjects_of_ne (h : c ≠ t.collection) (s : Cluster) (objects : List Json) :
    (s.withObjects t.collection objects).objects c = s.objects c := if_neg h

/-- The cluster after an object was written, in place of the one that was found. -/
def replaced (s : Cluster) (t : Target) (j : Json) : Cluster :=
  { s.modify t fun _ => j with version := s.version + 1 }

/-- The cluster after an object was created. -/
def created (s : Cluster) (t : Target) (j : Json) : Cluster :=
  { s.append t.collection j with version := s.version + 1 }

theorem objects_replaced_of_ne (h : c ≠ t.collection) :
    (s.replaced t j).objects c = s.objects c :=
  objects_withObjects_of_ne h s _

theorem objects_created_of_ne (h : c ≠ t.collection) :
    (s.created t j).objects c = s.objects c :=
  objects_withObjects_of_ne h s _

theorem objects_replaced_self (s : Cluster) (t : Target) (j : Json) :
    (s.replaced t j).objects t.collection =
      updateFirst t.fits (fun _ => j) (s.objects t.collection) :=
  objects_withObjects_self s _ _

theorem objects_created_self (s : Cluster) (t : Target) (j : Json) :
    (s.created t j).objects t.collection = s.objects t.collection ++ [j] :=
  objects_withObjects_self s _ _

theorem objects_removed_self (s : Cluster) (t : Target) :
    (s.remove t).objects t.collection = (s.objects t.collection).eraseP t.fits :=
  objects_withObjects_self s _ _

theorem find?_replaced {old : Json} (h : s.find? t = some old) (hj : t.fits j = true) :
    (s.replaced t j).find? t = some j := by
  rw [find?, objects_replaced_self]
  exact find?_updateFirst h hj

theorem find?_created (h : s.find? t = none) (hj : t.fits j = true) :
    (s.created t j).find? t = some j := by
  rw [find?, objects_created_self, List.find?_append]
  rw [show (s.objects t.collection).find? t.fits = none from h]
  simp [hj]

theorem find?_of_objects_eq {s' : Cluster} (h : s'.objects t.collection = s.objects t.collection) :
    s'.find? t = s.find? t := by
  simp only [find?, h]

/-- A write that succeeds is of an object that is there, in the version that is named if one is. -/
theorem update_eq_ok {version : Option String} {f : Json → Json} {s' : Cluster}
    (h : s.update t version f = (.ok j, s')) :
    ∃ old, s.find? t = some old ∧ (version = none ∨ version = old.resourceVersion?) ∧
      j = (f old).withResourceVersion s.nextVersion ∧ s' = s.replaced t j := by
  unfold update at h
  cases hf : s.find? t with
  | none =>
    rw [hf] at h
    cases h
  | some old =>
    simp only [hf] at h
    split at h
    · cases h
    · next hversion =>
      obtain ⟨hj, rfl⟩ := Prod.mk.inj h
      obtain rfl := Except.ok.inj hj
      refine ⟨old, rfl, ?_, rfl, rfl⟩
      cases version with
      | none => exact .inl rfl
      | some v => exact .inr (by simpa using hversion)

/-- A write to an object that is there succeeds if it names its version or none. -/
theorem update_of_current {version : Option String} {f : Json → Json} (h : s.find? t = some j)
    (hversion : version = none ∨ version = j.resourceVersion?) :
    s.update t version f = (.ok ((f j).withResourceVersion s.nextVersion),
      s.replaced t ((f j).withResourceVersion s.nextVersion)) := by
  have hcurrent : ¬ (version.isSome ∧ version ≠ j.resourceVersion?) := by
    rcases hversion with rfl | rfl <;> simp
  simp only [update, h, if_neg hcurrent]
  rfl

theorem update_of_find? {version : Option String} {f : Json → Json} (h : s.find? t = some j)
    (hversion : version = j.resourceVersion?) :
    s.update t version f = (.ok ((f j).withResourceVersion s.nextVersion),
      s.replaced t ((f j).withResourceVersion s.nextVersion)) :=
  update_of_current h (.inr hversion)

/-- A write that fails leaves the cluster as it is. -/
theorem update_error {version : Option String} {f : Json → Json} {e : Error} {s' : Cluster}
    (h : s.update t version f = (.error e, s')) : s' = s := by
  unfold update at h
  split at h
  · exact (Prod.mk.inj h).2.symm
  · split at h
    · exact (Prod.mk.inj h).2.symm
    · cases h

/-- A write leaves the cluster as it is, or replaces an object of the version that is named. -/
theorem update_snd (s : Cluster) (t : Target) (version : Option String) (f : Json → Json) :
    (s.update t version f).2 = s ∨ ∃ old, s.find? t = some old ∧
      (version = none ∨ version = old.resourceVersion?) ∧
      (s.update t version f).2 = s.replaced t ((f old).withResourceVersion s.nextVersion) := by
  rcases h : s.update t version f with ⟨r, s'⟩
  cases r with
  | ok j =>
    obtain ⟨old, hfind, hversion, rfl, rfl⟩ := update_eq_ok h
    exact .inr ⟨old, hfind, hversion, rfl⟩
  | error e => exact .inl (update_error h)

theorem create_of_none (h : s.find? t = none) :
    s.create t j = (.ok (j.withResourceVersion s.nextVersion),
      s.created t (j.withResourceVersion s.nextVersion)) := by
  simp only [create, h]
  rfl

theorem create_of_found {old : Json} (h : s.find? t = some old) :
    s.create t j = (.error (alreadyExists t), s) := by
  simp only [create, h]

theorem create_snd (s : Cluster) (t : Target) (j : Json) :
    (s.create t j).2 = s ∨ s.find? t = none ∧
      (s.create t j).2 = s.created t (j.withResourceVersion s.nextVersion) := by
  cases h : s.find? t with
  | some old => exact .inl (congrArg Prod.snd (create_of_found h))
  | none => exact .inr ⟨rfl, congrArg Prod.snd (create_of_none h)⟩

/-- What a call does to a cluster: it leaves it as it is, or creates, changes or removes an object. -/
inductive Effect (s : Cluster) : Cluster → Prop
  | none : Effect s s
  | created (t : Target) (j : Json) : Effect s (s.create t j).2
  | updated (t : Target) (version : Option String) (f : Json → Json) :
    Effect s (s.update t version f).2
  | removed (t : Target) : Effect s (s.remove t)

theorem effect_answer (s : Cluster) (c : Call) : s.Effect (s.answer c).2 := by
  cases c with
  | createBackend => exact .created _ _
  | replaceBackend => exact .updated _ _ _
  | patchFacadeStatus resource =>
    simp only [answer]
    cases FacadeKind.ofKind? resource.kind with
    | some k => exact .updated _ _ _
    | none => exact .none
  | patchPolicyStatus => exact .updated _ _ _
  | createRole => exact .created _ _
  | patchRules => exact .updated _ _ _
  | createBinding => exact .created _ _
  | patchSubjects => exact .updated _ _ _
  | deleteBinding => exact .removed _
  | _ => exact .none

theorem Effect.served {s s' : Cluster} (h : s.Effect s') : s'.served = s.served := by
  cases h with
  | none => rfl
  | created t j =>
    rcases s.create_snd t j with hsame | ⟨-, hcreated⟩
    · rw [hsame]
    · rw [hcreated]
      rfl
  | updated t version f =>
    rcases s.update_snd t version f with hsame | ⟨_, -, -, hreplaced⟩
    · rw [hsame]
    · rw [hreplaced]
      rfl
  | removed t => rfl

theorem create_eq_ok {j' : Json} {s' : Cluster} (h : s.create t j = (.ok j', s')) :
    s.find? t = none ∧ j' = j.withResourceVersion s.nextVersion ∧ s' = s.created t j' := by
  cases hf : s.find? t with
  | some old =>
    rw [create_of_found hf] at h
    cases h
  | none =>
    rw [create_of_none hf] at h
    obtain ⟨hj, rfl⟩ := Prod.mk.inj h
    obtain rfl := Except.ok.inj hj
    exact ⟨rfl, rfl, rfl⟩

/-! ## Reading -/

section Reading

variable {α : Type} {c : Codec α} {a : α}

theorem get_eq_none : s.get t c = .ok none ↔ s.find? t = none := by
  unfold get
  cases s.find? t with
  | none => simp
  | some j => simp [Except.map_eq_ok]

theorem get_eq_some : s.get t c = .ok (some a) ↔ ∃ j, s.find? t = some j ∧ c.read j = .ok a := by
  unfold get
  cases s.find? t with
  | none => simp
  | some j => simp [Except.map_eq_ok, readAs, Except.mapError_eq_ok]

/-- What cannot be read is no conflict. -/
theorem isConflict_of_get {e : Error} (h : s.get t c = .error e) : e.isConflict = false := by
  unfold get at h
  cases hfind : s.find? t with
  | none =>
    rw [hfind] at h
    cases h
  | some j =>
    rw [hfind] at h
    cases hread : c.read j with
    | ok a => simp [readAs, hread, Except.map] at h
    | error message =>
      simp only [readAs, hread] at h
      obtain rfl := Except.error.inj h
      rfl

end Reading

end Cluster

end ControlPlane
