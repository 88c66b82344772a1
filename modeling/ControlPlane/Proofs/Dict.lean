import ControlPlane.Dict

/-!
# Dictionaries by their view

Two dictionaries in key order with the same view are equal, so that a fact about a dictionary can be
shown key by key. Entries whose keys are distinct make the same dictionary in any order.
-/

namespace ControlPlane.Dict

variable {α β : Type}

theorem get?_append (d e : Dict α) (k : String) :
    get? (d ++ e) k = (get? d k).or (get? e k) := by
  induction d with
  | nil => rfl
  | cons x rest ih =>
    obtain ⟨k', v⟩ := x
    by_cases hk : k' = k <;> simp [get?_cons, hk, ih]

theorem get?_map (f : α → β) (d : Dict α) (k : String) :
    get? (d.map fun e => (e.1, f e.2)) k = (get? d k).map f := by
  induction d with
  | nil => rfl
  | cons x rest ih =>
    obtain ⟨k', v⟩ := x
    by_cases hk : k' = k <;> simp [get?_cons, hk, ih]

theorem get?_filter_key (p : String → Bool) (d : Dict α) (k : String) :
    get? (d.filter fun e => p e.1) k = if p k then get? d k else none := by
  induction d with
  | nil => simp
  | cons x rest ih =>
    obtain ⟨k', v⟩ := x
    by_cases hp : p k' <;> by_cases hk : k' = k <;> grind [get?_cons]

theorem mem_of_get? {d : Dict α} {k : String} {v : α} (h : d.get? k = some v) : (k, v) ∈ d := by
  induction d with
  | nil => simp at h
  | cons x rest ih =>
    obtain ⟨k', v'⟩ := x
    by_cases hk : k' = k
    · simp_all [get?_cons]
    · simp only [get?_cons, hk, if_false] at h
      exact List.mem_cons_of_mem _ (ih h)

theorem get?_eq_none_of_not_mem {d : Dict α} {k : String} (h : k ∉ d.map (·.1)) :
    d.get? k = none :=
  get?_eq_none_of_forall_ne fun _ he hk => h (hk ▸ List.mem_map_of_mem (f := (·.1)) he)

theorem get?_insert_self (d : Dict α) (k : String) (v : α) : (d.insert k v).get? k = some v := by
  rw [get?_insert, if_pos rfl]

theorem get?_insert_of_ne {k q : String} (h : k ≠ q) (d : Dict α) (v : α) :
    (d.insert k v).get? q = d.get? q := by
  rw [get?_insert, if_neg h]

@[simp] theorem contains_iff {d : Dict α} {k : String} :
    d.contains k = true ↔ ∃ v, d.get? k = some v := by
  simp [contains, Option.isSome_iff_exists]

theorem mem_keys {d : Dict α} {k : String} : k ∈ d.keys ↔ ∃ v, d.get? k = some v := by
  unfold keys
  induction d with
  | nil => simp
  | cons x rest ih =>
    obtain ⟨k', v⟩ := x
    rw [List.map_cons, List.mem_cons, ih, get?_cons]
    by_cases hk : k' = k
    · simp [hk]
    · simp [hk, Ne.symm hk]

/-! ## Dictionaries in key order -/

theorem Sorted.lt_of_mem {k : String} {v : α} {d : Dict α} (h : Sorted ((k, v) :: d))
    {e : String × α} (he : e ∈ d) : k < e.1 :=
  (List.pairwise_cons.1 h).1 e he

theorem Sorted.get?_head {k : String} {v : α} {d : Dict α} (h : Sorted ((k, v) :: d)) :
    get? d k = none :=
  get?_eq_none_of_forall_ne fun _ he hk => String.lt_irrefl k (hk ▸ h.lt_of_mem he)

theorem Sorted.nodup_keys {d : Dict α} (h : d.Sorted) : (d.map (·.1)).Nodup := by
  rw [List.Nodup, List.pairwise_map]
  refine h.imp ?_
  intro a b hlt heq
  exact String.lt_irrefl b.1 (heq ▸ hlt)

theorem Sorted.get?_of_mem {d : Dict α} (h : d.Sorted) {e : String × α} (he : e ∈ d) :
    d.get? e.1 = some e.2 := by
  induction d with
  | nil => cases he
  | cons x rest ih =>
    obtain ⟨k, v⟩ := x
    rcases List.mem_cons.1 he with rfl | he
    · rw [get?_cons, if_pos rfl]
    · have hne : k ≠ e.1 := fun heq => String.lt_irrefl k (heq ▸ h.lt_of_mem he)
      rw [get?_cons, if_neg hne, ih h.tail he]

theorem Sorted.map {d : Dict α} (h : d.Sorted) (f : α → β) :
    Sorted (d.map fun e => (e.1, f e.2)) := by
  rw [Sorted, List.pairwise_map]
  exact h

/-- A dictionary is determined by its view. -/
theorem Sorted.ext {d e : Dict α} (hd : d.Sorted) (he : e.Sorted)
    (h : ∀ k, d.get? k = e.get? k) : d = e := by
  induction d generalizing e with
  | nil =>
    cases e with
    | nil => rfl
    | cons y _ => exact absurd (h y.1) (by simp [get?])
  | cons x rest ih =>
    cases e with
    | nil => exact absurd (h x.1) (by simp [get?])
    | cons y rest' =>
      obtain ⟨k, v⟩ := x
      obtain ⟨l, w⟩ := y
      -- The least keys agree: a key below all others of one side would be missing there.
      have hkl : k = l := by
        rcases Std.lt_trichotomy k l with hlt | heq | hlt
        · have hm : (k, v) ∈ (l, w) :: rest' := mem_of_get? ((h k).symm.trans (by simp [get?_cons]))
          rcases List.mem_cons.1 hm with hm | hm
          · exact (Prod.mk.inj hm).1
          · exact absurd (he.lt_of_mem hm) (String.lt_asymm hlt)
        · exact heq
        · have hm : (l, w) ∈ (k, v) :: rest := mem_of_get? ((h l).trans (by simp [get?_cons]))
          rcases List.mem_cons.1 hm with hm | hm
          · exact (Prod.mk.inj hm).1.symm
          · exact absurd (hd.lt_of_mem hm) (String.lt_asymm hlt)
      subst hkl
      have hv : v = w := by simpa [get?_cons] using h k
      subst hv
      rw [ih hd.tail he.tail]
      intro q
      by_cases hq : k = q
      · subst hq
        rw [hd.get?_head, he.get?_head]
      · simpa [get?_cons, hq] using h q

/-! ## Dictionaries made from entries -/

theorem get?_ofList {entries : List (String × α)} (h : (entries.map (·.1)).Nodup) (k : String) :
    (ofList entries).get? k = get? entries k := by
  suffices hs : ∀ acc : Dict α, (entries.foldl (fun d e => d.insert e.1 e.2) acc).get? k =
      (get? entries k).or (acc.get? k) by simpa [ofList] using hs []
  induction entries with
  | nil => simp
  | cons e rest ih =>
    obtain ⟨k', v⟩ := e
    intro acc
    simp only [List.map_cons, List.nodup_cons] at h
    rw [List.foldl_cons, ih h.2, get?_insert, get?_cons]
    by_cases hk : k' = k
    · have : get? rest k = none := get?_eq_none_of_not_mem (hk ▸ h.1)
      simp [hk, this]
    · simp [hk]

theorem mem_ofList {entries : List (String × α)} {e : String × α} (h : e ∈ ofList entries) :
    e ∈ entries := by
  suffices hs : ∀ acc : Dict α, e ∈ entries.foldl (fun d e => d.insert e.1 e.2) acc →
      e ∈ entries ∨ e ∈ acc by simpa using hs [] h
  clear h
  induction entries with
  | nil => simp
  | cons x rest ih =>
    intro acc h
    rcases ih _ h with h | h
    · exact .inl (List.mem_cons_of_mem _ h)
    · rcases mem_insert h with h | h
      · exact .inl (h ▸ List.mem_cons_self)
      · exact .inr h

end ControlPlane.Dict
