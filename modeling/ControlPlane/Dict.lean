/-!
# Dictionaries with text keys

A dictionary is a list of entries in strictly ascending key order, so two dictionaries with the
same entries are equal. `Dict.get?` is its view: `get?_insert` and `get?_erase` say what the two
updates do to it, and `Sorted.insert` and `Sorted.erase` keep the order.
-/

namespace ControlPlane

/-- Entries in ascending order of their keys. -/
abbrev Dict (α : Type) := List (String × α)

namespace Dict

variable {α β : Type}

/-- The keys ascend strictly, so that no key occurs twice. -/
def Sorted (d : Dict α) : Prop := d.Pairwise fun a b => a.1 < b.1

/-- The value stored at `k`. -/
def get? : Dict α → String → Option α
  | [], _ => none
  | (k', v) :: rest, k => if k' = k then some v else get? rest k

def contains (d : Dict α) (k : String) : Bool := (d.get? k).isSome

/-- Stores `v` at `k`, in place of what was there. -/
def insert (d : Dict α) (k : String) (v : α) : Dict α :=
  match d with
  | [] => [(k, v)]
  | (k', v') :: rest =>
    if k < k' then (k, v) :: (k', v') :: rest
    else if k' = k then (k, v) :: rest
    else (k', v') :: insert rest k v

def erase (d : Dict α) (k : String) : Dict α := d.filter fun e => e.1 ≠ k

def keys (d : Dict α) : List String := d.map (·.1)

def values (d : Dict α) : List α := d.map (·.2)

/-- Of two entries with one key the later one stays. -/
def ofList (entries : List (String × α)) : Dict α :=
  entries.foldl (fun d e => d.insert e.1 e.2) []

@[simp] theorem get?_nil (k : String) : get? ([] : Dict α) k = none := rfl

theorem get?_cons (k' : String) (v : α) (d : Dict α) (k : String) :
    get? ((k', v) :: d) k = if k' = k then some v else get? d k := rfl

theorem get?_eq_none_of_forall_ne {d : Dict α} {k : String} (h : ∀ e ∈ d, e.1 ≠ k) :
    d.get? k = none := by
  induction d with
  | nil => rfl
  | cons e rest ih =>
    obtain ⟨k', v⟩ := e
    have : k' ≠ k := h (k', v) (by simp)
    simp only [get?_cons, this, if_false]
    exact ih fun e he => h e (by simp [he])

theorem get?_insert (d : Dict α) (k : String) (v : α) (q : String) :
    (d.insert k v).get? q = if k = q then some v else d.get? q := by
  fun_induction insert d k v with
  | case1 => rfl
  | case2 k' v' rest _ => rfl
  | case3 v' rest _ =>
    by_cases hq : k = q <;> simp [get?_cons, hq]
  | case4 k' v' rest _ hk ih =>
    by_cases hq : k = q
    · subst hq
      simp [get?_cons, hk, ih]
    · simp [get?_cons, ih, hq]

theorem get?_erase (d : Dict α) (k q : String) :
    (d.erase k).get? q = if k = q then none else d.get? q := by
  induction d with
  | nil => simp [erase]
  | cons e rest ih =>
    obtain ⟨k', v⟩ := e
    unfold erase at ih ⊢
    by_cases hk : k' = k
    · subst hk
      by_cases hq : k' = q <;> simp_all [get?_cons]
    · by_cases hq : k' = q
      · subst hq
        simp [get?_cons, hk, Ne.symm hk]
      · simp_all [get?_cons]

theorem mem_insert {d : Dict α} {k : String} {v : α} {e : String × α}
    (h : e ∈ d.insert k v) : e = (k, v) ∨ e ∈ d := by
  fun_induction insert d k v with
  | case1 => simpa using h
  | case2 => simpa using h
  | case3 v' rest _ =>
    rcases List.mem_cons.1 h with h | h
    · exact .inl h
    · exact .inr (List.mem_cons_of_mem _ h)
  | case4 k' v' rest _ _ ih =>
    rcases List.mem_cons.1 h with h | h
    · exact .inr (h ▸ List.mem_cons_self)
    · exact (ih h).imp id (List.mem_cons_of_mem _)

theorem Sorted.nil : Sorted ([] : Dict α) := List.Pairwise.nil

theorem Sorted.tail {e : String × α} {d : Dict α} (h : Sorted (e :: d)) : Sorted d :=
  (List.pairwise_cons.1 h).2

theorem Sorted.erase {d : Dict α} (h : d.Sorted) (k : String) : (d.erase k).Sorted :=
  List.Pairwise.filter _ h

theorem lt_of_not_lt_of_ne {a b : String} (h : ¬ a < b) (hne : b ≠ a) : b < a := by
  rcases Std.lt_trichotomy a b with h' | h' | h'
  · exact absurd h' h
  · exact absurd h'.symm hne
  · exact h'

theorem Sorted.insert {d : Dict α} (h : d.Sorted) (k : String) (v : α) :
    (d.insert k v).Sorted := by
  fun_induction Dict.insert d k v with
  | case1 => exact List.pairwise_singleton _ _
  | case2 k' v' rest hlt =>
    refine List.pairwise_cons.2 ⟨fun e he => ?_, h⟩
    rcases List.mem_cons.1 he with rfl | he
    · exact hlt
    · exact String.lt_trans hlt ((List.pairwise_cons.1 h).1 e he)
  | case3 v' rest hlt =>
    exact List.pairwise_cons.2 ⟨(List.pairwise_cons.1 h).1, h.tail⟩
  | case4 k' v' rest hlt hne ih =>
    refine List.pairwise_cons.2 ⟨fun e he => ?_, ih h.tail⟩
    rcases mem_insert he with rfl | he
    · exact lt_of_not_lt_of_ne hlt hne
    · exact (List.pairwise_cons.1 h).1 e he

/-- An entry behind all others is stored behind them. -/
theorem insert_eq_append {d : Dict α} {k : String} (h : ∀ e ∈ d, e.1 < k) (v : α) :
    d.insert k v = d ++ [(k, v)] := by
  induction d with
  | nil => rfl
  | cons e rest ih =>
    obtain ⟨k', v'⟩ := e
    have hk : k' < k := h (k', v') (by simp)
    have hne : k' ≠ k := fun he => String.lt_irrefl k (he ▸ hk)
    simp [insert, String.lt_asymm hk, hne, ih fun e he => h e (by simp [he])]

/-- Entries that are in order are a dictionary as they are. -/
theorem Sorted.ofList_eq {d : Dict α} (h : d.Sorted) : ofList d = d := by
  suffices hs : ∀ acc : Dict α, (acc ++ d).Sorted →
      d.foldl (fun d e => d.insert e.1 e.2) acc = acc ++ d from hs [] h
  clear h
  induction d with
  | nil => simp
  | cons e rest ih =>
    intro acc h
    have hlt : ∀ x ∈ acc, x.1 < e.1 := fun x hx =>
      (List.pairwise_append.1 h).2.2 x hx e (by simp)
    simp only [List.foldl_cons, insert_eq_append hlt]
    rw [ih (acc ++ [e]) (by simpa using h)]
    simp

theorem sorted_ofList (entries : List (String × α)) : (ofList entries).Sorted := by
  suffices h : ∀ d : Dict α, d.Sorted → (entries.foldl (fun d e => d.insert e.1 e.2) d).Sorted from
    h [] .nil
  induction entries with
  | nil => exact fun _ h => h
  | cons e rest ih => exact fun d h => ih _ (h.insert _ _)

end Dict

end ControlPlane
