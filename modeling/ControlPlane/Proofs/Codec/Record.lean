import ControlPlane.Codec.Record
import ControlPlane.Proofs.Except
import ControlPlane.Proofs.Json.Equality

/-!
# Reading records from objects

Of an object in key order a record looks at its own members, and at each by itself. `Record.Holds`
says what a member reads as, so that reading a record is a conjunction over its members.
-/

namespace ControlPlane

namespace Document

theorem ofItems_eq_map (items : List Json) : ofItems items = items.map ofJson := by
  induction items with
  | nil => rfl
  | cons x rest ih => simp only [ofItems, ih, List.map_cons]

theorem ofMembers_eq_map (m : List (String × Json)) :
    ofMembers m = m.map fun e => (e.1, ofJson e.2) := by
  induction m with
  | nil => rfl
  | cons e rest ih => simp only [ofMembers, ih, List.map_cons]

theorem filter_ofMembers (p : String → Bool) (m : List (String × Json)) :
    (ofMembers m).filter (fun e => p e.1) = ofMembers (m.filter fun e => p e.1) := by
  simp only [ofMembers_eq_map, List.filter_map, Function.comp_def]

/-- In an object in key order there is at most one value at a key. -/
theorem named_ofMembers {m : Dict Json} (hm : m.Sorted) (key : String) :
    named key (ofMembers m) = ((m.get? key).map ofJson).toList := by
  induction m with
  | nil => rfl
  | cons e rest ih =>
    obtain ⟨k, x⟩ := e
    by_cases hk : k = key
    · subst hk
      have hrest : named k (ofMembers rest) = [] := by
        rw [ih hm.tail, hm.get?_head]
        rfl
      unfold named at hrest ⊢
      simp [ofMembers, Dict.get?_cons, hrest]
    · have := ih hm.tail
      unfold named at this ⊢
      simp [ofMembers, Dict.get?_cons, hk, this]

/-- There is no fault in the members of a value. -/
theorem firstFault?_ofMembers {m : List (String × Json)} (h : ∀ e ∈ m, e.2.Canonical) :
    firstFault? (ofMembers m) = none := by
  simp only [firstFault?, memberValues_ofMembers (Json.canonicalMembers_iff.2 h)]

theorem eq_null_of_value {d : Document} (h : d.value = .ok .null) : d = .null := by
  cases d with
  | null => rfl
  | array => obtain ⟨_, -, hj⟩ := Except.map_eq_ok.1 h; cases hj
  | object => obtain ⟨_, -, hj⟩ := Except.map_eq_ok.1 h; cases hj
  | _ => cases h

mutual

/-- A value that is read off a document is in key order at every depth. -/
theorem canonical_of_value {d : Document} {j : Json} (h : d.value = .ok j) : j.Canonical := by
  match d with
  | .null | .bool _ | .number _ | .string _ =>
    cases h
    simp [Json.Canonical]
  | .array items =>
    obtain ⟨xs, hxs, rfl⟩ := Except.map_eq_ok.1 h
    exact Json.canonical_array.2 (canonical_of_itemValues hxs)
  | .object members =>
    obtain ⟨m, hm, rfl⟩ := Except.map_eq_ok.1 h
    exact Json.canonical_object.2
      ⟨Dict.sorted_ofList m, fun e he => canonical_of_memberValues hm e (Dict.mem_ofList he)⟩
  | .unreadable _ => cases h

theorem canonical_of_itemValues {items : List Document} {xs : List Json}
    (h : itemValues items = .ok xs) : ∀ x ∈ xs, x.Canonical := by
  match items with
  | [] =>
    cases h
    exact fun _ hx => nomatch hx
  | d :: rest =>
    obtain ⟨x, hx, h⟩ := Except.bind_eq_ok.1 h
    obtain ⟨ys, hys, heq⟩ := Except.bind_eq_ok.1 h
    obtain rfl := Except.ok.inj heq
    exact List.forall_mem_cons.2 ⟨canonical_of_value hx, canonical_of_itemValues hys⟩

theorem canonical_of_memberValues {members : List (String × Document)} {m : List (String × Json)}
    (h : memberValues members = .ok m) : ∀ e ∈ m, e.2.Canonical := by
  match members with
  | [] =>
    cases h
    exact fun _ he => nomatch he
  | (k, d) :: rest =>
    obtain ⟨x, hx, h⟩ := Except.bind_eq_ok.1 h
    obtain ⟨ys, hys, heq⟩ := Except.bind_eq_ok.1 h
    obtain rfl := Except.ok.inj heq
    exact List.forall_mem_cons.2 ⟨canonical_of_value hx, canonical_of_memberValues hys⟩

end

end Document

open Document (ofJson ofMembers)

theorem Fault.merge_eq_ok {α β : Type} {f : Except Fault (α → β)} {x : Except Fault α} {b : β} :
    Fault.merge f x = .ok b ↔ ∃ g a, f = .ok g ∧ x = .ok a ∧ g a = b := by
  cases f <;> cases x <;> simp [Fault.merge]

namespace Record

variable {R S α β : Type}

def keys (r : Record R α) : List String := r.properties.map (·.key)

@[simp] theorem keys_map (f : α → β) (r : Record R α) : (f <$> r).keys = r.keys := rfl

@[simp] theorem keys_seq (f : Record R (α → β)) (x : Record R α) :
    (f <*> x).keys = f.keys ++ x.keys :=
  List.map_append

theorem read_map_eq_ok {f : α → β} {r : Record R α} {o : Origin} {d : List (String × Document)}
    {b : β} : (f <$> r).read o d = .ok b ↔ ∃ a, r.read o d = .ok a ∧ f a = b :=
  Except.map_eq_ok

theorem read_seq_eq_ok {f : Record R (α → β)} {x : Record R α} {o : Origin}
    {d : List (String × Document)} {b : β} :
    (f <*> x).read o d = .ok b ↔
      ∃ g a, f.read o d = .ok g ∧ x.read o d = .ok a ∧ g a = b :=
  Fault.merge_eq_ok

/-- A member with this value, or without one, reads as `a`. -/
def Holds (decode : Document → Except String α) (absent : Option α) (value : Option Json)
    (a : α) : Prop :=
  match value with
  | none => absent = some a
  | some j => decode (ofJson j) = .ok a

theorem read_member {key : String} {schema : Dict Json}
    {decode : Origin → Document → Except String α} {absent itemAbsent : Option α}
    {write : R → Option Json} {o : Origin} {m : Dict Json} (hm : m.Sorted) {a : α} :
    (member key schema decode absent itemAbsent write).read o (ofMembers m) = .ok a ↔
      Holds (decode o) absent (m.get? key) a := by
  simp only [member, Document.named_ofMembers hm]
  cases hv : m.get? key with
  | none => cases absent <;> simp [lastOf, Holds]
  | some j => cases hd : decode o (ofJson j) <;> simp [lastOf, Holds, hd, Except.map]

section Members

variable {key doc : String} {c : Codec α} {o : Origin} {m : Dict Json}

theorem read_required {get : R → α} (hm : m.Sorted) {a : α} :
    (required key c get doc).read o (ofMembers m) = .ok a ↔
      Holds (c.decode o) none (m.get? key) a :=
  read_member hm

theorem read_optional {get : R → Option α} (hm : m.Sorted) {a : Option α} :
    (optional key c get doc).read o (ofMembers m) = .ok a ↔
      Holds (c.option.decode o) (some none) (m.get? key) a :=
  read_member hm

theorem read_list {get : R → List α} (hm : m.Sorted) {a : List α} :
    (Record.list key c get doc).read o (ofMembers m) = .ok a ↔
      Holds (c.list.decode o) (some []) (m.get? key) a :=
  read_member hm

theorem read_dict {get : R → Dict String} (hm : m.Sorted) {a : Dict String} :
    (Record.dict key get doc).read o (ofMembers m) = .ok a ↔
      Holds (Codec.string.dict.decode o) (some []) (m.get? key) a :=
  read_member hm

end Members

/-! ## Records as codecs -/

theorem decodeMembers_eq_ok {r : Record R α} {o : Origin} {d : List (String × Document)} {a : α} :
    r.decodeMembers o d = .ok a ↔ r.read o d = .ok a :=
  Except.mapError_eq_ok

theorem read_of_decodeDistinct {r : Record R α} {o : Origin} {d : List (String × Document)} {a : α}
    (h : r.decodeDistinct o d = .ok a) : r.read o d = .ok a := by
  unfold decodeDistinct at h
  split at h
  · cases h
  · exact decodeMembers_eq_ok.1 h

theorem decodeDistinct_eq_ok {r : Record R α} {o : Origin} {m : Dict Json} (hm : m.Sorted)
    {a : α} : r.decodeDistinct o (ofMembers m) = .ok a ↔ r.read o (ofMembers m) = .ok a := by
  have hnone : (r.properties.find? fun p => 1 < (Document.named p.key (ofMembers m)).length) =
      none := by
    refine List.find?_eq_none.2 fun p _ => ?_
    rw [Document.named_ofMembers hm]
    cases m.get? p.key <;> simp
  simp only [decodeDistinct, hnone, decodeMembers_eq_ok]

theorem codec_decode_object {name doc : String} {r : Record α α} {o : Origin} {m : Dict Json}
    (hm : m.Sorted) {a : α} :
    (codec name doc r).decode o (ofJson (.object m)) = .ok a ↔ r.read o (ofMembers m) = .ok a :=
  decodeDistinct_eq_ok hm

theorem objectCodec_decode_object {expected doc : String} {r : Record α α} {o : Origin}
    {m : Dict Json} {a : α} :
    (objectCodec expected doc r).decode o (ofJson (.object m)) = .ok a ↔
      r.read o (ofMembers m) = .ok a :=
  decodeMembers_eq_ok

end Record

end ControlPlane
