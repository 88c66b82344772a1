import ControlPlane.Proofs.Codec.Laws

/-!
# Merging what is written

A server keeps a value as JSON that need not be what a codec writes of it: it can hold members that
are not read, nulls where nothing is meant, and empty containers. The patch between what is written
of two values, applied to such JSON of the first one, gives JSON of the second one.
-/

namespace ControlPlane

open Document (ofJson ofMembers)
open Json (mergePatch applyPatch mergedMember patched change)

namespace Codec

variable {α : Type} {c : Codec α} {P : α → Prop}

/-- The patch from what is written of one value to what is written of another one turns JSON that
reads as the first into JSON that reads as the second. -/
def Merges (c : Codec α) (P : α → Prop) : Prop :=
  ∀ o j s t, j.Canonical → c.decode o (ofJson j) = .ok s → P t →
    (c.encode s).same (c.encode t) = false →
    c.decode o (ofJson ((mergePatch (c.encode s) (c.encode t)).applyPatch j)) = .ok t

/-- What is not written as an object is replaced whole. -/
theorem Restores.merges (h : c.Restores P) (hn : ∀ a m, c.encode a ≠ .object m) :
    c.Merges P := by
  intro o j s t _ _ ht _
  rw [Json.mergePatch_of_not_object (.inr (hn t)), Json.applyPatch_of_not_object (hn t)]
  exact h o t ht

theorem string_merges : string.Merges fun _ => True :=
  string_restores.merges fun _ _ h => nomatch h

theorem eq_of_same_encode (hw : c.Writes P) (hr : c.Restores P) {s t : α} (hs : P s) (ht : P t)
    (h : (c.encode s).same (c.encode t) = true) : s = t := by
  have heq := Json.eq_of_same (hw s hs).doubleFree h
  have hread := hr .direct s hs
  rw [heq, hr .direct t ht] at hread
  exact (Except.ok.inj hread).symm

theorem eq_map_of_decodeMembers {o : Origin} {m : List (String × Json)}
    {entries : List (String × String)}
    (h : decodeMembers (string.decode o) (ofMembers m) = .ok entries) :
    m = entries.map fun e => (e.1, .string e.2) := by
  induction m generalizing entries with
  | nil =>
    cases h
    rfl
  | cons x rest ih =>
    obtain ⟨a, ha, h⟩ := Except.bind_eq_ok.1 h
    obtain ⟨others, hothers, heq⟩ := Except.bind_eq_ok.1 h
    obtain rfl := (Except.ok.inj heq).symm
    have hx : x.2 = .string a := by
      cases hv : x.2 <;> simp_all [string, ofJson, Document.invalidType]
    rw [ih hothers, List.map_cons, ← hx]

/-- A dictionary of texts is read from nothing else than what is written of it. -/
theorem eq_encode_of_dict_decode {o : Origin} {j : Json} (hj : j.Canonical) {d : Dict String}
    (h : string.dict.decode o (ofJson j) = .ok d) : j = string.dict.encode d ∧ d.Sorted := by
  cases j with
  | object m =>
    obtain ⟨e, he, rfl⟩ := Except.map_eq_ok.1 h
    have hm := eq_map_of_decodeMembers he
    have hsorted : Dict.Sorted e := by
      have := (Json.canonical_object.1 hj).1
      rw [hm, Dict.Sorted, List.pairwise_map] at this
      exact this
    rw [hsorted.ofList_eq]
    exact ⟨congrArg Json.object hm, hsorted⟩
  | _ => cases h

end Codec

namespace Record

variable {R S α β : Type}

theorem get?_write_map (f : α → β) (r : Record R α) (x : R) (k : String) :
    Dict.get? ((f <$> r).write x) k = Dict.get? (r.write x) k := rfl

theorem get?_write_seq (f : Record R (α → β)) (x : Record R α) (r : R) (k : String) :
    Dict.get? ((f <*> x).write r) k = (Dict.get? (f.write r) k).or (Dict.get? (x.write r) k) :=
  Dict.get?_append _ _ k

theorem get?_write_member {key : String} {schema : Dict Json}
    {decode : Origin → Document → Except String α} {absent itemAbsent : Option α}
    {write : R → Option Json} (x : R) (k : String) :
    Dict.get? ((member key schema decode absent itemAbsent write).write x) k =
      if key = k then write x else none := by
  simp only [member]
  cases write x <;> simp [Dict.get?_cons]

/-- What is written of a member that is left out when it is empty. -/
def unlessEmpty (encode : α → Json) (isEmpty : α → Bool) (a : α) : Option Json :=
  if isEmpty a then none else some (encode a)

theorem get?_write_optional {key doc : String} {c : Codec α} {get : R → Option α} (x : R)
    (k : String) : Dict.get? ((optional key c get doc).write x) k =
      if key = k then (get x).map c.encode else none :=
  get?_write_member x k

theorem get?_write_list {key doc : String} {c : Codec α} {get : R → List α} (x : R) (k : String) :
    Dict.get? ((Record.list key c get doc).write x) k =
      if key = k then unlessEmpty c.list.encode List.isEmpty (get x) else none :=
  get?_write_member x k

theorem get?_write_dict {key doc : String} {get : R → Dict String} (x : R) (k : String) :
    Dict.get? ((Record.dict key get doc).write x) k =
      if key = k then unlessEmpty Codec.string.dict.encode List.isEmpty (get x) else none :=
  get?_write_member x k

/-! ## Members -/

section Members

variable {c : Codec α} {Q : α → Prop} {o : Origin} {old : Option Json}

/-- A member that is left out when there is no value. -/
theorem holds_merged_optional (hw : c.Writes Q) (hr : c.Restores Q) (hm : c.Merges Q)
    (hold : ∀ j, old = some j → j.Canonical) {s t : Option α}
    (hs : Holds (c.option.decode o) (some none) old s) (hQs : ∀ a, s = some a → Q a)
    (hQt : ∀ a, t = some a → Q a) :
    Holds (c.option.decode o) (some none)
      (mergedMember (s.map c.encode) (t.map c.encode) old) t := by
  cases t with
  | none =>
    cases s with
    | none => exact hs
    | some a => rfl
  | some b =>
    have hb := hw b (hQt b rfl)
    cases s with
    | none =>
      -- Nothing is there, or a null.
      have hnull : old.getD .null = .null := by
        cases old with
        | none => rfl
        | some j =>
          by_cases hj : j = .null
          · exact hj
          · obtain ⟨x, -, hx⟩ := (Codec.option_decode_ofJson hj).1 hs
            cases hx
      simp only [mergedMember, change, patched, Option.map_some, Option.map_none,
        Json.isNull_eq_false.2 hb.ne_null, hnull, hb.nullFree.applyPatch_null hb.canonical]
      exact (Codec.option_decode_ofJson hb.ne_null).2 ⟨b, hr o b (hQt b rfl), rfl⟩
    | some a =>
      cases old with
      | none => cases hs
      | some j =>
        have hj : j ≠ .null := by
          rintro rfl
          cases hs
        obtain ⟨a', ha, heq⟩ := (Codec.option_decode_ofJson hj).1 hs
        obtain rfl := Option.some.inj heq
        simp only [mergedMember, change, patched, Option.map_some]
        by_cases hsame : (c.encode a').same (c.encode b) = true
        · rw [Codec.eq_of_same_encode hw hr (hQs a' rfl) (hQt b rfl) hsame] at hs
          simpa only [hsame, if_true] using hs
        · rw [Bool.not_eq_true] at hsame
          have hread := hm o j a' b (hold j rfl) ha (hQt b rfl) hsame
          have hpatch := Json.mergePatch_ne_null hb.ne_null (c.encode a')
          simp only [hsame, Bool.false_eq_true, if_false, Json.isNull_eq_false.2 hpatch]
          exact (Codec.option_decode_ofJson (Json.applyPatch_ne_null hpatch _)).2
            ⟨b, hread, rfl⟩

/-- A list that is left out when it is empty. -/
theorem holds_merged_list (hw : c.Writes Q) (hr : c.Restores Q) {s t : List α}
    (hs : Holds (c.list.decode o) (some []) old s) (hQs : ∀ a ∈ s, Q a) (hQt : ∀ a ∈ t, Q a) :
    Holds (c.list.decode o) (some [])
      (mergedMember (unlessEmpty c.list.encode List.isEmpty s)
        (unlessEmpty c.list.encode List.isEmpty t) old) t := by
  have hnew : Holds (c.list.decode o) (some []) (some (c.list.encode t)) t := hr.list o t hQt
  have hpatched : ∀ j, patched (c.list.encode t) j = some (c.list.encode t) := fun _ => rfl
  have hmerge : ∀ j, mergePatch j (c.list.encode t) = c.list.encode t := fun _ => by
    simp only [Codec.list, mergePatch]
  cases t with
  | nil =>
    cases s with
    | nil => exact hs
    | cons a s => rfl
  | cons b t =>
    cases s with
    | nil =>
      simp only [unlessEmpty, List.isEmpty_nil, List.isEmpty_cons, if_true, Bool.false_eq_true,
        if_false, mergedMember, change, hpatched]
      exact hnew
    | cons a s =>
      simp only [unlessEmpty, List.isEmpty_cons, Bool.false_eq_true, if_false, mergedMember, change]
      by_cases hsame : (c.list.encode (a :: s)).same (c.list.encode (b :: t)) = true
      · rw [Codec.eq_of_same_encode hw.list hr.list hQs hQt hsame] at hs
        simpa only [hsame, if_true] using hs
      · simp only [hsame, Bool.false_eq_true, if_false, hmerge, hpatched]
        exact hnew

/-- The patch between two dictionaries of texts replaces the one by the other. -/
theorem applyPatch_mergePatch_dict {s t : Dict String} (hs : s.Sorted) (ht : t.Sorted) :
    (mergePatch (Codec.string.dict.encode s) (Codec.string.dict.encode t)).applyPatch
      (Codec.string.dict.encode s) = Codec.string.dict.encode t := by
  have hsj := hs.map Json.string
  have htj := ht.map Json.string
  have hcanonical := (Codec.Writes.dict Codec.string_writes s hs).canonical
  obtain ⟨merged, heq, hsorted, hget⟩ := Json.exists_applyPatch_mergePatch hsj htj hcanonical
  refine heq.trans (congrArg Json.object (hsorted.ext htj fun k => ?_))
  rw [hget k]
  show mergedMember _ _ (Dict.get? (s.map fun e => (e.1, Json.string e.2)) k) =
    Dict.get? (t.map fun e => (e.1, Json.string e.2)) k
  rw [Dict.get?_map, Dict.get?_map]
  cases hsk : s.get? k with
  | none => cases htk : t.get? k <;> simp [mergedMember, change, patched, Json.isNull, applyPatch]
  | some x =>
    cases htk : t.get? k with
    | none => simp [mergedMember, change, patched, Json.isNull]
    | some y =>
      by_cases hxy : x = y <;>
        simp [mergedMember, change, patched, Json.isNull, Json.same, mergePatch, applyPatch, hxy]

/-- A dictionary of texts that is left out when it is empty. -/
theorem holds_merged_dict (hold : ∀ j, old = some j → j.Canonical) {s t : Dict String}
    (hs : Holds (Codec.string.dict.decode o) (some []) old s) (ht : t.Sorted) :
    Holds (Codec.string.dict.decode o) (some [])
      (mergedMember (unlessEmpty Codec.string.dict.encode List.isEmpty s)
        (unlessEmpty Codec.string.dict.encode List.isEmpty t) old) t := by
  have hnew : Holds (Codec.string.dict.decode o) (some []) (some (Codec.string.dict.encode t)) t :=
    Codec.Restores.dict Codec.string_restores o t ht
  have hplain := Codec.Writes.dict Codec.string_writes t ht
  cases t with
  | nil =>
    cases s with
    | nil => exact hs
    | cons a s => rfl
  | cons b t =>
    cases s with
    | nil =>
      -- Nothing is there, or an empty object, and the patch says everything.
      have hempty : (old.getD .null).targetMembers = [] := by
        cases old with
        | none => rfl
        | some j => rw [Option.getD_some, (Codec.eq_encode_of_dict_decode (hold j rfl) hs).1]; rfl
      have hpatched : patched (Codec.string.dict.encode (b :: t)) old =
          some (Codec.string.dict.encode (b :: t)) := by
        have hnull := hplain.nullFree.applyPatch_null hplain.canonical
        simp only [patched, Codec.dict, Json.isNull, Bool.false_eq_true, if_false] at hnull ⊢
        rw [Json.applyPatch_object] at hnull ⊢
        rw [hempty]
        exact congrArg some hnull
      simp only [unlessEmpty, List.isEmpty_nil, List.isEmpty_cons, if_true, Bool.false_eq_true,
        if_false, mergedMember, change, hpatched]
      exact hnew
    | cons a s =>
      cases old with
      | none => cases hs
      | some j =>
        obtain ⟨rfl, hsorted⟩ := Codec.eq_encode_of_dict_decode (hold j rfl) hs
        have hpatch := Json.mergePatch_ne_null hplain.ne_null (Codec.string.dict.encode (a :: s))
        simp only [unlessEmpty, List.isEmpty_cons, Bool.false_eq_true, if_false, mergedMember,
          change]
        by_cases hsame :
            (Codec.string.dict.encode (a :: s)).same (Codec.string.dict.encode (b :: t)) = true
        · have heq := Codec.eq_of_same_encode (Codec.Writes.dict Codec.string_writes)
            (Codec.Restores.dict Codec.string_restores) hsorted ht hsame
          simp only [hsame, if_true]
          rw [← heq]
          exact hs
        · simp only [hsame, Bool.false_eq_true, if_false, patched, Json.isNull_eq_false.2 hpatch,
            Option.getD_some, applyPatch_mergePatch_dict hsorted ht]
          exact hnew

end Members

/-! ## Records -/

/-- When the members of a record in an object of one value are merged with the patch to another
one, the record reads the other one. -/
def Merges (r : Record R R) (P : R → Prop) : Prop :=
  ∀ o (m m' : Dict Json) s t, (Json.object m).Canonical → m'.Sorted →
    r.read o (ofMembers m) = .ok s → P s → P t →
    (∀ k ∈ r.keys, m'.get? k =
      mergedMember (Dict.get? (r.write s) k) (Dict.get? (r.write t) k) (m.get? k)) →
    r.read o (ofMembers m') = .ok t

/-- The patch between what a record writes of two values, applied to any object that reads as the
first, gives an object that reads as the second. -/
theorem Merges.codec {name doc : String} {r : Record R R} {P : R → Prop} (h : r.Merges P)
    (hr : r.Restores id P) (hn : r.keys.Nodup) {o : Origin} {m : Dict Json} {s t : R}
    (hm : (Json.object m).Canonical)
    (hs : (codec name doc r).decode o (ofJson (.object m)) = .ok s) (hPs : P s) (hPt : P t) :
    (codec name doc r).decode o
      (ofJson ((mergePatch (r.encode s) (r.encode t)).applyPatch (.object m))) = .ok t := by
  have hms := (Json.canonical_object.1 hm).1
  obtain ⟨merged, heq, hsorted, hget⟩ := Json.exists_applyPatch_mergePatch
    (Dict.sorted_ofList (r.write s)) (Dict.sorted_ofList (r.write t)) hm
  simp only [encode, Json.ofMembers]
  rw [heq]
  refine (codec_decode_object hsorted).2
    (h o m merged s t hm hsorted ((codec_decode_object hms).1 hs) hPs hPt fun k _ => ?_)
  rw [hget k, Dict.get?_ofList (hn.sublist (hr.keys s)), Dict.get?_ofList (hn.sublist (hr.keys t))]
  rfl

end Record

end ControlPlane
