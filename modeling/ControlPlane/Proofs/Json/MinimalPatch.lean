import ControlPlane.Proofs.Json.MergePatch

/-!
# Merge patches as differences

The patch between two values turns the first into the second, and says no more than it has to: where
both are objects, at the top or further down, it has a member just where the two differ, so that in
any other object the members on which they agree stay as they are. `Json.at?` follows keys down into
a value, and `Json.agree` compares what two values have there.
-/

namespace ControlPlane.Json

/-- What is reached by following keys through objects. -/
def at? (j : Json) : (path : List String) → Option Json
  | [] => some j
  | k :: path => (j.get? k).bind fun m => m.at? path

/-- Whether two objects have the same to say of a member: none has it, or both have the same. -/
def agree : Option Json → Option Json → Bool
  | none, none => true
  | some a, some b => a.same b
  | _, _ => false

theorem at?_null {path : List String} (h : path ≠ []) : null.at? path = none := by
  cases path with
  | nil => exact (h rfl).elim
  | cons k path => rfl

/-! ## Agreement -/

theorem agree_refl (a : Option Json) : agree a a = true := by
  cases a <;> simp [agree]

theorem isSome_eq_of_agree {a b : Option Json} (h : agree a b = true) : a.isSome = b.isSome := by
  cases a <;> cases b <;> simp_all [agree]

theorem agree_of_sameMembers {xs ys : Dict Json} (h : sameMembers xs ys = true) (k : String) :
    agree (xs.get? k) (ys.get? k) = true := by
  induction xs generalizing ys with
  | nil =>
    cases ys with
    | nil => rfl
    | cons y ys => simp [sameMembers] at h
  | cons x xs ih =>
    cases ys with
    | nil => simp [sameMembers] at h
    | cons y ys =>
      simp only [sameMembers, Bool.and_eq_true, beq_iff_eq] at h
      obtain ⟨⟨hkey, hvalue⟩, hrest⟩ := h
      rw [Dict.get?_cons, Dict.get?_cons, hkey]
      split
      · exact hvalue
      · exact ih hrest

/-- Dictionaries that agree everywhere have the same keys, in the same order. -/
theorem keys_eq_of_agree {xs ys : Dict Json} (hx : xs.Sorted) (hy : ys.Sorted)
    (h : ∀ k, agree (xs.get? k) (ys.get? k) = true) :
    (xs.map fun e => (e.1, ())) = ys.map fun e => (e.1, ()) := by
  refine (hx.map fun _ => ()).ext (hy.map fun _ => ()) fun k => ?_
  rw [Dict.get?_map fun _ => (), Dict.get?_map fun _ => ()]
  have hsome := isSome_eq_of_agree (h k)
  cases hxk : xs.get? k <;> cases hyk : ys.get? k <;> simp_all

theorem sameMembers_of_agree {xs ys : Dict Json} (hx : xs.Sorted) (hy : ys.Sorted)
    (h : ∀ k, agree (xs.get? k) (ys.get? k) = true) : sameMembers xs ys = true := by
  induction xs generalizing ys with
  | nil =>
    obtain rfl : ys = [] := by simpa using (keys_eq_of_agree hx hy h).symm
    rfl
  | cons x xs ih =>
    have hkeys := keys_eq_of_agree hx hy h
    cases ys with
    | nil => cases hkeys
    | cons y ys =>
      obtain ⟨k, v⟩ := x
      obtain ⟨l, w⟩ := y
      obtain rfl : k = l := congrArg Prod.fst (List.cons.inj hkeys).1
      have hvalue : v.same w = true := by simpa [Dict.get?_cons, agree] using h k
      have hrest : sameMembers xs ys = true := by
        refine ih hx.tail hy.tail fun q => ?_
        by_cases hq : k = q
        · subst hq
          rw [hx.get?_head, hy.get?_head]
          rfl
        · simpa [Dict.get?_cons, hq] using h q
      simp [sameMembers, hvalue, hrest]

/-- Objects are the same when they agree on every member. -/
theorem same_object_iff {xs ys : Dict Json} (hx : xs.Sorted) (hy : ys.Sorted) :
    (object xs).same (object ys) = true ↔ ∀ k, agree (xs.get? k) (ys.get? k) = true := by
  rw [same]
  exact ⟨agree_of_sameMembers, sameMembers_of_agree hx hy⟩

theorem agree_get? {a b : Json} (h : a.same b = true) (k : String) :
    agree (a.get? k) (b.get? k) = true := by
  cases a <;> cases b <;> simp only [same, Bool.false_eq_true] at h <;>
    first
      | rfl
      | exact agree_of_sameMembers h k

/-- Values that are the same agree at any depth. -/
theorem agree_at? {a b : Json} (h : a.same b = true) (path : List String) :
    agree (a.at? path) (b.at? path) = true := by
  induction path generalizing a b with
  | nil => exact h
  | cons k path ih =>
    have hk := agree_get? h k
    cases ha : a.get? k <;> cases hb : b.get? k <;> simp_all [at?, agree]

theorem change_eq_none_iff {stored desired : Option Json} :
    change stored desired = none ↔ agree stored desired = true := by
  cases stored <;> cases desired <;> simp [change, agree]

/-! ## The patch turns the stored value into the desired one -/

theorem targetMembers_of_not_object {t : Json} (h : ∀ m, t ≠ .object m) :
    t.targetMembers = [] := by
  cases t <;> simp_all [targetMembers, asObject?]

/-- A patch without nulls takes the place of what is no object. -/
theorem NullFree.applyPatch_of_not_object {p t : Json} (hn : p.NullFree) (hc : p.Canonical)
    (ht : ∀ m, t ≠ .object m) : p.applyPatch t = p := by
  cases p with
  | object members =>
    have hnull := hn.applyPatch_null hc
    rwa [applyPatch_object, targetMembers_of_not_object (by simp),
      ← targetMembers_of_not_object ht, ← applyPatch_object] at hnull
  | _ => exact Json.applyPatch_of_not_object (by simp) t

mutual

theorem same_applyPatch_mergePatch {stored desired : Json} (hs : stored.Canonical)
    (hd : desired.Canonical) (hn : desired.NullFree) :
    ((mergePatch stored desired).applyPatch stored).same desired = true := by
  match desired with
  | .object members =>
    match stored with
    | .object prior =>
      obtain ⟨hsorted, hprior⟩ := canonical_object.1 hs
      obtain ⟨hsorted', hmembers⟩ := canonical_object.1 hd
      obtain ⟨merged, hmerged, hsorted'', hget⟩ := exists_applyPatch_mergePatch hsorted hsorted' hs
      rw [hmerged]
      refine (same_object_iff hsorted'' hsorted').2 fun k => ?_
      rw [hget, targetMembers_object, mergedMember]
      cases hold : Dict.get? prior k with
      | none =>
        cases hnew : Dict.get? members k with
        | none => rfl
        | some v =>
          have hv := NullFree.patched_none (nullFree_object.1 hn) hmembers (Dict.mem_of_get? hnew)
          simp only [change, hv]
          exact agree_refl _
      | some old =>
        cases hnew : Dict.get? members k with
        | none => rfl
        | some v =>
          exact agree_merged (nullFree_object.1 hn) hmembers (Dict.mem_of_get? hnew)
            (hs.get? hold)
    | .null | .bool _ | .number _ | .string _ | .array _ =>
      rw [mergePatch_of_not_object (.inl (by simp)), hn.applyPatch_of_not_object hd (by simp)]
      exact same_refl _
  | .null | .bool _ | .number _ | .string _ | .array _ =>
    rw [mergePatch_of_not_object (.inr (by simp)), applyPatch_of_not_object (by simp)]
    exact same_refl _

/-- A member that is there and wanted becomes what is wanted. -/
theorem agree_merged {members : List (String × Json)}
    (hn : ∀ e ∈ members, e.2 ≠ .null ∧ e.2.NullFree) (hc : ∀ e ∈ members, e.2.Canonical)
    {k : String} {v : Json} (hv : (k, v) ∈ members) {old : Json} (hold : old.Canonical) :
    agree (mergedMember (some old) (some v) (some old)) (some v) = true := by
  match members with
  | (l, w) :: rest =>
    rcases List.mem_cons.1 hv with heq | hv
    · cases heq
      have hw := hn (k, v) List.mem_cons_self
      cases hsame : old.same v with
      | true => simp [mergedMember, change, hsame, agree]
      | false =>
        have hne := isNull_eq_false.2 (mergePatch_ne_null hw.1 old)
        have hmerged := same_applyPatch_mergePatch hold (hc (k, v) List.mem_cons_self) hw.2
        simpa [mergedMember, change, hsame, agree, patched, hne] using hmerged
    · exact agree_merged (fun e he => hn e (List.mem_cons_of_mem _ he))
        (fun e he => hc e (List.mem_cons_of_mem _ he)) hv hold

end

/-! ## The patch says no more than it has to -/

theorem get?_mergePatch (stored : Dict Json) {desired : Dict Json} (hd : desired.Sorted)
    (k : String) : (mergePatch (.object stored) (.object desired)).get? k =
      change (stored.get? k) (desired.get? k) := by
  rw [mergePatch_object]
  exact get?_patchMembers stored hd.nodup_keys k

theorem get?_applyPatch_mergePatch {stored desired : Dict Json} (hs : stored.Sorted)
    (hd : desired.Sorted) (target : Json) (k : String) :
    ((mergePatch (.object stored) (.object desired)).applyPatch target).get? k =
      mergedMember (stored.get? k) (desired.get? k) (target.get? k) := by
  have htarget : target.targetMembers.get? k = target.get? k := by cases target <;> rfl
  rw [mergePatch_object, applyPatch_object, ← htarget, mergedMember,
    ← get?_patchMembers stored hd.nodup_keys]
  exact get?_applyMembers (sorted_patchMembers hs desired).nodup_keys _ k

/-- There is nothing to say just when there is no difference. -/
theorem mergePatch_object_eq_empty_iff {stored desired : Dict Json} (hs : stored.Sorted)
    (hd : desired.Sorted) : mergePatch (.object stored) (.object desired) = .object [] ↔
      (object stored).same (.object desired) = true := by
  rw [same_object_iff hs hd]
  simp only [← change_eq_none_iff, ← get?_mergePatch stored hd]
  refine ⟨fun h k => by rw [h]; rfl, fun h => ?_⟩
  rw [mergePatch_object] at h ⊢
  exact congrArg object ((sorted_patchMembers hs desired).ext .nil h)

/-- The patch from `stored` to `desired` is sparing at a path where they have the objects `s` and
`d`: its members there are those at which the two differ, it says nothing there when the two are the
same, and applied to any value it leaves the members there on which the two agree. -/
structure Sparing (stored desired : Json) (path : List String) (s d : Dict Json) : Prop where
  members : ∀ k, ((mergePatch stored desired).at? (path ++ [k])).isSome =
    !agree (s.get? k) (d.get? k)
  nothing : ((mergePatch stored desired).at? path).getD (.object []) = .object [] ↔
    (object s).same (.object d) = true
  untouched : ∀ target k, agree (s.get? k) (d.get? k) = true →
    ((mergePatch stored desired).applyPatch target).at? (path ++ [k]) = target.at? (path ++ [k])

theorem sparing_top {s d : Dict Json} (hs : s.Sorted) (hd : d.Sorted) :
    Sparing (.object s) (.object d) [] s d where
  members k := by
    have hmember := get?_mergePatch s hd k
    rw [List.nil_append, at?]
    cases hagree : agree (s.get? k) (d.get? k) with
    | true => simp [hmember, change_eq_none_iff.2 hagree]
    | false =>
      have hne : change (s.get? k) (d.get? k) ≠ none := by simp [change_eq_none_iff, hagree]
      obtain ⟨v, hv⟩ := Option.ne_none_iff_exists'.1 hne
      simp [hmember, hv, at?]
  nothing := mergePatch_object_eq_empty_iff hs hd
  untouched target k hagree := by
    have hmember := get?_applyPatch_mergePatch hs hd target k
    rw [mergedMember, change_eq_none_iff.2 hagree] at hmember
    simp only [List.nil_append, at?, hmember]

/-- Below members that are the same the patch says nothing. -/
theorem sparing_of_same {stored desired : Dict Json} (hs : stored.Sorted) (hd : desired.Sorted)
    {k : String} (hagree : agree (stored.get? k) (desired.get? k) = true) {path : List String}
    {s d : Dict Json} (hpath : (object s).same (.object d) = true) :
    Sparing (.object stored) (.object desired) (k :: path) s d where
  members l := by
    have hmember := get?_mergePatch stored hd k
    rw [change_eq_none_iff.2 hagree] at hmember
    rw [same] at hpath
    simp [at?, hmember, agree_of_sameMembers hpath l]
  nothing := by
    have hmember := get?_mergePatch stored hd k
    rw [change_eq_none_iff.2 hagree] at hmember
    simpa [at?, hmember] using hpath
  untouched target l _ := by
    have hmember := get?_applyPatch_mergePatch hs hd target k
    rw [mergedMember, change_eq_none_iff.2 hagree] at hmember
    simp only [List.cons_append, at?, hmember]

/-- Below members that differ the patch is the one between them. -/
theorem Sparing.below {stored desired : Dict Json} (hs : stored.Sorted) (hd : desired.Sorted)
    {k : String} {old new : Json} (hold : stored.get? k = some old)
    (hnew : desired.get? k = some new) (hne : new ≠ .null) (hdiffer : old.same new = false)
    {path : List String} {s d : Dict Json} (h : Sparing old new path s d) :
    Sparing (.object stored) (.object desired) (k :: path) s d := by
  have hchange : change (stored.get? k) (desired.get? k) = some (mergePatch old new) := by
    simp [change, hold, hnew, hdiffer]
  have hmember : (mergePatch (.object stored) (.object desired)).get? k =
      some (mergePatch old new) := (get?_mergePatch stored hd k).trans hchange
  have hmerged (target : Json) :
      ((mergePatch (.object stored) (.object desired)).applyPatch target).get? k =
        some ((mergePatch old new).applyPatch ((target.get? k).getD .null)) := by
    rw [get?_applyPatch_mergePatch hs hd, mergedMember, hchange]
    simp [patched, isNull_eq_false.2 (mergePatch_ne_null hne old)]
  refine ⟨fun l => ?_, ?_, fun target l hagree => ?_⟩
  · simpa only [List.cons_append, at?, hmember, Option.bind_some] using h.members l
  · simpa only [at?, hmember, Option.bind_some] using h.nothing
  · simp only [List.cons_append, at?, hmerged, Option.bind_some, h.untouched _ l hagree]
    cases target.get? k with
    | none => exact at?_null (by simp)
    | some m => rfl

/-- Wherever two values both have an object, the patch between them is sparing. -/
theorem sparing_at {stored desired : Json} (hs : stored.Canonical) (hd : desired.Canonical)
    {path : List String} {s d : Dict Json} (hsp : stored.at? path = some (.object s))
    (hdp : desired.at? path = some (.object d)) : Sparing stored desired path s d := by
  induction path generalizing stored desired with
  | nil =>
    obtain rfl := Option.some.inj hsp
    obtain rfl := Option.some.inj hdp
    exact sparing_top (canonical_object.1 hs).1 (canonical_object.1 hd).1
  | cons k path ih =>
    obtain ⟨old, hold, hsold⟩ := Option.bind_eq_some_iff.1 hsp
    obtain ⟨new, hnew, hdnew⟩ := Option.bind_eq_some_iff.1 hdp
    cases stored with
    | object stored =>
      cases desired with
      | object desired =>
        have hsorted := (canonical_object.1 hs).1
        have hsorted' := (canonical_object.1 hd).1
        cases hdiffer : old.same new with
        | true =>
          have hagree : agree (Dict.get? stored k) (Dict.get? desired k) = true := by
            rw [show Dict.get? stored k = some old from hold,
              show Dict.get? desired k = some new from hnew]
            exact hdiffer
          have hpath := agree_at? hdiffer path
          rw [hsold, hdnew] at hpath
          exact sparing_of_same hsorted hsorted' hagree hpath
        | false =>
          have hne : new ≠ .null := by
            rintro rfl
            cases path <;> cases hdnew
          exact (ih (hs.get? hold) (hd.get? hnew) hsold hdnew).below hsorted hsorted' hold hnew hne
            hdiffer
      | _ => cases hnew
    | _ => cases hold

/-- The patch between two values is correct and minimal. Where what is desired has no null member,
the patch turns what is stored into it. Wherever both have an object, the patch names just the
members that differ and leaves the others of any value as they are. -/
theorem mergePatch_minimal (stored desired : Json) (hs : stored.Canonical)
    (hd : desired.Canonical) :
    (desired.NullFree → ((mergePatch stored desired).applyPatch stored).same desired = true) ∧
      ∀ path s d, stored.at? path = some (.object s) → desired.at? path = some (.object d) →
        Sparing stored desired path s d :=
  ⟨same_applyPatch_mergePatch hs hd, fun _ _ _ hsp hdp => sparing_at hs hd hsp hdp⟩

/-- The two zeros are the same, so that of the nested object only the list is sent; the host that
another value has there stays. -/
theorem mergePatch_minimal_in_nested_object :
    let info (host : String) (port : Binary64) (tags : List Json) : Dict Json :=
      [("host", .string host), ("port", .number (.double port)), ("tags", .array tags)]
    let stored : Dict Json := [("info", .object (info "db" ⟨0⟩ [])), ("phase", .string "Creating")]
    let desired : Dict Json :=
      [("id", .string "1"), ("info", .object (info "db" ⟨0x8000000000000000⟩ [.null]))]
    let patch := mergePatch (.object stored) (.object desired)
    let other : Json := .object [("info", .object (info "elsewhere" ⟨1⟩ []))]
    patch = .object [("id", .string "1"), ("info", .object [("tags", .array [.null])]),
        ("phase", .null)] ∧
      (patch.applyPatch (.object stored)).same (.object desired) = true ∧
      Sparing (.object stored) (.object desired) ["info"] (info "db" ⟨0⟩ [])
        (info "db" ⟨0x8000000000000000⟩ [.null]) ∧
      (patch.applyPatch other).at? ["info", "host"] = some (.string "elsewhere") := by
  intro info stored desired patch other
  have hs : (object stored).Canonical := by
    simp only [stored, info, Canonical, CanonicalMembers, CanonicalItems, Dict.Sorted]
    decide
  have hd : (object desired).Canonical := by
    simp only [desired, info, Canonical, CanonicalMembers, CanonicalItems, Dict.Sorted]
    decide
  have hn : (object desired).NullFree := by
    simp [desired, info, NullFree, NullFreeMembers]
  obtain ⟨hlands, hsparing⟩ := mergePatch_minimal (.object stored) (.object desired) hs hd
  have hinfo := hsparing ["info"] _ _ rfl rfl
  exact ⟨rfl, hlands hn, hinfo, hinfo.untouched other "host" rfl⟩

end ControlPlane.Json
