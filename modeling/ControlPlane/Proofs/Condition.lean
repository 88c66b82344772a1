import ControlPlane.Condition
import ControlPlane.Proofs.Codec.Laws

/-!
# Laws of conditions

A condition is valid when the time of its transition is an instant of the calendar. Recording one
changes the list at a single place, where the first condition of its type stands or else at the end,
and says truly whether it did. Recording the same condition again at another time changes nothing.
-/

namespace ControlPlane

theorem ConditionStatus.codec_writes : ConditionStatus.codec.Writes fun _ => True :=
  Codec.enumeration_writes _ _

theorem ConditionStatus.codec_restores : ConditionStatus.codec.Restores fun _ => True :=
  Codec.enumeration_restores fun a => by cases a <;> rfl

namespace Condition

/-- The time of the transition is an instant of the calendar. -/
def Valid (c : Condition) : Prop := ∀ t, c.lastTransitionTime = some t → t.Valid

theorem codec_yields : codec.Yields Valid := by
  refine Record.Yields.codec (.seq (.seq (.seq (.seq (.map (Q := fun _ => True) .any ?_) .any) .any)
    .any) (.optional (Codec.instant_yields _)))
  exact fun _ _ _ _ _ _ _ _ _ h => h

theorem codec_writes : codec.Writes Valid :=
  Record.Writes.codec (.seq (.seq (.seq (.seq (.map
    (.required Codec.string_writes fun _ _ => trivial) _)
    (.required ConditionStatus.codec_writes fun _ _ => trivial))
    (.defaulted Codec.string_writes fun _ _ => trivial))
    (.defaulted Codec.string_writes fun _ _ => trivial))
    (.optional (Codec.instant_writes _) fun _ _ _ _ => trivial))

theorem codec_restores : codec.Restores Valid :=
  Record.Restores.codec (.seq (.seq (.seq (.seq (.map
    (.required Codec.string_restores fun _ _ => trivial) _)
    (.required ConditionStatus.codec_restores fun _ _ => trivial))
    (.defaulted Codec.string_restores fun _ _ => trivial))
    (.defaulted Codec.string_restores fun _ _ => trivial))
    (.optional (fun t _ => Codec.instant_writes _ t trivial) Codec.instant_restores
      fun _ hc => hc)) (by decide)

/-! ## Recording a condition -/

/-- Only the time of a condition gets another value when it is settled. -/
theorem settle_eq (previous c : Condition) :
    ∃ t, settle previous c = { c with lastTransitionTime := t } := by
  unfold settle
  split
  · exact ⟨_, rfl⟩
  · exact ⟨c.lastTransitionTime, rfl⟩

@[simp] theorem settle_type (previous c : Condition) : (settle previous c).type = c.type := by
  obtain ⟨t, h⟩ := settle_eq previous c
  rw [h]

/-- What is found of the type after `c` is recorded. -/
def recorded (conditions : List Condition) (c : Condition) : Condition :=
  match find? conditions c.type with
  | some previous => settle previous c
  | none => c

theorem recorded_eq (conditions : List Condition) (c : Condition) :
    ∃ t, recorded conditions c = { c with lastTransitionTime := t } := by
  unfold recorded
  split
  · exact settle_eq _ c
  · exact ⟨c.lastTransitionTime, rfl⟩

/-- A condition is given the time of the one before when it has the same status. -/
theorem recorded_of_kept {conditions : List Condition} {c p : Condition}
    (h : find? conditions c.type = some p) (hstatus : p.status = c.status) :
    recorded conditions c = { c with lastTransitionTime := p.lastTransitionTime } := by
  simp [recorded, h, settle, hstatus]

/-- A condition that is new, or that has got another status, keeps its own time. -/
theorem recorded_of_arisen {conditions : List Condition} {c : Condition}
    (h : ∀ p, find? conditions c.type = some p → p.status ≠ c.status) :
    recorded conditions c = c := by
  cases hfind : find? conditions c.type with
  | none => simp [recorded, hfind]
  | some p => simp [recorded, hfind, settle, h p hfind]

theorem find?_cons (d : Condition) (rest : List Condition) (type : String) :
    find? (d :: rest) type = if d.type = type then some d else find? rest type := by
  by_cases h : d.type = type <;> simp [find?, h]

/-- Where the first condition of a type stands, or a new one of this type comes to stand. -/
def place (conditions : List Condition) (type : String) : Nat :=
  conditions.findIdx fun c => c.type = type

theorem place_cons (d : Condition) (rest : List Condition) (type : String) :
    place (d :: rest) type = if d.type = type then 0 else place rest type + 1 := by
  by_cases h : d.type = type <;> simp [place, List.findIdx_cons, h]

theorem getElem?_place (conditions : List Condition) (type : String) :
    conditions[place conditions type]? = find? conditions type :=
  List.find?_eq_getElem?_findIdx.symm

theorem place_put (c : Condition) (conditions : List Condition) :
    place (put c conditions) c.type = place conditions c.type := by
  induction conditions with
  | nil => simp [put, place]
  | cons d rest ih => by_cases hd : d.type = c.type <;> simp [put, place_cons, hd, ih]

/-- Only at the place of its type does another condition stand after `c` is recorded. Types can be
repeated, so it is by their positions that the others are said to stay. -/
theorem getElem?_put (c : Condition) (conditions : List Condition) (i : Nat) :
    (put c conditions)[i]? =
      if i = place conditions c.type then some (recorded conditions c) else conditions[i]? := by
  induction conditions generalizing i with
  | nil => cases i <;> simp [put, place, recorded, find?]
  | cons d rest ih =>
    by_cases hd : d.type = c.type
    · cases i <;> simp [put, place_cons, recorded, find?_cons, hd]
    · cases i <;> simp [put, place_cons, recorded, find?_cons, hd, ih]

theorem find?_put (c : Condition) (conditions : List Condition) :
    find? (put c conditions) c.type = some (recorded conditions c) := by
  rw [← getElem?_place, place_put, getElem?_put, if_pos rfl]

theorem length_put (c : Condition) (conditions : List Condition) :
    (put c conditions).length =
      conditions.length + if find? conditions c.type = none then 1 else 0 := by
  induction conditions with
  | nil => simp [put, find?]
  | cons d rest ih =>
    by_cases hd : d.type = c.type
    · simp [put, find?_cons, hd]
    · simp only [put, find?_cons, hd, if_false, List.length_cons, ih]
      omega

theorem mem_put {c d : Condition} {conditions : List Condition} (h : d ∈ put c conditions) :
    d = recorded conditions c ∨ d ∈ conditions := by
  obtain ⟨i, hi⟩ := List.mem_iff_getElem?.1 h
  rw [getElem?_put] at hi
  split at hi
  · exact .inl (Option.some.inj hi).symm
  · exact .inr (List.mem_of_getElem? hi)

/-- The conditions of other types stay as they are and in their order. -/
theorem filter_put (c : Condition) (conditions : List Condition) :
    (put c conditions).filter (·.type ≠ c.type) = conditions.filter (·.type ≠ c.type) := by
  induction conditions with
  | nil => simp [put]
  | cons d rest ih =>
    by_cases hd : d.type = c.type
    · simp [put, hd]
    · simpa [put, hd] using ih

theorem put_of_settled {c previous : Condition} {conditions : List Condition}
    (h : find? conditions c.type = some previous) (hs : settle previous c = previous) :
    put c conditions = conditions := by
  have hrecorded : recorded conditions c = previous := by simp [recorded, h, hs]
  refine List.ext_getElem? fun i => ?_
  rw [getElem?_put]
  split
  · next hi => rw [hi, getElem?_place, h, hrecorded]
  · rfl

theorem set_snd (conditions : List Condition) (c : Condition) :
    (set conditions c).2 = put c conditions := by
  unfold set
  split <;> rfl

theorem set_fst_eq_false {conditions : List Condition} {c : Condition} :
    (set conditions c).1 = false ↔
      ∃ previous, find? conditions c.type = some previous ∧ settle previous c = previous := by
  unfold set
  cases find? conditions c.type <;> simp

/-- What does not change the list leaves it as it is. -/
theorem put_of_unchanged {conditions : List Condition} {c : Condition}
    (h : (set conditions c).1 = false) : put c conditions = conditions := by
  obtain ⟨previous, hf, hs⟩ := set_fst_eq_false.1 h
  exact put_of_settled hf hs

theorem settle_recorded (conditions : List Condition) (c : Condition) (t : Option Instant) :
    settle (recorded conditions c) { c with lastTransitionTime := t } =
      recorded conditions c := by
  obtain ⟨t', h⟩ := recorded_eq conditions c
  rw [h]
  simp [settle]

/-- Recording the same again at another time changes nothing. -/
theorem set_put (conditions : List Condition) (c : Condition) (t : Option Instant) :
    (set (put c conditions) { c with lastTransitionTime := t }).1 = false :=
  set_fst_eq_false.2 ⟨_, find?_put c conditions, settle_recorded conditions c t⟩

/-- The flag says whether the list changed. -/
theorem put_eq_iff {conditions : List Condition} {c : Condition} :
    put c conditions = conditions ↔ (set conditions c).1 = false := by
  refine ⟨fun h => ?_, put_of_unchanged⟩
  have := set_put conditions c c.lastTransitionTime
  rwa [h] at this

theorem set_fst_eq_true {conditions : List Condition} {c : Condition} :
    (set conditions c).1 = true ↔ put c conditions ≠ conditions := by
  rw [Ne, put_eq_iff, Bool.not_eq_false]

/-- Recording the same again at another time leaves the list as it is and says so. -/
theorem set_put_eq (conditions : List Condition) (c : Condition) (t : Option Instant) :
    set (put c conditions) { c with lastTransitionTime := t } = (false, put c conditions) :=
  have hunchanged := set_put conditions c t
  Prod.ext hunchanged ((set_snd _ _).trans (put_of_unchanged hunchanged))

/-- Only the first condition of a type is another one, or comes last if there was none. -/
inductive Revised (type : String) : List Condition → List Condition → Prop
  | first (before after : List Condition) (c d : Condition) (hbefore : ∀ b ∈ before, b.type ≠ type)
    (hc : c.type = type) (hd : d.type = type) :
    Revised type (before ++ c :: after) (before ++ d :: after)
  | last (conditions : List Condition) (d : Condition) (hother : ∀ b ∈ conditions, b.type ≠ type)
    (hd : d.type = type) : Revised type conditions (conditions ++ [d])

/-- A condition of another type in front makes no difference. -/
theorem Revised.cons {type : String} {b : Condition} (hb : b.type ≠ type)
    {conditions conditions' : List Condition} (h : Revised type conditions conditions') :
    Revised type (b :: conditions) (b :: conditions') := by
  cases h with
  | first before after c d hbefore hc hd =>
    exact .first (b :: before) after c d (List.forall_mem_cons.2 ⟨hb, hbefore⟩) hc hd
  | last _ d hother hd => exact .last (b :: conditions) d (List.forall_mem_cons.2 ⟨hb, hother⟩) hd

theorem revised_put (c : Condition) (conditions : List Condition) :
    Revised c.type conditions (put c conditions) := by
  induction conditions with
  | nil => exact .last [] c (fun _ hb => nomatch hb) rfl
  | cons d rest ih =>
    by_cases hd : d.type = c.type
    · simp only [put, hd, if_true]
      exact .first [] rest d (settle d c) (fun _ hb => nomatch hb) hd (settle_type d c)
    · simp only [put, hd, if_false]
      exact ih.cons hd

/-- What a condition says; when it came to hold is not part of it. -/
def Says (status : ConditionStatus) (reason message : String) (c : Condition) : Prop :=
  c.status = status ∧ c.reason = reason ∧ c.message = message

instance (status : ConditionStatus) (reason message : String) (c : Condition) :
    Decidable (c.Says status reason message) :=
  inferInstanceAs (Decidable (_ ∧ _ ∧ _))

/-- A condition is left as it is when what it says is what is recorded. -/
theorem settle_eq_self {previous c : Condition} (h : previous.type = c.type) :
    settle previous c = previous ↔ previous.Says c.status c.reason c.message := by
  unfold settle Says
  cases previous
  cases c
  simp only at h
  split <;> simp_all [eq_comm]

theorem says_recorded (conditions : List Condition) (c : Condition) :
    (recorded conditions c).Says c.status c.reason c.message := by
  obtain ⟨t, h⟩ := recorded_eq conditions c
  rw [h]
  exact ⟨rfl, rfl, rfl⟩

/-- Nothing changes when the first condition of the type says it already. -/
theorem set_fst_eq_false_iff_says {conditions : List Condition} {c : Condition} :
    (set conditions c).1 = false ↔
      ∃ d ∈ find? conditions c.type, d.Says c.status c.reason c.message := by
  refine set_fst_eq_false.trans (exists_congr fun d => and_congr_right fun hd => ?_)
  exact settle_eq_self (by simpa using List.find?_some hd)

/-- Recording a condition reports its change and confines it. The flag says whether the list is
another one. Where the first condition of the type stood, or else at the end, the first one of the
type stands again: it says what was recorded, with the time of the one before if that had the same
status and with its own time otherwise. At all other places the list is as it was, and it is longer
by one just when there was no condition of the type. Recording the same again, whatever its time,
changes nothing and says so. -/
theorem recording_confined (conditions : List Condition) (c : Condition) :
    let after := (set conditions c).2
    ((set conditions c).1 = true ↔ after ≠ conditions) ∧
    place after c.type = place conditions c.type ∧
    (∃ d, find? after c.type = some d ∧ d.Says c.status c.reason c.message ∧
      (∀ p, find? conditions c.type = some p → p.status = c.status →
        d.lastTransitionTime = p.lastTransitionTime) ∧
      ((∀ p, find? conditions c.type = some p → p.status ≠ c.status) →
        d.lastTransitionTime = c.lastTransitionTime)) ∧
    (∀ i, i ≠ place conditions c.type → after[i]? = conditions[i]?) ∧
    after.length = conditions.length + (if find? conditions c.type = none then 1 else 0) ∧
    ∀ t, set after { c with lastTransitionTime := t } = (false, after) := by
  intro after
  have hafter : after = put c conditions := set_snd conditions c
  rw [hafter]
  refine ⟨set_fst_eq_true, place_put c conditions,
    ⟨_, find?_put c conditions, says_recorded conditions c, fun p hp hstatus => ?kept,
      fun hnew => ?arisen⟩,
    fun i hi => ?frame, length_put c conditions, set_put_eq conditions c⟩
  case kept => rw [recorded_of_kept hp hstatus]
  case arisen => rw [recorded_of_arisen hnew]
  case frame => rw [getElem?_put, if_neg hi]

/-- Of two conditions of one type the first is recorded anew, and keeps its time. -/
example :
    let synced : Condition := ⟨"Synced", .holds, "", "", none⟩
    let stale : Condition := ⟨"Ready", .holds, "Ready", "", some ⟨5, 0⟩⟩
    let ready (reason : String) (t : Instant) : Condition :=
      ⟨"Ready", .fails, reason, "", some t⟩
    set [synced, ready "BackendPending" ⟨10, 0⟩, stale] (ready "InventoryNotReady" ⟨20, 0⟩) =
      (true, [synced, ready "InventoryNotReady" ⟨10, 0⟩, stale]) := by
  decide +kernel

/-- Of the recorded type the condition has the status that was recorded. -/
theorem isTrue_put (c : Condition) (conditions : List Condition) :
    isTrue (put c conditions) c.type = decide (c.status = .holds) := by
  obtain ⟨t, h⟩ := recorded_eq conditions c
  rw [isTrue, find?_put, h]

/-! ## Conditions of one type and status -/

/-- The first of the conditions that has the type and the status of `c`. -/
def alike? (conditions : List Condition) (c : Condition) : Option Condition :=
  conditions.find? fun p => p.type = c.type ∧ p.status = c.status

theorem alike?_congr {c d : Condition} (htype : d.type = c.type) (hstatus : d.status = c.status)
    (conditions : List Condition) : alike? conditions d = alike? conditions c := by
  simp only [alike?, htype, hstatus]

theorem alike_of_alike? {conditions : List Condition} {c d : Condition}
    (h : alike? conditions c = some d) : d.type = c.type ∧ d.status = c.status := by
  simpa using List.find?_some h

/-- The first condition like another one is the first like itself. -/
theorem alike?_self {conditions : List Condition} {c d : Condition}
    (h : alike? conditions c = some d) : alike? conditions d = some d := by
  obtain ⟨htype, hstatus⟩ := alike_of_alike? h
  rwa [alike?_congr htype hstatus]

theorem exists_alike? {conditions : List Condition} {c : Condition} (hc : c ∈ conditions) :
    ∃ d, alike? conditions c = some d :=
  Option.isSome_iff_exists.1 (List.find?_isSome.2 ⟨c, hc, by simp⟩)

/-- A condition that repeats none before it is the first like itself. -/
theorem alike?_of_pairwise {P : Condition → Prop} {conditions : List Condition}
    (h : conditions.Pairwise fun c d => P d → ¬ (c.type = d.type ∧ c.status = d.status))
    {c : Condition} (hc : c ∈ conditions) (hP : P c) : alike? conditions c = some c := by
  induction conditions with
  | nil => cases hc
  | cons d rest ih =>
    obtain ⟨hd, hrest⟩ := List.pairwise_cons.1 h
    rcases List.mem_cons.1 hc with rfl | hc
    · exact List.find?_cons_of_pos (by simp)
    · refine Eq.trans (List.find?_cons_of_neg ?_) (ih hrest hc)
      simpa using hd c hc hP

theorem Valid.settle {previous c : Condition} (hp : previous.Valid) (hc : c.Valid) :
    (settle previous c).Valid := by
  unfold Condition.settle
  split
  · exact hp
  · exact hc

theorem Valid.put {c : Condition} {conditions : List Condition} (hc : c.Valid)
    (h : ∀ d ∈ conditions, d.Valid) : ∀ d ∈ put c conditions, d.Valid := by
  intro d hd
  rcases mem_put hd with rfl | hmem
  · unfold recorded
    split
    · next p hp => exact (h p (List.mem_of_find?_eq_some hp)).settle hc
    · exact hc
  · exact h d hmem

end Condition

end ControlPlane
