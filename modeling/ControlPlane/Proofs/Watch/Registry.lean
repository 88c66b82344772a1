import ControlPlane.Proofs.Dict
import ControlPlane.Watch.Registry
import Mathlib.Data.List.Induction

/-!
# The registry follows the calls

A registry is determined by what each provider asked for last. `Serves uses` says that the kinds on
record are those that `uses` gives to some provider, that every kind on record has a task which
nobody has stopped, and that no other tasks run. Releasing a kind and recording one keep this, so
that it holds after every history of calls and of tasks that came to their end.
-/

namespace ControlPlane

/-- What happens to a registry: a provider asks for a kind, or a task comes to its end by itself. -/
inductive WatchEvent where
  | call (provider : String) (resource : ApiResource)
  | finish (task : Nat)

namespace WatchEvent

/-- The kind that the provider asks for, if this is a call for it. -/
def kindFor? (provider : String) : WatchEvent → Option String
  | call p resource => if p = provider then some resource.key else none
  | finish _ => none

/-- The kind that the provider asked for in its latest call. -/
def latestKind? (events : List WatchEvent) (provider : String) : Option String :=
  events.reverse.findSome? (kindFor? provider)

theorem latestKind?_append (events : List WatchEvent) (e : WatchEvent) (provider : String) :
    latestKind? (events ++ [e]) provider =
      (e.kindFor? provider).or (latestKind? events provider) := by
  unfold latestKind?
  rw [List.reverse_append, List.reverse_singleton, List.singleton_append, List.findSome?_cons]
  cases e.kindFor? provider <;> rfl

end WatchEvent

namespace WatchRegistry

def step (r : WatchRegistry) : WatchEvent → WatchRegistry
  | .call provider resource => (r.ensure provider resource).2
  | .finish i => r.finish i

/-- A new registry after these events. -/
def after (events : List WatchEvent) : WatchRegistry := events.foldl step {}

variable {r : WatchRegistry} {uses : String → Option String} {provider key : String}
  {resource : ApiResource} {tasks : List WatchTask} {t : WatchTask} {i j : Nat}

/-! ## Tasks -/

theorem getElem?_stop (tasks : List WatchTask) (i : Nat) (s : TaskState) (j : Nat) :
    (stop tasks i s)[j]? =
      if i = j then tasks[j]?.map fun t => if t.state = .running then { t with state := s } else t
      else tasks[j]? := by
  unfold stop
  rw [List.getElem?_modify]
  split <;> simp

theorem getElem?_stop_of_ne (h : i ≠ j) (tasks : List WatchTask) (s : TaskState) :
    (stop tasks i s)[j]? = tasks[j]? := by
  rw [getElem?_stop, if_neg h]

/-- After it was stopped a task does not run. -/
theorem not_running_stop {s : TaskState} (hs : s ≠ .running)
    (h : (stop tasks i s)[i]? = some t) : t.state ≠ .running := by
  rw [getElem?_stop, if_pos rfl] at h
  obtain ⟨u, -, rfl⟩ := Option.map_eq_some_iff.1 h
  split <;> assumption

theorem isRunning_iff : isRunning tasks i = true ↔ ∃ t, tasks[i]? = some t ∧ t.state = .running := by
  unfold isRunning
  cases tasks[i]? <;> simp

/-- The tasks that were there are left as they are, or are aborted while they run. -/
def OnlyAborts (tasks tasks' : List WatchTask) : Prop :=
  ∀ (i : Nat) (t : WatchTask), tasks[i]? = some t → tasks'[i]? = some t ∨
    t.state = .running ∧ tasks'[i]? = some { t with state := .aborted }

theorem OnlyAborts.refl (tasks : List WatchTask) : OnlyAborts tasks tasks := fun _ _ h => .inl h

theorem OnlyAborts.trans {tasks tasks' tasks'' : List WatchTask} (h : OnlyAborts tasks tasks')
    (h' : OnlyAborts tasks' tasks'') : OnlyAborts tasks tasks'' := by
  intro i t hi
  rcases h i t hi with hsame | ⟨ht, hstopped⟩
  · exact h' i t hsame
  · rcases h' i _ hstopped with hsame | ⟨hrunning, -⟩
    · exact .inr ⟨ht, hsame⟩
    · cases hrunning

theorem onlyAborts_stop (tasks : List WatchTask) (i : Nat) :
    OnlyAborts tasks (stop tasks i .aborted) := by
  intro j t h
  by_cases hij : i = j
  · rw [getElem?_stop, if_pos hij, h]
    by_cases ht : t.state = .running
    · exact .inr ⟨ht, by simp [ht]⟩
    · exact .inl (by simp [ht])
  · exact .inl ((getElem?_stop_of_ne hij tasks _).trans h)

theorem onlyAborts_start (tasks : List WatchTask) (resource : ApiResource) :
    OnlyAborts tasks (start tasks resource) := by
  intro i t hi
  obtain ⟨hlt, -⟩ := List.getElem?_eq_some_iff.1 hi
  rw [start, List.getElem?_append_left hlt]
  exact .inl hi

/-- The lists have the same tasks of the kind at the same places. -/
def SameTasks (key : String) (tasks tasks' : List WatchTask) : Prop :=
  ∀ (i : Nat) (t : WatchTask), t.resource.key = key → (tasks'[i]? = some t ↔ tasks[i]? = some t)

theorem sameTasks_stop {s : TaskState} (hi : tasks[i]? = some t) (hkey : t.resource.key ≠ key) :
    SameTasks key tasks (stop tasks i s) := by
  intro j u hu
  by_cases hij : i = j
  · subst hij
    have hne {v : WatchTask} (hv : v.resource = t.resource) : v ≠ u := by
      rintro rfl
      exact hkey (hv ▸ hu)
    rw [getElem?_stop, if_pos rfl, hi, Option.map_some, Option.some.injEq, Option.some.injEq]
    refine ⟨fun h => (hne ?_ h).elim, fun h => (hne rfl h).elim⟩
    split <;> rfl
  · rw [getElem?_stop_of_ne hij]

theorem sameTasks_start (hkey : resource.key ≠ key) :
    SameTasks key tasks (start tasks resource) := by
  intro i t ht
  rw [start, List.getElem?_append]
  split
  · rfl
  · next hi =>
    have hnone : tasks[i]? = none := List.getElem?_eq_none (Nat.le_of_not_lt hi)
    rw [hnone, List.getElem?_singleton]
    refine ⟨fun h => ?_, nofun⟩
    split at h
    · obtain rfl := Option.some.inj h
      exact (hkey ht).elim
    · cases h

/-! ## What a registry serves -/

/-- What is on record for a kind is right: there is an entry when a provider uses the kind, it lists
the providers that do, and its task is the only one of the kind that may run. -/
structure Served (uses : String → Option String) (tasks : List WatchTask) (key : String)
    (entry : Option Registration) : Prop where
  used : ∀ p, uses p = some key → ∃ reg, entry = some reg
  providers : ∀ reg, entry = some reg →
    reg.providers ≠ [] ∧ reg.providers.Nodup ∧ ∀ p, p ∈ reg.providers ↔ uses p = some key
  task : ∀ reg, entry = some reg →
    ∃ t, tasks[reg.task]? = some t ∧ t.resource.key = key ∧ t.state ≠ .aborted
  running : ∀ (i : Nat) t, tasks[i]? = some t → t.resource.key = key → t.state = .running →
    ∃ reg, entry = some reg ∧ reg.task = i

namespace Served

variable {uses' : String → Option String} {entry : Option Registration} {reg : Registration}
  {tasks' : List WatchTask}

/-- What is on record for a kind stays right when neither its tasks nor its users change. -/
theorem frame (h : Served uses tasks key entry)
    (huses : ∀ p, uses' p = some key ↔ uses p = some key) (htasks : SameTasks key tasks tasks') :
    Served uses' tasks' key entry where
  used p hp := h.used p ((huses p).1 hp)
  providers reg hreg := by
    obtain ⟨hsome, hnodup, hmem⟩ := h.providers reg hreg
    exact ⟨hsome, hnodup, fun p => (hmem p).trans (huses p).symm⟩
  task reg hreg := by
    obtain ⟨t, ht, hkey, hstate⟩ := h.task reg hreg
    exact ⟨t, (htasks _ t hkey).2 ht, hkey, hstate⟩
  running i t hi hkey := h.running i t ((htasks i t hkey).1 hi) hkey

/-- Other providers are listed for the kind. -/
theorem list (h : Served uses tasks key (some reg)) {providers : List String}
    (hsome : providers ≠ []) (hnodup : providers.Nodup)
    (hmem : ∀ p, p ∈ providers ↔ uses' p = some key) :
    Served uses' tasks key (some { reg with providers }) where
  used _ _ := ⟨_, rfl⟩
  providers _ heq := by
    obtain rfl := Option.some.inj heq
    exact ⟨hsome, hnodup, hmem⟩
  task _ heq := by
    obtain rfl := Option.some.inj heq
    exact h.task reg rfl
  running i t hi hkey ht := by
    obtain ⟨_, heq, rfl⟩ := h.running i t hi hkey ht
    obtain rfl := Option.some.inj heq
    exact ⟨_, rfl, rfl⟩

/-- The last provider has gone, and the task is stopped. -/
theorem stopped (h : Served uses tasks key (some reg)) (hnobody : ∀ p, uses' p ≠ some key) :
    Served uses' (stop tasks reg.task .aborted) key none where
  used p hp := (hnobody p hp).elim
  providers := nofun
  task := nofun
  running i t hi hkey ht := by
    by_cases hne : reg.task = i
    · subst hne
      exact (not_running_stop (by decide) hi ht).elim
    · rw [getElem?_stop_of_ne hne] at hi
      obtain ⟨_, heq, htask⟩ := h.running i t hi hkey ht
      exact (hne (Option.some.inj heq ▸ htask)).elim

/-- A task is started for a kind none of whose tasks runs. -/
theorem started (h : ∀ (i : Nat) t, tasks[i]? = some t → t.resource.key = resource.key →
      t.state ≠ .running) {providers : List String} (hsome : providers ≠ [])
    (hnodup : providers.Nodup) (hmem : ∀ p, p ∈ providers ↔ uses' p = some resource.key) :
    Served uses' (start tasks resource) resource.key (some ⟨tasks.length, providers⟩) where
  used _ _ := ⟨_, rfl⟩
  providers _ heq := by
    obtain rfl := Option.some.inj heq
    exact ⟨hsome, hnodup, hmem⟩
  task _ heq := by
    obtain rfl := Option.some.inj heq
    exact ⟨⟨resource, .running⟩, by simp [start], rfl, by simp⟩
  running i t hi hkey ht := by
    refine ⟨_, rfl, ?_⟩
    rw [start, List.getElem?_append] at hi
    split at hi
    · exact (h i t hi hkey ht).elim
    · next hlt =>
      rw [List.getElem?_singleton] at hi
      split at hi
      · next hzero => exact (Nat.le_antisymm (Nat.le_of_not_lt hlt) (Nat.le_of_sub_eq_zero hzero))
      · cases hi

end Served

/-- What is on record is right for every kind, and in order. -/
structure Serves (uses : String → Option String) (r : WatchRegistry) : Prop where
  sorted : r.byType.Sorted
  kinds : ∀ key, Served uses r.tasks key (r.byType.get? key)

namespace Serves

theorem init : Serves (fun _ => none) {} where
  sorted := .nil
  kinds _ := ⟨nofun, nofun, nofun, nofun⟩

/-- Releasing the kind that a provider uses leaves the provider without a kind. -/
theorem release (h : r.Serves uses) (hp : uses provider = some key) :
    (r.release provider key).Serves (Function.update uses provider none) := by
  obtain ⟨reg, hreg⟩ := (h.kinds key).used provider hp
  have hkey := h.kinds key
  rw [hreg] at hkey
  obtain ⟨-, hnodup, hmem⟩ := hkey.providers reg rfl
  have hleft (p : String) : p ∈ reg.providers.filter (· ≠ provider) ↔
      Function.update uses provider none p = some key := by
    by_cases hpp : p = provider <;> simp [hpp, hmem p]
  have hothers {k : String} (hk : key ≠ k) (p : String) :
      Function.update uses provider none p = some k ↔ uses p = some k := by
    by_cases hpp : p = provider
    · subst hpp
      simp [hp, hk]
    · simp [hpp]
  unfold WatchRegistry.release
  simp only [hreg]
  split
  · next hempty =>
    refine ⟨h.sorted.erase key, fun k => ?_⟩
    rw [Dict.get?_erase]
    split
    · next hk =>
      subst hk
      refine hkey.stopped fun p hu => ?_
      rw [← hleft, List.isEmpty_iff.1 hempty] at hu
      cases hu
    · next hk =>
      obtain ⟨t, ht, rfl, -⟩ := hkey.task reg rfl
      exact (h.kinds k).frame (hothers hk) (sameTasks_stop ht hk)
  · next hsome =>
    refine ⟨h.sorted.insert _ _, fun k => ?_⟩
    rw [Dict.get?_insert]
    split
    · next hk =>
      subst hk
      exact hkey.list (fun hnil => hsome (List.isEmpty_iff.2 hnil)) (hnodup.filter _) hleft
    · next hk => exact (h.kinds k).frame (hothers hk) fun _ _ _ => .rfl

end Serves

/-! ## Calls -/

/-- From `r` to `r'` no task is started, and what is on record for the kind stays. -/
structure Spares (key : String) (r r' : WatchRegistry) : Prop where
  entry : r'.byType.get? key = r.byType.get? key
  tasks : SameTasks key r.tasks r'.tasks
  length : r'.tasks.length = r.tasks.length
  aborts : OnlyAborts r.tasks r'.tasks

namespace Serves

/-- Other kinds than the one that is released are spared. -/
theorem release_spares (h : r.Serves uses) {other : String} (hne : other ≠ key) :
    r.Spares key (r.release provider other) := by
  unfold WatchRegistry.release
  cases hreg : r.byType.get? other with
  | none => exact ⟨rfl, fun _ _ _ => .rfl, rfl, .refl _⟩
  | some reg =>
    have hother := h.kinds other
    rw [hreg] at hother
    obtain ⟨t, ht, rfl, -⟩ := hother.task reg rfl
    simp only
    split
    · exact ⟨by rw [Dict.get?_erase, if_neg hne], sameTasks_stop ht hne, List.length_modify ..,
        onlyAborts_stop _ _⟩
    · exact ⟨by rw [Dict.get?_insert, if_neg hne], fun _ _ _ => .rfl, rfl, .refl _⟩

/-- Once the kind that the provider used before is released, the provider uses no kind but the one
that it asks for. -/
theorem assign (h : r.Serves uses) (hby : ∀ p, r.byProvider.get? p = uses p)
    (provider key : String) :
    r.Spares key (r.assign provider key) ∧ ∃ uses', (r.assign provider key).Serves uses' ∧
      (∀ p, p ≠ provider → uses' p = uses p) ∧ ∀ k, uses' provider = some k → k = key := by
  have hkeep (hp : ∀ k, uses provider = some k → k = key) :
      r.Spares key r ∧ ∃ uses', r.Serves uses' ∧
        (∀ p, p ≠ provider → uses' p = uses p) ∧ ∀ k, uses' provider = some k → k = key :=
    ⟨⟨rfl, fun _ _ _ => .rfl, rfl, .refl _⟩, uses, h, fun _ _ => rfl, hp⟩
  -- Which kind is recorded for the provider plays no part here.
  have hrecord (r₁ : WatchRegistry) (h₁ : r.Spares key r₁ ∧ ∃ uses', r₁.Serves uses' ∧
      (∀ p, p ≠ provider → uses' p = uses p) ∧ ∀ k, uses' provider = some k → k = key) :
      let r' : WatchRegistry := { r₁ with byProvider := r₁.byProvider.insert provider key }
      r.Spares key r' ∧ ∃ uses', r'.Serves uses' ∧
        (∀ p, p ≠ provider → uses' p = uses p) ∧ ∀ k, uses' provider = some k → k = key := by
    obtain ⟨⟨hentry, htasks, hlength, haborts⟩, uses', ⟨hsorted, hkinds⟩, huses⟩ := h₁
    exact ⟨⟨hentry, htasks, hlength, haborts⟩, uses', ⟨hsorted, hkinds⟩, huses⟩
  unfold WatchRegistry.assign
  rw [hby]
  cases hp : uses provider with
  | none => exact hrecord r (hkeep fun k hk => by cases hp.symm.trans hk)
  | some previous =>
    by_cases hne : previous ≠ key
    · simp only [hne, ne_eq, not_false_eq_true, if_true]
      refine hrecord (r.release provider previous)
        ⟨h.release_spares hne, _, h.release hp, fun p hpp => ?_, fun k hk => ?_⟩
      · exact Function.update_of_ne hpp _ _
      · simp at hk
    · obtain rfl := Decidable.not_not.1 hne
      simp only [ne_eq, not_true_eq_false, if_false]
      exact hrecord r (hkeep fun k hk => Option.some.inj (hk.symm.trans hp))

end Serves

/-- A call for a kind starts a task for it if `flag`, and does nothing else to the tasks but to
abort some. -/
structure Ensured (r : WatchRegistry) (resource : ApiResource) (flag : Bool) (r' : WatchRegistry) :
    Prop where
  /-- A task is started if the kind has no entry, or its task came to its end. -/
  flag_iff : flag = true ↔ r.byType.get? resource.key = none ∨
    ∃ reg t, r.byType.get? resource.key = some reg ∧ r.tasks[reg.task]? = some t ∧ t.state = .ended
  started : r.started r' = if flag then [⟨resource, .running⟩] else []
  aborts : OnlyAborts r.tasks r'.tasks

/-- A task was there before the call, or the call started it. -/
theorem Ensured.task_cases {flag : Bool} {r' : WatchRegistry} (h : r.Ensured resource flag r')
    (hi : r'.tasks[i]? = some t) :
    r.tasks[i]? = some t ∨ t.state = .aborted ∨ flag = true ∧ t = ⟨resource, .running⟩ := by
  cases hold : r.tasks[i]? with
  | some u =>
    rcases h.aborts i u hold with hsame | ⟨-, hstopped⟩
    · exact .inl (hsame.symm.trans hi)
    · obtain rfl := Option.some.inj (hstopped.symm.trans hi)
      exact .inr (.inl rfl)
  | none =>
    have hnew : t ∈ r.started r' := by
      refine List.mem_of_getElem? (i := i - r.tasks.length) ?_
      rw [WatchRegistry.started, List.getElem?_drop,
        Nat.add_sub_of_le (List.getElem?_eq_none_iff.1 hold)]
      exact hi
    rw [h.started] at hnew
    split at hnew
    · next hflag => exact .inr (.inr ⟨hflag, List.mem_singleton.1 hnew⟩)
    · cases hnew

/-- A task for the kind is started, on behalf of these providers. -/
def launch (r : WatchRegistry) (resource : ApiResource) (providers : List String) :
    WatchRegistry :=
  { r with byType := r.byType.insert resource.key ⟨r.tasks.length, providers⟩
           tasks := start r.tasks resource }

/-- The provider at the end of a list, unless it is on the list. -/
def listed (provider : String) (providers : List String) : List String :=
  if provider ∈ providers then providers else providers ++ [provider]

/-- The second part of a call: the provider is listed for the kind, and the kind is watched. -/
def enlist (r : WatchRegistry) (provider : String) (resource : ApiResource) :
    Bool × WatchRegistry :=
  match r.byType.get? resource.key with
  | some reg =>
    if isRunning r.tasks reg.task then
      (false, { r with byType := r.byType.insert resource.key
                        { reg with providers := listed provider reg.providers } })
    else (true, r.launch resource (listed provider reg.providers))
  | none => (true, r.launch resource [provider])

theorem ensure_eq (r : WatchRegistry) (provider : String) (resource : ApiResource) :
    r.ensure provider resource = (r.assign provider resource.key).enlist provider resource := rfl

theorem started_launch (r : WatchRegistry) (resource : ApiResource) (providers : List String) :
    r.started (r.launch resource providers) = [⟨resource, .running⟩] := by
  simp [started, launch, start]

theorem mem_listed {p : String} {providers : List String} :
    p ∈ listed provider providers ↔ p ∈ providers ∨ p = provider := by
  unfold listed
  split
  · next hp => exact ⟨.inl, fun h => h.elim id fun h => h ▸ hp⟩
  · simp

theorem nodup_listed {providers : List String} (h : providers.Nodup) :
    (listed provider providers).Nodup := by
  unfold listed
  split
  · exact h
  · next hp => exact List.nodup_append.2 ⟨h, by simp, by grind⟩

theorem byProvider_release (r : WatchRegistry) (provider key : String) :
    (r.release provider key).byProvider = r.byProvider := by
  unfold release
  split
  · rfl
  · simp only
    split <;> rfl

theorem byProvider_assign (r : WatchRegistry) (provider key : String) :
    (r.assign provider key).byProvider = r.byProvider.insert provider key := by
  unfold assign
  simp only
  split
  · split
    · rw [byProvider_release]
    · rfl
  · rfl

theorem byProvider_ensure (r : WatchRegistry) (provider : String) (resource : ApiResource) :
    (r.ensure provider resource).2.byProvider = r.byProvider.insert provider resource.key := by
  rw [← byProvider_assign, ensure_eq]
  unfold enlist
  split
  · split <;> rfl
  · rfl

namespace Serves

/-- Where the entry of a kind is right for its new users, and the tasks of other kinds stay, all is
right. -/
theorem enter (h : r.Serves uses) {uses' : String → Option String} {reg : Registration}
    {tasks : List WatchTask} (hkey : Served uses' tasks key (some reg))
    (hothers : ∀ k, key ≠ k → ∀ p, uses' p = some k ↔ uses p = some k)
    (htasks : ∀ k, key ≠ k → SameTasks k r.tasks tasks) :
    Serves uses' { r with byType := r.byType.insert key reg, tasks } where
  sorted := h.sorted.insert _ _
  kinds k := by
    rw [Dict.get?_insert]
    split
    · next hk => exact hk ▸ hkey
    · next hk => exact (h.kinds k).frame (hothers k hk) (htasks k hk)

/-- The task of an entry has come to its end if it does not run. -/
theorem isRunning_or_ended (h : r.Serves uses) {reg : Registration}
    (hreg : r.byType.get? key = some reg) : ∃ t, r.tasks[reg.task]? = some t ∧
      t.resource.key = key ∧ (if isRunning r.tasks reg.task then t.state = .running
        else t.state = .ended) := by
  obtain ⟨t, ht, hkey, hnot⟩ := (h.kinds key).task reg hreg
  refine ⟨t, ht, hkey, ?_⟩
  unfold isRunning
  cases hstate : t.state with
  | running => simp [ht, hstate]
  | ended => simp [ht, hstate]
  | aborted => exact (hnot hstate).elim

/-- A task is started for a kind that no task watches. -/
theorem launch (h : r.Serves uses) {uses' : String → Option String} {providers : List String}
    (hothers : ∀ k, resource.key ≠ k → ∀ p, uses' p = some k ↔ uses p = some k)
    (hidle : ∀ reg, r.byType.get? resource.key = some reg → isRunning r.tasks reg.task = false)
    (hsome : providers ≠ []) (hnodup : providers.Nodup)
    (hmem : ∀ p, p ∈ providers ↔ uses' p = some resource.key) :
    (r.launch resource providers).Serves uses' := by
  refine h.enter (.started ?_ hsome hnodup hmem) hothers fun k hk => sameTasks_start hk
  intro i t hi hkey ht
  obtain ⟨reg, hreg, rfl⟩ := (h.kinds resource.key).running i t hi hkey ht
  have hrunning := isRunning_iff.2 ⟨t, hi, ht⟩
  rw [hidle reg hreg] at hrunning
  cases hrunning

/-- A provider that uses no other kind is enlisted for the one that it asks for. -/
theorem enlist (h : r.Serves uses) (resource : ApiResource)
    (hprovider : ∀ k, uses provider = some k → k = resource.key) :
    r.Ensured resource (r.enlist provider resource).1 (r.enlist provider resource).2 ∧
      (r.enlist provider resource).2.Serves
        (Function.update uses provider (some resource.key)) := by
  have hothers : ∀ k, resource.key ≠ k → ∀ p,
      Function.update uses provider (some resource.key) p = some k ↔ uses p = some k := by
    intro k hk p
    by_cases hp : p = provider
    · subst hp
      simp only [Function.update_self, Option.some.injEq]
      exact ⟨fun h => (hk h).elim, fun h => (hk (hprovider k h).symm).elim⟩
    · rw [Function.update_of_ne hp]
  have husers (p : String) : Function.update uses provider (some resource.key) p =
      some resource.key ↔ uses p = some resource.key ∨ p = provider := by
    by_cases hp : p = provider <;> simp [hp]
  unfold WatchRegistry.enlist
  cases hentry : r.byType.get? resource.key with
  | none =>
    have hmem (p : String) : p ∈ [provider] ↔
        Function.update uses provider (some resource.key) p = some resource.key := by
      rw [husers, List.mem_singleton]
      refine ⟨.inr, fun hp => hp.resolve_left fun hp => ?_⟩
      obtain ⟨_, hreg⟩ := (h.kinds resource.key).used p hp
      cases hentry.symm.trans hreg
    refine ⟨⟨⟨fun _ => .inl hentry, fun _ => rfl⟩, started_launch _ _ _, onlyAborts_start _ _⟩,
      h.launch hothers ?_ (by simp) (by simp) hmem⟩
    exact fun reg hreg => by cases hentry.symm.trans hreg
  | some reg =>
    obtain ⟨t, ht, -, hstate⟩ := h.isRunning_or_ended hentry
    obtain ⟨-, hnodup, hmem⟩ := (h.kinds resource.key).providers reg hentry
    have hmem' (p : String) : p ∈ listed provider reg.providers ↔
        Function.update uses provider (some resource.key) p = some resource.key := by
      rw [mem_listed, husers, hmem]
    have hsome : listed provider reg.providers ≠ [] :=
      List.ne_nil_of_mem (mem_listed.2 (.inr rfl))
    cases hrun : isRunning r.tasks reg.task with
    | true =>
      simp only [hrun, if_true] at hstate ⊢
      refine ⟨⟨⟨(nomatch ·), ?_⟩, List.drop_length, .refl _⟩, ?_⟩
      · rintro (hnone | ⟨reg', u, hreg', hu, hended⟩)
        · cases hentry.symm.trans hnone
        · obtain rfl := Option.some.inj (hentry.symm.trans hreg')
          obtain rfl := Option.some.inj (ht.symm.trans hu)
          cases hstate.symm.trans hended
      · exact h.enter ((hentry ▸ h.kinds resource.key).list hsome (nodup_listed hnodup) hmem')
          hothers fun _ _ _ _ _ => .rfl
    | false =>
      simp only [hrun, Bool.false_eq_true, if_false] at hstate ⊢
      refine ⟨⟨⟨fun _ => .inr ⟨reg, t, hentry, ht, hstate⟩, fun _ => rfl⟩, started_launch _ _ _,
        onlyAborts_start _ _⟩, h.launch hothers ?_ hsome (nodup_listed hnodup) hmem'⟩
      intro reg' hreg'
      obtain rfl := Option.some.inj (hentry.symm.trans hreg')
      exact hrun

/-- What a call does to a registry that spares the kind it also does to the one before. -/
theorem ensured_of_spares {r' r'' : WatchRegistry} (h : r'.Serves uses) {flag : Bool}
    (hspares : r.Spares resource.key r') (hensured : r'.Ensured resource flag r'') :
    r.Ensured resource flag r'' where
  flag_iff := by
    rw [hensured.flag_iff, hspares.entry]
    refine or_congr_right (exists_congr fun reg => exists_congr fun t => and_congr_right ?_)
    intro hreg
    obtain ⟨u, hu, hkey, -⟩ := h.isRunning_or_ended (hspares.entry.trans hreg)
    rw [hu, (hspares.tasks _ u hkey).1 hu]
  started := by
    rw [WatchRegistry.started, ← hspares.length]
    exact hensured.started
  aborts := hspares.aborts.trans hensured.aborts

/-- After a call the provider uses the kind that it asked for. -/
theorem ensure (h : r.Serves uses) (hby : ∀ p, r.byProvider.get? p = uses p) (provider : String)
    (resource : ApiResource) :
    r.Ensured resource (r.ensure provider resource).1 (r.ensure provider resource).2 ∧
      (r.ensure provider resource).2.Serves
        (Function.update uses provider (some resource.key)) := by
  obtain ⟨hspares, uses', hserves, hothers, hprovider⟩ := h.assign hby provider resource.key
  obtain ⟨hensured, henlisted⟩ := hserves.enlist resource hprovider
  refine ⟨hserves.ensured_of_spares hspares hensured, ?_⟩
  have huses : Function.update uses' provider (some resource.key) =
      Function.update uses provider (some resource.key) := by
    funext p
    by_cases hp : p = provider
    · simp [hp]
    · rw [Function.update_of_ne hp, Function.update_of_ne hp, hothers p hp]
  exact huses ▸ henlisted

/-- That a task comes to its end changes nothing that is on record. -/
theorem finish (h : r.Serves uses) (i : Nat) : (r.finish i).Serves uses where
  sorted := h.sorted
  kinds key := by
    have hkey := h.kinds key
    refine ⟨hkey.used, hkey.providers, fun reg hreg => ?_, fun j t hj hk ht => ?_⟩
    · obtain ⟨t, htask, hk, hstate⟩ := hkey.task reg hreg
      simp only [WatchRegistry.finish, getElem?_stop, htask, Option.map_some]
      by_cases hij : i = reg.task
      · by_cases ht : t.state = .running
        · exact ⟨{ t with state := .ended }, by simp [hij, ht], hk, by simp⟩
        · exact ⟨t, by simp [ht], hk, hstate⟩
      · exact ⟨t, by simp [hij], hk, hstate⟩
    · have hij : i ≠ j := by
        rintro rfl
        exact not_running_stop (by decide) hj ht
      exact hkey.running j t ((getElem?_stop_of_ne hij _ _).symm.trans hj) hk ht

end Serves

/-! ## Histories -/

theorem after_append (events : List WatchEvent) (e : WatchEvent) :
    after (events ++ [e]) = (after events).step e := by
  simp [after]

/-- After every history the registry has on record what the providers asked for last. -/
theorem serves_after (events : List WatchEvent) :
    (∀ p, (after events).byProvider.get? p = WatchEvent.latestKind? events p) ∧
      (after events).Serves (WatchEvent.latestKind? events) := by
  induction events using List.reverseRecOn with
  | nil => exact ⟨fun _ => rfl, .init⟩
  | append_singleton events e ih =>
    obtain ⟨hby, hserves⟩ := ih
    rw [after_append]
    cases e with
    | call provider resource =>
      have huses : WatchEvent.latestKind? (events ++ [.call provider resource]) =
          Function.update (WatchEvent.latestKind? events) provider (some resource.key) := by
        funext p
        rw [WatchEvent.latestKind?_append, WatchEvent.kindFor?, Function.update_apply]
        by_cases hp : provider = p
        · simp [hp]
        · simp [hp, Ne.symm hp]
      rw [huses]
      refine ⟨fun p => ?_, (hserves.ensure hby provider resource).2⟩
      rw [step, byProvider_ensure, Dict.get?_insert, hby, Function.update_apply]
      simp only [eq_comm (a := provider)]
    | finish i =>
      have huses : WatchEvent.latestKind? (events ++ [.finish i]) =
          WatchEvent.latestKind? events := by
        funext p
        rw [WatchEvent.latestKind?_append]
        rfl
      rw [huses]
      exact ⟨hby, hserves.finish i⟩

/-- A task is only at its end because it came to it by itself. -/
theorem finish_of_ended {events : List WatchEvent} (hi : (after events).tasks[i]? = some t)
    (ht : t.state = .ended) : .finish i ∈ events := by
  induction events using List.reverseRecOn with
  | nil => cases hi
  | append_singleton events e ih =>
    rw [after_append] at hi
    cases e with
    | call provider resource =>
      refine List.mem_append_left _ (ih ?_)
      obtain ⟨hby, hserves⟩ := serves_after events
      rcases (hserves.ensure hby provider resource).1.task_cases hi with hold | hstate | ⟨-, rfl⟩
      · exact hold
      · cases hstate.symm.trans ht
      · cases ht
    | finish j =>
      by_cases hij : j = i
      · exact List.mem_append_right _ (by simp [hij])
      · exact List.mem_append_left _ (ih ((getElem?_stop_of_ne hij _ _).symm.trans hi))

/-- After every history of calls and of tasks that came to their end, the registry has on record
what the providers asked for last: each kind that is used is watched for just the providers that use
it and by at most one task that runs, and the tasks of a kind that nobody uses are aborted, if they
had not come to their end. A call starts a task where none watches the kind, and only there. -/
theorem registry_follows_calls (events : List WatchEvent) :
    (∀ p, (after events).byProvider.get? p = WatchEvent.latestKind? events p) ∧
    (∀ key, (∃ reg, (after events).byType.get? key = some reg) ↔
      ∃ p, WatchEvent.latestKind? events p = some key) ∧
    (∀ key reg, (after events).byType.get? key = some reg →
      reg.providers ≠ [] ∧ reg.providers.Nodup ∧
        ∀ p, p ∈ reg.providers ↔ WatchEvent.latestKind? events p = some key) ∧
    (after events).watched.Pairwise (· < ·) ∧
    (∀ key, key ∈ (after events).watched ↔ ∃ p, WatchEvent.latestKind? events p = some key) ∧
    (∀ (i j : Nat) t u, (after events).tasks[i]? = some t → (after events).tasks[j]? = some u →
      t.state = .running → u.state = .running → t.resource.key = u.resource.key → i = j) ∧
    (∀ (i : Nat) t, (after events).tasks[i]? = some t →
      (∀ p, WatchEvent.latestKind? events p ≠ some t.resource.key) →
        t.state = .aborted ∨ t.state = .ended ∧ .finish i ∈ events) ∧
    ∀ provider resource, (after events).Ensured resource
      ((after events).ensure provider resource).1 ((after events).ensure provider resource).2 := by
  obtain ⟨hby, hserves⟩ := serves_after events
  have hentry (key : String) : (∃ reg, (after events).byType.get? key = some reg) ↔
      ∃ p, WatchEvent.latestKind? events p = some key := by
    constructor
    · rintro ⟨reg, hreg⟩
      obtain ⟨hsome, -, hmem⟩ := (hserves.kinds key).providers reg hreg
      obtain ⟨p, hp⟩ := List.exists_mem_of_ne_nil _ hsome
      exact ⟨p, (hmem p).1 hp⟩
    · rintro ⟨p, hp⟩
      exact (hserves.kinds key).used p hp
  refine ⟨hby, hentry, fun key reg hreg => (hserves.kinds key).providers reg hreg,
    List.pairwise_map.2 hserves.sorted, fun key => ?_, ?_, ?_,
    fun provider resource => (hserves.ensure hby provider resource).1⟩
  · rw [← hentry, watched, Dict.mem_keys]
  · intro i j t u hi hj ht hu hkey
    obtain ⟨reg, hreg, rfl⟩ := (hserves.kinds _).running i t hi rfl ht
    obtain ⟨reg', hreg', rfl⟩ := (hserves.kinds _).running j u hj rfl hu
    rw [hkey, hreg'] at hreg
    rw [Option.some.inj hreg]
  · intro i t hi hunused
    cases hstate : t.state with
    | running =>
      obtain ⟨p, hp⟩ := (hentry _).1 (((hserves.kinds _).running i t hi rfl hstate).imp
        fun _ h => h.1)
      exact (hunused p hp).elim
    | ended => exact .inr ⟨rfl, finish_of_ended hi hstate⟩
    | aborted => exact .inl rfl

end WatchRegistry

end ControlPlane
