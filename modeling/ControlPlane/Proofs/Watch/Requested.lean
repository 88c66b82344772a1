import ControlPlane.Proofs.Watch.Registry
import Mathlib.Data.List.Infix

/-!
# What a watch was started with

A watch goes on as long as some provider uses its kind, and a kind is identified without its plural.
So while it goes on, it is the watch of the resource that was asked for when the kind came into use:
what is asked for later under another plural is not watched.
-/

namespace ControlPlane

/-- Resources of one key are the same if they agree in all but the `apiVersion`. -/
theorem ApiResource.eq_of_key {r r' : ApiResource} (hkey : r.key = r'.key)
    (hgroup : r.group = r'.group) (hversion : r.version = r'.version) (hkind : r.kind = r'.kind)
    (hplural : r.plural = r'.plural) : r = r' := by
  have happend (r : ApiResource) : r.key = r.apiVersion ++ "/" ++ r.kind := rfl
  rw [happend, happend, hkind, ← String.toList_inj] at hkey
  have hsame : r.apiVersion = r'.apiVersion := String.toList_inj.1 (by simpa using hkey)
  cases r
  cases r'
  simp_all

namespace WatchEvent

variable {events : List WatchEvent} {resource resource' : ApiResource}

/-- Some provider uses the kind. -/
def InUse (events : List WatchEvent) (key : String) : Prop :=
  ∃ p, latestKind? events p = some key

/-- The kind of this resource has been in use without a break since it was asked for as this
resource, and had not been in use just before. -/
def OpenedAs (events : List WatchEvent) (resource : ApiResource) : Prop :=
  ∃ before provider rest, events = before ++ .call provider resource :: rest ∧
    ¬ InUse before resource.key ∧
    ∀ between, between <+: rest → InUse (before ++ .call provider resource :: between) resource.key

theorem inUse_call (events : List WatchEvent) (provider : String) (resource : ApiResource) :
    InUse (events ++ [.call provider resource]) resource.key :=
  ⟨provider, by simp [latestKind?_append, kindFor?]⟩

namespace OpenedAs

/-- A kind that was not in use is opened by the call that asks for it. -/
theorem call (h : ¬ InUse events resource.key) (provider : String) :
    OpenedAs (events ++ [.call provider resource]) resource := by
  refine ⟨events, provider, [], rfl, h, fun between hbetween => ?_⟩
  rw [List.prefix_nil.1 hbetween]
  exact inUse_call events provider resource

/-- As long as the kind is in use, it is so since the same call. -/
theorem concat (h : OpenedAs events resource) {e : WatchEvent}
    (huse : InUse (events ++ [e]) resource.key) : OpenedAs (events ++ [e]) resource := by
  obtain ⟨before, provider, rest, rfl, hunused, hused⟩ := h
  refine ⟨before, provider, rest ++ [e], by simp, hunused, fun between hbetween => ?_⟩
  rcases List.prefix_concat_iff.1 hbetween with rfl | hbetween
  · simpa using huse
  · exact hused between hbetween

theorem exists_call (h : OpenedAs events resource) :
    ∃ provider, .call provider resource ∈ events := by
  obtain ⟨before, provider, rest, rfl, -⟩ := h
  exact ⟨provider, by simp⟩

/-- A kind is opened as one resource only. -/
theorem unique (h : OpenedAs events resource) (h' : OpenedAs events resource')
    (hkey : resource.key = resource'.key) : resource = resource' := by
  obtain ⟨before, provider, rest, hevents, hunused, hused⟩ := h
  obtain ⟨before', provider', rest', hevents', hunused', hused'⟩ := h'
  wlog hlength : before.length ≤ before'.length generalizing before provider rest before' provider'
    rest' resource resource'
  · exact (this hkey.symm before' provider' rest' hevents' hunused' hused' before provider rest
      hevents hunused hused (by omega)).symm
  rw [hevents] at hevents'
  obtain ⟨gap, rfl, hrest⟩ | ⟨gap, rfl, hrest⟩ := List.append_eq_append_iff.1 hevents'
  · cases gap with
    | nil =>
      obtain ⟨heq, -⟩ := List.cons.inj hrest
      injection heq
    | cons e gap =>
      -- The kind would be in use before the second of the calls, since the first.
      obtain ⟨rfl, htail⟩ := List.cons.inj hrest
      refine (hunused' ?_).elim
      rw [← hkey]
      exact hused gap ⟨_, htail.symm⟩
  · rw [List.length_append] at hlength
    obtain rfl : gap = [] := List.length_eq_zero_iff.1 (by omega)
    obtain ⟨heq, -⟩ := List.cons.inj hrest
    injection heq.symm

end OpenedAs

/-- These calls, one after another. -/
def ofCalls (calls : List (String × ApiResource)) : List WatchEvent :=
  calls.map fun c => .call c.1 c.2

end WatchEvent

namespace WatchRegistry

open WatchEvent

variable {calls : List (String × ApiResource)} {t : WatchTask} {i : Nat}

/-- The kind of a task that runs is in use. -/
theorem inUse_of_running {events : List WatchEvent} (hi : (after events).tasks[i]? = some t)
    (ht : t.state = .running) : InUse events t.resource.key := by
  obtain ⟨-, hserves⟩ := serves_after events
  obtain ⟨reg, hreg, -⟩ := (hserves.kinds _).running i t hi rfl ht
  obtain ⟨hsome, -, hmem⟩ := (hserves.kinds _).providers reg hreg
  obtain ⟨p, hp⟩ := List.exists_mem_of_ne_nil _ hsome
  exact ⟨p, (hmem p).1 hp⟩

/-- No task comes to its end by itself among calls only. -/
theorem not_ended (hi : (after (ofCalls calls)).tasks[i]? = some t) : t.state ≠ .ended := by
  intro hended
  obtain ⟨c, -, hc⟩ := List.mem_map.1 (finish_of_ended hi hended)
  cases hc

theorem ofCalls_concat (calls : List (String × ApiResource)) (provider : String)
    (resource : ApiResource) :
    ofCalls (calls ++ [(provider, resource)]) = ofCalls calls ++ [.call provider resource] := by
  simp [ofCalls]

/-- A task that runs was started when its kind came into use, with the resource that was asked for
then. -/
theorem openedAs_of_running (hi : (after (ofCalls calls)).tasks[i]? = some t)
    (ht : t.state = .running) : OpenedAs (ofCalls calls) t.resource := by
  induction calls using List.reverseRecOn with
  | nil => cases hi
  | append_singleton calls c ih =>
    obtain ⟨provider, resource⟩ := c
    obtain ⟨hby, hserves⟩ := serves_after (ofCalls calls)
    have huse := inUse_of_running hi ht
    rw [ofCalls_concat] at hi huse ⊢
    rw [after_append] at hi
    have hensured := (hserves.ensure hby provider resource).1
    rcases hensured.task_cases hi with hold | hstate | ⟨hflag, rfl⟩
    · exact (ih hold).concat huse
    · cases hstate.symm.trans ht
    · -- A task is only started where the kind has no entry, since none has come to its end.
      refine .call (fun ⟨p, hp⟩ => ?_) provider
      obtain ⟨reg, hreg⟩ := (hserves.kinds resource.key).used p hp
      rcases hensured.flag_iff.1 hflag with hnone | ⟨reg', u, -, hu, hended⟩
      · cases hreg.symm.trans hnone
      · exact not_ended hu hended

/-- After calls only, a task runs for the kind that was asked for last. It watches the resource as
which the kind came into use. That is the resource that was asked for last just if the kind came
into use as this one, and certainly so where the kind is always asked for as one resource. -/
theorem watched_as_opened (calls : List (String × ApiResource)) (provider : String)
    (resource : ApiResource) :
    let events := ofCalls (calls ++ [(provider, resource)])
    ∃ reg t, (after events).byType.get? resource.key = some reg ∧ provider ∈ reg.providers ∧
      (after events).tasks[reg.task]? = some t ∧ t.state = .running ∧
      OpenedAs events t.resource ∧
      (t.resource.group = resource.group ∧ t.resource.version = resource.version ∧
        t.resource.kind = resource.kind ∧ t.resource.plural = resource.plural ↔
          OpenedAs events resource) ∧
      ((∀ c ∈ calls, c.2.key = resource.key → c.2 = resource) → t.resource = resource) := by
  intro events
  obtain ⟨-, hserves⟩ := serves_after events
  have hprovider : latestKind? events provider = some resource.key := by
    simp [events, ofCalls_concat, latestKind?_append, kindFor?]
  obtain ⟨reg, hreg⟩ := (hserves.kinds resource.key).used provider hprovider
  obtain ⟨-, -, hmem⟩ := (hserves.kinds resource.key).providers reg hreg
  obtain ⟨t, ht, hkey, hstate⟩ := (hserves.kinds resource.key).task reg hreg
  have hrunning : t.state = .running := by
    cases h : t.state with
    | running => rfl
    | ended => exact (not_ended ht h).elim
    | aborted => exact (hstate h).elim
  have hopened := openedAs_of_running ht hrunning
  refine ⟨reg, t, hreg, (hmem provider).2 hprovider, ht, hrunning, hopened, ⟨?_, fun h => ?_⟩,
    fun hone => ?_⟩
  · rintro ⟨hgroup, hversion, hkind, hplural⟩
    exact ApiResource.eq_of_key hkey hgroup hversion hkind hplural ▸ hopened
  · obtain rfl := hopened.unique h hkey
    exact ⟨rfl, rfl, rfl, rfl⟩
  · obtain ⟨p, hp⟩ := hopened.exists_call
    obtain ⟨c, hc, hcall⟩ := List.mem_map.1 hp
    injection hcall with _ hresource
    rw [← hresource] at hkey ⊢
    rcases List.mem_append.1 hc with hc | hc
    · exact hone c hc hkey
    · rw [List.mem_singleton.1 hc]

/-- A kind is watched under the plural that its name tells, also once it is known that it is served
under another one. -/
theorem watched_as_guessed :
    let guessed := ApiResource.ofKind "db.dev/v1" "DatabaseIndex"
    let found := { guessed with plural := "databaseindices" }
    let r := after (ofCalls [("crunchy", guessed), ("crunchy", found)])
    ∃ reg t, r.byType.get? found.key = some reg ∧ r.tasks[reg.task]? = some t ∧
      t.state = .running ∧ t.resource.plural = "databaseindexes" ∧
      t.resource.plural ≠ found.plural := by
  intro guessed found r
  have hguessed : guessed.plural = "databaseindexes" := by decide
  refine ⟨⟨0, ["crunchy"]⟩, ⟨guessed, .running⟩, by decide, by decide, rfl, hguessed, ?_⟩
  rw [hguessed]
  decide

end WatchRegistry

end ControlPlane
