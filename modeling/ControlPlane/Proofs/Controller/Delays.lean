import ControlPlane.Proofs.Controller.Attempts
import Mathlib.Logic.Function.Basic
import Mathlib.Logic.Relation

/-!
# Delays after failures

The controller of a kind of facades makes attempts at many facades at once, at each of them one at
a time. What it counts for a facade follows the attempts at that facade alone, in whatever order the
attempts take their steps, so that the delay after a failure is that of the failures in a row.
-/

namespace ControlPlane

open Controller

/-- An attempt that is in progress: what it has done and what it goes on with. -/
structure Progress where
  past : List Event
  rest : Program Step Step.Reply (Except Error Action × Action)

/-- What has been done about a facade: the attempts that have ended, and one that is in progress. -/
structure Course where
  attempts : List Attempt := []
  current : Option Progress := none

/-- The controller of a kind of facades with its memory, and what it has done about each facade. -/
structure Schedule where
  memory : Memory := {}
  courses : String → Course := fun _ => {}

namespace Course

variable {k : FacadeKind} {key : String} {interval : Duration} {count : Nat}

/-- Every attempt that has failed is followed by the delay for the failures in a row, and what is
counted is their number, or what the attempt in progress has made of it. -/
structure Sound (k : FacadeKind) (key : String) (interval : Duration) (c : Course) (count : Nat) :
    Prop where
  answered : ∀ before a, before ++ [a] <+: c.attempts → ∀ e, a.result = .error e →
    a.next = .requeue (if e.isRetryable then
      Backoff.delay (Attempt.failuresSince Attempt.settled (before ++ [a])) else interval)
  counted : ∃ n, count = min n Backoff.maxCount ∧
    match c.current with
    | none => n = Attempt.failuresSince Attempt.settled c.attempts
    | some p => Counted k key p.past (Attempt.failuresSince Attempt.settled c.attempts) n ∧
      p.rest.Ensures (fun _ => Step.CountsFor k key)
        (fun o h => Attempt.Ends k key interval ⟨h, o.1, o.2⟩) p.past

variable {attempts : List Attempt} {past : List Event}

theorem Sound.begins (h : Sound k key interval ⟨attempts, none⟩ count) {f : Facade k}
    (hkey : f.key = key) (now : Instant) :
    Sound k key interval ⟨attempts, some ⟨[], f.attempt interval now⟩⟩ count where
  answered := h.answered
  counted := by
    obtain ⟨n, hcount, hn⟩ := h.counted
    exact ⟨n, hcount, hn, hkey ▸ f.attempt_ends interval now⟩

/-- A call of the attempt neither counts nor forgets failures. -/
theorem Sound.calls {c : Call}
    {next : c.Reply → Program Step Step.Reply (Except Error Action × Action)}
    (h : Sound k key interval ⟨attempts, some ⟨past, .call (.api c) next⟩⟩ count) (r : c.Reply) :
    Sound k key interval ⟨attempts, some ⟨past ++ [⟨.api c, r⟩], next r⟩⟩ count where
  answered := h.answered
  counted := by
    obtain ⟨n, hcount, hpast, hrest⟩ := h.counted
    exact ⟨n, hcount, counted_concat.2 ⟨n, hpast, .leave (c := .api c) trivial r n⟩, hrest.2 r⟩

theorem Sound.asks {c : MemoryCall} {m : Memory}
    {next : c.Reply → Program Step Step.Reply (Except Error Action × Action)}
    (h : Sound k key interval ⟨attempts, some ⟨past, .call (.memory c) next⟩⟩ (m.counted k key)) :
    Sound k key interval
      ⟨attempts, some ⟨past ++ [⟨.memory c, (m.answer c).1⟩], next (m.answer c).1⟩⟩
      ((m.answer c).2.counted k key) where
  answered := h.answered
  counted := by
    obtain ⟨n, hcount, hpast, hrest⟩ := h.counted
    obtain ⟨n', hcounts, hcount'⟩ := Memory.counts_answer hrest.1 hcount
    exact ⟨n', hcount', counted_concat.2 ⟨n, hpast, hcounts⟩, hrest.2 _⟩

/-- When an attempt ends, its failure is the last of those in a row, or there are none any more. -/
theorem Sound.ends {o : Except Error Action × Action}
    (h : Sound k key interval ⟨attempts, some ⟨past, .done o⟩⟩ count) :
    Sound k key interval ⟨attempts ++ [⟨past, o.1, o.2⟩], none⟩ count := by
  obtain ⟨n, hcount, hpast, hends⟩ := h.counted
  obtain ⟨hn, hnext⟩ := Attempt.Ends.counted (a := ⟨past, o.1, o.2⟩) hends hpast
  rw [← Attempt.failuresSince_concat] at hn
  refine ⟨fun before a ha => ?_, n, hcount, hn⟩
  rcases List.prefix_concat_iff.1 ha with heq | hprefix
  · obtain ⟨rfl, hlast⟩ := List.append_inj' heq rfl
    obtain rfl := List.singleton_inj.1 hlast
    exact hn ▸ hnext
  · exact h.answered before a hprefix

end Course

namespace Schedule

variable {k : FacadeKind} {interval : Duration} {s s' : Schedule}

/-- What can happen next. An attempt begins at a facade at which none is in progress. An attempt
that is in progress makes a call, to which any reply may come, asks the memory, or ends. Others use
the memory, but for the failures of this controller, in any way. -/
inductive Next (k : FacadeKind) (interval : Duration) : Schedule → Schedule → Prop
  | begin (m courses attempts) (f : Facade k) (now : Instant)
    (h : courses f.key = ⟨attempts, none⟩) :
    Next k interval ⟨m, courses⟩
      ⟨m, Function.update courses f.key ⟨attempts, some ⟨[], f.attempt interval now⟩⟩⟩
  | call (m courses key attempts past) (c : Call) (next) (r : c.Reply)
    (h : courses key = ⟨attempts, some ⟨past, .call (.api c) next⟩⟩) :
    Next k interval ⟨m, courses⟩
      ⟨m, Function.update courses key ⟨attempts, some ⟨past ++ [⟨.api c, r⟩], next r⟩⟩⟩
  | ask (m courses key attempts past) (c : MemoryCall) (next)
    (h : courses key = ⟨attempts, some ⟨past, .call (.memory c) next⟩⟩) :
    Next k interval ⟨m, courses⟩
      ⟨(m.answer c).2, Function.update courses key
        ⟨attempts, some ⟨past ++ [⟨.memory c, (m.answer c).1⟩], next (m.answer c).1⟩⟩⟩
  | finish (m courses key attempts past) (o : Except Error Action × Action)
    (h : courses key = ⟨attempts, some ⟨past, .done o⟩⟩) :
    Next k interval ⟨m, courses⟩
      ⟨m, Function.update courses key ⟨attempts ++ [⟨past, o.1, o.2⟩], none⟩⟩
  | other (m m' : Memory) (courses)
    (h : m'.failures (.facade k) = m.failures (.facade k)) :
    Next k interval ⟨m, courses⟩ ⟨m', courses⟩

/-- What has been done about each facade agrees with what is counted for it. -/
def Sound (k : FacadeKind) (interval : Duration) (s : Schedule) : Prop :=
  ∀ key, (s.courses key).Sound k key interval (s.memory.counted k key)

theorem Sound.course {m : Memory} {courses : String → Course} (h : Sound k interval ⟨m, courses⟩)
    {key : String} {c : Course} (hcourse : courses key = c) :
    c.Sound k key interval (m.counted k key) :=
  hcourse ▸ h key

/-- When one of the courses goes on, and nothing is counted for others, all stays sound. -/
theorem Sound.update {m m' : Memory} {courses : String → Course}
    (h : Sound k interval ⟨m, courses⟩) {key : String} {c : Course}
    (hc : c.Sound k key interval (m'.counted k key))
    (hothers : ∀ key', key' ≠ key → m'.counted k key' = m.counted k key') :
    Sound k interval ⟨m', Function.update courses key c⟩ := by
  intro key'
  by_cases hkey : key' = key
  · subst hkey
    simpa using hc
  · simpa [hkey, hothers key' hkey] using h key'

theorem Sound.next (h : s.Sound k interval) (hnext : Next k interval s s') :
    s'.Sound k interval := by
  cases hnext with
  | begin m courses attempts f now hcourse =>
    exact h.update ((h.course hcourse).begins rfl now) fun _ _ => rfl
  | call m courses key attempts past c next r hcourse =>
    exact h.update ((h.course hcourse).calls r) fun _ _ => rfl
  | ask m courses key attempts past c next hcourse =>
    -- No other facade is counted for, since the attempt takes no steps but such as it may.
    obtain ⟨-, -, -, hrest⟩ := (h.course hcourse).counted
    exact h.update (h.course hcourse).asks fun _ hkey => Memory.counted_answer_of_ne hrest.1 hkey
  | finish m courses key attempts past o hcourse =>
    exact h.update (h.course hcourse).ends fun _ _ => rfl
  | other m m' courses hm =>
    intro key
    have hcounted : m'.counted k key = m.counted k key := by
      rw [Memory.counted, hm, Memory.counted]
    simpa [hcounted] using h key

theorem Sound.of_reaches {m : Memory} (hm : m.failures (.facade k) = {})
    (h : Relation.ReflTransGen (Next k interval) { memory := m } s) : s.Sound k interval := by
  induction h with
  | refl =>
    refine fun key => ⟨fun before a ha => ?_, 0, ?_, rfl⟩
    · simp at ha
    · simp [Memory.counted, hm, Backoff.count, Backoff.countOf]
  | tail _ hnext ih => exact ih.next hnext

/-- In whatever order the attempts at the facades take their steps, an attempt that has failed is
followed by a delay that doubles with each failure in a row, from five seconds to five minutes, or
by the usual interval if trying again cannot mend the error. Failures in a row are those of the
facade since the last attempt that has brought it up to date; failures of others, and such that
trying again cannot mend, do not count. -/
theorem delays_follow_failures (k : FacadeKind) (interval : Duration) (m : Memory)
    (hm : m.failures (.facade k) = {})
    (h : Relation.ReflTransGen (Next k interval) { memory := m } s) (key : String)
    (before : List Attempt) (a : Attempt) (ha : before ++ [a] <+: (s.courses key).attempts)
    (e : Error) (he : a.result = .error e) {n : Nat}
    (hn : Attempt.failuresSince Attempt.settled (before ++ [a]) = n) :
    a.next = .requeue
      (if e.isRetryable then .ofSeconds (min (5 * 2 ^ (n - 1)) 300) else interval) :=
  hn ▸ (Sound.of_reaches hm h key).answered before a ha e he

/-! ### Attempts that nobody interferes with -/

theorem reaches_end (interval : Duration)
    (p : Program Step Step.Reply (Except Error Action × Action)) (x : System)
    (courses : String → Course) {key : String} {attempts : List Attempt} {past : List Event}
    (h : courses key = ⟨attempts, some ⟨past, p⟩⟩) :
    Relation.ReflTransGen (Next k interval) ⟨x.memory, courses⟩
      ⟨(p.run System.answer x).2.memory, Function.update courses key
        ⟨attempts ++ [⟨past ++ p.trace System.answer x, (p.run System.answer x).1.1,
          (p.run System.answer x).1.2⟩], none⟩⟩ := by
  induction p generalizing x courses past with
  | done o =>
    simp only [Program.run, Program.trace, List.append_nil]
    exact .single (.finish _ _ _ _ _ o h)
  | call c next ih =>
    have hrest := ih (System.answer c x).1 (System.answer c x).2
      (Function.update courses key
        ⟨attempts, some ⟨past ++ [⟨c, (System.answer c x).1⟩], next (System.answer c x).1⟩⟩)
      (Function.update_self ..)
    rw [Function.update_idem, List.append_assoc] at hrest
    cases c with
    | api c => exact .head (.call _ _ _ _ _ c next _ h) hrest
    | memory c => exact .head (.ask _ _ _ _ _ c next h) hrest

/-- Attempts at a facade, for each of which there is a cluster, and the memory after them. -/
def solo (interval : Duration) (now : Instant) (f : Facade k) :
    List Cluster → Memory → List Attempt × Memory
  | [], m => ([], m)
  | c :: clusters, m =>
    let p := f.attempt interval now
    let o := p.run System.answer ⟨c, m⟩
    let rest := solo interval now f clusters o.2.memory
    (⟨p.trace System.answer ⟨c, m⟩, o.1.1, o.1.2⟩ :: rest.1, rest.2)

theorem reaches_solo (interval : Duration) (now : Instant) (f : Facade k)
    (clusters : List Cluster) (m : Memory) (courses : String → Course) (attempts : List Attempt)
    (h : courses f.key = ⟨attempts, none⟩) :
    Relation.ReflTransGen (Next k interval) ⟨m, courses⟩
      ⟨(solo interval now f clusters m).2, Function.update courses f.key
        ⟨attempts ++ (solo interval now f clusters m).1, none⟩⟩ := by
  induction clusters generalizing m courses attempts with
  | nil =>
    rw [solo, List.append_nil, ← h, Function.update_eq_self]
  | cons c clusters ih =>
    let p := f.attempt interval now
    let o := p.run System.answer ⟨c, m⟩
    let a : Attempt := ⟨p.trace System.answer ⟨c, m⟩, o.1.1, o.1.2⟩
    have hfirst : Relation.ReflTransGen (Next k interval) ⟨m, courses⟩
        ⟨o.2.memory, Function.update courses f.key ⟨attempts ++ [a], none⟩⟩ := by
      have hend := reaches_end (k := k) interval p ⟨c, m⟩ _
        (Function.update_self f.key ⟨attempts, some ⟨[], p⟩⟩ courses)
      rw [Function.update_idem] at hend
      exact .head (.begin m courses attempts f now h) hend
    have hrest := ih o.2.memory _ _ (Function.update_self f.key ⟨attempts ++ [a], none⟩ courses)
    rw [Function.update_idem, List.append_assoc] at hrest
    exact hfirst.trans hrest

/-- A connection whose inventory is missing fails twice in a row. -/
theorem delays_follow_failures_of_connection :
    let missing : Condition :=
      Obstacle.missing.condition ⟨0, 0⟩ ⟨.connection, "team", "team", "orders"⟩
    let f : Facade .connection :=
      ⟨⟨{ name := some "shop", ns := some "team" }, ⟨⟨"orders", none⟩, "db", none, none⟩⟩,
        some ((default : Status ConnectionDetails).setCondition missing).2⟩
    ∃ s before a e, Relation.ReflTransGen (Next .connection (.ofSeconds 300)) {} s ∧
      before ++ [a] <+: (s.courses f.key).attempts ∧ a.result = .error e ∧
      e.isRetryable = true ∧ a.next = .requeue (.ofSeconds 10) := by
  intro missing f
  have hreaches := reaches_solo (.ofSeconds 300) ⟨0, 0⟩ f [{}, {}] {} (fun _ => {}) [] rfl
  obtain ⟨a, b, hattempts⟩ : ∃ a b, (solo (.ofSeconds 300) ⟨0, 0⟩ f [{}, {}] {}).1 = [a, b] :=
    List.length_eq_two.1 (by decide +kernel +zetaReduce)
  have hfailed : [a, b].map (·.failed) = [true, true] := by
    rw [← hattempts]
    decide +kernel +zetaReduce
  have hcount : Attempt.failuresSince Attempt.settled ([a] ++ [b]) = 2 := by
    rw [List.singleton_append, ← hattempts]
    decide +kernel +zetaReduce
  obtain ⟨e, he, hretry⟩ : ∃ e, b.result = .error e ∧ e.isRetryable = true :=
    Attempt.failed_iff.1 (by simp_all)
  have hcourse : [a] ++ [b] <+: ((Function.update (fun _ => ({} : Course)) f.key
      ⟨[] ++ (solo (.ofSeconds 300) ⟨0, 0⟩ f [{}, {}] {}).1, none⟩) f.key).attempts := by
    simp [hattempts]
  have hnext := delays_follow_failures .connection (.ofSeconds 300) {} rfl hreaches f.key [a] b
    hcourse e he hcount
  rw [if_pos hretry] at hnext
  exact ⟨_, [a], b, e, hreaches, hcourse, he, hretry, hnext⟩

/-- The inventory of a connection is missing, then it is there but not ready, and then it is missing
again. The attempt between the failures ends well and meets no conflict, and yet the second failure
is counted together with the first. -/
theorem delays_outlast_blocked_attempts :
    let metadata (name : String) : Json :=
      .object [("name", .string name), ("namespace", .string "team")]
    let connection : Json := .object [("metadata", metadata "shop"),
      ("spec", .object [("databaseServiceID", .string "db"),
        ("inventoryRef", .object [("name", .string "orders")])])]
    let inventory : Json := .object [("metadata", metadata "orders"),
      ("spec", .object [("credentialsRef", .object [("name", .string "secret")]),
        ("providerRef", .object [("name", .string "crunchy")])])]
    let stored (inventories : List Json) : Cluster :=
      { objects := fun c =>
          if c = .facades .connection then [connection]
          else if c = .facades .inventory then inventories else [] }
    let f : Facade .connection :=
      ⟨⟨{ name := some "shop", ns := some "team" }, ⟨⟨"orders", none⟩, "db", none, none⟩⟩, none⟩
    let attempts := (solo (.ofSeconds 300) ⟨0, 0⟩ f [stored [], stored [inventory], stored []] {}).1
    (∃ m, Relation.ReflTransGen (Next .connection (.ofSeconds 300)) {}
      ⟨m, Function.update (fun _ => {}) f.key ⟨attempts, none⟩⟩) ∧
    attempts.map (·.failed) = [true, false, true] ∧
    Attempt.failuresSince (fun a => a.result.isOk && !a.contested) attempts = 1 ∧
    attempts.map (·.next) =
      [.requeue (.ofSeconds 5), .requeue (.ofSeconds 30), .requeue (.ofSeconds 10)] := by
  intro metadata connection inventory stored f attempts
  have hreaches := reaches_solo (.ofSeconds 300) ⟨0, 0⟩ f
    [stored [], stored [inventory], stored []] {} (fun _ => {}) [] rfl
  refine ⟨⟨_, hreaches⟩, ?_⟩
  decide +kernel +zetaReduce

end Schedule

end ControlPlane
