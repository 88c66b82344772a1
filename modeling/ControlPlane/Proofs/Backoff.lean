import ControlPlane.Proofs.Retry

/-!
# Calls on counters of failures

Counters are called for many keys in any order. Each key has a counter of its own: what is counted
of it, and the delays that it is given, follow from the calls for this key alone.
-/

namespace ControlPlane.Backoff

/-- A call on the counters. -/
inductive Use where
  /-- Counts a failure of a key and asks for the delay that follows. -/
  | next (key : String)
  /-- Forgets the failures of a key. -/
  | reset (key : String)
deriving DecidableEq

namespace Use

def key : Use → String
  | next k => k
  | reset k => k

/-- The counters after a call. -/
def apply (c : RetryConfig) (b : Backoff) : Use → Backoff
  | next k => (b.next c k).2
  | reset k => b.reset k

end Use

/-- The counters after calls on new ones. -/
def after (c : RetryConfig) (uses : List Use) : Backoff := uses.foldl (Use.apply c) {}

/-- The delays that calls give, each with its key. -/
def delays (c : RetryConfig) : Backoff → List Use → List (String × Option Duration)
  | _, [] => []
  | b, .next k :: rest => (k, (b.next c k).1) :: delays c (b.next c k).2 rest
  | b, .reset k :: rest => delays c (b.reset k) rest

/-- The calls that have counted a failure of the key since its failures were forgotten last. -/
def failuresSince (k : String) (uses : List Use) : Nat :=
  countSince (· = .reset k) (· = .next k) uses

variable {c : RetryConfig} {b b' : Backoff} {k : String} {u : Use} {uses rest : List Use}

/-! ### Counts -/

theorem next_fst (c : RetryConfig) (b : Backoff) (k : String) :
    (b.next c k).1 = c.delayFor (min (b.count k + 1) maxCount) := by
  simp [next]

theorem count_apply_of_ne (h : u.key ≠ k) : (u.apply c b).count k = b.count k := by
  cases u with
  | next k' => exact count_fail_of_ne (Ne.symm h)
  | reset k' => exact count_reset_of_ne (Ne.symm h)

theorem count_apply_congr (h : b.count k = b'.count k) (u : Use) :
    (u.apply c b).count k = (u.apply c b').count k := by
  by_cases hu : u.key = k
  · subst hu
    cases u with
    | next k => simp [Use.apply, next, Use.key, show b.count k = b'.count k from h]
    | reset k => simp [Use.apply, Use.key]
  · rw [count_apply_of_ne hu, count_apply_of_ne hu, h]

theorem after_concat (c : RetryConfig) (uses : List Use) (u : Use) :
    after c (uses ++ [u]) = u.apply c (after c uses) := by
  simp [after]

theorem count_after (c : RetryConfig) (uses : List Use) (k : String) :
    (after c uses).count k = min (failuresSince k uses) maxCount := by
  induction uses using List.reverseRecOn with
  | nil => simp [after, count, countOf, failuresSince, countSince]
  | append_singleton uses u ih =>
    rw [after_concat, failuresSince, countSince_concat, ← failuresSince]
    by_cases hu : u.key = k
    · subst hu
      cases u with
      | next k =>
        have hcount : (after c uses).count k = _ := ih
        simp [Use.apply, next, Use.key, hcount]
        omega
      | reset k => simp [Use.apply, Use.key]
    · rw [count_apply_of_ne hu, ih]
      cases u <;> simp_all [Use.key]

/-! ### Delays -/

theorem delays_cons (c : RetryConfig) (b : Backoff) (u : Use) (rest : List Use) :
    delays c b (u :: rest) = delays c b [u] ++ delays c (u.apply c b) rest := by
  cases u <;> rfl

theorem delays_append (c : RetryConfig) (b : Backoff) (uses rest : List Use) :
    delays c b (uses ++ rest) =
      delays c b uses ++ delays c (uses.foldl (Use.apply c) b) rest := by
  induction uses generalizing b with
  | nil => rfl
  | cons u uses ih => rw [List.cons_append, delays_cons, ih, delays_cons c b u uses]; simp

/-- A call for another key gives the key no delay. -/
theorem filter_delays_cons_of_ne (h : u.key ≠ k) (b : Backoff) (rest : List Use) :
    (delays c b (u :: rest)).filter (·.1 = k) = (delays c (u.apply c b) rest).filter (·.1 = k) := by
  rw [delays_cons, List.filter_append]
  cases u with
  | next k' => simp [delays, show k' ≠ k from h]
  | reset k' => rfl

theorem filter_delays (h : b.count k = b'.count k) (uses : List Use) :
    (delays c b uses).filter (·.1 = k) = delays c b' (uses.filter (·.key = k)) := by
  induction uses generalizing b b' with
  | nil => rfl
  | cons u uses ih =>
    by_cases hu : u.key = k
    · rw [delays_cons, List.filter_append, List.filter_cons_of_pos (by simpa using hu),
        delays_cons c b', ih (count_apply_congr h u)]
      congr 1
      subst hu
      cases u with
      | next k => simp [delays, next_fst, Use.key, show b.count k = b'.count k from h]
      | reset k => rfl
    · rw [filter_delays_cons_of_ne hu, List.filter_cons_of_neg (by simpa using hu)]
      exact ih ((count_apply_of_ne hu).trans h)

/-- While the failures of a key are not forgotten its delays are those of ever greater counts. -/
theorem exists_delays (hb : b.count k ≤ maxCount) (hreset : Use.reset k ∉ uses) :
    ∃ counts : List Nat,
      (delays standard b uses).filter (·.1 = k) = counts.map (fun n => (k, some (delay n))) ∧
      (∀ n ∈ counts, b.count k < n) ∧ counts.Pairwise (· ≤ ·) := by
  induction uses generalizing b with
  | nil => exact ⟨[], rfl, by simp, .nil⟩
  | cons u uses ih =>
    obtain ⟨hu, huses⟩ := not_or.1 (mt List.mem_cons.2 hreset)
    by_cases hkey : u.key = k
    · cases u with
      | reset k' => exact (hu (congrArg Use.reset hkey.symm)).elim
      | next k' =>
        obtain rfl : k' = k := hkey
        have hcount : (Use.apply standard b (.next k')).count k' =
            min (b.count k' + 1) maxCount := count_fail_self
        obtain ⟨counts, hdelays, hgreater, hpairwise⟩ :=
          ih (b := Use.apply standard b (.next k')) (by omega) huses
        refine ⟨(b.count k' + 1) :: counts, ?_, ?_, ?_⟩
        · rw [delays_cons, List.filter_append, hdelays]
          simp [delays, next_fst, delayFor_standard, delay_min_maxCount]
        · rw [List.forall_mem_cons]
          exact ⟨by omega, fun n hn => by have := hgreater n hn; omega⟩
        · rw [List.pairwise_cons]
          exact ⟨fun n hn => by have := hgreater n hn; omega, hpairwise⟩
    · have hcount := count_apply_of_ne (c := standard) (b := b) hkey
      obtain ⟨counts, hdelays, hgreater, hpairwise⟩ := ih (hcount ▸ hb) huses
      exact ⟨counts, (filter_delays_cons_of_ne hkey b uses).trans hdelays, hcount ▸ hgreater,
        hpairwise⟩

/-- Whatever the calls are, each key has a counter of its own. It has counted the failures of the
key since they were forgotten last, up to the greatest count. A further failure of the key gives the
delay of the count that follows, and the delays of the key are those that its own calls would give
without all others. As delays are set up for reconciliation, those of a key become no shorter until
its failures are forgotten, and none exceeds five minutes. -/
theorem counters_independent (c : RetryConfig) (uses : List Use) (k : String) :
    (after c uses).count k = min (failuresSince k uses) maxCount ∧
    (∀ rest, delays c {} (uses ++ .next k :: rest) =
      delays c {} uses ++ (k, c.delayFor (min (failuresSince k uses + 1) maxCount)) ::
        delays c (after c (uses ++ [.next k])) rest) ∧
    (delays c {} uses).filter (·.1 = k) = delays c {} (uses.filter (·.key = k)) ∧
    ∀ later, Use.reset k ∉ later → ∃ ds : List Duration,
      (delays standard (after standard uses) later).filter (·.1 = k) =
        ds.map (fun d => (k, some d)) ∧
      ds.Pairwise (·.nanos ≤ ·.nanos) ∧
      ∀ d ∈ ds, d.nanos ≤ (Duration.ofSeconds 300).nanos := by
  refine ⟨count_after c uses k, fun rest => ?next, filter_delays rfl uses, fun later hreset => ?_⟩
  case next =>
    have hcount : min ((after c uses).count k + 1) maxCount =
        min (failuresSince k uses + 1) maxCount := by
      rw [count_after]
      omega
    rw [delays_append, after_concat, ← hcount, ← next_fst]
    rfl
  · have hcount : (after standard uses).count k ≤ maxCount := by
      rw [count_after]
      omega
    obtain ⟨counts, hdelays, -, hpairwise⟩ := exists_delays hcount hreset
    refine ⟨counts.map delay, hdelays.trans (by simp), ?_, ?_⟩
    · exact hpairwise.map _ fun _ _ => delay_mono
    · simpa using fun n _ => delay_le n

/-- The failures of one key are counted anew once they were forgotten, and stay counted when those
of another key are forgotten. -/
theorem counters_independent_between_resets :
    let uses := [Use.next "team/shop", .reset "team/shop", .next "team/shop", .next "team/orders",
      .next "team/shop"]
    let later := [Use.next "team/orders", .reset "team/orders", .next "team/shop"]
    (after standard uses).count "team/shop" = 2 ∧ Use.reset "team/shop" ∉ later ∧
      ∃ ds : List Duration,
        (delays standard (after standard uses) later).filter (·.1 = "team/shop") =
          ds.map (fun d => ("team/shop", some d)) ∧
        ds.Pairwise (·.nanos ≤ ·.nanos) ∧
        ∀ d ∈ ds, d.nanos ≤ (Duration.ofSeconds 300).nanos := by
  intro uses later
  obtain ⟨hcount, -, -, hlater⟩ := counters_independent standard uses "team/shop"
  have hreset : Use.reset "team/shop" ∉ later := by decide
  exact ⟨hcount.trans (by decide), hreset, hlater later hreset⟩

end ControlPlane.Backoff
