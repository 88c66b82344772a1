import ControlPlane.Proofs.Except
import ControlPlane.Proofs.Time.Calendar
import ControlPlane.Time.Rfc3339

/-!
# Instants as they are written

`Instant.parse_text` says that an instant in the range of the calendar is read back from its text,
and `Instant.valid_of_parse` that whatever can be read is such an instant.
-/

namespace ControlPlane.Instant

/-! ## Numbers -/

/-- The number that digits write after those of `acc`. -/
def digitsValue (acc : Nat) (ds : List Char) : Nat := ds.foldl (fun n c => n * 10 + digitValue c) acc

theorem le_digitsValue (acc : Nat) (ds : List Char) : acc ≤ digitsValue acc ds := by
  induction ds generalizing acc with
  | nil => exact Nat.le_refl acc
  | cons c rest ih => exact Nat.le_trans (by omega) (ih (acc * 10 + digitValue c))

/-- Reading a number takes all of its digits, if a width or what follows ends it there. -/
theorem takeNumber_digits {ds rest : List Char} {width : Option Nat} {acc : Nat}
    (hds : ∀ c ∈ ds, isDigit c = true) (hwidth : ∀ w, width = some w → ds.length ≤ w)
    (hend : width = some ds.length ∨ ∀ c ∈ rest.head?, isDigit c = false)
    (hmax : digitsValue acc ds ≤ maxNumber) :
    takeNumber acc width (ds ++ rest) = .ok (digitsValue acc ds, rest) := by
  induction ds generalizing acc width with
  | nil =>
    cases rest with
    | nil => cases width <;> rfl
    | cons c rest =>
      have hstop : width = some 0 ∨ ¬ isDigit c = true := by
        simpa using hend
      rw [List.nil_append, takeNumber, if_pos hstop]
      rfl
  | cons c ds ih =>
    have hc : isDigit c = true := hds c List.mem_cons_self
    have hgo : ¬ (width = some 0 ∨ ¬ isDigit c = true) := by
      rintro (hw | hw)
      · have := hwidth 0 hw
        simp at this
      · exact hw hc
    have hfit : ¬ maxNumber < acc * 10 + digitValue c := by
      have := le_digitsValue (acc * 10 + digitValue c) ds
      have : digitsValue acc (c :: ds) = digitsValue (acc * 10 + digitValue c) ds := rfl
      omega
    rw [List.cons_append, takeNumber, if_neg hgo, if_neg hfit]
    refine ih (fun d hd => hds d (List.mem_cons_of_mem _ hd)) ?_ ?_ hmax
    · intro w hw
      cases width with
      | none => simp at hw
      | some v =>
        have := hwidth v rfl
        simp only [Option.map_some, Option.some.injEq, List.length_cons] at hw this
        omega
    · exact hend.imp (fun hw => by simp [hw]) id

theorem isDigit_of_mem_toDigits {n : Nat} {c : Char} (h : c ∈ Nat.toDigits 10 n) :
    isDigit c = true := by
  have := Nat.isDigit_of_mem_toDigits (by decide) (by decide) h
  simp only [Char.isDigit, ge_iff_le, Bool.and_eq_true, decide_eq_true_eq] at this
  simp only [isDigit, Bool.and_eq_true, decide_eq_true_eq]
  exact this

theorem digitValue_digitChar {d : Nat} (h : d < 10) : digitValue (Nat.digitChar d) = d := by
  have : d = 0 ∨ d = 1 ∨ d = 2 ∨ d = 3 ∨ d = 4 ∨ d = 5 ∨ d = 6 ∨ d = 7 ∨ d = 8 ∨ d = 9 := by omega
  rcases this with h | h | h | h | h | h | h | h | h | h <;> subst h <;> rfl

theorem digitsValue_append (acc : Nat) (ds es : List Char) :
    digitsValue acc (ds ++ es) = digitsValue (digitsValue acc ds) es := by
  simp [digitsValue]

theorem digitsValue_toDigits (n : Nat) : digitsValue 0 (Nat.toDigits 10 n) = n := by
  induction n using Nat.strongRecOn with
  | ind n ih =>
    by_cases h : n < 10
    · rw [Nat.toDigits_of_lt_base h]
      simp [digitsValue, digitValue_digitChar h]
    · rw [Nat.toDigits_of_base_le (by decide) (by omega), digitsValue_append, ih _ (by omega)]
      simp only [digitsValue, List.foldl_cons, List.foldl_nil,
        digitValue_digitChar (Nat.mod_lt n (by decide : 10 > 0))]
      omega

theorem digitsValue_zeros (k : Nat) (ds : List Char) :
    digitsValue 0 (List.replicate k '0' ++ ds) = digitsValue 0 ds := by
  induction k with
  | zero => rfl
  | succ k ih => exact ih

theorem toList_padLeft (w n : Nat) :
    (padLeft w n).toList =
      List.replicate (w - (Nat.toDigits 10 n).length) '0' ++ Nat.toDigits 10 n := by
  simp [padLeft, Nat.repr_eq_ofList_toDigits]

theorem isDigit_of_mem_padLeft {w n : Nat} {c : Char} (h : c ∈ (padLeft w n).toList) :
    isDigit c = true := by
  rw [toList_padLeft, List.mem_append] at h
  rcases h with h | h
  · rw [List.eq_of_mem_replicate h]
    rfl
  · exact isDigit_of_mem_toDigits h

theorem digitsValue_padLeft (w n : Nat) : digitsValue 0 (padLeft w n).toList = n := by
  rw [toList_padLeft, digitsValue_zeros, digitsValue_toDigits]

theorem length_padLeft {w n : Nat} (hw : 0 < w) (h : n < Nat.pow 10 w) :
    (padLeft w n).toList.length = w := by
  have : (Nat.toDigits 10 n).length ≤ w := (Nat.length_toDigits_le_iff (by decide) hw).2 h
  simp only [toList_padLeft, List.length_append, List.length_replicate]
  omega

theorem padLeft_eq_cons (w n : Nat) : ∃ c cs, (padLeft w n).toList = c :: cs ∧ isDigit c = true := by
  cases h : (padLeft w n).toList with
  | nil =>
    rw [toList_padLeft] at h
    exact absurd (List.append_eq_nil_iff.1 h).2 Nat.toDigits_ne_nil
  | cons c cs =>
    exact ⟨c, cs, rfl, isDigit_of_mem_padLeft (h ▸ List.mem_cons_self)⟩

theorem number_padLeft {w n : Nat} {width : Option Nat} {rest : List Char}
    (hwidth : ∀ v, width = some v → (padLeft w n).toList.length ≤ v)
    (hend : width = some (padLeft w n).toList.length ∨ ∀ c ∈ rest.head?, isDigit c = false)
    (hmax : n ≤ maxNumber) :
    number width ((padLeft w n).toList ++ rest) = .ok (n, rest) := by
  obtain ⟨c, cs, hcs, hc⟩ := padLeft_eq_cons w n
  have hvalue := digitsValue_padLeft w n
  have hdigits : ∀ c ∈ (padLeft w n).toList, isDigit c = true := fun c hc =>
    isDigit_of_mem_padLeft hc
  have htake : takeNumber 0 width ((padLeft w n).toList ++ rest) = .ok (_, rest) :=
    takeNumber_digits hdigits hwidth hend (by omega)
  rw [hvalue] at htake
  rw [hcs] at htake ⊢
  rw [List.cons_append] at htake ⊢
  rw [number, if_pos hc, htake]

/-! ## Parts of an instant -/

theorem trimStart_of_not_blank {c : Char} (h : Text.isBlank c = false) (cs : List Char) :
    Text.trimStart (c :: cs) = c :: cs := by
  simp [Text.trimStart, h]

theorem not_isBlank_of_isDigit {c : Char} (h : isDigit c = true) : Text.isBlank c = false := by
  have hlow : 48 ≤ c.toNat ∧ c.toNat ≤ 57 := by
    simp only [isDigit, Bool.and_eq_true, decide_eq_true_eq] at h
    exact h
  simp only [Text.isBlank, Bool.or_eq_false_iff, Bool.and_eq_false_iff, decide_eq_false_iff_not]
  omega

theorem trimStart_padLeft (w n : Nat) (rest : List Char) :
    Text.trimStart ((padLeft w n).toList ++ rest) = (padLeft w n).toList ++ rest := by
  obtain ⟨c, cs, hcs, hc⟩ := padLeft_eq_cons w n
  rw [hcs, List.cons_append, trimStart_of_not_blank (not_isBlank_of_isDigit hc)]

theorem field_padLeft {low high n : Nat} (hlow : low ≤ n) (hhigh : n ≤ high) (h : n < 100)
    (rest : List Char) : field low high ((padLeft 2 n).toList ++ rest) = .ok (n, rest) := by
  have hlen : (padLeft 2 n).toList.length = 2 := length_padLeft (by decide) h
  have hnum : number (some 2) ((padLeft 2 n).toList ++ rest) = .ok (n, rest) :=
    number_padLeft (by simp [hlen]) (.inl (by rw [hlen])) (by simp only [maxNumber]; omega)
  rw [field, trimStart_padLeft, hnum]
  simp [bind, Except.bind, hlow, hhigh, pure, Except.pure]

theorem separator_cons {c : Char} (h : Text.isBlank c = false) (rest : List Char) :
    separator c (c :: rest) = .ok rest := by
  simp [separator, trimStart_of_not_blank h]

/-- The years of the calendar. -/
theorem year_yearText {y : Int} (hy : -0x80000000 ≤ y ∧ y < 0x80000000) (rest : List Char) :
    year ((yearText y).toList ++ '-' :: rest) = .ok (y, '-' :: rest) := by
  have hmax : ∀ n : Nat, n ≤ 0x80000000 → n ≤ maxNumber := by
    intro n hn
    simp only [maxNumber]
    omega
  have hstop : ∀ c ∈ ('-' :: rest).head?, isDigit c = false := by
    simp only [List.head?_cons, Option.mem_some]
    rintro _ rfl
    rfl
  have hsigned : ∀ n : Nat, n ≤ 0x80000000 →
      number none ((padLeft 4 n).toList ++ '-' :: rest) = .ok (n, '-' :: rest) :=
    fun n hn => number_padLeft (by simp) (.inr hstop) (hmax n hn)
  unfold yearText year
  by_cases hneg : y < 0
  · generalize habs : y.natAbs = n
    have hval : -(n : Int) = y := by omega
    rw [if_pos hneg, String.toList_append, List.append_assoc]
    rw [show "-".toList = ['-'] from rfl, List.singleton_append, trimStart_of_not_blank rfl]
    simp [hsigned n (by omega), bind, Except.bind, pure, Except.pure, hval, hy]
  · by_cases hfour : y ≤ 9999
    · have hval : (y.toNat : Int) = y := by omega
      obtain ⟨c, cs, hcs, hc⟩ := padLeft_eq_cons 4 y.toNat
      have hlen : (padLeft 4 y.toNat).toList.length = 4 := length_padLeft (by decide) (by change _ < 10000; omega)
      have hnum : number (some 4) ((padLeft 4 y.toNat).toList ++ '-' :: rest) =
          .ok (y.toNat, '-' :: rest) :=
        number_padLeft (by simp [hlen]) (.inl (by rw [hlen])) (hmax _ (by omega))
      have hsign : c ≠ '-' ∧ c ≠ '+' := by constructor <;> rintro rfl <;> simp [isDigit] at hc
      rw [if_neg hneg, if_pos hfour, trimStart_padLeft]
      rw [hcs, List.cons_append] at hnum ⊢
      simp [hsign, hnum, bind, Except.bind, pure, Except.pure, hval, hy]
    · have hval : (y.toNat : Int) = y := by omega
      rw [if_neg hneg, if_neg hfour, String.toList_append, List.append_assoc]
      rw [show "+".toList = ['+'] from rfl, List.singleton_append, trimStart_of_not_blank rfl]
      simp [hsigned y.toNat (by omega), bind, Except.bind, pure, Except.pure, hval, hy]

theorem fraction_digits {w n : Nat} (hw : 0 < w ∧ w ≤ 9) (h : n < Nat.pow 10 w) :
    fraction ('.' :: ((padLeft w n).toList ++ ['Z'])) = .ok (n * Nat.pow 10 (9 - w), ['Z']) := by
  have hlen := length_padLeft hw.1 h
  have hstop : ∀ c ∈ ['Z'].head?, isDigit c = false := by
    simp only [List.head?_cons, Option.mem_some]
    rintro _ rfl
    rfl
  have hbig : Nat.pow 10 w ≤ 1000000000 := Nat.pow_le_pow_right (by decide : 0 < 10) hw.2
  have hnum : number (some 9) ((padLeft w n).toList ++ ['Z']) = .ok (n, ['Z']) := by
    refine number_padLeft (by simp [hlen, hw.2]) (.inr hstop) ?_
    simp only [maxNumber]
    omega
  rw [fraction]
  simp only [bind, Except.bind, hnum, pure, Except.pure, List.length_append, hlen,
    List.length_singleton, Nat.add_sub_cancel]
  rfl

theorem fraction_fractionText {n : Nat} (h : n < 1000000000) :
    fraction ((fractionText .exact n).toList ++ ['Z']) = .ok (n, ['Z']) := by
  have hdot : ".".toList = ['.'] := rfl
  have hparts : ∀ w, 0 < w ∧ w ≤ 9 → ∀ m, m < Nat.pow 10 w → m * Nat.pow 10 (9 - w) = n →
      fraction (("." ++ padLeft w m).toList ++ ['Z']) = .ok (n, ['Z']) := by
    intro w hw m hm hmn
    rw [String.toList_append, hdot, List.append_assoc, List.singleton_append,
      fraction_digits hw hm, hmn]
  unfold fractionText
  by_cases h0 : n = 0
  · subst h0
    rfl
  by_cases h3 : n % 1000000 = 0
  · rw [if_neg h0, if_pos h3]
    refine hparts 3 (by decide) _ ?_ ?_
    · change _ < 1000
      omega
    · change _ * 1000000 = n
      omega
  by_cases h6 : n % 1000 = 0
  · rw [if_neg h0, if_neg h3, if_pos h6]
    refine hparts 6 (by decide) _ ?_ ?_
    · change _ < 1000000
      omega
    · change _ * 1000 = n
      omega
  · rw [if_neg h0, if_neg h3, if_neg h6]
    exact hparts 9 (by decide) n h (Nat.mul_one n)

/-! ## Whole instants -/

/-- The instants that there are: their day is in the calendar, and a part of a second beyond the
thousand millionth nanosecond belongs to a leap second, which ends a minute. -/
def Valid (t : Instant) : Prop :=
  isDayInRange (t.seconds / 86400) = true ∧
    (t.nanos < 1000000000 ∨ t.nanos < 2000000000 ∧ t.seconds % 60 = 59)

theorem year_inRange {n : Int} (h : isDayInRange n = true) :
    -0x80000000 ≤ (Date.ofDays n).year ∧ (Date.ofDays n).year < 0x80000000 := by
  have hmin : minDay = -96465292 := by decide
  have hmax : maxDay = 95026236 := by decide
  obtain ⟨era, a, b, c, d, m, ⟨ha, hb, hc, hd, -⟩, -, hn, hyear, -⟩ := Date.exists_ofDays n
  simp only [isDayInRange, Bool.and_eq_true, decide_eq_true_eq, hmin, hmax] at h
  split at hyear <;> omega

theorem offset_z : offset (Text.trimStart ['Z']) = .ok (0, []) := rfl

/-- An instant is read back from its text. -/
theorem parse_text {t : Instant} (h : t.Valid) : parse (t.text .exact) = .ok t := by
  obtain ⟨hday, hnanos⟩ := h
  have hyear := year_inRange hday
  have hdate := Date.isValid_ofDays (t.seconds / 86400)
  have hdays := Date.toDays_ofDays (t.seconds / 86400)
  have hvalid := hdate
  simp only [Date.isValid, Bool.and_eq_true, decide_eq_true_eq] at hvalid
  have hlength : Date.daysInMonth (Date.ofDays (t.seconds / 86400)).year
      (Date.ofDays (t.seconds / 86400)).month ≤ 31 := by
    unfold Date.daysInMonth
    split <;> split <;> decide
  simp only [parse, text, String.toList_append, List.append_assoc, show "-".toList = ['-'] from rfl,
    show "T".toList = ['T'] from rfl, show ":".toList = [':'] from rfl,
    show "Z".toList = ['Z'] from rfl, List.cons_append, List.nil_append]
  generalize Date.ofDays (t.seconds / 86400) = date at *
  obtain ⟨s, n⟩ := t
  simp only at hday hnanos hdays ⊢
  have hofDay : (s % 86400).toNat < 86400 := by omega
  have hs : s = s / 86400 * 86400 + (s % 86400).toNat := by omega
  have hleap : 1000000000 ≤ n → (s % 86400).toNat % 60 = 59 := by omega
  -- The second as it is written, and the nanoseconds of it.
  obtain ⟨second, hsecond⟩ : ∃ second,
      (s % 86400).toNat % 60 + (if 1000000000 ≤ n then 1 else 0) = second := ⟨_, rfl⟩
  obtain ⟨nanos, hn⟩ : ∃ nanos, (if 1000000000 ≤ n then n - 1000000000 else n) = nanos := ⟨_, rfl⟩
  have hsecond' : second ≤ 60 ∧ (second = 60 ↔ 1000000000 ≤ n) := by
    split at hsecond <;> omega
  have hnanos' : nanos < 1000000000 := by
    split at hn <;> omega
  rw [hsecond, hn]
  generalize (s % 86400).toNat = k at *
  unfold parseChars
  rw [year_yearText hyear]
  simp only [bind, Except.bind, separator_cons (c := '-') rfl]
  rw [field_padLeft hvalid.1.1.1 hvalid.1.1.2 (by omega)]
  simp only [separator_cons (c := '-') rfl]
  rw [field_padLeft hvalid.1.2 (by omega) (by omega)]
  simp only [true_or, if_true, pure, Except.pure]
  rw [field_padLeft (by omega) (by omega) (by omega)]
  simp only [separator_cons (c := ':') rfl]
  rw [field_padLeft (by omega) (by omega) (by omega)]
  simp only [separator_cons (c := ':') rfl]
  rw [field_padLeft (by omega) hsecond'.1 (by omega)]
  simp only [fraction_fractionText hnanos', offset_z]
  have hk : k / 3600 * 3600 + k / 60 % 60 * 60 + (if second = 60 then 59 else second) = k := by
    split at hsecond <;> split <;> omega
  have hseconds : date.toDays * 86400 + ((k / 3600 * 3600 + k / 60 % 60 * 60 +
      (if second = 60 then 59 else second) : Nat) : Int) - 0 = s := by
    rw [hk, hdays]
    omega
  have hpart : (if second = 60 then nanos + 1000000000 else nanos) = n := by
    split at hn <;> split <;> omega
  rw [if_neg (by decide), if_neg (by simp [hdate, hdays, hday]), if_neg (by decide), hseconds,
    if_neg (by simp [hday]), hpart]

/-! ## What can be read -/

theorem takeNumber_lt {acc w n : Nat} {cs rest : List Char}
    (h : takeNumber acc (some w) cs = .ok (n, rest)) :
    ∃ j ≤ w, cs.length = rest.length + j ∧ n < (acc + 1) * Nat.pow 10 j := by
  induction cs generalizing acc w with
  | nil =>
    simp only [takeNumber, Except.ok.injEq, Prod.mk.injEq] at h
    obtain ⟨rfl, rfl⟩ := h
    exact ⟨0, Nat.zero_le _, rfl, by simp⟩
  | cons c cs ih =>
    rw [takeNumber] at h
    split at h
    · simp only [Except.ok.injEq, Prod.mk.injEq] at h
      obtain ⟨rfl, rfl⟩ := h
      exact ⟨0, Nat.zero_le _, rfl, by simp⟩
    · next hgo =>
      split at h
      · cases h
      · simp only [not_or, Decidable.not_not, Option.some.injEq] at hgo
        obtain ⟨j, hj, hlen, hlt⟩ := ih h
        have hj : j ≤ w - 1 := hj
        have hw : w ≠ 0 := hgo.1
        have hdigit : digitValue c ≤ 9 := by
          have hc := hgo.2
          simp only [isDigit, Bool.and_eq_true, decide_eq_true_eq] at hc
          have hc' : 48 ≤ c.toNat ∧ c.toNat ≤ 57 := hc
          have : ('0' : Char).toNat = 48 := rfl
          simp only [digitValue]
          omega
        refine ⟨j + 1, by omega, by simp only [List.length_cons]; omega, ?_⟩
        calc n < (acc * 10 + digitValue c + 1) * Nat.pow 10 j := hlt
          _ ≤ (acc + 1) * 10 * Nat.pow 10 j := Nat.mul_le_mul_right _ (by omega)
          _ = (acc + 1) * Nat.pow 10 (j + 1) := by
            rw [Nat.mul_assoc]
            exact congrArg _ (Nat.mul_comm _ _)

theorem fraction_lt {cs rest : List Char} {n : Nat} (h : fraction cs = .ok (n, rest)) :
    n < 1000000000 := by
  unfold fraction at h
  split at h
  · next ds =>
    cases hnum : number (some 9) ds with
    | error e => simp [hnum, bind, Except.bind] at h
    | ok r =>
      obtain ⟨m, left⟩ := r
      simp only [hnum, bind, Except.bind, pure, Except.pure, Except.ok.injEq, Prod.mk.injEq] at h
      have htake : takeNumber 0 (some 9) ds = .ok (m, left) := by
        unfold number at hnum
        split at hnum
        · cases hnum
        · split at hnum
          · exact hnum
          · cases hnum
      obtain ⟨j, hj, hlen, hlt⟩ := takeNumber_lt htake
      have hsub : ds.length - left.length = j := by omega
      rw [hsub] at h
      rw [Nat.zero_add, Nat.one_mul] at hlt
      calc n = m * Nat.pow 10 (9 - j) := h.1.symm
        _ < Nat.pow 10 j * Nat.pow 10 (9 - j) :=
          Nat.mul_lt_mul_of_pos_right hlt (Nat.pow_pos (by decide : 0 < 10))
        _ = Nat.pow 10 (j + (9 - j)) := (Nat.pow_add 10 j (9 - j)).symm
        _ = 1000000000 := by rw [show j + (9 - j) = 9 by omega]
  · simp only [Except.ok.injEq, Prod.mk.injEq] at h
    omega

theorem field_bounds {low high n : Nat} {cs rest : List Char}
    (h : field low high cs = .ok (n, rest)) : low ≤ n ∧ n ≤ high := by
  unfold field at h
  cases hnum : number (some 2) (Text.trimStart cs) with
  | error e => simp [hnum, bind, Except.bind] at h
  | ok r =>
    simp only [hnum, bind, Except.bind, pure, Except.pure] at h
    split at h
    · next hb =>
      simp only [Except.ok.injEq, Prod.mk.injEq] at h
      omega
    · cases h

theorem offset_minutes {cs rest : List Char} {e : Int} (h : offset cs = .ok (e, rest)) :
    e % 60 = 0 := by
  unfold offset at h
  split at h
  · simp only [Except.ok.injEq, Prod.mk.injEq] at h
    omega
  · split at h
    · cases h
    · next c ds =>
      split at h
      · simp only [Except.ok.injEq, Prod.mk.injEq] at h
        omega
      · split at h
        · simp only [bind, Except.bind] at h
          split at h
          · cases h
          · split at h
            · cases h
            · simp only [pure, Except.pure, Except.ok.injEq, Prod.mk.injEq] at h
              obtain ⟨rfl, -⟩ := h
              split <;> omega
        · cases h

/-- What can be read is an instant of the calendar. -/
theorem valid_of_parse {text : String} {t : Instant} (h : parse text = .ok t) : t.Valid := by
  unfold parse parseChars at h
  simp only [Except.bind_eq_ok] at h
  obtain ⟨⟨y, _⟩, -, _, -, ⟨month, _⟩, -, _, -, ⟨day, _⟩, -, _, -, ⟨hour, _⟩, hhour, _, -,
    ⟨minute, _⟩, hminute, _, -, ⟨second, _⟩, hsecond, ⟨nanos, _⟩, hnanos, ⟨east, _⟩, heast, h⟩ := h
  have := field_bounds hhour
  have := field_bounds hminute
  have := field_bounds hsecond
  have hn := fraction_lt hnanos
  have hoffset := offset_minutes heast
  simp only [Except.ite_throw_eq_ok] at h
  obtain ⟨-, -, -, hday, h⟩ := h
  obtain rfl := (Except.ok.inj h).symm
  refine ⟨Decidable.not_not.1 hday, ?_⟩
  by_cases hleap : second = 60
  · refine .inr ⟨?_, ?_⟩ <;> simp only [hleap, if_true] <;> omega
  · exact .inl (by simpa only [hleap, if_false] using hn)

/-- The instant without the part of its second; a leap second stays one. -/
def wholeSecond (t : Instant) : Instant :=
  { t with nanos := if 1000000000 ≤ t.nanos then 1000000000 else 0 }

theorem Valid.wholeSecond {t : Instant} (h : t.Valid) : t.wholeSecond.Valid := by
  obtain ⟨hday, hnanos⟩ := h
  refine ⟨hday, ?_⟩
  unfold Instant.wholeSecond
  by_cases hleap : 1000000000 ≤ t.nanos
  · simp only [hleap, if_true]
    omega
  · simp [hleap]

theorem text_seconds (t : Instant) : t.text .seconds = t.wholeSecond.text .exact := by
  by_cases hleap : 1000000000 ≤ t.nanos <;> simp [text, wholeSecond, fractionText, hleap]

theorem text_wholeSecond (t : Instant) : t.wholeSecond.text .seconds = t.text .seconds := by
  by_cases hleap : 1000000000 ≤ t.nanos <;> simp [text, wholeSecond, fractionText, hleap]

/-- Of an instant written without a fraction the whole second is read back. -/
theorem parse_text_seconds {t : Instant} (h : t.Valid) :
    parse (t.text .seconds) = .ok t.wholeSecond := by
  rw [text_seconds]
  exact parse_text h.wholeSecond

end ControlPlane.Instant
