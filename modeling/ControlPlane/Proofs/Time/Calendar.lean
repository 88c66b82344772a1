import ControlPlane.Time.Calendar

/-!
# Days and dates

`Date.toDays_ofDays` says that the date of a day has that day, and `Date.isValid_ofDays` that it
exists. Both rest on `Date.exists_dayOfEra`, which takes a day of an era of four hundred years apart
into centuries, spans of four years, years and days: the divisors in `Date.ofDays` skip exactly the
leap days that came before.
-/

namespace ControlPlane

theorem ediv_eq_of_eq_mul_add {n m q r : Int} (h : n = m * q + r) (h0 : 0 ≤ r) (h1 : r < m) :
    n / m = q := by
  rw [h, Int.add_comm, Int.add_mul_ediv_left _ _ (by omega), Int.ediv_eq_zero_of_lt h0 h1,
    Int.zero_add]

namespace Date

/-- `d` days after the start of year `100 * a + 4 * b + c` of an era, counting years from March. -/
structure InEra (a b c d : Int) : Prop where
  century : 0 ≤ a ∧ a ≤ 3
  four : 0 ≤ b ∧ b ≤ 24
  year : 0 ≤ c ∧ c ≤ 3
  day : 0 ≤ d ∧ d ≤ 365
  /-- Only leap years have a last day of this number. -/
  leap : d = 365 → c = 3 ∧ (b = 24 → a = 3)

theorem InEra.div_four {a b c d : Int} (h : InEra a b c d) :
    (100 * a + 4 * b + c) / 4 = 25 * a + b := by
  have := h.year
  exact ediv_eq_of_eq_mul_add (r := c) (by omega) (by omega) (by omega)

theorem InEra.div_hundred {a b c d : Int} (h : InEra a b c d) :
    (100 * a + 4 * b + c) / 100 = a := by
  have := h.year
  have := h.four
  exact ediv_eq_of_eq_mul_add (r := 4 * b + c) (by omega) (by omega) (by omega)

/-- The year of an era to which a day of it belongs. -/
theorem exists_dayOfEra {n : Int} (h0 : 0 ≤ n) (h1 : n < 146097) :
    ∃ a b c d, InEra a b c d ∧ n = 36524 * a + 1461 * b + 365 * c + d ∧
      (n - n / 1460 + n / 36524 - n / 146096) / 365 = 100 * a + 4 * b + c := by
  -- The last day of the era is the only one whose century has a day more.
  by_cases hlast : n = 146096
  · subst hlast
    exact ⟨3, 24, 3, 365, by constructor <;> decide, by decide, by decide⟩
  have he : n / 146096 = 0 := Int.ediv_eq_zero_of_lt h0 (by omega)
  have hr := Int.mul_ediv_add_emod n 36524
  have ha : 0 ≤ n / 36524 ∧ n / 36524 ≤ 3 := by omega
  have hr' : 0 ≤ n % 36524 ∧ n % 36524 < 36524 := by omega
  generalize n / 36524 = a at *
  generalize n % 36524 = r at *
  have hs := Int.mul_ediv_add_emod r 1461
  have hb : 0 ≤ r / 1461 ∧ r / 1461 ≤ 24 := by omega
  have hs' : 0 ≤ r % 1461 ∧ r % 1461 < 1461 ∧ (r / 1461 = 24 → r % 1461 < 1460) := by omega
  generalize r / 1461 = b at *
  generalize r % 1461 = s at *
  refine ⟨a, b, min (s / 365) 3, s - 365 * min (s / 365) 3, ?_, by omega, ?_⟩
  · constructor <;> omega
  · rw [he]
    by_cases hq : 24 * a + b + s < 1460
    · have hdiv : n / 1460 = 25 * a + b :=
        ediv_eq_of_eq_mul_add (r := 24 * a + b + s) (by omega) (by omega) hq
      omega
    · have hdiv : n / 1460 = 25 * a + b + 1 :=
        ediv_eq_of_eq_mul_add (r := 24 * a + b + s - 1460) (by omega) (by omega) (by omega)
      omega

/-- A day of the year and the month it falls in, both counted from March. -/
structure InYear (d m : Int) : Prop where
  month : 0 ≤ m ∧ m ≤ 11
  first : (153 * m + 2) / 5 ≤ d
  last : d < (153 * (m + 1) + 2) / 5

theorem inYear {d : Int} (h : 0 ≤ d ∧ d ≤ 365) : InYear d ((5 * d + 2) / 153) := by
  constructor <;> omega

/-- The date of a day by its place in its era; `m` counts months from March. -/
theorem exists_ofDays (n : Int) :
    ∃ era a b c d m, InEra a b c d ∧ InYear d m ∧
      n + 719468 = 146097 * era + (36524 * a + 1461 * b + 365 * c + d) ∧
      (ofDays n).year = 100 * a + 4 * b + c + era * 400 + (if (ofDays n).month ≤ 2 then 1 else 0) ∧
      ((ofDays n).month : Int) = (if m < 10 then m + 3 else m - 9) ∧
      ((ofDays n).day : Int) = d - (153 * m + 2) / 5 + 1 := by
  have hmod : 0 ≤ (n + 719468) % 146097 ∧ (n + 719468) % 146097 < 146097 := by omega
  obtain ⟨a, b, c, d, hin, hn, hy⟩ := exists_dayOfEra hmod.1 hmod.2
  have hday : (n + 719468) % 146097 - (365 * (100 * a + 4 * b + c) +
      (100 * a + 4 * b + c) / 4 - (100 * a + 4 * b + c) / 100) = d := by
    rw [hin.div_four, hin.div_hundred, hn]
    clear hy hmod hn
    omega
  have hm := inYear hin.day
  refine ⟨(n + 719468) / 146097, a, b, c, d, (5 * d + 2) / 153, hin, hm, ?_, ?_⟩
  · rw [← hn, Int.mul_ediv_add_emod]
  simp only [ofDays, hy, hday]
  clear hy hmod hn hday
  generalize (5 * d + 2) / 153 = m at *
  obtain ⟨hm, hfirst, -⟩ := hm
  refine ⟨?_, ?_, by omega⟩
  · congr 1
    split <;> split <;> omega
  · split <;> omega

/-- The days up to a date whose year, month and day are counted from a first of March. -/
theorem toDays_of_march {date : Date} {era y m d : Int} (hy : 0 ≤ y ∧ y < 400)
    (hm : 0 ≤ m ∧ m ≤ 11)
    (hyear : date.year = y + era * 400 + (if date.month ≤ 2 then 1 else 0))
    (hmonth : (date.month : Int) = if m < 10 then m + 3 else m - 9)
    (hday : (date.day : Int) = d + 1) :
    date.toDays =
      era * 146097 + (y * 365 + y / 4 - y / 100 + ((153 * m + 2) / 5 + d)) - 719468 := by
  have hmarch : ((date.month : Int) + 9) % 12 = m := by
    rw [hmonth]
    split <;> omega
  have hyear' : (if date.month ≤ 2 then date.year - 1 else date.year) = y + era * 400 := by
    rw [hyear]
    split <;> omega
  have hera : (y + era * 400) / 400 = era := by omega
  have hyoe : (y + era * 400) % 400 = y := by omega
  simp only [toDays, hmarch, hyear', hera, hyoe, hday]
  omega

theorem toDays_ofDays (n : Int) : (ofDays n).toDays = n := by
  obtain ⟨era, a, b, c, d, m, hin, hm, hn, hyear, hmonth, hday⟩ := exists_ofDays n
  obtain ⟨ha, hb, hc, -, -⟩ := id hin
  rw [toDays_of_march (by omega) hm.month hyear hmonth hday, hin.div_four, hin.div_hundred]
  omega

theorem isLeapYear_of_inEra {era a b : Int} (hb : 0 ≤ b ∧ b ≤ 24) (h : b = 24 → a = 3) :
    isLeapYear (100 * a + 4 * b + 3 + era * 400 + 1) = true := by
  simp only [isLeapYear, Bool.and_eq_true, Bool.or_eq_true, decide_eq_true_eq]
  omega

theorem isValid_ofDays (n : Int) : (ofDays n).isValid = true := by
  obtain ⟨era, a, b, c, d, m, hin, hm, hn, hyear, hmonth, hday⟩ := exists_ofDays n
  obtain ⟨-, hb, -, hd, hleap⟩ := hin
  obtain ⟨hm, hfirst, hlast⟩ := hm
  clear hn
  generalize ofDays n = date at *
  have hrange : 1 ≤ date.month ∧ date.month ≤ 12 := by split at hmonth <;> omega
  have hfirst' : 1 ≤ date.day := by omega
  have hlength : date.day ≤ daysInMonth date.year date.month := by
    rw [daysInMonth]
    by_cases hfeb : date.month = 2
    · -- February ends the year, and only in leap years with a day more.
      have hm11 : m = 11 := by split at hmonth <;> omega
      subst hm11
      by_cases hlong : d = 365
      · obtain ⟨rfl, hb24⟩ := hleap hlong
        rw [if_pos (by omega : date.month ≤ 2)] at hyear
        rw [if_pos hfeb, hyear, isLeapYear_of_inEra hb hb24, if_pos rfl]
        omega
      · rw [if_pos hfeb]
        split <;> omega
    · rw [if_neg hfeb]
      have hcase : m = 0 ∨ m = 1 ∨ m = 2 ∨ m = 3 ∨ m = 4 ∨ m = 5 ∨ m = 6 ∨ m = 7 ∨ m = 8 ∨
          m = 9 ∨ m = 10 := by split at hmonth <;> omega
      clear hyear hleap
      rcases hcase with h | h | h | h | h | h | h | h | h | h | h <;> subst h <;>
        simp only [Int.reduceLT, if_true, if_false] at hmonth <;> split <;> omega
  simp [isValid, hrange, hfirst', hlength]

end Date

end ControlPlane
