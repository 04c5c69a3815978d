import Mathlib.Algebra.Group.Nat.Defs
import PatternSync.Wire.Shape

/-!
# Reading back instants

An instant in a year that the clock can show is read back from its own text
(`ofText_text`), and every instant that is read lies in such a year (`inRange_of_ofText`).
The proof goes through the text from left to right: each reader takes exactly the characters that
the writer put there.
-/

namespace PatternSync

open Text

theorem daysInMonth_le (year : Int) (month : Nat) : daysInMonth year month ≤ 31 := by
  unfold daysInMonth
  repeat' split
  all_goals omega

/-! ## Digits -/

namespace Text

theorem toList_padded (width n : Nat) :
    (padded width n).toList
      = List.replicate (width - (Nat.toDigits 10 n).length) '0' ++ Nat.toDigits 10 n := by
  have hlength : (toString n).length = (Nat.toDigits 10 n).length := by
    rw [← String.length_toList, Nat.toString_eq_ofList_toDigits, String.toList_ofList]
  rw [padded, String.toList_append, String.toList_ofList, hlength,
    Nat.toString_eq_ofList_toDigits, String.toList_ofList]

theorem digitsValue_padded (width n : Nat) : digitsValue (padded width n).toList = n := by
  rw [toList_padded, digitsValue_eq, Nat.ofDigitChars_append, Nat.ofDigitChars_replicate_zero,
    Nat.mul_zero, Nat.ofDigitChars_ten_toDigits]

theorem isDigit_of_mem_padded {width n : Nat} {c : Char} (h : c ∈ (padded width n).toList) :
    c.isDigit = true := by
  rw [toList_padded] at h
  rcases List.mem_append.1 h with hzero | hdigit
  · rw [List.eq_of_mem_replicate hzero]
    rfl
  · exact Nat.isDigit_of_mem_toDigits (by decide) (by decide) hdigit

theorem padded_ne_nil (width n : Nat) : (padded width n).toList ≠ [] := by
  rw [toList_padded]
  exact List.append_ne_nil_of_right_ne_nil _ Nat.toDigits_ne_nil

theorem length_padded {width n : Nat} (hwidth : 0 < width) (h : n < 10 ^ width) :
    (padded width n).toList.length = width := by
  have hle := (Nat.length_toDigits_le_iff (by decide : 1 < 10) hwidth).2 h
  rw [toList_padded, List.length_append, List.length_replicate]
  omega

theorem isBlank_of_isDigit {c : Char} (h : c.isDigit = true) : isBlank c = false := by
  simp only [Char.isDigit, Bool.and_eq_true, decide_eq_true_eq, ge_iff_le,
    UInt32.le_iff_toNat_le] at h
  have hlow : 48 ≤ c.toNat := h.1
  have hhigh : c.toNat ≤ 57 := h.2
  simp only [isBlank, Bool.or_eq_false_iff, Bool.and_eq_false_iff, decide_eq_false_iff_not,
    beq_eq_false_iff_ne]
  omega

end Text

namespace Rfc3339

/-! ## Running a reader -/

section

variable {α β : Type} {cs cs' : List Char}

theorem bind_ok {r : Reader α} {f : α → Reader β} {a : α} (h : r cs = .ok (a, cs')) :
    (r >>= f) cs = f a cs' := by
  show (r cs >>= fun p => f p.1 p.2) = _
  rw [h]
  rfl

theorem bind_lift {e : Except TimeProblem α} {f : α → Reader β} {a : α} (h : e = .ok a) :
    ((liftM e : Reader α) >>= f) cs = f a cs := by
  rw [h]
  rfl

theorem bind_get (f : List Char → Reader β) : (get >>= f) cs = f cs cs := rfl

theorem bind_set (f : PUnit → Reader β) : (set cs' >>= f) cs = f ⟨⟩ cs' := rfl

end

/-! ## Single readers -/

variable {rest : List Char}

/-- The limit of a reader of digits lets it take exactly the digits `ds` in front of `rest`. -/
def Stops (limit : Option Nat) (ds rest : List Char) : Prop :=
  limit = some ds.length ∨ (limit.all (ds.length ≤ ·) ∧ rest.head?.all (!·.isDigit))

theorem takeWhile_isDigit {limit : Option Nat} {ds : List Char}
    (hds : ∀ c ∈ ds, c.isDigit = true) (hstops : Stops limit ds rest) :
    (limit.elim (ds ++ rest) (ds ++ rest).take).takeWhile Char.isDigit = ds := by
  have hfirst : ∀ cs : List Char, cs.head?.all (!·.isDigit) = true →
      (ds ++ cs).takeWhile Char.isDigit = ds := by
    intro cs hcs
    rw [List.takeWhile_append_of_pos hds]
    cases cs with
    | nil => simp
    | cons c more =>
      have hc : c.isDigit = false := by simpa using hcs
      simp [hc]
  rcases hstops with rfl | ⟨hlimit, hrest⟩
  · simpa using hfirst [] rfl
  · cases limit with
    | none => exact hfirst rest hrest
    | some n =>
      have hn : ds.length ≤ n := by simpa using hlimit
      rw [Option.elim_some, List.take_append, List.take_of_length_le hn]
      refine hfirst _ ?_
      cases rest with
      | nil => simp
      | cons c more =>
        cases n - ds.length with
        | zero => rfl
        | succ k => simpa using hrest

theorem digits_append {limit : Option Nat} {ds : List Char} (hne : ds ≠ [])
    (hds : ∀ c ∈ ds, c.isDigit = true) (hstops : Stops limit ds rest) :
    digits limit (ds ++ rest) = .ok (ds, rest) := by
  have htake := takeWhile_isDigit hds hstops
  cases ds with
  | nil => exact absurd rfl hne
  | cons c more =>
    have hc := hds c List.mem_cons_self
    simp only [List.cons_append] at htake
    simp [digits, hc, htake]

theorem blanks_eq {cs : List Char} (h : cs.head?.all (!isBlank ·)) :
    blanks cs = .ok ((), cs) := by
  have htrim : trimStart cs = cs := by
    cases cs with
    | nil => rfl
    | cons c more =>
      have hc : isBlank c = false := by simpa using h
      simp [trimStart, hc]
  show Except.ok ((), trimStart cs) = _
  rw [htrim]

theorem number_padded {limit : Option Nat} {width n : Nat}
    (hstops : Stops limit (padded width n).toList rest) :
    number limit ((padded width n).toList ++ rest) = .ok (n, rest) := by
  have hblanks : blanks ((padded width n).toList ++ rest)
      = .ok ((), (padded width n).toList ++ rest) := by
    apply blanks_eq
    cases h : (padded width n).toList with
    | nil => exact absurd h (padded_ne_nil width n)
    | cons c more =>
      have hc : c ∈ (padded width n).toList := h ▸ List.mem_cons_self
      simp [isBlank_of_isDigit (isDigit_of_mem_padded hc)]
  have hdigits := digits_append (padded_ne_nil width n) (fun c => isDigit_of_mem_padded) hstops
  rw [number, bind_ok hblanks, bind_ok hdigits, digitsValue_padded]
  rfl

theorem numberIn_padded {low high n : Nat} (hlow : low ≤ n) (hhigh : n ≤ high) (h : n < 100) :
    numberIn low high ((padded 2 n).toList ++ rest) = .ok (n, rest) := by
  have hstops : Stops (some 2) (padded 2 n).toList rest :=
    .inl (congrArg some (length_padded (by decide) h).symm)
  rw [numberIn, bind_ok (number_padded hstops), if_pos ⟨hlow, hhigh⟩]
  rfl

theorem separator_cons {c : Char} (h : isBlank c = false) :
    separator c (c :: rest) = .ok ((), rest) := by
  have hblanks : blanks (c :: rest) = .ok ((), c :: rest) := blanks_eq (by simp [h])
  rw [separator, bind_ok hblanks, bind_get]
  show (if c = c then set rest else throw .malformed : Reader PUnit) (c :: rest) = _
  rw [if_pos rfl]
  rfl

/-! ## Years -/

section

variable {cs ds : List Char}

theorem anyYear_minus (h : digits none cs = .ok (ds, rest)) :
    anyYear ('-' :: cs) = .ok (-(digitsValue ds : Int), rest) := by
  have hblanks : blanks ('-' :: cs) = .ok ((), '-' :: cs) := blanks_eq rfl
  rw [anyYear, bind_ok hblanks, bind_get]
  show (set _ >>= _ : Reader Int) _ = _
  rw [bind_set, bind_ok h]
  rfl

theorem anyYear_plus (h : digits none cs = .ok (ds, rest)) :
    anyYear ('+' :: cs) = .ok ((digitsValue ds : Int), rest) := by
  have hblanks : blanks ('+' :: cs) = .ok ((), '+' :: cs) := blanks_eq rfl
  rw [anyYear, bind_ok hblanks, bind_get]
  show (set _ >>= _ : Reader Int) _ = _
  rw [bind_set, bind_ok h]
  rfl

theorem anyYear_digit {c : Char} {n : Nat} (hc : c.isDigit = true)
    (h : number (some 4) (c :: cs) = .ok (n, rest)) :
    anyYear (c :: cs) = .ok ((n : Int), rest) := by
  have hblanks : blanks (c :: cs) = .ok ((), c :: cs) :=
    blanks_eq (by simp [isBlank_of_isDigit hc])
  have hminus : c ≠ '-' := by
    rintro rfl
    cases hc
  have hplus : c ≠ '+' := by
    rintro rfl
    cases hc
  rw [anyYear, bind_ok hblanks, bind_get]
  have hread : (number (some 4) >>= fun n => pure (n : Int) : Reader Int) (c :: cs)
      = .ok ((n : Int), rest) := bind_ok h
  rw [← hread]
  refine congrFun ?_ (c :: cs)
  split
  · rename_i heq
    exact absurd (List.cons.inj heq).1 hminus
  · rename_i heq
    exact absurd (List.cons.inj heq).1 hplus
  · rfl

end

/-- A year in front of another character than a digit is read as it was written. -/
theorem anyYear_yearText {y : Int} (hrest : rest.head?.all (!·.isDigit)) :
    anyYear ((Instant.yearText y).toList ++ rest) = .ok (y, rest) := by
  unfold Instant.yearText
  split
  · rename_i hplain
    have hstops : Stops (some 4) (padded 4 y.toNat).toList rest :=
      .inl (congrArg some (length_padded (by decide) (by omega)).symm)
    have hnumber := number_padded hstops
    rw [← Int.toNat_of_nonneg hplain.1, Int.toNat_natCast]
    cases h : (padded 4 y.toNat).toList with
    | nil => exact absurd h (padded_ne_nil _ _)
    | cons c more =>
      rw [h] at hnumber
      exact anyYear_digit (isDigit_of_mem_padded (h ▸ List.mem_cons_self)) hnumber
  · rename_i hsigned
    have hdigits : digits none ((padded 4 y.natAbs).toList ++ rest)
        = .ok ((padded 4 y.natAbs).toList, rest) :=
      digits_append (padded_ne_nil _ _) (fun c => isDigit_of_mem_padded) (.inr ⟨rfl, hrest⟩)
    split
    · have hy : y = -(y.natAbs : Int) := by omega
      have hread := anyYear_minus hdigits
      rw [digitsValue_padded, ← hy] at hread
      simpa using hread
    · have hy : y = (y.natAbs : Int) := by omega
      have hread := anyYear_plus hdigits
      rw [digitsValue_padded, ← hy] at hread
      simpa using hread

theorem year_yearText {y : Int} (hy : inRange y = true) (hrest : rest.head?.all (!·.isDigit)) :
    year ((Instant.yearText y).toList ++ rest) = .ok (y, rest) := by
  simp only [inRange, Bool.and_eq_true, decide_eq_true_eq] at hy
  rw [year, bind_ok (anyYear_yearText hrest), if_pos (by omega)]
  rfl

/-! ## The end of the text -/

theorem fraction_point (width : Nat) {n : Nat} (hwidth : 0 < width) (hnine : width ≤ 9)
    (hn : n < 10 ^ width) :
    fraction ('.' :: ((padded width n).toList ++ ['Z'])) = .ok (n * 10 ^ (9 - width), ['Z']) := by
  have hlength := length_padded hwidth hn
  have hdigits : digits (some 9) ((padded width n).toList ++ ['Z'])
      = .ok ((padded width n).toList, ['Z']) :=
    digits_append (padded_ne_nil _ _) (fun c => isDigit_of_mem_padded)
      (.inr ⟨by simpa [hlength] using hnine, rfl⟩)
  rw [fraction, bind_get]
  show (set _ >>= _ : Reader Nat) _ = _
  rw [bind_set, bind_ok hdigits]
  show Except.ok (digitsValue _ * Nat.pow 10 (9 - _), ['Z']) = _
  rw [digitsValue_padded, hlength]
  rfl

theorem fraction_fractionText {nanos : Nat} (h : nanos < 1000000000) :
    fraction ((Instant.fractionText nanos).toList ++ ['Z']) = .ok (nanos, ['Z']) := by
  unfold Instant.fractionText
  split
  · rename_i hzero
    rw [hzero]
    rfl
  · split
    · rename_i hmillis
      have hread := fraction_point 3 (n := nanos / 1000000) (by decide) (by decide)
        (by omega)
      have hvalue : nanos / 1000000 * 10 ^ (9 - 3) = nanos := by omega
      rw [hvalue] at hread
      simpa using hread
    · split
      · rename_i hmicros
        have hread := fraction_point 6 (n := nanos / 1000) (by decide) (by decide)
          (by omega)
        have hvalue : nanos / 1000 * 10 ^ (9 - 6) = nanos := by omega
        rw [hvalue] at hread
        simpa using hread
      · have hread := fraction_point 9 (n := nanos) (by decide) (by decide) h
        simpa using hread

theorem date_of? (d : Date) : Date.of? d.year d.month d.day = some d := by
  rw [Date.of?, dif_pos d.valid]

/-- An instant that is shown by a clock set to Universal Time. -/
theorem ofLocal_zero (t : Instant) : Instant.ofLocal 0 t = t := by
  have hminute := t.minute.isLt
  have hlow : ¬ (t.minute.val : Int) < 0 := by omega
  have hhigh : (t.minute.val : Int) < 1440 := by omega
  have hmod : ((t.minute.val : Int) % 1440).toNat = t.minute.val := by omega
  simp [Instant.ofLocal, hlow, hhigh, hmod]

theorem dateEnd_cons : dateEnd ('T' :: rest) = .ok ((), rest) := rfl

theorem offset_universal : offset ['Z'] = .ok (0, []) := rfl

theorem instant_text {t : Instant} (ht : inRange t.date.year = true) :
    instant t.text.toList = .ok (t, []) := by
  have hminute := t.minute.isLt
  have hsecond := t.second.isLt
  obtain ⟨hmonth, hmonth', hday, hday'⟩ := t.date.valid
  have hday31 : t.date.day ≤ 31 := Nat.le_trans hday' (daysInMonth_le _ _)
  have hdash : isBlank '-' = false := by decide
  have hcolon : isBlank ':' = false := by decide
  have hdate : dateIn t.date.year t.date.month t.date.day = .ok t.date := by
    rw [dateIn, if_pos ht, date_of?]
  have hclock : (60 * (t.minute.val / 60) + t.minute.val % 60) % 1440 = t.minute.val := by omega
  have hshown : ({
      date := t.date
      minute := ⟨(60 * (t.minute.val / 60) + t.minute.val % 60) % 1440, Nat.mod_lt _ (by decide)⟩
      second := ⟨t.second.val % 61, Nat.mod_lt _ (by decide)⟩
      nanos := ⟨t.nanos.val % 1000000000, Nat.mod_lt _ (by decide)⟩ } : Instant) = t := by
    simp only [hclock, Nat.mod_eq_of_lt hsecond, Nat.mod_eq_of_lt t.nanos.isLt]
  simp only [Instant.text, String.toList_append, List.append_assoc, String.reduceToList,
    List.cons_append, List.nil_append]
  rw [instant, bind_ok (year_yearText ht rfl), bind_ok (separator_cons hdash),
    bind_ok (numberIn_padded hmonth hmonth' (by omega)), bind_ok (separator_cons hdash),
    bind_ok (numberIn_padded hday hday31 (by omega)), bind_ok dateEnd_cons,
    bind_ok (numberIn_padded (Nat.zero_le _) (by omega) (by omega)),
    bind_ok (separator_cons hcolon),
    bind_ok (numberIn_padded (Nat.zero_le _) (by omega) (by omega)),
    bind_ok (separator_cons hcolon),
    bind_ok (numberIn_padded (Nat.zero_le _) (by omega) (by omega)),
    bind_ok (fraction_fractionText t.nanos.isLt), bind_ok (blanks_eq rfl),
    bind_ok offset_universal, bind_ok (blanks_eq rfl), bind_get]
  simp only [ne_eq, not_true_eq_false, if_false]
  rw [bind_lift hdate]
  simp only [hshown, ofLocal_zero, ht, if_true]
  rfl

/-! ## What is read -/

def Yields {α : Type} (right : α → Prop) (r : Reader α) : Prop :=
  ∀ cs a rest, r cs = .ok (a, rest) → right a

section

variable {α β : Type} {right : β → Prop}

theorem yields_bind {r : Reader α} {f : α → Reader β} (h : ∀ a, Yields right (f a)) :
    Yields right (r >>= f) := by
  intro cs b rest hread
  have hsplit : (r cs >>= fun p => f p.1 p.2) = .ok (b, rest) := hread
  cases hr : r cs with
  | error p =>
    rw [hr] at hsplit
    cases hsplit
  | ok p =>
    rw [hr] at hsplit
    exact h p.1 p.2 b rest hsplit

theorem yields_pure {b : β} (h : right b) : Yields right (pure b : Reader β) := by
  intro cs b' rest hread
  cases hread
  exact h

theorem yields_throw (p : TimeProblem) : Yields right (throw p : Reader β) := by
  intro cs b rest hread
  cases hread

end

/-- The end of the reader of instants: `shown` is what a clock `ahead` of Universal Time shows on
a day. -/
theorem yields_closing (ahead : Int) (shown : Date → Instant) (day : Except TimeProblem Date) :
    Yields (fun t => inRange t.date.year = true) (do
      let date ← (liftM day : Reader Date)
      if 1440 ≤ ahead.natAbs then throw .outOfRange
      let t := Instant.ofLocal ahead (shown date)
      if inRange t.date.year then return t else throw .impossible) := by
  have hcheck : ∀ t : Instant, Yields (fun t => inRange t.date.year = true)
      (if inRange t.date.year then pure t else throw .impossible : Reader Instant) := by
    intro t
    split
    · rename_i ht
      exact yields_pure ht
    · exact yields_throw _
  refine yields_bind fun _ => ?_
  dsimp only
  split
  · exact yields_bind fun _ => hcheck _
  · exact hcheck _

theorem yields_instant : Yields (fun t => inRange t.date.year = true) instant := by
  unfold instant
  iterate 15 refine yields_bind fun _ => ?_
  refine yields_bind fun left => ?_
  dsimp only
  by_cases hleft : left ≠ []
  · rw [if_pos hleft]
    exact yields_bind fun _ => yields_closing _ _ _
  · rw [if_neg hleft]
    exact yields_closing _ _ _

end Rfc3339

namespace Instant

open Rfc3339

/-- An instant in a year that the clock can show is read back from its text. -/
theorem ofText_text {t : Instant} (ht : inRange t.date.year = true) : ofText t.text = .ok t := by
  show (Rfc3339.instant t.text.toList).map Prod.fst = _
  rw [instant_text ht]
  rfl

/-- Every instant that is read lies in a year that the clock can show. -/
theorem inRange_of_ofText {s : String} {t : Instant} (h : ofText s = .ok t) :
    inRange t.date.year = true := by
  have hread : (Rfc3339.instant s.toList).map Prod.fst = .ok t := h
  cases hr : Rfc3339.instant s.toList with
  | error p =>
    rw [hr] at hread
    cases hread
  | ok p =>
    rw [hr] at hread
    cases hread
    exact yields_instant _ _ _ hr

end Instant

end PatternSync
