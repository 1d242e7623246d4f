import Grabatus.Python.Str

/-!
# Python's `datetime`

Dates and timestamps as the fields they are made of. A timestamp without `utcoffset` is naive.
`isoformat` is injective (`Datetime.isoformat_inj`).

Out of scope: the names of timezones, and `fold`; a timezone is its offset.
-/

namespace Grabatus.Python

/-- `date`. -/
structure Date where
  year : Nat
  month : Nat
  day : Nat
  deriving DecidableEq

/-- `d < e`. -/
def Date.lt (d e : Date) : Bool :=
  decide (d.year < e.year ∨ (d.year = e.year ∧
    (d.month < e.month ∨ (d.month = e.month ∧ d.day < e.day))))

/-- `datetime`; the offset from UTC is in microseconds. -/
structure Datetime where
  date : Date
  hour : Nat
  minute : Nat
  second : Nat
  microsecond : Nat
  utcoffset : Option Int
  deriving DecidableEq

/-- `n` in decimal over at least `width` digits. -/
def zeroPad (width n : Nat) : String :=
  let digits := Nat.toDigits 10 n
  String.ofList (List.replicate (width - digits.length) '0' ++ digits)

/-- `d.isoformat()` of a date. -/
def Date.isoformat (d : Date) : String :=
  zeroPad 4 d.year ++ "-" ++ zeroPad 2 d.month ++ "-" ++ zeroPad 2 d.day

/-- The `+HH:MM[:SS[.ffffff]]` of a timestamp with a timezone. -/
def isoOffset : Option Int → String
  | none => ""
  | some offset =>
    let seconds := offset.natAbs / 1000000
    let micros := offset.natAbs % 1000000
    (if offset < 0 then "-" else "+") ++ zeroPad 2 (seconds / 3600) ++ ":" ++
      zeroPad 2 (seconds / 60 % 60) ++
        (if seconds % 60 = 0 ∧ micros = 0 then "" else ":" ++ zeroPad 2 (seconds % 60)) ++
          (if micros = 0 then "" else "." ++ zeroPad 6 micros)

/-- `t.isoformat()`. -/
def Datetime.isoformat (t : Datetime) : String :=
  t.date.isoformat ++ "T" ++ zeroPad 2 t.hour ++ ":" ++ zeroPad 2 t.minute ++ ":" ++
    zeroPad 2 t.second ++
      (if t.microsecond = 0 then "" else "." ++ zeroPad 6 t.microsecond) ++ isoOffset t.utcoffset

example : (⟨⟨2026, 5, 1⟩, 9, 30, 0, 0, some 0⟩ : Datetime).isoformat =
    "2026-05-01T09:30:00+00:00" := by decide

/-! ## A timestamp from its text

Each number is a run of digits, and what stands between two of them is none: the text is cut into
its numbers from left to right. -/

/-- The text does not start with a digit. -/
def StartsOffDigit (r : List Char) : Prop := ∀ c ∈ r.head?, c.isDigit = false

theorem startsOffDigit_cons {c : Char} {r : List Char} (h : c.isDigit = false) :
    StartsOffDigit (c :: r) := by
  rintro d hd
  obtain rfl := Option.some.inj hd
  exact h

theorem startsOffDigit_nil : StartsOffDigit [] := nofun

theorem takeWhile_isDigit_append {ds r : List Char} (hds : ∀ c ∈ ds, c.isDigit = true)
    (hr : StartsOffDigit r) : (ds ++ r).takeWhile Char.isDigit = ds := by
  rw [List.takeWhile_append_of_pos hds]
  rcases r with - | ⟨c, r⟩
  · simp
  · rw [List.takeWhile_cons_of_neg (by simp [hr c rfl]), List.append_nil]

theorem isDigit_zeroPad {width n : Nat} : ∀ c ∈ (zeroPad width n).toList, c.isDigit = true := by
  intro c hc
  unfold zeroPad at hc
  rw [String.toList_ofList, List.mem_append] at hc
  rcases hc with hc | hc
  · obtain rfl := List.eq_of_mem_replicate hc
    rfl
  · exact Nat.isDigit_of_mem_toDigits (by decide) (by decide) hc

/-- A number reads back from its padded text. -/
theorem ofDigitChars_zeroPad (width n : Nat) :
    Nat.ofDigitChars 10 (zeroPad width n).toList 0 = n := by
  unfold zeroPad
  rw [String.toList_ofList, Nat.ofDigitChars_append, Nat.ofDigitChars_replicate_zero, Nat.mul_zero,
    Nat.ofDigitChars_ten_toDigits]

/-- **A number and what follows it** are determined by their text. -/
theorem zeroPad_append_inj {width m n : Nat} {r r' : List Char} (hr : StartsOffDigit r)
    (hr' : StartsOffDigit r')
    (h : (zeroPad width m).toList ++ r = (zeroPad width n).toList ++ r') : m = n ∧ r = r' := by
  have hdigits : (zeroPad width m).toList = (zeroPad width n).toList := by
    rw [← takeWhile_isDigit_append isDigit_zeroPad hr, h,
      takeWhile_isDigit_append isDigit_zeroPad hr']
  refine ⟨?_, List.append_cancel_left (hdigits ▸ h)⟩
  rw [← ofDigitChars_zeroPad width m, hdigits, ofDigitChars_zeroPad]

/-- A number between two separators. -/
theorem zeroPad_cons_inj {width m n : Nat} {c : Char} {r r' : List Char} (hc : c.isDigit = false)
    (h : (zeroPad width m).toList ++ c :: r = (zeroPad width n).toList ++ c :: r') :
    m = n ∧ r = r' := by
  obtain ⟨hmn, hcons⟩ := zeroPad_append_inj (startsOffDigit_cons hc) (startsOffDigit_cons hc) h
  exact ⟨hmn, (List.cons.inj hcons).2⟩

/-- The `.ffffff` of a number of microseconds; nothing for none. -/
def fraction (micros : Nat) : List Char :=
  if micros = 0 then [] else '.' :: (zeroPad 6 micros).toList

theorem startsOffDigit_fraction_append {m : Nat} {r : List Char} (hr : StartsOffDigit r) :
    StartsOffDigit (fraction m ++ r) := by
  unfold fraction
  split
  · exact hr
  · exact startsOffDigit_cons rfl

/-- **Microseconds and what follows them**, where that is no `.`. -/
theorem fraction_append_inj {m n : Nat} {r r' : List Char} (hr : StartsOffDigit r)
    (hr' : StartsOffDigit r') (hdot : r.head? ≠ some '.') (hdot' : r'.head? ≠ some '.')
    (h : fraction m ++ r = fraction n ++ r') : m = n ∧ r = r' := by
  unfold fraction at h
  by_cases hm : m = 0
  · by_cases hn : n = 0
    · rw [if_pos hm, if_pos hn] at h
      exact ⟨hm.trans hn.symm, h⟩
    · rw [if_pos hm, if_neg hn] at h
      have hr : r = '.' :: ((zeroPad 6 n).toList ++ r') := h
      exact absurd (by rw [hr]; rfl) hdot
  · by_cases hn : n = 0
    · rw [if_neg hm, if_pos hn] at h
      have hr' : r' = '.' :: ((zeroPad 6 m).toList ++ r) := h.symm
      exact absurd (by rw [hr']; rfl) hdot'
    · rw [if_neg hm, if_neg hn] at h
      exact zeroPad_append_inj hr hr' (List.cons.inj h).2

/-- The seconds and microseconds of an offset, as its text has them. -/
def offsetTail (second micros : Nat) : List Char :=
  if second = 0 ∧ micros = 0 then []
  else ':' :: ((zeroPad 2 second).toList ++ fraction micros)

theorem startsOffDigit_offsetTail (second micros : Nat) :
    StartsOffDigit (offsetTail second micros) := by
  unfold offsetTail
  split
  · exact startsOffDigit_nil
  · exact startsOffDigit_cons rfl

theorem offsetTail_inj {a b m n : Nat} (h : offsetTail a m = offsetTail b n) : a = b ∧ m = n := by
  unfold offsetTail at h
  by_cases ham : a = 0 ∧ m = 0
  · by_cases hbn : b = 0 ∧ n = 0
    · exact ⟨ham.1.trans hbn.1.symm, ham.2.trans hbn.2.symm⟩
    · rw [if_pos ham, if_neg hbn] at h
      exact nomatch h
  · by_cases hbn : b = 0 ∧ n = 0
    · rw [if_neg ham, if_pos hbn] at h
      exact nomatch h
    · rw [if_neg ham, if_neg hbn] at h
      have hnil {k : Nat} : StartsOffDigit (fraction k) := by
        simpa using startsOffDigit_fraction_append (m := k) startsOffDigit_nil
      obtain ⟨hab, hfraction⟩ := zeroPad_append_inj hnil hnil (List.cons.inj h).2
      have happend : fraction m ++ [] = fraction n ++ [] := by rw [hfraction]
      exact ⟨hab, (fraction_append_inj startsOffDigit_nil startsOffDigit_nil nofun nofun happend).1⟩

/-- The text of an offset, part by part. -/
theorem toList_isoOffset (offset : Int) : (isoOffset (some offset)).toList =
    (if offset < 0 then '-' else '+') ::
      ((zeroPad 2 (offset.natAbs / 1000000 / 3600)).toList ++ ':' ::
        ((zeroPad 2 (offset.natAbs / 1000000 / 60 % 60)).toList ++
          offsetTail (offset.natAbs / 1000000 % 60) (offset.natAbs % 1000000))) := by
  have hsign : (if offset < 0 then "-" else "+").toList = [if offset < 0 then '-' else '+'] := by
    split <;> rfl
  have htail : ((if offset.natAbs / 1000000 % 60 = 0 ∧ offset.natAbs % 1000000 = 0 then "" else
      ":" ++ zeroPad 2 (offset.natAbs / 1000000 % 60)) ++
        (if offset.natAbs % 1000000 = 0 then "" else
          "." ++ zeroPad 6 (offset.natAbs % 1000000))).toList =
      offsetTail (offset.natAbs / 1000000 % 60) (offset.natAbs % 1000000) := by
    unfold offsetTail fraction
    by_cases hmicros : offset.natAbs % 1000000 = 0
    · by_cases hsecond : offset.natAbs / 1000000 % 60 = 0 <;> simp [hmicros, hsecond]
    · simp [hmicros]
  unfold isoOffset
  simp only
  rw [String.append_assoc, String.toList_append, htail]
  simp [String.toList_append, hsign]

theorem isoOffset_none : (isoOffset none).toList = [] := rfl

theorem startsOffDigit_isoOffset (offset : Option Int) :
    StartsOffDigit (isoOffset offset).toList ∧ (isoOffset offset).toList.head? ≠ some '.' := by
  rcases offset with - | offset
  · exact ⟨startsOffDigit_nil, nofun⟩
  · rw [toList_isoOffset]
    by_cases hneg : offset < 0
    · rw [if_pos hneg]
      exact ⟨startsOffDigit_cons rfl, by simp⟩
    · rw [if_neg hneg]
      exact ⟨startsOffDigit_cons rfl, by simp⟩

/-- **An offset is determined by its text.** -/
theorem isoOffset_inj {o o' : Option Int} (h : (isoOffset o).toList = (isoOffset o').toList) :
    o = o' := by
  rcases o with - | o <;> rcases o' with - | o'
  · rfl
  · rw [isoOffset_none, toList_isoOffset] at h
    exact nomatch h
  · rw [isoOffset_none, toList_isoOffset] at h
    exact nomatch h
  · rw [toList_isoOffset, toList_isoOffset] at h
    obtain ⟨hsign, h⟩ := List.cons.inj h
    obtain ⟨hhour, h⟩ := zeroPad_cons_inj rfl h
    obtain ⟨hminute, h⟩ := zeroPad_append_inj (startsOffDigit_offsetTail _ _)
      (startsOffDigit_offsetTail _ _) h
    obtain ⟨hsecond, hmicros⟩ := offsetTail_inj h
    have habs : o.natAbs = o'.natAbs := by omega
    by_cases hneg : o < 0
    · have hneg' : o' < 0 := by
        by_contra hpos
        rw [if_pos hneg, if_neg hpos] at hsign
        exact absurd hsign (by decide)
      exact congrArg some (by omega)
    · have hpos' : ¬ o' < 0 := by
        intro hneg'
        rw [if_neg hneg, if_pos hneg'] at hsign
        exact absurd hsign (by decide)
      exact congrArg some (by omega)

/-- The text of a timestamp, part by part. -/
theorem Datetime.toList_isoformat (t : Datetime) : t.isoformat.toList =
    (zeroPad 4 t.date.year).toList ++ '-' :: ((zeroPad 2 t.date.month).toList ++ '-' ::
      ((zeroPad 2 t.date.day).toList ++ 'T' :: ((zeroPad 2 t.hour).toList ++ ':' ::
        ((zeroPad 2 t.minute).toList ++ ':' :: ((zeroPad 2 t.second).toList ++
          (fraction t.microsecond ++ (isoOffset t.utcoffset).toList)))))) := by
  have hfraction : (if t.microsecond = 0 then "" else "." ++ zeroPad 6 t.microsecond).toList =
      fraction t.microsecond := by
    unfold fraction
    by_cases hmicros : t.microsecond = 0 <;> simp [hmicros]
  simp [isoformat, Date.isoformat, String.toList_append, hfraction]

/-- **`isoformat` is injective.** -/
theorem Datetime.isoformat_inj {t t' : Datetime} (h : t.isoformat = t'.isoformat) : t = t' := by
  have h := congrArg String.toList h
  rw [toList_isoformat, toList_isoformat] at h
  obtain ⟨hyear, h⟩ := zeroPad_cons_inj rfl h
  obtain ⟨hmonth, h⟩ := zeroPad_cons_inj rfl h
  obtain ⟨hday, h⟩ := zeroPad_cons_inj rfl h
  obtain ⟨hhour, h⟩ := zeroPad_cons_inj rfl h
  obtain ⟨hminute, h⟩ := zeroPad_cons_inj rfl h
  obtain ⟨hoff, hdot⟩ := startsOffDigit_isoOffset t.utcoffset
  obtain ⟨hoff', hdot'⟩ := startsOffDigit_isoOffset t'.utcoffset
  obtain ⟨hsecond, h⟩ := zeroPad_append_inj (startsOffDigit_fraction_append hoff)
    (startsOffDigit_fraction_append hoff') h
  obtain ⟨hmicros, h⟩ := fraction_append_inj hoff hoff' hdot hdot' h
  have hoffset := isoOffset_inj h
  rcases t with ⟨⟨year, month, day⟩, hour, minute, second, micros, offset⟩
  rcases t' with ⟨⟨year', month', day'⟩, hour', minute', second', micros', offset'⟩
  obtain rfl : year = year' := hyear
  obtain rfl : month = month' := hmonth
  obtain rfl : day = day' := hday
  obtain rfl : hour = hour' := hhour
  obtain rfl : minute = minute' := hminute
  obtain rfl : second = second' := hsecond
  obtain rfl : micros = micros' := hmicros
  obtain rfl : offset = offset' := hoffset
  rfl

end Grabatus.Python
