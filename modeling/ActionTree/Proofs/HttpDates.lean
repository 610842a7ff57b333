import Mathlib.Data.Nat.Digits.Defs
import ActionTree.Moment.Reader
import ActionTree.Proofs.Calendar
import ActionTree.Proofs.Revalidation
import ActionTree.Proofs.Segments

/-!
# ActionTree.Proofs.HttpDates

What becomes of a date that a client was told to compare with, when the client sends it back.

1. a moment that was read is one that a clock shows: a leap second is the one behind the last
   second of a minute, wherever on earth (`Moment.leapsLast_of_read?`);
2. a number with enough digits, and a name of three letters, is read where it is written,
   whatever follows it (`readDigits_append`, `IsShortName.read`); so a mail date is read part by
   part (`readMailDate_chars`);
3. the parts of a moment are put together to the moment (`Moment.ofParts?_parts`).

An HTTP date is a mail date of those parts, so it is read as the moment that it shows
(`Moment.read?_httpDate`).
-/

namespace ActionTree

open Text

/-! ## Leap seconds -/

/-- A leap second is the one behind the last second of a minute. -/
def Moment.LeapsLast (t : Moment) : Prop := t.leap = true → t.seconds % 60 = 59

namespace Moment

theorem leapsLast_ofSeconds? {n : Int} {t : Moment} (h : ofSeconds? n = some t) : t.LeapsLast := by
  rw [ofSeconds?] at h
  split at h
  · cases h
    exact fun hleap => absurd hleap Bool.false_ne_true
  · contradiction

/-- Offsets from Greenwich are whole minutes, so they leave the last second where it is. -/
theorem leapsLast_ofParts? {date : Date} {hour minute second : Nat} {offset : Int} {t : Moment}
    (hoffset : offset % 60 = 0) (h : ofParts? date hour minute second offset = some t) :
    t.LeapsLast := by
  intro hleap
  rw [ofParts?] at h
  split at h
  · obtain ⟨u, hu, rfl⟩ := Option.map_eq_some_iff.1 h
    rw [ofSeconds?] at hu
    split at hu
    · cases hu
      have hsecond : second = 60 := by simpa using hleap
      subst hsecond
      simp only [secondsPerDay]
      omega
    · contradiction
  · contradiction

end Moment

/-! ## Zones -/

/-- What a step has come to that another one goes on from. -/
theorem exists_of_bind {α β : Type} {x : Option α} {f : α → Option β} {b : β}
    (h : (do f (← x)) = some b) : ∃ a, x = some a ∧ f a = some b :=
  Option.bind_eq_some_iff.1 h

/-- What goes on from a step that has come to something. -/
theorem bind_of_eq_some {α β : Type} {x : Option α} {f : α → Option β} {a : α} (h : x = some a) :
    (do f (← x)) = f a := by
  rw [h]
  rfl

theorem emod_of_readOffset {colon : Bool} {cs rest : List Char} {offset : Int}
    (h : readOffset colon cs = some (offset, rest)) : offset % 60 = 0 := by
  unfold readOffset at h
  obtain ⟨⟨negative, cs⟩, -, h⟩ := exists_of_bind h
  obtain ⟨⟨hours, cs⟩, -, h⟩ := exists_of_bind h
  obtain ⟨cs, -, h⟩ := exists_of_bind h
  obtain ⟨⟨minutes, cs⟩, -, h⟩ := exists_of_bind h
  dsimp only at h
  split at h
  · cases h
    split <;> omega
  · contradiction

theorem emod_of_readZone {cs rest : List Char} {offset : Int}
    (h : readZone cs = some (offset, rest)) : offset % 60 = 0 := by
  rw [readZone] at h
  split at h
  · exact emod_of_readOffset h
  · obtain ⟨hours, -, h⟩ := Option.map_eq_some_iff.1 h
    cases h
    omega

theorem emod_of_readTimestampZone {cs rest : List Char} {offset : Int}
    (h : readTimestampZone cs = some (offset, rest)) : offset % 60 = 0 := by
  unfold readTimestampZone at h
  split at h
  · cases h
    rfl
  · cases h
    rfl
  · exact emod_of_readOffset h

namespace Moment

theorem leapsLast_of_readMailDate {cs : List Char} {t : Moment} (h : readMailDate cs = some t) :
    t.LeapsLast := by
  -- of all parts only the zone could move the end of a minute
  unfold readMailDate at h
  obtain ⟨⟨weekday, cs⟩, -, h⟩ := exists_of_bind h
  obtain ⟨⟨day, cs⟩, -, h⟩ := exists_of_bind h
  obtain ⟨cs, -, h⟩ := exists_of_bind h
  obtain ⟨⟨month, cs⟩, -, h⟩ := exists_of_bind h
  obtain ⟨cs, -, h⟩ := exists_of_bind h
  obtain ⟨⟨year, cs⟩, -, h⟩ := exists_of_bind h
  obtain ⟨cs, -, h⟩ := exists_of_bind h
  obtain ⟨⟨hour, cs⟩, -, h⟩ := exists_of_bind h
  obtain ⟨cs, -, h⟩ := exists_of_bind h
  obtain ⟨⟨minute, cs⟩, -, h⟩ := exists_of_bind h
  obtain ⟨⟨second, cs⟩, -, h⟩ := exists_of_bind h
  obtain ⟨cs, -, h⟩ := exists_of_bind h
  obtain ⟨⟨offset, cs⟩, hzone, h⟩ := exists_of_bind h
  dsimp only at h
  split at h
  · exact leapsLast_ofParts? (emod_of_readZone hzone) h
  · cases h

theorem leapsLast_of_readTimestamp {cs : List Char} {t : Moment} (h : readTimestamp cs = some t) :
    t.LeapsLast := by
  unfold readTimestamp at h
  obtain ⟨⟨year, cs⟩, -, h⟩ := exists_of_bind h
  obtain ⟨cs, -, h⟩ := exists_of_bind h
  obtain ⟨⟨month, cs⟩, -, h⟩ := exists_of_bind h
  obtain ⟨cs, -, h⟩ := exists_of_bind h
  obtain ⟨⟨day, cs⟩, -, h⟩ := exists_of_bind h
  obtain ⟨cs, -, h⟩ := exists_of_bind h
  obtain ⟨⟨hour, cs⟩, -, h⟩ := exists_of_bind h
  obtain ⟨cs, -, h⟩ := exists_of_bind h
  obtain ⟨⟨minute, cs⟩, -, h⟩ := exists_of_bind h
  obtain ⟨cs, -, h⟩ := exists_of_bind h
  obtain ⟨⟨second, cs⟩, -, h⟩ := exists_of_bind h
  obtain ⟨cs, -, h⟩ := exists_of_bind h
  obtain ⟨⟨offset, cs⟩, hzone, h⟩ := exists_of_bind h
  dsimp only at h
  split at h
  · exact leapsLast_ofParts? (emod_of_readTimestampZone hzone) h
  · cases h

/-- Every moment that a text writes is one that a clock shows. -/
theorem leapsLast_of_read? {s : String} {t : Moment} (h : read? s = some t) : t.LeapsLast := by
  simp only [read?] at h
  split at h
  · exact leapsLast_ofSeconds? h
  · split at h
    · next hmail =>
      cases h
      exact leapsLast_of_readMailDate hmail
    · exact leapsLast_of_readTimestamp h

end Moment

/-! ## Numbers of a given width -/

/-- So many digits that write a number. -/
structure IsNumeral (width n : Nat) (ds : List Char) : Prop where
  length : ds.length = width
  digits : ∀ d ∈ ds, d.isDigit = true
  number : numberOf ds = n

/-- A number that is small enough is written with as many digits as asked for. -/
theorem isNumeral_padded {width n : Nat} (hwidth : 0 < width) (hn : n < 10 ^ width) :
    IsNumeral width n (padded width n).toList := by
  have hlength : (digitsOf n).length ≤ width := Nat.toDigits_length 10 n width hwidth hn
  rw [padded, String.toList_ofList]
  constructor
  · rw [List.length_append, List.length_replicate]
    omega
  · intro d hd
    rcases List.mem_append.1 hd with hd | hd
    · rw [List.eq_of_mem_replicate hd]
      rfl
    · exact isDigit_of_mem_digitsOf hd
  · rw [numberOf_zeros, numberOf_digitsOf]

/-- A number is read up to its last digit, if no digit that may belong to it follows. -/
theorem readDigits_append {least most width n : Nat} {ds rest : List Char}
    (hds : IsNumeral width n ds) (hleast : least ≤ width) (hmost : width ≤ most)
    (hrest : (rest.take (most - width)).takeWhile Char.isDigit = []) :
    readDigits least most (ds ++ rest) = some (n, rest) := by
  have hread : ((ds ++ rest).take most).takeWhile Char.isDigit = ds := by
    rw [List.take_append, List.take_of_length_le (by rw [hds.length]; exact hmost), hds.length,
      List.takeWhile_append_of_pos hds.digits, hrest, List.append_nil]
  rw [readDigits, hread, hds.length, if_neg (by omega), hds.number, List.drop_left' hds.length]

/-- A number of the greatest width is read whatever follows. -/
theorem readDigits_full {least width n : Nat} {ds rest : List Char} (hds : IsNumeral width n ds)
    (hleast : least ≤ width) : readDigits least width (ds ++ rest) = some (n, rest) :=
  readDigits_append hds hleast le_rfl (by rw [Nat.sub_self]; rfl)

/-! ## Words -/

/-- No blank is in front of letters and digits. -/
theorem trimStart_word {word : List Char} (hne : word ≠ [])
    (hword : ∀ c ∈ word, c.isAlphanum = true) (rest : List Char) :
    trimStart (word ++ rest) = word ++ rest := by
  cases word with
  | nil => contradiction
  | cons c cs =>
    exact trimStart_append (isBlank_of_isAlphanum (hword c List.mem_cons_self)) [] (cs ++ rest)

theorem readGap_word {word : List Char} (hne : word ≠ [])
    (hword : ∀ c ∈ word, c.isAlphanum = true) (rest : List Char) :
    readGap (' ' :: (word ++ rest)) = some (word ++ rest) :=
  congrArg some (trimStart_word hne hword rest)

namespace IsNumeral

variable {width n : Nat} {ds : List Char}

theorem ne_nil (hds : IsNumeral width n ds) (hwidth : 0 < width) : ds ≠ [] :=
  List.ne_nil_of_length_pos (by rw [hds.length]; exact hwidth)

theorem isAlphanum (hds : IsNumeral width n ds) : ∀ d ∈ ds, d.isAlphanum = true := fun d hd => by
  rw [Char.isAlphanum, hds.digits d hd, Bool.or_true]

end IsNumeral

/-- A name of three letters, at its position in a list. -/
structure IsShortName (names : List String) (i : Nat) (name : List Char) : Prop where
  length : name.length = 3
  letters : name.all Char.isAlpha = true
  found : (names.findIdx? fun n => lower n == lower (String.ofList name)) = some i

namespace IsShortName

variable {names : List String} {i : Nat} {name : List Char}

theorem ne_nil (hname : IsShortName names i name) : name ≠ [] :=
  List.ne_nil_of_length_pos (by rw [hname.length]; decide)

theorem isAlphanum (hname : IsShortName names i name) : ∀ c ∈ name, c.isAlphanum = true :=
  fun c hc => by rw [Char.isAlphanum, List.all_eq_true.1 hname.letters c hc, Bool.true_or]

theorem read (hname : IsShortName names i name) (rest : List Char) :
    readShortName names (name ++ rest) = some (i, rest) := by
  rw [readShortName, List.take_left' hname.length, List.drop_left' hname.length, hname.found]
  rfl

end IsShortName

instance (names : List String) (i : Nat) (name : List Char) :
    Decidable (IsShortName names i name) :=
  decidable_of_iff
    (name.length = 3 ∧ name.all Char.isAlpha = true ∧
      (names.findIdx? fun n => lower n == lower (String.ofList name)) = some i)
    ⟨fun ⟨hlength, hletters, hfound⟩ => ⟨hlength, hletters, hfound⟩,
      fun ⟨hlength, hletters, hfound⟩ => ⟨hlength, hletters, hfound⟩⟩

theorem isShortName_weekday :
    ∀ i < 7, IsShortName weekdayNames i (weekdayNames.getD i "").toList := by
  decide +kernel

theorem isShortName_month :
    ∀ i < 12, IsShortName monthNames i (monthNames.getD i "").toList := by
  decide +kernel

/-! ## Dates -/

/-- The characters of a mail date, from its parts. -/
def mailDateChars (weekday day month year hour minute second : List Char) : List Char :=
  weekday ++ ',' :: ' ' :: (day ++ ' ' :: (month ++ ' ' :: (year ++ ' ' :: (hour ++ ':' ::
    (minute ++ ':' :: (second ++ [' ', 'G', 'M', 'T']))))))

/-- A year of four digits is read up to the blank behind it, and is the full year. -/
theorem readDigits_year {y : Nat} {year : List Char} (hyear : IsNumeral 4 y year)
    (rest : List Char) :
    readDigits 2 (year ++ ' ' :: rest).length (year ++ ' ' :: rest) = some (y, ' ' :: rest) ∧
      fullYear ((year ++ ' ' :: rest).length - (' ' :: rest).length) y = y := by
  have hlength : (year ++ ' ' :: rest).length = rest.length + 5 := by
    rw [List.length_append, hyear.length, List.length_cons]
    omega
  have hstop : ((' ' :: rest).take (rest.length + 5 - 4)).takeWhile Char.isDigit = [] := by
    rw [Nat.add_sub_assoc (by decide), List.take_succ_cons]
    rfl
  refine ⟨?_, ?_⟩
  · rw [hlength]
    exact readDigits_append hyear (by decide) (by omega) hstop
  · rw [hlength, List.length_cons, Nat.add_sub_add_left]
    rfl

/-- A mail date is read part by part. -/
theorem readMailDate_chars {w d m y h mi s : Nat}
    {weekday day month year hour minute second : List Char}
    (hweekday : IsShortName weekdayNames w weekday) (hday : IsNumeral 2 d day)
    (hmonth : IsShortName monthNames m month) (hyear : IsNumeral 4 y year)
    (hhour : IsNumeral 2 h hour) (hminute : IsNumeral 2 mi minute) (hsecond : IsNumeral 2 s second)
    (hw : w = weekdayOfDays (Date.mk y (m + 1) d).toDays) :
    readMailDate (mailDateChars weekday day month year hour minute second) =
      Moment.ofParts? ⟨y, m + 1, d⟩ h mi s 0 := by
  have hstart (rest : List Char) : readWeekday (trimStart (weekday ++ ',' :: rest)) =
      some (some w, rest) := by
    rw [trimStart_word hweekday.ne_nil hweekday.isAlphanum, readWeekday, hweekday.read]
    rfl
  have hdays (rest : List Char) :
      readDigits 1 2 (trimStart (' ' :: (day ++ rest))) = some (d, rest) := by
    have htrim : trimStart (' ' :: (day ++ rest)) = day ++ rest :=
      trimStart_word (hday.ne_nil (by decide)) hday.isAlphanum rest
    rw [htrim]
    exact readDigits_full hday (by decide)
  have hminutes (rest : List Char) :
      readDigits 2 2 (trimStart (minute ++ rest)) = some (mi, rest) := by
    rw [trimStart_word (hminute.ne_nil (by decide)) hminute.isAlphanum]
    exact readDigits_full hminute le_rfl
  have hcolon (rest : List Char) : readMark ':' (trimStart (':' :: rest)) = some rest := rfl
  have hseconds (rest : List Char) : readSeconds (':' :: (second ++ rest)) = some (s, rest) := by
    rw [readSeconds, hcolon]
    exact readDigits_full hsecond le_rfl
  have hzone : readZone ['G', 'M', 'T'] = some (0, []) := by decide +kernel
  have hgap : readGap [' ', 'G', 'M', 'T'] = some ['G', 'M', 'T'] := rfl
  rw [readMailDate, mailDateChars]
  refine (bind_of_eq_some (hstart _)).trans ?_
  refine (bind_of_eq_some (hdays _)).trans ?_
  refine (bind_of_eq_some (readGap_word hmonth.ne_nil hmonth.isAlphanum _)).trans ?_
  refine (bind_of_eq_some (hmonth.read _)).trans ?_
  refine (bind_of_eq_some (readGap_word (hyear.ne_nil (by decide)) hyear.isAlphanum _)).trans ?_
  refine (bind_of_eq_some (readDigits_year hyear _).1).trans ?_
  refine (bind_of_eq_some (readGap_word (hhour.ne_nil (by decide)) hhour.isAlphanum _)).trans ?_
  refine (bind_of_eq_some (readDigits_full hhour le_rfl)).trans ?_
  refine (bind_of_eq_some (hcolon _)).trans ?_
  refine (bind_of_eq_some (hminutes _)).trans ?_
  refine (bind_of_eq_some (hseconds _)).trans ?_
  refine (bind_of_eq_some hgap).trans ?_
  refine (bind_of_eq_some hzone).trans ?_
  dsimp only
  have hend : skipComments (([] : List Char).length + 1) [] = [] := rfl
  rw [(readDigits_year hyear _).2, hend, ← hw]
  simp

/-- The second that a clock shows at a moment: the sixtieth one is a leap second. -/
def Moment.second (t : Moment) : Nat :=
  (t.seconds % secondsPerDay).toNat % 60 + if t.leap then 1 else 0

theorem Moment.second_bounds {t : Moment} (hleap : t.LeapsLast) :
    t.second ≤ 60 ∧ min t.second 59 = (t.seconds % secondsPerDay).toNat % 60 ∧
      (t.second == 60) = t.leap := by
  obtain ⟨n, leap⟩ := t
  cases leap with
  | false =>
    simp only [second, Bool.false_eq_true, if_false, beq_eq_false_iff_ne]
    omega
  | true =>
    have hlast : n % 60 = 59 := hleap rfl
    have hshown : (n % secondsPerDay).toNat % 60 = 59 := by
      rw [secondsPerDay]
      omega
    simp [second, hshown]

/-- The parts of a moment are put together to the moment. -/
theorem Moment.ofParts?_parts {t : Moment} (hleap : t.LeapsLast)
    (hleast : 0 ≤ (Date.ofDays t.days).year) (hgreatest : (Date.ofDays t.days).year ≤ 9999) :
    Moment.ofParts? (Date.ofDays t.days) ((t.seconds % secondsPerDay).toNat / 3600)
      ((t.seconds % secondsPerDay).toNat / 60 % 60) t.second 0 = some t := by
  obtain ⟨hsecond, hmin, hshown⟩ := second_bounds hleap
  have hday := Int.toNat_of_nonneg (Int.emod_nonneg t.seconds (b := secondsPerDay) (by decide))
  have hlt := Int.emod_lt_of_pos t.seconds (b := secondsPerDay) (by decide)
  generalize (t.seconds % secondsPerDay).toNat = inDay at *
  have hbound : inDay < 86400 := by
    rw [← hday, secondsPerDay] at hlt
    omega
  have hvalid : (Date.ofDays t.days).isValid = true :=
    Date.isValid_ofDays (by omega) (by omega)
  have hclock : 3600 * (inDay / 3600) + 60 * (inDay / 60 % 60) + min t.second 59 = inDay := by
    rw [hmin]
    omega
  have hwhole : t.days * secondsPerDay + inDay - 0 = t.seconds := by
    rw [hday, days, Int.sub_zero, Int.mul_comm]
    exact Int.mul_ediv_add_emod t.seconds secondsPerDay
  rw [ofParts?, if_pos (by simp [hvalid, hsecond]; omega)]
  dsimp only
  rw [hclock, Date.toDays_ofDays, hwhole, ofSeconds?_of_year hleast hgreatest, Option.map_some,
    hshown]

theorem weekdayOfDays_lt (n : Int) : weekdayOfDays n < 7 := by
  rw [weekdayOfDays]
  omega

/-- What begins with a letter is no integer. -/
theorem readIntChars_of_isAlpha {c : Char} (hc : c.isAlpha = true) (cs : List Char) :
    readIntChars (c :: cs) = none := by
  have hne {d : Char} (hd : d.isAlpha = false) : c ≠ d := by
    rintro rfl
    rw [hc] at hd
    contradiction
  have hdigit : c.isDigit = false := by
    simp only [Char.isAlpha, Char.isUpper, Char.isLower, Bool.or_eq_true, Bool.and_eq_true,
      decide_eq_true_eq, UInt32.le_iff_toNat_le, ge_iff_le] at hc
    simp only [Char.isDigit, Bool.and_eq_false_iff, decide_eq_false_iff_not,
      UInt32.le_iff_toNat_le, ge_iff_le]
    simp only [Char.reduceVal, UInt32.reduceToNat, Char.toNat_val] at hc ⊢
    omega
  rw [readIntChars.eq_def]
  split
  · next h => exact absurd (List.cons.inj h).1 (hne (by decide))
  · rw [readNatChars.eq_def]
    split
    · next h => exact absurd (List.cons.inj h).1 (hne (by decide))
    · simp [isDigits, hdigit]

section MailDates

variable {names : List String} {i : Nat}
  {weekday day month year hour minute second : List Char}

theorem trimChars_mailDateChars (hweekday : IsShortName names i weekday) :
    trimChars (mailDateChars weekday day month year hour minute second) =
      mailDateChars weekday day month year hour minute second := by
  cases weekday with
  | nil => exact absurd rfl hweekday.ne_nil
  | cons c more =>
    have hc := isBlank_of_isAlphanum (hweekday.isAlphanum c List.mem_cons_self)
    have hT : isBlank 'T' = false := rfl
    have hnone : ∀ c ∈ ([] : List Char), isBlank c = true := by simp
    simpa [mailDateChars] using trimChars_surround hc hT hnone hnone
      (more ++ ',' :: ' ' :: (day ++ ' ' :: (month ++ ' ' :: (year ++ ' ' ::
        (hour ++ ':' :: (minute ++ ':' :: (second ++ [' ', 'G', 'M'])))))))

theorem readIntChars_mailDateChars (hweekday : IsShortName names i weekday) :
    readIntChars (mailDateChars weekday day month year hour minute second) = none := by
  cases weekday with
  | nil => exact absurd rfl hweekday.ne_nil
  | cons c more =>
    exact readIntChars_of_isAlpha (List.all_eq_true.1 hweekday.letters c List.mem_cons_self) _

end MailDates

namespace Moment

variable {t : Moment}

/-- An HTTP date as a mail date. -/
theorem toList_httpDate (hleast : 0 ≤ (Date.ofDays t.days).year)
    (hgreatest : (Date.ofDays t.days).year ≤ 9999) :
    let date := Date.ofDays t.days
    let inDay := (t.seconds % secondsPerDay).toNat
    t.httpDate.toList = mailDateChars (weekdayNames.getD (weekdayOfDays t.days) "").toList
      (padded 2 date.day).toList (monthNames.getD (date.month - 1) "").toList
      (padded 4 date.year.toNat).toList (padded 2 (inDay / 3600)).toList
      (padded 2 (inDay / 60 % 60)).toList (padded 2 t.second).toList := by
  simp [httpDate, yearText, mailDateChars, second, hleast, hgreatest]

/-- **An HTTP date is read as the moment that it shows**, if the year has four digits. -/
theorem read?_httpDate (hleap : t.LeapsLast)
    (hleast : 0 ≤ (Date.ofDays t.days).year) (hgreatest : (Date.ofDays t.days).year ≤ 9999) :
    read? t.httpDate = some t := by
  have hmonth := Date.month_ofDays_mem t.days
  have hday := Date.day_ofDays_mem t.days
  have hlong := Date.daysInMonth_le (Date.ofDays t.days).year (Date.ofDays t.days).month
  have hlt := Int.emod_lt_of_pos t.seconds (b := secondsPerDay) (by decide)
  have hbound : (t.seconds % secondsPerDay).toNat < 86400 := by
    rw [secondsPerDay] at hlt ⊢
    omega
  have hdate : (⟨((Date.ofDays t.days).year.toNat : Int), (Date.ofDays t.days).month - 1 + 1,
      (Date.ofDays t.days).day⟩ : Date) = Date.ofDays t.days := by
    rw [Int.toNat_of_nonneg hleast, Nat.sub_add_cancel hmonth.1]
  have hweekday := isShortName_weekday _ (weekdayOfDays_lt t.days)
  simp only [read?]
  rw [toList_httpDate hleast hgreatest, trimChars_mailDateChars hweekday,
    readIntChars_mailDateChars hweekday, readMailDate_chars hweekday
      (isNumeral_padded (by decide) (by omega)) (isShortName_month _ (by omega))
      (isNumeral_padded (by decide) (by omega)) (isNumeral_padded (by decide) (by omega))
      (isNumeral_padded (by decide) (by omega))
      (isNumeral_padded (by decide) (by have := (second_bounds hleap).1; omega))
      (by rw [hdate, Date.toDays_ofDays]),
    hdate, ofParts?_parts hleap hleast hgreatest]
  rfl

end Moment

/-! ## Requests -/

namespace Run

/-- **A date that was sent is recognised.**  What is sent for the date of a resource is read as
that date to the second.  So a node that has no tag stops if a client sends it back, and goes
on, sending it, if the client sends no date or one that is older by a second or more. -/
theorem sent_date_is_recognised {text : String} {t : Moment} (hread : Moment.read? text = some t)
    (hleast : 1 ≤ (Date.ofDays t.days).year) (hgreatest : (Date.ofDays t.days).year ≤ 9999) :
    (∃ u, Moment.read? t.httpDate = some u ∧ u.seconds = t.seconds) ∧
    ∀ (h : Host) (n : Node) (s : State), h.registry.find? n.name = some .notModified →
      h.tag? n s.scope = .ok none → h.attr? n "timestamp" s.scope = .ok (some text) →
      (h.request.find? "If-Modified-Since" = none →
        GoesOn h n s ["Last-Modified: " ++ t.httpDate]) ∧
      (h.request.find? "If-Modified-Since" = some t.httpDate → StopsCurrent h n s) ∧
      (∀ since client, h.request.find? "If-Modified-Since" = some since →
        Moment.read? since = some client → client.seconds + 1 ≤ t.seconds →
        GoesOn h n s ["Last-Modified: " ++ t.httpDate]) := by
  have hback : Moment.read? t.httpDate = some t :=
    Moment.read?_httpDate (Moment.leapsLast_of_read? hread) (by omega) hgreatest
  refine ⟨⟨t, hback, rfl⟩, fun h n s hi htag hattr => ?_⟩
  have hn : n.Validates h s.scope none (some t) := ⟨hi, htag, Host.date?_of_attr? hattr hread⟩
  refine ⟨fun hsince => ?_, fun hsince => ?_, fun since client hsince hclient holder => ?_⟩
  · refine goesOn_of_not_current hn ?_
    simp only [isCurrent, hsince]
  · rw [stopsCurrent_iff hn]
    simp [isCurrent, hsince, hback]
  · refine goesOn_of_not_current hn ?_
    simp only [isCurrent, hsince, hclient, decide_eq_false_iff_not]
    omega

/-- A node with a date. -/
def datedNode (text : String) : Node :=
  { name := "not-modified", attributes := [("timestamp", text)] }

/-- The leap second at the end of 2016, written in another zone. -/
theorem sent_date_is_recognised_leapSecond :
    let text := "2016-12-31T18:59:60.25-05:00"
    let t : Moment := ⟨1483228799, true⟩
    let h := { Host.ofLibrary {} with
      request := [("If-Modified-Since", "Sat, 31 Dec 2016 23:59:60 GMT")] }
    let s := State.ofScope {}
    (Moment.read? text = some t ∧ 1 ≤ (Date.ofDays t.days).year ∧
      (Date.ofDays t.days).year ≤ 9999 ∧ h.tag? (datedNode text) s.scope = .ok none ∧
      h.attr? (datedNode text) "timestamp" s.scope = .ok (some text) ∧
      h.request.find? "If-Modified-Since" = some t.httpDate) ∧
    (∃ u, Moment.read? t.httpDate = some u ∧ u.seconds = 1483228799) ∧
    StopsCurrent h (datedNode text) s := by
  intro text t h s
  have hread : Moment.read? text = some t := by decide +kernel
  have hleast : 1 ≤ (Date.ofDays t.days).year := by decide +kernel
  have hgreatest : (Date.ofDays t.days).year ≤ 9999 := by decide +kernel
  have hattr : h.attr? (datedNode text) "timestamp" s.scope = .ok (some text) := by cbv
  have hsince : h.request.find? "If-Modified-Since" = some t.httpDate := by decide +kernel
  obtain ⟨hback, hnodes⟩ := sent_date_is_recognised hread hleast hgreatest
  exact ⟨⟨hread, hleast, hgreatest, rfl, hattr, hsince⟩, hback,
    (hnodes h (datedNode text) s rfl rfl hattr).2.1 hsince⟩

end Run

end ActionTree
