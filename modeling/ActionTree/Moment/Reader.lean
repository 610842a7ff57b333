import ActionTree.Moment
import ActionTree.Text.Blank
import ActionTree.Text.Split
import ActionTree.Word

/-!
# ActionTree.Moment.Reader

Reading a moment, written in one of three ways.

1. a count of seconds since the start of 1970;
2. a mail or HTTP date: a weekday and a comma or neither, the day, the name of
   the month, the year, the time with or without seconds, a zone, comments in
   parentheses; years of two and three digits are of the last century, or of
   this one below fifty;
3. an internet timestamp: year, month and day, a `T` or a space, the time to
   the second or finer, and a zone.

A second may be the sixtieth: that is the leap second behind the fifty-ninth.
Fractions of a second are read and dropped.
-/

namespace ActionTree

open Text

/-! ## Parts -/

/-- Between `least` and `most` digits, and what follows them. -/
def readDigits (least most : Nat) (cs : List Char) : Option (Nat × List Char) :=
  let ds := (cs.take most).takeWhile Char.isDigit
  if ds.length < least then none else some (numberOf ds, cs.drop ds.length)

/-- What follows a given character. -/
def readMark (c : Char) : List Char → Option (List Char)
  | d :: cs => if c = d then some cs else none
  | [] => none

/-- What follows one blank or more. -/
def readGap (cs : List Char) : Option (List Char) :=
  match cs with
  | c :: _ => if isBlank c then some (trimStart cs) else none
  | [] => none

/-- The position in a list of the name of three letters that the text starts
with, in any case, and what follows it. -/
def readShortName (names : List String) (cs : List Char) : Option (Nat × List Char) :=
  let name := lower (String.ofList (cs.take 3))
  (names.findIdx? fun n => lower n == name).map fun i => (i, cs.drop 3)

/-- A time of day and a date put together with an offset from Greenwich, if all
of it is in range. -/
def Moment.ofParts? (date : Date) (hour minute second : Nat) (offset : Int) : Option Moment :=
  if date.isValid && hour < 24 && minute < 60 && second ≤ 60 && offset.natAbs < 86400 then
    let inDay := 3600 * hour + 60 * minute + min second 59
    (Moment.ofSeconds? (date.toDays * secondsPerDay + inDay - offset)).map fun t =>
      { t with leap := second == 60 }
  else none

/-! ## Zones -/

/-- The sign of an offset, and what follows it. -/
def readSign (wide : Bool) : List Char → Option (Bool × List Char)
  | '+' :: cs => some (false, cs)
  | '-' :: cs => some (true, cs)
  | c :: cs => if wide && c = '\u2212' then some (true, cs) else none
  | [] => none

/-- What follows a colon, if there has to be one. -/
def readColon (colon : Bool) (cs : List Char) : Option (List Char) :=
  if colon then readMark ':' cs else some cs

/-- An offset in hours and minutes, with a colon between them or without. -/
def readOffset (colon : Bool) (cs : List Char) : Option (Int × List Char) := do
  let (negative, cs) ← readSign colon cs
  let (hours, cs) ← readDigits 2 2 cs
  let cs ← readColon colon cs
  let (minutes, cs) ← readDigits 2 2 cs
  if minutes < 60 then
    let n : Int := 3600 * hours + 60 * minutes
    some (if negative then -n else n, cs)
  else none

/-- The zones that have names, in hours from Greenwich. -/
def namedZone? (name : String) : Option Int :=
  if name = "gmt" || name = "ut" || name = "z" then some 0
  else if name = "edt" then some (-4)
  else if name = "est" || name = "cdt" then some (-5)
  else if name = "cst" || name = "mdt" then some (-6)
  else if name = "mst" || name = "pdt" then some (-7)
  else if name = "pst" then some (-8)
  else if name.length = 1 && name != "j" then some 0
  else none

/-- The zone of a mail date. -/
def readZone (cs : List Char) : Option (Int × List Char) :=
  let name := cs.takeWhile Char.isAlpha
  if name.isEmpty then readOffset false cs
  else
    (namedZone? (lower (String.ofList name))).map fun hours =>
      (3600 * hours, cs.dropWhile Char.isAlpha)

/-! ## Comments -/

/-- What follows a comment that is `depth` parentheses deep. -/
def skipComment : (depth : Nat) → (escaped : Bool) → List Char → Option (List Char)
  | _, _, [] => none
  | depth, true, _ :: cs => skipComment depth false cs
  | depth, false, c :: cs =>
    if c = '\\' then skipComment depth true cs
    else if c = '(' then skipComment (depth + 1) false cs
    else if c = ')' then
      if depth ≤ 1 then some cs else skipComment (depth - 1) false cs
    else skipComment depth false cs

/-- What follows all comments; `fuel` is at least the number of characters. -/
def skipComments : (fuel : Nat) → List Char → List Char
  | 0, cs => cs
  | fuel + 1, cs =>
    match trimStart cs with
    | '(' :: rest =>
      match skipComment 1 false rest with
      | some rest => skipComments fuel rest
      | none => cs
    | _ => cs

/-! ## The three ways -/

/-- The full year of a year that was written with so many digits. -/
def fullYear (digits year : Nat) : Nat :=
  if digits = 2 then (if year < 50 then year + 2000 else year + 1900)
  else if digits = 3 then year + 1900
  else year

/-- The seconds behind the minutes, if they are written. -/
def readSeconds (cs : List Char) : Option (Nat × List Char) :=
  match readMark ':' (trimStart cs) with
  | some cs => readDigits 2 2 cs
  | none => some (0, cs)

/-- The weekday with its comma, if it is written. -/
def readWeekday (cs : List Char) : Option (Option Nat × List Char) :=
  match readShortName weekdayNames cs with
  | some (w, cs) => (readMark ',' cs).map fun cs => (some w, cs)
  | none => some (none, cs)

/-- A mail or HTTP date. -/
def readMailDate (cs : List Char) : Option Moment := do
  let (weekday, cs) ← readWeekday (trimStart cs)
  let (day, cs) ← readDigits 1 2 (trimStart cs)
  let cs ← readGap cs
  let (month, cs) ← readShortName monthNames cs
  let cs ← readGap cs
  let before := cs.length
  let (year, cs) ← readDigits 2 before cs
  let year := fullYear (before - cs.length) year
  let cs ← readGap cs
  let (hour, cs) ← readDigits 2 2 cs
  let cs ← readMark ':' (trimStart cs)
  let (minute, cs) ← readDigits 2 2 (trimStart cs)
  let (second, cs) ← readSeconds cs
  let cs ← readGap cs
  let (offset, cs) ← readZone cs
  let date : Date := ⟨year, month + 1, day⟩
  if (skipComments (cs.length + 1) cs).isEmpty &&
      (weekday.isNone || weekday == some (weekdayOfDays date.toDays)) then
    Moment.ofParts? date hour minute second offset
  else none

/-- What follows the mark between the date and the time of a timestamp. -/
def readTimeMark : List Char → Option (List Char)
  | c :: cs => if c = 'T' || c = 't' || c = ' ' then some cs else none
  | [] => none

/-- A fraction of a second, dropped. -/
def skipFraction (cs : List Char) : Option (List Char) :=
  match cs with
  | '.' :: rest =>
    match rest with
    | d :: _ => if d.isDigit then some (rest.dropWhile Char.isDigit) else none
    | [] => none
  | cs => some cs

/-- The zone of a timestamp. -/
def readTimestampZone : List Char → Option (Int × List Char)
  | 'Z' :: cs | 'z' :: cs => some (0, cs)
  | cs => readOffset true cs

/-- An internet timestamp. -/
def readTimestamp (cs : List Char) : Option Moment := do
  let (year, cs) ← readDigits 4 4 cs
  let cs ← readMark '-' cs
  let (month, cs) ← readDigits 2 2 cs
  let cs ← readMark '-' cs
  let (day, cs) ← readDigits 2 2 cs
  let cs ← readTimeMark cs
  let (hour, cs) ← readDigits 2 2 cs
  let cs ← readMark ':' cs
  let (minute, cs) ← readDigits 2 2 cs
  let cs ← readMark ':' cs
  let (second, cs) ← readDigits 2 2 cs
  let cs ← skipFraction cs
  let (offset, cs) ← readTimestampZone cs
  if cs.isEmpty then Moment.ofParts? ⟨year, month, day⟩ hour minute second offset else none

/-- The moment that a text writes. -/
def Moment.read? (s : String) : Option Moment :=
  let cs := trimChars s.toList
  match (readIntChars cs).filter fitsInt64 with
  | some n => Moment.ofSeconds? n
  | none =>
    match readMailDate cs with
    | some t => some t
    | none => readTimestamp cs

end ActionTree
