import DebateMesh.Text.Digits

namespace DebateMesh.Toml

/-- Two digits for a number within bounds, both of which may be met. -/
def twoDigits? (low high : Nat) : List Char → Option (Nat × List Char)
  | c :: d :: cs => do
    let tens ← Text.digitValue? 10 c
    let ones ← Text.digitValue? 10 d
    let n := 10 * tens + ones
    if low ≤ n ∧ n ≤ high then some (n, cs) else none
  | _ => none

def behind? (mark : Char) : List Char → Option (List Char)
  | [] => none
  | c :: cs => if c = mark then some cs else none

def isLeapYear (year : Nat) : Bool :=
  year % 4 == 0 && (year % 100 != 0 || year % 400 == 0)

def daysOfMonth (year month : Nat) : Nat :=
  if month = 2 then if isLeapYear year then 29 else 28
  else if month = 4 ∨ month = 6 ∨ month = 9 ∨ month = 11 then 30
  else 31

/-- A day of the calendar, from the year 0 up to the year 9999. -/
def date? (cs : List Char) : Option (List Char) := do
  let (century, cs) ← twoDigits? 0 99 cs
  let (year, cs) ← twoDigits? 0 99 cs
  let cs ← behind? '-' cs
  let (month, cs) ← twoDigits? 1 12 cs
  let cs ← behind? '-' cs
  let (_, cs) ← twoDigits? 1 (daysOfMonth (100 * century + year) month) cs
  return cs

/-- What follows the fraction of a second, if there is one. -/
def skipFraction : List Char → List Char
  | '.' :: c :: cs => if Text.isDigit 10 c then cs.dropWhile (Text.isDigit 10) else '.' :: c :: cs
  | cs => cs

def clock? (cs : List Char) : Option (List Char) := do
  let (_, cs) ← twoDigits? 0 23 cs
  let cs ← behind? ':' cs
  let (_, cs) ← twoDigits? 0 59 cs
  return cs

/-- A time of day. A minute may have a leap second. -/
def time? (cs : List Char) : Option (List Char) := do
  let cs ← clock? cs
  let cs ← behind? ':' cs
  let (_, cs) ← twoDigits? 0 60 cs
  return skipFraction cs

/-- What follows the offset from universal time, if there is one. -/
def skipOffset : List Char → List Char
  | 'Z' :: cs => cs
  | 'z' :: cs => cs
  | '+' :: cs => (clock? cs).getD ('+' :: cs)
  | '-' :: cs => (clock? cs).getD ('-' :: cs)
  | cs => cs

/-- What follows the time of a date, if there is one. -/
def skipTime : List Char → List Char
  | [] => []
  | c :: cs =>
    if c = 'T' ∨ c = 't' ∨ c = ' ' then ((time? cs).map skipOffset).getD (c :: cs)
    else c :: cs

/-- A date, with a time or without, or a time alone. -/
def moment? (cs : List Char) : Option (List Char) :=
  match date? cs with
  | some cs => some (skipTime cs)
  | none => time? cs

end DebateMesh.Toml
