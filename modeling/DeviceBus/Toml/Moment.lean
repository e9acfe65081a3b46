import DeviceBus.Text.Numeral

/-! # Dates and times

A moment has a date, a time of day, or both, and then perhaps its distance from
universal time. It is written in one way only.
-/

namespace DeviceBus.Toml.Moment

/-- The number that exactly `count` digits write, and what follows it. -/
def number? (count : Nat) (cs : List Char) : Option (Nat × List Char) :=
  let digits := cs.take count
  if digits.length = count ∧ digits.all Char.isDigit then
    some (Text.digitsFrom 0 digits, cs.drop count)
  else none

def isLeap (year : Nat) : Bool :=
  year % 4 == 0 && (year % 100 != 0 || year % 400 == 0)

def daysIn (year month : Nat) : Nat :=
  if month = 2 then (if isLeap year then 29 else 28)
  else if month = 4 ∨ month = 6 ∨ month = 9 ∨ month = 11 then 30
  else 31

/-- What follows a date. -/
def date? (cs : List Char) : Option (List Char) := do
  let (year, '-' :: cs) ← number? 4 cs | none
  let (month, '-' :: cs) ← number? 2 cs | none
  let (day, cs) ← number? 2 cs
  if 1 ≤ month ∧ month ≤ 12 ∧ 1 ≤ day ∧ day ≤ daysIn year month then some cs else none

/-- The fraction of a second as it is written, and what follows it: at most nine
digits, and no zeros at the end. -/
def fraction? : List Char → Option (List Char × List Char)
  | '.' :: cs =>
      let digits := cs.takeWhile Char.isDigit
      let kept := ((digits.take 9).reverse.dropWhile (· == '0')).reverse
      if digits.isEmpty then none
      else some (if kept.isEmpty then [] else '.' :: kept, cs.dropWhile Char.isDigit)
  | cs => some ([], cs)

/-- A time of day as it is written, and what follows it. -/
def time? (cs : List Char) : Option (List Char × List Char) := do
  let whole := cs.take 8
  let (hour, ':' :: cs) ← number? 2 cs | none
  let (minute, ':' :: cs) ← number? 2 cs | none
  let (second, cs) ← number? 2 cs
  let (fraction, cs) ← fraction? cs
  if hour ≤ 23 ∧ minute ≤ 59 ∧ second ≤ 60 then some (whole ++ fraction, cs) else none

/-- The distance from universal time, if any, as it is written. -/
def offset? (cs : List Char) : Option (List Char) :=
  match cs with
  | [] => some []
  | ['Z'] | ['z'] => some ['Z']
  | sign :: rest => do
      if sign ≠ '+' ∧ sign ≠ '-' then none
      else
        let (hour, ':' :: rest) ← number? 2 rest | none
        let (minute, rest) ← number? 2 rest
        if rest.isEmpty && hour ≤ 23 && minute ≤ 59 then some cs else none

/-- A moment as it is written. -/
def written? (cs : List Char) : Option String :=
  match date? cs with
  | some [] => some (String.ofList cs)
  | some (between :: rest) => do
      if between ≠ 'T' ∧ between ≠ 't' ∧ between ≠ ' ' then none
      else
        let (time, rest) ← time? rest
        let offset ← offset? rest
        some (String.ofList (cs.take 10 ++ 'T' :: time ++ offset))
  | none =>
      match time? cs with
      | some (time, []) => some (String.ofList time)
      | _ => none

end DeviceBus.Toml.Moment
