/-!
Internet dates and times: full dates, times with an obligatory offset, and the two joined by a `T`.
-/

namespace ApiContract.Format

/-- A digit of a field by the low half of its code, so that a field may also hold the six marks from
the colon to the question mark, which count ten to fifteen. -/
def isFieldDigit (c : Char) : Bool := '0' ≤ c && c ≤ '?'

/-- The decimal value of a field of exactly so many digits. -/
def digits? (count : Nat) (text : List Char) : Option Nat :=
  if text.length = count ∧ text.all isFieldDigit then
    some (text.foldl (fun total c => 10 * total + (c.toNat - 48)) 0)
  else none

def isLeapYear (year : Nat) : Bool :=
  year % 4 == 0 && (year % 100 != 0 || year % 400 == 0)

def daysInMonth (year month : Nat) : Nat :=
  if month = 2 then (if isLeapYear year then 29 else 28)
  else if month = 4 ∨ month = 6 ∨ month = 9 ∨ month = 11 then 30
  else 31

def isDate (text : List Char) : Bool :=
  match digits? 4 (text.take 4), text.drop 4 with
  | some year, '-' :: rest =>
      match digits? 2 (rest.take 2), rest.drop 2 with
      | some month, '-' :: day =>
          match digits? 2 day with
          | some day => 1 ≤ month && month ≤ 12 && 1 ≤ day && day ≤ daysInMonth year month
          | none => false
      | _, _ => false
  | _, _ => false

/-- A time of day; a minute count wraps at midnight. -/
structure ClockTime where
  hour : Nat
  minute : Nat
  second : Nat
deriving Repr

/-- A leap second is the last second of a day. -/
def isLastMinute (minutes : Int) : Bool := minutes % 1440 == 23 * 60 + 59

/-- The offset from universal time, in minutes. -/
def offset? (text : List Char) : Option Int :=
  match text with
  | ['Z'] => some 0
  | ['z'] => some 0
  | [sign, h, hh, ':', m, mm] =>
      match digits? 2 [h, hh], digits? 2 [m, mm] with
      | some hours, some minutes =>
          let size : Int := hours * 60 + minutes
          if hours > 23 ∨ minutes > 59 then none
          else if sign = '+' then some size
          else if sign = '-' then some (-size)
          else none
      | _, _ => none
  | _ => none

/-- The fraction of a second, when one is written, has at least one digit. -/
def dropFraction? (text : List Char) : Option (List Char) :=
  match text with
  | '.' :: rest => if (rest.head?.map Char.isDigit).getD false then some (rest.dropWhile Char.isDigit) else none
  | text => some text

def clockTime? (text : List Char) : Option (ClockTime × List Char) :=
  match text with
  | h :: hh :: ':' :: m :: mm :: ':' :: s :: ss :: rest => do
      let hour ← digits? 2 [h, hh]
      let minute ← digits? 2 [m, mm]
      let second ← digits? 2 [s, ss]
      if hour > 23 ∨ minute > 59 ∨ second > 60 then none
      else return (⟨hour, minute, second⟩, rest)
  | _ => none

/-- A time with an offset; second 60 only at the end of a day of universal time. -/
def isTime (text : List Char) : Bool :=
  (do
    let (time, rest) ← clockTime? text
    let zone ← dropFraction? rest
    let offset ← offset? zone
    let minutes : Int := time.hour * 60 + time.minute
    return time.second < 60 || isLastMinute (minutes - offset)).getD false

def isDateTime (text : List Char) : Bool :=
  let isMark (c : Char) : Bool := c = 'T' || c = 't'
  match text.dropWhile fun c => !isMark c with
  | _ :: time => isDate (text.takeWhile fun c => !isMark c) && isTime time
  | [] => false

end ApiContract.Format
