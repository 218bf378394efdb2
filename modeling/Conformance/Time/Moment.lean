/-!
# Moments

A moment is a date of the Gregorian calendar, extended to all years, with a time of day to the
second. Moments are ordered by their parts, the greatest part first.
-/
namespace Conformance

structure Moment where
  year : Int
  month : Nat
  day : Nat
  hour : Nat
  minute : Nat
  second : Nat
  deriving DecidableEq, Repr

namespace Moment

def isLeapYear (year : Int) : Bool :=
  year % 4 == 0 && (year % 100 != 0 || year % 400 == 0)

def daysInMonth (year : Int) (month : Nat) : Nat :=
  match month with
  | 2 => if isLeapYear year then 29 else 28
  | 4 | 6 | 9 | 11 => 30
  | _ => 31

/-- Whether the calendar and the clock have such a moment. -/
def isReal (t : Moment) : Bool :=
  1 ≤ t.month && t.month ≤ 12 && 1 ≤ t.day && t.day ≤ daysInMonth t.year t.month &&
    t.hour < 24 && t.minute < 60 && t.second < 60

/-- The parts, the greatest first. -/
def parts (t : Moment) : List Int :=
  [t.year, t.month, t.day, t.hour, t.minute, t.second]

/-- Whether `a` comes before `b`, both lists being of one length. -/
def partsBefore : List Int → List Int → Bool
  | a :: as, b :: bs => a < b || (a == b && partsBefore as bs)
  | _, _ => false

def isBefore (a b : Moment) : Bool :=
  partsBefore a.parts b.parts

def latest (a b : Moment) : Moment :=
  if a.isBefore b then b else a

def truncateToMinute (t : Moment) : Moment :=
  { t with second := 0 }

/-- Decimal digits of `n`, at least `width` of them. -/
def padded (width n : Nat) : String :=
  let digits := Nat.toDigits 10 n
  String.ofList (List.replicate (width - digits.length) '0' ++ digits)

end Moment
end Conformance
