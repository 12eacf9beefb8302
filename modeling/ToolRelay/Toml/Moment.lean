/-!
# Dates and times

Whether a text is a date, a time of day, or both with or without an offset, with every part in
its range.  Seconds may be left out, and a leap second is allowed.
-/

namespace ToolRelay

namespace Toml

namespace Moment

/-- The number that two digits spell. -/
def twoDigits? (a b : Char) : Option Nat :=
  if a.isDigit ∧ b.isDigit then some ((a.toNat - 0x30) * 10 + (b.toNat - 0x30)) else none

/-- Whether a year has a 29th of February. -/
def isLeapYear (year : Nat) : Bool := year % 4 == 0 && (year % 100 != 0 || year % 400 == 0)

/-- How many days a month has; none if there is no such month. -/
def daysIn (year month : Nat) : Nat :=
  if month = 2 then (if isLeapYear year then 29 else 28)
  else if [4, 6, 9, 11].contains month then 30
  else if 1 ≤ month ∧ month ≤ 12 then 31
  else 0

/-- What follows a date, if the text begins with one. -/
def date? : List Char → Option (List Char)
  | a :: b :: c :: d :: '-' :: e :: f :: '-' :: g :: h :: rest => do
    let century ← twoDigits? a b
    let year ← twoDigits? c d
    let month ← twoDigits? e f
    let day ← twoDigits? g h
    if 1 ≤ day ∧ day ≤ daysIn (century * 100 + year) month then some rest else none
  | _ => none

/-- What follows a fraction of a second, if there is one and it has digits. -/
def fraction? : List Char → Option (List Char)
  | '.' :: c :: rest => if c.isDigit then some (rest.dropWhile Char.isDigit) else none
  | '.' :: [] => none
  | rest => some rest

/-- What follows a time of day, if the text begins with one. -/
def time? : List Char → Option (List Char)
  | a :: b :: ':' :: c :: d :: rest => do
    let hour ← twoDigits? a b
    let minute ← twoDigits? c d
    if 23 < hour ∨ 59 < minute then none
    else
      match rest with
      | ':' :: e :: f :: rest => do
        let second ← twoDigits? e f
        if 60 < second then none else fraction? rest
      | rest => some rest
  | _ => none

/-- Whether a text is an offset from universal time, or nothing. -/
def isOffset : List Char → Bool
  | [] => true
  | [z] => z == 'Z' || z == 'z'
  | [sign, a, b, ':', c, d] =>
    (sign == '+' || sign == '-') &&
      (match twoDigits? a b, twoDigits? c d with
        | some hours, some minutes => hours ≤ 23 && minutes ≤ 59
        | _, _ => false)
  | _ => false

/-- Whether a text is a date, a time, or both. -/
def isMoment (cs : List Char) : Bool :=
  match date? cs with
  | some [] => true
  | some (c :: rest) =>
    (c == 'T' || c == 't' || c == ' ') &&
      (match time? rest with
        | some rest => isOffset rest
        | none => false)
  | none => time? cs == some []

end Moment

end Toml

end ToolRelay
