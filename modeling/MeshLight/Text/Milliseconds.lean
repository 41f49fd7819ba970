/-!
# Spans of time

A span is a number of whole milliseconds. It is written in seconds from one second on, with the
fraction that is not zero and without zeros behind it, in milliseconds below, and zero in
nanoseconds.
-/

namespace MeshLight.Milliseconds

/-- Decimal digits without the zeros at the end. -/
def withoutTrailingZeros (digits : List Char) : List Char :=
  (digits.reverse.dropWhile (· == '0')).reverse

/-- The three digits of a number below a thousand. -/
def threeDigits (value : Nat) : List Char :=
  [value / 100 % 10, value / 10 % 10, value % 10].map fun digit => Char.ofNat (48 + digit)

/-- The text of a span. -/
def text (span : Nat) : String :=
  if span = 0 then "0ns"
  else if span < 1000 then toString span ++ "ms"
  else if span % 1000 = 0 then toString (span / 1000) ++ "s"
  else
    toString (span / 1000) ++ "."
      ++ String.ofList (withoutTrailingZeros (threeDigits (span % 1000))) ++ "s"

end MeshLight.Milliseconds
