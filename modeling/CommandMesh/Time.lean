/-!
# `CommandMesh.Time`: instants and spans

Instants and spans count nanoseconds in `Nat`, so no sum or product of them wraps. There is one
clock, which never goes back; an instant is how long it has been running. Settings are given in
milliseconds, as words of 64 bits, and become spans of nanoseconds before anything is done with
them. What is told about a time is in milliseconds again, rounded down.

`Span.text` writes a span for people: in the largest unit that has a whole part, with the fraction
that is left and no trailing zeros. Callers see such texts in the response to a request that was not
answered in time.
-/

set_option autoImplicit false

namespace CommandMesh

/-- A point in time, in nanoseconds after the clock started. -/
abbrev Instant := Nat

/-- A length of time, in nanoseconds. -/
abbrev Span := Nat

namespace Span

/-- A span of whole milliseconds. -/
def ofMillis (ms : Nat) : Span := ms * 1000000

/-- The whole milliseconds in a span. -/
def toMillis (s : Span) : Nat := s / 1000000

/-- The digits of `n` in a field of `width` places. -/
def paddedDigits (width n : Nat) : List Char :=
  let digits := (Nat.repr n).toList
  List.replicate (width - digits.length) '0' ++ digits

/-- The fraction `part / 10 ^ width` after a point, without trailing zeros; nothing if it is zero. -/
def fractionText (width part : Nat) : String :=
  match ((paddedDigits width part).reverse.dropWhile (· == '0')).reverse with
  | [] => ""
  | digits => "." ++ String.ofList digits

/-- The span in units of `10 ^ width` nanoseconds. -/
def inUnit (width : Nat) (unit : String) (s : Span) : String :=
  let whole := Nat.pow 10 width
  Nat.repr (s / whole) ++ fractionText width (s % whole) ++ unit

/-- The span in the largest unit that has a whole part. -/
def text (s : Span) : String :=
  if 1000000000 ≤ s then inUnit 9 "s" s
  else if 1000000 ≤ s then inUnit 6 "ms" s
  else if 1000 ≤ s then inUnit 3 "µs" s
  else inUnit 0 "ns" s

example : text 1500000000 = "1.5s" := by decide

end Span

end CommandMesh
