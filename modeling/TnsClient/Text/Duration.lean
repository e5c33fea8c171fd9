set_option autoImplicit false

/-!
# Durations

A duration is shown in the greatest unit of which it holds at least one, with as many decimals as it
needs. Durations are counted in milliseconds; none at all is shown in nanoseconds.

## Main definitions

* `TnsClient.Text.duration` — the text of a duration.
-/

namespace TnsClient.Text

/-- The decimals of a number of thousandths, without zeros at the end. -/
def decimals (thousandths : Nat) : List Char :=
  let digits := (toString (1000 + thousandths)).toList.drop 1
  (digits.reverse.dropWhile (· == '0')).reverse

/-- The text of a duration in milliseconds. -/
def duration (milliseconds : Nat) : String :=
  if milliseconds = 0 then "0ns"
  else if milliseconds < 1000 then s!"{milliseconds}ms"
  else
    let rest := decimals (milliseconds % 1000)
    let whole := toString (milliseconds / 1000)
    if rest.isEmpty then whole ++ "s" else whole ++ "." ++ String.ofList rest ++ "s"

end TnsClient.Text
