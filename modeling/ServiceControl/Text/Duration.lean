/-!
# Durations

How a number of milliseconds is written: in seconds from one second on, with as many decimals as it takes, and in
milliseconds below that.
-/
namespace ServiceControl.Text

/-- The decimals of a number of thousandths, without zeros at the end. -/
def thousandths (n : Nat) : String :=
  let digits := [n / 100 % 10, n / 10 % 10, n % 10].map fun d => Char.ofNat ('0'.toNat + d)
  String.ofList (digits.reverse.dropWhile (· = '0')).reverse

def duration (ms : Nat) : String :=
  if ms = 0 then "0ns"
  else if ms < 1000 then s!"{ms}ms"
  else if ms % 1000 = 0 then s!"{ms / 1000}s"
  else s!"{ms / 1000}.{thousandths (ms % 1000)}s"

end ServiceControl.Text
