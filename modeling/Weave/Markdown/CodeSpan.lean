import Weave.Text

/-!
# Code inside a line

A run of backticks opens code that ends at the next run of the same size. Where all runs behind it
are smaller, only as many backticks open as the largest of them has. A run that cannot be closed is
text up to the next backtick and including it.
-/

set_option autoImplicit false

namespace Weave.Markdown.CodeSpan

inductive Span where
  | char (c : Char)
  | code (t : Text)
  /-- Pairs of backslashes in front of a backtick. -/
  | backslashes (pairs : Nat)
deriving Repr, Inhabited

def tick : Char := '\x60'

def leading (c : Char) (t : Text) : Nat := (t.takeWhile (· == c)).length

/-- The size of the largest run of backticks, of which the first `size` have been passed. -/
def largestRun (size : Nat) : Text → Nat
  | [] => size
  | c :: r => if c = tick then largestRun (size + 1) r else max size (largestRun 0 r)

/-- The text up to the next run of exactly `n` backticks, and what follows that. -/
def upToRun (n : Nat) (t : Text) : Option (Text × Text) :=
  match t with
  | [] => none
  | c :: r =>
    if c = tick then
      let more := leading tick r
      let run := c :: r.take more
      let rest := r.drop more
      if run.length = n then some ([], rest)
      else (upToRun n rest).map fun (t, rest) => (run ++ t, rest)
    else (upToRun n r).map fun (t, rest) => (c :: t, rest)
termination_by t.length
decreasing_by
  · exact Nat.lt_succ_of_le (List.drop_sublist _ _).length_le
  · exact Nat.lt_succ_self _

/-- The code that a run of `n` backticks opens, and what follows it. -/
def opened? (n : Nat) (rest : Text) : Option (Text × Text) :=
  let largest := largestRun 0 rest
  if largest = 0 then none
  else if n ≤ largest then upToRun n rest
  else (upToRun largest rest).map fun (t, r) => (List.replicate (n - largest) tick ++ t, r)

def chars (t : Text) : List Span := t.map .char

/-- The spans of a text behind the given character. -/
def spansFrom : Nat → Option Char → Text → List Span
  | 0, _, t => chars t
  | _ + 1, _, [] => []
  | fuel + 1, before, c :: r =>
    if before = some '\\' then .char c :: spansFrom fuel (some c) r
    else if c = '\\' then
      let n := leading '\\' (c :: r)
      let rest := (c :: r).drop n
      if n % 2 = 0 then
        if rest.head? = some tick then .backslashes (n / 2) :: spansFrom fuel none rest
        else chars ((c :: r).take n) ++ spansFrom fuel none rest
      else chars ((c :: r).take n) ++ spansFrom fuel (some '\\') rest
    else if c = tick then
      let n := leading tick (c :: r)
      let rest := (c :: r).drop n
      match opened? n rest with
      | some (t, rest) => .code t :: spansFrom fuel (some tick) rest
      | none =>
        let plain := rest.takeWhile (· != tick)
        chars ((c :: r).take n ++ plain ++ (rest.drop plain.length).take 1)
          ++ spansFrom fuel (some tick) (rest.drop (plain.length + 1))
    else .char c :: spansFrom fuel (some c) r

def spans (t : Text) : List Span := spansFrom (t.length + 1) none t

end Weave.Markdown.CodeSpan
