import Weave.Text

/-!
# Patterns

Regular expressions with groups, back references and one-character look-behind, matched by
backtracking: of several ways to match, the first in the order of the pattern is taken.
-/

set_option autoImplicit false

namespace Weave

inductive Pattern where
  | nothing
  | one (p : Char → Bool)
  | seq (p q : Pattern)
  | alt (p q : Pattern)
  /-- Between `least` and `most` repetitions, as many or as few as possible. -/
  | times (greedy : Bool) (least : Nat) (most : Option Nat) (p : Pattern)
  | group (index : Nat) (p : Pattern)
  /-- The text that a group has matched. -/
  | again (index : Nat)
  /-- What follows matches, or does not; nothing is consumed. -/
  | ahead (wanted : Bool) (p : Pattern)
  /-- The character before satisfies the test, or does not; at the start of the text there is none. -/
  | behind (wanted : Bool) (p : Char → Bool)
  | atStart
  | atEnd

namespace Pattern

/-- A place in a text with the groups matched so far. -/
structure Place where
  passed : Text
  rest : Text
  groups : List (Nat × Text) := []

def Place.group? (s : Place) (i : Nat) : Option Text :=
  (s.groups.find? fun g => g.1 = i).map Prod.snd

def Place.skip (s : Place) : Text → Place
  | [] => s
  | c :: r => Place.skip { s with passed := c :: s.passed, rest := s.rest.drop 1 } r

def Place.since (s t : Place) : Text :=
  (t.passed.take (t.passed.length - s.passed.length)).reverse

def weight : Pattern → Nat
  | .seq p q | .alt p q => p.weight + q.weight + 1
  | .times _ least _ p => (least + 1) * (p.weight + 2)
  | .group _ p | .ahead _ p => p.weight + 1
  | _ => 1

/-- Matches `p` and then what `k` asks for; `fuel` bounds the length of one path. -/
def run : Nat → Pattern → Place → (Place → Option Place) → Option Place
  | 0, _, _, _ => none
  | fuel + 1, p, s, k =>
    match p with
    | .nothing => k s
    | .one test =>
      match s.rest with
      | c :: r => if test c then k { s with passed := c :: s.passed, rest := r } else none
      | [] => none
    | .seq p q => run fuel p s fun s => run fuel q s k
    | .alt p q =>
      match run fuel p s k with
      | some r => some r
      | none => run fuel q s k
    | .times greedy least most p =>
      let more := fun (_ : Unit) =>
        if most = some 0 then none
        else run fuel p s fun s' =>
          -- a repetition that matches nothing is not repeated
          if least = 0 && s'.passed.length = s.passed.length then none
          else run fuel (.times greedy (least - 1) (most.map (· - 1)) p) s' k
      if least > 0 then more ()
      else if greedy then
        match more () with
        | some r => some r
        | none => k s
      else
        match k s with
        | some r => some r
        | none => more ()
    | .group i p =>
      run fuel p s fun s' =>
        k { s' with groups := (i, s.since s') :: s'.groups }
    | .again i =>
      match s.group? i with
      | none => none
      | some t => if t.isPrefixOf s.rest then k (s.skip t) else none
    | .ahead wanted p =>
      let found := (run fuel p s some).isSome
      if found = wanted then k s else none
    | .behind wanted test =>
      let found := match s.passed with
        | c :: _ => test c
        | [] => false
      if found = wanted then k s else none
    | .atStart => if s.passed.isEmpty then k s else none
    | .atEnd => if s.rest.isEmpty then k s else none

def fuelFor (p : Pattern) (s : Place) : Nat := (s.rest.length + 2) * (p.weight + 4) + 16

/-- The match that starts at a place. -/
def matchAt? (p : Pattern) (s : Place) : Option Place :=
  run (fuelFor p s) p { s with groups := [] } some

/-- The first match at or behind a place: where it starts and where it ends. -/
def search? (p : Pattern) (s : Place) : Option (Place × Place) :=
  go s.rest.length s
where
  go : Nat → Place → Option (Place × Place)
    | 0, s => (matchAt? p s).map fun e => (s, e)
    | n + 1, s =>
      match matchAt? p s with
      | some e => some (s, e)
      | none =>
        match s.rest with
        | [] => none
        | c :: r => go n { s with passed := c :: s.passed, rest := r }

def startPlace (t : Text) : Place := { passed := [], rest := t }

def char (c : Char) : Pattern := .one (· == c)

def any : Pattern := .one fun _ => true

def anyOf (cs : String) : Pattern := .one fun c => cs.toList.contains c

def noneOf (cs : String) : Pattern := .one fun c => !cs.toList.contains c

def seqs : List Pattern → Pattern
  | [] => .nothing
  | [p] => p
  | p :: ps => .seq p (seqs ps)

def alts : List Pattern → Pattern
  | [] => .one fun _ => false
  | [p] => p
  | p :: ps => .alt p (alts ps)

def text (s : String) : Pattern := seqs (s.toList.map char)

def many (p : Pattern) : Pattern := .times true 0 none p
def some1 (p : Pattern) : Pattern := .times true 1 none p
def optional (p : Pattern) : Pattern := .times true 0 (some 1) p
def manyLazy (p : Pattern) : Pattern := .times false 0 none p
def upTo (n : Nat) (p : Pattern) : Pattern := .times true 0 (some n) p
def between (a b : Nat) (p : Pattern) : Pattern := .times true a (some b) p

def digit : Pattern := .one Char.isDigit
def blank : Pattern := .one Text.isBlank

end Pattern

end Weave
