import Weave.Text.Quoted
import Weave.Unicode.Digits

/-!
# Arguments of a command line

Words that start with a dash name options, everything else fills the places for positional
arguments. A long option may be shortened as far as it stays unambiguous, and may have its value
behind an equals sign. Behind a lone double dash nothing is an option. Negative numbers and words
that hold a space are no options either.
-/

set_option autoImplicit false

namespace Weave

/-- What an option asks for. -/
inductive Demand where
  | nothing
  | value
  /-- The rest of the command line does not matter. -/
  | stop
deriving DecidableEq, Repr, Inhabited

structure OptionSpec (κ : Type) where
  key : κ
  names : List Text
  demand : Demand
deriving Repr

namespace OptionSpec

variable {κ : Type}

def label (s : OptionSpec κ) : Text := Text.join ['/'] s.names

end OptionSpec

/-- What a word of a command line is. -/
inductive Word (κ : Type) where
  | plain (t : Text)
  /-- The double dash that ends the options. -/
  | dashes
  | option (s : OptionSpec κ) (attached : Option Text)
  /-- An option of one letter with something directly behind it. -/
  | cluster (s : OptionSpec κ) (behind : Text)
  | unknown (t : Text)

inductive ArgumentFault (κ : Type) where
  | ambiguous (word : Text)
  | missingValue (label : Text)
  | unwantedValue (label value : Text)
  | stopped (key : κ)

/-- The options in the order in which they were given, the words in the places, and the words that
nothing asks for. -/
structure Arguments (κ : Type) where
  options : List (κ × Text) := []
  places : List (Option Text) := []
  extras : List Text := []

namespace Arguments

variable {κ : Type}

/-- A word cut at its first equals sign. -/
def atEquals (t : Text) : Text × Option Text :=
  match Text.cut? ['='] t with
  | some (before, value) => (before, some value)
  | none => (t, none)

/-- A minus sign, digits and perhaps a point; a newline may follow. -/
def isNegativeNumber (t : Text) : Bool :=
  let digits := fun (t : Text) => t.all Unicode.isDecimalDigit
  let body := if t.getLast? = some '\n' then t.dropLast else t
  match body with
  | '-' :: r =>
    match Text.cut? ['.'] r with
    | none => !r.isEmpty && digits r
    | some (whole, fraction) => digits whole && !fraction.isEmpty && digits fraction
  | _ => false

def named? (specs : List (OptionSpec κ)) (name : Text) : Option (OptionSpec κ) :=
  specs.find? fun s => name ∈ s.names

/-- The options that have a name which a word may stand for. -/
def candidates (specs : List (OptionSpec κ)) (t : Text) : List (Word κ) :=
  match t with
  | '-' :: '-' :: _ =>
    let (start, value) := atEquals t
    specs.flatMap fun s => (s.names.filter fun n => start.isPrefixOf n).map fun _ => .option s value
  | '-' :: c :: behind =>
    specs.flatMap fun s => s.names.filterMap fun n =>
      if n = ['-', c] then some (.cluster s behind)
      else if t.isPrefixOf n then some (.option s none)
      else none
  | _ => []

/-- What a word in front of the double dash is. -/
def classify (specs : List (OptionSpec κ)) (t : Text) : Except (ArgumentFault κ) (Word κ) :=
  match t with
  | '-' :: _ :: _ =>
    match named? specs t, atEquals t with
    | some s, _ => .ok (.option s none)
    | none, (name, some value) =>
      match named? specs name with
      | some s => .ok (.option s (some value))
      | none => guess t
    | none, _ => guess t
  | _ => .ok (.plain t)
where
  guess (t : Text) : Except (ArgumentFault κ) (Word κ) :=
    match candidates specs t with
    | [w] => .ok w
    | [] => .ok (if isNegativeNumber t || t.contains ' ' then .plain t else .unknown t)
    | _ => .error (.ambiguous t)

def classifyAll (specs : List (OptionSpec κ)) : List Text → Except (ArgumentFault κ) (List (Word κ))
  | [] => .ok []
  | t :: ts =>
    if t = ['-', '-'] then .ok (.dashes :: ts.map .plain)
    else do
      let w ← classify specs t
      let ws ← classifyAll specs ts
      pure (w :: ws)

/-- The options in a cluster of letters; a letter that is none ends it and is left over. -/
def splitCluster (specs : List (OptionSpec κ)) (s : OptionSpec κ) :
    Text → Except (ArgumentFault κ) (List (OptionSpec κ × Text) × List Text)
  | [] => .ok ([(s, [])], [])
  | c :: behind =>
    if s.demand = .value then .ok ([(s, if c = '=' then behind else c :: behind)], [])
    else if c = '-' || c = '=' then
      .error (.unwantedValue s.label (if c = '=' then behind else c :: behind))
    else match named? specs ['-', c] with
      | some s' => (splitCluster specs s' behind).map fun r => ((s, []) :: r.1, r.2)
      | none => .ok ([(s, [])], ['-' :: c :: behind])

def add (a : Arguments κ) (s : OptionSpec κ) (value : Text) :
    Except (ArgumentFault κ) (Arguments κ) :=
  if s.demand = .stop then .error (.stopped s.key)
  else .ok { a with options := a.options ++ [(s.key, value)] }

def place (a : Arguments κ) (t : Option Text) : Arguments κ := { a with places := a.places ++ [t] }

def leave (a : Arguments κ) (ts : List Text) : Arguments κ := { a with extras := a.extras ++ ts }

/-- Reads the words, where `free` places are left to fill and `filled` says whether the word before
filled one. The double dash goes with the word of a place next to it. -/
def readFrom (specs : List (OptionSpec κ)) :
    Nat → Bool → Arguments κ → List (Word κ) → Except (ArgumentFault κ) (Arguments κ)
  | _, _, a, [] => .ok a
  | free, _, a, .plain t :: ws =>
    match free with
    | 0 => readFrom specs 0 false (a.leave [t]) ws
    | free + 1 =>
      readFrom specs free true (a.place (if t = ['-', '-'] then none else some t)) ws
  | free, true, a, .dashes :: ws => readFrom specs free false a ws
  | free + 1, false, a, .dashes :: .plain t :: ws =>
    readFrom specs free true (a.place (some t)) ws
  | free, false, a, .dashes :: ws => readFrom specs free false (a.leave [['-', '-']]) ws
  | free, _, a, .unknown t :: ws => readFrom specs free false (a.leave [t]) ws
  | free, _, a, .option s (some value) :: ws =>
    if s.demand = .value then do
      let a ← a.add s value
      readFrom specs free false a ws
    else .error (.unwantedValue s.label value)
  | free, _, a, .option s none :: ws =>
    if s.demand = .value then
      match ws with
      | .plain t :: ws => do
        let a ← a.add s t
        readFrom specs free false a ws
      | _ => .error (.missingValue s.label)
    else do
      let a ← a.add s []
      readFrom specs free false a ws
  | free, _, a, .cluster s behind :: ws => do
    let (found, left) ← splitCluster specs s behind
    let a ← found.foldlM (fun a f => a.add f.1 f.2) (a.leave left)
    readFrom specs free false a ws

/-- Reads a command line with this many places for positional arguments. -/
def read (specs : List (OptionSpec κ)) (places : Nat) (ts : List Text) :
    Except (ArgumentFault κ) (Arguments κ) := do
  let ws ← classifyAll specs ts
  readFrom specs places false {} ws

def valuesOf [DecidableEq κ] (a : Arguments κ) (key : κ) : List Text :=
  (a.options.filter fun o => o.1 = key).map Prod.snd

def value? [DecidableEq κ] (a : Arguments κ) (key : κ) : Option Text := (a.valuesOf key).getLast?

def has [DecidableEq κ] (a : Arguments κ) (key : κ) : Bool := !(a.valuesOf key).isEmpty

end Arguments

namespace ArgumentFault

variable {κ : Type}

def message : ArgumentFault κ → Text
  | .missingValue label => "argument ".toList ++ label ++ ": expected one argument".toList
  | .unwantedValue label value =>
    "argument ".toList ++ label ++ ": ignored explicit argument ".toList ++ Text.quote value
  | .ambiguous word => "ambiguous option: ".toList ++ word
  | .stopped _ => []

end ArgumentFault

end Weave
