import Mathlib.Data.List.Basic
import Mathlib.Data.List.Forall2
import Mathlib.Data.List.Induction
import Weave.Console

/-!
# Where writes land

Threads open captures, close the innermost one and write, in whatever order. A write lands in the
innermost capture that is open and belongs to its thread, or in the base streams if there is none, and
nowhere else. What a capture holds when it closes is what has landed in it.
-/

set_option autoImplicit false

namespace Weave

namespace Console

/-! ### Events -/

/-- What threads do to a console. -/
inductive Event where
  | opened (thread : Nat)
  | closed
  | wrote (thread : Nat) (w : Write)
deriving DecidableEq

def happen (k : Console) : Event → Console
  | .opened thread => k.openCapture thread
  | .closed => k.closeCapture.2
  | .wrote thread w => k.write thread w

def after (k : Console) (es : List Event) : Console := es.foldl happen k

theorem after_concat (k : Console) (es : List Event) (e : Event) :
    k.after (es ++ [e]) = (k.after es).happen e := by
  rw [after, List.foldl_append]
  rfl

/-! ### Captures that are open -/

/-- What an event does to the captures that are open, each of which is known by when it was opened. -/
def track (open_ : List Nat) : Event × Nat → List Nat
  | (.opened _, i) => i :: open_
  | (.closed, _) => open_.tail
  | (.wrote .., _) => open_

/-- The captures that are open after some events, the one that was opened last first. -/
def openAfter (es : List Event) : List Nat := es.zipIdx.foldl track []

/-- The innermost of the captures that are open after some events and belong to a thread. -/
def innermost? (es : List Event) (thread : Nat) : Option Nat :=
  (openAfter es).find? fun i => es[i]? = some (.opened thread)

@[simp]
theorem openAfter_concat (es : List Event) (e : Event) :
    openAfter (es ++ [e]) = track (openAfter es) (e, es.length) := by
  simp [openAfter, List.zipIdx_append]

theorem lt_length_of_mem_openAfter {es : List Event} {i : Nat} (h : i ∈ openAfter es) : i < es.length := by
  induction es using List.reverseRecOn with
  | nil => exact absurd h List.not_mem_nil
  | append_singleton es e ih =>
    rw [openAfter_concat] at h
    rw [List.length_append, List.length_singleton]
    cases e with
    | opened thread =>
      rcases List.mem_cons.mp h with rfl | h
      · exact Nat.lt_succ_self _
      · exact Nat.lt_succ_of_lt (ih h)
    | closed => exact Nat.lt_succ_of_lt (ih (List.mem_of_mem_tail h))
    | wrote thread w => exact Nat.lt_succ_of_lt (ih h)

theorem nodup_openAfter (es : List Event) : (openAfter es).Nodup := by
  induction es using List.reverseRecOn with
  | nil => exact List.nodup_nil
  | append_singleton es e ih =>
    rw [openAfter_concat]
    cases e with
    | opened thread =>
      exact List.nodup_cons.mpr ⟨fun h => absurd (lt_length_of_mem_openAfter h) (Nat.lt_irrefl _), ih⟩
    | closed => exact ih.sublist (List.tail_sublist _)
    | wrote thread w => exact ih

/-- A capture that has been closed is not opened again. -/
theorem mem_openAfter_append {es later : List Event} {i : Nat} (hi : i < es.length)
    (h : i ∈ openAfter (es ++ later)) : i ∈ openAfter es := by
  induction later using List.reverseRecOn with
  | nil => rwa [List.append_nil] at h
  | append_singleton later e ih =>
    rw [← List.append_assoc, openAfter_concat] at h
    cases e with
    | opened thread =>
      rcases List.mem_cons.mp h with rfl | h
      · rw [List.length_append] at hi
        omega
      · exact ih h
    | closed => exact ih (List.mem_of_mem_tail h)
    | wrote thread w => exact ih h

theorem mem_of_innermost? {es : List Event} {thread i : Nat} (h : innermost? es thread = some i) :
    i ∈ openAfter es := List.mem_of_find?_eq_some h

/-! ### Writes and where they land -/

def written (es : List Event) : List Write :=
  es.filterMap fun
    | .wrote _ w => some w
    | _ => none

/-- The writes, each with the innermost capture that was open then and belongs to its thread. -/
def routed (es : List Event) : List (Option Nat × Write) :=
  es.zipIdx.filterMap fun
    | (.wrote thread w, j) => some (innermost? (es.take j) thread, w)
    | _ => none

/-- The writes that land in a capture, or in the base streams. -/
def landings (es : List Event) (place : Option Nat) : List Write :=
  ((routed es).filter fun r => r.1 = place).map Prod.snd

theorem routed_concat (es : List Event) (e : Event) :
    routed (es ++ [e]) = routed es ++
      match e with
      | .wrote thread w => [(innermost? es thread, w)]
      | _ => [] := by
  have hfront : (es.zipIdx.filterMap fun
      | (.wrote thread w, j) => some (innermost? ((es ++ [e]).take j) thread, w)
      | _ => none) = routed es := by
    refine List.filterMap_congr fun ⟨e', j⟩ hmem => ?_
    have hj : j ≤ es.length := by
      have := List.snd_lt_of_mem_zipIdx hmem
      omega
    cases e' <;> simp only [List.take_append_of_le_length hj]
  rw [routed, List.zipIdx_append, List.filterMap_append, hfront]
  cases e <;> simp

theorem map_snd_routed (es : List Event) : (routed es).map Prod.snd = written es := by
  induction es using List.reverseRecOn with
  | nil => rfl
  | append_singleton es e ih =>
    rw [routed_concat, List.map_append, ih, written, written, List.filterMap_append]
    cases e <;> rfl

/-- What of an event that comes next lands in a capture, or in the base streams. -/
def landing (es : List Event) (place : Option Nat) : Event → List Write
  | .wrote thread w => if innermost? es thread = place then [w] else []
  | _ => []

@[simp]
theorem landing_opened (es : List Event) (place : Option Nat) (thread : Nat) :
    landing es place (.opened thread) = [] := rfl

@[simp]
theorem landing_closed (es : List Event) (place : Option Nat) : landing es place .closed = [] := rfl

theorem landing_eq_nil {es : List Event} {place : Option Nat} {e : Event}
    (h : ∀ thread w, e = .wrote thread w → innermost? es thread ≠ place) : landing es place e = [] := by
  cases e with
  | wrote thread w => exact if_neg (h thread w rfl)
  | _ => rfl

theorem landings_concat (es : List Event) (e : Event) (place : Option Nat) :
    landings (es ++ [e]) place = landings es place ++ landing es place e := by
  rw [landings, routed_concat, List.filter_append, List.map_append, ← landings]
  cases e with
  | wrote thread w => by_cases h : innermost? es thread = place <;> simp [landing, h]
  | _ => rfl

theorem landings_eq_nil {es : List Event} {i : Nat} (hi : es.length ≤ i) : landings es (some i) = [] := by
  induction es using List.reverseRecOn with
  | nil => rfl
  | append_singleton es e ih =>
    rw [List.length_append, List.length_singleton] at hi
    have hnot : ∀ thread w, e = .wrote thread w → innermost? es thread ≠ some i := fun _ _ _ heq =>
      absurd (lt_length_of_mem_openAfter (mem_of_innermost? heq)) (by omega)
    rw [landings_concat, ih (by omega), landing_eq_nil hnot, List.append_nil]

/-- Nothing lands in a capture that has been closed. -/
theorem landings_append_of_not_mem {es : List Event} {i : Nat} (hi : i < es.length) (h : i ∉ openAfter es)
    (later : List Event) : landings (es ++ later) (some i) = landings es (some i) := by
  induction later using List.reverseRecOn with
  | nil => rw [List.append_nil]
  | append_singleton later e ih =>
    have hnot : ∀ thread w, e = .wrote thread w → innermost? (es ++ later) thread ≠ some i :=
      fun _ _ _ heq => h (mem_openAfter_append hi (mem_of_innermost? heq))
    rw [← List.append_assoc, landings_concat, ih, landing_eq_nil hnot, List.append_nil]

/-! ### What a console holds -/

/-- An open capture belongs to the thread that has opened it, and holds what has landed in it. -/
structure Holds (es : List Event) (c : Capture) (i : Nat) : Prop where
  owner : es[i]? = some (.opened c.owner)
  writes : c.writes = landings es (some i)

/-- A console holds what has landed, in its base streams behind what was there and in the open
captures. -/
structure Accounts (l : List Write) (es : List Event) (k : Console) : Prop where
  base : k.base = l.reverse ++ landings es none
  captures : List.Forall₂ (Holds es) k.captures (openAfter es)

namespace Holds

variable {es : List Event} {c : Capture} {i : Nat}

theorem lt_length (h : Holds es c i) : i < es.length := by
  by_contra hi
  have howner := h.owner
  rw [List.getElem?_eq_none (by omega)] at howner
  cases howner

theorem concat_of_ne (h : Holds es c i) {e : Event}
    (he : ∀ thread w, e = .wrote thread w → innermost? es thread ≠ some i) : Holds (es ++ [e]) c i := by
  refine ⟨?_, ?_⟩
  · rw [List.getElem?_append_left h.lt_length, h.owner]
  · rw [landings_concat, landing_eq_nil he, List.append_nil, h.writes]

theorem concat_of_eq (h : Holds es c i) {thread : Nat} {w : Write}
    (hi : innermost? es thread = some i) : Holds (es ++ [.wrote thread w]) (c.add w) i := by
  refine ⟨?_, ?_⟩
  · rw [List.getElem?_append_left h.lt_length, h.owner, Capture.add]
  · rw [landings_concat, Capture.writes_add, h.writes, landing, if_pos hi]

end Holds

theorem holds_concat {es : List Event} {cs : List Capture} {is : List Nat}
    (h : List.Forall₂ (Holds es) cs is) {e : Event}
    (he : ∀ i ∈ is, ∀ thread w, e = .wrote thread w → innermost? es thread ≠ some i) :
    List.Forall₂ (Holds (es ++ [e])) cs is := by
  induction h with
  | nil => exact .nil
  | cons hc _ ih =>
    exact .cons (hc.concat_of_ne (he _ List.mem_cons_self))
      (ih fun i hi => he i (List.mem_cons_of_mem _ hi))

theorem holds_tail {es : List Event} {cs : List Capture} {is : List Nat}
    (h : List.Forall₂ (Holds es) cs is) : List.Forall₂ (Holds es) cs.tail is.tail := by
  cases h with
  | nil => exact .nil
  | cons _ h => exact h

/-- The pass through the open captures stops at the innermost one of the thread. -/
theorem land_of_holds {es : List Event} {cs : List Capture} {is : List Nat}
    (h : List.Forall₂ (Holds es) cs is) (hnodup : is.Nodup) {thread : Nat} (w : Write)
    (hinner : innermost? es thread = is.find? fun i => es[i]? = some (.opened thread)) :
    (land thread w cs = none ∧ innermost? es thread = none) ∨
      ∃ cs', land thread w cs = some cs' ∧ innermost? es thread ≠ none ∧
        List.Forall₂ (Holds (es ++ [.wrote thread w])) cs' is := by
  induction h with
  | nil => exact .inl ⟨rfl, hinner⟩
  | @cons c i cs is hc hcs ih =>
    obtain ⟨hi, hnodup⟩ := List.nodup_cons.mp hnodup
    by_cases howner : c.owner = thread
    · have hfirst : innermost? es thread = some i := by
        rw [hinner, List.find?_cons_of_pos (by simp [hc.owner, howner])]
      refine .inr ⟨c.add w :: cs, by rw [land, if_pos howner], by simp [hfirst],
        .cons (hc.concat_of_eq hfirst) (holds_concat hcs fun j hj _ _ heq => ?_)⟩
      cases heq
      rw [hfirst]
      rintro ⟨rfl⟩
      exact hi hj
    · rw [List.find?_cons_of_neg (by simp [hc.owner, howner])] at hinner
      have hne : innermost? es thread ≠ some i := fun heq =>
        hi (List.mem_of_find?_eq_some (hinner.symm.trans heq))
      rcases ih hnodup hinner with ⟨hland, hnone⟩ | ⟨cs', hland, hsome, hholds⟩
      · exact .inl ⟨by rw [land, if_neg howner, hland]; rfl, hnone⟩
      · refine .inr ⟨c :: cs', by rw [land, if_neg howner, hland]; rfl, hsome,
          .cons (hc.concat_of_ne ?_) hholds⟩
        rintro _ _ ⟨rfl⟩
        exact hne

namespace Accounts

variable {l : List Write} {es : List Event} {k : Console}

theorem opened (h : Accounts l es k) (thread : Nat) :
    Accounts l (es ++ [.opened thread]) (k.openCapture thread) := by
  refine ⟨?_, ?_⟩
  · rw [landings_concat, landing_opened, List.append_nil]
    exact h.base
  · rw [openAfter_concat]
    refine .cons ⟨List.getElem?_concat_length, ?_⟩ (holds_concat h.captures nofun)
    rw [landings_concat, landings_eq_nil (Nat.le_refl _), landing_opened]
    rfl

theorem closed (h : Accounts l es k) : Accounts l (es ++ [.closed]) k.closeCapture.2 := by
  have hclose : k.closeCapture.2.base = k.base ∧ k.closeCapture.2.captures = k.captures.tail := by
    unfold closeCapture
    split
    next hk => exact ⟨rfl, by rw [hk, List.tail_nil]⟩
    next hk => exact ⟨rfl, by rw [hk, List.tail_cons]⟩
  refine ⟨?_, ?_⟩
  · rw [landings_concat, landing_closed, List.append_nil, hclose.1, h.base]
  · rw [openAfter_concat, track, hclose.2]
    exact holds_tail (holds_concat h.captures nofun)

theorem wrote (h : Accounts l es k) (thread : Nat) (w : Write) :
    Accounts l (es ++ [.wrote thread w]) (k.write thread w) := by
  rcases land_of_holds h.captures (nodup_openAfter es) w rfl with
    ⟨hland, hnone⟩ | ⟨cs, hland, hsome, hholds⟩
  · rw [write, hland]
    refine ⟨?_, ?_⟩
    · rw [landings_concat, landing, if_pos hnone, ← List.append_assoc, ← h.base]
      exact List.reverse_cons
    · rw [openAfter_concat, track]
      refine holds_concat h.captures fun _ _ _ _ heq => ?_
      cases heq
      simp [hnone]
  · rw [write, hland]
    refine ⟨?_, ?_⟩
    · rw [landings_concat, landing, if_neg hsome, List.append_nil]
      exact h.base
    · rw [openAfter_concat]
      exact hholds

theorem happen (h : Accounts l es k) (e : Event) : Accounts l (es ++ [e]) (k.happen e) :=
  match e with
  | .opened thread => h.opened thread
  | .closed => h.closed
  | .wrote thread w => h.wrote thread w

end Accounts

theorem accounts_after (l : List Write) (es : List Event) :
    Accounts l es (after { landed := l } es) := by
  induction es using List.reverseRecOn with
  | nil => exact ⟨(List.append_nil _).symm, .nil⟩
  | append_singleton es e ih =>
    rw [after_concat]
    exact ih.happen e

/-- What a capture holds when it closes is what has landed in it, then and at any time after. -/
theorem holds_closeCapture (l : List Write) {before : List Event} {i : Nat} {is : List Nat}
    (hopen : openAfter before = i :: is) (later : List Event) :
    Holds (before ++ .closed :: later) (after { landed := l } before).closeCapture.1 i := by
  have haccounts := (accounts_after l before).captures
  have hnodup := nodup_openAfter before
  rw [hopen] at haccounts hnodup
  rcases hcaptures : (after { landed := l } before).captures with _ | ⟨c, cs⟩
  · rw [hcaptures] at haccounts
    cases haccounts
  · rw [hcaptures] at haccounts
    cases haccounts with
    | cons hc _ =>
      have hclosed : Holds (before ++ [.closed]) c i := hc.concat_of_ne nofun
      have hnot : i ∉ openAfter (before ++ [.closed]) := by
        rw [openAfter_concat, hopen]
        exact (List.nodup_cons.mp hnodup).1
      have hclose : (after { landed := l } before).closeCapture.1 = c := by
        rw [closeCapture, hcaptures]
      rw [hclose, List.append_cons]
      refine ⟨?_, ?_⟩
      · rw [List.getElem?_append_left hclosed.lt_length, hclosed.owner]
      · rw [hclosed.writes, landings_append_of_not_mem hclosed.lt_length hnot]

/-- Captures that are opened and closed in some events, and writes meanwhile: every write lands in one
place, what is open and the base streams hold what has landed there, and so does what is closed, on
each of the two streams and on both together. -/
structure Routes (l : List Write) (es : List Event) : Prop where
  once : (routed es).map Prod.snd = written es
  accounts : Accounts l es (after { landed := l } es)
  closes {before later : List Event} {i : Nat} {is : List Nat} (hes : es = before ++ .closed :: later)
    (hopen : openAfter before = i :: is) :
    ∃ c, (after { landed := l } before).closeCapture.1 = c ∧ es[i]? = some (.opened c.owner) ∧
      (∀ s, c.onStream s = Capture.textOf ((landings es (some i)).filter fun w => w.stream = s)) ∧
      c.merged = Capture.textOf (landings es (some i))

theorem routes (l : List Write) (es : List Event) : Routes l es := by
  refine ⟨map_snd_routed es, accounts_after l es, ?_⟩
  rintro before later i is rfl hopen
  obtain ⟨howner, hwrites⟩ := holds_closeCapture l hopen later
  exact ⟨_, rfl, howner, fun s => by rw [Capture.onStream, hwrites], by rw [Capture.merged, hwrites]⟩

/-- A capture of one thread inside that of another. -/
example :
    let a : Write := ⟨.output, ['a']⟩
    let b : Write := ⟨.error, ['b']⟩
    let es := [Event.opened 0, .wrote 1 a, .opened 1, .wrote 0 b, .wrote 1 b, .closed, .wrote 1 a, .wrote 0 a]
    landings es none = [a, a] ∧ landings es (some 0) = [b, a] ∧ landings es (some 2) = [b] := by decide

/-! ### Writes alone -/

def writeAll (k : Console) (ws : List (Nat × Write)) : Console := ws.foldl (fun k w => k.write w.1 w.2) k

theorem writeAll_append (k : Console) (ws ws' : List (Nat × Write)) :
    k.writeAll (ws ++ ws') = (k.writeAll ws).writeAll ws' := List.foldl_append

def Event.ofWrite (w : Nat × Write) : Event := .wrote w.1 w.2

theorem writeAll_eq_after (k : Console) (ws : List (Nat × Write)) :
    k.writeAll ws = k.after (ws.map Event.ofWrite) := by
  rw [writeAll, after, List.foldl_map]
  rfl

def writesBy (thread : Nat) (ws : List (Nat × Write)) : List Write :=
  (ws.filter fun w => w.1 = thread).map Prod.snd

def writesBeside (thread : Nat) (ws : List (Nat × Write)) : List (Nat × Write) :=
  ws.filter fun w => w.1 ≠ thread

variable (k : Console) (thread : Nat)

theorem write_under_capture (latest : List Write) (w : Nat × Write) :
    Console.write { k with captures := ⟨thread, latest⟩ :: k.captures } w.1 w.2 =
      if w.1 = thread then { k with captures := ⟨thread, w.2 :: latest⟩ :: k.captures }
      else { k.write w.1 w.2 with captures := ⟨thread, latest⟩ :: (k.write w.1 w.2).captures } := by
  by_cases h : w.1 = thread
  · simp [write, land, h, Capture.add]
  · have h' : thread ≠ w.1 := fun he => h he.symm
    simp only [write, land, h, h', if_false]
    cases land w.1 w.2 k.captures <;> rfl

/-- Under an open capture the writes of its thread go there, and the others where they would go without
it. -/
theorem writeAll_under_capture (latest : List Write) (ws : List (Nat × Write)) :
    Console.writeAll { k with captures := ⟨thread, latest⟩ :: k.captures } ws =
      { k.writeAll (writesBeside thread ws) with
        captures := ⟨thread, (writesBy thread ws).reverse ++ latest⟩
          :: (k.writeAll (writesBeside thread ws)).captures } := by
  induction ws generalizing k latest with
  | nil => rfl
  | cons w ws ih =>
    rw [writeAll, List.foldl_cons, write_under_capture]
    split
    next h =>
      rw [← writeAll, ih]
      simp [writesBy, writesBeside, h]
    next h =>
      rw [← writeAll, ih]
      simp [writesBy, writesBeside, h, writeAll]

/-- What the capture of a thread holds that was open during some writes, and what else they leave. -/
theorem closeCapture_writeAll (ws : List (Nat × Write)) :
    ((k.openCapture thread).writeAll ws).closeCapture =
      (⟨thread, (writesBy thread ws).reverse⟩, k.writeAll (writesBeside thread ws)) := by
  rw [openCapture, writeAll_under_capture, List.append_nil]
  rfl

end Console

end Weave
