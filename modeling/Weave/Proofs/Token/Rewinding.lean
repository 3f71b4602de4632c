import Weave.Proofs.Token.Cuts
import Weave.Proofs.Token.Places

/-!
# Rewinding

Tokens are cut where the cursor stands, over and over again as it goes back and forth. As long as it
is only put to where a token of the whole text starts, or to the end, this comes to looking them up in
a list that is made once. Put to any other place, it meets the tokens of the rest of the text.
-/

set_option autoImplicit false

namespace Weave

namespace Cursor

/-! ### Operations -/

/-- What can be done at a cursor. -/
inductive Operation where
  | next
  | peek
  | peekMany (n : Nat)
  | sees (kinds : List TokenKind)
  | seek (offset : Nat)
deriving DecidableEq, Repr

inductive Answer where
  | token (a : Token)
  | tokens (ts : List Token)
  | flag (b : Bool)
  | nothing
deriving DecidableEq, Repr

def perform (t : Text) : Operation → Cursor → Answer × Cursor
  | .next, c => (.token c.next.1, c.next.2)
  | .peek, c => (.token c.peek, c)
  | .peekMany n, c => (.tokens (c.peekMany n), c)
  | .sees kinds, c => (.flag (c.sees kinds), c)
  | .seek offset, _ => (.nothing, ofText t offset)

def performAll (t : Text) : List Operation → Cursor → List (Answer × Nat)
  | [], _ => []
  | o :: os, c => ((perform t o c).1, (perform t o c).2.offset) :: performAll t os (perform t o c).2

/-! ### A list made once -/

/-- The tokens of a text that do not start in front of an offset. -/
def ahead (t : Text) (offset : Nat) : List Token := (Token.all t).dropWhile (·.start < offset)

/-- The next tokens, filled up with that at the end. -/
def lookUp (t : Text) (offset n : Nat) : List Token :=
  (ahead t offset ++ List.replicate n (Token.atEnd t.length)).take n

def lookUpOne (t : Text) (offset : Nat) : Token := (ahead t offset).headD (Token.atEnd t.length)

/-- The same operations on the list of all tokens, and an offset in the place of a cursor. -/
def consult (t : Text) : Operation → Nat → Answer × Nat
  | .next, p => (.token (lookUpOne t p), (lookUpOne t p).stop)
  | .peek, p => (.token (lookUpOne t p), p)
  | .peekMany n, p => (.tokens (lookUp t p n), p)
  | .sees kinds, p => (.flag ((lookUp t p kinds.length).map Token.kind = kinds), p)
  | .seek offset, _ => (.nothing, offset)

def consultAll (t : Text) : List Operation → Nat → List (Answer × Nat)
  | [], _ => []
  | o :: os, p => consult t o p :: consultAll t os (consult t o p).2

/-- Where a token of the text starts, that at its end included. -/
def IsStart (t : Text) (offset : Nat) : Prop := offset ∈ (Token.all t).map Token.start

def Operation.SeeksStart (t : Text) : Operation → Prop
  | .seek offset => IsStart t offset
  | _ => True

section

variable {t : Text} {c : Cursor} {p : Nat}

/-- The token at the cursor is the first one from there on, that at the end included. -/
theorem head?_tokens (h : c.On t) :
    (c.tokens.map Prod.fst ++ [Token.atEnd t.length]).head? = some c.peek := by
  by_cases hc : c.rest = []
  · rw [tokens_of_rest_nil hc, ← h.length]
    simp [peek, hc, Token.atEnd]
  · rw [tokens_of_rest_ne_nil hc]
    rfl

theorem isStart_iff : IsStart t p ↔ ∃ ts, (start t).Walk ts (ofText t p) := by
  have hin := on_start t
  constructor
  · intro h
    obtain ⟨a, ha, rfl⟩ := List.mem_map.mp h
    obtain ⟨us, vs, htokens, hhead⟩ : ∃ us vs, (start t).tokens = us ++ vs ∧
        (vs.map Prod.fst ++ [Token.atEnd t.length]).head? = some a := by
      rcases List.mem_append.mp ha with ha | ha
      · obtain ⟨r, hr, rfl⟩ := List.mem_map.mp ha
        obtain ⟨us, vs, heq⟩ := List.append_of_mem hr
        exact ⟨us, r :: vs, heq, rfl⟩
      · refine ⟨(start t).tokens, [], by rw [List.append_nil], ?_⟩
        rw [List.mem_singleton.mp ha]
        rfl
    obtain ⟨d, w, hvs⟩ := Walk.exists_of_tokens htokens
    have hd := hin.walk w
    rw [← hvs, head?_tokens hd] at hhead
    cases hhead
    rw [hd.peek_start]
    exact ⟨us, hd.eq_ofText ▸ w⟩
  · rintro ⟨ts, w⟩
    have hd := hin.walk w
    have hhead := head?_tokens hd
    have hmem : (ofText t p).peek ∈ Token.all t := by
      rw [Token.all, w.tokens, List.map_append, List.append_assoc]
      exact List.mem_append_right _ (List.mem_of_head? hhead)
    have hstart := List.mem_map_of_mem (f := Token.start) hmem
    rwa [hd.peek_start] at hstart

/-- What is cut at the start of a token is what stands there in the list. -/
theorem ahead_eq (h : IsStart t p) :
    ahead t p = (ofText t p).tokens.map Prod.fst ++ [Token.atEnd t.length] := by
  obtain ⟨ts, w⟩ := isStart_iff.mp h
  have hin := on_start t
  have hd := hin.walk w
  have hfront : ∀ a ∈ ts.map Prod.fst, decide (a.start < p) = true := by
    intro a ha
    obtain ⟨r, hr, rfl⟩ := List.mem_map.mp ha
    exact decide_eq_true (hin.start_lt_of_walk w r hr)
  have hall : Token.all t
      = ts.map Prod.fst ++ ((ofText t p).tokens.map Prod.fst ++ [Token.atEnd t.length]) := by
    rw [← List.append_assoc, ← List.map_append, ← w.tokens]
    rfl
  obtain ⟨us, hus⟩ := List.head?_eq_some_iff.mp (head?_tokens hd)
  have hstop : ¬ (ofText t p).peek.start < p := by
    rw [hd.peek_start]
    exact Nat.lt_irrefl p
  rw [ahead, hall, List.dropWhile_append_of_pos hfront, hus,
    List.dropWhile_cons_of_neg (by simpa using hstop)]

theorem lookUpOne_eq (h : IsStart t p) : lookUpOne t p = (ofText t p).peek := by
  obtain ⟨ts, w⟩ := isStart_iff.mp h
  have hhead := head?_tokens ((on_start t).walk w)
  rw [lookUpOne, ahead_eq h, List.headD_eq_head?_getD, hhead]
  rfl

theorem lookUp_eq (h : IsStart t p) (n : Nat) : lookUp t p n = (ofText t p).peekMany n := by
  rw [lookUp, ahead_eq h, List.append_assoc, List.singleton_append, ← List.replicate_succ,
    peekMany_eq (Nat.le_succ n)]
  rfl

theorem isStart_advance (h : IsStart t p) : IsStart t (ofText t p).advance.offset := by
  obtain ⟨ts, w⟩ := isStart_iff.mp h
  have hd := (on_start t).walk w
  by_cases hc : (ofText t p).rest = []
  · have hend := hd.rest_eq_nil_iff.mp hc
    have hadvance : (ofText t p).advance.offset = p := by
      rw [hd.advance.rest_eq_nil_iff.mp (by simp [advance, hc]), ← hend]
      rfl
    rwa [hadvance]
  · have hstep := w.append (.step hc (.stay _))
    rw [hd.advance.eq_ofText] at hstep
    exact isStart_iff.mpr ⟨_, hstep⟩

/-- From the start of a token on, an operation answers from the list and leads to the start of a
token. -/
theorem perform_eq_consult {o : Operation} (h : IsStart t p) (ho : o.SeeksStart t) :
    perform t o (ofText t p) = ((consult t o p).1, ofText t (consult t o p).2) ∧
      IsStart t (consult t o p).2 := by
  obtain ⟨ts, w⟩ := isStart_iff.mp h
  have hd := (on_start t).walk w
  cases o with
  | next =>
    have hstop : (lookUpOne t p).stop = (ofText t p).advance.offset := by
      rw [lookUpOne_eq h]
      rfl
    refine ⟨?_, ?_⟩
    · rw [perform, consult, hstop, lookUpOne_eq h, ← hd.advance.eq_ofText]
      rfl
    · rw [consult, hstop]
      exact isStart_advance h
  | peek => exact ⟨by rw [perform, consult, lookUpOne_eq h], h⟩
  | peekMany n => exact ⟨by rw [perform, consult, lookUp_eq h], h⟩
  | sees kinds => exact ⟨by rw [perform, consult, lookUp_eq h, sees], h⟩
  | seek offset => exact ⟨rfl, ho⟩

theorem performAll_eq_consultAll {os : List Operation} (h : IsStart t p)
    (hos : ∀ o ∈ os, o.SeeksStart t) : performAll t os (ofText t p) = consultAll t os p := by
  induction os generalizing p with
  | nil => rfl
  | cons o os ih =>
    obtain ⟨ho, hos⟩ := List.forall_mem_cons.mp hos
    obtain ⟨hstep, hstart⟩ := perform_eq_consult h ho
    rw [performAll, consultAll, hstep, ih hstart hos]
    rfl

end

/-! ### The rest of a text -/

end Cursor

/-- The token as it stands behind `n` characters more. -/
def Token.shift (n : Nat) (a : Token) : Token := ⟨a.kind, a.text, n + a.start, n + a.stop⟩

namespace Cursor

def shift (n : Nat) (c : Cursor) : Cursor := ⟨n + c.length, n + c.offset, c.rest⟩

def Operation.shift (n : Nat) : Operation → Operation
  | .seek offset => .seek (n + offset)
  | o => o

def Answer.shift (n : Nat) : Answer → Answer
  | .token a => .token (a.shift n)
  | .tokens ts => .tokens (ts.map (Token.shift n))
  | a => a

section

variable {t : Text} {n : Nat} {c : Cursor}

theorem peek_shift (n : Nat) (c : Cursor) : (c.shift n).peek = c.peek.shift n := by
  by_cases hc : c.rest = []
  · simp [peek, shift, hc, Token.shift]
  · rw [peek_eq_front hc, peek_eq_front (c := c.shift n) hc]
    show Token.front (n + c.offset) c.rest = _
    unfold Token.front
    split
    · next hnil => exact absurd hnil hc
    · split <;> simp [Token.shift, Nat.add_assoc]

theorem advance_shift (n : Nat) (c : Cursor) : (c.shift n).advance = c.advance.shift n := by
  simp only [advance, peek_shift]
  rfl

theorem peekMany_shift (n m : Nat) (c : Cursor) :
    (c.shift n).peekMany m = (c.peekMany m).map (Token.shift n) := by
  induction m generalizing c with
  | zero => rfl
  | succ m ih => rw [peekMany, peekMany, peek_shift, advance_shift, ih, List.map_cons]

theorem sees_shift (n : Nat) (c : Cursor) (kinds : List TokenKind) :
    (c.shift n).sees kinds = c.sees kinds := by
  rw [sees, sees, peekMany_shift, List.map_map]
  rfl

theorem tokens_shift (n : Nat) (c : Cursor) :
    (c.shift n).tokens.map Prod.fst = (c.tokens.map Prod.fst).map (Token.shift n) := by
  induction c using tokens.induct with
  | case1 c hc =>
    rw [tokens_of_rest_nil hc, tokens_of_rest_nil (c := c.shift n) hc]
    rfl
  | case2 c hc ih =>
    rw [tokens_of_rest_ne_nil hc, tokens_of_rest_ne_nil (c := c.shift n) hc, advance_shift, peek_shift,
      List.map_cons, List.map_cons, List.map_cons, ih]

theorem shift_ofText (h : n ≤ t.length) (m : Nat) : (ofText (t.drop n) m).shift n = ofText t (n + m) := by
  simp [shift, ofText, Nat.add_sub_of_le h]

theorem perform_shift (h : n ≤ t.length) (o : Operation) (c : Cursor) :
    perform t (o.shift n) (c.shift n)
      = ((perform (t.drop n) o c).1.shift n, (perform (t.drop n) o c).2.shift n) := by
  cases o with
  | next =>
    show (Answer.token (c.shift n).peek, (c.shift n).advance) = _
    rw [peek_shift, advance_shift]
    rfl
  | peek =>
    show (Answer.token (c.shift n).peek, c.shift n) = _
    rw [peek_shift]
    rfl
  | peekMany m =>
    show (Answer.tokens ((c.shift n).peekMany m), c.shift n) = _
    rw [peekMany_shift]
    rfl
  | sees kinds =>
    show (Answer.flag ((c.shift n).sees kinds), c.shift n) = _
    rw [sees_shift]
    rfl
  | seek m =>
    show (Answer.nothing, ofText t (n + m)) = _
    rw [← shift_ofText h]
    rfl

theorem performAll_shift (h : n ≤ t.length) (os : List Operation) (c : Cursor) :
    performAll t (os.map (Operation.shift n)) (c.shift n)
      = (performAll (t.drop n) os c).map fun r => (r.1.shift n, n + r.2) := by
  induction os generalizing c with
  | nil => rfl
  | cons o os ih =>
    rw [List.map_cons, performAll, performAll, perform_shift h, ih]
    rfl

theorem all_drop (h : n ≤ t.length) :
    (ofText t n).tokens.map Prod.fst ++ [Token.atEnd t.length]
      = (Token.all (t.drop n)).map (Token.shift n) := by
  have hstart : (start (t.drop n)).shift n = ofText t n := shift_ofText h 0
  rw [← hstart, tokens_shift, Token.all, List.map_append]
  simp [Token.atEnd, Token.shift, Nat.add_sub_of_le h]

/-- Operations that put the cursor to starts of tokens and to the end only are answered as if the
tokens had been cut once and for all. Behind any other place stand the tokens of the rest of the text,
and operations are answered as on this rest alone. -/
theorem performAll_rewinding {os : List Operation} (hos : ∀ o ∈ os, o.SeeksStart t) (hn : n ≤ t.length)
    (os' : List Operation) (c : Cursor) :
    performAll t os (start t) = consultAll t os 0 ∧
      (ofText t n).tokens.map Prod.fst ++ [Token.atEnd t.length]
        = (Token.all (t.drop n)).map (Token.shift n) ∧
      performAll t (.seek n :: os'.map (Operation.shift n)) c
        = (.nothing, n) :: (performAll (t.drop n) os' (start (t.drop n))).map
            fun r => (r.1.shift n, n + r.2) := by
  have hstart : IsStart t 0 := isStart_iff.mpr ⟨[], .stay _⟩
  refine ⟨performAll_eq_consultAll hstart hos, all_drop hn, ?_⟩
  have hshift := performAll_shift hn os' (start (t.drop n))
  rw [start, shift_ofText hn] at hshift
  exact congrArg ((Answer.nothing, n) :: ·) hshift

/-- The cursor goes back to the newline, which has been read and is seen again, and then into it. -/
theorem performAll_rewinding_newline :
    performAll ['a', '\r', '\n'] [.next, .next, .next, .seek 1, .sees [.newline, .finish], .next]
        (start ['a', '\r', '\n'])
      = [(.token ⟨.word, ['a'], 0, 1⟩, 1), (.token ⟨.newline, ['\r', '\n'], 1, 3⟩, 3),
        (.token (Token.atEnd 3), 3), (.nothing, 1), (.flag true, 1),
        (.token ⟨.newline, ['\r', '\n'], 1, 3⟩, 3)] ∧
      performAll ['a', '\r', '\n'] [.seek 2, .next] (start ['a', '\r', '\n'])
        = [(.nothing, 2), (.token ⟨.newline, ['\n'], 2, 3⟩, 3)] := by
  have hall : Token.all ['a', '\r', '\n']
      = [⟨.word, ['a'], 0, 1⟩, ⟨.newline, ['\r', '\n'], 1, 3⟩, Token.atEnd 3] := by cbv
  have hseeks : ∀ o ∈ [Operation.next, .next, .next, .seek 1, .sees [.newline, .finish], .next],
      o.SeeksStart ['a', '\r', '\n'] := by
    simp [Operation.SeeksStart, IsStart, hall]
  obtain ⟨hlist, -, hrest⟩ := performAll_rewinding hseeks (n := 2) (by decide) [.next]
    (start ['a', '\r', '\n'])
  refine ⟨hlist.trans ?_, hrest.trans ?_⟩
  · simp [consultAll, consult, lookUpOne, lookUp, ahead, hall, Token.atEnd]
  · rfl

end

end Cursor

end Weave
