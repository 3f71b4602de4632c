import Weave.Proofs.Document.LookAhead
import Weave.Proofs.Document.Returns

/-!
# Passes of the reading loops

A document is read in a loop, and the body of each snippet in it in a loop of its own. Both go back to
the braces they have read past, but by the end of a pass after which a loop goes on two characters or
more have been taken. So each loop ends, after no more passes than there are pairs of characters, and
one.
-/

set_option autoImplicit false

namespace Weave

theorem Cursor.On.offset_add_length {t : Text} {c : Cursor} (h : c.On t) :
    c.offset + c.rest.length = t.length := by
  obtain ⟨x, rfl, ho⟩ := h.split
  rw [ho, List.length_append]

namespace Document

variable {α β : Type} {t : Text} {c d m : Cursor} {k n : Nat}

/-! ### What readers take -/

/-- On success at least `n` characters fewer are left than before. -/
def Takes (n : Nat) (p : Reading α) : Prop :=
  ∀ c a d, p c = (.ok a, d) → d.rest.length + n ≤ c.rest.length

theorem Keeps.takes {p : Reading α} (h : Keeps p) : Takes 0 p := h

theorem Shortens.takes {p : Reading α} (h : Shortens p) : Takes 1 p := h

theorem Takes.bind {p : Reading α} {f : α → Reading β} (hp : Takes k p) (hf : ∀ a, Takes n (f a)) :
    Takes (k + n) (p >>= f) := by
  intro c b d h
  obtain ⟨a, m, hfirst, hsecond⟩ := Action.bind_eq_ok h
  have htaken := hp c a m hfirst
  have hothers := hf a m b d hsecond
  omega

theorem Takes.ifSeen {p q : Reading α} (ks : List TokenKind) (hp : Takes n p) (hq : Takes n q) :
    Takes n (ifSeen ks p q) := by
  intro c a d h
  unfold Document.ifSeen at h
  split at h
  · exact hp c a d h
  · exact hq c a d h

theorem takes_pure (a : α) : Takes 0 (pure a : Reading α) := keeps_pure a

theorem takes_expectAll {ks : List TokenKind} (h : .finish ∉ ks) : Takes ks.length (expectAll ks) := by
  induction ks with
  | nil => exact takes_pure []
  | cons k ks ih =>
    obtain ⟨hk, hks⟩ := List.ne_and_not_mem_of_not_mem_cons h
    rw [List.length_cons, Nat.add_comm]
    exact (shortens_expect hk.symm).takes.bind fun _ => (ih hks).bind fun _ => takes_pure _

theorem takes_openCommand : Takes 2 openCommand := takes_expectAll (by decide)

theorem takes_closeCommand : Takes 2 closeCommand := by
  have hlength : ∀ ks ∈ closings, 2 ≤ ks.length ∧ .finish ∉ ks := by decide
  intro c ts d h
  unfold closeCommand at h
  split at h
  · next ks hks =>
    obtain ⟨htwo, hfinish⟩ := hlength ks (List.mem_of_find?_eq_some hks)
    have htaken := takes_expectAll hfinish c ts d h
    omega
  · cases h

theorem takes_bodyStep (rules : List Rule) : Takes 2 (bodyStep rules) := by
  refine .ifSeen embedKinds ?_ (.ifSeen openKinds ?_ ?_)
  · exact takes_openCommand.bind fun _ => keeps_word.takes.bind fun _ =>
      (keeps_expectAll _).takes.bind fun _ => takes_pure _
  · exact takes_openCommand.bind fun _ => takes_pure _
  · exact takes_closeCommand.bind fun _ => takes_pure _

theorem takes_bodyPass (rules : List Rule) : Takes 2 (bodyPass rules) :=
  (keeps_readUntilAny _).takes.bind fun _ => takes_bodyStep _

/-! ### Where readers come to -/

/-- A reader that starts in a text comes to a place in it, also where it fails. -/
def Stays (t : Text) (p : Reading α) : Prop := ∀ c, c.On t → (p c).2.On t

theorem Stays.on {p : Reading α} {r : Except Fault α} (hp : Stays t p) (h : p c = (r, d))
    (hc : c.On t) : d.On t := by
  have hd := hp c hc
  rwa [h] at hd

theorem stays_pure (a : α) : Stays t (pure a : Reading α) := fun _ hc => hc

theorem Stays.bind {p : Reading α} {f : α → Reading β} (hp : Stays t p) (hf : ∀ a, Stays t (f a)) :
    Stays t (p >>= f) := by
  intro c hc
  rw [Action.bind_apply]
  rcases hr : p c with ⟨e | a, m⟩
  · exact hp.on hr hc
  · exact hf a m (hp.on hr hc)

theorem Stays.ifSeen {p q : Reading α} (ks : List TokenKind) (hp : Stays t p) (hq : Stays t q) :
    Stays t (ifSeen ks p q) := by
  intro c hc
  unfold Document.ifSeen
  split
  · exact hp c hc
  · exact hq c hc

theorem stays_expect (k : TokenKind) : Stays t (expect k) := by
  intro c hc
  unfold expect
  split <;> exact hc.advance

theorem stays_expectAll (ks : List TokenKind) : Stays t (expectAll ks) := by
  induction ks with
  | nil => exact stays_pure []
  | cons k ks ih => exact (stays_expect k).bind fun _ => ih.bind fun _ => stays_pure _

theorem stays_word : Stays t word := (stays_expect .word).bind fun _ => stays_pure _

theorem stays_readUntilAny (breaks : List (List TokenKind)) : Stays t (readUntilAny breaks) := by
  intro c hc
  unfold readUntilAny
  split
  · exact hc
  · exact search_on breaks (fun r hr => hc.of_mem_tokens hr) (by simp) hc

theorem stays_closeCommand : Stays t closeCommand := by
  intro c hc
  unfold closeCommand
  split
  · exact stays_expectAll _ c hc
  · exact hc

theorem stays_readHeader (h : Text) : Stays t (readHeader h) := by
  intro c hc
  unfold readHeader
  split <;> exact hc

theorem stays_commandWord : Stays t commandWord := by
  refine stays_word.bind fun w => ?_
  split
  · exact stays_pure _
  · exact fun _ hc => hc

theorem stays_bodyStep (rules : List Rule) : Stays t (bodyStep rules) := by
  refine .ifSeen embedKinds ?_ (.ifSeen openKinds ?_ ?_)
  · exact (stays_expectAll _).bind fun _ => stays_word.bind fun _ =>
      (stays_expectAll _).bind fun _ => stays_pure _
  · exact (stays_expectAll _).bind fun _ => stays_pure _
  · exact stays_closeCommand.bind fun _ => stays_pure _

theorem stays_bodyPass (rules : List Rule) : Stays t (bodyPass rules) :=
  (stays_readUntilAny _).bind fun _ => stays_bodyStep _

/-! ### Loops -/

/-- A loop ends. It starts with `a` at a cursor; the list holds the places in front of its passes. -/
inductive Looped (pass : α → Reading (α × Bool)) :
    α → Cursor → List Cursor → Except Fault α × Cursor → Prop
  | error {a : α} {c d : Cursor} {e : Fault} (h : pass a c = (.error e, d)) :
    Looped pass a c [c] (.error e, d)
  | last {a b : α} {c d : Cursor} (h : pass a c = (.ok (b, false), d)) : Looped pass a c [c] (.ok b, d)
  | more {a b : α} {c d : Cursor} {places : List Cursor} {r : Except Fault α × Cursor}
    (h : pass a c = (.ok (b, true), d)) (hnext : Looped pass b d places r) :
    Looped pass a c (c :: places) r

/-- A pass after which its loop goes on takes two characters or more. -/
def Advances (pass : α → Reading (α × Bool)) : Prop :=
  ∀ a b c d, pass a c = (.ok (b, true), d) → d.rest.length + 2 ≤ c.rest.length

section

variable {pass : α → Reading (α × Bool)} {a b : α} {places : List Cursor}
  {r : Except Fault α × Cursor}

theorem exists_looped (hpass : Advances pass) (a : α) (c : Cursor) :
    ∃ places r, Looped pass a c places r := by
  -- on what is left of the text, as a pass after which the loop goes on has taken some of it
  induction hn : c.rest.length using Nat.strongRecOn generalizing a c with
  | ind n ih =>
    rcases h : pass a c with ⟨e | ⟨b, _ | _⟩, d⟩
    · exact ⟨_, _, .error h⟩
    · exact ⟨_, _, .last h⟩
    · have htaken := hpass a b c d h
      obtain ⟨places, r, hnext⟩ := ih d.rest.length (by omega) b d rfl
      exact ⟨_, _, .more h hnext⟩

theorem Looped.length_le (hpass : Advances pass) (h : Looped pass a c places r) :
    2 * places.length ≤ c.rest.length + 2 := by
  induction h with
  | error | last => simp
  | more h _ ih =>
    have htaken := hpass _ _ _ _ h
    rw [List.length_cons]
    omega

/-- Where the last pass takes two characters as well, these are left for it. -/
theorem Looped.length_le_of_ok (hpass : ∀ a, Takes 2 (pass a)) (h : Looped pass a c places r)
    (hr : r = (.ok b, d)) : 2 * places.length + d.rest.length ≤ c.rest.length := by
  induction h with
  | error => cases hr
  | last h =>
    cases hr
    have htaken := hpass _ _ _ _ h
    simpa [Nat.add_comm] using htaken
  | more h _ ih =>
    have htaken := hpass _ _ _ _ h
    have hothers := ih hr
    rw [List.length_cons]
    omega

theorem Looped.on (hpass : ∀ a, Stays t (pass a)) (h : Looped pass a c places r) (hc : c.On t) :
    (∀ x ∈ places, x.On t) ∧ r.2.On t := by
  induction h with
  | error h | last h => exact ⟨by simpa using hc, (hpass _).on h hc⟩
  | more h _ ih =>
    obtain ⟨hplaces, hend⟩ := ih ((hpass _).on h hc)
    exact ⟨List.forall_mem_cons.mpr ⟨hc, hplaces⟩, hend⟩

end

/-! ### The loop of a body -/

theorem Looped.bodyFrom_eq {rules : List Rule} {places : List Cursor}
    {r : Except Fault (List Rule) × Cursor} (h : Looped bodyPass rules c places r) :
    bodyFrom rules c = (r.1.map List.reverse, r.2) := by
  induction h with
  | error h | last h =>
    rw [bodyFrom_pass, h]
    rfl
  | more h _ ih => rw [bodyFrom_pass, h, ← ih]

theorem advances_bodyPass : Advances bodyPass := fun rules _ c d h => takes_bodyPass rules c _ d h

theorem stays_body : Stays t body := by
  intro c hc
  obtain ⟨places, r, h⟩ := exists_looped advances_bodyPass [] c
  rw [body, h.bodyFrom_eq]
  exact (h.on stays_bodyPass hc).2

/-! ### Commands up to their bodies -/

/-- What a command is known to be in front of its body: all of it if it has none. -/
inductive Heading
  | whole (s : Section)
  | bodied (name : Text) (header : Header)

def Heading.complete : Heading → Reading Section
  | .whole s => pure s
  | .bodied name header => do
    let rules ← body
    pure (.define ⟨name, header, rules⟩)

def headingBehindHeader (name : Text) (header : Header) : Reading Heading :=
  ifSeen lineCloseKinds
    (do
      let _ ← closeCommand
      pure (.whole (.define ⟨name, header, []⟩)))
    (do
      let _ ← expectAll (separatorKinds ++ [.newline])
      pure (.bodied name header))

def definitionHeading (name : Text) : Reading Heading :=
  ifSeen closeKinds
    (do
      let _ ← closeCommand
      pure (.whole (.define ⟨name, {}, []⟩)))
    (do
      let ts ← readUntilAny [separatorKinds, lineCloseKinds]
      let header ← readHeader (textOf ts)
      headingBehindHeader name header)

/-- Reads a command up to its body, or all of it if it has none. -/
def heading : Reading Heading := do
  let _ ← openCommand
  let k ← commandWord
  let _ ← expect .space
  let name ← word
  match k with
  | .define => definitionHeading name
  | k => .whole <$> behindName k name

theorem ifSeen_bind (ks : List TokenKind) (p q : Reading α) (f : α → Reading β) :
    ifSeen ks p q >>= f = ifSeen ks (p >>= f) (q >>= f) := by
  funext c
  rw [Action.bind_apply, ifSeen, ifSeen]
  by_cases h : c.sees ks = true
  · rw [if_pos h, if_pos h, Action.bind_apply]
  · rw [if_neg h, if_neg h, Action.bind_apply]

theorem whole_complete (p : Reading Section) : Heading.whole <$> p >>= Heading.complete = p := by
  simp only [bind_map_left, Heading.complete, bind_pure]

theorem headingBehindHeader_complete (name : Text) (header : Header) :
    headingBehindHeader name header >>= Heading.complete = (do
      let rules ← rulesBehindHeader
      pure (.define ⟨name, header, rules⟩)) := by
  change _ = ifSeen lineCloseKinds _ _ >>= _
  rw [headingBehindHeader, ifSeen_bind, ifSeen_bind]
  simp only [bind_assoc, pure_bind, Heading.complete]

theorem definitionHeading_complete (name : Text) :
    definitionHeading name >>= Heading.complete = definition name := by
  change _ = ifSeen closeKinds _ _
  rw [definitionHeading, ifSeen_bind]
  simp only [bind_assoc, pure_bind, Heading.complete, headingBehindHeader_complete]

/-- A command is read up to its body and then, if it has one, with its body. -/
theorem heading_complete : heading >>= Heading.complete = command := by
  unfold heading command
  simp only [bind_assoc]
  refine bind_congr fun _ => bind_congr fun k => bind_congr fun _ => bind_congr fun name => ?_
  cases k with
  | define => exact definitionHeading_complete name
  | «show» | embed => exact whole_complete _

theorem keeps_headingBehindHeader (name : Text) (header : Header) :
    Keeps (headingBehindHeader name header) := by
  refine Takes.ifSeen (n := 0) lineCloseKinds ?_ ?_
  · exact keeps_closeCommand.bind fun _ => keeps_pure _
  · exact (keeps_expectAll _).bind fun _ => keeps_pure _

theorem keeps_definitionHeading (name : Text) : Keeps (definitionHeading name) := by
  refine Takes.ifSeen (n := 0) closeKinds ?_ ?_
  · exact keeps_closeCommand.bind fun _ => keeps_pure _
  · exact (keeps_readUntilAny _).bind fun _ => (keeps_readHeader _).bind fun _ =>
      keeps_headingBehindHeader name _

theorem takes_heading : Takes 2 heading := by
  refine takes_openCommand.bind fun _ => Keeps.takes ?_
  refine keeps_commandWord.bind fun k => (keeps_expect _).bind fun _ => keeps_word.bind fun name => ?_
  cases k with
  | define => exact keeps_definitionHeading name
  | «show» | embed => exact (keeps_behindName _ name).bind fun _ => keeps_pure _

theorem keeps_complete (x : Heading) : Keeps x.complete := by
  cases x with
  | whole s => exact keeps_pure s
  | bodied name header => exact (keeps_bodyFrom []).bind fun _ => keeps_pure _

theorem takes_command : Takes 2 command := by
  rw [← heading_complete]
  exact takes_heading.bind fun x => (keeps_complete x).takes

theorem stays_headingBehindHeader (name : Text) (header : Header) :
    Stays t (headingBehindHeader name header) := by
  refine .ifSeen lineCloseKinds ?_ ?_
  · exact stays_closeCommand.bind fun _ => stays_pure _
  · exact (stays_expectAll _).bind fun _ => stays_pure _

theorem stays_definitionHeading (name : Text) : Stays t (definitionHeading name) := by
  refine .ifSeen closeKinds ?_ ?_
  · exact stays_closeCommand.bind fun _ => stays_pure _
  · exact (stays_readUntilAny _).bind fun _ => (stays_readHeader _).bind fun _ =>
      stays_headingBehindHeader name _

theorem stays_heading : Stays t heading := by
  refine (stays_expectAll _).bind fun _ => stays_commandWord.bind fun k =>
    (stays_expect _).bind fun _ => stays_word.bind fun name => ?_
  cases k with
  | define => exact stays_definitionHeading name
  | «show» | embed =>
    exact (stays_closeCommand.bind fun _ => stays_pure _).bind fun _ => stays_pure _

theorem stays_complete (x : Heading) : Stays t x.complete := by
  cases x with
  | whole s => exact stays_pure s
  | bodied name header => exact stays_body.bind fun _ => stays_pure _

theorem stays_command : Stays t command := by
  rw [← heading_complete]
  exact stays_heading.bind stays_complete

/-! ### Passes of a document -/

theorem sectionsPass_takes {ss : List Section} (h : sectionsPass c = (.ok (ss, true), d)) :
    d.rest.length + 2 ≤ c.rest.length := by
  obtain ⟨before, m, hbefore, h⟩ := Action.bind_eq_ok h
  have hkept := keeps_readUntilAny _ c before m hbefore
  unfold sectionsStep at h
  split at h
  · cases h
  · have htaken := (takes_command.bind fun _ => takes_pure _) m _ d h
    omega

theorem stays_sectionsPass : Stays t sectionsPass := by
  refine (stays_readUntilAny _).bind fun _ => ?_
  intro c hc
  unfold sectionsStep
  split
  · exact hc
  · exact (stays_command.bind fun _ => stays_pure _) c hc

/-- A pass after which its loop goes on, that of the document or that of a body. -/
inductive GoesOn (c d : Cursor) : Prop
  | document {ss : List Section} (h : sectionsPass c = (.ok (ss, true), d))
  | body {rules rules' : List Rule} (h : bodyPass rules c = (.ok (rules', true), d))

theorem GoesOn.takes (h : GoesOn c d) : d.rest.length + 2 ≤ c.rest.length := by
  cases h with
  | document h => exact sectionsPass_takes h
  | body h => exact takes_bodyPass _ _ _ _ h

theorem GoesOn.on (h : GoesOn c d) (hc : c.On t) : d.On t := by
  cases h with
  | document h => exact stays_sectionsPass.on h hc
  | body h => exact (stays_bodyPass _).on h hc

theorem GoesOn.offset_le (h : GoesOn c d) (hc : c.On t) :
    c.offset + 2 ≤ d.offset ∧ d.offset ≤ t.length := by
  have htaken := h.takes
  have hbefore := hc.offset_add_length
  have hbehind := (h.on hc).offset_add_length
  omega

/-- The loop of a document, with the sections read so far. -/
def sectionsAfter (ss : List Section) : Reading (List Section × Bool) :=
  (fun x => (ss ++ x.1, x.2)) <$> sectionsPass

theorem sectionsAfter_eq_ok {ss xs : List Section} {more : Bool}
    (h : sectionsAfter ss c = (.ok (xs, more), d)) :
    ∃ ys, sectionsPass c = (.ok (ys, more), d) ∧ xs = ss ++ ys := by
  obtain ⟨⟨ys, more'⟩, hpass, hxs⟩ := Action.map_eq_ok h
  cases hxs
  exact ⟨ys, hpass, rfl⟩

theorem sectionsAfter_eq_error {ss : List Section} {e : Fault}
    (h : sectionsAfter ss c = (.error e, d)) : sectionsPass c = (.error e, d) := by
  rw [sectionsAfter, Action.map_apply] at h
  split at h
  · cases h
  · next hpass => rw [hpass, h]

theorem advances_sectionsAfter : Advances sectionsAfter := by
  intro ss xs c d h
  obtain ⟨ys, hpass, -⟩ := sectionsAfter_eq_ok h
  exact sectionsPass_takes hpass

theorem stays_sectionsAfter (ss : List Section) : Stays t (sectionsAfter ss) :=
  stays_sectionsPass.bind fun _ => stays_pure _

theorem Looped.sectionsFrom_eq {ss : List Section} {places : List Cursor}
    {r : Except Fault (List Section) × Cursor} (h : Looped sectionsAfter ss c places r) :
    r.1 = (sectionsFrom c).map (ss ++ ·) := by
  induction h with
  | error h =>
    rw [sectionsFrom_error (sectionsAfter_eq_error h)]
    rfl
  | last h =>
    obtain ⟨ys, hpass, rfl⟩ := sectionsAfter_eq_ok h
    rw [sectionsFrom_end hpass]
    rfl
  | more h _ ih =>
    obtain ⟨ys, hpass, rfl⟩ := sectionsAfter_eq_ok h
    rw [sectionsFrom_more hpass, ih]
    cases sectionsFrom _ with
    | error e => rfl
    | ok xs => simp [Except.map]

/-- A document up to the body of the next command. -/
def upToBody : Reading Heading := do
  let _ ← readUntilCommand
  heading

/-- The passes in the body that the pass of a document at a cursor comes to, if it comes to one. -/
inductive BodyPasses (c : Cursor) : List Cursor → Prop
  | none (h : ∀ name header m, upToBody c ≠ (.ok (.bodied name header), m)) : BodyPasses c []
  | body {name : Text} {header : Header} {m : Cursor} {places : List Cursor}
      {r : Except Fault (List Rule) × Cursor} (h : upToBody c = (.ok (.bodied name header), m))
      (hbody : Looped bodyPass [] m places r) : BodyPasses c places

theorem takes_upToBody : Takes 2 upToBody :=
  (keeps_readUntilAny _).takes.bind fun _ => takes_heading

theorem stays_upToBody : Stays t upToBody := (stays_readUntilAny _).bind fun _ => stays_heading

theorem peek_of_heading {x : Heading} (h : heading c = (.ok x, d)) : c.peek.kind ≠ .finish := by
  obtain ⟨ts, m, hopen, -⟩ := Action.bind_eq_ok h
  have hsees := (Cursor.sees_cons _ _ _).mp (sees_of_expectAll hopen)
  simp [hsees.1]

/-- A pass that comes to a body and succeeds ends where the body does. -/
theorem body_of_sectionsPass {name : Text} {header : Header} {ss : List Section} {more : Bool}
    (h : upToBody c = (.ok (.bodied name header), m)) (hpass : sectionsPass c = (.ok (ss, more), d)) :
    ∃ rules, body m = (.ok rules, d) := by
  obtain ⟨before, n, hbefore, hheading⟩ := Action.bind_eq_ok h
  rw [sectionsPass, Action.bind_ok hbefore, sectionsStep, if_neg (peek_of_heading hheading),
    ← heading_complete] at hpass
  obtain ⟨x, k, hcomplete, hpass⟩ := Action.bind_eq_ok hpass
  cases hpass
  rw [Action.bind_ok hheading] at hcomplete
  obtain ⟨rules, k, hbody, hcomplete⟩ := Action.bind_eq_ok hcomplete
  cases hcomplete
  exact ⟨rules, hbody⟩

theorem Looped.length_le_of_body {rules : List Rule} {places : List Cursor}
    {r : Except Fault (List Rule) × Cursor} (h : Looped bodyPass [] c places r)
    (hbody : body c = (.ok rules, d)) : 2 * places.length + d.rest.length ≤ c.rest.length := by
  rw [body, h.bodyFrom_eq] at hbody
  obtain ⟨e | rules', d'⟩ := r
  · cases hbody
  · cases hbody
    exact h.length_le_of_ok takes_bodyPass rfl

namespace BodyPasses

variable {places : List Cursor}

theorem length_le (h : BodyPasses c places) : 2 * places.length ≤ c.rest.length := by
  cases h with
  | none => simp
  | body h hbody =>
    -- the braces that open the command make up for the last pass, which need not take anything
    have htaken := takes_upToBody _ _ _ h
    have hlength := hbody.length_le advances_bodyPass
    omega

theorem length_le_of_more {ss : List Section} (h : BodyPasses c places)
    (hpass : sectionsPass c = (.ok (ss, true), d)) :
    2 * places.length + d.rest.length ≤ c.rest.length := by
  cases h with
  | none =>
    have htaken := sectionsPass_takes hpass
    rw [List.length_nil]
    omega
  | body h hbody =>
    obtain ⟨rules, hread⟩ := body_of_sectionsPass h hpass
    have htaken := takes_upToBody _ _ _ h
    have hlength := hbody.length_le_of_body hread
    omega

theorem on (h : BodyPasses c places) (hc : c.On t) : ∀ x ∈ places, x.On t := by
  cases h with
  | none => simp
  | body h hbody => exact (hbody.on stays_bodyPass (stays_upToBody.on h hc)).1

end BodyPasses

theorem exists_bodyPasses (c : Cursor) : ∃ places, BodyPasses c places := by
  by_cases h : ∃ name header m, upToBody c = (.ok (.bodied name header), m)
  · obtain ⟨name, header, m, h⟩ := h
    obtain ⟨places, r, hbody⟩ := exists_looped advances_bodyPass [] m
    exact ⟨places, .body h hbody⟩
  · exact ⟨[], .none fun name header m hbodied => h ⟨name, header, m, hbodied⟩⟩

theorem exists_forall₂_bodyPasses (places : List Cursor) :
    ∃ bodies, List.Forall₂ BodyPasses places bodies := by
  induction places with
  | nil => exact ⟨[], .nil⟩
  | cons c places ih =>
    obtain ⟨body, hbody⟩ := exists_bodyPasses c
    obtain ⟨bodies, hbodies⟩ := ih
    exact ⟨body :: bodies, .cons hbody hbodies⟩

/-- The bodies of a document share its text, so that all their passes take from the same characters. -/
theorem Looped.bodies_length_le {ss : List Section} {places : List Cursor}
    {r : Except Fault (List Section) × Cursor} {bodies : List (List Cursor)}
    (h : Looped sectionsAfter ss c places r) (hbodies : List.Forall₂ BodyPasses places bodies) :
    2 * bodies.flatten.length ≤ c.rest.length := by
  induction h generalizing bodies with
  | error | last =>
    obtain _ | ⟨hbody, ⟨⟩⟩ := hbodies
    simpa using hbody.length_le
  | more h _ ih =>
    obtain _ | ⟨hbody, hothers⟩ := hbodies
    obtain ⟨ys, hpass, -⟩ := sectionsAfter_eq_ok h
    have hfirst := hbody.length_le_of_more hpass
    have hlater := ih hothers
    rw [List.flatten_cons, List.length_append]
    omega

theorem bodies_on {places : List Cursor} {bodies : List (List Cursor)}
    (hbodies : List.Forall₂ BodyPasses places bodies) (hplaces : ∀ c ∈ places, c.On t) :
    ∀ x ∈ bodies.flatten, x.On t := by
  induction hbodies with
  | nil => simp
  | cons hbody _ ih =>
    obtain ⟨hc, hothers⟩ := List.forall_mem_cons.mp hplaces
    rw [List.flatten_cons]
    exact List.forall_mem_append.mpr ⟨hbody.on hc, ih hothers⟩

theorem exists_looped_sections (t : Text) :
    ∃ places d, Looped sectionsAfter [] (Cursor.start t) places (sections t, d) := by
  obtain ⟨places, ⟨x, d⟩, h⟩ := exists_looped advances_sectionsAfter [] (Cursor.start t)
  have hx : x = (sections t).map ([] ++ ·) := h.sectionsFrom_eq
  have hsame : (sections t).map ([] ++ ·) = sections t := by cases sections t <;> rfl
  rw [hsame] at hx
  exact ⟨places, d, hx ▸ h⟩

/-- A document is read to its end or to a fault, whatever its text. Each pass of its loop or of that
of a body that goes on has taken two characters and is still in the text. So there are no more passes
of the one loop, and none of the other in all bodies together, than half of the characters, and one.
-/
theorem sections_passes_bounded (t : Text) :
    (∀ c d, c.On t → GoesOn c d → c.offset + 2 ≤ d.offset ∧ d.offset ≤ t.length) ∧
    ∃ places bodies d, Looped sectionsAfter [] (Cursor.start t) places (sections t, d) ∧
      List.Forall₂ BodyPasses places bodies ∧ (∀ c ∈ places ++ bodies.flatten, c.On t) ∧
      places.length ≤ t.length / 2 + 1 ∧ bodies.flatten.length ≤ t.length / 2 + 1 := by
  refine ⟨fun c d hc h => h.offset_le hc, ?_⟩
  obtain ⟨places, d, h⟩ := exists_looped_sections t
  obtain ⟨bodies, hbodies⟩ := exists_forall₂_bodyPasses places
  have hplaces := (h.on stays_sectionsAfter (Cursor.on_start t)).1
  have hrest : (Cursor.start t).rest.length = t.length := rfl
  have hlength := h.length_le advances_sectionsAfter
  have hshared := h.bodies_length_le hbodies
  refine ⟨places, bodies, d, h, hbodies, ?_, by omega, by omega⟩
  exact List.forall_mem_append.mpr ⟨hplaces, bodies_on hbodies hplaces⟩

def unclosedText : Text :=
  "x\x7b\x7bshow a\x7d\x7d\x7b\x7bdefine b\n###\n\x7b\x7bc\x7d\x7d\x7b\x7b".toList

theorem sections_passes_bounded_unclosedText :
    (GoesOn (Cursor.start unclosedText) (.ofText unclosedText 11) ∧ 0 + 2 ≤ 11 ∧
      11 ≤ unclosedText.length) ∧
    (GoesOn (.ofText unclosedText 26) (.ofText unclosedText 31) ∧ 26 + 2 ≤ 31 ∧
      31 ≤ unclosedText.length) ∧
    ∃ places bodies d,
      Looped sectionsAfter [] (Cursor.start unclosedText) places (sections unclosedText, d) ∧
      List.Forall₂ BodyPasses places bodies ∧ places.length ≤ 17 ∧ bodies.flatten.length ≤ 17 := by
  obtain ⟨htaken, places, bodies, d, hlooped, hbodies, -, hplaces, hall⟩ :=
    sections_passes_bounded unclosedText
  have hpass : sectionsPass (Cursor.start unclosedText) =
      (.ok ([.text ['x'], .show ['a']], true), .ofText unclosedText 11) := by with_unfolding_all rfl
  have hbody : bodyPass [] (.ofText unclosedText 26) =
      (.ok ([.embed ['c']], true), .ofText unclosedText 31) := by with_unfolding_all rfl
  have hin : (Cursor.ofText unclosedText 26).On unclosedText := Cursor.on_ofText (by decide)
  refine ⟨⟨.document hpass, htaken _ _ (Cursor.on_start _) (.document hpass)⟩,
    ⟨.body hbody, htaken _ _ hin (.body hbody)⟩, places, bodies, d, hlooped, hbodies, hplaces, hall⟩

end Document

end Weave
