import Weave.Program.Session
import Weave.Proofs.Build.Underway

/-!
# Building document after document

Documents that are built one after the other with one evaluator find the same listeners, however the
builds in front of them have ended. A build that fails for its snippets names those of its own document
that failed, in their order there, and no others.
-/

set_option autoImplicit false

namespace Weave

variable {σ τ ε η ν : Type}

/-- Those who are told change nothing about who is subscribed. -/
def Evaluator.Neutral [DecidableEq η] (listening : Listening η) : Prop :=
  ∀ h f w (e : Event η), (e.react (listening h f w).1).2 = e

theorem Event.unsubscribe?_subscribe [DecidableEq η] {e : Event η} {h : η} (hh : h ∉ e.handlers) :
    (e.subscribe h).unsubscribe? h = some e := by
  have hmem : h ∈ (e.subscribe h).handlers := List.mem_append_right _ (List.mem_singleton_self h)
  have herase : (e.handlers ++ [h]).erase h = e.handlers := by
    rw [List.erase_append_right _ hh, List.erase_cons_head, List.append_nil]
  exact (if_pos hmem).trans (congrArg (fun hs => some (Event.mk hs)) herase)

/-- Without an evaluator there is nothing to note. -/
theorem Renderer.notes_eq_nil {r : Renderer σ ε} (hr : r.evaluating = none) (note : Request → σ → ν)
    (ss : List Section) (s : σ) : r.notes note ss s = [] := by
  have hnotes : Notes note (fun _ _ log => log = []) (fun _ _ log => log = []) r := by
    refine ⟨fun _ h => h, fun h _ => h, ?_, ?_⟩
    · intro e k s log text asExpression he
      simp [hr] at he
    · intro e k s log name o kind he
      simp [hr] at he
  have hended := hnotes.sections (s := s) rfl ss
  generalize r.sections ss ({}, s) = x at hended
  obtain ⟨f | bs, m, u⟩ := x <;> exact hended

namespace Job

variable {session : Session τ} {listening : Listening Listener} {j : Job} {s : Workshop τ Listener}

/-- When a build fails for its snippets, and what it then reports: the document has been rendered to
its end, and reported are the failed ones among all attempts, which are those that the definitions of
the document ask for, one each and in order. -/
structure Collected (session : Session τ) (listening : Listening Listener) (j : Job)
    (s : Workshop τ Listener) (file : Path) (fs : List Failure) : Prop where
  file : file = j.input
  failOnError : j.config.failOnError = true
  evaluate : j.config.evaluate = true
  passes : j.Passes session listening s
  failed : fs ≠ []
  failures : fs = j.failures session listening s
  asked : ∃ ss w, j.read s.1 = (.ok ss, w) ∧
    List.Forall₂ (j.renderer session listening).Answers (asking {} ss)
      ((j.attempts session listening s).map Attempt.request)

/-- Where rendering comes to the end, there is one attempt for each definition that asks for it. -/
theorem attempts_answer (he : j.config.evaluate = true) (h : j.Passes session listening s) :
    ∃ ss w, j.read s.1 = (.ok ss, w) ∧
      List.Forall₂ (j.renderer session listening).Answers (asking {} ss)
        ((j.attempts session listening s).map Attempt.request) := by
  obtain ⟨ss, w, hread, bs, ⟨m, u⟩, hsections⟩ := h
  have hevaluating : (j.renderer session listening).evaluating =
      some (Evaluator.evaluating session listening) := if_pos he
  have hanswers := Renderer.madeBy_answers hevaluating hsections
  have hrequests : (j.attemptsAt session listening ss (w, s.2)).map Attempt.request = _ :=
    Renderer.map_notes (fun _ _ => rfl) (j.renderer session listening) ss (collecting (w, s.2))
  refine ⟨ss, w, hread, ?_⟩
  rw [attempts_of_read hread, hrequests, Renderer.evaluations_eq]
  exact hanswers

theorem evaluate_of_failures (h : j.failures session listening s ≠ []) :
    j.config.evaluate = true := by
  by_contra hoff
  apply h
  rw [Bool.not_eq_true] at hoff
  have hevaluating : (j.renderer session listening).evaluating = none := by simp [renderer, hoff]
  unfold failures attempts
  split
  · rw [attemptsAt, Renderer.notes_eq_nil hevaluating]
    rfl
  · rfl

theorem spares_anything (listening : Listening Listener) :
    Evaluator.Spares listening fun _ _ => True :=
  ⟨fun _ => trivial, fun _ _ _ _ _ => trivial, fun _ _ _ => trivial⟩

theorem Collected.fails {file : Path} {fs : List Failure}
    (h : j.Collected session listening s file fs) : j.Fails session listening s := by
  have hfailed := h.failed
  rw [h.failures] at hfailed
  exact ⟨h.failOnError, hfailed⟩

/-- Where nobody changes anything about the listeners meanwhile, all there were are left. -/
theorem Departed.failed_eq {K : Disk → Disk → Prop} {log : List Attempt} {u : Workshop τ Listener}
    (h : Departed K (fun e => e = s.2.failed.subscribe .collect) log s u)
    (hs : .collect ∉ s.2.failed.handlers) : u.2.failed = s.2.failed := by
  obtain ⟨-, e, rfl, hu⟩ := h
  rw [Event.unsubscribe?_subscribe hs] at hu
  exact (Option.some.inj hu).symm

/-- One build. -/
theorem collected_buildWith (session : Session τ) (hl : Evaluator.Neutral listening) (j : Job)
    (s : Workshop τ Listener) (hs : .collect ∉ s.2.failed.handlers) :
    (j.buildWith session listening s).2.2.failed = s.2.failed ∧
      ∀ file fs, (j.buildWith session listening s).1 = .error (.failedSnippets file fs) ↔
        j.Collected session listening s file fs := by
  have hcount := count_collect_subscribe hs
  -- While a document is rendered, the listeners are those in front of it and the one that collects.
  have hbuilds := builds_buildWith session (spares_anything listening)
    (I := fun e => e = s.2.failed.subscribe .collect) (fun h f w e he => (hl h f w e).trans he)
    (fun e he => he ▸ hcount) j rfl
  generalize j.buildWith session listening s = x at hbuilds ⊢
  cases hbuilds with
  | unreadable _ hpasses => exact ⟨rfl, fun _ _ => ⟨nofun, fun h => absurd h.passes hpasses⟩⟩
  | refused _ _ hpasses => exact ⟨rfl, fun _ _ => ⟨nofun, fun h => absurd h.passes hpasses⟩⟩
  | stopped hpasses _ _ hu => exact ⟨hu.failed_eq hs, fun _ _ => ⟨nofun, fun h => absurd h.passes hpasses⟩⟩
  | unfit _ hpardoned _ hu => exact ⟨hu.failed_eq hs, fun _ _ => ⟨nofun, fun h => absurd h.fails hpardoned⟩⟩
  | ended _ hpardoned hu hv =>
    have hfailed := hu.failed_eq hs
    refine ⟨hfailed, fun _ _ => ⟨fun h => ?_, fun h => absurd h.fails hpardoned⟩⟩
    cases hv <;> nomatch h
  | failed hpasses h hu =>
    refine ⟨hu.failed_eq hs, fun file fs => ⟨fun heq => ?_, fun hcollected => ?_⟩⟩
    · obtain ⟨rfl, rfl⟩ := BuildFault.failedSnippets.inj (Except.error.inj heq)
      have he := evaluate_of_failures h.2
      exact ⟨rfl, h.1, he, hpasses, h.2, rfl, attempts_answer he hpasses⟩
    · rw [hcollected.file, hcollected.failures]

/-! ### One build after the other -/

/-- A build with what it found and what it left. -/
structure Record (τ : Type) where
  job : Job
  before : Workshop τ Listener
  result : Except BuildFault Text
  after : Workshop τ Listener

/-- Builds documents one after the other. Before each others may change the world. -/
def buildEach (session : Session τ) (listening : Listening Listener) :
    List (Job × (World → World)) → Workshop τ Listener → List (Record τ)
  | [], _ => []
  | (j, others) :: js, s =>
    let (r, t) := j.buildWith session listening (others s.1, s.2)
    ⟨j, (others s.1, s.2), r, t⟩ :: buildEach session listening js t

/-- Every build leaves those who listen for failures as they were in the beginning, in the same order,
whether it returns or fails; and it fails for its snippets exactly where it has to, and reports
exactly the attempts of its own that have failed, each once and in the order of the document. -/
theorem buildEach_collected (session : Session τ) (hl : Evaluator.Neutral listening)
    (js : List (Job × (World → World))) (s : Workshop τ Listener)
    (hs : .collect ∉ s.2.failed.handlers) :
    ∀ c ∈ buildEach session listening js s,
      c.before.2.failed = s.2.failed ∧ c.after.2.failed = s.2.failed ∧
        ∀ file fs, c.result = .error (.failedSnippets file fs) ↔
          c.job.Collected session listening c.before file fs := by
  induction js generalizing s with
  | nil => exact fun c hc => absurd hc (List.not_mem_nil)
  | cons j js ih =>
    obtain ⟨j, others⟩ := j
    have hbuild := collected_buildWith session hl j (others s.1, s.2) hs
    rw [buildEach]
    generalize j.buildWith session listening (others s.1, s.2) = x at hbuild ⊢
    obtain ⟨r, t⟩ := x
    obtain ⟨hback, hcollected⟩ := hbuild
    intro c hc
    rcases List.mem_cons.mp hc with rfl | hc
    · exact ⟨rfl, hback, hcollected⟩
    · have hlater := ih t (hback.symm ▸ hs) c hc
      dsimp only at hback
      rwa [hback] at hlater

def reported : Except BuildFault Text → List Text
  | .error (.failedSnippets _ fs) => fs.map Failure.text
  | _ => []

def strict (name : Text) : Job := { input := Path.ofText name, config := { failOnError := true } }

def twoScripts : World :=
  { files := [(["a.py".toList], "x\n".toList), (["b.py".toList], "1\n#~ y\n1 / 0\n".toList)] }

/-- Each of two scripts that fail one after the other is told of its own snippet. -/
theorem buildEach_collected_twoScripts :
    Evaluator.Neutral Listener.alone ∧
      Listener.collect ∉ (evaluator (τ := Program.Interpreter) {} {}).failed.handlers ∧
      ((buildEach Program.session Listener.alone
        [(strict "a.py".toList, id), (strict "b.py".toList, id)] (twoScripts, evaluator {} {})).map
          fun c => reported c.result) = [["x".toList], ["1 / 0".toList]] ∧
      ∀ c ∈ buildEach Program.session Listener.alone
        [(strict "a.py".toList, id), (strict "b.py".toList, id)] (twoScripts, evaluator {} {}),
        c.after.2.failed.handlers = [.report] ∧
          ∀ file fs, c.result = .error (.failedSnippets file fs) ↔
            c.job.Collected Program.session Listener.alone c.before file fs := by
  have hl : Evaluator.Neutral Listener.alone := by
    intro h f w e
    cases h <;> rfl
  have hs : Listener.collect ∉ (evaluator (τ := Program.Interpreter) {} {}).failed.handlers := by
    decide
  refine ⟨hl, hs, by decide +kernel, fun c hc => ?_⟩
  obtain ⟨-, hafter, hcollected⟩ := buildEach_collected Program.session hl _ _ hs c hc
  exact ⟨congrArg Event.handlers hafter, hcollected⟩

end Job

end Weave
