import Mathlib.Data.List.Basic
import Mathlib.Tactic

/-! Programs that ask their surroundings for everything they do not compute: a
store, a recorder, a clock. A run is the list of questions with the answers that came
back; any answer of the right type is possible, so what holds of all runs holds for
every behaviour of the surroundings. -/
namespace Aeris.Interaction

variable {Request : Type} {Response : Request → Type} {A B : Type}

inductive Program (Response : Request → Type) (A : Type) where
  | done (value : A)
  | ask (request : Request) (next : Response request → Program Response A)

structure Observation (Response : Request → Type) where
  request : Request
  response : Response request

inductive Runs : Program Response A → List (Observation Response) → A → Prop where
  | done (value : A) : Runs (.done value) [] value
  | ask {request next}
      (response : Response request) {trace value}
      (rest : Runs (next response) trace value) :
      Runs (.ask request next) (⟨request, response⟩ :: trace) value

def Program.bind : Program Response A → (A → Program Response B) → Program Response B
  | .done value, next => next value
  | .ask request first, next => .ask request (fun response => (first response).bind next)

instance : Monad (Program Response) where
  pure := .done
  bind := .bind

def request (question : Request) : Program Response (Response question) := .ask question .done

variable {trace : List (Observation Response)} {value : A}

theorem runs_pure {result : A} : Runs (pure result : Program Response A) trace value ↔
    trace = [] ∧ value = result := by
  constructor
  · intro run
    cases run
    exact ⟨rfl, rfl⟩
  · rintro ⟨rfl, rfl⟩
    exact .done _

variable {question : Request}

theorem runs_ask {next} : Runs (.ask question next) trace value ↔ ∃ response later,
      trace = ⟨question, response⟩ :: later ∧ Runs (next response) later value := by
  constructor
  · intro run
    cases run with
    | ask response rest => exact ⟨response, _, rfl, rest⟩
  · rintro ⟨response, later, rfl, rest⟩
    exact .ask response rest

theorem runs_bind {first} {next : B → Program Response A} :
    Runs (first >>= next) trace value ↔ ∃ before middle after,
      trace = before ++ after ∧ Runs first before middle ∧ Runs (next middle) after value := by
  change Runs (first.bind next) trace value ↔ _
  induction first generalizing trace with
  | done result =>
    constructor
    · exact fun run => ⟨[], result, trace, rfl, .done result, run⟩
    · rintro ⟨before, middle, after, rfl, start, run⟩
      cases start
      exact run
  | ask question first ih =>
    rw [Program.bind, runs_ask]
    constructor
    · rintro ⟨response, later, rfl, run⟩
      obtain ⟨before, middle, after, rfl, start, run⟩ := (ih response).mp run
      exact ⟨_ :: before, middle, after, rfl, .ask response start, run⟩
    · rintro ⟨before, middle, after, rfl, start, run⟩
      cases start with
      | ask response start =>
        exact ⟨response, _, rfl, (ih response).mpr ⟨_, middle, after, rfl, start, run⟩⟩

theorem runs_request {answer} :
    Runs (request question) trace answer ↔ trace = [⟨question, answer⟩] := by
  rw [request, runs_ask]
  constructor
  · rintro ⟨response, later, rfl, run⟩
    cases run
    rfl
  · rintro rfl
    exact ⟨answer, [], rfl, .done answer⟩

theorem runs_request_bind {next} : Runs (request question >>= next) trace value ↔ ∃ answer later,
      trace = ⟨question, answer⟩ :: later ∧ Runs (next answer) later value := runs_ask

/-- The run in which every question is answered by a fixed function. -/
def Program.play (answers : (question : Request) → Response question) :
    Program Response A → List (Observation Response) × A
  | .done value => ([], value)
  | .ask question next =>
    (⟨question, answers question⟩ :: ((next (answers question)).play answers).1,
      ((next (answers question)).play answers).2)

theorem runs_play (answers : (question : Request) → Response question)
    (program : Program Response A) :
    Runs program (program.play answers).1 (program.play answers).2 := by
  induction program with
  | done value => exact .done value
  | ask question next ih => exact .ask (answers question) (ih (answers question))

end Aeris.Interaction
