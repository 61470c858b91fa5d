/-!
# Dialogues

What a handler, a run or the command line does depends on answers from outside: the color of a
pixel, whether a stop was requested, the content of a file.  A dialogue is a program that asks
such questions one at a time and goes on with whatever the answer is.  The type of the answer
depends on the question.

Nothing in a dialogue says how questions are answered.  The same program can therefore be run
against recording devices, against any other behaviour of the devices (`Dialogue.run` takes an
arbitrary answering function with a state of its own), or be suspended at a question and continued
later: the rest of the program is a value.

Dialogues are inductive, so along every sequence of answers a program asks only finitely many
questions.
-/

namespace ActionBoard

universe u v

/-- A program that ends with a result or asks a question and goes on with the answer. -/
inductive Dialogue {Q : Type u} (A : Q → Type v) (α : Type) : Type (max u v) where
  | done (result : α)
  | ask (question : Q) (next : A question → Dialogue A α)

namespace Dialogue

variable {Q : Type u} {A : Q → Type v} {α β γ : Type}

/-- The program followed by another one that depends on its result. -/
def bind (program : Dialogue A α) (next : α → Dialogue A β) : Dialogue A β :=
  match program with
  | done result => next result
  | ask question rest => ask question fun answer => (rest answer).bind next

instance : Monad (Dialogue A) where
  pure := done
  bind := bind

@[simp] theorem pure_eq (result : α) : (pure result : Dialogue A α) = done result := rfl

@[simp] theorem bind_eq (program : Dialogue A α) (next : α → Dialogue A β) :
    program >>= next = program.bind next := rfl

@[simp] theorem bind_done (result : α) (next : α → Dialogue A β) :
    (done result : Dialogue A α).bind next = next result := rfl

@[simp] theorem bind_ask (question : Q) (rest : A question → Dialogue A α)
    (next : α → Dialogue A β) :
    (ask question rest).bind next = ask question fun answer => (rest answer).bind next := rfl

theorem bind_id (program : Dialogue A α) : program.bind done = program := by
  induction program with
  | done => rfl
  | ask question rest ih => simp [bind, ih]

theorem bind_assoc (program : Dialogue A α) (f : α → Dialogue A β) (g : β → Dialogue A γ) :
    (program.bind f).bind g = program.bind fun a => (f a).bind g := by
  induction program with
  | done => rfl
  | ask question rest ih => simp [bind, ih]

/-- The program that asks one question and ends with the answer. -/
def question {A : Q → Type} (q : Q) : Dialogue A (A q) :=
  ask q done

/-- The program run to its end against answers that may depend on a state and change it. -/
def run {σ : Type} (answer : (q : Q) → σ → A q × σ) : Dialogue A α → σ → α × σ
  | done result, s => (result, s)
  | ask q rest, s =>
    let (a, s) := answer q s
    (rest a).run answer s

@[simp] theorem run_done {σ : Type} (answer : (q : Q) → σ → A q × σ) (result : α) (s : σ) :
    (done result : Dialogue A α).run answer s = (result, s) := rfl

theorem run_ask {σ : Type} (answer : (q : Q) → σ → A q × σ) (q : Q) (rest : A q → Dialogue A α)
    (s : σ) : (ask q rest).run answer s = (rest (answer q s).1).run answer (answer q s).2 := rfl

/-- Running one program after another is running them one after another. -/
theorem run_bind {σ : Type} (answer : (q : Q) → σ → A q × σ) (program : Dialogue A α)
    (next : α → Dialogue A β) (s : σ) :
    (program.bind next).run answer s =
      (next (program.run answer s).1).run answer (program.run answer s).2 := by
  induction program generalizing s with
  | done => rfl
  | ask q rest ih => simp only [bind, run_ask, ih]

/-- The program with its questions translated into those of another vocabulary. -/
def translate {R : Type u} {B : R → Type v} (vocabulary : Q → R)
    (back : (q : Q) → B (vocabulary q) → A q) : Dialogue A α → Dialogue B α
  | done result => done result
  | ask q rest => ask (vocabulary q) fun answer => (rest (back q answer)).translate vocabulary back

/-- The program with each of its questions replaced by a program that finds the answer. -/
def elaborate {A : Q → Type} {R : Type u} {B : R → Type v}
    (answering : (q : Q) → Dialogue B (A q)) : Dialogue A α → Dialogue B α
  | done result => done result
  | ask q rest => (answering q).bind fun answer => (rest answer).elaborate answering

end Dialogue

end ActionBoard
