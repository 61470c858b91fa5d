import ActionBoard.Dialogue

/-!
# What a dialogue ensures and what it asks

A dialogue ensures what holds of its result along every sequence of answers.  This is how facts
about programs are passed on here: the proof goes through the program once, and what follows for a
run against particular answers (`Ensures.run`) or for a program behind this one (`Ensures.bind`)
needs no second induction.

In the same way a dialogue asks only questions of some kind if it does so along every sequence of
answers (`Asks`).  What it asks in one particular run is a list (`asked`), and so are the questions
together with the states in which they are asked (`posed`).

Some answers commit a program: something has been done that cannot be taken back, and from then on
it has to end well.  What a program ensures before and after that is `Commits`.

A program may also ensure something only as long as the answers are as expected (`EnsuresWhere`).

Two programs may ask the same questions, along every sequence of answers or of those that can be
expected, and end with results that have to do with each other.  They `Agree` then, and nobody who
answers can tell them apart.
-/

namespace ActionBoard
namespace Dialogue

universe u v

variable {Q : Type u} {A : Q → Type v} {α β : Type}

/-- Whatever the answers are, the result is as described. -/
def Ensures (P : α → Prop) : Dialogue A α → Prop
  | done result => P result
  | ask _ rest => ∀ answer, (rest answer).Ensures P

@[simp] theorem ensures_done {P : α → Prop} {result : α} :
    (done result : Dialogue A α).Ensures P ↔ P result := Iff.rfl

@[simp] theorem ensures_ask {P : α → Prop} {q : Q} {rest : A q → Dialogue A α} :
    (ask q rest).Ensures P ↔ ∀ answer, (rest answer).Ensures P := Iff.rfl

@[simp] theorem ensures_bind {P : β → Prop} {program : Dialogue A α} {next : α → Dialogue A β} :
    (program.bind next).Ensures P ↔ program.Ensures fun a => (next a).Ensures P := by
  induction program with
  | done result => rfl
  | ask q rest ih => exact forall_congr' fun answer => ih answer

namespace Ensures

variable {P : α → Prop} {R : β → Prop}

theorem mono {P' : α → Prop} (h : ∀ a, P a → P' a) {program : Dialogue A α}
    (hp : program.Ensures P) : program.Ensures P' := by
  induction program with
  | done result => exact h result hp
  | ask q rest ih => exact fun answer => ih answer (hp answer)

theorem bind {program : Dialogue A α} {next : α → Dialogue A β} (hp : program.Ensures P)
    (hn : ∀ a, P a → (next a).Ensures R) : (program.bind next).Ensures R :=
  ensures_bind.mpr (hp.mono hn)

/-- What a program ensures holds of its result. -/
theorem run {σ : Type} {answer : (q : Q) → σ → A q × σ} {program : Dialogue A α}
    (hp : program.Ensures P) (s : σ) : P (program.run answer s).1 := by
  induction program generalizing s with
  | done result => exact hp
  | ask q rest ih => exact ih _ (hp _) _

end Ensures

theorem ensures_true (program : Dialogue A α) : program.Ensures fun _ => True := by
  induction program with
  | done => trivial
  | ask q rest ih => exact ih

/-! ## Questions -/

/-- The questions that are asked in a run, in their order. -/
def asked {σ : Type} (answer : (q : Q) → σ → A q × σ) : Dialogue A α → σ → List Q
  | done _, _ => []
  | ask q rest, s => q :: (rest (answer q s).1).asked answer (answer q s).2

/-- Whatever the answers are, the questions are as described. -/
def Asks (P : Q → Prop) : Dialogue A α → Prop
  | done _ => True
  | ask q rest => P q ∧ ∀ answer, (rest answer).Asks P

section

variable {σ : Type} {answer : (q : Q) → σ → A q × σ} {P : Q → Prop}

@[simp] theorem asked_done (result : α) (s : σ) :
    (done result : Dialogue A α).asked answer s = [] := rfl

@[simp] theorem asked_ask (q : Q) (rest : A q → Dialogue A α) (s : σ) :
    (ask q rest).asked answer s = q :: (rest (answer q s).1).asked answer (answer q s).2 := rfl

/-- First the questions of the first program are asked and then those of the second. -/
theorem asked_bind (program : Dialogue A α) (next : α → Dialogue A β) (s : σ) :
    (program.bind next).asked answer s =
      program.asked answer s ++
        (next (program.run answer s).1).asked answer (program.run answer s).2 := by
  induction program generalizing s with
  | done => rfl
  | ask q rest ih => rw [bind_ask, asked_ask, ih, asked_ask, run_ask, List.cons_append]

@[simp] theorem asks_done (result : α) : (done result : Dialogue A α).Asks P := trivial

@[simp] theorem asks_ask {q : Q} {rest : A q → Dialogue A α} :
    (ask q rest).Asks P ↔ P q ∧ ∀ answer, (rest answer).Asks P := Iff.rfl

theorem Asks.mono {P' : Q → Prop} (h : ∀ q, P q → P' q) {program : Dialogue A α}
    (hp : program.Asks P) : program.Asks P' := by
  induction program with
  | done result => trivial
  | ask q rest ih => exact ⟨h q hp.1, fun answer => ih answer (hp.2 answer)⟩

/-- What is behind a program need ask such questions only behind the results that there are. -/
theorem Asks.bind_of_ensures {R : α → Prop} {program : Dialogue A α} {next : α → Dialogue A β}
    (hp : program.Asks P) (hr : program.Ensures R) (hn : ∀ a, R a → (next a).Asks P) :
    (program.bind next).Asks P := by
  induction program with
  | done result => exact hn result hr
  | ask q rest ih => exact ⟨hp.1, fun answer => ih answer (hp.2 answer) (hr answer)⟩

theorem Asks.bind {program : Dialogue A α} {next : α → Dialogue A β} (hp : program.Asks P)
    (hn : ∀ a, (next a).Asks P) : (program.bind next).Asks P :=
  hp.bind_of_ensures (ensures_true program) fun a _ => hn a

/-- What asks only for what leaves a part of the world alone leaves that part alone. -/
theorem Asks.part_run {τ : Type} {program : Dialogue A α} (hp : program.Asks P) {part : σ → τ}
    (hpart : ∀ q, P q → ∀ s, part (answer q s).2 = part s) (s : σ) :
    part (program.run answer s).2 = part s := by
  induction program generalizing s with
  | done result => rfl
  | ask q rest ih => exact (ih _ (hp.2 _) _).trans (hpart q hp.1 s)

/-- What a program only asks is all that is asked in a run. -/
theorem Asks.asked {program : Dialogue A α} (hp : program.Asks P) (s : σ) :
    ∀ q ∈ program.asked answer s, P q := by
  induction program generalizing s with
  | done result => exact fun _ h => nomatch h
  | ask q rest ih =>
    intro q' hq
    rcases List.mem_cons.mp hq with rfl | hq
    · exact hp.1
    · exact ih _ (hp.2 _) _ q' hq

end

/-! ## Answers that commit -/

/-- Whatever the answers are, the result is as `P` says, or once an answer has committed the
program as `R` says. -/
def Commits (act : (q : Q) → A q → Prop) (P R : α → Prop) : Dialogue A α → Prop
  | done result => P result
  | ask q rest => ∀ answer,
    (act q answer → (rest answer).Ensures R) ∧ (¬ act q answer → (rest answer).Commits act P R)

section

variable {act : (q : Q) → A q → Prop} {P P' R : α → Prop} {S T : β → Prop}

theorem Commits.mono {R' : α → Prop} (h : ∀ a, P a → P' a) (h' : ∀ a, R a → R' a)
    {program : Dialogue A α} (hp : program.Commits act P R) : program.Commits act P' R' := by
  induction program with
  | done result => exact h result hp
  | ask q rest ih =>
    intro answer
    obtain ⟨hcommitted, hopen⟩ := hp answer
    exact ⟨fun hact => (hcommitted hact).mono h', fun hnot => ih answer (hopen hnot)⟩

/-- What always ends well may commit itself at any time. -/
theorem Ensures.commits (h : ∀ a, R a → P a) {program : Dialogue A α} (hp : program.Ensures R) :
    program.Commits act P R := by
  induction program with
  | done result => exact h result hp
  | ask q rest ih => exact fun answer => ⟨fun _ => hp answer, fun _ => ih answer (hp answer)⟩

/-- A program behind another one goes on from what that has ensured, committed or not. -/
theorem Commits.bind {program : Dialogue A α} {next : α → Dialogue A β}
    (hp : program.Commits act P R)
    (hopen : ∀ a, P a → (next a).Commits act S T) (hcommitted : ∀ a, R a → (next a).Ensures T) :
    (program.bind next).Commits act S T := by
  induction program with
  | done result => exact hopen result hp
  | ask q rest ih =>
    intro answer
    obtain ⟨hact, hnot⟩ := hp answer
    exact ⟨fun h => (hact h).bind hcommitted, fun h => ih answer (hnot h)⟩

/-- In a run either nothing has committed the program, and what only committing answers change is as
it was, or the result is that of a committed program. -/
theorem Commits.run {σ τ : Type} {answer : (q : Q) → σ → A q × σ} {program : Dialogue A α}
    (hp : program.Commits act P R) {part : σ → τ}
    (hpart : ∀ q s, ¬ act q (answer q s).1 → part (answer q s).2 = part s) (s : σ) :
    (P (program.run answer s).1 ∧ part (program.run answer s).2 = part s) ∨ R
      (program.run answer s).1 := by
  induction program generalizing s with
  | done result => exact .inl ⟨hp, rfl⟩
  | ask q rest ih =>
    obtain ⟨hact, hnot⟩ := hp (answer q s).1
    rw [run_ask]
    by_cases h : act q (answer q s).1
    · exact .inr ((hact h).run _)
    · rw [← hpart q s h]
      exact ih _ (hnot h) _

end

/-! ## Expected answers -/

/-- As long as the answers are as expected, the result is as described. -/
def EnsuresWhere (expected : (q : Q) → A q → Prop) (P : α → Prop) : Dialogue A α → Prop
  | done result => P result
  | ask q rest => ∀ answer, expected q answer → (rest answer).EnsuresWhere expected P

namespace EnsuresWhere

variable {expected : (q : Q) → A q → Prop} {P : α → Prop} {R : β → Prop} {program : Dialogue A α}

theorem bind {next : α → Dialogue A β} (hp : program.EnsuresWhere expected P)
    (hn : ∀ a, P a → (next a).EnsuresWhere expected R) :
    (program.bind next).EnsuresWhere expected R := by
  induction program with
  | done result => exact hn result hp
  | ask q rest ih => exact fun answer hanswer => ih answer (hp answer hanswer)

theorem mono {P' : α → Prop} (h : ∀ a, P a → P' a) (hp : program.EnsuresWhere expected P) :
    program.EnsuresWhere expected P' := by
  induction program with
  | done result => exact h result hp
  | ask q rest ih => exact fun answer hanswer => ih answer (hp answer hanswer)

theorem of_forall (h : ∀ a, P a) (program : Dialogue A α) : program.EnsuresWhere expected P := by
  induction program with
  | done result => exact h result
  | ask q rest ih => exact fun answer _ => ih answer

/-- In states of a kind that is kept, and in which the answers are as expected, the result
is as described. -/
theorem run {σ : Type} {answer : (q : Q) → σ → A q × σ} {kind : σ → Prop}
    (hkept : ∀ q s, kind s → kind (answer q s).2)
    (hexpected : ∀ q s, kind s → expected q (answer q s).1)
    (hp : program.EnsuresWhere expected P) {s : σ} (hs : kind s) : P (program.run answer s).1 := by
  induction program generalizing s with
  | done result => exact hp
  | ask q rest ih => exact ih _ (hp _ (hexpected q s hs)) (hkept q s hs)

end EnsuresWhere

/-! ## Programs that agree -/

/-- Two programs that ask the same questions as long as the answers are as expected, and end with
related results. -/
inductive Agree (expected : (q : Q) → A q → Prop) (R : α → β → Prop) :
    Dialogue A α → Dialogue A β → Prop
  | done {first : α} {second : β} (h : R first second) : Agree expected R (done first) (done second)
  | ask {q : Q} {first : A q → Dialogue A α} {second : A q → Dialogue A β}
      (h : ∀ answer, expected q answer → Agree expected R (first answer) (second answer)) :
      Agree expected R (ask q first) (ask q second)

namespace Agree

variable {γ δ : Type} {expected : (q : Q) → A q → Prop} {R : α → β → Prop} {S : γ → δ → Prop}
variable {first : Dialogue A α} {second : Dialogue A β}

theorem refl {R : α → α → Prop} (h : ∀ a, R a a) (program : Dialogue A α) :
    Agree expected R program program := by
  induction program with
  | done result => exact .done (h result)
  | ask q rest ih => exact .ask fun answer _ => ih answer

theorem mono {R' : α → β → Prop} (h : ∀ a b, R a b → R' a b)
    (hagree : Agree expected R first second) : Agree expected R' first second := by
  induction hagree with
  | done hresult => exact .done (h _ _ hresult)
  | ask _ ih => exact .ask ih

/-- Programs behind programs that agree agree if they do so behind all related results. -/
theorem bind {next : α → Dialogue A γ} {next' : β → Dialogue A δ}
    (h : Agree expected R first second)
    (hnext : ∀ a b, R a b → Agree expected S (next a) (next' b)) :
    Agree expected S (first.bind next) (second.bind next') := by
  induction h with
  | done hresult => exact hnext _ _ hresult
  | ask _ ih => exact .ask ih

/-- Programs behind the same program agree if they do so behind all its results. -/
theorem behind (program : Dialogue A α) {next : α → Dialogue A γ} {next' : α → Dialogue A δ}
    (hnext : ∀ a, Agree expected S (next a) (next' a)) :
    Agree expected S (program.bind next) (program.bind next') :=
  (@refl _ _ _ expected Eq (fun _ => rfl) program).bind fun a _ heq => heq ▸ hnext a

/-- Where all answers are as expected, programs that agree leave behind the same and end with
related results. -/
theorem run {σ : Type} {answer : (q : Q) → σ → A q × σ} (hanswer : ∀ q s, expected q (answer q s).1)
    (h : Agree expected R first second) (s : σ) :
    R (first.run answer s).1 (second.run answer s).1 ∧ (first.run answer s).2 =
      (second.run answer s).2 := by
  induction h generalizing s with
  | done hresult => exact ⟨hresult, rfl⟩
  | ask _ ih => exact ih _ (hanswer _ s) _

end Agree

/-! ## Elaborations and translations -/

theorem elaborate_question {Q : Type} {A : Q → Type} {R : Type} {B : R → Type}
    (answering : (q : Q) → Dialogue B (A q)) (q : Q) :
    (question q).elaborate answering = answering q :=
  bind_id (answering q)

/-- An elaboration of programs one after the other is their elaborations one after the other. -/
theorem elaborate_bind {Q : Type} {A : Q → Type} {R : Type} {B : R → Type}
    (answering : (q : Q) → Dialogue B (A q)) (program : Dialogue A α) (next : α → Dialogue A β) :
    (program.bind next).elaborate answering =
      (program.elaborate answering).bind fun a => (next a).elaborate answering := by
  induction program with
  | done result => rfl
  | ask q rest ih => simp [elaborate, ih, bind_assoc]

section

variable {R : Type u} {B : R → Type v} (vocabulary : Q → R)
  (back : (q : Q) → B (vocabulary q) → A q)

@[simp] theorem translate_done (result : α) :
    (done result : Dialogue A α).translate vocabulary back = done result := rfl

@[simp] theorem translate_ask (q : Q) (rest : A q → Dialogue A α) :
    (ask q rest).translate vocabulary back =
      ask (vocabulary q) fun answer => (rest (back q answer)).translate vocabulary back := rfl

/-- Whatever a program ensures, its translation ensures. -/
theorem Ensures.translate {P : α → Prop} {program : Dialogue A α} (hp : program.Ensures P) :
    (program.translate vocabulary back).Ensures P := by
  induction program with
  | done result => exact hp
  | ask q rest ih => exact fun answer => ih _ (hp _)

/-- A translation is committed by the answers that commit the program. -/
theorem Commits.translate {act : (q : Q) → A q → Prop} {act' : (q : R) → B q → Prop}
    {P S : α → Prop}
    (h : ∀ q answer, act' (vocabulary q) answer ↔ act q (back q answer)) {program : Dialogue A α}
    (hp : program.Commits act P S) : (program.translate vocabulary back).Commits act' P S := by
  induction program with
  | done result => exact hp
  | ask q rest ih =>
    intro answer
    obtain ⟨hact, hnot⟩ := hp (back q answer)
    rw [h]
    exact ⟨fun hcommitted => (hact hcommitted).translate vocabulary back,
      fun hopen => ih _ (hnot hopen)⟩

/-- Translations of programs that agree agree, where an expected answer is translated back into
one. -/
theorem Agree.translate {expected : (q : Q) → A q → Prop} {expected' : (q : R) → B q → Prop}
    {S : α → β → Prop}
    (h : ∀ q answer, expected' (vocabulary q) answer → expected q (back q answer))
    {first : Dialogue A α} {second : Dialogue A β} (hagree : Agree expected S first second) :
    Agree expected' S (first.translate vocabulary back) (second.translate vocabulary back) := by
  induction hagree with
  | done hresult => exact .done hresult
  | ask _ ih => exact .ask fun answer hanswer => ih _ (h _ answer hanswer)

/-- A translation of programs one after the other is their translations one after the other. -/
theorem translate_bind (program : Dialogue A α) (next : α → Dialogue A β) :
    (program.bind next).translate vocabulary back =
      (program.translate vocabulary back).bind fun a => (next a).translate vocabulary back := by
  induction program with
  | done => rfl
  | ask q rest ih => simp [ih]

end

end Dialogue
end ActionBoard
