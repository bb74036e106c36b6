/-
Problems that a lenient rendering tolerates. An issue is an error and how much it
matters; a diagnostic also names the placeholder it was met in. A computation
that notes issues gives them back with its value, in the order in which they
were met, and a strict one ends at the first.
-/
import Placeholders.Problem

namespace Placeholders

/-- A warning leaves the meaning of a stage; an error skips the stage. -/
inductive Severity
  | warning
  | error
deriving DecidableEq, Repr

/-- The word for a severity. -/
def Severity.label : Severity → Text
  | warning => "warning".toList
  | error => "error".toList

/-- A tolerated error. -/
structure Issue where
  severity : Severity
  error : SubstitutionError
deriving DecidableEq, Repr

/-- An issue and the placeholder it was met in, as it stands in the pattern. -/
structure Diagnostic where
  placeholder : Text
  issue : Issue
deriving DecidableEq, Repr

/-- One line for a report. -/
def Diagnostic.message (d : Diagnostic) : Text :=
  d.issue.severity.label ++ ": ".toList ++ d.issue.error.message ++ " in ".toList ++ d.placeholder

/-- What happens to an issue: it ends a strict rendering and is noted in a lenient one. -/
inductive Mode
  | strict
  | lenient
deriving DecidableEq, Repr

/-- A computation that gives a value and the issues met on the way. -/
def Noting (α : Type) : Type := Outcome SubstitutionError (α × List Issue)

namespace Noting

/-- The outcome of a computation, with the issues that it noted. -/
def run {α : Type} (x : Noting α) : Outcome SubstitutionError (α × List Issue) := x

instance : Monad Noting where
  pure a := .ok (a, [])
  bind x f :=
    match x.run with
    | .error e => .error e
    | .ok (a, issues) =>
      match (f a).run with
      | .error e => .error e
      | .ok (b, more) => .ok (b, issues ++ more)

@[simp] theorem run_pure {α : Type} (a : α) : (pure a : Noting α).run = .ok (a, []) := rfl

theorem run_bind {α β : Type} (x : Noting α) (f : α → Noting β) :
    (x >>= f).run =
      match x.run with
      | .error e => .error e
      | .ok (a, issues) =>
        match (f a).run with
        | .error e => .error e
        | .ok (b, more) => .ok (b, issues ++ more) := rfl

theorem run_injective {α : Type} {x y : Noting α} (h : x.run = y.run) : x = y := h

theorem map_id {α : Type} (x : Noting α) : (id <$> x) = x := by
  apply run_injective
  change (x >>= fun a => pure (id a)).run = x.run
  rw [run_bind]
  rcases h : x.run with e | ⟨a, issues⟩
  · rfl
  · simp

theorem bind_pure_left {α β : Type} (a : α) (f : α → Noting β) : (pure a >>= f) = f a := by
  apply run_injective
  rw [run_bind, run_pure]
  rcases h : (f a).run with e | ⟨b, issues⟩
  · simp [h]
  · simp [h]

theorem bind_bind {α β γ : Type} (x : Noting α) (f : α → Noting β) (g : β → Noting γ) :
    (x >>= f >>= g) = x >>= fun a => f a >>= g := by
  apply run_injective
  simp only [run_bind]
  rcases x.run with e | ⟨a, issues⟩
  · rfl
  · rcases h : (f a).run with e | ⟨b, more⟩
    · simp [h]
    · rcases h' : (g b).run with e | ⟨c, rest⟩
      · simp [h, h']
      · simp [h, h']

/-- Issues are listed in order however the steps are grouped. -/
instance : LawfulMonad Noting := LawfulMonad.mk' Noting map_id bind_pure_left bind_bind

end Noting

/-- Meets an issue. -/
def note (mode : Mode) (severity : Severity) (e : SubstitutionError) : Noting Unit :=
  match mode with
  | .strict => refuse e
  | .lenient => .ok ((), [⟨severity, e⟩])

/-- The result of a stage. An error that is tolerated leaves the running value;
an abort is never tolerated. -/
def Noting.ofStage (mode : Mode) (value : Text) : Outcome SubstitutionError Text → Noting Text
  | .ok next => pure next
  | .error (.error e) => do
    note mode .error e
    return value
  | .error .abort => abort

end Placeholders
