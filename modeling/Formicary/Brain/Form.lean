/-
Module: Formicary.Brain.Form
Purpose: Readers of one line, as trees of the words they accept.
Main exports: Form, Form.bind, Form.word, Form.oneOf, Form.run
-/
import Formicary.Brain.Fault

namespace Formicary

/-- A reader of the words of a line, laid open: it has its answer, it refuses, or it needs one more
word, and says which place that word fills and how to go on. -/
inductive Form (α : Type) where
  | done (value : α)
  | refuse (fault : LineFault)
  | next (slot : Slot) (read : String → Form α)

namespace Form

variable {α β : Type}

/-- Go on with the answer of a reader. -/
def bind : Form α → (α → Form β) → Form β
  | .done a, f => f a
  | .refuse e, _ => .refuse e
  | .next slot read, f => .next slot fun w => (read w).bind f

instance : Monad Form where
  pure := .done
  bind := bind

/-- Read one word. -/
def word (slot : Slot) (read : String → Except LineFault α) : Form α :=
  .next slot fun w =>
    match read w with
    | .ok a => .done a
    | .error e => .refuse e

/-- Read one word of a fixed list and go on as the list says. -/
def choice (slot : Slot) (table : List (String × Form α)) : Form α :=
  .next slot fun w => (table.lookup w).getD (.refuse (.unknown slot))

/-- Read the word for one of the given values. -/
def oneOf (slot : Slot) (values : List α) (word : α → String) : Form α :=
  choice slot (values.map fun a => (word a, .done a))

/-- Run a reader on the words of a line, all of which it must use. -/
def run : Form α → List String → Except LineFault α
  | .done a, [] => .ok a
  | .done _, _ :: _ => .error .extraWords
  | .refuse e, _ => .error e
  | .next slot _, [] => .error (.missing slot)
  | .next _ read, w :: ws => (read w).run ws

@[simp] theorem pure_eq (a : α) : (pure a : Form α) = .done a := rfl

@[simp] theorem bind_done (a : α) (f : α → Form β) : (.done a >>= f : Form β) = f a := rfl

@[simp] theorem bind_refuse (e : LineFault) (f : α → Form β) :
    (.refuse e >>= f : Form β) = .refuse e := rfl

@[simp] theorem bind_next (slot : Slot) (read : String → Form α) (f : α → Form β) :
    (.next slot read >>= f : Form β) = .next slot fun w => read w >>= f := rfl

end Form

end Formicary
