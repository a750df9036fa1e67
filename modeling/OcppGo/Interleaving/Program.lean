import Mathlib.Logic.Basic

namespace OcppGo
namespace Interleaving

/-!
# Programs of atomic operations

A goroutine is described by the tree of atomic operations it performs.  Each
node names one operation on the shared state and continues with the answer it
receives, so sequential source code is written with `do` notation and every
point between two operations is a point where another goroutine may run.

The tree is finite along every branch: an endless loop of the source is cut at
its head, and one program describes one pass through the loop body.
-/

/-- A program over the operations `Op`, whose operation `o` is answered by a
value of type `Res o`. -/
inductive Program (Op : Type) (Res : Op -> Type) (α : Type) : Type where
  | done (value : α)
  | act (op : Op) (resume : Res op -> Program Op Res α)

namespace Program

variable {Op : Type} {Res : Op -> Type} {α β : Type}

/-- Continue with `onward` wherever the first program is done. -/
def bind (prog : Program Op Res α) (onward : α -> Program Op Res β) : Program Op Res β :=
  match prog with
  | .done value => onward value
  | .act op resume => .act op (fun ans => (resume ans).bind onward)

instance : Monad (Program Op Res) where
  pure := .done
  bind := bind

@[simp] theorem pure_eq (value : α) : (pure value : Program Op Res α) = .done value := rfl

section

variable (onward : α -> Program Op Res β)

@[simp] theorem done_bind (value : α) :
    (Program.done value >>= onward) = onward value := rfl

@[simp] theorem act_bind (op : Op) (resume : Res op -> Program Op Res α) :
    (Program.act op resume >>= onward) =
      .act op (fun ans => resume ans >>= onward) := rfl

@[simp] theorem bind_done (value : α) :
    (Program.done value).bind onward = onward value := rfl

theorem bind_bind {δ : Type} (prog : Program Op Res α) (last : β -> Program Op Res δ) :
    (prog >>= onward >>= last) = (prog >>= fun value => onward value >>= last) := by
  induction prog with
  | done value => rfl
  | act op resume ih =>
    simp only [act_bind, ih]

end

/-- The operation a program performs next, if it is not done. -/
def next? : Program Op Res α -> Option Op
  | .done _ => none
  | .act op _ => some op

@[simp] theorem next?_done (value : α) : (Program.done value : Program Op Res α).next? = none := rfl

@[simp] theorem next?_act (op : Op) (resume : Res op -> Program Op Res α) :
    (Program.act op resume).next? = some op := rfl

/-- Every operation on every branch of the program is one of the permitted ones. -/
def Uses (legal : Op -> Prop) : Program Op Res α -> Prop
  | .done _ => True
  | .act op resume =>
    legal op ∧ ∀ ans, (resume ans).Uses legal

@[simp] theorem uses_done (legal : Op -> Prop) (value : α) :
    (Program.done value : Program Op Res α).Uses legal := trivial

variable {legal : Op -> Prop}

@[simp] theorem uses_act {op : Op} {resume : Res op -> Program Op Res α} :
    (Program.act op resume).Uses legal <->
      legal op ∧ ∀ ans, (resume ans).Uses legal := Iff.rfl

variable {prog : Program Op Res α} {onward : α -> Program Op Res β}

theorem Uses.bind (first : prog.Uses legal)
    (second : ∀ value, (onward value).Uses legal) :
    (prog >>= onward).Uses legal := by
  induction prog with
  | done value => exact second value
  | act op resume ih =>
    exact ⟨first.1, fun ans => ih ans (first.2 ans)⟩

/-- A property of programs that sequencing keeps. -/
structure Composes (good : (α : Type) -> Program Op Res α -> Prop) : Prop where
  done : ∀ {α : Type} (value : α), good α (.done value)
  bind : ∀ {α β : Type} {prog : Program Op Res α} {onward : α -> Program Op Res β},
    good α prog -> (∀ value, good β (onward value)) -> good β (prog >>= onward)

theorem composes_uses : Composes fun α (prog : Program Op Res α) => prog.Uses legal :=
  ⟨fun _ => trivial, Uses.bind⟩

/-- Whatever the answers, the result of the program satisfies the condition. -/
def Returns (cond : α -> Prop) : Program Op Res α -> Prop
  | .done value => cond value
  | .act _ resume => ∀ ans, (resume ans).Returns cond

@[simp] theorem returns_done {cond : α -> Prop} {value : α} :
    (Program.done value : Program Op Res α).Returns cond <-> cond value := Iff.rfl

@[simp] theorem returns_act {cond : α -> Prop} {op : Op}
    {resume : Res op -> Program Op Res α} :
    (Program.act op resume).Returns cond <->
      ∀ ans, (resume ans).Returns cond := Iff.rfl

/-- What a program returns is decided by what it ends with. -/
theorem returns_bind {cond : β -> Prop} (prog : Program Op Res α)
    (second : ∀ value, (onward value).Returns cond) :
    (prog >>= onward).Returns cond := by
  induction prog with
  | done value => exact second value
  | act op resume ih =>
    intro ans
    exact ih ans

/-- Sequencing through what the first program returns. -/
theorem Returns.bind {middle : α -> Prop} {cond : β -> Prop} (first : prog.Returns middle)
    (second : ∀ value, middle value -> (onward value).Returns cond) :
    (prog >>= onward).Returns cond := by
  induction prog with
  | done value => exact second value first
  | act op resume ih =>
    intro ans
    exact ih ans (first ans)

/-- Every branch of the program performs an operation in `target`.  A program
that is done has no operation left, so the property says that the operation is
still ahead and cannot be avoided. -/
def Inevitable (target : Op -> Prop) : Program Op Res α -> Prop
  | .done _ => False
  | .act op resume => target op ∨ ∀ ans, (resume ans).Inevitable target

end Program

end Interleaving
end OcppGo
