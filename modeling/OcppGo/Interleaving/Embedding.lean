import OcppGo.Interleaving.Protocol

namespace OcppGo
namespace Interleaving
namespace Program

/-!
# Programs of a component inside a larger system

A component that has been modelled on its own is used by a larger system: the goroutines of the
system call its functions and go on, and a callback of the component is carried out by the
system.  `interpret` replaces every operation of a component's program by a program of the
system.  What is known about the component's program, which operations it uses and which
protocol it follows, carries over when it is known of the programs that replace its operations.
-/

variable {Op Op' : Type} {Res : Op -> Type} {Res' : Op' -> Type} {Call Call' : Type}
  {γ γ' α β : Type}

/-- Carry out every operation of a program by a program of another system. -/
def interpret (handle : (op : Op) -> Program Op' Res' (Res op)) :
    Program Op Res α -> Program Op' Res' α
  | .done value => .done value
  | .act op resume =>
    (handle op).bind (fun ans => (resume ans).interpret handle)

variable {handle : (op : Op) -> Program Op' Res' (Res op)}

@[simp] theorem interpret_done (value : α) :
    (Program.done value : Program Op Res α).interpret handle = .done value := rfl

theorem interpret_act (op : Op) (resume : Res op -> Program Op Res α) :
    (Program.act op resume).interpret handle =
      (handle op >>= fun ans => (resume ans).interpret handle) := rfl

theorem interpret_bind (prog : Program Op Res α) (onward : α -> Program Op Res β) :
    (prog >>= onward).interpret handle =
      (prog.interpret handle >>= fun value => (onward value).interpret handle) := by
  induction prog with
  | done value => rfl
  | act op resume ih =>
    simp only [act_bind, interpret_act, ih, bind_bind]

variable {prog : Program Op Res α}

/-- A component's program uses what the programs of its operations use. -/
theorem Uses.interpret {legal : Op -> Prop} {permitted' : Op' -> Prop}
    (uses : prog.Uses legal)
    (handles : ∀ op, legal op -> (handle op).Uses permitted') :
    (prog.interpret handle).Uses permitted' := by
  induction prog with
  | done value => trivial
  | act op resume ih =>
    rw [interpret_act]
    apply (handles op uses.1).bind
    intro ans
    exact ih ans (uses.2 ans)

theorem Returns.interpret {cond : α -> Prop} (returns : prog.Returns cond) :
    (prog.interpret handle).Returns cond := by
  induction prog with
  | done value => exact returns
  | act op resume ih =>
    rw [interpret_act]
    apply returns_bind
    intro ans
    exact ih ans (returns ans)

/-- A component's program follows the system's protocol, seen through a relation between the two
kinds of abstract states, when each operation does. -/
theorem Obeys.interpret {protocol : Protocol Op Res Call γ}
    {protocol' : Protocol Op' Res' Call' γ'} {call : Call} {call' : Call'}
    {related : γ -> γ' -> Prop} {post : α -> γ -> Prop} {state : γ} {state' : γ'}
    (fits : ∀ state state', protocol.fits call state -> related state state' -> protocol'.fits
      call' state')
    (handles : ∀ op state state', protocol.fits call state -> protocol.allowed
      op state -> related state state' -> (handle op).Obeys protocol' call' (fun
      ans final => ∃ onward, protocol.next op state ans onward ∧ related
      onward final) state') (obeys : prog.Obeys protocol call post state)
    (begins : related state state') :
    (prog.interpret handle).Obeys protocol' call'
      (fun value final => ∃ reached, post value reached ∧ related reached final) state' := by
  induction prog generalizing state state' with
  | done value => exact ⟨fits state state' obeys.1 begins, state, obeys.2, begins⟩
  | act op resume ih =>
    rw [interpret_act]
    apply (handles op state state' obeys.1 obeys.2.1 begins).bind
    rintro ans final ⟨onward, moved, continues⟩
    exact ih ans (obeys.2.2 ans onward moved) continues

end Program
end Interleaving
end OcppGo
