import DetectorControl.Reply

/-!
# Dialogues

A dialogue is a course of commands in which each may depend on the replies to those before. It can
be held with anything that answers commands, and what was said is recorded.
-/

namespace DetectorControl

inductive Dialogue (α : Type) where
  | done (a : α)
  | ask (c : Command) (next : Reply → Dialogue α)

/-- A command and the reply to it. -/
structure Exchange where
  command : Command
  reply : Reply
  deriving BEq, Repr

/-- Something that answers commands and may change a world by that. -/
abbrev Port (W : Type u) := Command → W → Reply × W

namespace Dialogue

variable {α β : Type} {W : Type u}

def bind (f : α → Dialogue β) : Dialogue α → Dialogue β
  | done a => f a
  | ask c next => ask c fun r => (next r).bind f

instance : Monad Dialogue where
  pure := done
  bind d f := d.bind f

@[simp] theorem pure_eq (a : α) : (pure a : Dialogue α) = done a := rfl

@[simp] theorem bind_done (a : α) (f : α → Dialogue β) : (done a >>= f) = f a := rfl

@[simp] theorem bind_ask (c : Command) (next : Reply → Dialogue α) (f : α → Dialogue β) :
    (ask c next >>= f) = ask c fun r => next r >>= f := rfl

/-- One command. -/
def send (target verb : String) (options : Options) : Dialogue Reply :=
  ask ⟨.ofName target, verb, options⟩ done

/-- Holds a dialogue; the exchanges are in the order in which they took place. -/
def run (port : Port W) : Dialogue α → W → α × List Exchange × W
  | done a, w => (a, [], w)
  | ask c next, w =>
    match port c w with
    | (r, w) =>
      match run port (next r) w with
      | (a, said, w) => (a, ⟨c, r⟩ :: said, w)

/-- A dialogue that continues another one continues its record, too. -/
theorem run_bind (port : Port W) (f : α → Dialogue β) (d : Dialogue α) (w : W) :
    run port (d >>= f) w =
      match run port d w with
      | (a, said, w) =>
        match run port (f a) w with
        | (b, said', w) => (b, said ++ said', w) := by
  induction d generalizing w with
  | done a => rfl
  | ask c next ih =>
    simp only [bind_ask, run, ih]
    rfl

end Dialogue

end DetectorControl
