import Mathlib.Logic.Basic

namespace Chassis.Effect

/-- An interface fixes the calls a program may make and the ways in which it may fail. -/
structure Interface where
  Op : Type
  Answer : Op → Type
  Exception : Type
  Fault : Type

/-- A program owns one state, calls its environment, and may throw or reach undefined behaviour. -/
inductive Program (I : Interface) (State : Type) (Value : Type) where
  | pure (value : Value)
  | throw (exception : I.Exception)
  | fault (reason : I.Fault)
  | get (next : State → Program I State Value)
  | set (state : State) (next : Program I State Value)
  | call (op : I.Op) (next : I.Answer op → Program I State Value)

namespace Program

variable {I : Interface} {State Inner Value Result : Type}

/-- Sequencing keeps every exception and every fault of the first program. -/
def bind (program : Program I State Value) (rest : Value → Program I State Result) :
    Program I State Result :=
  match program with
  | .pure value => rest value
  | .throw exception => .throw exception
  | .fault reason => .fault reason
  | .get next => .get fun state => (next state).bind rest
  | .set state next => .set state (next.bind rest)
  | .call op next => .call op fun answer => (next answer).bind rest

/-- A handler resumes after an exception with the state at the throw. It sees no fault. -/
def tryCatch (program : Program I State Value) (handler : I.Exception → Program I State Value) :
    Program I State Value :=
  match program with
  | .pure value => .pure value
  | .throw exception => handler exception
  | .fault reason => .fault reason
  | .get next => .get fun state => (next state).tryCatch handler
  | .set state next => .set state (next.tryCatch handler)
  | .call op next => .call op fun answer => (next answer).tryCatch handler

instance : Monad (Program I State) where
  pure := Program.pure
  bind := Program.bind

/-- This program returns the current state. -/
def read : Program I State State := .get .pure

/-- This program replaces the state by its image. -/
def modify (update : State → State) : Program I State Unit :=
  .get fun state => .set (update state) (.pure ())

/-- This program returns the environment's answer to one call. -/
def ask (op : I.Op) : Program I State (I.Answer op) := .call op .pure

/-- A program on a part of the state writes each change back into the whole state. -/
def focus (replace : Inner → State → State) (inner : Inner) :
    Program I Inner Value → Program I State Value
  | .pure value => .pure value
  | .throw exception => .throw exception
  | .fault reason => .fault reason
  | .get next => focus replace inner (next inner)
  | .set inner next => .get fun state => .set (replace inner state) (focus replace inner next)
  | .call op next => .call op fun answer => focus replace inner (next answer)

/-- A program on an object of its own leaves the state alone and returns the object. -/
def isolate (inner : Inner) : Program I Inner Value → Program I State (Value × Inner)
  | .pure value => .pure (value, inner)
  | .throw exception => .throw exception
  | .fault reason => .fault reason
  | .get next => isolate inner (next inner)
  | .set inner next => isolate inner next
  | .call op next => .call op fun answer => isolate inner (next answer)

/-- The loop visits each element in order and stops at the first exception or fault. -/
def forEach {Element : Type} (body : Element → Program I State Unit) :
    List Element → Program I State Unit
  | [] => .pure ()
  | element :: rest => (body element).bind fun _ => forEach body rest

end Program

/-- A finished program returned a value, let an exception escape, or reached a fault. -/
inductive Outcome (I : Interface) (Value : Type) where
  | value (value : Value)
  | thrown (exception : I.Exception)
  | fault (reason : I.Fault)

instance {I : Interface} {Value : Type} [DecidableEq I.Exception] [DecidableEq I.Fault]
    [DecidableEq Value] : DecidableEq (Outcome I Value)
  | .value first, .value second => decidable_of_iff (first = second) (by simp)
  | .thrown first, .thrown second => decidable_of_iff (first = second) (by simp)
  | .fault first, .fault second => decidable_of_iff (first = second) (by simp)
  | .value _, .thrown _ | .value _, .fault _ | .thrown _, .value _ | .thrown _, .fault _
  | .fault _, .value _ | .fault _, .thrown _ => isFalse nofun

/-- A call is recorded with the state at the call and the answer it got. -/
structure Call (I : Interface) (State : Type) where
  state : State
  op : I.Op
  answer : I.Answer op

/-- A run records the outcome, the final state, and the calls in order. -/
structure Run (I : Interface) (State : Type) (Value : Type) where
  outcome : Outcome I Value
  state : State
  calls : List (Call I State)

/-- An environment answers the call at each position of a run. -/
abbrev Environment (I : Interface) := Nat → (op : I.Op) → I.Answer op

/-- The environment answers the calls from the given position on. -/
def Program.run {I : Interface} {State Value : Type} (environment : Environment I) :
    Program I State Value → State → Nat → Run I State Value
  | .pure value, state, _ => ⟨.value value, state, []⟩
  | .throw exception, state, _ => ⟨.thrown exception, state, []⟩
  | .fault reason, state, _ => ⟨.fault reason, state, []⟩
  | .get next, state, position => (next state).run environment state position
  | .set state next, _, position => next.run environment state position
  | .call op next, state, position =>
      let answer := environment position op
      let rest := (next answer).run environment state (position + 1)
      { rest with calls := ⟨state, op, answer⟩ :: rest.calls }

end Chassis.Effect
