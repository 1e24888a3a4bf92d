import Dataflow.Text.Basic

/-!
# Arguments of a command

Options and arguments may be mixed.  An option takes the next argument for its value, whatever that
looks like, or has it behind an equals sign; a switch has no value.  Two dashes end the options,
and a single dash is an argument.  Of an option that is repeated the last occurrence counts.
-/

set_option autoImplicit false

namespace Dataflow

/-- What an option does. -/
inductive OptionRole where
  /-- It has a value, kept under this key. -/
  | value (key : String)
  /-- It sets the switch of this key. -/
  | switch (key : String) (state : Bool)

/-- What was given to a command. -/
structure Arguments where
  /-- The arguments that are no options, in order. -/
  plain : List Text
  /-- The values of options by key, in order. -/
  values : List (String × Text)
  /-- The switches by key, in order. -/
  switches : List (String × Bool)

namespace Arguments

/-- Arguments with an earlier plain one. -/
def withPlain (a : Arguments) (t : Text) : Arguments := { a with plain := t :: a.plain }

/-- Arguments with an earlier value. -/
def withValue (a : Arguments) (key : String) (t : Text) : Arguments :=
  { a with values := (key, t) :: a.values }

/-- Arguments with an earlier switch. -/
def withSwitch (a : Arguments) (key : String) (state : Bool) : Arguments :=
  { a with switches := (key, state) :: a.switches }

/-- Whether an argument is meant as an option. -/
def isOption (t : Text) : Bool :=
  match t with
  | '-' :: _ :: _ => true
  | _ => false

/-- The name of an option, and its value if that stands behind an equals sign. -/
def splitOption (t : Text) : Text × Option Text :=
  match t.dropWhile (· ≠ '=') with
  | [] => (t, none)
  | _ :: value => (t.takeWhile (· ≠ '='), some value)

/-- Take arguments apart, given the options of the command. -/
def parse? (options : List (String × OptionRole)) : List Text → Option Arguments
  | [] => some ⟨[], [], []⟩
  | t :: rest =>
    if t = ['-', '-'] then some ⟨rest, [], []⟩
    else if isOption t then
      match options.lookup (String.ofList (splitOption t).1), (splitOption t).2 with
      | none, _ => none
      | some (.value key), some value => (parse? options rest).map fun a => a.withValue key value
      | some (.value key), none =>
        match rest with
        | [] => none
        | value :: rest => (parse? options rest).map fun a => a.withValue key value
      | some (.switch key state), none => (parse? options rest).map fun a => a.withSwitch key state
      | some (.switch _ _), some _ => none
    else (parse? options rest).map fun a => a.withPlain t

/-- The value that counts for a key. -/
def value? (a : Arguments) (key : String) : Option Text := a.values.reverse.lookup key

/-- The state of a switch, if it was set. -/
def switch? (a : Arguments) (key : String) : Option Bool := a.switches.reverse.lookup key

end Arguments
end Dataflow
