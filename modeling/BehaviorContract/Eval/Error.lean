namespace BehaviorContract

inductive EvalError where
  | unbound (name : String)
  | noMember (property kind : String)
  | unknownEntity (name : String)
  | missingSnapshot
  | mismatch (operator left right : String)
  | divisionByZero
  | overflow (operator : String)
  | unknownFunction (name : String)
  | arity (function expected : String) (found : Nat)
  | notBoolean (kind : String)
  deriving DecidableEq

def EvalError.message : EvalError → String
  | .unbound name => s!"unbound identifier '{name}'"
  | .noMember property kind => s!"cannot access member '{property}' on {kind}"
  | .unknownEntity name => s!"unknown entity '{name}'"
  | .missingSnapshot => "old() requires a pre-execution snapshot, none was taken"
  | .mismatch operator left right => s!"type mismatch in '{operator}': {left} and {right}"
  | .divisionByZero => "division by zero"
  | .overflow operator => s!"integer overflow in '{operator}'"
  | .unknownFunction name => s!"unknown function '{name}'"
  | .arity function expected found =>
      s!"'{function}' expects {expected} argument(s), found {found}"
  | .notBoolean kind => s!"clause evaluated to {kind}, expected Boolean"

abbrev Evaluated := Except EvalError

end BehaviorContract
