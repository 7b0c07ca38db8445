import BehaviorContract.Store.Basic

namespace BehaviorContract

inductive Failure where
  | invalidDomain (reason : String)
  | unknownBehavior (name : String)
  | setup (reason : String)
  | cancelled
  | invalidSettings (reason : String)
  | store (error : StoreError)
  deriving DecidableEq

namespace Failure

def message : Failure → String
  | .invalidDomain reason => "invalid domain: " ++ reason
  | .unknownBehavior name => "behavior '" ++ name ++ "' not found in domain"
  | .setup reason => "implementation setup failed: " ++ reason
  | .cancelled => "trial cancelled before execution"
  | .invalidSettings reason => "invalid configuration: " ++ reason
  | .store error => "entity store error: " ++ error.message

def duringSetup : Failure → Failure
  | .setup reason => .setup reason
  | other => .setup other.message

end Failure

end BehaviorContract
