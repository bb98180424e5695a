import FlowRunner.Action.Fault
import FlowRunner.Log.Level
import FlowRunner.Redaction
import FlowRunner.Run.Result

/-!
This module contains what happens during a run that is logged or counted.
-/

namespace FlowRunner.Run

inductive Event where
  | actionStarted (stepId : String) (actionType : Value) (config : Entries)
  | actionCompleted (stepId : String) (actionType : Value)
  | actionFailed (stepId : String) (actionType : Value) (error : String)
  | containerFailed (stepId : String) (actionType : Value) (error : String)
  | reportFailed (stepId : String) (fault : Fault)
  deriving Repr

namespace Event

def level : Event → Log.Level
  | .actionStarted .. => .info
  | .actionCompleted .. => .info
  | _ => .warning

def text : Event → String
  | .actionStarted stepId actionType config =>
    "Step " ++ stepId ++ ": action=" ++ actionType.text ++ " config=" ++
      (Redaction.forLog (.dict config)).text
  | .actionCompleted stepId _ => "Step " ++ stepId ++ " completed"
  | .actionFailed stepId _ error => "Step " ++ stepId ++ " failed: " ++ error
  | .containerFailed stepId actionType error =>
    "Step " ++ stepId ++ " (" ++ actionType.text ++ ") failed: " ++ error
  | .reportFailed stepId fault =>
    "Step " ++ stepId ++ ": progress callback failed: " ++ fault.message

def ended? : Event → Option (Value × Status)
  | .actionCompleted _ actionType => some (actionType, .completed)
  | .actionFailed _ actionType _ => some (actionType, .failed)
  | _ => none

end Event

end FlowRunner.Run
