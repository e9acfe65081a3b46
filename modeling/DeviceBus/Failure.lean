/-! # What can go wrong between a client and the backend

Argument and state errors are decided by the facade itself; errors of the
backend and of a message handler are passed on with their own text.
-/

namespace DeviceBus

/-- Errors of a backend. -/
inductive BackendError where
  | invalidUrl (url : String)
  | unsupportedScheme (scheme : String)
  | connect (reason : String)
  | publish (topic reason : String)
  | subscribe (topic reason : String)
  | unsubscribe (reason : String)
  | unknownSubscription (handle : Nat)
  | closed
  deriving DecidableEq

def BackendError.message : BackendError → String
  | .invalidUrl url => "invalid broker URL `" ++ url ++ "`"
  | .unsupportedScheme scheme => "unsupported broker scheme `" ++ scheme ++ "`"
  | .connect reason => "failed to connect to broker: " ++ reason
  | .publish topic reason => "failed to publish to `" ++ topic ++ "`: " ++ reason
  | .subscribe topic reason => "failed to subscribe to `" ++ topic ++ "`: " ++ reason
  | .unsubscribe reason => "failed to unsubscribe: " ++ reason
  | .unknownSubscription handle => "unknown subscription handle " ++ toString handle
  | .closed => "connection closed"

/-- Errors of a message handler. -/
inductive HandlerError where
  | closed
  | failed (reason : String)
  deriving DecidableEq

def HandlerError.message : HandlerError → String
  | .closed => "handler closed"
  | .failed reason => reason

/-- Errors of the publish/subscribe facade. -/
inductive FacadeError where
  | emptyTopic
  | emptyId
  | alreadySubscribed
  | notSubscribed
  | backend (error : BackendError)
  | handler (error : HandlerError)
  deriving DecidableEq

def FacadeError.message : FacadeError → String
  | .emptyTopic => "empty topic"
  | .emptyId => "empty ID"
  | .alreadySubscribed => "already subscribed to topic"
  | .notSubscribed => "not subscribed"
  | .backend error => error.message
  | .handler error => "handler: " ++ error.message

end DeviceBus
