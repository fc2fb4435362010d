import AppSurvey.Value

/-!
# Failures of the store

What can go wrong in asking the store, with what is known about it. A failure has a message of its
own unless one is given.
-/

namespace AppSurvey.Store

/-- A failure in asking the store. -/
inductive StoreError where
  /-- Any failure without more detail. -/
  | general
  | appNotFound (appId : Value) (message : Option Value := none)
  | rateLimit (retryAfter : Value) (message : Option Value := none)
  | parse (message : Value) (snippet : Value := .null)
  | network (url : Value) (status : Value := .null) (message : Option Value := none)
  | validation (field value : Value) (message : Option Value := none)
  | timeout (operation limit : Value)

namespace StoreError

/-- The seconds to wait where the store does not say. -/
def defaultRetryAfter : Nat := 60

/-- The message that a failure has when none is given. -/
def defaultMessage : StoreError → String
  | .general => ""
  | .appNotFound appId _ => s!"App not found: {appId.text}"
  | .rateLimit retryAfter _ => s!"Rate limit exceeded. Retry after {retryAfter.text} seconds."
  | .parse message _ => message.text
  | .network url status _ =>
      if status.isTruthy then s!"Network error {status.text} for URL: {url.text}"
      else s!"Network error for URL: {url.text}"
  | .validation field value _ => s!"Validation failed for field '{field.text}': {value.text}"
  | .timeout operation limit =>
      s!"Operation '{operation.text}' timed out after {limit.text} seconds"

/-- The message that was given. -/
def givenMessage? : StoreError → Option Value
  | .appNotFound _ message => message
  | .rateLimit _ message => message
  | .network _ _ message => message
  | .validation _ _ message => message
  | _ => none

/-- The message of a failure. -/
def message (error : StoreError) : String :=
  match error.givenMessage? with
  | some given => given.text
  | none => error.defaultMessage

end StoreError

end AppSurvey.Store
