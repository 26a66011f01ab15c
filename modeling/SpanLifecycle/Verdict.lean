/-!
# The verdict on a span

When a pass over a request ends, its span is finalized, abandoned, or left to another code path.
`decide` reads that off a snapshot of the pass by a table of rules of which the first match
wins.  The table performs nothing; the pass applies the verdict.
-/

namespace SpanLifecycle

/-- What becomes of a span at the end of a pass. -/
inductive Verdict where
  | finalize
  | abandon
  | defer
  deriving Repr, DecidableEq, Inhabited

/-- The verdict as logs show it. -/
def Verdict.label : Verdict → String
  | finalize => "FINALIZE"
  | abandon => "ABANDON"
  | defer => "DEFER"

/-- A response counts as successful from 200 up to 399; 0 says that no status was set. -/
def isSuccessfulStatus (status : Int) : Bool := 200 ≤ status && status < 400

/-- The snapshot of a pass that a verdict depends on. -/
structure Outcome where
  status : Int
  asyncStarted : Bool := false
  alreadyFinalized : Bool := false
  errorHandled : Bool := false
  shouldClose : Bool := false
  hasErrorHandler : Bool := false
  /-- The span is still the one that is current. -/
  stillCurrent : Bool := true
  rootSpan : Bool := false
  spanWithoutParent : Bool := false
  hasException : Bool := false
  deriving Repr, DecidableEq, Inhabited

/-- The rule of the table that matched. -/
inductive Reason where
  | asyncStarted
  | errorHandlerWillRedispatch
  | responseSuccessful
  | errorAlreadyHandled
  | closeRequested
  | rootSpan
  | responseUnsuccessful
  | handedToErrorHandler
  deriving Repr, DecidableEq, Inhabited

/-- The reason as logs show it. -/
def Reason.label : Reason → String
  | asyncStarted => "async_started"
  | errorHandlerWillRedispatch => "error_handler_will_redispatch"
  | responseSuccessful => "response_successful"
  | errorAlreadyHandled => "error_already_handled"
  | closeRequested => "close_requested"
  | rootSpan => "root_span"
  | responseUnsuccessful => "response_unsuccessful"
  | handedToErrorHandler => "handed_to_error_handler"

/-- A verdict, with what else the pass has to do about the span. -/
structure Decision where
  verdict : Verdict
  /-- The request forgets its active span. -/
  clearActiveSpan : Bool := false
  /-- The span gets the response status as a tag. -/
  tagStatus : Bool := false
  reason : Reason
  deriving Repr, DecidableEq, Inhabited

namespace Outcome

/-- The response was a success. -/
def successful (o : Outcome) : Bool := isSuccessfulStatus o.status

/-- Only a span that started without a parent carries the status of a response, and only when
nothing was raised. -/
def shouldTagStatus (o : Outcome) : Bool :=
  !o.hasException && o.spanWithoutParent && 100 ≤ o.status

/-- The table, of which the first matching rule wins:

1. once asynchronous, the continuation owns completion;
2. a success not finalized before is finalized and cleared, unless a pending exception will be
   dispatched to an error handler;
3. after the error pass the span is left alone unless a close was requested;
4. a close request, or a root span, finalizes a span that is still current;
5. otherwise the span is finalized, or abandoned when an exception goes to an error handler. -/
def decide (o : Outcome) : Decision :=
  if o.asyncStarted then { verdict := .defer, reason := .asyncStarted }
  else
    let tag := o.shouldTagStatus
    if o.successful && !o.alreadyFinalized then
      if o.hasException && o.hasErrorHandler then
        { verdict := .defer, tagStatus := tag, reason := .errorHandlerWillRedispatch }
      else
        { verdict := .finalize, clearActiveSpan := true, tagStatus := tag
          reason := .responseSuccessful }
    else if o.errorHandled && !o.shouldClose then
      { verdict := .defer, tagStatus := tag, reason := .errorAlreadyHandled }
    else if (o.shouldClose || o.rootSpan) && o.stillCurrent then
      { verdict := .finalize, clearActiveSpan := o.shouldClose, tagStatus := tag
        reason := if o.shouldClose then .closeRequested else .rootSpan }
    else if !o.hasErrorHandler then
      { verdict := .finalize, clearActiveSpan := true, tagStatus := tag
        reason := .responseUnsuccessful }
    else if o.hasException then
      { verdict := .abandon, tagStatus := tag, reason := .handedToErrorHandler }
    else
      { verdict := .finalize, tagStatus := tag, reason := .responseUnsuccessful }

end Outcome

end SpanLifecycle
