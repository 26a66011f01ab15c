import SpanLifecycle.Proofs.EvolvesServices

/-!
# Log lines

No log line mixes two spans.  Whatever programs do with scopes, even where they leak them or close
them out of order, and whatever requests a service is sent, each record that is logged on the way
either has both ids of one span that was started, or has no span id (`log_lines_name_one_span`).
The running context may add the path and the method of a request to every record, and nothing else.
-/

namespace SpanLifecycle

/-- The journal has gone on from one world to another, and each record in what was added names one
span, if any. -/
def World.LogsApart (w w' : World) : Prop :=
  ∃ entries, w'.journal = w.journal ++ entries ∧
    ∀ r, Entry.log r ∈ entries → r.NamesOneOf w'.contexts

/-- Every record that a program logs, or a session with a service, has a trace id if it has a span
id, and then both are the ids of one span. -/
theorem log_lines_name_one_span :
    (∀ (r : RequestName) (status : Int) (actions : List Action) (w : World), w.Grounded →
      w.contextFields.IsPlain → w.LogsApart (runActions r status actions w).world) ∧
    ∀ (ε : Type) (endpoints : ε → Handler) (steps : List (ServiceStep ε)) (t : ServiceSession ε),
      t.world.Grounded → t.world.contextFields.IsPlain →
      (∀ e, (endpoints e).NamesBelow t.world.spans.length) →
      ServiceStep.AllNameBelow t.world.spans.length steps →
      t.world.LogsApart (t.run (fun e => (endpoints e).app) steps).2.world := by
  constructor
  · exact fun r status actions w hw hplain =>
      ((runActions_evolves r status actions hw).logged hplain).2
  · intro ε endpoints steps t ht hplain hendpoints hsteps
    exact ((ServiceSession.run_evolves (fun e => (endpoints e).app_evolves (hendpoints e)) steps t ht
      (Nat.le_refl _) hsteps).logged hplain).2

/-! A pass that goes on with a span while another one is current logs only the trace id of its own. -/

/-- The ids of the records of an event, as they show. -/
def World.idsAt (event : String) (w : World) : List (Option String × Option String) :=
  w.records.filterMap fun r =>
    let shown (key : String) := match Mapping.get? r key with
      | some (.text s) => some s
      | _ => none
    if shown "event" = some event then some (shown "trace_id", shown "span_id") else none

/-- Everything is logged. -/
def verbose : World := { logs := { installed := true, threshold := 0, service := some "shop" } }

/-- A pass over a request to the front page. -/
def frontPage (request : RequestName) (status : Int) : Exchange :=
  { method := "GET", path := "/", headers := [], request, status }

/-- Another span is made current, and the request of this one is passed over once more. -/
def leaking (request : RequestName) : List Action :=
  [.start [] "other" "GET" "/other", .activate 1 "leaked",
    .handle (frontPage request 200) "c" false [.close "leaked", .attach 1]]

/-- A service with one page, which does so. -/
def leakyService : ServiceSession Unit where
  service := { routes := [.endpoint "/" [.literal '/'] [] (.own ())] }
  world := verbose

theorem leaking_logs_apart :
    let first : List Action := [.handle (frontPage outerRequest 0) "c" false (leaking outerRequest)]
    let v := (runActions outerRequest 0 first verbose).world
    let u := (leakyService.run (fun _ => (Handler.program (leaking (.numbered 0)) (.text "")).app)
      [.lifespan [.request { path := "/" }]]).2.world
    (verbose.LogsApart v ∧ v.idsAt "span_reused" =
      [(some "00000000000000000000000000000001", some "0000000000000001")]) ∧
    verbose.LogsApart u ∧ u.idsAt "span_reused" =
      [(some "00000000000000000000000000000001", some "0000000000000001")] := by
  intro first v u
  obtain ⟨hprogram, hsession⟩ := log_lines_name_one_span
  have hgrounded : verbose.Grounded := .of_untouched rfl rfl rfl
  refine ⟨⟨hprogram outerRequest 0 first verbose hgrounded nofun, by decide +kernel⟩,
    hsession Unit (fun _ => .program (leaking (.numbered 0)) (.text "")) _ leakyService hgrounded nofun
      (fun _ => trivial) ⟨⟨nofun, trivial⟩, trivial⟩, by decide +kernel⟩

end SpanLifecycle
