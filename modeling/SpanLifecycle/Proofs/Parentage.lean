import SpanLifecycle.Proofs.EvolvesServices
import SpanLifecycle.Proofs.TraceParent

/-!
# Where the parent of a span comes from

The parent of a new span is what the headers of its request say, whatever span is current when it
starts.  With an acceptable parent the span stays in its trace, and the ids of the header show again
digit for digit; without one it is a root, with a trace of its own.  Of all spans that are started in
a run, no two have the same span id, and no two roots the same trace id.
-/

namespace SpanLifecycle

/-- The headers name a parent, with these parts. -/
def Headers.Names (headers : Headers) (p : TraceParent.Parts) : Prop :=
  ∃ header, headers.get? "traceparent" = some header ∧ TraceParent.Accepts header p

/-- The trace state that is handed on with a parent. -/
def Headers.traceState (headers : Headers) : TraceState :=
  ((headers.get? "tracestate").map TraceState.read).getD []

namespace SpanContext

variable {headers : Headers}

/-- A parent that is named shows as the header does. -/
theorem ofHeaders?_of_names {p : TraceParent.Parts} (h : headers.Names p) :
    ∃ c, ofHeaders? headers = some c ∧ c.traceText = String.ofList p.traceId ∧
      c.spanText = String.ofList p.spanId ∧ Hex.render 2 c.flags = String.ofList p.flags ∧
      c.state = headers.traceState := by
  obtain ⟨header, hget, haccepts⟩ := h
  obtain ⟨c, hread, htrace, hspan, hflags, -⟩ := haccepts.read?
  refine ⟨{ c with state := headers.traceState }, ?_, htrace, hspan, hflags, rfl⟩
  unfold ofHeaders?
  rw [hget]
  simp only [bind, Option.bind_some, hread]
  rfl

theorem ofHeaders?_eq_none_iff : ofHeaders? headers = none ↔ ¬∃ p, headers.Names p := by
  constructor
  · rintro hnone ⟨p, hp⟩
    obtain ⟨c, hc, -⟩ := ofHeaders?_of_names hp
    rw [hnone] at hc
    cases hc
  · intro hunnamed
    unfold ofHeaders?
    cases hget : headers.get? "traceparent" with
    | none => rfl
    | some header =>
      cases hread : TraceParent.read? header with
      | none => simp only [bind, Option.bind_some, hread, Option.bind_none]
      | some c =>
        obtain ⟨p, hp⟩ := TraceParent.accepts_iff.mpr (Option.isSome_of_eq_some hread)
        exact absurd ⟨p, header, hget, hp⟩ hunnamed

end SpanContext

/-! ## A new span -/

/-- A span is what a request demands that has these headers, where the given numbers of traces and
spans have been started before. -/
structure Span.IsDemanded (headers : Headers) (name method path : String)
    (traceCount spanCount : Nat) (s : Span) : Prop where
  name : s.name = name
  kind : s.kind = .server
  tags : s.tags = [(httpMethod, method), (httpPath, path)]
  spanId : s.context.spanId = spanCount + 1
  isRoot : s.parent = none ↔ ¬∃ p, headers.Names p
  root : s.parent = none →
    s.context = { traceId := traceCount + 1, spanId := spanCount + 1, flags := 1 }
  child : ∀ p, headers.Names p → s.context.traceText = String.ofList p.traceId ∧
    s.parentText? = some (String.ofList p.spanId) ∧
    (∃ flags, Hex.render 2 flags = String.ofList p.flags ∧ s.context.flags = flags % 4) ∧
    s.context.state = headers.traceState

namespace Tracer

variable {w w' : World}

/-- A new span on the recording backend. -/
theorem born_recording (hb : w.backend = .recording) (headers : Headers)
    (name method path : String) :
    let parent := SpanContext.ofHeaders? headers
    let context := newContext w parent
    born headers name method path w =
      (({ name, kind := .server, context, parent := parent.map (·.spanId)
          recording := context.isSampled } : Span).tag httpMethod method).tag httpPath path := by
  unfold born newSpan
  rw [hb]

/-- It depends on nothing else in the world but on the numbers of traces and spans. -/
theorem born_congr (hb : w.backend = .recording) (hb' : w'.backend = .recording)
    (htraces : w'.traceCount = w.traceCount) (hspans : w'.spanCount = w.spanCount)
    (headers : Headers) (name method path : String) :
    born headers name method path w' = born headers name method path w := by
  have hcontext : newContext w' = newContext w := by
    funext parent
    unfold newContext
    rw [htraces, hspans]
  rw [born_recording hb, born_recording hb', hcontext]

theorem born_isDemanded (hb : w.backend = .recording) (headers : Headers)
    (name method path : String) :
    (born headers name method path w).IsDemanded headers name method path w.traceCount
      w.spanCount := by
  rw [born_recording hb]
  cases hparent : SpanContext.ofHeaders? headers with
  | none =>
    have hunnamed := SpanContext.ofHeaders?_eq_none_iff.mp hparent
    exact {
      name := rfl, kind := rfl, tags := rfl, spanId := rfl
      isRoot := iff_of_true rfl hunnamed
      root := fun _ => rfl
      child := fun p hp => absurd ⟨p, hp⟩ hunnamed }
  | some c =>
    have hnamed : ¬¬∃ p, headers.Names p := fun hunnamed => by
      rw [SpanContext.ofHeaders?_eq_none_iff.mpr hunnamed] at hparent
      cases hparent
    refine {
      name := rfl, kind := rfl, tags := rfl, spanId := rfl
      isRoot := iff_of_false nofun hnamed
      root := nofun
      child := fun p hp => ?_ }
    obtain ⟨c', hc', htrace, hspan, hflags, hstate⟩ := SpanContext.ofHeaders?_of_names hp
    rw [hparent] at hc'
    cases hc'
    exact ⟨htrace, congrArg some hspan, ⟨c.flags, hflags, rfl⟩, hstate⟩

end Tracer

/-! ## All spans of a run -/

/-- The spans that were started from one world to another have distinct span ids, and the roots among
them distinct trace ids. -/
structure World.StartsApart (w w' : World) : Prop where
  spanIds : ((w'.spans.drop w.spans.length).map (·.context.spanId)).Nodup
  traceIds : (((w'.spans.drop w.spans.length).filter (·.isRoot)).map (·.context.traceId)).Nodup

/-- Spans that are numbered in turn have distinct numbers. -/
theorem World.Evolves.startsApart {w w' : World} (h : w.Evolves w') (hb : w.backend = .recording) :
    w.StartsApart w' := by
  obtain ⟨new, hnew, hnumbers⟩ := h.started
  obtain ⟨hspanIds, -, htraceIds, -⟩ := hnumbers hb
  have hdrop : (w'.spans.drop w.spans.length).map (·.identity) = new := by
    have hlength : w.identities.length = w.spans.length := List.length_map ..
    rw [List.map_drop, ← hlength]
    show w'.identities.drop _ = _
    rw [hnew, List.drop_left]
  rw [← hdrop] at hspanIds htraceIds
  constructor
  · rw [List.map_map] at hspanIds
    exact hspanIds ▸ List.nodup_range'
  · rw [List.filter_map, List.map_map] at htraceIds
    exact htraceIds ▸ List.nodup_range'

/-! ## Main statement -/

/-- The span that a start makes is determined by the headers, the name, the method and the path, and
by how many traces and spans have been started before: not by the span that is current, nor by
anything else in the world.  It is a root exactly if the headers name no acceptable parent; otherwise
its trace and its parent show as the digits of the header.  And all spans that a program starts, or a
session with a service, have ids of their own. -/
theorem parent_comes_from_headers :
    (∀ (headers : Headers) (name method path : String) (traceCount spanCount : Nat),
      ∃ s : Span, s.IsDemanded headers name method path traceCount spanCount ∧
        ∀ w : World, w.backend = .recording → w.failures.create = none →
          w.traceCount = traceCount → w.spanCount = spanCount →
          ∃ v, (Tracer.start headers name method path).runIn w = (.ok w.spans.length, v) ∧
            v.spans = w.spans ++ [s]) ∧
    (∀ (r : RequestName) (status : Int) (actions : List Action) (w : World), w.Grounded →
      w.backend = .recording → w.StartsApart (runActions r status actions w).world) ∧
    ∀ (ε : Type) (endpoints : ε → Handler) (steps : List (ServiceStep ε)) (t : ServiceSession ε),
      t.world.Grounded → t.world.backend = .recording →
      (∀ e, (endpoints e).NamesBelow t.world.spans.length) →
      ServiceStep.AllNameBelow t.world.spans.length steps →
      t.world.StartsApart (t.run (fun e => (endpoints e).app) steps).2.world := by
  refine ⟨fun headers name method path traceCount spanCount => ?_, ?_, ?_⟩
  · let w₀ : World := { traceCount, spanCount }
    refine ⟨Tracer.born headers name method path w₀,
      Tracer.born_isDemanded (w := w₀) rfl headers name method path,
      fun w hb hf htraces hspans => ⟨_, Tracer.start_runIn hf headers name method path, ?_⟩⟩
    rw [← Tracer.born_congr (w := w₀) rfl hb htraces hspans headers name method path]
    exact World.log_spans (Tracer.bearing headers name method path w) Tracer.logger _
  · exact fun r status actions w hw hb => (runActions_evolves r status actions hw).startsApart hb
  · intro ε endpoints steps t ht hb hendpoints hsteps
    exact (ServiceSession.run_evolves (fun e => (endpoints e).app_evolves (hendpoints e)) steps t ht
      (Nat.le_refl _) hsteps).startsApart hb

/-! A request that names a parent and a state, as another span is current. -/

def remoteParent : TraceParent.Parts where
  version := "00".toList
  traceId := "0af7651916cd43dd8448eb211c80319c".toList
  spanId := "00f067aa0ba902b7".toList
  flags := "03".toList
  rest := []

def remoteHeaders : Headers :=
  [("traceparent", "00-0af7651916cd43dd8448eb211c80319c-00f067aa0ba902b7-03"),
    ("tracestate", "rojo=1,congo=2")]

/-- A root is started and made current, and a second one is started. -/
def ambientActions : List Action :=
  [.start [] "outer" "GET" "/outer", .attach 0, .start [] "other" "GET" "/other"]

theorem remoteHeaders_names : remoteHeaders.Names remoteParent := by
  refine ⟨_, rfl, ?_⟩
  exact {
    short := by decide +kernel
    text := ⟨[], by decide +kernel, nofun⟩
    version := TraceParent.isField_iff.mpr ⟨0, by decide +kernel, by decide +kernel⟩
    traceId := TraceParent.isField_iff.mpr
      ⟨0x0af7651916cd43dd8448eb211c80319c, by decide +kernel, by decide +kernel⟩
    spanId := TraceParent.isField_iff.mpr ⟨0x00f067aa0ba902b7, by decide +kernel, by decide +kernel⟩
    flags := TraceParent.isField_iff.mpr ⟨3, by decide +kernel, by decide +kernel⟩
    traced := by decide +kernel
    spanned := by decide +kernel
    unreserved := by decide +kernel
    rest := .inl ⟨[], [], rfl, nofun, .inl rfl⟩ }

theorem remoteParent_kept :
    let ambient := (runActions outerRequest 0 ambientActions {}).world
    World.StartsApart {} ambient ∧ ambient.current = some 0 ∧
    ∃ s v, (Tracer.start remoteHeaders "http:/" "GET" "/").runIn ambient = (.ok 2, v) ∧
      v.spans = ambient.spans ++ [s] ∧
      s.context.traceText = "0af7651916cd43dd8448eb211c80319c" ∧
      s.parentText? = some "00f067aa0ba902b7" ∧ s.context.spanId = 3 := by
  intro ambient
  obtain ⟨hstart, hrun, -⟩ := parent_comes_from_headers
  obtain ⟨s, hs, hall⟩ := hstart remoteHeaders "http:/" "GET" "/" 2 2
  have hgrounded : World.Grounded {} := .of_untouched rfl rfl rfl
  have hbackend : ambient.backend = .recording := by decide +kernel
  obtain ⟨v, hv, hspans⟩ := hall ambient hbackend rfl (by decide +kernel) (by decide +kernel)
  obtain ⟨htrace, hparent, -⟩ := hs.child remoteParent remoteHeaders_names
  exact ⟨hrun _ _ ambientActions {} hgrounded rfl, by decide +kernel, s, v, hv, hspans,
    htrace.trans (by decide +kernel), hparent.trans (by decide +kernel), hs.spanId⟩

end SpanLifecycle
