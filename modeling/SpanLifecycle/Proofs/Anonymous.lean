import SpanLifecycle.Service.Session

/-!
# What shows of a request but for its ids

The trace and the span ids of a request depend on what was traced before it.  `anonymous` takes them
out of everything in which a request can show: the spans it exports, the messages it sends, the
attributes it leaves.  Of an id remains whether it is zero, since a span without valid ids is never
current; the ids of a remote parent are the request's own and remain.
-/

namespace SpanLifecycle

/-! ## Spans -/

/-- A context without its ids: each of them is one, if it is not zero. -/
def SpanContext.anonymous (c : SpanContext) : SpanContext :=
  { c with traceId := min c.traceId 1, spanId := min c.spanId 1 }

theorem SpanContext.isValid_anonymous (c : SpanContext) : c.anonymous.isValid = c.isValid := by
  have hmin : ∀ id : Nat, (min id 1 != 0) = (id != 0) := by
    intro id
    rcases Nat.eq_zero_or_pos id with rfl | h
    · rfl
    · rw [Nat.min_eq_right h]
      exact (bne_iff_ne.mpr (Nat.ne_of_gt h)).symm
  unfold isValid anonymous
  rw [hmin, hmin]

/-- A span without its ids. -/
def Span.anonymous (s : Span) : Span := { s with context := s.context.anonymous }

/-- An exported span without its ids. -/
def ExportedSpan.anonymous (s : ExportedSpan) : ExportedSpan :=
  { s with context := s.context.anonymous }

namespace Span

variable {s t : Span}

/-- A change that has nothing to do with ids. -/
def Impersonal (f : Span → Span) : Prop := ∀ s, (f s).anonymous = f s.anonymous

theorem Impersonal.anonymous_eq {f : Span → Span} (h : Impersonal f)
    (hs : s.anonymous = t.anonymous) : (f s).anonymous = (f t).anonymous := by
  rw [h s, h t, hs]

theorem tag_impersonal (key value : String) : Impersonal (·.tag key value) := fun _ => rfl

theorem finish_impersonal : Impersonal finish := fun _ => rfl

theorem abandon_impersonal : Impersonal fun s => { s with state := .abandoned } := fun _ => rfl

theorem report_impersonal (status : Int) (cause : Option Attribute) :
    Impersonal (·.report status cause) := by
  have hfault : ∀ e, Impersonal (·.recordFault e) := by
    intro e s
    show (s.recordFault e).anonymous = s.anonymous.recordFault e
    unfold recordFault
    by_cases h : s.recording = true
    · rw [if_pos h, if_pos (show s.anonymous.recording = true from h)]
      rfl
    · rw [if_neg h, if_neg (show ¬ s.anonymous.recording = true from h)]
  have hfailed : Impersonal markFailed := by
    intro s
    show s.markFailed.anonymous = s.anonymous.markFailed
    unfold markFailed
    by_cases h : s.recording = true
    · rw [if_pos h, if_pos (show s.anonymous.recording = true from h)]
      rfl
    · rw [if_neg h, if_neg (show ¬ s.anonymous.recording = true from h)]
  intro s
  show (s.report status cause).anonymous = s.anonymous.report status cause
  have htail : ∀ t : Span,
      (if status ≠ 0 ∧ ¬isSuccessfulStatus status then
        let t := t.tag httpStatusCode (toString status)
        if cause.isNone ∧ 500 ≤ status then t.markFailed else t
      else t).anonymous =
      (if status ≠ 0 ∧ ¬isSuccessfulStatus status then
        let t := t.anonymous.tag httpStatusCode (toString status)
        if cause.isNone ∧ 500 ≤ status then t.markFailed else t
      else t.anonymous) := by
    intro t
    dsimp only
    split
    · split
      · exact hfailed _
      · rfl
    · rfl
  unfold report
  rcases cause with _ | (_ | _ | e | _)
  case some.fault => exact (htail _).trans (by rw [hfault e s])
  all_goals exact htail s

/-! What tracing asks of a span does not depend on its ids. -/

theorem state_eq (h : s.anonymous = t.anonymous) : s.state = t.state :=
  (congrArg Span.state h :)

theorem recording_eq (h : s.anonymous = t.anonymous) : s.recording = t.recording :=
  (congrArg Span.recording h :)

theorem isRoot_eq (h : s.anonymous = t.anonymous) : s.isRoot = t.isRoot :=
  (congrArg Span.isRoot h :)

theorem isValid_eq (h : s.anonymous = t.anonymous) : s.context.isValid = t.context.isValid := by
  rw [← s.context.isValid_anonymous, ← t.context.isValid_anonymous]
  exact (congrArg (fun u : Span => u.context.isValid) h :)

theorem toExported_eq (h : s.anonymous = t.anonymous) :
    s.toExported.anonymous = t.toExported.anonymous :=
  (congrArg Span.toExported h :)

end Span

/-! ## Answers -/

/-- What is seen of an attribute, without ids. -/
def AttributeView.anonymous : AttributeView → AttributeView
  | span context s => .span context.anonymous s
  | view => view

/-- What is seen of attributes, without ids. -/
def anonymousViews (m : Mapping String AttributeView) : Mapping String AttributeView :=
  m.map fun entry => (entry.1, entry.2.anonymous)

mutual

/-- An answer without ids; of a span's id remains that there is one. -/
def Answer.anonymous : Answer → Answer
  | .spanText id => .spanText (id.map fun _ => "")
  | .span s => .span s.anonymous
  | .attribute a => .attribute (a.map AttributeView.anonymous)
  | .attributes m => .attributes (anonymousViews m)
  | .attempted results caught => .attempted (anonymousAnswers results) caught
  | .during results closed => .during (anonymousAnswers results) closed
  | .handled results status raised => .handled (anonymousAnswers results) status raised
  | answer => answer

/-- Answers without ids. -/
def anonymousAnswers : List Answer → List Answer
  | [] => []
  | a :: rest => a.anonymous :: anonymousAnswers rest

end

/-! ## Messages -/

/-- What an endpoint saw, without ids. -/
def Seen.anonymous : Seen → Seen
  | answer a => .answer a.anonymous
  | seen => seen

theorem Seen.isBounded_anonymous (x : Seen) : x.anonymous.isBounded = x.isBounded := by
  cases x with
  | errorPass _ | address _ _ => rfl
  | answer a =>
    cases a <;> try rfl
    · rename_i a
      rcases a with _ | (_ | _ | _ | _) <;> rfl
    · rename_i m
      show (anonymousViews m).all _ = m.all _
      unfold anonymousViews
      rw [List.all_map]
      refine congrArg m.all (funext fun entry => ?_)
      obtain ⟨_, _ | _ | _ | _⟩ := entry <;> rfl

/-- A piece of a body without ids. -/
def Body.anonymous : Body → Body
  | seen items => .seen (items.map Seen.anonymous)
  | body => body

/-- A message without ids. -/
def Message.anonymous : Message → Message
  | start status => .start status
  | body b => .body b.anonymous

theorem Message.statuses_anonymous (sent : List Message) :
    statuses (sent.map anonymous) = statuses sent := by
  unfold statuses
  rw [List.filterMap_map]
  refine congrArg (List.filterMap · sent) (funext fun m => ?_)
  cases m <;> rfl

/-- A reply without ids. -/
def HttpReply.anonymous (r : HttpReply) : HttpReply :=
  { sent := r.sent.map Message.anonymous, raised := r.raised, state := anonymousViews r.state }

end SpanLifecycle
