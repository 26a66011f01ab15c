import SpanLifecycle.Proofs.Current
import SpanLifecycle.Proofs.Passes

/-!
# How a pass opens

A pass whose chain starts gives its request a span (`chainStart?_begins`) or goes on with the one
that it has (`chainStart?_resumes`), and then runs the chain as a normal or as an error pass
(`handle_started`).  One whose chain does not start does next to nothing (`handle_refused`).
-/

namespace SpanLifecycle

/-! ## Standing -/

/-- The active span is the old one or none, what is asynchronous stays so, and what counts as
finalized is the same. -/
structure Attributes.Keeps (m m' : Attributes) : Prop where
  active : m'.activeSpan = m.activeSpan ∨ m'.activeSpan = none
  async : m.isAsyncStarted = true → m'.isAsyncStarted = true
  final : m'.isAlreadyFinalized = m.isAlreadyFinalized

namespace Attributes.Keeps

variable {m m' m'' : Attributes}

theorem refl (m : Attributes) : m.Keeps m := ⟨.inl rfl, id, rfl⟩

theorem trans (h : m.Keeps m') (g : m'.Keeps m'') : m.Keeps m'' where
  active := g.active.elim (fun hg => h.active.imp hg.trans hg.trans) .inr
  async := g.async ∘ h.async
  final := g.final.trans h.final

theorem markSpanContinued (m : Attributes) : m.Keeps m.markSpanContinued where
  active := .inl m.markSpanContinued_activeSpan
  async h := m.markSpanContinued_isAsyncStarted.trans h
  final := by
    unfold Attributes.markSpanContinued
    split <;> simp

theorem noted (raised : Option Fault) (m : Attributes) :
    m.Keeps (Pass.notedAttributes raised m) where
  active := .inl (Pass.notedAttributes_activeSpan raised m)
  async h := (Pass.notedAttributes_isAsyncStarted raised m).trans h
  final := by
    unfold Pass.notedAttributes
    split <;> simp

end Attributes.Keeps

/-! ## Opening -/

namespace Pass

/-- A pass without a span has nothing to conclude, and asks nobody. -/
theorem concludeNone_becomes (c : String) (r : RequestName) (status : Int)
    (failure : Option Fault) (w : World) :
    ∃ u, (conclude c r status none failure).runIn w = (.ok (), u) ∧
      u.coordinators = w.coordinators ∧
      ∀ j, Becomes r j w u { span := w.span j, attributes := w.attributes r } := by
  unfold conclude
  cases h : (w.attributes r).isAsyncStarted with
  | true =>
    simp only [Act.runIn_bind, Act.runIn_get, h, if_true, Act.runIn_modify]
    exact ⟨_, rfl, w.log_coordinators logger _, fun j => .log r j w logger _⟩
  | false =>
    simp only [Act.runIn_bind, Act.runIn_get, h, Bool.false_eq_true, if_false, Act.runIn_pure]
    exact ⟨w, rfl, rfl, fun j => .refl r j w⟩

theorem noteFailure_coordinators (x : Exchange) (raised : Option Fault) (w : World) :
    (noteFailure x raised w).coordinators = w.coordinators := by
  unfold noteFailure
  split
  · split
    · exact w.log_coordinators logger _
    · rfl
  · rfl

end Pass

namespace Exchange

open Pass

variable {x : Exchange} {c : String} {w v : World}

/-- Whether a pass over an exchange is an error pass: the request brings its span along, and was
unsuccessful from the start. -/
def isErrorPass (x : Exchange) (w : World) : Bool :=
  (Attribute.present? (w.attributes x.request).activeSpan).isSome && !isSuccessfulStatus x.status

/-- A pass whose chain starts finds a span under the active-span key, or nothing. -/
theorem chainStart?_active {a : Attribute} (h : x.chainStart? c w = some v)
    (ha : Attribute.present? (w.attributes x.request).activeSpan = some a) : ∃ id, a = .span id := by
  unfold chainStart? at h
  dsimp only at h
  rw [World.attributes_openRequest, ha] at h
  cases a with
  | span id => exact ⟨id, rfl⟩
  | _ => cases h

/-- A request without a span is given one before its chain. -/
theorem chainStart?_begins (h : x.chainStart? c w = some v)
    (ha : Attribute.present? (w.attributes x.request).activeSpan = none) : x.Begins c w v := by
  cases hf : w.failures.of? .create with
  | none =>
    obtain ⟨v', -, hv, hb, -⟩ := handle_begins (c := c) hf ha
    rw [h] at hv
    cases hv
    exact hb
  | some e =>
    have hf' : (noteArrival x (w.openRequest x.request)).failures.of? .create = some e := by
      rw [(arrived_becomes x x.request 0 w).failures]
      exact hf
    unfold chainStart? at h
    dsimp only at h
    rw [World.attributes_openRequest, ha] at h
    simp only [startSpan_failed hf'] at h
    cases h

/-- A request with a span goes on with it, and nothing else happens before its chain. -/
theorem chainStart?_resumes {id : SpanId} (h : x.chainStart? c w = some v)
    (ha : Attribute.present? (w.attributes x.request).activeSpan = some (.span id)) (j : SpanId) :
    Becomes x.request j w v
      { span := w.span j, attributes := (w.attributes x.request).markSpanContinued } := by
  obtain ⟨v', -, hv, -, hb, -⟩ := handle_resumes (x := x) (c := c) (Attribute.of_present? ha)
  rw [h] at hv
  cases hv
  exact hb j

/-- A pass whose chain starts runs it between the two halves of a normal pass or an error pass. -/
theorem handle_started (h : x.chainStart? c w = some v) {ρ : Type} (chain : Chain ρ) :
    ∃ scope, x.handle c chain w =
      if x.isErrorPass w then runError x (x.spanIn w) scope chain v
      else runNormal c x (x.spanIn w) scope chain v := by
  unfold chainStart? at h
  unfold handle isErrorPass spanIn
  dsimp only at h ⊢
  rw [World.attributes_openRequest] at h ⊢
  cases ha : Attribute.present? (w.attributes x.request).activeSpan with
  | none =>
    rw [ha] at h
    dsimp only at h
    split at h
    · next id u hu =>
      cases h
      have hid : id = w.spans.length :=
        (startSpan_id hu).trans (congrArg List.length (World.log_spans _ logger _))
      subst hid
      exact ⟨_, first_started c x chain hu⟩
    · cases h
  | some a =>
    rw [ha] at h
    cases a with
    | span id =>
      cases h
      refine ⟨((recalled x (w.openRequest x.request) id).activate id).1, ?_⟩
      show continued c x id chain (w.openRequest x.request) = _
      rw [continued_eq]
      cases isSuccessfulStatus x.status <;> rfl
    | _ => cases h

/-- Where no span can be started, the chain does not run, and nothing is left of the pass but the
failed call, and the exception if it is one that is kept. -/
theorem handle_unstarted {ρ : Type} {e : Fault}
    (ha : Attribute.present? (w.attributes x.request).activeSpan = none)
    (hf : w.failures.of? .create = some e) (chain : Chain ρ) :
    let done := x.handle c chain w
    done.raised = some e ∧ done.reply = none ∧ done.status = x.status ∧
      done.world.coordinators = w.coordinators ∧
      ∀ id, Becomes x.request id w done.world
        { span := w.span id
          attributes := notedAttributes (some e) (w.attributes x.request)
          calls := [.failed .create] } := by
  intro done
  have harrive := fun id => arrived_becomes x x.request id w
  have hcoordinators : (noteArrival x (w.openRequest x.request)).coordinators = w.coordinators :=
    World.log_coordinators _ logger _
  have hdone : done = first c x chain (w.openRequest x.request) := by
    unfold done handle
    dsimp only
    rw [World.attributes_openRequest, ha]
  have hf' : (noteArrival x (w.openRequest x.request)).failures.of? .create = some e := by
    rw [(harrive 0).failures]
    exact hf
  rw [first_failed c x chain (startSpan_failed hf' _ x)] at hdone
  generalize noteArrival x (w.openRequest x.request) = u at harrive hcoordinators hdone
  have hnote : ∀ id, Becomes x.request id w
      (noteFailure x (some e) (u.enter (.call (.failed .create))))
      { span := w.span id
        attributes := notedAttributes (some e) (w.attributes x.request)
        calls := [.failed .create] } := by
    intro id
    have hcall := Becomes.call x.request id u (.failed .create)
    have hn := noteFailure_becomes x (some e) id (u.enter (.call (.failed .create)))
    rw [hcall.itsSpan, hcall.itsAttributes] at hn
    rw [(harrive id).itsSpan, (harrive id).itsAttributes] at hcall hn
    exact (harrive id).trans (hcall.trans hn)
  obtain ⟨v, hv, hsame, hconclude⟩ := concludeNone_becomes c x.request x.status
    (failureOf (some e)) (noteFailure x (some e) (u.enter (.call (.failed .create))))
  simp only [finishWith, hv] at hdone
  rw [hdone]
  refine ⟨rfl, rfl, rfl, ?_, fun id => (hnote id).thenSame (hconclude id)⟩
  exact hsame.trans ((noteFailure_coordinators x _ _).trans hcoordinators)

/-- A pass whose chain does not start only notes that it was there, or that it has failed. -/
theorem handle_refused_becomes (h : x.chainStart? c w = none) {ρ : Type} (chain : Chain ρ) :
    ∃ m calls, (∀ j, Becomes x.request j w (x.handle c chain w).world
        { span := w.span j, attributes := m, calls }) ∧
      (calls = [] ∨ calls = [.failed .create]) ∧
      ((∃ raised, m = notedAttributes raised (w.attributes x.request)) ∨
        m = (w.attributes x.request).markSpanContinued) := by
  have hopen := fun j => Becomes.openRequest x.request j w x.request
  unfold chainStart? at h
  dsimp only at h
  rw [World.attributes_openRequest] at h
  cases ha : Attribute.present? (w.attributes x.request).activeSpan with
  | none =>
    rw [ha] at h
    dsimp only at h
    cases hf : w.failures.of? .create with
    | none =>
      have hf' : (noteArrival x (w.openRequest x.request)).failures.of? .create = none := by
        rw [(arrived_becomes x x.request 0 w).failures]
        exact hf
      obtain ⟨u, -, hu⟩ := startSpan_ok hf' ((w.openRequest x.request).coordinator c).stem x
      rw [hu] at h
      cases h
    | some e =>
      obtain ⟨-, -, -, -, hb⟩ := x.handle_unstarted (c := c) ha hf chain
      exact ⟨_, _, hb, .inr rfl, .inl ⟨_, rfl⟩⟩
  | some a =>
    unfold handle
    dsimp only
    rw [World.attributes_openRequest, ha]
    rw [ha] at h
    cases a with
    | span id => cases h
    | _ =>
      exact ⟨_, [], fun j => (hopen j).thenModifyAttributes (·.markSpanContinued), .inl rfl,
        .inr rfl⟩

/-- So its request keeps its standing. -/
theorem handle_refused (h : x.chainStart? c w = none) {ρ : Type} (chain : Chain ρ) :
    ∃ m calls, (∀ j, Becomes x.request j w (x.handle c chain w).world
        { span := w.span j, attributes := m, calls }) ∧
      (calls = [] ∨ calls = [.failed .create]) ∧
      m.activeSpan = (w.attributes x.request).activeSpan ∧ (w.attributes x.request).Keeps m := by
  obtain ⟨m, calls, hb, hcalls, ⟨raised, rfl⟩ | rfl⟩ := handle_refused_becomes h chain
  · exact ⟨_, calls, hb, hcalls, notedAttributes_activeSpan _ _, .noted _ _⟩
  · exact ⟨_, calls, hb, hcalls, Attributes.markSpanContinued_activeSpan _, .markSpanContinued _⟩

end Exchange

end SpanLifecycle
