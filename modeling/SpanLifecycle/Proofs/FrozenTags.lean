import SpanLifecycle.Proofs.Growth
import SpanLifecycle.Proofs.Ledger
import SpanLifecycle.Proofs.OneReport

/-!
# The tags of finalized spans

Once a span is finalized no deed changes it, with one exception: a continuation that takes the span
after that, and completes it with a status, writes the status on it as a tag (`Does.span_finalized`).
So the span is as it was when it was finalized, but for such late statuses, and its tag tells the
last of them, while what was exported tells what the tag was before (`Reads`).

The main statement is `finalized_span_keeps_tags`; `lateCompletion_retags` is a program in which the
tag and the export come to differ.
-/

namespace SpanLifecycle

/-! ## Definitions -/

/-- The status that an actor writes on a span as it takes it by the use of a continuation. -/
def Actor.stamp? (actor : Actor) (w : World) (id : SpanId) : Option Int :=
  match actor, actor.takes? w with
  | .acts _ a, some (r, j) => if j = id then a.stamp? (w.attributes r) else none
  | _, _ => none

/-- The statuses that deeds write on a span after it was finalized, as continuations take it. -/
def lateStatuses (id : SpanId) (l : List Deed) : List Int :=
  l.filterMap fun d =>
    if (d.before.span id).state = .finalized then d.actor.stamp? d.before id else none

/-- A span with statuses written on it, one after the other. -/
def Span.retagged (s : Span) (statuses : List Int) : Span :=
  statuses.foldl (fun s code => s.tag httpStatusCode (toString code)) s

/-! ## Tags and attributes -/

namespace Span

/-- A span tells the status of a response by its attributes as it does by its tags. -/
def Agrees (s : Span) : Prop := s.tags.get? httpStatusCode = s.attributes.get? httpStatusCode

/-- A span that records tells the status that is set on it. -/
theorem agrees_tag {s : Span} (hr : s.recording = true) (value : String) :
    (s.tag httpStatusCode value).Agrees := by
  unfold Agrees tag
  rw [hr, if_pos rfl, Mapping.get?_set, if_pos rfl, SpanAttributes.get?_record _ _ (by decide)]

theorem agrees_markFailed {s : Span} (h : s.Agrees) : s.markFailed.Agrees := by
  unfold markFailed
  split <;> exact h

/-- A span that records goes on telling the status as it is reported. -/
theorem agrees_report {s : Span} (hr : s.recording = true) (h : s.Agrees) (status : Int)
    (cause : Option Attribute) : (s.report status cause).Agrees := by
  have told : ∀ t : Span, t.recording = true → t.Agrees →
      (if status ≠ 0 ∧ ¬isSuccessfulStatus status then
        let t := t.tag httpStatusCode (toString status)
        if cause.isNone ∧ 500 ≤ status then t.markFailed else t
      else t).Agrees := by
    intro t ht hagrees
    dsimp only
    split
    · split
      · exact agrees_markFailed (agrees_tag ht _)
      · exact agrees_tag ht _
    · exact hagrees
  unfold report
  split
  · next e =>
    refine told _ ?_ ?_ <;> unfold recordFault <;> rw [if_pos hr]
    · exact hr
    · exact h
  · exact told s hr h

/-- A span that tells the status, and goes on doing so: it records as long as it is not finalized. -/
structure IsFaithful (s : Span) : Prop where
  recording : s.state ≠ .finalized → s.recording = true
  agrees : s.Agrees

theorem IsFaithful.stamped {s : Span} (h : s.IsFaithful) (hs : s.state ≠ .finalized)
    (status : Option Int) : (s.stamped status).IsFaithful := by
  cases status with
  | none => exact h
  | some code => exact ⟨h.recording, agrees_tag (h.recording hs) _⟩

theorem IsFaithful.advances {s t : Span} (h : s.IsFaithful) (ht : s.Advances t) :
    t.IsFaithful := by
  induction ht with
  | refl => exact h
  | tail _ hstep ih =>
    cases hstep with
    | tagged status hs => exact ⟨ih.recording, agrees_tag (ih.recording hs) _⟩
    | reported status cause hs =>
      exact ⟨fun hf => absurd rfl hf, agrees_report (ih.recording hs) ih.agrees status cause⟩
    | abandoned hs => exact ⟨fun _ => ih.recording (by rw [hs]; decide), ih.agrees⟩

theorem stamped_state (s : Span) (status : Option Int) : (s.stamped status).state = s.state := by
  cases status <;> rfl

theorem retagged_state (s : Span) (statuses : List Int) :
    (s.retagged statuses).state = s.state := by
  unfold retagged
  induction statuses generalizing s with
  | nil => rfl
  | cons code rest ih => exact ih (s.tag httpStatusCode (toString code))

/-- One more status, if there is one. -/
theorem retagged_append (s : Span) (statuses : List Int) (status : Option Int) :
    s.retagged (statuses ++ status.toList) = (s.retagged statuses).stamped status := by
  unfold retagged
  rw [List.foldl_append]
  cases status <;> rfl

theorem stamped_context (s : Span) (status : Option Int) :
    (s.stamped status).context = s.context := by
  cases status <;> rfl

theorem Advances.context {s t : Span} (h : s.Advances t) : t.context = s.context := by
  induction h with
  | refl => rfl
  | tail _ hstep ih =>
    rw [← ih]
    cases hstep with
    | tagged | abandoned => rfl
    | reported status cause =>
      unfold finish
      rw [report_eq]

end Span

/-! ## What deeds make of spans -/

section

variable {actor : Actor} {id : SpanId} {w w' : World}

/-- Whoever uses no continuation stamps no span. -/
theorem Actor.stamp?_of_unused (hu : actor.use? = none) : actor.stamp? w id = none := by
  have ht : actor.takes? w = none := by
    unfold takes?
    rw [hu]
    rfl
  unfold stamp?
  rw [ht]
  cases actor <;> rfl

/-- After a deed a span has advanced from what a continuation has stamped it, if one has taken it. -/
theorem Does.advances (h : Does actor w w') (hw : w.Sound) (ht : actor.isTag = false) :
    ((w.span id).stamped (actor.stamp? w id)).Advances (w'.span id) ∨
      w.spans.length ≤ id ∧ (w'.span id).IsBlank := by
  cases hu : actor.use? with
  | none =>
    rw [Actor.stamp?_of_unused hu]
    exact (h.leaves hu).grows ht id
  | some use =>
    obtain ⟨label, use⟩ := use
    obtain ⟨q, a, rfl, ha⟩ := Actor.of_use? hu
    have htakes := h.takes hw ha
    have htaken : (Actor.acts q a).takes? w = Continuation.next? w label := by
      unfold Actor.takes?
      rw [hu]
      rfl
    unfold Actor.stamp?
    rw [htaken]
    cases hn : Continuation.next? w label with
    | none =>
      rw [hn] at htakes
      exact Grows.of_eq (htakes.span id)
    | some p =>
      obtain ⟨r, j⟩ := p
      rw [hn] at htakes
      dsimp only
      by_cases hid : j = id
      · subst hid
        rw [if_pos rfl]
        exact .inl htakes.advances
      · rw [if_neg hid]
        exact Grows.of_eq (htakes.span id (Ne.symm hid))

/-- No deed changes a finalized span, but for the status that a continuation writes on it. -/
theorem Does.span_finalized (h : Does actor w w') (hw : w.Sound) (ht : actor.isTag = false)
    (hid : (w.span id).state = .finalized) :
    w'.span id = (w.span id).stamped (actor.stamp? w id) := by
  rcases h.advances hw ht with hadvances | ⟨hnew, -⟩
  · exact hadvances.of_finalized ((Span.stamped_state _ _).trans hid)
  · rw [World.span_default hnew] at hid
    cases hid

/-! ## Along a story -/

theorem lateStatuses_append (id : SpanId) (l : List Deed) (actor : Actor) (w w' : World) :
    lateStatuses id (l ++ [⟨actor, w, w'⟩]) = lateStatuses id l ++
      (if (w.span id).state = .finalized then actor.stamp? w id else none).toList := by
  unfold lateStatuses
  rw [List.filterMap_append]
  rfl

theorem Step.settings (h : Step w w') :
    w'.backend = w.backend ∧ w'.exporting = w.exporting := by
  cases h with
  | aside _ _ _ _ h | started _ _ _ _ _ h | tagged _ _ _ _ _ h | finalized _ _ _ _ _ _ _ h
  | abandoned _ _ _ _ h => exact ⟨h.backend, h.exporting⟩

/-- The backend stays the same, and goes on exporting or not. -/
theorem Run.settings (h : Run w w') : w'.backend = w.backend ∧ w'.exporting = w.exporting := by
  induction h with
  | refl => exact ⟨rfl, rfl⟩
  | tail _ step ih => exact ⟨step.settings.1.trans ih.1, step.settings.2.trans ih.2⟩

/-- After the deeds of the past: a span that is not finalized was stamped by none of them too late,
and the tag of a sampled span tells the last late status, or else what its attributes tell. -/
structure Reads (id : SpanId) (past : List Deed) (w : World) : Prop where
  early : (w.span id).state ≠ .finalized → lateStatuses id past = []
  tag : w.samples id = true → (w.span id).tags.get? httpStatusCode =
    ((lateStatuses id past).getLast?.map toString).or
      (Mapping.get? (w.span id).attributes httpStatusCode)

theorem Does.samples_eq (h : Does actor w w') (hw : w.Sound)
    (hcontext : (w'.span id).context = (w.span id).context) : w'.samples id = w.samples id := by
  unfold World.samples
  rw [hcontext, (h.follows hw).run.settings.1]

theorem Reads.finalized {past : List Deed} (h : Reads id past w) (hw : w.Sound)
    (hd : Does actor w w') (ht : actor.isTag = false) (hid : (w.span id).state = .finalized) :
    Reads id (past ++ [⟨actor, w, w'⟩]) w' := by
  have hspan := hd.span_finalized hw ht hid
  refine ⟨fun hs => absurd ?_ hs, fun hsamples => ?_⟩
  · rw [hspan, Span.stamped_state, hid]
  · rw [hd.samples_eq hw (by rw [hspan, Span.stamped_context])] at hsamples
    rw [lateStatuses_append, if_pos hid, hspan]
    cases actor.stamp? w id with
    | none =>
      rw [Option.toList_none, List.append_nil]
      exact h.tag hsamples
    | some code =>
      rw [Option.toList_some, List.getLast?_concat]
      unfold Span.stamped Span.tag
      exact (Mapping.get?_set ..).trans (if_pos rfl)

theorem Reads.unfinalized {past : List Deed} (h : Reads id past w) (hw : w.Sound) (hl : w.Ledger)
    (hd : Does actor w w') (ht : actor.isTag = false) (hid : (w.span id).state ≠ .finalized) :
    Reads id (past ++ [⟨actor, w, w'⟩]) w' := by
  have hnone := h.early hid
  have hlate : lateStatuses id (past ++ [⟨actor, w, w'⟩]) = [] := by
    rw [lateStatuses_append, if_neg hid, hnone]
    rfl
  refine ⟨fun _ => hlate, fun hsamples => ?_⟩
  rw [hlate]
  rcases hd.advances hw ht with hadvances | ⟨-, hblank⟩
  · rw [hd.samples_eq hw (by rw [hadvances.context, Span.stamped_context])] at hsamples
    have hagrees : (w.span id).Agrees := by
      have htag := h.tag hsamples
      rwa [hnone] at htag
    -- a sampled span that is not finalized records, so that its tags are set as attributes too
    have hrecording : (w.span id).recording = true := by
      rcases Nat.lt_or_ge id w.spans.length with hlt | hge
      · exact ((hl.kept id hlt).pristine hid).2.2.trans hsamples
      · unfold World.samples at hsamples
        rw [World.span_default hge] at hsamples
        exact absurd (Bool.and_eq_true_iff.mp hsamples).2 (by decide)
    have hfaithful : (w.span id).IsFaithful := ⟨fun _ => hrecording, hagrees⟩
    exact ((hfaithful.stamped hid _).advances hadvances).agrees
  · rw [hblank.untagged, hblank.unset]
    rfl

theorem Reads.step {past : List Deed} (h : Reads id past w) (hw : w.Sound) (hl : w.Ledger)
    (hd : Does actor w w') (ht : actor.isTag = false) :
    Reads id (past ++ [⟨actor, w, w'⟩]) w' := by
  by_cases hid : (w.span id).state = .finalized
  · exact h.finalized hw hd ht hid
  · exact h.unfinalized hw hl hd ht hid

theorem World.IsFresh.reads (h : w.IsFresh) (id : SpanId) : Reads id [] w := by
  have hdefault : w.span id = default :=
    World.span_default (by rw [h.spans]; exact Nat.zero_le id)
  exact ⟨fun _ => rfl, fun _ => by rw [hdefault]; rfl⟩

end

/-- A finalized span is the same throughout a story, but for the statuses that are written on it. -/
theorem Story.keeps_tags {past l : List Deed} {w u : World} {id : SpanId} (h : Story past w l u)
    (hw : w.Sound) (htags : ∀ d ∈ l, d.actor.isTag = false)
    (hid : (w.span id).state = .finalized) :
    u.span id = (w.span id).retagged (lateStatuses id l) := by
  have hrun := h.run
    (I := fun done v => ∃ more, done = past ++ more ∧
      v.span id = (w.span id).retagged (lateStatuses id more))
    hw ⟨[], (List.append_nil past).symm, rfl⟩ ?_
  · obtain ⟨-, more, hmore, hspan⟩ := hrun
    rw [List.append_cancel_left hmore]
    exact hspan
  · rintro before d rest he - hd - hs ⟨more, hmore, hspan⟩
    have hfinal : (d.before.span id).state = .finalized := by
      rw [hspan, Span.retagged_state, hid]
    refine ⟨more ++ [d], by rw [hmore, List.append_assoc], ?_⟩
    rw [hd.span_finalized hs (htags d (by simp [he])) hfinal,
      show d = ⟨d.actor, d.before, d.after⟩ from rfl, lateStatuses_append, if_pos hfinal,
      Span.retagged_append, hspan]

/-! ## Main statement -/

/-- In a program that sets no tags by hand, a span that is finalized at some point is the same from
there on, up to the statuses that continuations write on it as they take it later.  If it is sampled,
its record is exported, and its tag tells the last status that was written so late, if there is one,
and otherwise what the record tells. -/
theorem finalized_span_keeps_tags {w : World} {r : RequestName} {status : Int}
    {actions : List Action} {past future : List Deed} {id : SpanId} (hw : w.IsFresh)
    (h : history r status actions w = past ++ future)
    (htags : ∀ d ∈ past ++ future, d.actor.isTag = false)
    (hfinal : ((now w past).span id).state = .finalized) :
    let u := now w (past ++ future)
    u.span id = ((now w past).span id).retagged (lateStatuses id future) ∧
    (w.exporting = true → u.samples id = true → u.record id ∈ u.exports ∧
      (u.span id).tags.get? httpStatusCode =
        ((lateStatuses id (past ++ future)).getLast?.map toString).or
          (Mapping.get? (u.record id).attributes httpStatusCode)) := by
  intro u
  have hstory := history_story r status actions hw.sound []
  rw [h] at hstory
  have hu := hstory.eq_now
  rw [hu] at hstory
  obtain ⟨hrun, hreads⟩ := (hstory.run (I := fun l v => Run w v ∧ Reads id l v) hw.sound
    ⟨.refl, hw.reads id⟩ fun before d rest he _ hd _ hs ⟨hrun, hreads⟩ =>
      ⟨hrun.trans (hd.follows hs).run,
        hreads.step hs (hrun.ledger hw.ledger) hd (htags d (by simp [he]))⟩).2
  obtain ⟨hpast, hthen⟩ := hstory.cut
  have hkeeps := hthen.keeps_tags (hpast.sound hw.sound) (fun d hd => htags d (by simp [hd])) hfinal
  refine ⟨hkeeps, fun hexporting hsamples => ⟨?_, hreads.tag hsamples⟩⟩
  have hledger := hrun.ledger hw.ledger
  have hlisted : id ∈ u.finalizedIds := by
    rw [← hledger.finalized, hkeeps, Span.retagged_state, hfinal]
  rw [hledger.exports (hrun.settings.2.trans hexporting)]
  exact List.mem_map_of_mem (List.mem_filter.mpr ⟨hlisted, hsamples⟩)

/-- A request fails and is finalized, but goes on with its span; it goes asynchronous after that, and
is completed with a success. -/
def lateCompletion : List Action :=
  [.handle (visit 0) "c" false [.status 500], .startAsync "k" none, .complete "k" 200 none]

/-- All that becomes of the span after its end is that its tag tells the success. -/
theorem lateCompletion_keeps_tags :
    let h := history outerRequest 0 lateCompletion {}
    lateStatuses 0 (h.drop 2) = [200] ∧
      (now {} h).span 0 = ((now {} (h.take 2)).span 0).retagged [200] ∧
      (now {} h).record 0 ∈ (now {} h).exports := by
  intro h
  have hsplit : h = h.take 2 ++ h.drop 2 := (List.take_append_drop 2 h).symm
  have htags : ∀ d ∈ h.take 2 ++ h.drop 2, d.actor.isTag = false := by decide +kernel
  have hfresh : World.IsFresh {} := ⟨rfl, rfl, rfl, fun _ _ hr => by cases hr⟩
  have hfinal : ((now {} (h.take 2)).span 0).state = .finalized := by decide +kernel
  obtain ⟨hspan, hexported⟩ := finalized_span_keeps_tags hfresh hsplit htags hfinal
  have hlate : lateStatuses 0 (h.drop 2) = [200] := by decide +kernel
  rw [← hsplit, hlate] at hspan
  rw [← hsplit] at hexported
  exact ⟨hlate, hspan, (hexported rfl (by decide +kernel)).1⟩

/-- What was exported tells the failure. -/
theorem lateCompletion_retags :
    let h := history outerRequest 0 lateCompletion {}
    let before := now {} (h.take 3)
    let after := now {} h
    (∀ d ∈ h, d.actor.isTag = false) ∧ (before.span 0).state = .finalized ∧
      before.samples 0 = true ∧ before.exports.length = 1 ∧
      before.exports.map (Mapping.get? ·.attributes httpStatusCode) = [some "500"] ∧
      (before.span 0).tags.get? httpStatusCode = some "500" ∧
      after.exports.map (Mapping.get? ·.attributes httpStatusCode) = [some "500"] ∧
      (after.span 0).tags.get? httpStatusCode = some "200" := by
  decide +kernel

end SpanLifecycle
