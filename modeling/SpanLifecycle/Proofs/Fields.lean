import SpanLifecycle.Program
import SpanLifecycle.Proofs.Frame

/-!
# The bookkeeping as independent fields

Every call on the bookkeeping of a request is about what stands under one key (`StoreCall.key?`), and
what it makes of that value and gives back is said by `StoreCall.onValue` of the value alone.  So the
mapping behind the bookkeeping is a record of fields that know nothing of each other: whoever makes
the calls, and whatever other calls come in between, the calls about one key go as if they were made
by themselves on the value under that key (`fields_are_independent`).
-/

namespace SpanLifecycle

namespace StoreCall

/-- The key that a call is about: the one of its field, or the one that a foreign write names.  Asking
for the mapping as a whole is about no key. -/
def key? : StoreCall → Option String
  | getActiveSpan | setActiveSpan _ | clearActiveSpan => some Key.activeSpan.name
  | requestState | markSpanContinued | isSpanContinued | markErrorHandled | isErrorHandled =>
    some Key.requestState.name
  | requestClose | shouldClose => some Key.shouldClose.name
  | markSpanWithoutParent | isSpanWithoutParent => some Key.spanWithoutParent.name
  | setPendingException _ | peekPendingException | takePendingException =>
    some Key.pendingException.name
  | markAlreadyFinalized | isAlreadyFinalized => some Key.alreadyFinalized.name
  | markErrorSpanReported | isErrorSpanReported => some Key.errorSpanReported.name
  | startAsync | isAsyncStarted => some Key.asyncStarted.name
  | attributes => none
  | setRaw key _ | deleteRaw key => some key

/-- The calls that only ask. -/
def isRead : StoreCall → Bool
  | getActiveSpan | requestState | isSpanContinued | isErrorHandled | shouldClose
  | isSpanWithoutParent | isAlreadyFinalized | isErrorSpanReported | isAsyncStarted
  | peekPendingException | attributes => true
  | _ => false

/-- The calls after which an exception may be pending that was not before. -/
def setsPending : StoreCall → Bool
  | setPendingException _ => true
  | setRaw key _ => key = Key.pendingException.name
  | _ => false

end StoreCall

/-! ## One field -/

namespace Field

/-- Whether a field holds a request state; where it holds nothing, the request is fresh. -/
def isState (v : Option Attribute) (s : RequestState) : Bool :=
  match v with
  | none => s = .fresh
  | some (.state t) => t = s
  | some _ => false

/-- Whether a field counts as set. -/
def isSet (v : Option Attribute) : Bool := v.any (·.truthy)

end Field

/-- What a call gives back and what it leaves of the value that it is about, if any stands there. -/
def StoreCall.onValue (c : StoreCall) (v : Option Attribute) : StoreReply × Option Attribute :=
  match c with
  | getActiveSpan | peekPendingException => (.attribute v, v)
  | takePendingException => (.attribute v, none)
  | setActiveSpan a | setPendingException a | setRaw _ a => (.nothing, some a)
  | clearActiveSpan | deleteRaw _ => (.nothing, none)
  | requestState => (.attribute (some (v.getD (.state .fresh))), v)
  | markSpanContinued =>
    (.nothing, if Field.isState v .fresh then some (.state .continued) else v)
  | isSpanContinued => (.flag (!Field.isState v .fresh), v)
  | markErrorHandled => (.nothing, some (.state .errorHandled))
  | isErrorHandled => (.flag (Field.isState v .errorHandled), v)
  | shouldClose | isSpanWithoutParent | isAlreadyFinalized | isErrorSpanReported
  | isAsyncStarted => (.flag (Field.isSet v), v)
  | requestClose | markSpanWithoutParent | markAlreadyFinalized | markErrorSpanReported
  | startAsync => (.nothing, some (.value (.bool true)))
  | attributes => (.nothing, v)

namespace Field

/-- Performs calls on one value: each of them with its reply, and the value in the end. -/
def run : List StoreCall → Option Attribute → List (StoreCall × StoreReply) × Option Attribute
  | [], v => ([], v)
  | c :: rest, v =>
    let done := run rest (c.onValue v).2
    ((c, (c.onValue v).1) :: done.1, done.2)

end Field

/-! ## Many readers -/

/-- A call that was made through a reader, and its answer. -/
structure ServedCall (ι : Type) where
  via : ι
  call : StoreCall
  answer : Answer

/-- Performs calls through readers, each of which holds the attributes of a request; any number of
readers may hold the same. -/
def World.serveCalls {ι : Type} (holds : ι → RequestName) :
    List (ι × StoreCall) → World → List (ServedCall ι) × World
  | [], w => ([], w)
  | (i, c) :: rest, w =>
    let (answer, w) := w.store (holds i) c
    let (served, w) := serveCalls holds rest w
    (⟨i, c, answer⟩ :: served, w)

section

variable {ι : Type} (holds : ι → RequestName) (r : RequestName) (key : String)

/-- Whether a call through a reader is about a key of a request. -/
def isAbout (i : ι) (c : StoreCall) : Bool := holds i = r && c.key? = some key

/-- The calls about a key of a request, whichever readers they are made through. -/
def callsAbout (calls : List (ι × StoreCall)) : List StoreCall :=
  (calls.filter fun c => isAbout holds r key c.1 c.2).map (·.2)

/-- What was answered to these calls. -/
def answersAbout (served : List (ServedCall ι)) : List (StoreCall × Answer) :=
  (served.filter fun s => isAbout holds r key s.via s.call).map fun s => (s.call, s.answer)

/-- The call and the reader that it was made through. -/
def ServedCall.made (s : ServedCall ι) : ι × StoreCall := (s.via, s.call)

/-- Whether a call has taken something that was pending for a request. -/
def ServedCall.takes (s : ServedCall ι) : Bool :=
  holds s.via = r &&
    match s.call, s.answer with
    | .takePendingException, .attribute (some _) => true
    | _, _ => false

end

/-! ## Calls on the mapping -/

namespace Attributes

theorem inState_eq (m : Attributes) (s : RequestState) :
    m.inState s = Field.isState (m.get? Key.requestState.name) s := by
  unfold inState requestState at? Field.isState
  cases m.get? Key.requestState.name with
  | none => exact decide_eq_decide.mpr eq_comm
  | some a => cases a <;> rfl

theorem flag_eq (m : Attributes) (k : Key) : m.flag k = Field.isSet (m.get? k.name) := by
  unfold flag at? Field.isSet
  cases m.get? k.name <;> rfl

end Attributes

namespace StoreCall

/-- A call changes what stands under its own key, as it would by itself, and nothing else. -/
theorem run_get? (c : StoreCall) (m : Attributes) (key : String) :
    (c.run m).2.get? key = if c.key? = some key then (c.onValue (m.get? key)).2 else m.get? key := by
  cases c with
  | markSpanContinued =>
    show Mapping.get? m.markSpanContinued key = if some Key.requestState.name = some key then
      (if Field.isState (m.get? key) .fresh then some (.state .continued) else m.get? key)
      else m.get? key
    unfold Attributes.markSpanContinued Attributes.put
    rw [Attributes.inState_eq]
    by_cases hkey : key = Key.requestState.name
    · subst hkey
      rw [if_pos rfl]
      split
      · rw [Mapping.get?_set, if_pos rfl]
      · rfl
    · rw [if_neg fun h => hkey (Option.some.inj h).symm]
      split
      · rw [Mapping.get?_set, if_neg hkey]
      · rfl
  | setActiveSpan | markErrorHandled | requestClose | markSpanWithoutParent
  | markAlreadyFinalized | markErrorSpanReported | startAsync | setPendingException | setRaw =>
    simp only [run, key?, onValue, Attributes.setActiveSpan, Attributes.markErrorHandled,
      Attributes.raiseFlag, Attributes.setPendingException, Attributes.put, Mapping.get?_set,
      Option.some.injEq, eq_comm]
  | clearActiveSpan | takePendingException | deleteRaw =>
    simp only [run, key?, onValue, Attributes.clearActiveSpan, Attributes.takePendingException,
      Attributes.drop, Mapping.get?_erase, Option.some.injEq, eq_comm]
  | _ => simp only [run, onValue, ite_self]

/-- A call gives back what it would by itself. -/
theorem run_reply {c : StoreCall} {key : String} (h : c.key? = some key) (m : Attributes) :
    (c.run m).1 = (c.onValue (m.get? key)).1 := by
  cases c with
  | attributes => cases h
  | requestState | isSpanContinued | isErrorHandled | shouldClose | isSpanWithoutParent
  | isAlreadyFinalized | isErrorSpanReported | isAsyncStarted =>
    cases h
    simp only [run, onValue, Attributes.requestState, Attributes.at?, Attributes.isSpanContinued,
      Attributes.isErrorHandled, Attributes.shouldClose, Attributes.isSpanWithoutParent,
      Attributes.isAlreadyFinalized, Attributes.isErrorSpanReported, Attributes.isAsyncStarted,
      Attributes.inState_eq, Attributes.flag_eq]
  | _ => cases h; rfl

theorem run_isRead {c : StoreCall} (h : c.isRead = true) (m : Attributes) : (c.run m).2 = m := by
  cases c <;> first | rfl | cases h

/-- Only a call that sets something pending leaves something pending where nothing was. -/
theorem onValue_pending {c : StoreCall} (hk : c.key? = some Key.pendingException.name)
    (h : c.setsPending = false) {v : Option Attribute} (hv : (c.onValue v).2.isSome = true) :
    v.isSome = true := by
  cases c with
  | peekPendingException => exact hv
  | takePendingException | deleteRaw => cases hv
  | setPendingException => cases h
  | setRaw key a =>
    cases hk
    cases h
  | _ => simp [key?, Key.name] at hk

end StoreCall

namespace World

theorem store_attributes (w : World) (r q : RequestName) (c : StoreCall) :
    (w.store r c).2.attributes q =
      if q = r then (c.run (w.attributes r)).2 else w.attributes q := by
  simp only [store, attributes_setAttributes, attributes_openRequest]

/-- Calls on the bookkeeping change no span, so attributes look the same before and after. -/
theorem store_answerOf (w : World) (r : RequestName) (c : StoreCall) :
    (w.store r c).2.answerOf = w.answerOf := rfl

theorem store_answer (w : World) (r : RequestName) (c : StoreCall) :
    (w.store r c).1 = w.answerOf (c.run (w.attributes r)).1 := by
  simp only [store, attributes_openRequest]
  rfl

end World

/-! ## Calls one after another -/

section

variable {ι : Type} {holds : ι → RequestName} {r : RequestName} {key : String} {i : ι}
  {c : StoreCall}

theorem World.serveCalls_cons (rest : List (ι × StoreCall)) (w : World) :
    w.serveCalls holds ((i, c) :: rest) =
      let done := (w.store (holds i) c).2.serveCalls holds rest
      (⟨i, c, (w.store (holds i) c).1⟩ :: done.1, done.2) := rfl

theorem callsAbout_cons (h : isAbout holds r key i c = true) (rest : List (ι × StoreCall)) :
    callsAbout holds r key ((i, c) :: rest) = c :: callsAbout holds r key rest := by
  simp only [callsAbout, List.filter_cons, h, if_true, List.map_cons]

theorem callsAbout_cons_of_not (h : isAbout holds r key i c = false)
    (rest : List (ι × StoreCall)) :
    callsAbout holds r key ((i, c) :: rest) = callsAbout holds r key rest := by
  simp only [callsAbout, List.filter_cons, h, Bool.false_eq_true, if_false]

theorem answersAbout_cons (h : isAbout holds r key i c = true) (a : Answer)
    (rest : List (ServedCall ι)) :
    answersAbout holds r key (⟨i, c, a⟩ :: rest) = (c, a) :: answersAbout holds r key rest := by
  simp only [answersAbout, List.filter_cons, h, if_true, List.map_cons]

theorem answersAbout_cons_of_not (h : isAbout holds r key i c = false) (a : Answer)
    (rest : List (ServedCall ι)) :
    answersAbout holds r key (⟨i, c, a⟩ :: rest) = answersAbout holds r key rest := by
  simp only [answersAbout, List.filter_cons, h, Bool.false_eq_true, if_false]

/-- A call that is not about a key of a request leaves what stands there. -/
theorem World.store_get?_of_not (h : isAbout holds r key i c = false) (w : World) :
    ((w.store (holds i) c).2.attributes r).get? key = (w.attributes r).get? key := by
  rw [World.store_attributes]
  by_cases hr : r = holds i
  · subst hr
    rw [if_pos rfl, StoreCall.run_get?, if_neg (by simpa [isAbout] using h)]
  · rw [if_neg hr]

/-- A call that is about it goes as it does on the value alone. -/
theorem World.store_get? (h : isAbout holds r key i c = true) (w : World) :
    ((w.store (holds i) c).2.attributes r).get? key =
        (c.onValue ((w.attributes r).get? key)).2 ∧
      (w.store (holds i) c).1 = w.answerOf (c.onValue ((w.attributes r).get? key)).1 := by
  simp only [isAbout, Bool.and_eq_true, decide_eq_true_eq] at h
  obtain ⟨rfl, hkey⟩ := h
  constructor
  · rw [World.store_attributes, if_pos rfl, StoreCall.run_get?, if_pos hkey]
  · rw [World.store_answer, StoreCall.run_reply hkey]

/-- The calls about one key of a request go as they do by themselves. -/
theorem World.serveCalls_about (r : RequestName) (key : String) (calls : List (ι × StoreCall))
    (w : World) :
    let alone := Field.run (callsAbout holds r key calls) ((w.attributes r).get? key)
    answersAbout holds r key (w.serveCalls holds calls).1 =
        alone.1.map (fun c => (c.1, w.answerOf c.2)) ∧
      ((w.serveCalls holds calls).2.attributes r).get? key = alone.2 := by
  induction calls generalizing w with
  | nil => exact ⟨rfl, rfl⟩
  | cons entry rest ih =>
    obtain ⟨i, c⟩ := entry
    obtain ⟨hanswers, hvalue⟩ := ih (w.store (holds i) c).2
    rw [World.store_answerOf] at hanswers
    rw [World.serveCalls_cons]
    cases h : isAbout holds r key i c with
    | false =>
      rw [World.store_get?_of_not h] at hanswers hvalue
      rw [callsAbout_cons_of_not h, answersAbout_cons_of_not h]
      exact ⟨hanswers, hvalue⟩
    | true =>
      obtain ⟨hafter, hanswer⟩ := World.store_get? h w
      rw [hafter] at hanswers hvalue
      rw [callsAbout_cons h, answersAbout_cons h, hanswers, hanswer]
      exact ⟨rfl, hvalue⟩

/-! ## Parts of a run -/

/-- The first calls that were served are served so by themselves. -/
theorem World.serveCalls_before {l l' : List (ServedCall ι)} {calls : List (ι × StoreCall)} {w : World}
    (h : (w.serveCalls holds calls).1 = l ++ l') :
    (w.serveCalls holds (l.map ServedCall.made)).1 = l := by
  induction l generalizing calls w with
  | nil => rfl
  | cons s rest ih =>
    cases calls with
    | nil => cases h
    | cons entry calls =>
      obtain ⟨i, c⟩ := entry
      rw [World.serveCalls_cons, List.cons_append] at h
      obtain ⟨hs, hrest⟩ := List.cons.inj h
      subst hs
      exact congrArg (_ :: ·) (ih hrest)

/-- The last calls that were served are served so by themselves, from where the first ones end. -/
theorem World.serveCalls_after {l l' : List (ServedCall ι)} {calls : List (ι × StoreCall)} {w : World}
    (h : (w.serveCalls holds calls).1 = l ++ l') :
    ∃ (v : World) (calls' : List (ι × StoreCall)), (v.serveCalls holds calls').1 = l' := by
  induction l generalizing calls w with
  | nil => exact ⟨w, calls, h⟩
  | cons s rest ih =>
    cases calls with
    | nil => cases h
    | cons entry calls =>
      obtain ⟨i, c⟩ := entry
      rw [World.serveCalls_cons, List.cons_append] at h
      exact ih (List.cons.inj h).2

/-! ## Taking what is pending -/

theorem ServedCall.takes_iff (holds : ι → RequestName) (r : RequestName) (s : ServedCall ι) :
    s.takes holds r = true ↔ holds s.via = r ∧ s.call = .takePendingException ∧
      ∃ a, s.answer = .attribute (some a) := by
  unfold takes
  rw [Bool.and_eq_true, decide_eq_true_eq]
  refine and_congr_right fun _ => ⟨fun h => ?_, fun ⟨hcall, a, hanswer⟩ => by rw [hcall, hanswer]⟩
  split at h
  · next a hcall hanswer => exact ⟨hcall, a, hanswer⟩
  · cases h

/-- How many exceptions are pending for a request. -/
def World.pendingCount (r : RequestName) (w : World) : Nat :=
  if (w.attributes r).pendingException.isSome then 1 else 0

theorem World.pendingCount_le (r : RequestName) (w : World) : w.pendingCount r ≤ 1 := by
  unfold pendingCount
  split
  · exact Nat.le_refl 1
  · exact Nat.zero_le 1

/-- What a call takes was pending before, and is not afterwards, if nothing is set pending. -/
theorem World.store_takes (h : holds i = r → c.setsPending = false) (w : World) :
    (w.store (holds i) c).2.pendingCount r +
        (if ServedCall.takes holds r ⟨i, c, (w.store (holds i) c).1⟩ then 1 else 0) ≤
      w.pendingCount r := by
  have htakes := ServedCall.takes_iff holds r ⟨i, c, (w.store (holds i) c).1⟩
  unfold pendingCount Attributes.pendingException Attributes.at?
  cases habout : isAbout holds r Key.pendingException.name i c with
  | false =>
    have hnot : ¬ServedCall.takes holds r ⟨i, c, (w.store (holds i) c).1⟩ = true := fun ht => by
      obtain ⟨hr, hcall, -⟩ := htakes.mp ht
      simp only at hr hcall
      simp [isAbout, hr, hcall, StoreCall.key?] at habout
    exact Nat.le_of_eq (by rw [World.store_get?_of_not habout, if_neg hnot, Nat.add_zero])
  | true =>
    obtain ⟨hafter, hanswer⟩ := World.store_get? habout w
    simp only [isAbout, Bool.and_eq_true, decide_eq_true_eq] at habout
    rw [hafter]
    by_cases ht : ServedCall.takes holds r ⟨i, c, (w.store (holds i) c).1⟩ = true
    · obtain ⟨-, rfl, a, ha⟩ := htakes.mp ht
      rw [hanswer] at ha
      rw [if_pos ht]
      cases hv : (w.attributes r).get? Key.pendingException.name with
      | none => rw [hv] at ha; cases ha
      | some v => exact Nat.le_refl 1
    · rw [if_neg ht, Nat.add_zero]
      split
      · next hv =>
        exact Nat.le_of_eq (if_pos (StoreCall.onValue_pending habout.2 (h habout.1) hv)).symm
      · exact Nat.zero_le _

/-- As long as nothing is set pending, something is taken at most once, and only if it was pending
from the start. -/
theorem World.serveCalls_takes (holds : ι → RequestName) (r : RequestName)
    (calls : List (ι × StoreCall)) (w : World)
    (h : ∀ c ∈ calls, holds c.1 = r → c.2.setsPending = false) :
    (w.serveCalls holds calls).1.countP (ServedCall.takes holds r) ≤ w.pendingCount r := by
  induction calls generalizing w with
  | nil => exact Nat.zero_le _
  | cons entry rest ih =>
    obtain ⟨i, c⟩ := entry
    have hrest := ih (w.store (holds i) c).2 fun d hd => h d (List.mem_cons_of_mem _ hd)
    rw [World.serveCalls_cons, List.countP_cons]
    exact Nat.le_trans (Nat.add_le_add_right hrest _)
      (World.store_takes (h (i, c) List.mem_cons_self) w)

end

/-! ## Main statement -/

/-- The bookkeeping of a request is a record of independent fields.  Whatever the mapping holds at
first, however many readers hold it, and whatever calls are made through which of them, in between
calls about other requests too:

* the calls about one key are answered, and leave under it, what they would if they were the only
  calls, made on the value under that key alone (`Field.run`);
* a call that only asks changes the attributes of no request;
* in any part of the run in which no exception is set, something pending is taken at most once. -/
theorem fields_are_independent {ι : Type} (holds : ι → RequestName) (r : RequestName)
    (calls : List (ι × StoreCall)) (w : World) :
    let done := w.serveCalls holds calls
    (∀ key : String,
      let alone := Field.run (callsAbout holds r key calls) ((w.attributes r).get? key)
      answersAbout holds r key done.1 = alone.1.map (fun c => (c.1, w.answerOf c.2)) ∧
        (done.2.attributes r).get? key = alone.2) ∧
    (∀ i c, c.isRead = true →
      ∀ q, (done.2.store (holds i) c).2.attributes q = done.2.attributes q) ∧
    ∀ before between after, done.1 = before ++ between ++ after →
      (∀ s ∈ between, holds s.via = r → s.call.setsPending = false) →
      between.countP (ServedCall.takes holds r) ≤ 1 := by
  intro done
  refine ⟨fun key => w.serveCalls_about r key calls, fun i c hc q => ?_, ?_⟩
  · rw [World.store_attributes, StoreCall.run_isRead hc]
    split
    · next hq => rw [hq]
    · rfl
  · intro before between after hdone hset
    obtain ⟨v, calls', hbetween⟩ := World.serveCalls_after
      (hdone.trans (List.append_assoc before between after))
    have hself := World.serveCalls_before hbetween
    have hcount := v.serveCalls_takes holds r (between.map ServedCall.made) fun c hc => by
      obtain ⟨s, hs, rfl⟩ := List.mem_map.mp hc
      exact hset s hs
    rw [hself] at hcount
    exact Nat.le_trans hcount (v.pendingCount_le r)

/-- A request to which foreign code has written: a text that only spells a request state, a flag that
counts as unset, and a key of its own. -/
def annotated : World :=
  ({} : World).setAttributes outerRequest
    [("app.user", .value (.int 7)), (Key.requestState.name, .value (.text "CONTINUED")),
      (Key.shouldClose.name, .value (.int 0))]

/-- Calls through two readers of that request, and a third reader of another one. -/
def scattered : List (Fin 3 × StoreCall) :=
  [(0, .setPendingException (.fault { kind := .valueError })), (1, .markSpanContinued),
    (2, .setPendingException (.fault { kind := .keyError })), (0, .shouldClose),
    (1, .requestClose), (1, .takePendingException), (0, .takePendingException), (0, .shouldClose)]

/-- Who holds what. -/
def scatteredHolds (i : Fin 3) : RequestName := if i = 2 then .label "other" else outerRequest

theorem scattered_independent :
    let done := annotated.serveCalls scatteredHolds scattered
    answersAbout scatteredHolds outerRequest Key.shouldClose.name done.1 =
      [(.shouldClose, .flag false), (.requestClose, .nothing), (.shouldClose, .flag true)] ∧
    (done.2.attributes outerRequest).get? Key.requestState.name =
      some (.value (.text "CONTINUED")) ∧
    StoreCall.isRead .isErrorHandled = true ∧
    (∀ q, (done.2.store outerRequest .isErrorHandled).2.attributes q = done.2.attributes q) ∧
    (∀ s ∈ done.1.drop 1, scatteredHolds s.via = outerRequest → s.call.setsPending = false) ∧
    (done.1.drop 1).countP (ServedCall.takes scatteredHolds outerRequest) ≤ 1 := by
  intro done
  obtain ⟨hfields, hreads, htakes⟩ :=
    fields_are_independent scatteredHolds outerRequest scattered annotated
  have hset : ∀ s ∈ done.1.drop 1, scatteredHolds s.via = outerRequest →
      s.call.setsPending = false := by
    decide +kernel
  have hsplit : done.1 = done.1.take 1 ++ done.1.drop 1 ++ [] := by
    rw [List.append_nil, List.take_append_drop]
  refine ⟨(hfields _).1.trans ?_, (hfields _).2.trans ?_, rfl, hreads 0 _ rfl, hset,
    htakes _ _ _ hsplit hset⟩
  · rfl
  · rfl

end SpanLifecycle
