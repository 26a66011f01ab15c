import SpanLifecycle.TraceContext.Parent
import Mathlib.Data.List.Induction
import Mathlib.Tactic.Positivity

/-!
# Trace parents as text

A number of a given width has one hexadecimal text, and that text reads back as the number
(`Hex.read?_eq_some_iff`).  So what a header says in digits is what is shown of it in digits.

`TraceParent.Accepts` is the grammar of an acceptable header, as text, without any reading; it holds
of exactly the headers that are read (`TraceParent.accepts_iff`), and their ids show as the digits of
the header (`TraceParent.Accepts.read?`).
-/

namespace SpanLifecycle

namespace Hex

/-! ## Digits -/

/-- A lower-case hexadecimal digit. -/
def IsDigit (c : Char) : Prop := ('0' ≤ c ∧ c ≤ '9') ∨ ('a' ≤ c ∧ c ≤ 'f')

theorem value?_isSome_iff (c : Char) : (value? c).isSome = true ↔ IsDigit c := by
  unfold value? IsDigit
  split
  · next h => simp [h]
  · next h =>
    split
    · next h' => simp [h']
    · next h' => simp [h, h']

/-- A digit stands for a value below sixteen, and is the digit for it. -/
theorem digit_of_value? {c : Char} {v : Nat} (h : value? c = some v) : v < 16 ∧ digit v = c := by
  have hle : ∀ {a b : Char}, a ≤ b ↔ a.toNat ≤ b.toNat := fun {a b} => by
    rw [Char.le_def, UInt32.le_iff_toNat_le]
    rfl
  unfold value? at h
  unfold digit
  split at h
  · next hc =>
    cases h
    have h₁ : 48 ≤ c.toNat := hle.mp hc.1
    have h₂ : c.toNat ≤ 57 := hle.mp hc.2
    refine ⟨by omega, ?_⟩
    rw [if_pos (by omega), Nat.add_sub_cancel' h₁, Char.ofNat_toNat]
  · split at h
    · next hc =>
      cases h
      have h₁ : 97 ≤ c.toNat := hle.mp hc.1
      have h₂ : c.toNat ≤ 102 := hle.mp hc.2
      refine ⟨by omega, ?_⟩
      rw [if_neg (by omega), Nat.add_sub_cancel' (by omega), Char.ofNat_toNat]
    · cases h

theorem value?_digit : ∀ {v : Nat}, v < 16 → value? (digit v) = some v := by
  decide +kernel

/-! ## Numbers -/

theorem read?_concat (cs : List Char) (c : Char) :
    read? (cs ++ [c]) = (read? cs).bind fun n => (value? c).map (16 * n + ·) := by
  unfold read?
  rw [List.foldl_append]
  rfl

theorem read?_digits {width n : Nat} (h : n < 16 ^ width) : read? (digits width n) = some n := by
  induction width generalizing n with
  | zero =>
    rw [Nat.lt_one_iff.mp h]
    rfl
  | succ width ih =>
    have hdiv : n / 16 < 16 ^ width := Nat.div_lt_of_lt_mul (by rwa [Nat.pow_succ'] at h)
    rw [digits, read?_concat, ih hdiv, value?_digit (Nat.mod_lt n (by decide))]
    exact congrArg some (Nat.div_add_mod n 16)

/-- The digits of what was read are those that were read. -/
theorem digits_of_read? {cs : List Char} {n : Nat} (h : read? cs = some n) :
    n < 16 ^ cs.length ∧ digits cs.length n = cs := by
  induction cs using List.reverseRecOn generalizing n with
  | nil =>
    cases h
    exact ⟨by decide, rfl⟩
  | append_singleton cs c ih =>
    rw [read?_concat] at h
    obtain ⟨m, hm, h⟩ := Option.bind_eq_some_iff.mp h
    obtain ⟨v, hv, rfl⟩ := Option.map_eq_some_iff.mp h
    obtain ⟨hlt, hdigits⟩ := ih hm
    obtain ⟨hv16, hdigit⟩ := digit_of_value? hv
    rw [List.length_append, List.length_singleton]
    constructor
    · rw [Nat.pow_succ']
      omega
    · rw [digits, Nat.mul_add_div (by decide), Nat.div_eq_of_lt hv16, Nat.add_zero, hdigits,
        Nat.mul_add_mod, Nat.mod_eq_of_lt hv16, hdigit]

/-- A text reads as a number exactly if it is the text of that number. -/
theorem read?_eq_some_iff {cs : List Char} {n : Nat} :
    read? cs = some n ↔ n < 16 ^ cs.length ∧ digits cs.length n = cs := by
  refine ⟨digits_of_read?, fun ⟨hlt, hdigits⟩ => ?_⟩
  rw [← read?_digits hlt, hdigits]

/-- What was read is a given number exactly if its text is. -/
theorem eq_iff_of_read? {cs : List Char} {n m : Nat} (h : read? cs = some n)
    (hm : m < 16 ^ cs.length) : n = m ↔ cs = digits cs.length m := by
  constructor
  · rintro rfl
    exact (digits_of_read? h).2.symm
  · intro hcs
    have hread := read?_eq_some_iff.mpr ⟨hm, hcs.symm⟩
    rw [h] at hread
    exact Option.some.inj hread

/-- Digits read as a number, and nothing else does. -/
theorem read?_isSome_iff (cs : List Char) : (read? cs).isSome = true ↔ ∀ c ∈ cs, IsDigit c := by
  induction cs using List.reverseRecOn with
  | nil => simp [read?]
  | append_singleton cs c ih =>
    rw [read?_concat, List.forall_mem_append, ← ih, List.forall_mem_singleton, ← value?_isSome_iff]
    cases read? cs <;> simp

end Hex

namespace TraceParent

/-! ## The grammar -/

/-- A field of lower-case hexadecimal digits. -/
def IsField (width : Nat) (cs : List Char) : Prop := cs.length = width ∧ ∀ c ∈ cs, Hex.IsDigit c

/-- The end of a header, where one line break may stand. -/
def IsEnd (cs : List Char) : Prop := cs = [] ∨ cs = ['\n']

/-- Blanks up to the end. -/
def IsClosing (cs : List Char) : Prop :=
  ∃ blanks ending, cs = blanks ++ ending ∧ (∀ c ∈ blanks, c = ' ' ∨ c = '\t') ∧ IsEnd ending

/-- A dash and anything on the same line, up to the end. -/
def IsContinued (cs : List Char) : Prop :=
  ∃ more ending, cs = '-' :: (more ++ ending) ∧ '\n' ∉ more ∧ IsEnd ending

/-- The parts of a header. -/
structure Parts where
  version : List Char
  traceId : List Char
  spanId : List Char
  flags : List Char
  rest : List Char

/-- The text that they are the parts of. -/
def Parts.text (p : Parts) : List Char :=
  p.version ++ '-' :: (p.traceId ++ '-' :: (p.spanId ++ '-' :: (p.flags ++ p.rest)))

/-- A header is acceptable, and these are its parts: it is no longer than 512 characters, may begin
with blanks, and has a version, a trace id, a span id and flags of 2, 32, 16 and 2 digits.  The ids
are not all zeros, and the version is not the reserved one.  Only blanks may follow, or in other
versions than the first also further fields. -/
structure Accepts (header : String) (p : Parts) : Prop where
  short : header.length ≤ 512
  text : ∃ blanks, header.toList = blanks ++ p.text ∧ ∀ c ∈ blanks, c = ' ' ∨ c = '\t'
  version : IsField 2 p.version
  traceId : IsField 32 p.traceId
  spanId : IsField 16 p.spanId
  flags : IsField 2 p.flags
  traced : p.traceId ≠ List.replicate 32 '0'
  spanned : p.spanId ≠ List.replicate 16 '0'
  unreserved : p.version ≠ ['f', 'f']
  rest : IsClosing p.rest ∨ p.version ≠ ['0', '0'] ∧ IsContinued p.rest

/-! ## Reading the parts -/

theorem isBlank_iff (c : Char) : TraceState.isBlank c = true ↔ c = ' ' ∨ c = '\t' := by
  simp [TraceState.isBlank]

theorem atEnd_iff (cs : List Char) : atEnd cs = true ↔ IsEnd cs := by
  simp [atEnd, IsEnd]

theorem readHex?_eq_some_iff {width : Nat} {cs rest : List Char} {n : Nat} :
    readHex? width cs = some (n, rest) ↔
      ∃ field, cs = field ++ rest ∧ field.length = width ∧ Hex.read? field = some n := by
  unfold readHex?
  constructor
  · intro h
    dsimp only at h
    split at h
    · next hlength =>
      obtain ⟨m, hm, heq⟩ := Option.map_eq_some_iff.mp h
      cases heq
      exact ⟨_, (List.take_append_drop width cs).symm, hlength, hm⟩
    · cases h
  · rintro ⟨field, rfl, rfl, hread⟩
    simp [hread]

theorem readDash?_eq_some_iff {cs rest : List Char} : readDash? cs = some rest ↔ cs = '-' :: rest := by
  unfold readDash?
  split
  · next => simp
  · next h => exact ⟨nofun, fun heq => absurd heq (h rest)⟩

/-- What comes before the end is as long as it can be, if it does not go on to the end. -/
theorem isEnd_dropWhile_iff {p : Char → Bool} (hp : p '\n' = false) (cs : List Char) :
    IsEnd (cs.dropWhile p) ↔
      ∃ before ending, cs = before ++ ending ∧ (∀ c ∈ before, p c = true) ∧ IsEnd ending := by
  constructor
  · intro h
    exact ⟨_, _, List.takeWhile_append_dropWhile.symm, fun c hc =>
      List.all_eq_true.mp List.all_takeWhile c hc, h⟩
  · rintro ⟨before, ending, rfl, hbefore, hend⟩
    rw [List.dropWhile_append_of_pos hbefore]
    rcases hend with rfl | rfl
    · exact .inl rfl
    · exact .inr (List.dropWhile_cons_of_neg (by rw [hp]; exact Bool.false_ne_true))

theorem isClosing_iff (cs : List Char) : IsClosing cs ↔ IsEnd (cs.dropWhile TraceState.isBlank) := by
  rw [isEnd_dropWhile_iff rfl]
  unfold IsClosing
  simp only [isBlank_iff]

theorem isContinued_iff (rest : List Char) :
    IsContinued ('-' :: rest) ↔ IsEnd (rest.dropWhile (· != '\n')) := by
  rw [isEnd_dropWhile_iff rfl]
  unfold IsContinued
  simp only [List.cons.injEq, true_and]
  refine exists₂_congr fun more ending => and_congr_right fun _ => and_congr_left fun _ => ?_
  simp only [bne_iff_ne, ne_eq]
  exact ⟨fun h c hc heq => h (heq ▸ hc), fun h hmem => h _ hmem rfl⟩

theorem readTail?_eq_some_iff {cs : List Char} {more : Bool} :
    readTail? cs = some more ↔ if more then IsContinued cs else IsClosing cs := by
  unfold readTail?
  split
  · next rest =>
    have hclosing : ¬IsClosing ('-' :: rest) := by
      rw [isClosing_iff]
      exact nofun
    have hend := (atEnd_iff _).trans (isContinued_iff rest).symm
    split
    · next h => cases more <;> simp [hclosing, hend.mp h]
    · next h => cases more <;> simp [hclosing, mt hend.mpr h]
  · next hdash =>
    have hcontinued : ¬IsContinued cs := by
      rintro ⟨m, ending, h, -⟩
      exact hdash _ h
    have hend := (atEnd_iff _).trans (isClosing_iff cs).symm
    split
    · next h => cases more <;> simp [hcontinued, hend.mp h]
    · next h => cases more <;> simp [hcontinued, mt hend.mpr h]

/-! ## Reading a header -/

/-- Reading a header part by part. -/
theorem read?_eq_some_iff {header : String} {c : SpanContext} :
    read? header = some c ↔
      header.length ≤ 512 ∧ ∃ (p : Parts) (version : Nat) (more : Bool),
        header.toList.dropWhile TraceState.isBlank = p.text ∧
        (p.version.length = 2 ∧ Hex.read? p.version = some version) ∧
        (p.traceId.length = 32 ∧ Hex.read? p.traceId = some c.traceId) ∧
        (p.spanId.length = 16 ∧ Hex.read? p.spanId = some c.spanId) ∧
        (p.flags.length = 2 ∧ Hex.read? p.flags = some c.flags) ∧
        (if more then IsContinued p.rest else IsClosing p.rest) ∧
        ¬(c.traceId = 0 ∨ c.spanId = 0) ∧ ¬(version = 0 ∧ more = true) ∧ version ≠ 255 ∧
        c.state = [] := by
  unfold read?
  by_cases hlength : header.length > 512
  · rw [if_pos hlength]
    exact iff_of_false nofun fun h => absurd h.1 (Nat.not_le_of_lt hlength)
  · rw [if_neg hlength]
    simp only [bind, pure, Option.bind_eq_some_iff, Option.bind_none, Prod.exists,
      readHex?_eq_some_iff, readDash?_eq_some_iff, readTail?_eq_some_iff,
      Option.ite_none_left_eq_some, Option.some.injEq]
    constructor
    · rintro ⟨version, _, ⟨v, hv, hlen, hread⟩, _, rfl, t, _, ⟨_, rfl, ht⟩, _, rfl, s, _,
        ⟨_, rfl, hs⟩, _, rfl, f, rest, ⟨_, rfl, hf⟩, more, hmore, hids, hversion, hff, rfl⟩
      exact ⟨Nat.le_of_not_lt hlength, ⟨v, _, _, _, rest⟩, version, more, hv, ⟨hlen, hread⟩, ht, hs,
        hf, hmore, hids, hversion, hff, rfl⟩
    · rintro ⟨-, p, version, more, htext, hv, ht, hs, hf, hmore, hids, hversion, hff, hstate⟩
      refine ⟨version, _, ⟨_, htext, hv⟩, _, rfl, _, _, ⟨_, rfl, ht⟩, _, rfl, _, _, ⟨_, rfl, hs⟩, _,
        rfl, _, _, ⟨_, rfl, hf⟩, more, hmore, hids, hversion, hff, ?_⟩
      rw [← hstate]

/-- The blanks that a header begins with end where its parts begin, as these begin with a digit. -/
theorem dropWhile_isBlank_iff {cs : List Char} {p : Parts} (hv : IsField 2 p.version) :
    cs.dropWhile TraceState.isBlank = p.text ↔
      ∃ blanks, cs = blanks ++ p.text ∧ ∀ c ∈ blanks, c = ' ' ∨ c = '\t' := by
  have htext : p.text.dropWhile TraceState.isBlank = p.text := by
    obtain ⟨hlength, hdigits⟩ := hv
    unfold Parts.text
    cases hversion : p.version with
    | nil =>
      rw [hversion] at hlength
      cases hlength
    | cons c rest =>
      refine List.dropWhile_cons_of_neg fun hblank => ?_
      have hdigit := hdigits c (hversion ▸ List.mem_cons_self)
      rcases (isBlank_iff c).mp hblank with rfl | rfl <;> revert hdigit <;>
        unfold Hex.IsDigit <;> decide
  constructor
  · intro h
    refine ⟨cs.takeWhile TraceState.isBlank, ?_, fun c hc => ?_⟩
    · rw [← h, List.takeWhile_append_dropWhile]
    · exact (isBlank_iff c).mp (List.all_eq_true.mp List.all_takeWhile c hc)
  · rintro ⟨blanks, rfl, hblanks⟩
    rw [List.dropWhile_append_of_pos fun c hc => (isBlank_iff c).mpr (hblanks c hc), htext]

/-- A field that reads as a number. -/
theorem isField_iff {width : Nat} {cs : List Char} :
    IsField width cs ↔ ∃ n, cs.length = width ∧ Hex.read? cs = some n := by
  unfold IsField
  rw [← Hex.read?_isSome_iff, Option.isSome_iff_exists, exists_and_left]

/-- An acceptable header is read, and what is read shows as the digits of the header. -/
theorem Accepts.read? {header : String} {p : Parts} (h : Accepts header p) :
    ∃ c, TraceParent.read? header = some c ∧ c.traceText = String.ofList p.traceId ∧
      c.spanText = String.ofList p.spanId ∧ Hex.render 2 c.flags = String.ofList p.flags ∧
      c.state = [] := by
  obtain ⟨version, hvlen, hversion⟩ := isField_iff.mp h.version
  obtain ⟨t, htlen, ht⟩ := isField_iff.mp h.traceId
  obtain ⟨s, hslen, hs⟩ := isField_iff.mp h.spanId
  obtain ⟨f, hflen, hf⟩ := isField_iff.mp h.flags
  have hids : ¬(t = 0 ∨ s = 0) := by
    rw [Hex.eq_iff_of_read? ht (by positivity), Hex.eq_iff_of_read? hs (by positivity), htlen,
      hslen]
    exact not_or.mpr ⟨h.traced, h.spanned⟩
  have hff : version ≠ 255 := by
    rw [ne_eq, Hex.eq_iff_of_read? hversion (by rw [hvlen]; decide), hvlen]
    exact h.unreserved
  have hzero : version = 0 ↔ p.version = ['0', '0'] := by
    rw [Hex.eq_iff_of_read? hversion (by positivity), hvlen]
    rfl
  have hrest : ∃ more : Bool, (if more then IsContinued p.rest else IsClosing p.rest) ∧
      ¬(version = 0 ∧ more = true) := by
    rcases h.rest with hclosing | ⟨hother, hcontinued⟩
    · exact ⟨false, hclosing, nofun⟩
    · exact ⟨true, hcontinued, fun hv => hother (hzero.mp hv.1)⟩
  obtain ⟨more, hmore, hfirst⟩ := hrest
  refine ⟨{ traceId := t, spanId := s, flags := f }, read?_eq_some_iff.mpr ⟨h.short, p, version, more,
    (dropWhile_isBlank_iff h.version).mpr h.text, ⟨hvlen, hversion⟩, ⟨htlen, ht⟩, ⟨hslen, hs⟩,
    ⟨hflen, hf⟩, hmore, hids, hfirst, hff, rfl⟩, ?_, ?_, ?_, rfl⟩
  · exact congrArg String.ofList (htlen ▸ (Hex.digits_of_read? ht).2)
  · exact congrArg String.ofList (hslen ▸ (Hex.digits_of_read? hs).2)
  · exact congrArg String.ofList (hflen ▸ (Hex.digits_of_read? hf).2)

/-- The acceptable headers are those that are read. -/
theorem accepts_iff {header : String} :
    (∃ p, Accepts header p) ↔ (TraceParent.read? header).isSome = true := by
  constructor
  · rintro ⟨p, h⟩
    obtain ⟨c, hc, -⟩ := h.read?
    rw [hc]
    rfl
  · intro h
    obtain ⟨c, hc⟩ := Option.isSome_iff_exists.mp h
    obtain ⟨hshort, p, version, more, htext, ⟨hvlen, hversion⟩, ⟨htlen, ht⟩, ⟨hslen, hs⟩, hf, hmore,
      hids, hfirst, hff, -⟩ := read?_eq_some_iff.mp hc
    have hv : IsField 2 p.version := isField_iff.mpr ⟨version, hvlen, hversion⟩
    rw [not_or, Hex.eq_iff_of_read? ht (by positivity), Hex.eq_iff_of_read? hs (by positivity),
      htlen, hslen] at hids
    rw [ne_eq, Hex.eq_iff_of_read? hversion (by rw [hvlen]; decide), hvlen] at hff
    rw [Hex.eq_iff_of_read? hversion (by positivity), hvlen] at hfirst
    refine ⟨p, hshort, (dropWhile_isBlank_iff hv).mp htext, hv, isField_iff.mpr ⟨_, htlen, ht⟩,
      isField_iff.mpr ⟨_, hslen, hs⟩, isField_iff.mpr ⟨_, hf⟩, hids.1, hids.2, hff, ?_⟩
    cases more with
    | false => exact .inl hmore
    | true => exact .inr ⟨fun hzero => hfirst ⟨hzero, rfl⟩, hmore⟩

end TraceParent

end SpanLifecycle
