import StateMachine.Declaration
import StateMachine.Diagram.Dot

/-!
# Writing where there is little room

A document is written in many parts, and a writer may take less of a part than it is offered. What
has not been taken is offered again, so however the bytes are cut, a writer takes them in their
order and without gaps, until it fails.

* `Offer`, `Writer.recorded`: what a writer is offered, and a writer that keeps a record of this.
* `Writer.Writes`: the offers that are made to write some bytes.
* `Writer.buffer`: a writer with room for everything.
* `Writer.Limited`: writers with room for a number of bytes. `Sink.limited_writer` is about those
  that a session uses.
* `Delivered`: what becomes of bytes where there is little room.
* `Definition.writeDot_eq`: a document is written as one list of parts.
* `Definition.writeDot_limited`: how much of a document is written.
-/

namespace StateMachine

variable {σ : Type}

/-! ## Bytes -/

theorem utf8_append (a b : String) : utf8 (a ++ b) = utf8 a ++ utf8 b := by
  simp [utf8, String.toByteArray_append, ByteArray.data_append]

theorem utf8_join (texts : List String) : utf8 (String.join texts) = texts.flatMap utf8 := by
  induction texts with
  | nil => rfl
  | cons text rest ih => rw [String.join_cons, utf8_append, ih, List.flatMap_cons]

/-- A text is read back from its bytes, and no byte is replaced. -/
theorem fromUTF8?_utf8 (text : String) :
    String.fromUTF8? ⟨(utf8 text).toArray⟩ = some text := by
  have same : (⟨(utf8 text).toArray⟩ : ByteArray) = text.toUTF8 := by simp [utf8]
  rw [same, String.fromUTF8?, String.toUTF8_eq_toByteArray, dif_pos text.isValidUTF8]
  rfl

/-! ## Offers -/

/-- Bytes that a writer was offered, and its answer. -/
structure Offer where
  bytes : List UInt8
  answer : Except Failure Nat

/-- The failure that comes of an offer, if one does. It is one to take nothing. -/
def Offer.failure? (o : Offer) : Option Failure :=
  match o.answer with
  | .error f => some f
  | .ok 0 => some Writer.stuck
  | .ok (_ + 1) => none

namespace Writer

/-- The same writer, which also keeps a record of the offers that it gets. -/
def recorded (w : Writer σ) : Writer (σ × List Offer) where
  write s bytes :=
    let (s', answer) := w.write s.1 bytes
    ((s', s.2 ++ [⟨bytes, answer⟩]), answer)

/-- How bytes are written. A writer is offered some of the first of them, and then some of those
that it has not taken, until it has taken all or an offer comes to a failure. -/
inductive Writes (w : Writer σ) :
    σ → List UInt8 → List Offer → σ × Except Failure Unit → Prop
  | done {s} : Writes w s [] [] (s, .ok ())
  | taken {s s' offered rest k offers out} (nonempty : offered ≠ [])
      (answer : w.write s offered = (s', .ok (k + 1)))
      (more : Writes w s' (offered.drop (k + 1) ++ rest) offers out) :
      Writes w s (offered ++ rest) (⟨offered, .ok (k + 1)⟩ :: offers) out
  | failed {s s' offered rest a f} (nonempty : offered ≠ []) (answer : w.write s offered = (s', a))
      (failure : (Offer.mk offered a).failure? = some f) :
      Writes w s (offered ++ rest) [⟨offered, a⟩] (s', .error f)

variable {w : Writer σ} {s s' : σ} {bytes bytes' : List UInt8} {offers offers' : List Offer}
  {out : σ × Except Failure Unit} {f : Failure}

namespace Writes

theorem of_failure {a : Except Failure Nat} (nonempty : bytes ≠ [])
    (answer : w.write s bytes = (s', a)) (failure : (Offer.mk bytes a).failure? = some f) :
    w.Writes s bytes [⟨bytes, a⟩] (s', .error f) := by
  have writes : w.Writes s (bytes ++ []) [⟨bytes, a⟩] (s', .error f) :=
    .failed nonempty answer failure
  rwa [List.append_nil] at writes

theorem append (h : w.Writes s bytes offers (s', .ok ())) (h' : w.Writes s' bytes' offers' out) :
    w.Writes s (bytes ++ bytes') (offers ++ offers') out := by
  generalize hout : (s', Except.ok ()) = first at h
  induction h with
  | done =>
    cases hout
    exact h'
  | taken nonempty answer more ih =>
    rw [List.append_assoc]
    refine .taken nonempty answer ?_
    rw [← List.append_assoc]
    exact ih hout
  | failed => cases hout

theorem append_of_error (h : w.Writes s bytes offers (s', .error f)) :
    w.Writes s (bytes ++ bytes') offers (s', .error f) := by
  generalize hout : (s', Except.error f) = first at h ⊢
  induction h with
  | done => cases hout
  | taken nonempty answer more ih =>
    rw [List.append_assoc]
    refine .taken nonempty answer ?_
    rw [← List.append_assoc]
    exact ih hout
  | failed nonempty answer failure =>
    rw [List.append_assoc]
    exact .failed nonempty answer failure

theorem result_eq (h : w.Writes s bytes offers out) :
    out.2 = match offers.findSome? Offer.failure? with
      | some f => .error f
      | none => .ok () := by
  induction h with
  | done => rfl
  | taken nonempty answer more ih => exact ih
  | failed nonempty answer failure => simp [failure]

theorem silent (h : w.Writes s bytes offers out) :
    offers.Pairwise fun o _ => o.failure? = none := by
  induction h with
  | done => exact .nil
  | taken nonempty answer more ih => exact .cons (fun _ _ => rfl) ih
  | failed => exact List.pairwise_singleton ..

end Writes

/-- What a writer is offered to write bytes, whether it keeps a record or not. -/
theorem writeAll_writes (w : Writer σ) (s : σ) (bytes : List UInt8) :
    ∃ offers, w.Writes s bytes offers (w.writeAll s bytes) ∧ ∀ l,
      w.recorded.writeAll (s, l) bytes =
        (((w.writeAll s bytes).1, l ++ offers), (w.writeAll s bytes).2) := by
  fun_induction writeAll w s bytes with
  | case1 s => exact ⟨[], .done, fun l => by rw [writeAll, List.append_nil]⟩
  | case2 s b rest s' f answer =>
    exact ⟨_, .of_failure (List.cons_ne_nil b rest) answer rfl, fun l => by
      simp only [writeAll, recorded, answer]⟩
  | case3 s b rest s' answer =>
    exact ⟨_, .of_failure (List.cons_ne_nil b rest) answer rfl, fun l => by
      simp only [writeAll, recorded, answer]⟩
  | case4 s b rest s' k answer ih =>
    obtain ⟨offers, writes, same⟩ := ih
    refine ⟨⟨b :: rest, .ok (k + 1)⟩ :: offers, ?_, fun l => ?_⟩
    · have more : w.Writes s' ((b :: rest).drop (k + 1) ++ []) offers
          (w.writeAll s' (rest.drop k)) := by
        rw [List.append_nil]
        exact writes
      have all := Writes.taken (List.cons_ne_nil b rest) answer more
      rwa [List.append_nil] at all
    · rw [writeAll]
      simp only [recorded, answer]
      exact (same _).trans (by rw [List.append_assoc, List.singleton_append])

/-- The same for texts that are written one after the other. -/
theorem writeTexts_writes (w : Writer σ) (s : σ) (texts : List String) :
    ∃ offers, w.Writes s (texts.flatMap utf8) offers (w.writeTexts s texts) ∧ ∀ l,
      w.recorded.writeTexts (s, l) texts =
        (((w.writeTexts s texts).1, l ++ offers), (w.writeTexts s texts).2) := by
  induction texts generalizing s with
  | nil => exact ⟨[], .done, fun l => by rw [writeTexts, List.append_nil]; rfl⟩
  | cons text rest ih =>
    obtain ⟨offers, writes, same⟩ := w.writeAll_writes s (utf8 text)
    rw [List.flatMap_cons]
    generalize hfirst : w.writeAll s (utf8 text) = first at writes same
    obtain ⟨s', result⟩ := first
    cases result with
    | error f =>
      simp only [writeTexts, hfirst]
      exact ⟨offers, writes.append_of_error, fun l => by rw [same]⟩
    | ok =>
      obtain ⟨offers', writes', same'⟩ := ih s'
      simp only [writeTexts, hfirst]
      exact ⟨offers ++ offers', writes.append writes', fun l => by
        rw [same]
        exact (same' _).trans (by rw [List.append_assoc])⟩

/-- A writer that takes all that it is offered. -/
def buffer : Writer (List UInt8) where
  write s bytes := (s ++ bytes, .ok bytes.length)

theorem writeAll_buffer (s bytes : List UInt8) : buffer.writeAll s bytes = (s ++ bytes, .ok ()) := by
  cases bytes with
  | nil => rw [writeAll, List.append_nil]
  | cons b rest =>
    rw [writeAll]
    simp only [buffer, List.length_cons, List.drop_length]
    rw [writeAll]

theorem writeTexts_buffer (s : List UInt8) (texts : List String) :
    buffer.writeTexts s texts = (s ++ texts.flatMap utf8, .ok ()) := by
  induction texts generalizing s with
  | nil => rw [writeTexts, List.flatMap_nil, List.append_nil]
  | cons text rest ih =>
    rw [writeTexts, writeAll_buffer]
    exact (ih _).trans (by rw [List.flatMap_cons, List.append_assoc])

/-! ## Writers with little room -/

/-- A writer with room for a number of bytes. While there is room it takes some bytes of what it is
offered, at least one and otherwise as many as it likes. Then it fails, or takes none. -/
structure Limited (w : Writer σ) (room : σ → Nat) (taken : σ → List UInt8) : Prop where
  takes : ∀ s bytes, bytes ≠ [] → room s ≠ 0 → ∃ s' k, w.write s bytes = (s', .ok (k + 1)) ∧
    k < bytes.length ∧ k < room s ∧ room s' = room s - (k + 1) ∧
      taken s' = taken s ++ bytes.take (k + 1)
  stops : ∀ s bytes, bytes ≠ [] → room s = 0 →
    (Offer.mk bytes (w.write s bytes).2).failure? ≠ none ∧ taken (w.write s bytes).1 = taken s

end Writer

/-- What becomes of bytes that are written where there is room for `n` of them: what has been taken
before and after, the offers, and the result. -/
structure Delivered (n : Nat) (bytes : List UInt8) (before after : List UInt8)
    (offers : List Offer) (result : Except Failure Unit) : Prop where
  /-- It succeeds exactly if there is room for all bytes. -/
  succeeds : result = .ok () ↔ bytes.length ≤ n
  /-- The first bytes are taken, as many as there is room for. -/
  taken : after = before ++ bytes.take (min n bytes.length)
  /-- If it does not succeed, the first offer that came to a failure tells why. -/
  tells : result = match offers.findSome? Offer.failure? with
    | some f => .error f
    | none => .ok ()
  /-- Nothing is offered after such an offer. -/
  silent : offers.Pairwise fun o _ => o.failure? = none

namespace Writer

variable {w : Writer σ} {room : σ → Nat} {taken : σ → List UInt8} {s : σ} {bytes : List UInt8}
  {offers : List Offer} {out : σ × Except Failure Unit}

/-- An offer is answered by how much room there is. -/
theorem Limited.takes_of_ok (limited : w.Limited room taken) {s' : σ} {k : Nat}
    (nonempty : bytes ≠ []) (answer : w.write s bytes = (s', .ok (k + 1))) :
    k < bytes.length ∧ k < room s ∧ room s' = room s - (k + 1) ∧
      taken s' = taken s ++ bytes.take (k + 1) := by
  by_cases full : room s = 0
  · have stops := (limited.stops s bytes nonempty full).1
    rw [answer] at stops
    exact absurd rfl stops
  · obtain ⟨s'', k', answer', takes⟩ := limited.takes s bytes nonempty full
    rw [answer] at answer'
    cases answer'
    exact takes

theorem Limited.full_of_failure (limited : w.Limited room taken) {f : Failure}
    (nonempty : bytes ≠ []) (failure : (Offer.mk bytes (w.write s bytes).2).failure? = some f) :
    room s = 0 := by
  refine Decidable.byContradiction fun more => ?_
  obtain ⟨s', k, answer, -⟩ := limited.takes s bytes nonempty more
  rw [answer] at failure
  exact nomatch failure

/-- A writer takes as many bytes as it has room for. The induction is on the offers: what one of them
leaves is what the next ones are made from. -/
theorem Writes.fits (limited : w.Limited room taken) (h : w.Writes s bytes offers out) :
    (out.2 = .ok () ↔ bytes.length ≤ room s) ∧
      taken out.1 = taken s ++ bytes.take (room s) := by
  induction h with
  | done => simp
  | @taken s s' offered rest k offers out nonempty answer more ih =>
    obtain ⟨offered_le, room_le, room_eq, taken_eq⟩ := limited.takes_of_ok nonempty answer
    have split : offered ++ rest = offered.take (k + 1) ++ (offered.drop (k + 1) ++ rest) := by
      rw [← List.append_assoc, List.take_append_drop]
    have length : (offered.take (k + 1)).length = k + 1 := List.length_take_of_le offered_le
    have sum : (offered ++ rest).length = k + 1 + (offered.drop (k + 1) ++ rest).length := by
      rw [split, List.length_append, length]
    have fits : room s = (offered.take (k + 1)).length + (room s - (k + 1)) := by omega
    rw [room_eq, taken_eq] at ih
    constructor
    · rw [ih.1, sum]
      omega
    · rw [ih.2, split, fits, List.take_length_add_append, length, Nat.add_sub_cancel_left,
        List.append_assoc]
  | @failed s s' offered rest a f nonempty answer failure =>
    have stuck : (Offer.mk offered (w.write s offered).2).failure? = some f := by rwa [answer]
    have full := limited.full_of_failure nonempty stuck
    have taken_eq := (limited.stops s offered nonempty full).2
    rw [answer] at taken_eq
    refine ⟨iff_of_false nofun ?_, by rw [full, List.take_zero, List.append_nil, taken_eq]⟩
    have := List.length_pos_iff.2 nonempty
    rw [List.length_append]
    omega

end Writer

/-- However the bytes are cut, a writer takes as many of them as it has room for. -/
theorem Writer.Writes.delivered {w : Writer σ} {room : σ → Nat} {taken : σ → List UInt8}
    (limited : w.Limited room taken) {s : σ} {bytes : List UInt8} {offers : List Offer}
    {out : σ × Except Failure Unit} (h : w.Writes s bytes offers out) :
    Delivered (room s) bytes (taken s) (taken out.1) offers out.2 := by
  obtain ⟨succeeds, taken_eq⟩ := h.fits limited
  refine ⟨succeeds, ?_, h.result_eq, h.silent⟩
  rw [taken_eq]
  simp

namespace Sink

/-- The writers that a session uses have room for what is left of their capacity. -/
theorem limited_writer (overflow : Overflow) (portion : Sink → List UInt8 → Nat) :
    (Sink.writer overflow portion).Limited Sink.room Sink.taken where
  takes s bytes nonempty more := by
    obtain ⟨room, taken⟩ := s
    obtain ⟨room, rfl⟩ := Nat.exists_eq_succ_of_ne_zero more
    have some := List.length_pos_iff.2 nonempty
    obtain ⟨k, hk⟩ : ∃ k, min (min (max 1 (portion ⟨room + 1, taken⟩ bytes)) (room + 1))
        bytes.length = k + 1 := Nat.exists_eq_succ_of_ne_zero (by omega)
    refine ⟨⟨room - k, taken ++ bytes.take (k + 1)⟩, k, ?_, by omega, ?_, ?_, rfl⟩
    · simp only [writer, hk, Nat.add_sub_add_right]
    · show k < room + 1
      omega
    · show room - k = room + 1 - (k + 1)
      omega
  stops s bytes nonempty full := by
    obtain ⟨room, taken⟩ := s
    obtain rfl : room = 0 := full
    cases overflow <;> exact ⟨nofun, rfl⟩

end Sink

/-! ## Documents -/

namespace Writer

variable {α : Type} (w : Writer σ)

theorem writeTexts_append (s : σ) (texts more : List String) :
    w.writeTexts s (texts ++ more) = w.writeNext (w.writeTexts s texts) more := by
  induction texts generalizing s with
  | nil => rfl
  | cons text rest ih =>
    simp only [List.cons_append, writeTexts]
    split
    · rfl
    · exact ih _

theorem writeNext_append (r : σ × Except Failure Unit) (texts more : List String) :
    w.writeNext r (texts ++ more) = w.writeNext (w.writeNext r texts) more := by
  obtain ⟨s, result⟩ := r
  cases result with
  | error f => rfl
  | ok => exact w.writeTexts_append s texts more

theorem foldl_writeNext (parts : α → List String) (visited : List α)
    (r : σ × Except Failure Unit) :
    visited.foldl (fun r a => w.writeNext r (parts a)) r =
      w.writeNext r (visited.flatMap parts) := by
  induction visited generalizing r with
  | nil =>
    obtain ⟨s, result⟩ := r
    cases result <;> rfl
  | cons a rest ih => rw [List.foldl_cons, ih, List.flatMap_cons, writeNext_append]

end Writer

namespace Definition

variable {π ν : Type}

/-- The document, in the parts in which it is written. -/
def dotParts (d : Definition π ν) : List String :=
  Dot.openingParts ++ d.nodes.flatMap Node.dotParts ++ d.arrows.flatMap Arrow.dotParts ++
    [Dot.closing]

theorem join_map_join (lines : List (List String)) :
    String.join (lines.map String.join) = String.join lines.flatten := by
  induction lines with
  | nil => rfl
  | cons line rest ih =>
    rw [List.map_cons, String.join_cons, ih, List.flatten_cons, String.join_append]

theorem join_dotParts (d : Definition π ν) : String.join d.dotParts = String.join d.dotLines := by
  have opening : String.join Dot.opening = String.join Dot.openingParts := by
    have lines : Dot.attributes.map (· ++ "\n") =
        (Dot.attributes.map fun a => [a, "\n"]).map String.join := by
      simp
    rw [Dot.opening, Dot.openingParts, String.join_cons, String.join_cons, lines, join_map_join,
      List.flatMap_def]
  have nodes : d.nodes.map Node.dot = (d.nodes.map Node.dotParts).map String.join := by
    rw [List.map_map]
    exact List.map_congr_left fun n _ => by rw [Node.dot, Function.comp_apply]
  have arrows : d.arrows.map Arrow.dot = (d.arrows.map Arrow.dotParts).map String.join := by
    rw [List.map_map]
    exact List.map_congr_left fun a _ => by rw [Arrow.dot, Function.comp_apply]
  simp only [dotParts, dotLines, String.join_append, opening, nodes, arrows, join_map_join,
    List.flatMap_def]

theorem dot_eq_ok {d : Definition π ν} {text : String} (h : d.dot = .ok text) :
    d.refusal? = none ∧ utf8 text = d.dotParts.flatMap utf8 := by
  unfold dot at h
  split at h
  · exact nomatch h
  · next none =>
    cases h
    exact ⟨none, by rw [← join_dotParts, utf8_join]⟩

theorem dot_eq_error {d : Definition π ν} {reason : RenderError} (h : d.dot = .error reason) :
    d.refusal? = some reason := by
  unfold dot at h
  split at h
  · next some => rw [some, Except.error.inj h]
  · exact nomatch h

/-- A document is written as one list of parts, although the arrows are all visited. -/
theorem writeDot_eq {d : Definition π ν} (none : d.refusal? = none) (w : Writer σ) (s : σ) :
    d.writeDot w s =
      ((w.writeTexts s d.dotParts).1, (w.writeTexts s d.dotParts).2.mapError .io) := by
  have parts : w.writeTexts s d.dotParts = w.writeNext (d.arrows.foldl
      (fun r a => w.writeNext r a.dotParts)
      (w.writeTexts s (Dot.openingParts ++ d.nodes.flatMap Node.dotParts))) [Dot.closing] := by
    rw [w.foldl_writeNext, dotParts, w.writeTexts_append, w.writeTexts_append]
  rw [parts, writeDot, none]
  dsimp only
  generalize w.writeTexts s (Dot.openingParts ++ d.nodes.flatMap Node.dotParts) = header
  obtain ⟨s', result⟩ := header
  cases result with
  | error f =>
    rw [w.foldl_writeNext]
    rfl
  | ok =>
    dsimp only
    generalize w.writeNext _ [Dot.closing] = written
    obtain ⟨s'', result⟩ := written
    cases result <;> rfl

/-- How much of a document is written. Nothing is, if the definition is refused. Otherwise the
document is what a buffer is left with, read as text. Where there is room for so many bytes, so many
of its first bytes are written, and nothing is offered after the first failure. -/
theorem writeDot_limited (d : Definition π ν) :
    (∀ reason, d.dot = .error reason → ∀ (σ : Type) (w : Writer σ) (s : σ),
      d.writeDot w.recorded (s, []) = ((s, []), .error reason)) ∧
    ∀ text, d.dot = .ok text →
      (d.writeDot .buffer [] = (utf8 text, .ok ()) ∧
        String.fromUTF8? ⟨(utf8 text).toArray⟩ = some text) ∧
      ∀ (σ : Type) (w : Writer σ) (room : σ → Nat) (taken : σ → List UInt8),
        w.Limited room taken → ∀ s, ∃ s' offers result,
          d.writeDot w s = (s', result.mapError .io) ∧
          d.writeDot w.recorded (s, []) = ((s', offers), result.mapError .io) ∧
          Delivered (room s) (utf8 text) (taken s) (taken s') offers result := by
  refine ⟨fun reason refused σ w s => ?_, fun text drawn => ?_⟩
  · rw [writeDot, dot_eq_error refused]
  · obtain ⟨none, bytes⟩ := dot_eq_ok drawn
    refine ⟨⟨?_, fromUTF8?_utf8 text⟩, fun σ w room taken limited s => ?_⟩
    · rw [writeDot_eq none, Writer.writeTexts_buffer, List.nil_append, bytes]
      rfl
    · obtain ⟨offers, writes, same⟩ := w.writeTexts_writes s d.dotParts
      refine ⟨_, offers, (w.writeTexts s d.dotParts).2, writeDot_eq none w s, ?_, ?_⟩
      · rw [writeDot_eq none, same, List.nil_append]
      · rw [bytes]
        exact writes.delivered limited

/-! ### A document to look at -/

/-- A ford, which leads from one bank to the other one of the same name. -/
def ford : Definition Unit Unit :=
  .build [.configure ⟨"gué"⟩ .plain [.permit ⟨"pass"⟩ ⟨"gué"⟩ none]]

/-- A writer that takes seven bytes at a time fails within a letter of the arrow, of which it takes
the first byte. Another one stalls when it has taken everything. Without a state, there is nothing
to write. -/
theorem ford_written : ∃ text, ford.dot = .ok text ∧
    (∃ s offers f, ford.writeDot (Sink.writer (.failing (.plain "closed")) fun _ _ => 7).recorded
        (.ofCapacity 441, []) = ((s, offers), .error (.io f)) ∧
      s.taken.length = 441 ∧ s.taken.getLast? = some 0xC3 ∧
      Delivered 441 (utf8 text) [] s.taken offers (.error f)) ∧
    (∃ s offers, ford.writeDot (Sink.writer .stalling Sink.whole).recorded
        (.ofCapacity 471, []) = ((s, offers), .ok ()) ∧ s.taken = utf8 text) ∧
    (empty : Definition Unit Unit).writeDot (Sink.writer .stalling Sink.whole).recorded
        (.ofCapacity 471, []) = ((.ofCapacity 471, []), .error .noStates) := by
  have drawn : ford.dot = .ok (String.join ford.dotLines) := by
    have none : ford.refusal? = none := by decide +kernel
    rw [dot, none]
  have bytes := (dot_eq_ok drawn).2
  have length : (ford.dotParts.flatMap utf8).length = 471 := by decide +kernel
  have cut : ((ford.dotParts.flatMap utf8).take 441).getLast? = some 0xC3 := by decide +kernel
  have limited := ((writeDot_limited ford).2 _ drawn).2 Sink
  have all : (utf8 (String.join ford.dotLines)).length = 471 := by rw [bytes, length]
  refine ⟨_, drawn, ?_, ?_, (writeDot_limited empty).1 .noStates rfl _ _ _⟩
  · obtain ⟨s, offers, result, -, written, delivered⟩ := limited _ _ _
      (Sink.limited_writer (.failing (.plain "closed")) fun _ _ => 7) (.ofCapacity 441)
    have delivered : Delivered 441 _ [] s.taken offers result := delivered
    have taken : s.taken = (ford.dotParts.flatMap utf8).take 441 := by
      rw [delivered.taken, all, bytes, List.nil_append, Nat.min_eq_left (by decide)]
    cases result with
    | error f =>
      refine ⟨s, offers, f, written, ?_, by rw [taken, cut], delivered⟩
      rw [taken, List.length_take, length, Nat.min_eq_left (by decide)]
    | ok => exact absurd (delivered.succeeds.1 rfl) (by rw [all]; decide)
  · obtain ⟨s, offers, result, -, written, delivered⟩ := limited _ _ _
      (Sink.limited_writer .stalling Sink.whole) (.ofCapacity 471)
    have delivered : Delivered 471 _ [] s.taken offers result := delivered
    obtain rfl : result = .ok () := delivered.succeeds.2 (Nat.le_of_eq all)
    refine ⟨s, offers, written, ?_⟩
    rw [delivered.taken, all]
    exact List.take_of_length_le (Nat.le_of_eq all)

end Definition

end StateMachine
