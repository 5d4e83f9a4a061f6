/-
# Backchannel.Proofs.Margins -- the blanks at the ends of a line

Off a line a session takes what ends it and leaves all else to JSON, which knows four blanks.
Who reads a body takes every blank off both ends.  So the two find the same frame in a line
as long as those are blanks that JSON passes over (`Plain`), and if not, a session finds none
(`parse_trimmed`).  What both look for in the frame is the same response (`answerIn?`).
-/
import Backchannel.Http.Replies
import Backchannel.Proofs.Json.Around
import Backchannel.Proofs.Session.Inbound

namespace Backchannel

set_option autoImplicit false

open Backchannel.Json (Blanks Enclosed isJsonBlank)
open Backchannel.Text (isBlank trimBoth trimRight)

variable {cs before inside after : List Char}

/-! ## What trimming leaves -/

namespace Text

variable {drop : Char → Bool} {c : Char} {t : List Char}

theorem dropWhile_behind (dropped : ∀ x ∈ before, drop x = true) (kept : drop c = false) :
    (before ++ c :: t).dropWhile drop = c :: t := by
  rw [List.dropWhile_append_of_pos dropped]
  exact List.dropWhile_cons_of_neg (by rw [kept]; exact Bool.false_ne_true)

theorem takeWhile_behind (dropped : ∀ x ∈ before, drop x = true) (kept : drop c = false) :
    (before ++ c :: t).takeWhile drop = before := by
  rw [List.takeWhile_append_of_pos dropped,
    List.takeWhile_cons_of_neg (by rw [kept]; exact Bool.false_ne_true), List.append_nil]

/-- What is trimmed off the end of a text, and what is left. -/
theorem trimRight_split (drop : Char → Bool) (cs : List Char) :
    ∃ after, (∀ x ∈ after, drop x = true) ∧ cs = trimRight drop cs ++ after := by
  refine ⟨(cs.reverse.takeWhile drop).reverse, fun x among => ?_, ?_⟩
  · exact List.all_eq_true.mp List.all_takeWhile x (List.mem_reverse.mp among)
  · rw [trimRight, ← List.reverse_append, List.takeWhile_append_dropWhile, List.reverse_reverse]

/-- What is trimmed off both ends, and what is left. -/
theorem trimBoth_split (drop : Char → Bool) (cs : List Char) :
    ∃ before after, (∀ x ∈ before, drop x = true) ∧ (∀ x ∈ after, drop x = true) ∧
      cs = before ++ (trimBoth drop cs ++ after) := by
  obtain ⟨after, dropped, split⟩ := trimRight_split drop (cs.dropWhile drop)
  refine ⟨cs.takeWhile drop, after, fun x among => ?_, dropped, ?_⟩
  · exact List.all_eq_true.mp List.all_takeWhile x among
  · calc cs
      _ = cs.takeWhile drop ++ cs.dropWhile drop := List.takeWhile_append_dropWhile.symm
      _ = cs.takeWhile drop ++ (trimBoth drop cs ++ after) := congrArg _ split

/-- Only what stands behind the last character that is kept is trimmed. -/
theorem trimRight_append {last : Char} (kept : drop last = false) (front after : List Char) :
    trimRight drop (front ++ [last] ++ after) = front ++ [last] ++ trimRight drop after := by
  have stays : (last :: front.reverse).dropWhile drop = last :: front.reverse :=
    List.dropWhile_cons_of_neg (by rw [kept]; exact Bool.false_ne_true)
  simp only [trimRight, List.reverse_append, List.reverse_cons, List.reverse_nil, List.nil_append,
    List.cons_append, List.dropWhile_append, stays]
  split
  · rename_i nothing
    simp [List.isEmpty_iff.mp nothing]
  · simp

end Text

/-! ## A text between margins -/

theorem isBlank_of_isJsonBlank {c : Char} (blank : isJsonBlank c = true) : isBlank c = true := by
  simp only [isJsonBlank, Bool.or_eq_true, decide_eq_true_eq] at blank
  rcases blank with ((rfl | rfl) | rfl) | rfl <;> decide

theorem isJsonBlank_of_isLineEnd {c : Char} (ends : Notice.isLineEnd c = true) :
    isJsonBlank c = true := by
  simp only [Notice.isLineEnd, Bool.or_eq_true, beq_iff_eq] at ends
  rcases ends with rfl | rfl <;> decide

instance (cs : List Char) : Decidable (Blanks cs) :=
  decidable_of_iff (cs.all isJsonBlank = true) List.all_eq_true

theorem Json.Blanks.isBlank (blank : Blanks cs) : ∀ c ∈ cs, Text.isBlank c = true :=
  fun c among => isBlank_of_isJsonBlank (blank c among)

theorem Json.Blanks.append (front : Blanks before) (back : Blanks after) :
    Blanks (before ++ after) := by
  intro c among
  rcases List.mem_append.mp among with first | second
  · exact front c first
  · exact back c second

/-- The marks at the ends of an enclosed text. -/
theorem Json.Enclosed.marks (enclosed : Enclosed inside) :
    ∃ first last body, inside = first :: body ++ [last] ∧ Text.isBlank first = false ∧
      Text.isBlank last = false ∧ Notice.isLineEnd last = false := by
  obtain ⟨body, rfl | rfl⟩ := enclosed
  · exact ⟨'{', '}', body, rfl, by decide, by decide, by decide⟩
  · exact ⟨'[', ']', body, rfl, by decide, by decide, by decide⟩

/-- The blanks at the ends of a text are all blank to JSON. -/
def Plain (cs : List Char) : Prop :=
  Blanks (cs.takeWhile isBlank) ∧ Blanks (cs.reverse.takeWhile isBlank)

instance (cs : List Char) : Decidable (Plain cs) :=
  inferInstanceAs (Decidable (Blanks (cs.takeWhile isBlank) ∧
    Blanks (cs.reverse.takeWhile isBlank)))

section

variable (blank : ∀ c ∈ before, isBlank c = true) (blank' : ∀ c ∈ after, isBlank c = true)
  (enclosed : Enclosed inside)

include blank blank' enclosed

/-- Trimmed of all blanks, an enclosed text between margins is left. -/
theorem trimBoth_margins : trimBoth isBlank (before ++ (inside ++ after)) = inside := by
  obtain ⟨first, last, body, rfl, dark, dark', -⟩ := enclosed.marks
  have front : (before ++ (first :: body ++ [last] ++ after)).dropWhile isBlank =
      first :: body ++ [last] ++ after := Text.dropWhile_behind blank dark
  have back : (after.reverse ++ last :: (first :: body).reverse).dropWhile isBlank =
      last :: (first :: body).reverse :=
    Text.dropWhile_behind (fun c among => blank' c (List.mem_reverse.mp among)) dark'
  rw [trimBoth, front, List.reverse_append, List.reverse_append, List.reverse_singleton,
    List.singleton_append, back]
  simp

/-- And the text is plain if the margins are. -/
theorem plain_margins : Plain (before ++ (inside ++ after)) ↔ Blanks before ∧ Blanks after := by
  obtain ⟨first, last, body, rfl, dark, dark', -⟩ := enclosed.marks
  have front : (before ++ (first :: body ++ [last] ++ after)).takeWhile isBlank = before :=
    Text.takeWhile_behind blank dark
  have back : (after.reverse ++ last :: (first :: body).reverse ++ before.reverse).takeWhile
      isBlank = after.reverse := by
    rw [List.append_assoc]
    exact Text.takeWhile_behind (fun c among => blank' c (List.mem_reverse.mp among)) dark'
  have turned : (before ++ (first :: body ++ [last] ++ after)).reverse =
      after.reverse ++ last :: (first :: body).reverse ++ before.reverse := by
    simp
  rw [Plain, turned, front, back]
  simp [Blanks]

end

/-- The line feed that ends a line changes neither what is left of it nor whether it is plain. -/
theorem trimBoth_lineFeed (cs : List Char) :
    trimBoth isBlank (cs ++ ['\n']) = trimBoth isBlank cs := by
  have blank : isBlank '\n' = true := by decide
  simp only [trimBoth, List.dropWhile_append]
  split
  · rename_i nothing
    simp [List.isEmpty_iff.mp nothing, blank]
  · simp [blank]

theorem plain_lineFeed : Plain (cs ++ ['\n']) ↔ Plain cs := by
  have blank : isBlank '\n' = true := by decide
  have known : isJsonBlank '\n' = true := by decide
  have front : Blanks ((cs ++ ['\n']).takeWhile isBlank) ↔ Blanks (cs.takeWhile isBlank) := by
    rw [List.takeWhile_append]
    split
    · rename_i all
      rw [(List.takeWhile_prefix isBlank).eq_of_length all]
      simp [Blanks, blank, known, or_imp, forall_and]
    · rfl
  have back : Blanks ((cs ++ ['\n']).reverse.takeWhile isBlank) ↔
      Blanks (cs.reverse.takeWhile isBlank) := by
    simp [Blanks, blank, known]
  rw [Plain, Plain, front, back]

/-! ## Frames -/

/-- A text of a frame is the text of an object or of a list between blanks of JSON. -/
theorem InboundFrame.parse_enclosed {f : InboundFrame}
    (read : InboundFrame.decoder.parse (String.ofList cs) = .ok f) :
    ∃ before inside after, Blanks before ∧ Enclosed inside ∧ Blanks after ∧
      cs = before ++ (inside ++ after) ∧
      ∀ before' after', Blanks before' → Blanks after' →
        InboundFrame.decoder.parse (String.ofList (before' ++ (inside ++ after'))) = .ok f := by
  refine Json.Decoder.parse_enclosed ?_ read
  exact ⟨Json.Decoder.optional_isLocal Json.Decoder.text_isLocal,
    Json.Decoder.oneOf_isLocal _ _, Json.Decoder.value_isLocal, trivial⟩

/-- Without the end of its line a text is that of a frame if it is without any blanks at its
ends, and JSON passes over those. -/
theorem parse_trimmed {f : InboundFrame} :
    InboundFrame.decoder.parse (String.ofList (trimRight Notice.isLineEnd cs)) = .ok f ↔
      Plain cs ∧ InboundFrame.decoder.parse (String.ofList (trimBoth isBlank cs)) = .ok f := by
  constructor
  · intro read
    obtain ⟨before, inside, after, blank, enclosed, blank', left, again⟩ :=
      InboundFrame.parse_enclosed read
    obtain ⟨tail, ends, split⟩ := Text.trimRight_split Notice.isLineEnd cs
    have blank'' : Blanks (after ++ tail) :=
      blank'.append fun c among => isJsonBlank_of_isLineEnd (ends c among)
    have margins : cs = before ++ (inside ++ (after ++ tail)) := by rw [split, left]; simp
    have trimmed := trimBoth_margins blank.isBlank blank''.isBlank enclosed
    have plain := (plain_margins blank.isBlank blank''.isBlank enclosed).mpr ⟨blank, blank''⟩
    rw [margins, trimmed]
    refine ⟨plain, ?_⟩
    simpa using again [] [] nofun nofun
  · rintro ⟨plain, read⟩
    obtain ⟨before, inside, after, blank, enclosed, blank', left, again⟩ :=
      InboundFrame.parse_enclosed read
    obtain ⟨head, tail, dropped, dropped', split⟩ := Text.trimBoth_split isBlank cs
    have margins : cs = (head ++ before) ++ (inside ++ (after ++ tail)) := by
      rw [split, left]
      simp
    have front : ∀ c ∈ head ++ before, isBlank c = true := by
      intro c among
      rcases List.mem_append.mp among with first | second
      · exact dropped c first
      · exact blank.isBlank c second
    have back : ∀ c ∈ after ++ tail, isBlank c = true := by
      intro c among
      rcases List.mem_append.mp among with first | second
      · exact blank'.isBlank c first
      · exact dropped' c second
    rw [margins] at plain ⊢
    obtain ⟨front, back⟩ := (plain_margins front back enclosed).mp plain
    obtain ⟨first, last, body, rfl, -, -, stays⟩ := enclosed.marks
    have kept := Text.trimRight_append stays (head ++ before ++ first :: body) (after ++ tail)
    obtain ⟨_, -, rest⟩ := Text.trimRight_split Notice.isLineEnd (after ++ tail)
    have short : Blanks (trimRight Notice.isLineEnd (after ++ tail)) := fun c among =>
      back c (by rw [rest]; exact List.mem_append_left _ among)
    have same := again (head ++ before) _ front short
    simp only [List.append_assoc] at kept same ⊢
    rw [kept]
    exact same

/-! ## Answers -/

/-- The response in a text: what a frame of that event holds between the margins. -/
def answerIn? (cs : List Char) : Option Response := do
  let frame ← (InboundFrame.decoder.parse (String.ofList (trimBoth isBlank cs))).toOption
  if frame.event = .response then (Response.decoder.ofValue frame.data).toOption else none

theorem answerIn?_lineFeed (cs : List Char) : answerIn? (cs ++ ['\n']) = answerIn? cs := by
  rw [answerIn?, trimBoth_lineFeed, answerIn?]

/-- The session acts on what is left of a line, blank or not. -/
theorem Notice.ofText_eq (cs : List Char) :
    Notice.ofText cs =
      match InboundFrame.decoder.parse (String.ofList (trimRight isLineEnd cs)) with
      | .ok f => ofFrame f
      | .error _ => .nothing := by
  unfold ofText
  dsimp only
  split
  · rename_i blank
    obtain ⟨e, fails⟩ := Session.parse_blank blank
    rw [fails]
  · rfl

theorem Notice.ofFrame_eq_response {f : InboundFrame} {answer : Response} :
    ofFrame f = .response answer ↔
      f.event = .response ∧ Response.decoder.ofValue f.data = .ok answer := by
  unfold ofFrame
  split
  · rename_i event
    unfold ofResponseData
    split
    · rename_i read
      simp [event, read]
    · rename_i how fails
      cases namedId? f.data <;> simp [event, fails]
  · rename_i event
    simp [event]
  · rename_i event
    simp [event]

theorem answerIn?_eq_some {answer : Response} :
    answerIn? cs = some answer ↔
      ∃ f, InboundFrame.decoder.parse (String.ofList (trimBoth isBlank cs)) = .ok f ∧
        f.event = .response ∧ Response.decoder.ofValue f.data = .ok answer := by
  unfold answerIn?
  cases parsed : InboundFrame.decoder.parse (String.ofList (trimBoth isBlank cs)) with
  | error e => simp [Except.toOption]
  | ok f =>
    cases read : Response.decoder.ofValue f.data <;> simp [Except.toOption, read]

/-- A session is told the response in a text that is plain, -/
theorem Notice.ofText_eq_response {answer : Response} :
    Notice.ofText cs = .response answer ↔ Plain cs ∧ answerIn? cs = some answer := by
  have framed : Notice.ofText cs = .response answer ↔
      ∃ f, InboundFrame.decoder.parse (String.ofList (trimRight isLineEnd cs)) = .ok f ∧
        ofFrame f = .response answer := by
    rw [Notice.ofText_eq]
    cases InboundFrame.decoder.parse (String.ofList (trimRight isLineEnd cs)) <;> simp
  rw [framed, answerIn?_eq_some]
  constructor
  · rintro ⟨f, parsed, read⟩
    obtain ⟨plain, same⟩ := parse_trimmed.mp parsed
    exact ⟨plain, f, same, ofFrame_eq_response.mp read⟩
  · rintro ⟨plain, f, parsed, read⟩
    exact ⟨f, parse_trimmed.mpr ⟨plain, parsed⟩, ofFrame_eq_response.mpr read⟩

/-- and nothing at all of one that is not. -/
theorem Notice.ofText_of_not_plain (other : ¬ Plain cs) : Notice.ofText cs = .nothing := by
  rw [Notice.ofText_eq]
  split
  · rename_i parsed
    exact absurd (parse_trimmed.mp parsed).1 other
  · rfl

/-- Who reads a body finds the response in any text. -/
theorem Http.LineContent.ofText_eq_reply {reply : Reply} :
    Http.LineContent.ofText cs = .reply reply ↔
      ∃ answer, answerIn? cs = some answer ∧ answer.reply = reply := by
  simp only [answerIn?_eq_some]
  unfold Http.LineContent.ofText
  dsimp only
  split
  · rename_i empty
    have blank : ([] : List Char).all isBlank = true := rfl
    obtain ⟨e, fails⟩ := Session.parse_blank blank
    simp [List.isEmpty_iff.mp empty, fails]
  · split
    · rename_i fails
      simp [fails]
    · rename_i f parsed
      rw [parsed]
      split
      · rename_i other
        simp [other]
      · rename_i event
        have event : f.event = .response := Decidable.of_not_not event
        split
        · rename_i answer read
          simp [event, read]
        · rename_i fails
          simp [event, fails]

end Backchannel
