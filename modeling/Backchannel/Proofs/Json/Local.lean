/-
# Backchannel.Proofs.Json.Local -- how far a reader looks

A reader takes characters from the front of a text.  What it makes of them depends on nothing
that stands behind them but on the next character (`Local`), for a number ends where that
does not belong to it.  This is shown of the leaves, of values and of what is passed over, by
induction on the fuel; the fuel does not matter if it is as much as there are characters.
-/
import Backchannel.Json.Decoder
import Backchannel.Proofs.Except
import Backchannel.Proofs.Json.Written

namespace Backchannel.Json

set_option autoImplicit false

open Backchannel.Except (bind_eq_ok map_eq_ok)

variable {α β : Type} {s rest : List Char}

/-! ## What is taken -/

/-- `used` is taken in front of whatever begins like `rest`, and the result is told by what
is left. -/
def Takes (R : List Char → Except Fault β) (used rest : List Char) (result : List Char → β) :
    Prop :=
  ∀ rest', rest'.head? = rest.head? → R (used ++ rest') = .ok (result rest')

/-- What comes of passing over something: the text that is left. -/
def passed (_ : Unit) (rest : List Char) : List Char := rest

/-- The reader does not look beyond the character that follows what it takes.  `result` says
what it answers: a value with the text that is left (`Prod.mk`), or only that (`passed`). -/
def LocalTail (result : α → List Char → β) (R : List Char → Except Fault β) : Prop :=
  ∀ s a rest, R s = .ok (result a rest) →
    ∃ used, s = used ++ rest ∧ Takes R used rest (result a)

/-- And it takes something. -/
def Local (result : α → List Char → β) (R : List Char → Except Fault β) : Prop :=
  ∀ s a rest, R s = .ok (result a rest) →
    ∃ used, used ≠ [] ∧ s = used ++ rest ∧ Takes R used rest (result a)

theorem Local.tail {result : α → List Char → β} {R : List Char → Except Fault β}
    (h : Local result R) : LocalTail result R := by
  intro s a rest read
  obtain ⟨used, -, split, takes⟩ := h s a rest read
  exact ⟨used, split, takes⟩

theorem head?_append_congr (used : List Char) {rest' : List Char}
    (same : rest'.head? = rest.head?) : (used ++ rest').head? = (used ++ rest).head? := by
  cases used with
  | nil => exact same
  | cons c cs => rfl

theorem head?_append_ne_nil {used : List Char} (some : used ≠ []) (rest' : List Char) :
    (used ++ rest').head? = (used ++ rest).head? := by
  cases used with
  | nil => exact absurd rfl some
  | cons c cs => rfl

/-- What is not expected is refused, whatever it is. -/
theorem unexpected_fails (expected : String) (cs : List Char) :
    ∃ fault, (unexpected expected cs : Except Fault α) = .error fault := by
  unfold unexpected
  split
  · exact ⟨_, rfl⟩
  · split
    · exact ⟨_, rfl⟩
    · exact ⟨_, rfl⟩
    · split
      · exact ⟨_, rfl⟩
      · split <;> exact ⟨_, rfl⟩

/-! ## Fuel -/

/-- With that much fuel what is read is local, and what is taken is fuel enough. -/
def Fueled (R : Nat → List Char → Reading α) (n : Nat) : Prop :=
  ∀ s a rest, R n s = .ok (a, rest) → ∃ used, used ≠ [] ∧ s = used ++ rest ∧
    ∀ fuel, used.length ≤ fuel → Takes (R fuel) used rest (a, ·)

theorem Local.of_fueled {R : Nat → List Char → Reading α} (enough : Nat → Nat)
    (room : ∀ n, n ≤ enough n) (h : ∀ n, Fueled R n) :
    Local Prod.mk fun s => R (enough s.length) s := by
  intro s a rest read
  obtain ⟨used, some, split, takes⟩ := h _ s a rest read
  refine ⟨used, some, split, fun rest' same => ?_⟩
  have long : used.length ≤ (used ++ rest').length := by simp
  exact takes _ (Nat.le_trans long (room _)) rest' same

/-- Fuel for something is fuel. -/
theorem exists_fuel {used : List Char} {fuel : Nat} (some : used ≠ [])
    (enough : used.length ≤ fuel) : ∃ k, fuel = k + 1 :=
  Nat.exists_eq_add_one_of_ne_zero
    (Nat.ne_of_gt (Nat.lt_of_lt_of_le (List.length_pos_iff.mpr some) enough))

/-! ## Blanks -/

/-- Only what JSON takes for blank. -/
def Blanks (cs : List Char) : Prop := ∀ c ∈ cs, isJsonBlank c = true

theorem skipBlank_blanks {cs : List Char} (blank : Blanks cs) (s : List Char) :
    skipBlank (cs ++ s) = skipBlank s := by
  induction cs with
  | nil => rfl
  | cons c cs ih =>
    have first := blank c List.mem_cons_self
    have others := ih fun d among => blank d (List.mem_cons_of_mem c among)
    simpa [skipBlank, first] using others

/-- What is skipped, and what comes then. -/
theorem skipBlank_split (s : List Char) :
    ∃ cs, Blanks cs ∧ s = cs ++ skipBlank s := by
  refine ⟨s.takeWhile isJsonBlank, fun c among => ?_, List.takeWhile_append_dropWhile.symm⟩
  exact List.all_eq_true.mp List.all_takeWhile c among

/-- What stands behind the blanks is not blank. -/
theorem skipBlank_cons_dark {c : Char} {t : List Char} (found : skipBlank s = c :: t) :
    isJsonBlank c = false := by
  have dark := List.head?_dropWhile_not isJsonBlank s
  rw [← skipBlank, found] at dark
  simpa using dark

/-- A mark behind blanks is found in front of anything. -/
theorem skipBlank_mark {c : Char} {t : List Char} (found : skipBlank s = c :: t) :
    ∃ cs, Blanks cs ∧ s = cs ++ c :: t ∧ ∀ t', skipBlank (cs ++ c :: t') = c :: t' := by
  obtain ⟨cs, blank, split⟩ := skipBlank_split s
  rw [found] at split
  refine ⟨cs, blank, split, fun t' => ?_⟩
  rw [skipBlank_blanks blank]
  exact List.dropWhile_cons_of_neg (by rw [skipBlank_cons_dark found]; exact Bool.false_ne_true)

/-! ## Words and texts -/

theorem readWord_ok {word : List Char} (read : readWord word s = .ok rest) : s = word ++ rest := by
  induction word generalizing s with
  | nil =>
    cases read
    rfl
  | cons w ws ih =>
    cases s with
    | nil => cases read
    | cons c s =>
      rw [readWord] at read
      split at read
      · rename_i same
        rw [same, ih read]
        rfl
      · cases read

theorem readWord_append (word rest : List Char) :
    readWord word (word ++ rest) = .ok rest := by
  induction word with
  | nil => rfl
  | cons w ws ih => simpa [readWord] using ih

theorem readWord_local (w : Char) (ws : List Char) : Local passed (readWord (w :: ws)) := by
  intro s a rest read
  exact ⟨w :: ws, by simp, readWord_ok read, fun rest' _ => readWord_append (w :: ws) rest'⟩

theorem readUnit_local : Local Prod.mk readUnit := by
  intro s u rest read
  match s with
  | a :: b :: c :: d :: s =>
    rw [readUnit] at read
    split at read
    · rename_i unit
      cases read
      exact ⟨[a, b, c, d], by simp, rfl, fun rest' _ => by simp [readUnit, unit]⟩
    · rw [hexFault] at read
      split at read <;> cases read
  | [] | [_] | [_, _] | [_, _, _] =>
    simp only [readUnit, hexFault] at read
    split at read <;> cases read

theorem readUnicode_local : Local Prod.mk readUnicode := by
  intro s ch rest read
  simp only [readUnicode, bind_eq_ok] at read
  obtain ⟨⟨u, t⟩, unit, read⟩ := read
  obtain ⟨used, some, rfl, takes⟩ := readUnit_local s u t unit
  dsimp only at read
  split at read
  · cases read
  · rename_i low
    split at read
    · rename_i leads
      split at read
      · cases read
      · cases read
      · rename_i t
        rw [bind_eq_ok] at read
        obtain ⟨⟨v, t'⟩, unit', read⟩ := read
        obtain ⟨used', some', rfl, takes'⟩ := readUnit_local t v t' unit'
        split at read
        · rename_i trails
          obtain ⟨rfl, rfl⟩ := Prod.mk.inj (Except.ok.inj read)
          refine ⟨used ++ '\\' :: 'u' :: used', by simp, by simp, fun rest' same => ?_⟩
          have front := takes ('\\' :: 'u' :: (used' ++ rest')) rfl
          have back := takes' rest' same
          simp [readUnicode, front, back, low, leads, trails, bind, Except.bind]
        · cases read
      · cases read
      · cases read
    · rename_i alone
      cases read
      refine ⟨used, some, rfl, fun rest' same => ?_⟩
      simp [readUnicode, takes rest' same, low, alone, bind, Except.bind]

theorem readEscape_local : Local Prod.mk readEscape := by
  intro s ch rest read
  unfold readEscape at read
  split at read
  · cases read
  · rename_i s
    obtain ⟨used, -, rfl, takes⟩ := readUnicode_local s ch rest read
    exact ⟨'u' :: used, by simp, rfl, takes⟩
  · rename_i c s plain
    split at read
    · rename_i d simple
      cases read
      refine ⟨[c], by simp, rfl, fun rest' _ => ?_⟩
      simp [readEscape, simple]
    · cases read

theorem fueled_chars (n : Nat) (done : List Char) : Fueled (readChars · · done) n := by
  induction n generalizing done with
  | zero => exact nofun
  | succ n ih =>
    intro s t rest read
    cases s with
    | nil => cases read
    | cons c s =>
      dsimp only at read
      rw [readChars] at read
      split at read
      · rename_i quote
        cases read
        refine ⟨[c], by simp, rfl, fun fuel enough rest' _ => ?_⟩
        obtain ⟨fuel, rfl⟩ := exists_fuel (by simp) enough
        simp [readChars, quote]
      · rename_i inside
        split at read
        · rename_i escape
          rw [bind_eq_ok] at read
          obtain ⟨⟨d, t'⟩, first, read⟩ := read
          obtain ⟨used, some, rfl, takes⟩ := readEscape_local s d t' first
          obtain ⟨used', some', rfl, takes'⟩ := ih (d :: done) t' t rest read
          refine ⟨c :: (used ++ used'), by simp, by simp, fun fuel enough rest' same => ?_⟩
          obtain ⟨fuel, rfl⟩ := exists_fuel (by simp) enough
          have front := takes (used' ++ rest') (head?_append_ne_nil some' rest')
          have back := takes' fuel (by simp at enough; omega) rest' same
          simp [readChars, escape, front, back, bind, Except.bind]
        · rename_i plain
          split at read
          · cases read
          · rename_i visible
            obtain ⟨used, some, rfl, takes⟩ := ih (c :: done) s t rest read
            refine ⟨c :: used, by simp, rfl, fun fuel enough rest' same => ?_⟩
            obtain ⟨fuel, rfl⟩ := exists_fuel (by simp) enough
            have back := takes fuel (by simp at enough; omega) rest' same
            simp [readChars, inside, plain, visible, back]

theorem readText_local : Local Prod.mk readText :=
  .of_fueled (· + 1) Nat.le_succ fun n => fueled_chars n []

/-! ## Texts that are passed over -/

theorem skipEscape_local : Local passed skipEscape := by
  intro s a rest read
  unfold skipEscape at read
  split at read
  · cases read
  · rename_i s
    obtain ⟨⟨u, t⟩, unit, same⟩ := map_eq_ok.mp read
    cases same
    obtain ⟨used, -, rfl, takes⟩ := readUnit_local s u rest unit
    refine ⟨'u' :: used, by simp, rfl, fun rest' same => ?_⟩
    have front := takes rest' same
    simp [skipEscape, front, Except.map, passed]
  · rename_i c s plain
    split at read
    · rename_i simple
      cases read
      refine ⟨[c], by simp, rfl, fun rest' _ => ?_⟩
      simp [skipEscape, simple, passed]
    · cases read

theorem skipChars_local (n : Nat) (read : skipChars n s = .ok rest) :
    ∃ used, used ≠ [] ∧ s = used ++ rest ∧
      ∀ fuel, used.length ≤ fuel → Takes (skipChars fuel) used rest id := by
  induction n generalizing s with
  | zero => cases read
  | succ n ih =>
    cases s with
    | nil => cases read
    | cons c s =>
      rw [skipChars] at read
      split at read
      · rename_i quote
        cases read
        refine ⟨[c], by simp, rfl, fun fuel enough rest' _ => ?_⟩
        obtain ⟨fuel, rfl⟩ := exists_fuel (by simp) enough
        simp [skipChars, quote]
      · rename_i inside
        split at read
        · rename_i escape
          rw [bind_eq_ok] at read
          obtain ⟨t', first, read⟩ := read
          obtain ⟨used, some, rfl, takes⟩ := skipEscape_local s () t' first
          obtain ⟨used', some', rfl, takes'⟩ := ih read
          refine ⟨c :: (used ++ used'), by simp, by simp, fun fuel enough rest' same => ?_⟩
          obtain ⟨fuel, rfl⟩ := exists_fuel (by simp) enough
          have front := takes (used' ++ rest') (head?_append_ne_nil some' rest')
          have back := takes' fuel (by simp at enough; omega) rest' same
          simpa [skipChars, escape, front, passed, bind, Except.bind] using back
        · rename_i plain
          split at read
          · cases read
          · rename_i visible
            obtain ⟨used, some, rfl, takes⟩ := ih read
            refine ⟨c :: used, by simp, rfl, fun fuel enough rest' same => ?_⟩
            obtain ⟨fuel, rfl⟩ := exists_fuel (by simp) enough
            have back := takes fuel (by simp at enough; omega) rest' same
            simpa [skipChars, inside, plain, visible] using back

theorem skipText_local : Local passed skipText := by
  intro s a rest read
  obtain ⟨used, some, split, takes⟩ := skipChars_local (s.length + 1) read
  refine ⟨used, some, split, fun rest' same => ?_⟩
  exact takes _ (by simp; omega) rest' same

/-! ## Numbers -/

section Digits

variable {result : α → List Char → β} {F A B : List Char → Except Fault β}

/-- What is taken of digits tells the first of them. -/
theorem starts_digit {c : Char} {ds : List Char} (taken : s.takeWhile isDigit = c :: ds) :
    ∃ t, s = c :: t ∧ isDigit c = true := by
  cases s with
  | nil => cases taken
  | cons d t =>
    rw [List.takeWhile_cons] at taken
    split at taken
    · rename_i digit
      cases taken
      exact ⟨t, rfl, digit⟩
    · cases taken

/-- Who takes all digits and goes on behind them: they end where they ended. -/
theorem Local.digits (T : List Char → List Char → Except Fault β)
    (empty : ∀ r, F [] ≠ .ok r) (dark : ∀ c t r, isDigit c = false → F (c :: t) ≠ .ok r)
    (form : ∀ c t, isDigit c = true →
      F (c :: t) = T ((c :: t).takeWhile isDigit) ((c :: t).dropWhile isDigit))
    (tail : ∀ ds, LocalTail result (T ds)) : Local result F := by
  intro s a rest read
  match s with
  | [] => exact absurd read (empty _)
  | c :: t =>
    cases digit : isDigit c with
    | false => exact absurd read (dark c t _ digit)
    | true =>
      have first : (c :: t).takeWhile isDigit = c :: t.takeWhile isDigit :=
        List.takeWhile_cons_of_pos digit
      rw [form c t digit] at read
      obtain ⟨used, behind, takes⟩ := tail _ _ a rest read
      refine ⟨(c :: t).takeWhile isDigit ++ used, by simp [first], ?_, fun rest' same => ?_⟩
      · rw [List.append_assoc, ← behind, List.takeWhile_append_dropWhile]
      · have all : ∀ d ∈ (c :: t).takeWhile isDigit, isDigit d = true :=
          fun d among => List.all_eq_true.mp List.all_takeWhile d among
        have ends : ∀ d u, used ++ rest' = d :: u → isDigit d = false := by
          intro d u front
          have next := head?_append_congr used same
          have stop := List.head?_dropWhile_not isDigit (c :: t)
          rw [behind, ← next, front] at stop
          simpa using stop
        obtain ⟨take, drop⟩ := span_digits all ends
        obtain ⟨t', shape, -⟩ := starts_digit (take.trans first)
        rw [← List.append_assoc] at shape take drop
        rw [shape] at take drop ⊢
        rw [form c t' digit, take, drop]
        exact takes rest' same

/-- Who goes on one way behind a certain character, and else another way. -/
theorem LocalTail.behind {mark : Char → Bool}
    (form : ∀ s, F s = if s.head?.any mark then A s.tail else B s)
    (a : LocalTail result A) (b : LocalTail result B) : LocalTail result F := by
  intro s r rest read
  rw [form] at read
  split at read
  · rename_i marked
    cases s with
    | nil => cases marked
    | cons c t =>
      obtain ⟨used, split, takes⟩ := a t r rest read
      refine ⟨c :: used, congrArg (c :: ·) split, fun rest' same => ?_⟩
      rw [form]
      exact (if_pos marked).trans (takes rest' same)
  · rename_i plain
    obtain ⟨used, rfl, takes⟩ := b s r rest read
    refine ⟨used, rfl, fun rest' same => ?_⟩
    rw [form, head?_append_congr used same, if_neg plain]
    exact takes rest' same

/-- Whether an exponent is below zero, and the text behind its sign. -/
def signOf : List Char → Bool × List Char
  | '+' :: s => (false, s)
  | '-' :: s => (true, s)
  | s => (false, s)

theorem signOf_split (s : List Char) :
    ∃ sign, s = sign ++ (signOf s).2 ∧
      ∀ t, t.head? = (signOf s).2.head? → signOf (sign ++ t) = ((signOf s).1, t) := by
  unfold signOf
  split
  · exact ⟨['+'], rfl, fun t _ => rfl⟩
  · exact ⟨['-'], rfl, fun t _ => rfl⟩
  · rename_i plus minus
    refine ⟨[], rfl, fun t same => ?_⟩
    have plain : ∀ d t', t = d :: t' → d ≠ '+' ∧ d ≠ '-' := by
      rintro d t' rfl
      cases s with
      | nil => cases same
      | cons c s =>
        cases same
        exact ⟨fun own => plus s (own ▸ rfl), fun own => minus s (own ▸ rfl)⟩
    rw [List.nil_append]
    split
    · exact absurd rfl (plain _ _ rfl).1
    · exact absurd rfl (plain _ _ rfl).2
    · rfl

/-- Who goes on behind a sign, if there is one. -/
theorem Local.signed {T : Bool → List Char → Except Fault β}
    (form : ∀ s, F s = T (signOf s).1 (signOf s).2) (tail : ∀ below, Local result (T below)) :
    Local result F := by
  intro s a rest read
  obtain ⟨sign, split, again⟩ := signOf_split s
  rw [form] at read
  obtain ⟨used, some, behind, takes⟩ := tail _ _ a rest read
  refine ⟨sign ++ used, by simp [some], ?_, fun rest' same => ?_⟩
  · rw [List.append_assoc, ← behind]
    exact split
  · have next : (used ++ rest').head? = (signOf s).2.head? := by
      rw [behind]
      exact head?_append_ne_nil some rest'
    rw [List.append_assoc, form, again _ next]
    exact takes rest' same

end Digits

variable {negative : Bool} {significand : Nat} {base : Int}

theorem finishReal_tail : LocalTail Prod.mk (finishReal negative significand base) := by
  intro s x rest read
  unfold finishReal at read
  split at read
  · cases read
  · rename_i scaled
    cases read
    exact ⟨[], rfl, fun rest' _ => by simp [finishReal, scaled]⟩

/-- What an exponent of those digits makes of a number. -/
def raise (negative : Bool) (significand : Nat) (base : Int) (below : Bool) (digits : List Char)
    (rest : List Char) : Reading Number :=
  match absorbExponent 0 digits with
  | (some e, _) => finishReal negative significand (if below then base - e else base + e) rest
  | (none, unread) =>
    if significand ≠ 0 ∧ !below then malformed .numberOutOfRange (.before (unread ++ rest))
    else
      .ok (.real (if negative then Numeric.Binary64.zero.neg else Numeric.Binary64.zero), rest)

theorem raise_tail (below : Bool) (digits : List Char) :
    LocalTail Prod.mk (raise negative significand base below digits) := by
  intro s x rest read
  unfold raise at read ⊢
  split at read
  · exact finishReal_tail s x rest read
  · split at read
    · cases read
    · rename_i small
      cases read
      exact ⟨[], rfl, fun rest' _ => if_neg small⟩

/-- The digits of an exponent, behind its sign. -/
def readPower (negative : Bool) (significand : Nat) (base : Int) (below : Bool) :
    List Char → Reading Number
  | [] => malformed .endInValue (.before [])
  | c :: t =>
    if !isDigit c then malformed .numberInvalid (.behind (c :: t))
    else raise negative significand base below ((c :: t).takeWhile isDigit)
      ((c :: t).dropWhile isDigit)

theorem readPower_local (below : Bool) :
    Local Prod.mk (readPower negative significand base below) := by
  refine .digits (raise negative significand base below) (by simp [readPower, malformed]) ?_ ?_
    (raise_tail below)
  · intro c t r dark
    simp [readPower, dark, malformed]
  · intro c t digit
    simp [readPower, digit]

theorem readExponent_eq (s : List Char) :
    readExponent negative significand base s =
      readPower negative significand base (signOf s).1 (signOf s).2 := by
  have unfolded : readExponent negative significand base s =
      match (signOf s).2 with
      | [] => malformed .endInValue (.before [])
      | c :: _ =>
        if !isDigit c then malformed .numberInvalid (.behind (signOf s).2)
        else raise negative significand base (signOf s).1 ((signOf s).2.takeWhile isDigit)
          ((signOf s).2.dropWhile isDigit) := rfl
  rw [unfolded]
  rcases signOf s with ⟨below, _ | ⟨c, t⟩⟩ <;> rfl

theorem readExponent_local : Local Prod.mk (readExponent negative significand base) :=
  .signed readExponent_eq readPower_local

/-- What is made of the digits of a fraction. -/
def afterFraction (negative : Bool) (significand : Nat) (base : Int) (digits rest : List Char) :
    Reading Number :=
  let (m, dropped) := absorb significand digits
  let e := base - (digits.length - dropped.length : Nat)
  if rest.head?.any isExponentMark then readExponent negative m e rest.tail
  else finishReal negative m e rest

theorem readFraction_digit {c : Char} (t : List Char) (digit : isDigit c = true) :
    readFraction negative significand base (c :: t) =
      afterFraction negative significand base ((c :: t).takeWhile isDigit)
        ((c :: t).dropWhile isDigit) := by
  unfold readFraction afterFraction
  have some : ((c :: t).takeWhile isDigit).isEmpty = false := by simp [digit]
  simp only [some, Bool.false_eq_true, if_false]
  cases (c :: t).dropWhile isDigit <;> rfl

theorem readFraction_local : Local Prod.mk (readFraction negative significand base) := by
  refine .digits (afterFraction negative significand base) (by simp [readFraction, malformed]) ?_
    (fun c t => readFraction_digit t)
    fun ds => .behind (fun _ => rfl) readExponent_local.tail finishReal_tail
  intro c t r dark
  simp [readFraction, dark, malformed]

/-- What is made of the digits in front. -/
def afterDigits (negative : Bool) (digits rest : List Char) : Reading Number :=
  let (n, dropped) := absorb 0 digits
  let base : Int := dropped.length
  if rest.head?.any (· == '.') then readFraction negative n base rest.tail
  else if rest.head?.any isExponentMark then readExponent negative n base rest.tail
  else if dropped.isEmpty then .ok (wholeNumber negative n, rest)
  else finishReal negative n base rest

theorem afterDigits_tail (digits : List Char) :
    LocalTail Prod.mk (afterDigits negative digits) := by
  refine .behind (fun _ => rfl) readFraction_local.tail ?_
  refine .behind (fun _ => rfl) readExponent_local.tail ?_
  split
  · intro s x rest read
    cases read
    exact ⟨[], rfl, fun rest' _ => rfl⟩
  · exact finishReal_tail

/-- A zero stands in front of no other digit. -/
def leadingZero (digits : List Char) : Bool := digits.head? == some '0' && !digits.tail.isEmpty

/-- What is made of the digits in front, if they may stand there. -/
def afterLeading (negative : Bool) (digits rest : List Char) : Reading Number :=
  if leadingZero digits then malformed .numberInvalid (.behind (digits.tail ++ rest))
  else afterDigits negative digits rest

theorem leadingZero_iff {c : Char} (t : List Char) (digit : isDigit c = true) :
    leadingZero ((c :: t).takeWhile isDigit) = true ↔ c = '0' ∧ t.head?.any isDigit = true := by
  cases t with
  | nil => simp [leadingZero, digit]
  | cons d t => cases next : isDigit d <;> simp [leadingZero, digit, next]

theorem digits_behind {c : Char} (t : List Char) (digit : isDigit c = true) :
    ((c :: t).takeWhile isDigit).tail ++ (c :: t).dropWhile isDigit = t := by
  simp [digit]

theorem readNumber_digit {c : Char} (t : List Char) (digit : isDigit c = true) :
    readNumber negative (c :: t) =
      afterLeading negative ((c :: t).takeWhile isDigit) ((c :: t).dropWhile isDigit) := by
  unfold readNumber afterLeading afterDigits
  simp only [digit, Bool.not_true, Bool.false_eq_true, if_false, leadingZero_iff t digit,
    digits_behind t digit]
  refine ite_congr rfl (fun _ => rfl) fun _ => ?_
  generalize (c :: t).dropWhile isDigit = rest
  split
  · rfl
  · rename_i d after plain
    simp [show (d == '.') = false by simpa using plain]
  · rfl

theorem readNumber_local : Local Prod.mk (readNumber negative) := by
  refine .digits (afterLeading negative) (by simp [readNumber, malformed]) ?_
    (fun c t => readNumber_digit t) fun ds => ?_
  · intro c t r dark
    simp [readNumber, dark, malformed]
  · unfold afterLeading
    split
    · intro s x rest read
      cases read
    · exact afterDigits_tail ds

/-! ## Numbers that are passed over -/

theorem passed_tail : LocalTail passed (Except.ok : List Char → Except Fault (List Char)) := by
  intro s a rest read
  cases read
  exact ⟨[], rfl, fun rest' _ => rfl⟩

/-- The digits of an exponent that is passed over, behind its sign. -/
def skipPower : List Char → Except Fault (List Char)
  | [] => malformed .numberInvalid (.before [])
  | c :: t =>
    if isDigit c then .ok ((c :: t).dropWhile isDigit)
    else malformed .numberInvalid (.behind (c :: t))

theorem skipPower_local : Local passed skipPower := by
  refine .digits (fun _ => .ok) (by simp [skipPower, malformed]) ?_ ?_ fun _ => passed_tail
  · intro c t r dark
    simp [skipPower, dark, malformed]
  · intro c t digit
    simp [skipPower, digit]

theorem skipExponent_eq (s : List Char) : skipExponent s = skipPower (signOf s).2 := by
  have power (t : List Char) :
      (match t with
        | [] => malformed .numberInvalid (.before [])
        | c :: _ =>
          if isDigit c then .ok (t.dropWhile isDigit)
          else malformed .numberInvalid (.behind t)) = skipPower t := by
    cases t <;> rfl
  unfold skipExponent
  split
  · exact power _
  · exact power _
  · rename_i plus minus
    have same : signOf s = (false, s) := by
      unfold signOf
      split
      · exact absurd rfl (plus _)
      · exact absurd rfl (minus _)
      · rfl
    rw [same]
    exact power s

theorem skipExponent_local : Local passed skipExponent :=
  .signed skipExponent_eq fun _ => skipPower_local

theorem skipExponent?_tail : LocalTail passed skipExponent? := by
  have form (s : List Char) :
      skipExponent? s = if s.head?.any isExponentMark then skipExponent s.tail else .ok s := by
    cases s <;> rfl
  exact .behind form skipExponent_local.tail passed_tail

/-- A fraction that is passed over, behind its point. -/
def skipFraction (s : List Char) : Except Fault (List Char) :=
  if s.head?.any isDigit then skipExponent? (s.dropWhile isDigit)
  else malformed .numberInvalid (.behind (s.dropWhile isDigit))

theorem skipFraction_local : Local passed skipFraction := by
  refine .digits (fun _ => skipExponent?) (by simp [skipFraction, malformed]) ?_ ?_
    fun _ => skipExponent?_tail
  · intro c t r dark
    simp [skipFraction, dark, malformed]
  · intro c t digit
    simp [skipFraction, digit]

/-- What is passed over behind the digits in front, if they may stand there. -/
def skipLeading (digits rest : List Char) : Except Fault (List Char) :=
  if leadingZero digits then malformed .numberInvalid (.behind (digits.tail ++ rest))
  else if rest.head?.any (· == '.') then skipFraction rest.tail
  else skipExponent? rest

theorem skipNumber_digit {c : Char} (t : List Char) (digit : isDigit c = true) :
    skipNumber (c :: t) =
      skipLeading ((c :: t).takeWhile isDigit) ((c :: t).dropWhile isDigit) := by
  unfold skipNumber skipLeading
  simp only [digit, Bool.not_true, Bool.false_eq_true, if_false, leadingZero_iff t digit,
    digits_behind t digit]
  simp only [List.dropWhile_cons_of_pos digit]
  refine ite_congr rfl (fun _ => rfl) fun _ => ?_
  generalize t.dropWhile isDigit = rest
  split
  · rfl
  · rename_i plain
    cases rest with
    | nil => rfl
    | cons d after => simp [show (d == '.') = false by simpa using plain]

theorem skipNumber_local : Local passed skipNumber := by
  refine .digits skipLeading (by simp [skipNumber, malformed]) ?_ (fun c t => skipNumber_digit t)
    fun ds => ?_
  · intro c t r dark
    simp [skipNumber, dark, malformed]
  · unfold skipLeading
    split
    · intro s a rest read
      cases read
    · exact .behind (fun _ => rfl) skipFraction_local.tail skipExponent?_tail

end Backchannel.Json
