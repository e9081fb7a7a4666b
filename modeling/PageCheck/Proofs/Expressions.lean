import PageCheck.Proofs.Excerpts

/-! Regular expressions.  An expression matches texts, and each match cuts groups out of
its text; what it matches is defined without an order.  Searching tries the ways to match
a beginning of a text in the order of preference: the first choice before the second, and
one more repetition before none; the first way that succeeds counts.  Main statement: the
search tries just the matches, so an expression that matches no two beginnings of a text
is searched without a choice. -/

set_option autoImplicit false

namespace PageCheck

inductive Expression where
  | nothing
  | oneOf (accepts : Char → Bool)
  | sequence (first second : Expression)
  | choice (first second : Expression)
  | star (body : Expression)
  | group (number : Nat) (body : Expression)

namespace Expression

/-- The groups of a match, in the order in which they begin. -/
abbrev Groups := List (Nat × List Char)

def only (wanted : Char) : Expression :=
  .oneOf (· == wanted)

def optional (body : Expression) : Expression :=
  .choice body .nothing

/-- The expression matches the whole of a text and cuts out these groups. -/
inductive Matches : Expression → List Char → Groups → Prop where
  | nothing : Matches .nothing [] []
  | oneOf {accepts : Char → Bool} {char : Char} :
      accepts char = true → Matches (.oneOf accepts) [char] []
  | sequence {first second : Expression} {left right : List Char} {groups others : Groups} :
      Matches first left groups → Matches second right others →
        Matches (.sequence first second) (left ++ right) (groups ++ others)
  | first {first second : Expression} {text : List Char} {groups : Groups} :
      Matches first text groups → Matches (.choice first second) text groups
  | second {first second : Expression} {text : List Char} {groups : Groups} :
      Matches second text groups → Matches (.choice first second) text groups
  | stop {body : Expression} : Matches (.star body) [] []
  | more {body : Expression} {left right : List Char} {groups others : Groups} :
      Matches body left groups → left ≠ [] → Matches (.star body) right others →
        Matches (.star body) (left ++ right) (groups ++ others)
  | group {number : Nat} {body : Expression} {text : List Char} {groups : Groups} :
      Matches body text groups → Matches (.group number body) text ((number, text) :: groups)

variable {body first second : Expression} {accepts : Char → Bool} {number : Nat}
  {text rest left right : List Char} {groups others : Groups}

/-! ### What expressions match -/

theorem matches_nothing_iff : Matches .nothing text groups ↔ text = [] ∧ groups = [] := by
  constructor
  · rintro ⟨⟩
    exact ⟨rfl, rfl⟩
  · rintro ⟨rfl, rfl⟩
    exact .nothing

theorem matches_oneOf_iff :
    Matches (.oneOf accepts) text groups ↔
      ∃ char, accepts char = true ∧ text = [char] ∧ groups = [] := by
  constructor
  · intro matched
    cases matched with
    | oneOf accepted => exact ⟨_, accepted, rfl, rfl⟩
  · rintro ⟨char, accepted, rfl, rfl⟩
    exact .oneOf accepted

theorem matches_only_iff {wanted : Char} :
    Matches (.only wanted) text groups ↔ text = [wanted] ∧ groups = [] := by
  rw [only, matches_oneOf_iff]
  constructor
  · rintro ⟨char, accepted, rfl, rfl⟩
    exact ⟨by rw [beq_iff_eq.mp accepted], rfl⟩
  · rintro ⟨rfl, rfl⟩
    exact ⟨wanted, beq_self_eq_true wanted, rfl, rfl⟩

theorem matches_sequence_iff :
    Matches (.sequence first second) text groups ↔
      ∃ left right before after, Matches first left before ∧ Matches second right after ∧
        text = left ++ right ∧ groups = before ++ after := by
  constructor
  · intro matched
    cases matched with
    | sequence matchedFirst matchedSecond =>
        exact ⟨_, _, _, _, matchedFirst, matchedSecond, rfl, rfl⟩
  · rintro ⟨left, right, before, after, matchedFirst, matchedSecond, rfl, rfl⟩
    exact .sequence matchedFirst matchedSecond

theorem matches_choice_iff :
    Matches (.choice first second) text groups ↔
      Matches first text groups ∨ Matches second text groups := by
  constructor
  · intro matched
    cases matched with
    | first matched => exact Or.inl matched
    | second matched => exact Or.inr matched
  · exact fun matched => matched.elim .first .second

theorem matches_optional_iff :
    Matches (.optional body) text groups ↔
      Matches body text groups ∨ (text = [] ∧ groups = []) := by
  rw [optional, matches_choice_iff, matches_nothing_iff]

theorem matches_group_iff :
    Matches (.group number body) text groups ↔
      ∃ inner, Matches body text inner ∧ groups = (number, text) :: inner := by
  constructor
  · intro matched
    cases matched with
    | group matched => exact ⟨_, matched, rfl⟩
  · rintro ⟨inner, matched, rfl⟩
    exact .group matched

theorem matches_only_sequence_iff {wanted : Char} :
    Matches (.sequence (.only wanted) second) text groups ↔
      ∃ rest, Matches second rest groups ∧ text = wanted :: rest := by
  rw [matches_sequence_iff]
  constructor
  · rintro ⟨left, rest, before, after, once, later, rfl, rfl⟩
    obtain ⟨rfl, rfl⟩ := matches_only_iff.mp once
    exact ⟨rest, later, rfl⟩
  · rintro ⟨rest, later, rfl⟩
    exact ⟨[wanted], rest, [], groups, matches_only_iff.mpr ⟨rfl, rfl⟩, later, rfl, rfl⟩

theorem matches_sequence_only_iff {wanted : Char} :
    Matches (.sequence first (.only wanted)) text groups ↔
      ∃ front, Matches first front groups ∧ text = front ++ [wanted] := by
  rw [matches_sequence_iff]
  constructor
  · rintro ⟨front, right, before, after, earlier, once, rfl, rfl⟩
    obtain ⟨rfl, rfl⟩ := matches_only_iff.mp once
    rw [List.append_nil]
    exact ⟨front, earlier, rfl⟩
  · rintro ⟨front, earlier, rfl⟩
    exact ⟨front, [wanted], groups, [], earlier, matches_only_iff.mpr ⟨rfl, rfl⟩, rfl,
      (List.append_nil _).symm⟩

theorem matches_group_sequence_iff :
    Matches (.sequence (.group number body) second) text groups ↔
      ∃ left right before after, Matches body left before ∧ Matches second right after ∧
        text = left ++ right ∧ groups = (number, left) :: (before ++ after) := by
  rw [matches_sequence_iff]
  constructor
  · rintro ⟨left, right, _, after, cut, later, rfl, rfl⟩
    obtain ⟨before, once, rfl⟩ := matches_group_iff.mp cut
    exact ⟨left, right, before, after, once, later, rfl, rfl⟩
  · rintro ⟨left, right, before, after, once, later, rfl, rfl⟩
    exact ⟨left, right, _, after, .group once, later, rfl, rfl⟩

theorem matches_star_iff :
    Matches (.star body) text groups ↔
      (text = [] ∧ groups = []) ∨
        ∃ left right before after, Matches body left before ∧ left ≠ [] ∧
          Matches (.star body) right after ∧ text = left ++ right ∧ groups = before ++ after := by
  constructor
  · intro matched
    cases matched with
    | stop => exact Or.inl ⟨rfl, rfl⟩
    | more once filled later => exact Or.inr ⟨_, _, _, _, once, filled, later, rfl, rfl⟩
  · rintro (⟨rfl, rfl⟩ | ⟨left, right, before, after, once, filled, later, rfl, rfl⟩)
    · exact .stop
    · exact .more once filled later

/-- What holds of no repetition, and of one more where it holds of the rest, holds of all. -/
@[elab_as_elim]
theorem star_induction {motive : List Char → Groups → Prop}
    (matched : Matches (.star body) text groups) (stop : motive [] [])
    (more : ∀ {left right : List Char} {before after : Groups},
      Matches body left before → motive right after → motive (left ++ right) (before ++ after)) :
    motive text groups := by
  generalize starEq : Expression.star body = repeated at matched
  induction matched with
  | stop => exact stop
  | more once _ _ _ ih =>
      cases starEq
      exact more once (ih rfl)
  | _ => cases starEq

theorem matches_star_oneOf_iff :
    Matches (.star (.oneOf accepts)) text groups ↔
      (∀ char ∈ text, accepts char = true) ∧ groups = [] := by
  constructor
  · intro matched
    refine star_induction matched ⟨List.forall_mem_nil _, rfl⟩ ?_
    rintro left right before after once ⟨all, rfl⟩
    obtain ⟨char, accepted, rfl, rfl⟩ := matches_oneOf_iff.mp once
    exact ⟨List.forall_mem_cons.mpr ⟨accepted, all⟩, rfl⟩
  · rintro ⟨all, rfl⟩
    induction text with
    | nil => exact .stop
    | cons char rest ih =>
        obtain ⟨accepted, all⟩ := List.forall_mem_cons.mp all
        exact .more (.oneOf accepted) (List.cons_ne_nil _ _) (ih all)

/-! ### Searching -/

/-- A way to match a beginning of a text, and what it leaves of the text. -/
structure Attempt where
  text : List Char
  groups : Groups
  rest : List Char

namespace Attempt

def idle (text : List Char) : Attempt :=
  ⟨[], [], text⟩

def andThen (attempt later : Attempt) : Attempt :=
  ⟨attempt.text ++ later.text, attempt.groups ++ later.groups, later.rest⟩

structure Fits (attempt : Attempt) (expression : Expression) (text : List Char) : Prop where
  parts : text = attempt.text ++ attempt.rest
  matched : expression.Matches attempt.text attempt.groups

end Attempt

def repeated (once : List Char → List Attempt) : Nat → List Char → List Attempt
  | 0, text => [.idle text]
  | times + 1, text =>
      ((once text).filter fun attempt => !attempt.text.isEmpty).flatMap (fun attempt =>
        (repeated once times attempt.rest).map attempt.andThen) ++ [.idle text]

/-- The ways to match a beginning of a text, in the order in which they are tried. -/
def attempts : Expression → List Char → List Attempt
  | .nothing, text => [.idle text]
  | .oneOf _, [] => []
  | .oneOf accepts, char :: rest => if accepts char then [⟨[char], [], rest⟩] else []
  | .sequence first second, text =>
      (attempts first text).flatMap fun attempt =>
        (attempts second attempt.rest).map attempt.andThen
  | .choice first second, text => attempts first text ++ attempts second text
  | .star body, text => repeated (attempts body) text.length text
  | .group number body, text =>
      (attempts body text).map fun attempt =>
        { attempt with groups := (number, attempt.text) :: attempt.groups }

def pattern (expression : Expression) : Pattern Groups := fun text =>
  (expression.attempts text).head?.map fun attempt => ⟨attempt.groups, attempt.text⟩

variable {attempt : Attempt}

theorem fits_idle_iff : attempt.Fits .nothing text ↔ attempt = .idle text := by
  obtain ⟨taken, groups, rest⟩ := attempt
  constructor
  · rintro ⟨parts, matched⟩
    obtain ⟨takenEq, groupsEq⟩ := matches_nothing_iff.mp matched
    simp only at takenEq groupsEq parts
    rw [takenEq, groupsEq, parts, takenEq]
    rfl
  · intro same
    cases same
    exact ⟨rfl, .nothing⟩

theorem fits_sequence_iff :
    attempt.Fits (.sequence first second) text ↔
      ∃ before later : Attempt, before.Fits first text ∧ later.Fits second before.rest ∧
        attempt = before.andThen later := by
  obtain ⟨taken, groups, rest⟩ := attempt
  constructor
  · rintro ⟨parts, matched⟩
    obtain ⟨left, right, before, after, matchedFirst, matchedSecond, takenEq, groupsEq⟩ :=
      matches_sequence_iff.mp matched
    simp only at takenEq groupsEq parts
    refine ⟨⟨left, before, right ++ rest⟩, ⟨right, after, rest⟩, ⟨?_, matchedFirst⟩,
      ⟨rfl, matchedSecond⟩, ?_⟩
    · rw [parts, takenEq, List.append_assoc]
    · rw [takenEq, groupsEq]
      rfl
  · rintro ⟨before, later, ⟨parts, matchedFirst⟩, ⟨restEq, matchedSecond⟩, same⟩
    rw [same]
    refine ⟨?_, .sequence matchedFirst matchedSecond⟩
    rw [parts, restEq]
    exact (List.append_assoc _ _ _).symm

theorem fits_choice_iff :
    attempt.Fits (.choice first second) text ↔
      attempt.Fits first text ∨ attempt.Fits second text := by
  constructor
  · rintro ⟨parts, matched⟩
    exact (matches_choice_iff.mp matched).imp (⟨parts, ·⟩) (⟨parts, ·⟩)
  · rintro (⟨parts, matched⟩ | ⟨parts, matched⟩)
    · exact ⟨parts, .first matched⟩
    · exact ⟨parts, .second matched⟩

theorem fits_star_iff :
    attempt.Fits (.star body) text ↔
      (∃ once later : Attempt, once.Fits body text ∧ once.text ≠ [] ∧
        later.Fits (.star body) once.rest ∧ attempt = once.andThen later) ∨
      attempt = .idle text := by
  obtain ⟨taken, groups, rest⟩ := attempt
  constructor
  · rintro ⟨parts, matched⟩
    simp only at parts matched
    rcases matches_star_iff.mp matched with
      ⟨rfl, rfl⟩ | ⟨left, right, before, after, once, filled, later, rfl, rfl⟩
    · rw [parts]
      exact Or.inr rfl
    · exact Or.inl ⟨⟨left, before, right ++ rest⟩, ⟨right, after, rest⟩,
        ⟨by rw [parts, List.append_assoc], once⟩, filled, ⟨rfl, later⟩, rfl⟩
  · rintro (⟨once, later, ⟨parts, matched⟩, filled, ⟨restEq, again⟩, same⟩ | same)
    · rw [same]
      refine ⟨?_, .more matched filled again⟩
      rw [parts, restEq]
      exact (List.append_assoc _ _ _).symm
    · rw [same]
      exact ⟨rfl, .stop⟩

/-- As many repetitions as the text has characters are enough. -/
theorem mem_repeated_iff {once : List Char → List Attempt}
    (exact : ∀ {text : List Char} {attempt : Attempt},
      attempt ∈ once text ↔ attempt.Fits body text)
    {times : Nat} (enough : text.length ≤ times) :
    attempt ∈ repeated once times text ↔ attempt.Fits (.star body) text := by
  induction times generalizing text attempt with
  | zero =>
      obtain rfl : text = [] := List.length_eq_zero_iff.mp (Nat.le_zero.mp enough)
      rw [repeated, List.mem_singleton, fits_star_iff]
      refine ⟨Or.inr, fun fits => fits.resolve_left ?_⟩
      rintro ⟨once, -, ⟨parts, -⟩, filled, -⟩
      exact filled (List.append_eq_nil_iff.mp parts.symm).1
  | succ times ih =>
      have shorter {before : Attempt} (fits : before.Fits body text) (filled : before.text ≠ []) :
          before.rest.length ≤ times := by
        have size := congrArg List.length fits.parts
        have positive := List.length_pos_iff.mpr filled
        rw [List.length_append] at size
        omega
      rw [repeated, List.mem_append, List.mem_singleton, fits_star_iff, List.mem_flatMap]
      refine or_congr ⟨?_, ?_⟩ Iff.rfl
      · rintro ⟨before, kept, member⟩
        obtain ⟨present, filled⟩ := List.mem_filter.mp kept
        obtain ⟨later, repeats, rfl⟩ := List.mem_map.mp member
        have fits := exact.mp present
        have nonempty : before.text ≠ [] := by simpa using filled
        exact ⟨before, later, fits, nonempty, (ih (shorter fits nonempty)).mp repeats, rfl⟩
      · rintro ⟨before, later, fits, filled, repeats, rfl⟩
        exact ⟨before, List.mem_filter.mpr ⟨exact.mpr fits, by simpa using filled⟩,
          List.mem_map.mpr ⟨later, (ih (shorter fits filled)).mpr repeats, rfl⟩⟩

/-- The search tries all matches of beginnings of the text, and nothing else. -/
theorem mem_attempts_iff (expression : Expression) :
    attempt ∈ expression.attempts text ↔ attempt.Fits expression text := by
  induction expression generalizing text attempt with
  | nothing => rw [attempts, List.mem_singleton, fits_idle_iff]
  | oneOf accepts =>
      obtain ⟨taken, groups, rest⟩ := attempt
      cases text with
      | nil =>
          refine ⟨nofun, fun fits => ?_⟩
          obtain ⟨char, -, takenEq, -⟩ := matches_oneOf_iff.mp fits.matched
          have parts := fits.parts
          simp only at takenEq parts
          rw [takenEq] at parts
          cases parts
      | cons char behind =>
          rw [attempts]
          constructor
          · intro member
            split at member
            · rename_i accepted
              cases List.mem_singleton.mp member
              exact ⟨rfl, .oneOf accepted⟩
            · cases member
          · rintro ⟨parts, matched⟩
            obtain ⟨taken, accepted, rfl, rfl⟩ := matches_oneOf_iff.mp matched
            obtain ⟨rfl, rfl⟩ := List.cons.inj parts
            rw [if_pos accepted]
            exact List.mem_singleton_self _
  | sequence first second ihFirst ihSecond =>
      rw [attempts, List.mem_flatMap, fits_sequence_iff]
      constructor
      · rintro ⟨before, present, member⟩
        obtain ⟨later, found, rfl⟩ := List.mem_map.mp member
        exact ⟨before, later, ihFirst.mp present, ihSecond.mp found, rfl⟩
      · rintro ⟨before, later, fits, follows, rfl⟩
        exact ⟨before, ihFirst.mpr fits, List.mem_map.mpr ⟨later, ihSecond.mpr follows, rfl⟩⟩
  | choice first second ihFirst ihSecond =>
      rw [attempts, List.mem_append, ihFirst, ihSecond, fits_choice_iff]
  | star body ih => exact mem_repeated_iff ih (Nat.le_refl _)
  | group number body ih =>
      rw [attempts, List.mem_map]
      constructor
      · rintro ⟨inner, present, rfl⟩
        have fits := ih.mp present
        exact ⟨fits.parts, .group fits.matched⟩
      · rintro ⟨parts, matched⟩
        obtain ⟨inner, innerMatched, groupsEq⟩ := matches_group_iff.mp matched
        refine ⟨⟨attempt.text, inner, attempt.rest⟩, ih.mpr ⟨parts, innerMatched⟩, ?_⟩
        rw [← groupsEq]

/-! ### Expressions without a choice -/

/-- No text has two beginnings that match, and each is matched in one way. -/
def Unambiguous (expression : Expression) : Prop :=
  ∀ {first second left right : List Char} {groups others : Groups},
    first ++ left = second ++ right → expression.Matches first groups →
      expression.Matches second others → first = second ∧ groups = others

/-- Then the order in which the ways are tried does not matter: the match is found. -/
theorem Unambiguous.pattern_eq_some_iff {expression : Expression}
    (unambiguous : expression.Unambiguous) {reading : Reading Groups} :
    expression.pattern text = some reading ↔
      (∃ rest, text = reading.text ++ rest) ∧ expression.Matches reading.text reading.value := by
  unfold pattern
  rw [Option.map_eq_some_iff]
  constructor
  · rintro ⟨attempt, tried, rfl⟩
    have fits := (mem_attempts_iff expression).mp (List.mem_of_mem_head? tried)
    exact ⟨⟨attempt.rest, fits.parts⟩, fits.matched⟩
  · rintro ⟨⟨rest, rfl⟩, matched⟩
    have present : (⟨reading.text, reading.value, rest⟩ : Attempt) ∈
        expression.attempts (reading.text ++ rest) :=
      (mem_attempts_iff expression).mpr ⟨rfl, matched⟩
    obtain ⟨attempt, others, order⟩ := List.exists_cons_of_ne_nil (List.ne_nil_of_mem present)
    have tried : (expression.attempts (reading.text ++ rest)).head? = some attempt := by
      rw [order]
      rfl
    have fits := (mem_attempts_iff expression).mp (List.mem_of_mem_head? tried)
    obtain ⟨textEq, groupsEq⟩ := unambiguous fits.parts.symm fits.matched matched
    exact ⟨attempt, tried, by rw [textEq, groupsEq]⟩

/-- Of the stretches of a text that begin at one place at most one is matched, in one way. -/
theorem Unambiguous.stop_unique {expression : Expression} (unambiguous : expression.Unambiguous)
    {start stop other : Nat} {part second : List Char}
    (cut : Text.slice? text ⟨start, stop⟩ = some part) (matched : expression.Matches part groups)
    (cutOther : Text.slice? text ⟨start, other⟩ = some second)
    (matchedOther : expression.Matches second others) : stop = other ∧ groups = others := by
  obtain ⟨before, after, textEq, spanEq⟩ := Text.slice?_eq_some cut
  obtain ⟨front, back, sameText, otherSpan⟩ := Text.slice?_eq_some cutOther
  obtain ⟨startEq, stopEq⟩ := Span.mk.inj spanEq
  obtain ⟨otherStart, otherStop⟩ := Span.mk.inj otherSpan
  obtain ⟨-, restEq⟩ := Text.append_of_byteLength_eq (textEq.symm.trans sameText)
    (startEq.symm.trans otherStart)
  obtain ⟨partEq, groupsEq⟩ := unambiguous restEq matched matchedOther
  refine ⟨?_, groupsEq⟩
  rw [stopEq, otherStop, ← startEq, ← otherStart, partEq]

theorem Unambiguous.eq_of_prefix {expression : Expression}
    (unambiguous : expression.Unambiguous) (begins : left <+: right)
    (matched : expression.Matches left groups) (matchedOther : expression.Matches right others) :
    left = right := by
  obtain ⟨rest, rfl⟩ := begins
  exact (unambiguous (List.append_nil _).symm matched matchedOther).1

end Expression

end PageCheck
