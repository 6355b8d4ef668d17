import PathSchema.Proofs.Pattern.Front

/-!
# Groups and repetitions in front of a closing parenthesis

How a group begins and how often an item is repeated is read up to a mark that ends it:
an angle bracket, a colon or a parenthesis, or a brace.
-/

namespace PathSchema

namespace Pattern

/-! ## Groups -/

theorem readsFront_groupName? : ReadsFront false groupName? := by
  apply ReadsFront.upTo (· != '>')
  · intro text name rest hname hrest
    simp only [groupName?, hname, hrest]
    rfl
  · intro name
    rcases name with _ | ⟨first, others⟩
    · exact .none
    · apply ReadsFront.of_mark '>' (by decide)
      · intro text hother
        split
        · exact absurd rfl (hother _)
        · rfl
      · simp only
        split
        · exact .pure _
        · exact .none
      · exact .none

theorem readsFront_flagOpening? (flags : Flags) : ReadsFront false (flagOpening? flags) := by
  apply ReadsFront.upTo fun c => c != ':' && c != ')'
  · intro text letters rest hletters hrest
    simp only [flagOpening?, hletters, hrest]
    rfl
  · intro letters
    split
    · apply ReadsFront.option
      intro flags
      apply ReadsFront.of_cons rfl
      intro c
      by_cases hcolon : c = ':'
      · subst hcolon
        exact .pure _
      · simp only
        split
        · exact .none
        · exact .pure _
    · exact .none

/-- A group with a name, given what follows its angle bracket. -/
def namedOpening? (flags : Flags) (text : List Char) : Option (Opening × List Char) :=
  (groupName? text).map fun (name, rest) => (.group flags (some name), rest)

/-- A group with a name, written in full, or flags. -/
def prefixedOpening? (flags : Flags) : List Char → Option (Opening × List Char)
  | 'P' :: '<' :: rest => namedOpening? flags rest
  | rest => flagOpening? flags rest

/-- How a group begins, given what follows its question mark. -/
def markedOpening? (flags : Flags) (text : List Char) : Option (Opening × List Char) :=
  if text.head?.any ['=', '!'].contains then none
  else
    match text with
    | '<' :: rest =>
      if rest.head?.any ['=', '!'].contains then none else namedOpening? flags rest
    | text => prefixedOpening? flags text

theorem not_any_marks {text : List Char} (hequals : ∀ rest, text ≠ '=' :: rest)
    (hbang : ∀ rest, text ≠ '!' :: rest) : ¬text.head?.any ['=', '!'].contains = true := by
  rcases text with _ | ⟨c, text⟩
  · simp
  · have hnoEquals : c ≠ '=' := fun hc => hequals text (by rw [hc])
    have hnoBang : c ≠ '!' := fun hc => hbang text (by rw [hc])
    simp [hnoEquals, hnoBang]

theorem opening?_eq (flags : Flags) (text : List Char) :
    opening? flags text =
      match flags.skip text with
      | '?' :: rest => markedOpening? flags rest
      | rest => some (.group flags none, rest) := by
  unfold opening?
  split
  · next rest hskip => simp [hskip, markedOpening?]
  · next rest hskip => simp [hskip, markedOpening?]
  · next rest hskip => simp [hskip, markedOpening?]
  · next rest hskip => simp [hskip, markedOpening?]
  · next rest hskip => simp [hskip, markedOpening?, prefixedOpening?, namedOpening?]
  · next rest hequals hbang hskip =>
      simp only [hskip, markedOpening?, if_neg (not_any_marks hequals hbang)]
      rfl
  · next rest hequals hbang _ _ hname hangle hskip =>
      simp only [hskip]
      rw [markedOpening?, if_neg (not_any_marks hequals hbang), prefixedOpening?]
      · exact hname
      · exact hangle
  · next hother =>
      split
      · next rest hskip => exact absurd hskip (hother rest)
      · rfl

/-- No flag is written with the letter that may stand before a name. -/
theorem flagOpening?_capital (flags : Flags) (text : List Char) :
    flagOpening? flags ('P' :: text) = none := by
  simp [flagOpening?, Flags.assign?, Flags.set?]

theorem readsFront_opening? (flags : Flags) : ReadsFront false (opening? flags) := by
  have hnamed : ReadsFront false (namedOpening? flags) := by
    apply readsFront_groupName?.map
    intro name
    exact .pure _
  have hprefixed : ReadsFront false (prefixedOpening? flags) := by
    apply ReadsFront.of_mark 'P' (by decide)
    · intro text hother
      rw [prefixedOpening?]
      exact fun rest => hother ('<' :: rest)
    · apply ReadsFront.of_mark '<' (by decide)
      · intro text hother
        rw [prefixedOpening?, flagOpening?_capital]
        intro rest h
        exact hother rest (List.cons.inj h).2
      · exact hnamed
      · exact .none
    · exact readsFront_flagOpening? flags
  apply ReadsFront.after (.skip flags)
  · intro text rest h
    rw [opening?_eq, h]
  apply ReadsFront.of_mark '?' (by decide)
  · intro text hother
    split
    · exact absurd rfl (hother _)
    · rfl
  · apply ReadsFront.refusing
    apply ReadsFront.of_mark '<' (by decide)
    · intro text hother
      split
      · exact absurd rfl (hother _)
      · rfl
    · exact hnamed.refusing ['=', '!']
    · exact hprefixed
  · exact .pure _

/-! ## Repetitions -/

theorem readsFront_count? (flags : Flags) : ReadsFront false (count? flags) := by
  apply ReadsFront.after (.dropWhile Unicode.isWhiteSpace)
  · intro text rest h
    rw [count?, h]
  apply ReadsFront.goingOn (.span flags Char.isDigit)
  · intro text digits rest h
    simp only [countDigits_eq_span, h]
    rfl
  intro digits
  split
  · exact .none
  · apply ReadsFront.after (.dropWhile Unicode.isWhiteSpace)
    · intro text rest h
      rw [h]
    apply ReadsFront.after (.skip flags)
    · intro text rest h
      rw [h]
    exact .after (.dropWhile Unicode.isWhiteSpace) (fun _ _ h => by rw [h]) (.pure _)

/-- A greatest number of rounds, after the comma. -/
def upperBound? (flags : Flags) (min : Nat) :
    List Char → Option ((Nat × Option Nat) × List Char)
  | '}' :: rest => some ((min, none), dropLazyMark (flags.skip rest))
  | text =>
    (count? flags text).bind fun (max, rest) =>
      match rest with
      | '}' :: rest =>
        if min ≤ max then some ((min, some max), dropLazyMark (flags.skip rest)) else none
      | _ => none

/-- The bounds of a repetition, after its first number. -/
def bounds? (flags : Flags) (min : Nat) : List Char → Option ((Nat × Option Nat) × List Char)
  | '}' :: rest => some ((min, some min), dropLazyMark (flags.skip rest))
  | ',' :: rest => upperBound? flags min (flags.skip rest)
  | _ => none

theorem rounds?_eq (flags : Flags) (text : List Char) :
    (rounds? flags text).map (fun (min, max, rest) => ((min, max), rest)) =
      (count? flags (flags.skip text)).bind fun (min, rest) => bounds? flags min rest := by
  simp only [rounds?, Option.map_bind]
  congr 1
  funext ⟨min, rest⟩
  simp only [Function.comp]
  split
  · rfl
  · next rest =>
      rw [bounds?]
      split
      · next rest hskip =>
          rw [hskip]
          rfl
      · next hother =>
          rw [upperBound?, Option.map_bind]
          · congr 1
            funext ⟨max, rest⟩
            rcases rest with _ | ⟨c, others⟩
            · rfl
            · by_cases hbrace : c = '}'
              · subst hbrace
                by_cases hle : min ≤ max
                · simp [hle]
                · simp [hle]
              · simp [hbrace]
          · exact hother
  · next hclose hcomma =>
      rw [bounds?]
      · rfl
      · exact hclose
      · exact hcomma

theorem readsFront_found (flags : Flags) (found : Nat × Option Nat) :
    ReadsFront false fun rest => some (found, dropLazyMark (flags.skip rest)) :=
  .after (.skip flags) (fun _ _ h => by rw [h])
    (.after .lazyMark (fun _ _ h => by rw [h]) (.pure found))

theorem readsFront_upperBound? (flags : Flags) (min : Nat) :
    ReadsFront false (upperBound? flags min) := by
  apply ReadsFront.of_mark '}' (by decide)
  · intro text hother
    rw [upperBound?]
    exact hother
  · exact readsFront_found flags _
  · apply (readsFront_count? flags).bind
    intro max
    simp only
    apply ReadsFront.of_mark '}' (by decide)
    · intro text hother
      split
      · exact absurd rfl (hother _)
      · rfl
    · simp only
      split
      · exact readsFront_found flags _
      · exact .none
    · exact .none

theorem readsFront_bounds? (flags : Flags) (min : Nat) :
    ReadsFront false (bounds? flags min) := by
  apply ReadsFront.of_cons rfl
  intro c
  by_cases hbrace : c = '}'
  · subst hbrace
    exact readsFront_found flags _
  by_cases hcomma : c = ','
  · subst hcomma
    exact .after (.skip flags) (fun _ _ h => by rw [bounds?, h])
      (readsFront_upperBound? flags min)
  · have hnone : (fun rest => bounds? flags min (c :: rest)) = fun _ => none := by
      funext rest
      simp [bounds?, hbrace, hcomma]
    rw [hnone]
    exact .none

theorem readsFront_rounds? (flags : Flags) : ReadsFront false fun text =>
    (rounds? flags text).map fun (min, max, rest) => ((min, max), rest) := by
  have hcount : ReadsFront false fun text =>
      (count? flags text).bind fun (min, rest) => bounds? flags min rest :=
    (readsFront_count? flags).bind (readsFront_bounds? flags)
  refine .after (.skip flags) ?_ hcount
  intro text rest h
  rw [rounds?_eq, h]

end Pattern

end PathSchema
