import PathSchema.Proofs.Pattern.Front

/-!
# Escapes in front of a closing parenthesis

Code points, properties and names in braces are read up to where they end.  The one
escape that looks further is that of a word edge: a brace after it may hold the kind of
the edge or begin a repetition.
-/

namespace PathSchema

namespace Pattern

theorem readsFront_hexDigits? (flags : Flags) (value count : Nat) :
    ReadsFront false (hexDigits? flags value count) := by
  induction count generalizing value with
  | zero => exact .pure value
  | succ count ih =>
      refine .of_cons rfl fun c => ?_
      cases hdigit : Hexadecimal.value? c with
      | none =>
          simp only [hexDigits?, hdigit, Option.bind_none]
          exact .none
      | some digit =>
          simp only [hexDigits?, hdigit, Option.bind_some]
          exact .after (.skip flags) (fun _ _ h => by rw [h]) (ih _)

theorem suffix_of_untilBrace? {flags : Flags} {fuel : Nat} {text body rest : List Char}
    (h : untilBrace? flags fuel text = some (body, rest)) : rest <:+ text := by
  induction fuel generalizing text body with
  | zero => cases h
  | succ fuel ih =>
      rcases text with _ | ⟨c, text⟩
      · cases h
      · rw [untilBrace?] at h
        by_cases hbrace : c = '}'
        · rw [if_pos hbrace] at h
          obtain ⟨-, rfl⟩ := Prod.mk.inj (Option.some.inj h)
          exact List.suffix_cons c text
        · rw [if_neg hbrace] at h
          obtain ⟨⟨others, left⟩, hothers, hsome⟩ := Option.map_eq_some_iff.mp h
          obtain ⟨-, rfl⟩ := Prod.mk.inj hsome
          exact (ih hothers).trans ((flags.skip_suffix text).trans (List.suffix_cons c text))

theorem untilBrace?_behind {flags : Flags} {ahead fuel : Nat} {text tail body left : List Char}
    (h : untilBrace? flags ahead (text ++ ')' :: tail) = some (body, left ++ ')' :: tail))
    (hfuel : text.length < fuel) {ending : List Char} (hending : Ended ending) :
    untilBrace? flags fuel (text ++ ending) = some (body, left ++ ending) := by
  induction ahead generalizing text body fuel with
  | zero => cases h
  | succ ahead ih =>
      obtain ⟨fuel, rfl⟩ : ∃ less, fuel = less + 1 := ⟨fuel - 1, by omega⟩
      rcases text with _ | ⟨c, text⟩
      · obtain ⟨⟨others, rest⟩, hothers, hsome⟩ := Option.map_eq_some_iff.mp h
        obtain ⟨-, rfl⟩ := Prod.mk.inj hsome
        have hsuffix := (suffix_of_untilBrace? hothers).trans (flags.skip_suffix tail)
        exact absurd hsuffix not_append_cons_suffix
      · rw [List.cons_append, untilBrace?] at h ⊢
        by_cases hbrace : c = '}'
        · rw [if_pos hbrace] at h ⊢
          obtain ⟨rfl, htext⟩ := Prod.mk.inj (Option.some.inj h)
          rw [List.append_cancel_right htext]
        · rw [if_neg hbrace] at h ⊢
          obtain ⟨⟨others, rest⟩, hothers, hsome⟩ := Option.map_eq_some_iff.mp h
          obtain ⟨rfl, rfl⟩ := Prod.mk.inj hsome
          obtain ⟨near, hnear, -⟩ :=
            exists_eq_append_of_suffix (suffix_of_untilBrace? hothers)
          have hlength := (flags.skip_suffix (text ++ ')' :: tail)).length_le
          rw [hnear, List.length_append, List.length_append] at hlength
          have hless : near.length < fuel := by
            rw [List.length_cons] at hfuel
            omega
          rw [hnear] at hothers
          rw [flags.skip_behind hnear hending, ih hothers hless]
          rfl

theorem readsFront_braced? (flags : Flags) : ReadsFront false (braced? flags) where
  suffix := fun h => (suffix_of_untilBrace? h).trans (flags.skip_suffix _)
  behind := by
    intro text tail body left h ending hending _
    rw [braced?] at h ⊢
    obtain ⟨near, hnear, -⟩ := exists_eq_append_of_suffix (suffix_of_untilBrace? h)
    have hlength := (flags.skip_suffix (text ++ ')' :: tail)).length_le
    rw [hnear, List.length_append, List.length_append] at hlength
    rw [hnear] at h
    rw [flags.skip_behind hnear hending]
    refine untilBrace?_behind h ?_ hending
    rw [List.length_append]
    omega

theorem readsFront_hexLiteral? (flags : Flags) (count : Nat) :
    ReadsFront false (hexLiteral? flags count) := by
  apply ReadsFront.after (.skip flags)
  · intro text rest h
    rw [hexLiteral?, h]
  apply ReadsFront.of_mark '{' (by decide)
  · intro text hother
    split
    · exact absurd rfl (hother _)
    · rfl
  · apply (readsFront_braced? flags).bind
    intro body
    by_cases hempty : body.isEmpty = true
    · simp only [if_pos hempty]
      exact .none
    · simp only [if_neg hempty]
      apply ReadsFront.option
      intro digits
      apply ReadsFront.optionMap
      intro c
      exact .after (.skip flags) (fun _ _ h => by rw [h]) (.pure _)
  · apply (readsFront_hexDigits? flags 0 count).bind
    intro n
    apply ReadsFront.optionMap
    intro c
    exact .pure _

theorem readsFront_property? (flags : Flags) (negated : Bool) :
    ReadsFront false (property? flags negated) := by
  apply ReadsFront.after (.skip flags)
  · intro text rest h
    rw [property?, h]
  apply ReadsFront.of_cons rfl
  intro c
  by_cases hbrace : c = '{'
  · subst hbrace
    apply (readsFront_braced? flags).bind
    intro body
    apply ReadsFront.optionMap
    intro p
    exact .pure _
  · by_cases hslash : c = '\\'
    · subst hslash
      exact .none
    · simp only
      apply ReadsFront.optionMap
      intro p
      exact .after (.skip flags) (fun _ _ h => by rw [h]) (.pure _)

/-- The kind of a word edge that is named in braces, given what follows the opening one. -/
def namedEdge? (flags : Flags) (text : List Char) : Option (Atom × List Char) :=
  let (name, remaining) := edgeName? flags text.length text
  match remaining with
  | '}' :: remaining =>
    match String.ofList name with
    | "start" => some (.wordCondition .wordStart, remaining)
    | "end" => some (.wordCondition .wordEnd, remaining)
    | "start-half" => some (.wordCondition .wordStartHalf, remaining)
    | "end-half" => some (.wordCondition .wordEndHalf, remaining)
    | _ => none
  | _ => none

theorem wordEdge?_brace (flags : Flags) (rest : List Char) :
    wordEdge? flags ('{' :: rest) =
      match flags.skip rest with
      | [] => none
      | c :: inner =>
        if c.isAlpha || c = '-' then namedEdge? flags (c :: inner)
        else some (.wordCondition .wordEdge, '{' :: rest) := by
  rw [wordEdge?]
  rfl

theorem wordEdge?_of_ne (flags : Flags) {text : List Char} (h : ∀ rest, text ≠ '{' :: rest) :
    wordEdge? flags text = some (.wordCondition .wordEdge, text) := by
  rw [wordEdge?]
  exact h

theorem readsFront_namedEdge? (flags : Flags) : ReadsFront false (namedEdge? flags) := by
  apply ReadsFront.goingOn (.span flags fun c => c.isAlpha || c = '-')
  · intro text name rest h
    rw [namedEdge?, edgeName?_eq_span, h]
  · intro name
    simp only
    apply ReadsFront.of_mark '}' (by decide)
    · intro text hother
      split
      · exact absurd rfl (hother _)
      · rfl
    · simp only
      split
      · exact .pure _
      · exact .pure _
      · exact .pure _
      · exact .pure _
      · exact .none
    · exact .none

theorem wordEdge?_suffix {flags : Flags} {text rest : List Char} {atom : Atom}
    (h : wordEdge? flags text = some (atom, rest)) : rest <:+ text := by
  by_cases hbegins : ∃ others, text = '{' :: others
  · obtain ⟨others, rfl⟩ := hbegins
    rw [wordEdge?_brace] at h
    split at h
    · cases h
    · next c inner hskip =>
        split at h
        · have hinner := (readsFront_namedEdge? flags).suffix h
          rw [← hskip] at hinner
          exact hinner.trans ((flags.skip_suffix others).trans (List.suffix_cons _ others))
        · obtain ⟨-, rfl⟩ := Prod.mk.inj (Option.some.inj h)
          exact List.suffix_refl _
  · rw [wordEdge?_of_ne flags (not_exists.mp hbegins)] at h
    obtain ⟨-, rfl⟩ := Prod.mk.inj (Option.some.inj h)
    exact List.suffix_refl _

/-- A name in the brace is read as far as the brace, whatever the end behind it is. -/
theorem wordEdge?_behind_of_letter {flags : Flags} {others inner tail left : List Char} {c : Char}
    {atom : Atom} (hskip : flags.skip (others ++ ')' :: tail) = c :: inner)
    (hletter : (c.isAlpha || c = '-') = true)
    (h : namedEdge? flags (c :: inner) = some (atom, left ++ ')' :: tail)) {ending : List Char}
    (hending : Ended ending) :
    wordEdge? flags ('{' :: (others ++ ending)) = some (atom, left ++ ending) := by
  obtain ⟨near, hnear, -⟩ :=
    exists_eq_append_of_suffix ((readsFront_namedEdge? flags).suffix h)
  rcases near with _ | ⟨d, near⟩
  · obtain ⟨rfl, -⟩ := List.cons.inj hnear
    exact absurd hletter (by decide)
  · obtain ⟨rfl, rfl⟩ := List.cons.inj hnear
    have hnamed : namedEdge? flags ((c :: near) ++ ')' :: tail) =
        some (atom, left ++ ')' :: tail) := h
    have hbehind : flags.skip (others ++ ')' :: tail) = (c :: near) ++ ')' :: tail := hskip
    have hsame := flags.skip_behind hbehind hending
    rw [List.cons_append] at hsame
    rw [wordEdge?_brace, hsame]
    simp only [if_pos hletter]
    exact (readsFront_namedEdge? flags).behind hnamed hending (by simp)

/-- The escape of a word edge looks into a brace that follows.  If there is nothing in it, the
brace is left, to be read as a repetition. -/
theorem wordEdge?_behind {flags : Flags} {text tail left : List Char} {atom : Atom}
    (h : wordEdge? flags (text ++ ')' :: tail) = some (atom, left ++ ')' :: tail)) :
    (∀ ending, Ended ending → wordEdge? flags (text ++ ending) = some (atom, left ++ ending)) ∨
      atom = .wordCondition .wordEdge ∧ ∃ blanks,
        left = '{' :: blanks ∧ flags.skip blanks = [] := by
  by_cases hbegins : ∃ others, text = '{' :: others
  · obtain ⟨others, rfl⟩ := hbegins
    rw [List.cons_append, wordEdge?_brace] at h
    split at h
    · cases h
    · next c inner hskip =>
        by_cases hletter : (c.isAlpha || c = '-') = true
        · rw [if_pos hletter] at h
          exact .inl fun ending hending => wordEdge?_behind_of_letter hskip hletter h hending
        · rw [if_neg hletter] at h
          obtain ⟨rfl, htext⟩ := Prod.mk.inj (Option.some.inj h)
          rw [← List.cons_append] at htext
          obtain rfl := List.append_cancel_right htext
          cases hnear : flags.skip others with
          | nil => exact .inr ⟨rfl, others, rfl, hnear⟩
          | cons d near =>
              rw [flags.skip_append hnear] at hskip
              obtain ⟨rfl, -⟩ := List.cons.inj hskip
              refine .inl fun ending _ => ?_
              rw [List.cons_append, wordEdge?_brace, flags.skip_append hnear]
              simp only [if_neg hletter]
  · have hother : ∀ others, text ≠ '{' :: others := not_exists.mp hbegins
    have hbrace : '{' ≠ ')' := by decide
    rw [wordEdge?_of_ne flags (append_ne_cons hbrace hother (ended_cons tail))] at h
    obtain ⟨rfl, htext⟩ := Prod.mk.inj (Option.some.inj h)
    obtain rfl := List.append_cancel_right htext
    exact .inl fun ending hending =>
      wordEdge?_of_ne flags (append_ne_cons hbrace hother hending)

theorem escape?_of_ne (flags : Flags) {c : Char} (hx : c ≠ 'x') (hu : c ≠ 'u') (hU : c ≠ 'U')
    (hp : c ≠ 'p') (hP : c ≠ 'P') (hb : c ≠ 'b') (rest : List Char) :
    escape? flags (c :: rest) = (escape? flags [c]).map fun found => (found.1, rest) := by
  unfold escape?
  split
  all_goals simp_all

theorem readsFront_escape?_cons (flags : Flags) {c : Char} (hb : c ≠ 'b') :
    ReadsFront false fun rest => escape? flags (c :: rest) := by
  by_cases hx : c = 'x'
  · subst hx
    exact readsFront_hexLiteral? flags 2
  by_cases hu : c = 'u'
  · subst hu
    exact readsFront_hexLiteral? flags 4
  by_cases hU : c = 'U'
  · subst hU
    exact readsFront_hexLiteral? flags 8
  by_cases hp : c = 'p'
  · subst hp
    exact readsFront_property? flags false
  by_cases hP : c = 'P'
  · subst hP
    exact readsFront_property? flags true
  · have hsame : (fun rest => escape? flags (c :: rest)) = fun rest =>
        (escape? flags [c]).map fun found => (found.1, rest) :=
      funext fun rest => escape?_of_ne flags hx hu hU hp hP hb rest
    rw [hsame]
    apply ReadsFront.optionMap
    intro found
    exact .pure found.1

theorem escape?_suffix {flags : Flags} {text rest : List Char} {atom : Atom}
    (h : escape? flags text = some (atom, rest)) : rest <:+ text := by
  rcases text with _ | ⟨c, text⟩
  · cases h
  · refine List.IsSuffix.trans ?_ (List.suffix_cons c text)
    by_cases hb : c = 'b'
    · subst hb
      exact wordEdge?_suffix h
    · exact (readsFront_escape?_cons flags hb).suffix h

theorem escape?_behind {flags : Flags} {text tail left : List Char} {atom : Atom}
    (h : escape? flags (text ++ ')' :: tail) = some (atom, left ++ ')' :: tail)) :
    (∀ ending, Ended ending → escape? flags (text ++ ending) = some (atom, left ++ ending)) ∨
      atom = .wordCondition .wordEdge ∧ ∃ blanks,
        left = '{' :: blanks ∧ flags.skip blanks = [] := by
  rcases text with _ | ⟨c, text⟩
  · have hparenthesis : ')' ≠ 'b' := by decide
    have hsuffix := (readsFront_escape?_cons flags hparenthesis).suffix h
    exact absurd hsuffix not_append_cons_suffix
  · by_cases hb : c = 'b'
    · subst hb
      exact wordEdge?_behind h
    · exact .inl fun ending hending =>
        (readsFront_escape?_cons flags hb).behind h hending (by simp)

end Pattern

end PathSchema
