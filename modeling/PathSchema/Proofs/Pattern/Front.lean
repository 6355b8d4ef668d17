import Mathlib.Data.List.Basic
import PathSchema.Pattern.Reading

/-!
# Reading in front of a closing parenthesis

The text of a group is read with the parenthesis behind it that closes the group.  Whatever
reads an item takes it from the front of what is left.  As long as it leaves the
parenthesis, it does not see what stands behind that, and takes the same if nothing stands
there at all.  The lemmas follow the ways in which readers are put together.
-/

namespace PathSchema

namespace Pattern

/-- Nothing stands there, or a closing parenthesis comes first. -/
def Ended (text : List Char) : Prop :=
  ∀ c ∈ text.head?, c = ')'

theorem ended_nil : Ended [] := by
  simp [Ended]

theorem ended_cons (tail : List Char) : Ended (')' :: tail) := by
  simp [Ended]

theorem eq_nil_or_eq_cons_of_ended {text : List Char} (h : Ended text) :
    text = [] ∨ ∃ tail, text = ')' :: tail := by
  rcases text with _ | ⟨c, tail⟩
  · exact .inl rfl
  · obtain rfl : c = ')' := h c rfl
    exact .inr ⟨tail, rfl⟩

/-- What is read is taken from the front of a text.  In front of a parenthesis that it
leaves, a reader takes what it takes in front of any end.  One that peeks at what follows
needs something to be left. -/
structure ReadsFront {α : Type} (peeks : Bool) (read : List Char → Option (α × List Char)) :
    Prop where
  suffix : ∀ {text value rest}, read text = some (value, rest) → rest <:+ text
  behind : ∀ {text tail value left},
    read (text ++ ')' :: tail) = some (value, left ++ ')' :: tail) →
      ∀ {ending}, Ended ending → (peeks = true → left ++ ending ≠ []) →
        read (text ++ ending) = some (value, left ++ ending)

/-- No end begins with a mark that a text does not begin with. -/
theorem append_ne_cons {mark : Char} (hmark : mark ≠ ')') {text ending : List Char}
    (h : ∀ rest, text ≠ mark :: rest) (hending : Ended ending) :
    ∀ rest, text ++ ending ≠ mark :: rest := by
  rintro rest hrest
  rcases text with _ | ⟨c, text⟩
  · obtain rfl : ending = mark :: rest := hrest
    exact hmark (hending mark rfl)
  · obtain ⟨rfl, -⟩ := List.cons.inj hrest
    exact h text rfl

/-- What is left of a text is not longer than the text. -/
theorem not_append_cons_suffix {tail left : List Char} {c : Char} :
    ¬left ++ c :: tail <:+ tail := by
  intro h
  have hlength := h.length_le
  simp at hlength
  omega

/-- What is left while the end is still to come is left in front of the end. -/
theorem exists_eq_append_of_suffix {text left ending : List Char}
    (h : left ++ ending <:+ text) : ∃ others, text = others ++ ending ∧ left <:+ others := by
  obtain ⟨front, rfl⟩ := h
  exact ⟨front ++ left, by simp, List.suffix_append front left⟩

/-- What is left of a text and its end holds the end, or is left of what follows its first
character. -/
theorem suffix_or_exists_eq_append {rest text tail : List Char} {c : Char}
    (h : rest <:+ text ++ c :: tail) : rest <:+ tail ∨ ∃ left, rest = left ++ c :: tail := by
  rcases List.suffix_or_suffix_of_suffix h (List.suffix_append text (c :: tail)) with
    hinside | ⟨left, rfl⟩
  · rcases List.suffix_cons_iff.mp hinside with rfl | htail
    · exact .inr ⟨[], rfl⟩
    · exact .inl htail
  · exact .inr ⟨left, rfl⟩

namespace ReadsFront

variable {α β : Type} {peeks : Bool} {read : List Char → Option (α × List Char)}
  {next : α × List Char → Option (β × List Char)}

/-- Nothing is lost if something has to be left. -/
theorem loosen (hread : ReadsFront false read) : ReadsFront true read where
  suffix := hread.suffix
  behind h _ hending _ := hread.behind h hending (by simp)

protected theorem pure (value : α) : ReadsFront peeks fun text => some (value, text) where
  suffix := by
    rintro text _ rest ⟨⟩
    exact List.suffix_refl text
  behind := by
    intro text tail _ left h ending _ _
    obtain ⟨rfl, htext⟩ := Prod.mk.inj (Option.some.inj h)
    rw [List.append_cancel_right htext]

protected theorem none : ReadsFront peeks fun _ => (none : Option (α × List Char)) where
  suffix := by
    rintro text value rest ⟨⟩
  behind := by
    rintro text tail value left ⟨⟩

theorem bind (hread : ReadsFront peeks read)
    (hnext : ∀ value, ReadsFront peeks fun rest => next (value, rest)) :
    ReadsFront peeks fun text => (read text).bind next where
  suffix := by
    intro text value rest h
    obtain ⟨⟨first, between⟩, hfirst, hrest⟩ := Option.bind_eq_some_iff.mp h
    exact ((hnext first).suffix hrest).trans (hread.suffix hfirst)
  behind := by
    intro text tail value left h ending hending hpeeks
    obtain ⟨⟨first, between⟩, hfirst, hrest⟩ := Option.bind_eq_some_iff.mp h
    obtain ⟨others, rfl, hothers⟩ := exists_eq_append_of_suffix ((hnext first).suffix hrest)
    have hleft : peeks = true → others ++ ending ≠ [] := by
      intro hpeek hnil
      obtain ⟨rfl, rfl⟩ := List.append_eq_nil_iff.mp hnil
      obtain rfl := List.suffix_nil.mp hothers
      exact hpeeks hpeek rfl
    exact Option.bind_eq_some_iff.mpr
      ⟨(first, others ++ ending), hread.behind hfirst hending hleft,
        (hnext first).behind hrest hending hpeeks⟩

theorem map {f : α × List Char → β × List Char} (hread : ReadsFront peeks read)
    (hf : ∀ value, ReadsFront peeks fun rest => some (f (value, rest))) :
    ReadsFront peeks fun text => (read text).map f := by
  simp only [Option.map_eq_bind]
  exact hread.bind hf

theorem option (value? : Option α) {next : α → List Char → Option (β × List Char)}
    (hnext : ∀ value, ReadsFront peeks (next value)) :
    ReadsFront peeks fun text => value?.bind fun value => next value text := by
  cases value? with
  | none => exact .none
  | some value => exact hnext value

theorem optionMap (value? : Option α) {f : α → List Char → β × List Char}
    (hf : ∀ value, ReadsFront peeks fun text => some (f value text)) :
    ReadsFront peeks fun text => value?.map fun value => f value text := by
  cases value? with
  | none => exact .none
  | some value => exact hf value

/-- A reader goes on from what another one, which cannot fail, leaves. -/
theorem goingOn {split : List Char → α × List Char} {read : List Char → Option (β × List Char)}
    {next : α → List Char → Option (β × List Char)}
    (hsplit : ReadsFront peeks fun text => some (split text))
    (hread : ∀ text value rest, split text = (value, rest) → read text = next value rest)
    (hnext : ∀ value, ReadsFront peeks (next value)) : ReadsFront peeks read := by
  have hbind : ReadsFront peeks fun text =>
      (some (split text)).bind fun (value, rest) => next value rest :=
    hsplit.bind hnext
  have hsame : read = fun text =>
      (some (split text)).bind fun (value, rest) => next value rest :=
    funext fun text => hread text _ _ rfl
  rw [hsame]
  exact hbind

/-- Something is dropped before the text is read. -/
theorem after {read' : List Char → Option (α × List Char)} {drop : List Char → List Char}
    (hdrop : ReadsFront peeks fun text => some ((), drop text))
    (hread : ∀ text rest, drop text = rest → read text = read' rest)
    (hread' : ReadsFront peeks read') : ReadsFront peeks read :=
  goingOn hdrop (fun text _ rest h => hread text rest (Prod.mk.inj h).2) fun _ => hread'

/-- A reader that needs a character takes it, so it does not stop at the parenthesis. -/
theorem of_cons (hnil : read [] = none)
    (hcons : ∀ c, ReadsFront peeks fun rest => read (c :: rest)) : ReadsFront peeks read where
  suffix := by
    intro text value rest h
    rcases text with _ | ⟨c, text⟩
    · rw [hnil] at h
      cases h
    · exact ((hcons c).suffix h).trans (List.suffix_cons c text)
  behind := by
    intro text tail value left h
    rcases text with _ | ⟨c, text⟩
    · exact absurd ((hcons ')').suffix h) not_append_cons_suffix
    · exact (hcons c).behind h

/-- A mark decides how to go on. -/
theorem of_mark {other : List Char → Option (α × List Char)} (mark : Char)
    (hmark : mark ≠ ')')
    (hread : ∀ text, (∀ rest, text ≠ mark :: rest) → read text = other text)
    (hmarked : ReadsFront peeks fun rest => read (mark :: rest))
    (hother : ReadsFront peeks other) : ReadsFront peeks read where
  suffix := by
    intro text value rest h
    by_cases hbegins : ∃ others, text = mark :: others
    · obtain ⟨others, rfl⟩ := hbegins
      exact (hmarked.suffix h).trans (List.suffix_cons mark others)
    · rw [hread text (not_exists.mp hbegins)] at h
      exact hother.suffix h
  behind := by
    intro text tail value left h ending hending hpeeks
    by_cases hbegins : ∃ others, text = mark :: others
    · obtain ⟨others, rfl⟩ := hbegins
      exact hmarked.behind h hending hpeeks
    · rw [hread _ (append_ne_cons hmark (not_exists.mp hbegins) (ended_cons tail))] at h
      rw [hread _ (append_ne_cons hmark (not_exists.mp hbegins) hending)]
      exact hother.behind h hending hpeeks

/-- Some marks are refused at the front. -/
theorem refusing (hread : ReadsFront peeks read) (marks : List Char) :
    ReadsFront peeks fun text =>
      if text.head?.any marks.contains then none else read text where
  suffix := by
    intro text value rest h
    split at h
    · cases h
    · exact hread.suffix h
  behind := by
    intro text tail value left h ending hending hpeeks
    split at h
    · cases h
    · next hahead =>
        have hnear : ¬(text ++ ending).head?.any marks.contains = true := by
          rcases text with _ | ⟨c, text⟩
          · rcases eq_nil_or_eq_cons_of_ended hending with rfl | ⟨more, rfl⟩
            · simp
            · exact hahead
          · exact hahead
        rw [if_neg hnear]
        exact hread.behind h hending hpeeks

end ReadsFront

/-! ## Blanks and comments -/

theorem dropTrivia_suffix (inComment : Bool) (text : List Char) :
    dropTrivia inComment text <:+ text := by
  fun_induction dropTrivia inComment text with
  | case1 => exact List.suffix_refl []
  | case2 c rest ih => exact ih.trans (List.suffix_cons c rest)
  | case3 inComment c rest _ _ ih => exact ih.trans (List.suffix_cons c rest)
  | case4 inComment rest _ _ ih => exact ih.trans (List.suffix_cons _ rest)
  | case5 inComment c rest => exact List.suffix_refl _

theorem dropTrivia_of_ended {ending : List Char} (h : Ended ending) :
    dropTrivia false ending = ending := by
  rcases eq_nil_or_eq_cons_of_ended h with rfl | ⟨tail, rfl⟩
  · rfl
  · have hblank : ¬Unicode.isWhiteSpace ')' = true := by decide +kernel
    simp [dropTrivia, hblank]

/-- A comment that is open would run over the parenthesis. -/
theorem dropTrivia_behind {inComment : Bool} {text tail left : List Char}
    (h : dropTrivia inComment (text ++ ')' :: tail) = left ++ ')' :: tail)
    {ending : List Char} (hending : Ended ending) :
    dropTrivia inComment (text ++ ending) = left ++ ending := by
  induction text generalizing inComment with
  | nil =>
      cases inComment with
      | false =>
          rw [List.nil_append, dropTrivia_of_ended (ended_cons tail)] at h
          obtain rfl : [] = left := List.append_cancel_right h
          exact dropTrivia_of_ended hending
      | true =>
          have hsuffix := dropTrivia_suffix true tail
          have hsame : dropTrivia true tail = left ++ ')' :: tail := h
          rw [hsame] at hsuffix
          exact absurd hsuffix not_append_cons_suffix
  | cons c text ih =>
      rw [List.cons_append, dropTrivia] at h ⊢
      by_cases hcomment : inComment = true
      · rw [if_pos hcomment] at h ⊢
        exact ih h
      · rw [if_neg hcomment] at h ⊢
        by_cases hblank : Unicode.isWhiteSpace c = true
        · rw [if_pos hblank] at h ⊢
          exact ih h
        · rw [if_neg hblank] at h ⊢
          by_cases hsign : c = '#'
          · rw [if_pos hsign] at h ⊢
            exact ih h
          · rw [if_neg hsign, ← List.cons_append] at h ⊢
            rw [List.append_cancel_right h]

/-- Nothing that stands behind a text matters once a character of the text is met. -/
theorem dropTrivia_append {inComment : Bool} {text rest : List Char} {c : Char}
    (h : dropTrivia inComment text = c :: rest) (more : List Char) :
    dropTrivia inComment (text ++ more) = c :: (rest ++ more) := by
  induction text generalizing inComment with
  | nil => cases h
  | cons d text ih =>
      rw [dropTrivia] at h
      rw [List.cons_append, dropTrivia]
      by_cases hcomment : inComment = true
      · rw [if_pos hcomment] at h ⊢
        exact ih h
      · rw [if_neg hcomment] at h ⊢
        by_cases hblank : Unicode.isWhiteSpace d = true
        · rw [if_pos hblank] at h ⊢
          exact ih h
        · rw [if_neg hblank] at h ⊢
          by_cases hsign : d = '#'
          · rw [if_pos hsign] at h ⊢
            exact ih h
          · rw [if_neg hsign] at h ⊢
            obtain ⟨rfl, rfl⟩ := List.cons.inj h
            rfl

namespace Flags

variable (flags : Flags)

theorem skip_suffix (text : List Char) : flags.skip text <:+ text := by
  unfold skip
  split
  · exact dropTrivia_suffix false text
  · exact List.suffix_refl text

theorem skip_behind {text tail left : List Char}
    (h : flags.skip (text ++ ')' :: tail) = left ++ ')' :: tail) {ending : List Char}
    (hending : Ended ending) : flags.skip (text ++ ending) = left ++ ending := by
  unfold skip at h ⊢
  by_cases hverbose : flags.verbose = true
  · rw [if_pos hverbose] at h ⊢
    exact dropTrivia_behind h hending
  · rw [if_neg hverbose] at h ⊢
    rw [List.append_cancel_right h]

theorem skip_append {text rest : List Char} {c : Char} (h : flags.skip text = c :: rest)
    (more : List Char) : flags.skip (text ++ more) = c :: (rest ++ more) := by
  unfold skip at h ⊢
  by_cases hverbose : flags.verbose = true
  · rw [if_pos hverbose] at h ⊢
    exact dropTrivia_append h more
  · rw [if_neg hverbose] at h ⊢
    rw [h, List.cons_append]

theorem skip_cons {c : Char} (hblank : ¬Unicode.isWhiteSpace c = true) (hsign : c ≠ '#')
    (rest : List Char) : flags.skip (c :: rest) = c :: rest := by
  unfold skip
  split
  · simp [dropTrivia, hblank, hsign]
  · rfl

theorem skip_of_ended {ending : List Char} (h : Ended ending) : flags.skip ending = ending := by
  unfold skip
  split
  · exact dropTrivia_of_ended h
  · rfl

@[simp] theorem skip_nil : flags.skip [] = [] := by
  unfold skip
  split
  · rfl
  · rfl

end Flags

/-- A run of characters that leaves the parenthesis is the same in front of any end. -/
theorem dropWhile_behind {p : Char → Bool} {text tail left : List Char}
    (h : (text ++ ')' :: tail).dropWhile p = left ++ ')' :: tail) {ending : List Char}
    (hending : Ended ending) :
    (text ++ ending).dropWhile p = left ++ ending ∧
      (text ++ ending).takeWhile p = (text ++ ')' :: tail).takeWhile p := by
  induction text with
  | nil =>
      rw [List.nil_append] at h
      by_cases hp : p ')' = true
      · rw [List.dropWhile_cons_of_pos hp] at h
        have hsuffix := List.dropWhile_suffix p (l := tail)
        rw [h] at hsuffix
        exact absurd hsuffix not_append_cons_suffix
      · rw [List.dropWhile_cons_of_neg hp] at h
        obtain rfl : [] = left := List.append_cancel_right h
        rw [List.nil_append, List.nil_append, List.takeWhile_cons_of_neg hp]
        rcases eq_nil_or_eq_cons_of_ended hending with rfl | ⟨more, rfl⟩
        · exact ⟨rfl, rfl⟩
        · exact ⟨List.dropWhile_cons_of_neg hp, List.takeWhile_cons_of_neg hp⟩
  | cons c text ih =>
      rw [List.cons_append] at h ⊢
      by_cases hp : p c = true
      · rw [List.dropWhile_cons_of_pos hp] at h
        rw [List.dropWhile_cons_of_pos hp, List.takeWhile_cons_of_pos hp, List.cons_append,
          List.takeWhile_cons_of_pos hp, (ih h).2]
        exact ⟨(ih h).1, rfl⟩
      · rw [List.dropWhile_cons_of_neg hp, ← List.cons_append] at h
        rw [List.dropWhile_cons_of_neg hp, List.takeWhile_cons_of_neg hp, List.cons_append,
          List.takeWhile_cons_of_neg hp, ← List.cons_append, List.append_cancel_right h]
        exact ⟨rfl, rfl⟩

namespace ReadsFront

theorem skip (flags : Flags) : ReadsFront false fun text => some ((), flags.skip text) where
  suffix := by
    rintro text _ rest ⟨⟩
    exact flags.skip_suffix text
  behind := by
    intro text tail _ left h ending hending _
    obtain ⟨-, hskip⟩ := Prod.mk.inj (Option.some.inj h)
    rw [flags.skip_behind hskip hending]

theorem dropWhile (p : Char → Bool) :
    ReadsFront false fun text => some ((), text.dropWhile p) where
  suffix := by
    rintro text _ rest ⟨⟩
    exact List.dropWhile_suffix p
  behind := by
    intro text tail _ left h ending hending _
    obtain ⟨-, hdrop⟩ := Prod.mk.inj (Option.some.inj h)
    rw [(dropWhile_behind hdrop hending).1]

/-- A name runs up to its end. -/
theorem upTo {α : Type} {read : List Char → Option (α × List Char)}
    {next : List Char → List Char → Option (α × List Char)} (p : Char → Bool)
    (hread : ∀ text name rest, text.takeWhile p = name → text.dropWhile p = rest →
      read text = next name rest)
    (hnext : ∀ name, ReadsFront false (next name)) : ReadsFront false read where
  suffix := by
    intro text value rest h
    rw [hread text _ _ rfl rfl] at h
    exact ((hnext _).suffix h).trans (List.dropWhile_suffix p)
  behind := by
    intro text tail value left h ending hending hpeeks
    rw [hread _ _ _ rfl rfl] at h
    obtain ⟨others, hothers, -⟩ := exists_eq_append_of_suffix ((hnext _).suffix h)
    obtain ⟨hdrop, htake⟩ := dropWhile_behind hothers hending
    rw [hothers] at h
    rw [hread _ _ _ htake hdrop]
    exact (hnext _).behind h hending hpeeks

theorem lazyMark : ReadsFront false fun text => some ((), dropLazyMark text) := by
  refine of_mark '?' (by decide) ?_ (.pure ()) (.pure ())
  intro text hmark
  rw [dropLazyMark]
  exact hmark

end ReadsFront

/-! ## Runs of characters -/

/-- A run of characters, with what is ignored after each of them, and what follows. -/
def span (flags : Flags) (p : Char → Bool) : Nat → List Char → List Char × List Char
  | fuel + 1, c :: rest =>
    if p c then
      let (taken, remaining) := span flags p fuel (flags.skip rest)
      (c :: taken, remaining)
    else ([], c :: rest)
  | _, text => ([], text)

theorem span_zero (flags : Flags) (p : Char → Bool) (text : List Char) :
    span flags p 0 text = ([], text) := by
  cases text with
  | nil => rfl
  | cons c rest => rfl

theorem span_nil (flags : Flags) (p : Char → Bool) (fuel : Nat) :
    span flags p fuel [] = ([], []) := by
  cases fuel with
  | zero => rfl
  | succ fuel => rfl

theorem span_of_neg (flags : Flags) {p : Char → Bool} {c : Char} (hc : ¬p c = true)
    (fuel : Nat) (rest : List Char) : span flags p fuel (c :: rest) = ([], c :: rest) := by
  cases fuel with
  | zero => rfl
  | succ fuel => rw [span, if_neg hc]

theorem countDigits_eq_span (flags : Flags) (fuel : Nat) (text : List Char) :
    countDigits flags fuel text = span flags Char.isDigit fuel text := by
  induction fuel generalizing text with
  | zero =>
      rw [span_zero, countDigits]
      simp
  | succ fuel ih =>
      rcases text with _ | ⟨c, rest⟩
      · rfl
      · rw [countDigits, span, ih]

theorem edgeName?_eq_span (flags : Flags) (fuel : Nat) (text : List Char) :
    edgeName? flags fuel text = span flags (fun c => c.isAlpha || c = '-') fuel text := by
  induction fuel generalizing text with
  | zero => rw [span_zero, edgeName?]
  | succ fuel ih =>
      rcases text with _ | ⟨c, rest⟩
      · rfl
      · rw [edgeName?, span, ih]

theorem leadingHyphens_eq_span (flags : Flags) (bracket : Bracket) (fuel : Nat)
    (text : List Char) :
    Bracket.leadingHyphens flags bracket fuel text =
      ((span flags (· == '-') fuel text).1.foldl
        (fun bracket _ => bracket.add (.single '-')) bracket,
        (span flags (· == '-') fuel text).2) := by
  induction fuel generalizing bracket text with
  | zero =>
      rw [span_zero, Bracket.leadingHyphens]
      · rfl
      · intro fuel rest h
        cases h
  | succ fuel ih =>
      rcases text with _ | ⟨c, rest⟩
      · rfl
      · by_cases hhyphen : c = '-'
        · subst hhyphen
          rw [Bracket.leadingHyphens, ih]
          rfl
        · rw [Bracket.leadingHyphens, span, if_neg (by simpa using hhyphen)]
          · rfl
          · simp [hhyphen]

theorem span_suffix (flags : Flags) (p : Char → Bool) (fuel : Nat) (text : List Char) :
    (span flags p fuel text).2 <:+ text := by
  induction fuel generalizing text with
  | zero => simp [span_zero]
  | succ fuel ih =>
      rcases text with _ | ⟨c, rest⟩
      · exact List.suffix_refl []
      · rw [span]
        split
        · exact (ih _).trans ((flags.skip_suffix rest).trans (List.suffix_cons c rest))
        · exact List.suffix_refl _

/-- The fuel does not matter as long as there is enough in front of the end. -/
theorem span_behind {flags : Flags} {p : Char → Bool} {fuel ahead : Nat}
    {text tail taken left : List Char} (hahead : text.length < ahead)
    (h : span flags p ahead (text ++ ')' :: tail) = (taken, left ++ ')' :: tail))
    (hfuel : text.length ≤ fuel) {ending : List Char} (hending : Ended ending) :
    span flags p fuel (text ++ ending) = (taken, left ++ ending) := by
  induction ahead generalizing text taken fuel with
  | zero => omega
  | succ ahead ih =>
      rcases text with _ | ⟨c, text⟩
      · rw [List.nil_append, span] at h
        by_cases hp : p ')' = true
        · rw [if_pos hp] at h
          have hsuffix := (span_suffix flags p ahead (flags.skip tail)).trans
            (flags.skip_suffix tail)
          rw [(Prod.mk.inj h).2] at hsuffix
          exact absurd hsuffix not_append_cons_suffix
        · rw [if_neg hp] at h
          obtain ⟨rfl, hleft⟩ := Prod.mk.inj h
          obtain rfl : [] = left := List.append_cancel_right hleft
          rcases eq_nil_or_eq_cons_of_ended hending with rfl | ⟨more, rfl⟩
          · exact span_nil flags p fuel
          · exact span_of_neg flags hp fuel more
      · obtain ⟨fuel, rfl⟩ : ∃ less, fuel = less + 1 :=
          ⟨fuel - 1, by rw [List.length_cons] at hfuel; omega⟩
        simp only [List.length_cons] at hfuel hahead
        rw [List.cons_append, span] at h ⊢
        by_cases hp : p c = true
        · rw [if_pos hp] at h ⊢
          have hrest := (Prod.mk.inj h).2
          have hsuffix := span_suffix flags p ahead (flags.skip (text ++ ')' :: tail))
          rw [hrest] at hsuffix
          obtain ⟨others, hothers, -⟩ := exists_eq_append_of_suffix hsuffix
          have hlength := (flags.skip_suffix (text ++ ')' :: tail)).length_le
          rw [hothers, List.length_append, List.length_append] at hlength
          rw [hothers] at h hrest
          have hmore := @ih fuel others _ (by omega) (Prod.ext rfl hrest) (by omega)
          rw [flags.skip_behind hothers hending, hmore]
          exact Prod.ext (Prod.mk.inj h).1 rfl
        · rw [if_neg hp] at h ⊢
          obtain ⟨rfl, hleft⟩ := Prod.mk.inj h
          rw [← List.cons_append] at hleft ⊢
          rw [List.append_cancel_right hleft]

theorem ReadsFront.span (flags : Flags) (p : Char → Bool) :
    ReadsFront false fun text => some (Pattern.span flags p text.length text) where
  suffix := by
    rintro text taken rest h
    have hrest : (Pattern.span flags p text.length text).2 = rest :=
      congrArg Prod.snd (Option.some.inj h)
    rw [← hrest]
    exact span_suffix flags p _ text
  behind := by
    intro text tail taken left h ending hending _
    have hahead : text.length < (text ++ ')' :: tail).length := by simp
    have hfuel : text.length ≤ (text ++ ending).length := by simp
    rw [span_behind hahead (Option.some.inj h) hfuel hending]

end Pattern

end PathSchema
