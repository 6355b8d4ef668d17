import Mathlib.Data.List.TakeWhile
import PathSchema.Proofs.Pattern.Escapes

/-!
# Brackets in front of a closing parenthesis

The reader of a bracket peeks at what follows an item, since a hyphen may make it a range.
There is always something to peek at: a bracketed class ends with its closing bracket.  What
it sees behind a hyphen may lie beyond the parenthesis, if a comment runs over that; but
then the class does so too.
-/

namespace PathSchema

namespace Pattern

/-! ## Items and ranges -/

/-- Conditions and the dot are no members of brackets. -/
def Atom.isMember : Atom → Bool
  | literal .. | shorthand .. | property .. => true
  | dot | lineStart | lineEnd | wordCondition _ | condition _ => false

namespace Bracket

/-- An item that may be a member of a bracket. -/
def member? (flags : Flags) (text : List Char) : Option (Atom × List Char) :=
  (item? flags text).bind fun (atom, rest) => if atom.isMember then some (atom, rest) else none

theorem member?_escape_eq_some_iff {flags : Flags} {text rest : List Char} {atom : Atom} :
    member? flags ('\\' :: text) = some (atom, rest) ↔
      escape? flags text = some (atom, rest) ∧ atom.isMember = true := by
  simp only [member?, item?, Option.bind_eq_some_iff, Prod.exists, Option.ite_none_right_eq_some,
    Option.some.injEq, Prod.mk.injEq]
  constructor
  · rintro ⟨_, _, h, hmember, rfl, rfl⟩
    exact ⟨h, hmember⟩
  · rintro ⟨h, hmember⟩
    exact ⟨atom, rest, h, hmember, rfl, rfl⟩

theorem member?_cons (flags : Flags) {c : Char} (hc : c ≠ '\\') (rest : List Char) :
    member? flags (c :: rest) = some (.literal c false, rest) := by
  rw [member?, item?]
  · rfl
  · exact hc

/-- The one escape that looks further than it takes is a condition. -/
theorem readsFront_member?_cons (flags : Flags) (c : Char) :
    ReadsFront false fun rest => member? flags (c :: rest) := by
  by_cases hslash : c = '\\'
  · subst hslash
    constructor
    · intro text atom rest h
      exact escape?_suffix (member?_escape_eq_some_iff.mp h).1
    · intro text tail atom left h ending hending _
      obtain ⟨hescape, hmember⟩ := member?_escape_eq_some_iff.mp h
      rcases escape?_behind hescape with hbehind | ⟨rfl, -⟩
      · exact member?_escape_eq_some_iff.mpr ⟨hbehind ending hending, hmember⟩
      · cases hmember
  · simp only [member?_cons flags hslash]
    exact .pure _

theorem readsFront_member? (flags : Flags) : ReadsFront false (member? flags) :=
  .of_cons rfl (readsFront_member?_cons flags)

theorem itemClass?_eq_none {flags : Flags} {atom : Atom} (h : atom.isMember = false) :
    itemClass? flags atom = none := by
  cases atom <;> simp_all [itemClass?, Atom.isMember, Atom.class?]

theorem bound?_eq_none {flags : Flags} {atom : Atom} (h : atom.isMember = false) :
    bound? flags atom = none := by
  cases atom <;> simp_all [bound?, Atom.isMember]

theorem item?_bind_eq_member?_bind {α : Type} {flags : Flags} {text : List Char}
    {next : Atom × List Char → Option α}
    (h : ∀ atom rest, atom.isMember = false → next (atom, rest) = none) :
    (item? flags text).bind next = (member? flags text).bind next := by
  rw [member?, Option.bind_assoc]
  congr 1
  funext ⟨atom, rest⟩
  by_cases hmember : atom.isMember = true
  · simp [hmember]
  · rw [h atom rest (by simpa using hmember)]
    simp [hmember]

/-- A range that begins with an item, or the item alone, given what follows the item. -/
def rangeFrom? (flags : Flags) (first : Atom) (text : List Char) :
    Option (CharClass × List Char) :=
  match flags.skip text with
  | [] => none
  | '-' :: afterHyphen =>
    match flags.skip afterHyphen with
    | [] => none
    | c :: rest =>
      if c = ']' || c = '-' then
        (itemClass? flags first).map fun chars => (chars, '-' :: afterHyphen)
      else
        (item? flags (c :: rest)).bind fun (last, rest) =>
          (bound? flags first).bind fun first =>
            (bound? flags last).bind fun last =>
              if first ≤ last then some (.range first last, rest) else none
  | rest => (itemClass? flags first).map fun chars => (chars, rest)

theorem range?_eq (flags : Flags) (text : List Char) :
    range? flags text = (member? flags text).bind fun (first, rest) =>
      rangeFrom? flags first rest := by
  refine item?_bind_eq_member?_bind ?_
  intro first rest hfirst
  simp only [itemClass?_eq_none hfirst, bound?_eq_none hfirst]
  split
  · rfl
  · split
    · rfl
    · split
      · rfl
      · simp
  · rfl

def between? (flags : Flags) (first last : Atom) : Option CharClass :=
  (bound? flags first).bind fun first =>
    (bound? flags last).bind fun last =>
      if first ≤ last then some (.range first last) else none

theorem rangeFrom?_of_hyphen {flags : Flags} {first : Atom} {text afterHyphen rest : List Char}
    {c : Char} (hskip : flags.skip text = '-' :: afterHyphen)
    (hafter : flags.skip afterHyphen = c :: rest) :
    rangeFrom? flags first text =
      if c = ']' || c = '-' then
        (itemClass? flags first).map fun chars => (chars, '-' :: afterHyphen)
      else
        (member? flags (c :: rest)).bind fun (last, rest) =>
          (between? flags first last).map fun chars => (chars, rest) := by
  simp only [rangeFrom?, hskip, hafter]
  split
  · rfl
  · rw [item?_bind_eq_member?_bind]
    · congr 1
      funext ⟨last, rest⟩
      simp only [between?]
      cases bound? flags first with
      | none => rfl
      | some first =>
          cases bound? flags last with
          | none => rfl
          | some last =>
              simp only [Option.bind_some]
              split
              · rfl
              · rfl
    · intro last rest hlast
      simp [bound?_eq_none hlast]

theorem rangeFrom?_of_no_hyphen {flags : Flags} {first : Atom} {text : List Char}
    (hne : flags.skip text ≠ []) (hother : ∀ rest, flags.skip text ≠ '-' :: rest) :
    rangeFrom? flags first text =
      (itemClass? flags first).map fun chars => (chars, flags.skip text) := by
  rw [rangeFrom?]
  split
  · next h => exact absurd h hne
  · next h => exact absurd h (hother _)
  · rfl

theorem rangeFrom?_suffix {flags : Flags} {first : Atom} {text rest : List Char}
    {chars : CharClass} (h : rangeFrom? flags first text = some (chars, rest)) :
    rest <:+ flags.skip text := by
  by_cases hnil : flags.skip text = []
  · simp [rangeFrom?, hnil] at h
  by_cases hhyphen : ∃ others, flags.skip text = '-' :: others
  · obtain ⟨others, hskip⟩ := hhyphen
    rw [hskip]
    cases hafter : flags.skip others with
    | nil => simp [rangeFrom?, hskip, hafter] at h
    | cons d afterHyphen =>
        rw [rangeFrom?_of_hyphen hskip hafter] at h
        split at h
        · obtain ⟨_, -, hsome⟩ := Option.map_eq_some_iff.mp h
          obtain ⟨-, rfl⟩ := Prod.mk.inj hsome
          exact List.suffix_refl _
        · obtain ⟨⟨last, left⟩, hlast, h⟩ := Option.bind_eq_some_iff.mp h
          obtain ⟨_, -, hsome⟩ := Option.map_eq_some_iff.mp h
          obtain ⟨-, rfl⟩ := Prod.mk.inj hsome
          have hleft := (readsFront_member? flags).suffix hlast
          rw [← hafter] at hleft
          exact hleft.trans ((flags.skip_suffix others).trans (List.suffix_cons _ others))
  · rw [rangeFrom?_of_no_hyphen hnil (not_exists.mp hhyphen)] at h
    obtain ⟨_, -, hsome⟩ := Option.map_eq_some_iff.mp h
    obtain ⟨-, rfl⟩ := Prod.mk.inj hsome
    exact List.suffix_refl _

/-- What is ignored after a text runs over the parenthesis behind it. -/
def RunsOver (flags : Flags) (text tail : List Char) : Prop :=
  flags.skip (text ++ ')' :: tail) <:+ tail

theorem runsOver_or_exists (flags : Flags) (text tail : List Char) :
    RunsOver flags text tail ∨ ∃ near, flags.skip (text ++ ')' :: tail) = near ++ ')' :: tail :=
  suffix_or_exists_eq_append (flags.skip_suffix _)

theorem rangeFrom?_behind_of_hyphen {flags : Flags} {first : Atom}
    {text others near tail left : List Char} {chars : CharClass}
    (hskip : flags.skip (text ++ ')' :: tail) = ('-' :: others) ++ ')' :: tail)
    (hafter : flags.skip (others ++ ')' :: tail) = near ++ ')' :: tail)
    (h : rangeFrom? flags first (text ++ ')' :: tail) = some (chars, left ++ ')' :: tail))
    {ending : List Char} (hending : Ended ending) :
    rangeFrom? flags first (text ++ ending) = some (chars, left ++ ending) := by
  have hsame := flags.skip_behind hskip hending
  have hsameAfter := flags.skip_behind hafter hending
  rcases near with _ | ⟨c, near⟩
  · rw [rangeFrom?_of_hyphen hskip hafter, if_neg (by decide)] at h
    obtain ⟨⟨last, rest⟩, hlast, h⟩ := Option.bind_eq_some_iff.mp h
    obtain ⟨_, -, hsome⟩ := Option.map_eq_some_iff.mp h
    obtain ⟨-, rfl⟩ := Prod.mk.inj hsome
    exact absurd ((readsFront_member?_cons flags ')').suffix hlast) not_append_cons_suffix
  · rw [List.cons_append] at hafter hsameAfter
    rw [rangeFrom?_of_hyphen hskip hafter] at h
    rw [rangeFrom?_of_hyphen hsame hsameAfter]
    by_cases hc : (c = ']' || c = '-') = true
    · rw [if_pos hc] at h ⊢
      obtain ⟨found, hfound, hsome⟩ := Option.map_eq_some_iff.mp h
      obtain ⟨rfl, hleft⟩ := Prod.mk.inj hsome
      obtain rfl : '-' :: others = left := List.append_cancel_right hleft
      rw [hfound]
      rfl
    · rw [if_neg hc] at h ⊢
      obtain ⟨⟨last, rest⟩, hlast, h⟩ := Option.bind_eq_some_iff.mp h
      obtain ⟨found, hfound, hsome⟩ := Option.map_eq_some_iff.mp h
      obtain ⟨rfl, rfl⟩ := Prod.mk.inj hsome
      rw [← List.cons_append] at hlast ⊢
      rw [(readsFront_member? flags).behind hlast hending (by simp)]
      simp only [Option.bind_some, hfound, Option.map_some]

theorem rangeFrom?_behind_of_no_hyphen {flags : Flags} {first : Atom}
    {text near tail left : List Char} {chars : CharClass}
    (hskip : flags.skip (text ++ ')' :: tail) = near ++ ')' :: tail)
    (hother : ∀ others, near ≠ '-' :: others)
    (h : rangeFrom? flags first (text ++ ')' :: tail) = some (chars, left ++ ')' :: tail))
    {ending : List Char} (hending : Ended ending) (hne : left ++ ending ≠ []) :
    rangeFrom? flags first (text ++ ending) = some (chars, left ++ ending) := by
  have hclose : '-' ≠ ')' := by decide
  have hsame := flags.skip_behind hskip hending
  rw [rangeFrom?_of_no_hyphen (by simp [hskip])
    (hskip ▸ append_ne_cons hclose hother (ended_cons tail)), hskip] at h
  obtain ⟨found, hfound, hsome⟩ := Option.map_eq_some_iff.mp h
  obtain ⟨rfl, hleft⟩ := Prod.mk.inj hsome
  obtain rfl : near = left := List.append_cancel_right hleft
  rw [rangeFrom?_of_no_hyphen (hsame ▸ hne) (hsame ▸ append_ne_cons hclose hother hending), hsame,
    hfound]
  rfl

/-- A hyphen before a comment that runs over the parenthesis is left. -/
theorem eq_of_rangeFrom?_of_runsOver {flags : Flags} {first : Atom}
    {text others tail left : List Char} {chars : CharClass}
    (hskip : flags.skip (text ++ ')' :: tail) = ('-' :: others) ++ ')' :: tail)
    (hover : RunsOver flags others tail)
    (h : rangeFrom? flags first (text ++ ')' :: tail) = some (chars, left ++ ')' :: tail)) :
    left = '-' :: others := by
  cases hafter : flags.skip (others ++ ')' :: tail) with
  | nil => simp [rangeFrom?, hskip, hafter] at h
  | cons c more =>
      rw [RunsOver, hafter] at hover
      rw [rangeFrom?_of_hyphen hskip hafter] at h
      split at h
      · obtain ⟨_, -, hsome⟩ := Option.map_eq_some_iff.mp h
        obtain ⟨-, hleft⟩ := Prod.mk.inj hsome
        have hsame : '-' :: others = left := List.append_cancel_right hleft
        exact hsame.symm
      · obtain ⟨⟨last, rest⟩, hlast, h⟩ := Option.bind_eq_some_iff.mp h
        obtain ⟨_, -, hsome⟩ := Option.map_eq_some_iff.mp h
        obtain ⟨-, rfl⟩ := Prod.mk.inj hsome
        have hsuffix := ((readsFront_member? flags).suffix hlast).trans hover
        exact absurd hsuffix not_append_cons_suffix

/-- The range or item in front of a parenthesis is the same in front of any end, unless a
hyphen after it is followed by a comment that runs over the parenthesis. -/
theorem rangeFrom?_behind {flags : Flags} {first : Atom} {text tail left : List Char}
    {chars : CharClass}
    (h : rangeFrom? flags first (text ++ ')' :: tail) = some (chars, left ++ ')' :: tail)) :
    (∀ ending, Ended ending → left ++ ending ≠ [] →
        rangeFrom? flags first (text ++ ending) = some (chars, left ++ ending)) ∨
      ∃ others, left = '-' :: others ∧ RunsOver flags others tail := by
  obtain ⟨near, hnear, -⟩ := exists_eq_append_of_suffix (rangeFrom?_suffix h)
  by_cases hhyphen : ∃ others, near = '-' :: others
  · obtain ⟨others, rfl⟩ := hhyphen
    rcases runsOver_or_exists flags others tail with hover | ⟨nearAfter, hafter⟩
    · exact .inr ⟨others, eq_of_rangeFrom?_of_runsOver hnear hover h, hover⟩
    · exact .inl fun ending hending _ =>
        rangeFrom?_behind_of_hyphen hnear hafter h hending
  · exact .inl fun ending hending hne =>
      rangeFrom?_behind_of_no_hyphen hnear (not_exists.mp hhyphen) h hending hne

theorem range?_suffix {flags : Flags} {c : Char} {text rest : List Char} {chars : CharClass}
    (h : range? flags (c :: text) = some (chars, rest)) : rest <:+ text := by
  rw [range?_eq] at h
  obtain ⟨⟨first, others⟩, hfirst, hrange⟩ := Option.bind_eq_some_iff.mp h
  exact ((rangeFrom?_suffix hrange).trans (flags.skip_suffix others)).trans
    ((readsFront_member?_cons flags c).suffix hfirst)

theorem range?_behind {flags : Flags} {c : Char} {text tail left : List Char}
    {chars : CharClass}
    (h : range? flags (c :: (text ++ ')' :: tail)) = some (chars, left ++ ')' :: tail)) :
    (∀ ending, Ended ending → left ++ ending ≠ [] →
        range? flags (c :: (text ++ ending)) = some (chars, left ++ ending)) ∨
      ∃ others, left = '-' :: others ∧ RunsOver flags others tail := by
  rw [range?_eq] at h
  obtain ⟨⟨first, others⟩, hfirst, hrange⟩ := Option.bind_eq_some_iff.mp h
  obtain ⟨near, rfl, -⟩ := exists_eq_append_of_suffix
    ((rangeFrom?_suffix hrange).trans (flags.skip_suffix others))
  refine (rangeFrom?_behind hrange).imp_left fun hbehind ending hending hne => ?_
  rw [range?_eq, (readsFront_member?_cons flags c).behind hfirst hending (by simp)]
  exact hbehind ending hending hne

/-- A caret complements what it comes before. -/
def caret (flags : Flags) (text : List Char) : Bool × List Char :=
  match flags.skip text with
  | '^' :: rest => (true, flags.skip rest)
  | text => (false, text)

theorem readsFront_caret (flags : Flags) :
    ReadsFront false fun text => some (caret flags text) := by
  apply ReadsFront.after (.skip flags)
  · intro text rest h
    rw [caret, h]
  apply ReadsFront.of_mark '^' (by decide)
  · intro text hother
    split
    · exact absurd rfl (hother _)
    · rfl
  · exact .after (.skip flags) (fun _ _ h => by simp only [h]) (.pure true)
  · exact .pure false

/-- A bracket after its caret and its leading hyphens. -/
def begun? (flags : Flags) (bracket : Bracket) (text : List Char) :
    Option (Bracket × List Char) :=
  match bracket.union, text with
  | _, [] => none
  | .empty, ']' :: rest =>
    if (flags.skip rest).isEmpty then none
    else some (bracket.add (.single ']'), flags.skip rest)
  | _, text => some (bracket, text)

theorem opening?_eq (flags : Flags) (text : List Char) :
    opening? flags text =
      let (negated, rest) := caret flags text
      let (hyphens, rest) := span flags (· == '-') rest.length rest
      begun? flags
        (hyphens.foldl (fun bracket _ => bracket.add (.single '-')) ⟨negated, none, .empty, 1⟩)
        rest := by
  simp only [opening?, leadingHyphens_eq_span]
  rfl

theorem begun?_close (flags : Flags) {bracket : Bracket} (h : bracket.union = .empty)
    (rest : List Char) :
    begun? flags bracket (']' :: rest) =
      if (flags.skip rest).isEmpty then none
      else some (bracket.add (.single ']'), flags.skip rest) := by
  simp only [begun?, h]

theorem begun?_cons (flags : Flags) {bracket : Bracket} {c : Char}
    (h : ¬(bracket.union = .empty ∧ c = ']')) (rest : List Char) :
    begun? flags bracket (c :: rest) = some (bracket, c :: rest) := by
  unfold begun?
  split
  · next hnil => cases hnil
  · next hunion htext => exact absurd ⟨hunion, (List.cons.inj htext).1⟩ h
  · rfl

theorem readsFront_begun? (flags : Flags) (bracket : Bracket) :
    ReadsFront true (begun? flags bracket) where
  suffix := by
    intro text found rest h
    rcases text with _ | ⟨c, text⟩
    · simp [begun?] at h
    · by_cases hclose : bracket.union = .empty ∧ c = ']'
      · obtain ⟨hunion, rfl⟩ := hclose
        rw [begun?_close flags hunion] at h
        split at h
        · cases h
        · obtain ⟨-, rfl⟩ := Prod.mk.inj (Option.some.inj h)
          exact (flags.skip_suffix text).trans (List.suffix_cons _ text)
      · rw [begun?_cons flags hclose] at h
        obtain ⟨-, rfl⟩ := Prod.mk.inj (Option.some.inj h)
        exact List.suffix_refl _
  behind := by
    intro text tail found left h ending hending hpeeks
    have hne := hpeeks rfl
    rcases text with _ | ⟨c, text⟩
    · have hother : ¬(bracket.union = .empty ∧ ')' = ']') := by
        rintro ⟨-, h⟩
        cases h
      rw [List.nil_append, begun?_cons flags hother] at h
      obtain ⟨rfl, hleft⟩ := Prod.mk.inj (Option.some.inj h)
      obtain rfl : [] = left := List.append_cancel_right hleft
      rcases eq_nil_or_eq_cons_of_ended hending with rfl | ⟨more, rfl⟩
      · exact absurd rfl hne
      · exact begun?_cons flags hother more
    · rw [List.cons_append] at h ⊢
      by_cases hclose : bracket.union = .empty ∧ c = ']'
      · obtain ⟨hunion, rfl⟩ := hclose
        rw [begun?_close flags hunion] at h ⊢
        split at h
        · cases h
        · obtain ⟨rfl, hskip⟩ := Prod.mk.inj (Option.some.inj h)
          rw [flags.skip_behind hskip hending, if_neg (by simpa using hne)]
      · rw [begun?_cons flags hclose] at h ⊢
        obtain ⟨rfl, hleft⟩ := Prod.mk.inj (Option.some.inj h)
        rw [← List.cons_append] at hleft ⊢
        rw [List.append_cancel_right hleft]

theorem readsFront_opening? (flags : Flags) : ReadsFront true (opening? flags) := by
  apply ReadsFront.goingOn (readsFront_caret flags).loosen
  · intro text negated rest h
    rw [opening?_eq, h]
  · intro negated
    apply ReadsFront.goingOn (ReadsFront.span flags (· == '-')).loosen
    · intro text hyphens rest h
      simp only [h]
      rfl
    · exact fun hyphens => readsFront_begun? flags _

/-! ## Named classes -/

/-- A class named between colons, given what follows the first colon and its caret. -/
def colonNamed? (flags : Flags) (negated : Bool) (text : List Char) :
    Option (Option CharClass × List Char) :=
  match text.dropWhile (· != ':') with
  | ':' :: ']' :: remaining =>
    (CharClass.named? (String.ofList (text.takeWhile (· != ':')))).map fun chars =>
      (Atom.finishClass flags negated (Atom.foldClass flags chars), remaining)
  | _ => none

/-- Takes the caret that complements a named class. -/
def classCaret : List Char → Bool × List Char
  | '^' :: rest => (true, rest)
  | rest => (false, rest)

theorem named?_colon (flags : Flags) (rest : List Char) :
    named? flags (':' :: rest) =
      colonNamed? flags (classCaret rest).1 (classCaret rest).2 := rfl

theorem classCaret_append {ending : List Char} (hending : Ended ending) (text : List Char) :
    classCaret (text ++ ending) = ((classCaret text).1, (classCaret text).2 ++ ending) := by
  by_cases hcaret : ∃ rest, text = '^' :: rest
  · obtain ⟨rest, rfl⟩ := hcaret
    rfl
  · have hother : ∀ rest, text ≠ '^' :: rest := not_exists.mp hcaret
    have hahead := append_ne_cons (by decide) hother hending
    rw [classCaret, classCaret]
    · exact hother
    · exact hahead

theorem named?_of_ne (flags : Flags) {text : List Char} (h : ∀ rest, text ≠ ':' :: rest) :
    named? flags text = none := by
  unfold named?
  split
  · exact absurd rfl (h _)
  · rfl

theorem named?_eq_none_of_mem {name : List Char} (h : ')' ∈ name) :
    CharClass.named? (String.ofList name) = none := by
  have hne : ∀ known : String, ')' ∉ known.toList → String.ofList name ≠ known := by
    rintro known hknown rfl
    exact hknown (by simpa using h)
  unfold CharClass.named?
  split
  case h_15 => rfl
  all_goals
    next hname => exact absurd hname (hne _ (by decide))

/-- A name that runs over the end is not that of a class. -/
theorem colonNamed?_append {ending : List Char} (hending : Ended ending) (flags : Flags)
    (negated : Bool) (text : List Char) :
    colonNamed? flags negated (text ++ ending) =
      (colonNamed? flags negated text).map fun (chars, rest) => (chars, rest ++ ending) := by
  unfold colonNamed?
  by_cases hall : ∀ c ∈ text, (c != ':') = true
  · have hnone : text.dropWhile (· != ':') = [] := List.dropWhile_eq_nil_iff.mpr hall
    rw [List.dropWhile_append_of_pos hall, List.takeWhile_append_of_pos hall, hnone]
    rcases eq_nil_or_eq_cons_of_ended hending with rfl | ⟨tail, rfl⟩
    · rfl
    · split
      · rw [named?_eq_none_of_mem (by simp)]
        rfl
      · rfl
  have hne : text.dropWhile (· != ':') ≠ [] := fun h => hall (List.dropWhile_eq_nil_iff.mp h)
  have htake : ¬(text.takeWhile (· != ':')).length = text.length := fun hlength =>
    hall (List.takeWhile_eq_self_iff.mp ((List.takeWhile_prefix _).eq_of_length hlength))
  obtain ⟨c, rest, hrest⟩ := List.exists_cons_of_ne_nil hne
  rw [List.takeWhile_append, if_neg htake, List.dropWhile_append, hrest,
    if_neg (by simp)]
  by_cases hends : c = ':' ∧ ∃ remaining, rest = ']' :: remaining
  · obtain ⟨rfl, remaining, rfl⟩ := hends
    simp only [List.cons_append, Option.map_map]
    rfl
  · have hnear : ∀ remaining, c :: rest ≠ ':' :: ']' :: remaining := by
      intro remaining h
      obtain ⟨rfl, rfl⟩ := List.cons.inj h
      exact hends ⟨rfl, remaining, rfl⟩
    have hfar : ∀ remaining, c :: rest ++ ending ≠ ':' :: ']' :: remaining := by
      intro remaining h
      obtain ⟨rfl, htail⟩ := List.cons.inj h
      have hbracket : ∀ others, rest ≠ ']' :: others := by
        rintro others rfl
        exact hends ⟨rfl, others, rfl⟩
      exact append_ne_cons (by decide) hbracket hending remaining htail
    split
    · next remaining h => exact absurd h (hfar remaining)
    · rfl

theorem named?_suffix {flags : Flags} {text rest : List Char} {chars? : Option CharClass}
    (h : named? flags text = some (chars?, rest)) : rest <:+ text := by
  by_cases hcolon : ∃ others, text = ':' :: others
  · obtain ⟨others, rfl⟩ := hcolon
    have hcaret : (classCaret others).2 <:+ others := by
      unfold classCaret
      split
      · exact List.suffix_cons _ _
      · exact List.suffix_refl _
    rw [named?_colon, colonNamed?] at h
    split at h
    · next remaining hdrop =>
        obtain ⟨_, -, hsome⟩ := Option.map_eq_some_iff.mp h
        obtain ⟨-, rfl⟩ := Prod.mk.inj hsome
        have hremaining : ':' :: ']' :: remaining <:+ (classCaret others).2 :=
          hdrop ▸ List.dropWhile_suffix _
        have hinner : remaining <:+ ':' :: ']' :: remaining :=
          (List.suffix_cons ']' remaining).trans (List.suffix_cons ':' _)
        exact ((hinner.trans hremaining).trans hcaret).trans (List.suffix_cons ':' others)
    · cases h
  · rw [named?_of_ne flags (not_exists.mp hcolon)] at h
    cases h

/-- A class is named up to its second colon, so the end makes no difference. -/
theorem named?_append {ending : List Char} (hending : Ended ending) (flags : Flags)
    (text : List Char) :
    named? flags (text ++ ending) =
      (named? flags text).map fun (chars, rest) => (chars, rest ++ ending) := by
  by_cases hcolon : ∃ rest, text = ':' :: rest
  · obtain ⟨rest, rfl⟩ := hcolon
    rw [List.cons_append, named?_colon, named?_colon, classCaret_append hending]
    exact colonNamed?_append hending flags _ _
  · have hother : ∀ others, text ≠ ':' :: others := not_exists.mp hcolon
    have hahead := append_ne_cons (by decide) hother hending
    rw [named?_of_ne flags hother, named?_of_ne flags hahead]
    rfl

end Bracket

/-! ## Bracketed classes -/

/-- What a step of the reader does to the brackets that are open. -/
inductive BracketMove where
  | closes
  | adds (chars : CharClass)
  | opens (bracket : Bracket)
  | operates (operation : SetOperation)

/-- Opens a bracket or adds a named class, given what follows the opening bracket. -/
def inner? (flags : Flags) (text : List Char) : Option (BracketMove × List Char) :=
  match Bracket.named? flags text with
  | some (chars?, rest) => chars?.map fun chars => (.adds chars, rest)
  | none => (Bracket.opening? flags text).map fun (bracket, rest) => (.opens bracket, rest)

/-- The next move, given what the current bracket goes on with. -/
def bracketMove? (flags : Flags) : List Char → Option (BracketMove × List Char)
  | [] => none
  | ']' :: rest => some (.closes, rest)
  | '[' :: rest => inner? flags rest
  | '&' :: '&' :: rest => some (.operates .inter, rest)
  | '-' :: '-' :: rest => some (.operates .diff, rest)
  | '~' :: '~' :: rest => some (.operates .symmetricDiff, rest)
  | rest => (Bracket.range? flags rest).map fun (chars, rest) => (.adds chars, rest)

/-- Whether a union of a bracket goes on with some text. -/
def GoesOn (text : List Char) : Prop :=
  (∀ rest, text ≠ ']' :: rest) ∧ (∀ rest, text ≠ '[' :: rest) ∧
    (∀ rest, text ≠ '&' :: '&' :: rest) ∧ (∀ rest, text ≠ '-' :: '-' :: rest) ∧
    ∀ rest, text ≠ '~' :: '~' :: rest

theorem bracketMove?_of_goesOn (flags : Flags) {c : Char} {rest : List Char}
    (h : GoesOn (c :: rest)) :
    bracketMove? flags (c :: rest) =
      (Bracket.range? flags (c :: rest)).map fun (chars, rest) => (.adds chars, rest) := by
  obtain ⟨hclose, hopen, hand, hminus, htilde⟩ := h
  rw [bracketMove?]
  · simp
  · exact hclose
  · exact hopen
  · exact hand
  · exact hminus
  · exact htilde

/-- A move ends the class with its characters and depth, or leaves brackets open. -/
def BracketMove.perform? (flags : Flags) (outer : List Bracket) (current : Bracket) :
    BracketMove → Option ((CharClass × Nat) ⊕ (List Bracket × Bracket))
  | closes =>
    (current.close? flags).map fun chars =>
      match outer with
      | [] => .inl (chars, current.depth)
      | parent :: outer =>
        .inr (outer, { parent.add chars with depth := max parent.depth (current.depth + 1) })
  | adds chars => some (.inr (outer, current.add chars))
  | opens bracket => some (.inr (current :: outer, bracket))
  | operates operation => some (.inr (outer, current.operate flags operation))

theorem readBracket_eq (flags : Flags) (outer : List Bracket) (current : Bracket)
    (text : List Char) :
    readBracket flags outer current text =
      (bracketMove? flags (flags.skip text)).bind fun (move, rest) =>
        (move.perform? flags outer current).bind fun
          | .inl (chars, depth) => some (chars, depth, rest)
          | .inr (outer, current) =>
            if rest.length < text.length then readBracket flags outer current rest else none := by
  rw [readBracket]
  simp only [dite_eq_ite]
  split
  · next hskip => simp only [bracketMove?, hskip, Option.bind_none]
  · next rest hskip =>
      simp only [bracketMove?, hskip, Option.bind_some, BracketMove.perform?, Option.bind_map]
      congr 1
      funext chars
      cases outer with
      | nil => rfl
      | cons parent outer => rfl
  · next rest hskip =>
      simp only [bracketMove?, inner?, hskip]
      cases Bracket.named? flags rest with
      | none =>
          simp only [Option.bind_map]
          rfl
      | some found =>
          obtain ⟨chars?, rest⟩ := found
          simp only [Option.bind_map]
          rfl
  · next rest hskip => simp only [bracketMove?, hskip, Option.bind_some, BracketMove.perform?]
  · next rest hskip => simp only [bracketMove?, hskip, Option.bind_some, BracketMove.perform?]
  · next rest hskip => simp only [bracketMove?, hskip, Option.bind_some, BracketMove.perform?]
  · next hnil hclose hopen hand hminus htilde =>
      obtain ⟨c, rest, hskip⟩ := List.exists_cons_of_ne_nil hnil
      rw [hskip] at hclose hopen hand hminus htilde ⊢
      rw [bracketMove?_of_goesOn flags ⟨hclose, hopen, hand, hminus, htilde⟩, Option.bind_map]
      rfl

theorem readsFront_inner? (flags : Flags) : ReadsFront true (inner? flags) where
  suffix := by
    intro text move rest h
    unfold inner? at h
    split at h
    · next chars? left hnamed =>
        obtain ⟨_, -, hsome⟩ := Option.map_eq_some_iff.mp h
        obtain ⟨-, rfl⟩ := Prod.mk.inj hsome
        exact Bracket.named?_suffix hnamed
    · obtain ⟨⟨bracket, left⟩, hopening, hsome⟩ := Option.map_eq_some_iff.mp h
      obtain ⟨-, rfl⟩ := Prod.mk.inj hsome
      exact (Bracket.readsFront_opening? flags).suffix hopening
  behind := by
    intro text tail move left h ending hending hpeeks
    unfold inner? at h ⊢
    rw [Bracket.named?_append (ended_cons tail)] at h
    rw [Bracket.named?_append hending]
    cases hnamed : Bracket.named? flags text with
    | none =>
        rw [hnamed] at h
        obtain ⟨⟨bracket, rest⟩, hopening, hsome⟩ := Option.map_eq_some_iff.mp h
        obtain ⟨rfl, rfl⟩ := Prod.mk.inj hsome
        have hbehind := (Bracket.readsFront_opening? flags).behind hopening hending hpeeks
        simp only [Option.map_none, hbehind, Option.map_some]
    | some found =>
        obtain ⟨chars?, rest⟩ := found
        rw [hnamed] at h
        obtain ⟨chars, rfl, hsome⟩ := Option.map_eq_some_iff.mp h
        obtain ⟨rfl, hleft⟩ := Prod.mk.inj hsome
        obtain rfl : rest = left := List.append_cancel_right hleft
        rfl

/-- A union goes on with some text, or the text begins with a mark that ends it, begins
another bracket or combines it. -/
theorem goesOn_or (text : List Char) :
    GoesOn text ∨ (∃ rest, text = ']' :: rest) ∨ (∃ rest, text = '[' :: rest) ∨
      (∃ rest, text = '&' :: '&' :: rest) ∨ (∃ rest, text = '-' :: '-' :: rest) ∨
      ∃ rest, text = '~' :: '~' :: rest := by
  simp only [GoesOn, ← not_exists]
  tauto

theorem goesOn_append {c : Char} {text ending : List Char} (h : GoesOn (c :: text))
    (hending : Ended ending) : GoesOn (c :: (text ++ ending)) := by
  have htwice : ∀ mark, mark ≠ ')' → (∀ rest, c :: text ≠ mark :: mark :: rest) →
      ∀ rest, c :: (text ++ ending) ≠ mark :: mark :: rest := by
    intro mark hmark hne rest hrest
    obtain ⟨rfl, hmore⟩ := List.cons.inj hrest
    have htext : ∀ others, text ≠ c :: others := fun others hothers => hne others (by rw [hothers])
    exact append_ne_cons hmark htext hending rest hmore
  obtain ⟨hclose, hopen, hand, hminus, htilde⟩ := h
  refine ⟨?_, ?_, htwice _ (by decide) hand, htwice _ (by decide) hminus,
    htwice _ (by decide) htilde⟩
  · intro rest hrest
    exact hclose text (by rw [(List.cons.inj hrest).1])
  · intro rest hrest
    exact hopen text (by rw [(List.cons.inj hrest).1])

theorem bracketMove?_suffix {flags : Flags} {text rest : List Char} {move : BracketMove}
    (h : bracketMove? flags text = some (move, rest)) : rest <:+ text := by
  rcases goesOn_or text with hgoes | ⟨others, rfl⟩ | ⟨others, rfl⟩ | ⟨others, rfl⟩ |
    ⟨others, rfl⟩ | ⟨others, rfl⟩
  · rcases text with _ | ⟨c, others⟩
    · cases h
    · rw [bracketMove?_of_goesOn flags hgoes] at h
      obtain ⟨⟨chars, left⟩, hrange, hsome⟩ := Option.map_eq_some_iff.mp h
      obtain ⟨-, rfl⟩ := Prod.mk.inj hsome
      exact (Bracket.range?_suffix hrange).trans (List.suffix_cons c others)
  · obtain ⟨-, rfl⟩ := Prod.mk.inj (Option.some.inj h)
    exact List.suffix_cons _ _
  · exact ((readsFront_inner? flags).suffix h).trans (List.suffix_cons _ _)
  all_goals
    obtain ⟨-, rfl⟩ := Prod.mk.inj (Option.some.inj h)
    exact (List.suffix_cons _ _).trans (List.suffix_cons _ _)

/-- The move in front of a parenthesis is the same in front of any end, unless a hyphen
after it is followed by a comment that runs over the parenthesis. -/
theorem bracketMove?_behind {flags : Flags} {text tail left : List Char} {move : BracketMove}
    (h : bracketMove? flags (text ++ ')' :: tail) = some (move, left ++ ')' :: tail)) :
    (∀ ending, Ended ending → left ++ ending ≠ [] →
        bracketMove? flags (text ++ ending) = some (move, left ++ ending)) ∨
      ∃ others, left = '-' :: others ∧ Bracket.RunsOver flags others tail := by
  rcases goesOn_or text with hgoes | ⟨others, rfl⟩ | ⟨others, rfl⟩ | ⟨others, rfl⟩ |
    ⟨others, rfl⟩ | ⟨others, rfl⟩
  · rcases text with _ | ⟨c, others⟩
    · have hclose : GoesOn (')' :: tail) := by simp [GoesOn]
      rw [List.nil_append, bracketMove?_of_goesOn flags hclose] at h
      obtain ⟨⟨chars, rest⟩, hrange, hsome⟩ := Option.map_eq_some_iff.mp h
      obtain ⟨-, rfl⟩ := Prod.mk.inj hsome
      exact absurd (Bracket.range?_suffix hrange) not_append_cons_suffix
    · rw [List.cons_append, bracketMove?_of_goesOn flags
        (goesOn_append hgoes (ended_cons tail))] at h
      obtain ⟨⟨chars, rest⟩, hrange, hsome⟩ := Option.map_eq_some_iff.mp h
      obtain ⟨rfl, rfl⟩ := Prod.mk.inj hsome
      refine (Bracket.range?_behind hrange).imp_left fun hbehind ending hending hne => ?_
      rw [List.cons_append, bracketMove?_of_goesOn flags (goesOn_append hgoes hending),
        hbehind ending hending hne]
      rfl
  · obtain ⟨rfl, hleft⟩ := Prod.mk.inj (Option.some.inj h)
    obtain rfl : others = left := List.append_cancel_right hleft
    exact .inl fun ending _ _ => rfl
  · exact .inl fun ending hending hne =>
      (readsFront_inner? flags).behind h hending fun _ => hne
  all_goals
    obtain ⟨rfl, hleft⟩ := Prod.mk.inj (Option.some.inj h)
    obtain rfl : others = left := List.append_cancel_right hleft
    exact .inl fun ending _ _ => rfl

theorem eq_of_bracketMove?_closes {flags : Flags} {text rest : List Char}
    (h : bracketMove? flags text = some (.closes, rest)) : text = ']' :: rest := by
  unfold bracketMove? at h
  split at h
  · cases h
  · obtain ⟨-, rfl⟩ := Prod.mk.inj (Option.some.inj h)
    rfl
  · unfold inner? at h
    split at h
    · obtain ⟨_, -, hsome⟩ := Option.map_eq_some_iff.mp h
      cases hsome
    · obtain ⟨_, -, hsome⟩ := Option.map_eq_some_iff.mp h
      cases hsome
  · cases h
  · cases h
  · cases h
  · obtain ⟨_, -, hsome⟩ := Option.map_eq_some_iff.mp h
    cases hsome

theorem BracketMove.eq_closes_of_perform? {flags : Flags} {outer : List Bracket}
    {current : Bracket} {move : BracketMove} {found : CharClass × Nat}
    (h : move.perform? flags outer current = some (.inl found)) : move = .closes := by
  cases move with
  | closes => rfl
  | adds chars => cases h
  | opens bracket => cases h
  | operates operation => cases h

section ReadBracket

variable {flags : Flags} {outer outer' : List Bracket} {current current' : Bracket}
  {text left rest : List Char} {chars : CharClass} {depth : Nat} {move : BracketMove}

theorem readBracket_of_closes (hskip : flags.skip text = ']' :: rest)
    (hclose : BracketMove.closes.perform? flags outer current = some (.inl (chars, depth))) :
    readBracket flags outer current text = some (chars, depth, rest) := by
  rw [readBracket_eq, hskip]
  simp only [bracketMove?, Option.bind_some, hclose]

theorem readBracket_of_move (hmove : bracketMove? flags (flags.skip text) = some (move, left))
    (hperform : move.perform? flags outer current = some (.inr (outer', current')))
    (hless : left.length < text.length) :
    readBracket flags outer current text = readBracket flags outer' current' left := by
  rw [readBracket_eq]
  simp only [hmove, Option.bind_some, hperform, if_pos hless]

/-- The reading of a class ends with a closing bracket, or goes on with less. -/
theorem readBracket_cases
    (h : readBracket flags outer current text = some (chars, depth, rest)) :
    (flags.skip text = ']' :: rest ∧
      BracketMove.closes.perform? flags outer current = some (.inl (chars, depth))) ∨
    ∃ move left outer' current', bracketMove? flags (flags.skip text) = some (move, left) ∧
      move.perform? flags outer current = some (.inr (outer', current')) ∧
      left.length < text.length ∧
      readBracket flags outer' current' left = some (chars, depth, rest) := by
  rw [readBracket_eq] at h
  obtain ⟨⟨move, left⟩, hmove, h⟩ := Option.bind_eq_some_iff.mp h
  obtain ⟨result, hperform, h⟩ := Option.bind_eq_some_iff.mp h
  rcases result with ⟨chars', depth'⟩ | ⟨outer', current'⟩
  · obtain ⟨rfl, hrest⟩ := Prod.mk.inj (Option.some.inj h)
    obtain ⟨rfl, rfl⟩ := Prod.mk.inj hrest
    obtain rfl := BracketMove.eq_closes_of_perform? hperform
    exact .inl ⟨eq_of_bracketMove?_closes hmove, hperform⟩
  · simp only at h
    split at h
    · next hless => exact .inr ⟨move, left, outer', current', hmove, hperform, hless, h⟩
    · cases h

theorem readBracket_suffix
    (h : readBracket flags outer current text = some (chars, depth, rest)) :
    ']' :: rest <:+ text := by
  induction hlength : text.length using Nat.strongRecOn generalizing outer current text with
  | ind length ih =>
      have hskip := flags.skip_suffix text
      rcases readBracket_cases h with ⟨hclose, -⟩ |
        ⟨move, left, outer', current', hmove, -, hless, hmore⟩
      · rw [hclose] at hskip
        exact hskip
      · have hleft := (bracketMove?_suffix hmove).trans hskip
        exact (ih _ (hlength ▸ hless) hmore rfl).trans hleft

/-- Behind a hyphen and a comment that runs over the parenthesis, a class ends beyond it. -/
theorem readBracket_suffix_of_runsOver {tail : List Char}
    (hover : Bracket.RunsOver flags text tail)
    (h : readBracket flags outer current ('-' :: (text ++ ')' :: tail)) =
      some (chars, depth, rest)) : rest <:+ tail := by
  have hskip : flags.skip ('-' :: (text ++ ')' :: tail)) = '-' :: (text ++ ')' :: tail) :=
    flags.skip_cons (by decide +kernel) (by decide) _
  rcases readBracket_cases h with ⟨hclose, -⟩ | ⟨move, left, outer', current', hmove, -, -, hmore⟩
  · rw [hskip] at hclose
    cases hclose
  rw [hskip] at hmove
  have hleft : left <:+ tail := by
    rcases goesOn_or ('-' :: (text ++ ')' :: tail)) with hgoes | ⟨_, hnone⟩ | ⟨_, hnone⟩ |
      ⟨_, hnone⟩ | ⟨others, hminus⟩ | ⟨_, hnone⟩
    · rw [bracketMove?_of_goesOn flags hgoes] at hmove
      obtain ⟨⟨chars, rest⟩, hrange, hsome⟩ := Option.map_eq_some_iff.mp hmove
      obtain ⟨-, rfl⟩ := Prod.mk.inj hsome
      rw [Bracket.range?_eq, Bracket.member?_cons flags (by decide), Option.bind_some] at hrange
      exact (Bracket.rangeFrom?_suffix hrange).trans hover
    · cases hnone
    · cases hnone
    · cases hnone
    · have hsecond : text ++ ')' :: tail = '-' :: others := (List.cons.inj hminus).2
      have hnear : flags.skip ('-' :: others) = '-' :: others :=
        flags.skip_cons (by decide +kernel) (by decide) others
      rw [Bracket.RunsOver, hsecond, hnear, ← hsecond] at hover
      exact absurd hover not_append_cons_suffix
    · cases hnone
  exact ((List.suffix_cons ']' rest).trans (readBracket_suffix hmore)).trans hleft

/-- A class that ends in front of the parenthesis is the same in front of any end. -/
theorem readBracket_behind {tail : List Char}
    (h : readBracket flags outer current (text ++ ')' :: tail) =
      some (chars, depth, left ++ ')' :: tail)) {ending : List Char}
    (hending : Ended ending) :
    readBracket flags outer current (text ++ ending) = some (chars, depth, left ++ ending) := by
  induction hlength : text.length using Nat.strongRecOn generalizing outer current text with
  | ind length ih =>
      rcases readBracket_cases h with ⟨hclose, hperform⟩ |
        ⟨move, rest, outer', current', hmove, hperform, hless, hmore⟩
      · rw [← List.cons_append] at hclose
        exact readBracket_of_closes (flags.skip_behind hclose hending) hperform
      · have hrest := readBracket_suffix hmore
        rw [← List.cons_append] at hrest
        obtain ⟨near, rfl, hnear⟩ := exists_eq_append_of_suffix hrest
        obtain ⟨front, hfront, -⟩ := exists_eq_append_of_suffix (bracketMove?_suffix hmove)
        rw [hfront] at hmove
        rcases bracketMove?_behind hmove with hbehind | ⟨others, rfl, hover⟩
        · have hne : near ++ ending ≠ [] := by
            rintro hnil
            obtain ⟨rfl, -⟩ := List.append_eq_nil_iff.mp hnil
            simp at hnear
          rw [List.length_append, List.length_append] at hless
          have hfewer : near.length < text.length := by omega
          have hshorter : (near ++ ending).length < (text ++ ending).length := by
            rw [List.length_append, List.length_append]
            omega
          have hsame : bracketMove? flags (flags.skip (text ++ ending)) =
              some (move, near ++ ending) := by
            rw [flags.skip_behind hfront hending]
            exact hbehind ending hending hne
          rw [readBracket_of_move hsame hperform hshorter]
          exact ih _ (hlength ▸ hfewer) hmore rfl
        · exact absurd (readBracket_suffix_of_runsOver hover hmore) not_append_cons_suffix

end ReadBracket

end Pattern

end PathSchema
