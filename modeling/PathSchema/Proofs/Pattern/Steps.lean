import PathSchema.Proofs.Pattern.Brackets
import PathSchema.Proofs.Pattern.Groups
import PathSchema.Proofs.Pattern.Matching

/-!
# Steps of the reader

A step of the reader takes an action from the text, which depends on the flags alone, and
then performs it on the levels, which does not look at the text.  In front of a closing
parenthesis that it leaves, it takes the same action as in front of any end.
-/

namespace PathSchema

namespace Pattern

/-- What a step does to the levels. -/
inductive Action where
  | opens (opening : Opening)
  | closes
  | bars
  | adds (regex : Regex) (depth : Nat)
  | repeats (min : Nat) (max : Option Nat)

/-- The item that a character stands for outside brackets. -/
def plainAtom : Char → Atom
  | '.' => .dot
  | '^' => .lineStart
  | '$' => .lineEnd
  | c => .literal c false

/-- An item is added that stands alone. -/
def atomAction? (flags : Flags) (atom : Atom) : Option Action :=
  (atom.regex? flags).map fun regex => .adds regex 0

/-- The action of the item that begins with `c`, and what is left to read. -/
def action? (flags : Flags) (c : Char) (rest : List Char) : Option (Action × List Char) :=
  match c with
  | '(' => (opening? flags rest).map fun (opening, rest) => (.opens opening, rest)
  | ')' => some (.closes, rest)
  | '|' => some (.bars, rest)
  | '[' =>
    (Bracket.opening? flags rest).bind fun (bracket, rest) =>
      (readBracket flags [] bracket rest).map fun (chars, depth, rest) =>
        (.adds (.char chars) depth, rest)
  | '?' => some (.repeats 0 (some 1), dropLazyMark rest)
  | '*' => some (.repeats 0 none, dropLazyMark rest)
  | '+' => some (.repeats 1 none, dropLazyMark rest)
  | '{' => (rounds? flags rest).map fun (min, max, rest) => (.repeats min max, rest)
  | '\\' =>
    (escape? flags rest).bind fun (atom, rest) =>
      (atomAction? flags atom).map fun action => (action, rest)
  | c => (atomAction? flags (plainAtom c)).map fun action => (action, rest)

theorem action?_of_ne (flags : Flags) {c : Char} (hc : c ∉ "()|[?*+\x7b\\".toList)
    (rest : List Char) :
    action? flags c rest =
      (atomAction? flags (plainAtom c)).map fun action => (action, rest) := by
  unfold action?
  split
  all_goals first
    | rfl
    | exact absurd (by decide) hc

theorem eq_of_action?_closes {flags : Flags} {c : Char} {text rest : List Char}
    (h : action? flags c text = some (.closes, rest)) : c = ')' ∧ rest = text := by
  unfold action? at h
  split at h
  case h_2 =>
    obtain ⟨-, rfl⟩ := Prod.mk.inj (Option.some.inj h)
    exact ⟨rfl, rfl⟩
  all_goals simp [atomAction?, Option.bind_eq_some_iff] at h

theorem readsFront_action? (flags : Flags) {c : Char} (hbracket : c ≠ '[')
    (hescape : c ≠ '\\') : ReadsFront false (action? flags c) := by
  by_cases hplain : c ∉ "()|[?*+\x7b\\".toList
  · rw [funext (action?_of_ne flags hplain)]
    exact .optionMap _ fun action => .pure action
  have hlazy : ∀ action : Action, ReadsFront false fun rest => some (action, dropLazyMark rest) :=
    fun action => .after .lazyMark (fun _ _ h => by rw [h]) (.pure action)
  have hmark : c = '(' ∨ c = ')' ∨ c = '|' ∨ c = '?' ∨ c = '*' ∨ c = '+' ∨ c = '\x7b' := by
    have hmem := not_not.mp hplain
    simpa [hbracket, hescape] using hmem
  rcases hmark with rfl | rfl | rfl | rfl | rfl | rfl | rfl
  · exact (readsFront_opening? flags).map fun opening => .pure _
  · exact .pure _
  · exact .pure _
  · exact hlazy _
  · exact hlazy _
  · exact hlazy _
  · have hsame : action? flags '\x7b' = fun rest =>
        ((rounds? flags rest).map fun (min, max, rest) => ((min, max), rest)).map
          fun (bounds, rest) => (.repeats bounds.1 bounds.2, rest) := by
      funext rest
      rw [Option.map_map]
      rfl
    rw [hsame]
    exact (readsFront_rounds? flags).map fun bounds => .pure _

theorem action?_suffix {flags : Flags} {c : Char} {text rest : List Char} {action : Action}
    (h : action? flags c text = some (action, rest)) : rest <:+ text := by
  by_cases hbracket : c = '['
  · subst hbracket
    obtain ⟨⟨bracket, inside⟩, hopening, hread⟩ := Option.bind_eq_some_iff.mp h
    obtain ⟨⟨chars, depth, left⟩, hleft, heq⟩ := Option.map_eq_some_iff.mp hread
    obtain ⟨-, rfl⟩ := Prod.mk.inj heq
    exact ((List.suffix_cons ']' left).trans (readBracket_suffix hleft)).trans
      ((Bracket.readsFront_opening? flags).suffix hopening)
  by_cases hescape : c = '\\'
  · subst hescape
    obtain ⟨⟨atom, left⟩, hleft, hmap⟩ := Option.bind_eq_some_iff.mp h
    obtain ⟨_, -, heq⟩ := Option.map_eq_some_iff.mp hmap
    obtain ⟨-, rfl⟩ := Prod.mk.inj heq
    exact escape?_suffix hleft
  · exact (readsFront_action? flags hbracket hescape).suffix h

theorem action?_bracket_behind {flags : Flags} {text tail left : List Char} {action : Action}
    (h : action? flags '[' (text ++ ')' :: tail) = some (action, left ++ ')' :: tail))
    {ending : List Char} (hending : Ended ending) :
    action? flags '[' (text ++ ending) = some (action, left ++ ending) := by
  obtain ⟨⟨bracket, inside⟩, hopening, hread⟩ := Option.bind_eq_some_iff.mp h
  obtain ⟨⟨chars, depth, rest⟩, hrest, heq⟩ := Option.map_eq_some_iff.mp hread
  obtain ⟨rfl, rfl⟩ := Prod.mk.inj heq
  have hinside := readBracket_suffix hrest
  rw [← List.cons_append] at hinside
  obtain ⟨near, rfl, hnear⟩ := exists_eq_append_of_suffix hinside
  have hne : near ++ ending ≠ [] := by
    intro hnil
    obtain ⟨rfl, -⟩ := List.append_eq_nil_iff.mp hnil
    simp at hnear
  have hsame := (Bracket.readsFront_opening? flags).behind hopening hending fun _ => hne
  simp only [action?, hsame, Option.bind_some, readBracket_behind hrest hending, Option.map_some]

/-- In front of a parenthesis that is left the same action is taken as in front of any end,
unless an empty repetition is left too. -/
theorem action?_behind {flags : Flags} {c : Char} {text tail left : List Char}
    {action : Action}
    (h : action? flags c (text ++ ')' :: tail) = some (action, left ++ ')' :: tail)) :
    (∀ ending, Ended ending →
        action? flags c (text ++ ending) = some (action, left ++ ending)) ∨
      (∃ regex, action = .adds regex 0) ∧ ∃ blanks,
        left = '\x7b' :: blanks ∧ flags.skip blanks = [] := by
  by_cases hbracket : c = '['
  · subst hbracket
    exact .inl fun ending hending => action?_bracket_behind h hending
  by_cases hescape : c = '\\'
  · subst hescape
    obtain ⟨⟨atom, rest⟩, hrest, hmap⟩ := Option.bind_eq_some_iff.mp h
    obtain ⟨added, hadded, heq⟩ := Option.map_eq_some_iff.mp hmap
    obtain ⟨rfl, rfl⟩ := Prod.mk.inj heq
    rcases escape?_behind hrest with hbehind | ⟨rfl, hblanks⟩
    · refine .inl fun ending hending => ?_
      simp only [action?, hbehind ending hending, Option.bind_some, hadded, Option.map_some]
    · obtain ⟨regex, -, rfl⟩ := Option.map_eq_some_iff.mp hadded
      exact .inr ⟨⟨regex, rfl⟩, hblanks⟩
  · exact .inl fun ending hending =>
      (readsFront_action? flags hbracket hescape).behind h hending (by simp)

namespace Machine

def perform? (machine : Machine) : Action → Option Machine
  | .opens opening => machine.open? opening
  | .closes => machine.close?
  | .bars => some (machine.update machine.level.bar)
  | .adds regex depth => some (machine.update (machine.level.push regex depth))
  | .repeats min max => (machine.level.repeat? min max).map machine.update

theorem map_atom? (machine : Machine) (atom : Atom) (rest : List Char) :
    ((atomAction? machine.level.flags atom).map fun action => (action, rest)).bind
        (fun (action, rest) => (machine.perform? action).map fun machine => (machine, rest)) =
      (machine.atom? atom).map fun machine => (machine, rest) := by
  unfold atomAction? atom?
  cases atom.regex? machine.level.flags with
  | none => rfl
  | some regex => rfl

theorem step?_eq (machine : Machine) (c : Char) (rest : List Char) :
    machine.step? c rest =
      (action? machine.level.flags c rest).bind fun (action, rest) =>
        (machine.perform? action).map fun machine => (machine, rest) := by
  unfold step?
  split
  · simp only [action?, Option.bind_map]
    rfl
  · rfl
  · rfl
  · simp only [action?, Option.bind_assoc]
    congr 1
    funext (bracket, rest)
    simp only
    cases readBracket machine.level.flags [] bracket rest with
    | none => rfl
    | some found => rfl
  · simp only [action?, Option.bind_some, perform?, Option.map_map]
    rfl
  · simp only [action?, Option.bind_some, perform?, Option.map_map]
    rfl
  · simp only [action?, Option.bind_some, perform?, Option.map_map]
    rfl
  · simp only [action?, Option.bind_map]
    congr 1
    funext (min, max, rest)
    simp only [Function.comp, perform?, Option.map_map]
    rfl
  · simp only [action?, Option.bind_assoc]
    congr 1
    funext (atom, rest)
    exact (machine.map_atom? atom rest).symm
  · exact (machine.map_atom? .dot rest).symm
  · exact (machine.map_atom? .lineStart rest).symm
  · exact (machine.map_atom? .lineEnd rest).symm
  · rw [action?, plainAtom, map_atom?]
    all_goals assumption

/-- Flags are set on the current level, or a level is begun above it. -/
theorem open?_cases {machine next : Machine} {opening : Opening}
    (h : machine.open? opening = some next) :
    ∃ flags, next.level = machine.level.set flags ∧ next.outer = machine.outer ∨
      next.level = .initial flags ∧ next.outer = machine.level :: machine.outer := by
  rcases opening with ⟨flags, _ | name⟩ | ⟨flags⟩
  · obtain rfl := Option.some.inj h
    exact ⟨flags, .inr ⟨rfl, rfl⟩⟩
  · simp only [open?] at h
    split at h
    · cases h
    · obtain rfl := Option.some.inj h
      exact ⟨flags, .inr ⟨rfl, rfl⟩⟩
  · obtain rfl := Option.some.inj h
    exact ⟨flags, .inl ⟨rfl, rfl⟩⟩

theorem step?_eq_some_iff {machine next : Machine} {c : Char} {rest remaining : List Char} :
    machine.step? c rest = some (next, remaining) ↔
      ∃ action, action? machine.level.flags c rest = some (action, remaining) ∧
        machine.perform? action = some next := by
  rw [step?_eq, Option.bind_eq_some_iff]
  constructor
  · rintro ⟨⟨action, left⟩, haction, hperform⟩
    obtain ⟨reached, hreached, heq⟩ := Option.map_eq_some_iff.mp hperform
    obtain ⟨rfl, rfl⟩ := Prod.mk.inj heq
    exact ⟨action, haction, hreached⟩
  · rintro ⟨action, haction, hperform⟩
    exact ⟨(action, remaining), haction, Option.map_eq_some_iff.mpr ⟨next, hperform, rfl⟩⟩

/-- A text is read to its end, step by step. -/
inductive Reads : Machine → List Char → Machine → Prop where
  | done {machine : Machine} {text : List Char}
      (hskip : machine.level.flags.skip text = []) : Reads machine text machine
  | step {machine next final : Machine} {text rest remaining : List Char} {c : Char}
      (hskip : machine.level.flags.skip text = c :: rest)
      (hstep : machine.step? c rest = some (next, remaining))
      (hmore : Reads next remaining final) : Reads machine text final

variable {machine next final : Machine} {text rest remaining : List Char} {c : Char}

theorem length_lt_of_step? (hskip : machine.level.flags.skip text = c :: rest)
    (hstep : machine.step? c rest = some (next, remaining)) :
    remaining.length < text.length := by
  obtain ⟨action, haction, -⟩ := step?_eq_some_iff.mp hstep
  have hrest := (action?_suffix haction).length_le
  have htext := (machine.level.flags.skip_suffix text).length_le
  rw [hskip, List.length_cons] at htext
  omega

theorem run?_eq_some_iff : machine.run? text = some final ↔ Reads machine text final := by
  constructor
  · intro h
    fun_induction run? machine text with
    | case1 machine text hskip =>
        obtain rfl := Option.some.inj h
        exact .done hskip
    | case2 machine text c rest hskip hstep => cases h
    | case3 machine text c rest hskip next remaining hstep hless ih =>
        exact .step hskip hstep (ih h)
    | case4 machine text c rest hskip next remaining hstep hless => cases h
  · intro h
    induction h with
    | done hskip => rw [run?, hskip]
    | step hskip hstep _ ih =>
        have hless := length_lt_of_step? hskip hstep
        rw [run?, hskip]
        simp only [hstep, dif_pos hless, ih]

theorem reads_cons_iff (hskip : machine.level.flags.skip text = c :: rest) :
    Reads machine text final ↔ ∃ next remaining,
      machine.step? c rest = some (next, remaining) ∧ Reads next remaining final := by
  constructor
  · intro h
    cases h with
    | done hskip' =>
        rw [hskip] at hskip'
        cases hskip'
    | step hskip' hstep hmore =>
        obtain ⟨rfl, rfl⟩ := List.cons.inj (hskip.symm.trans hskip')
        exact ⟨_, _, hstep, hmore⟩
  · rintro ⟨next, remaining, hstep, hmore⟩
    exact .step hskip hstep hmore

theorem reads_skip_nil_iff (hskip : machine.level.flags.skip text = []) :
    Reads machine text final ↔ final = machine := by
  constructor
  · intro h
    cases h with
    | done _ => rfl
    | step hskip' _ _ =>
        rw [hskip] at hskip'
        cases hskip'
  · rintro rfl
    exact .done hskip

theorem reads_congr {other : List Char}
    (h : machine.level.flags.skip text = machine.level.flags.skip other) :
    Reads machine text final ↔ Reads machine other final := by
  cases hskip : machine.level.flags.skip other with
  | nil => rw [reads_skip_nil_iff (h.trans hskip), reads_skip_nil_iff hskip]
  | cons c rest => rw [reads_cons_iff (h.trans hskip), reads_cons_iff hskip]

theorem reads_step_iff (hskip : machine.level.flags.skip text = c :: rest)
    (hstep : machine.step? c rest = some (next, remaining)) :
    Reads machine text final ↔ Reads next remaining final := by
  rw [reads_cons_iff hskip]
  constructor
  · rintro ⟨_, _, hstep', hmore⟩
    obtain ⟨rfl, rfl⟩ := Prod.mk.inj (Option.some.inj (hstep.symm.trans hstep'))
    exact hmore
  · intro hmore
    exact ⟨next, remaining, hstep, hmore⟩

end Machine

/-! ## Bounds of repetitions -/

theorem ordered_of_regex? {flags : Flags} {atom : Atom} {regex : Regex}
    (h : atom.regex? flags = some regex) : regex.Ordered := by
  have hchar : ∀ chars? : Option CharClass, chars?.map Regex.char = some regex →
      regex.Ordered := by
    intro chars? hmap
    obtain ⟨chars, -, rfl⟩ := Option.map_eq_some_iff.mp hmap
    trivial
  cases atom with
  | literal c isByte =>
      obtain ⟨scalar, -, rfl⟩ := Option.map_eq_some_iff.mp h
      trivial
  | dot => exact hchar _ h
  | shorthand kind negated => exact hchar _ h
  | property p negated => exact hchar _ h
  | lineStart =>
      obtain rfl := Option.some.inj h
      trivial
  | lineEnd =>
      obtain rfl := Option.some.inj h
      trivial
  | wordCondition make =>
      obtain rfl := Option.some.inj h
      trivial
  | condition holding =>
      obtain rfl := Option.some.inj h
      trivial

theorem le_of_rounds? {flags : Flags} {text rest : List Char} {min : Nat} {max : Option Nat}
    (h : rounds? flags text = some (min, max, rest)) : ∀ most ∈ max, min ≤ most := by
  obtain ⟨⟨least, between⟩, -, hbounds⟩ := Option.bind_eq_some_iff.mp h
  simp only at hbounds
  split at hbounds
  · obtain ⟨rfl, hmax⟩ := Prod.mk.inj (Option.some.inj hbounds)
    obtain ⟨rfl, -⟩ := Prod.mk.inj hmax
    simp
  · split at hbounds
    · obtain ⟨rfl, hmax⟩ := Prod.mk.inj (Option.some.inj hbounds)
      obtain ⟨rfl, -⟩ := Prod.mk.inj hmax
      simp
    · obtain ⟨⟨greatest, after⟩, -, hclose⟩ := Option.bind_eq_some_iff.mp hbounds
      simp only at hclose
      split at hclose
      · split at hclose
        · next hle =>
            obtain ⟨rfl, hmax⟩ := Prod.mk.inj (Option.some.inj hclose)
            obtain ⟨rfl, -⟩ := Prod.mk.inj hmax
            simpa using hle
        · cases hclose
      · cases hclose
  · cases hbounds

def Action.Ordered : Action → Prop
  | .opens _ | .closes | .bars => True
  | .adds regex _ => regex.Ordered
  | .repeats min max => ∀ most ∈ max, min ≤ most

theorem ordered_of_atomAction? {flags : Flags} {atom : Atom} {action : Action}
    (h : atomAction? flags atom = some action) : action.Ordered := by
  obtain ⟨regex, hregex, rfl⟩ := Option.map_eq_some_iff.mp h
  exact ordered_of_regex? hregex

theorem ordered_of_action? {flags : Flags} {c : Char} {text rest : List Char}
    {action : Action} (h : action? flags c text = some (action, rest)) : action.Ordered := by
  unfold action? at h
  split at h
  · obtain ⟨opening, -, heq⟩ := Option.map_eq_some_iff.mp h
    obtain ⟨rfl, -⟩ := Prod.mk.inj heq
    trivial
  · obtain ⟨rfl, -⟩ := Prod.mk.inj (Option.some.inj h)
    trivial
  · obtain ⟨rfl, -⟩ := Prod.mk.inj (Option.some.inj h)
    trivial
  · obtain ⟨_, -, hread⟩ := Option.bind_eq_some_iff.mp h
    obtain ⟨chars, -, heq⟩ := Option.map_eq_some_iff.mp hread
    obtain ⟨rfl, -⟩ := Prod.mk.inj heq
    trivial
  · obtain ⟨rfl, -⟩ := Prod.mk.inj (Option.some.inj h)
    simp [Action.Ordered]
  · obtain ⟨rfl, -⟩ := Prod.mk.inj (Option.some.inj h)
    simp [Action.Ordered]
  · obtain ⟨rfl, -⟩ := Prod.mk.inj (Option.some.inj h)
    simp [Action.Ordered]
  · obtain ⟨⟨min, max, left⟩, hrounds, heq⟩ := Option.map_eq_some_iff.mp h
    obtain ⟨rfl, -⟩ := Prod.mk.inj heq
    exact le_of_rounds? hrounds
  · obtain ⟨_, -, hmap⟩ := Option.bind_eq_some_iff.mp h
    obtain ⟨added, hadded, heq⟩ := Option.map_eq_some_iff.mp hmap
    obtain ⟨rfl, -⟩ := Prod.mk.inj heq
    exact ordered_of_atomAction? hadded
  · obtain ⟨added, hadded, heq⟩ := Option.map_eq_some_iff.mp h
    obtain ⟨rfl, -⟩ := Prod.mk.inj heq
    exact ordered_of_atomAction? hadded

end Pattern

namespace Regex

theorem ordered_concats {regexes : List Regex} (h : ∀ regex ∈ regexes, regex.Ordered) :
    (concats regexes).Ordered := by
  fun_induction concats regexes with
  | case1 => trivial
  | case2 regex => exact h regex (by simp)
  | case3 regex rest _ ih =>
      have hrest : ∀ other ∈ rest, other.Ordered := fun other hmem => h other (by simp [hmem])
      exact ⟨h regex (by simp), ih hrest⟩

theorem ordered_alternates {regexes : List Regex} (h : ∀ regex ∈ regexes, regex.Ordered) :
    (alternates regexes).Ordered := by
  fun_induction alternates regexes with
  | case1 => trivial
  | case2 regex => exact h regex (by simp)
  | case3 regex rest _ ih =>
      have hrest : ∀ other ∈ rest, other.Ordered := fun other hmem => h other (by simp [hmem])
      exact ⟨h regex (by simp), ih hrest⟩

end Regex

namespace Pattern

namespace Level

/-- The branches and items of a level are in order. -/
structure Ordered (level : Level) : Prop where
  branches : ∀ branch ∈ level.branches, branch.1.Ordered
  items : ∀ item ∈ level.items, ∀ regex ∈ item.regex, regex.Ordered

theorem ordered_initial (flags : Flags) : (initial flags).Ordered where
  branches := by simp [initial]
  items := by simp [initial]

variable {level : Level}

theorem Ordered.branch (h : level.Ordered) : level.branch.1.Ordered := by
  apply Regex.ordered_concats
  intro regex hmem
  obtain ⟨item, hitem, hregex⟩ := List.mem_filterMap.mp hmem
  exact h.items item (List.mem_reverse.mp hitem) regex hregex

theorem Ordered.regex (h : level.Ordered) : level.regex.1.Ordered := by
  apply Regex.ordered_alternates
  intro regex hmem
  obtain ⟨branch, hbranch, rfl⟩ := List.mem_map.mp hmem
  rcases List.mem_cons.mp (List.mem_reverse.mp hbranch) with rfl | hold
  · exact h.branch
  · exact h.branches branch hold

theorem Ordered.push (h : level.Ordered) {regex : Regex} (hregex : regex.Ordered)
    (depth : Nat) : (level.push regex depth).Ordered where
  branches := h.branches
  items := by
    intro item hitem
    rcases List.mem_cons.mp hitem with rfl | hold
    · simpa using hregex
    · exact h.items item hold

theorem Ordered.bar (h : level.Ordered) : level.bar.Ordered where
  branches := by
    intro branch hbranch
    rcases List.mem_cons.mp hbranch with rfl | hold
    · exact h.branch
    · exact h.branches branch hold
  items := by simp [Level.bar]

theorem Ordered.set (h : level.Ordered) (flags : Flags) : (level.set flags).Ordered where
  branches := h.branches
  items := by
    intro item hitem
    rcases List.mem_cons.mp hitem with rfl | hold
    · simp
    · exact h.items item hold

theorem Ordered.repeat? (h : level.Ordered) {min : Nat} {max : Option Nat}
    (hbounds : ∀ most ∈ max, min ≤ most) {next : Level}
    (hnext : level.repeat? min max = some next) : next.Ordered := by
  unfold Level.repeat? at hnext
  split at hnext
  · next regex depth rest hitems =>
      obtain rfl := Option.some.inj hnext
      have hregex : regex.Ordered := h.items ⟨some regex, depth⟩ (by simp [hitems]) regex rfl
      refine ⟨h.branches, ?_⟩
      intro item hitem
      rcases List.mem_cons.mp hitem with rfl | hold
      · rintro _ ⟨⟩
        exact ⟨hregex, hbounds⟩
      · exact h.items item (by simp [hitems, hold])
  · cases hnext

end Level

namespace Machine

/-- All levels are in order. -/
def Ordered (machine : Machine) : Prop :=
  machine.level.Ordered ∧ ∀ level ∈ machine.outer, level.Ordered

variable {machine next final : Machine} {text rest remaining : List Char} {c : Char}

theorem Ordered.perform? (h : machine.Ordered) {action : Action} (haction : action.Ordered)
    (hnext : machine.perform? action = some next) : next.Ordered := by
  have hupdate : ∀ level : Level, level.Ordered → (machine.update level).Ordered :=
    fun level hlevel => ⟨hlevel, h.2⟩
  have henter : ∀ level ∈ machine.level :: machine.outer, level.Ordered := by
    intro level hlevel
    rcases List.mem_cons.mp hlevel with rfl | houter
    · exact h.1
    · exact h.2 level houter
  cases action with
  | opens opening =>
      obtain ⟨flags, ⟨hlevel, houter⟩ | ⟨hlevel, houter⟩⟩ := open?_cases hnext
      · rw [Ordered, hlevel, houter]
        exact ⟨h.1.set flags, h.2⟩
      · rw [Ordered, hlevel, houter]
        exact ⟨Level.ordered_initial flags, henter⟩
  | closes =>
      simp only [Machine.perform?, Machine.close?] at hnext
      split at hnext
      · cases hnext
      · next parent outer houter =>
          obtain rfl := Option.some.inj hnext
          have hparent : parent.Ordered := h.2 parent (by simp [houter])
          have hothers : ∀ level ∈ outer, level.Ordered :=
            fun level hlevel => h.2 level (by simp [houter, hlevel])
          exact ⟨hparent.push h.1.regex _, hothers⟩
  | bars =>
      obtain rfl := Option.some.inj hnext
      exact hupdate _ h.1.bar
  | adds regex depth =>
      obtain rfl := Option.some.inj hnext
      exact hupdate _ (h.1.push haction depth)
  | repeats min max =>
      obtain ⟨level, hlevel, rfl⟩ := Option.map_eq_some_iff.mp hnext
      exact hupdate _ (h.1.repeat? haction hlevel)

theorem Reads.ordered (h : Reads machine text final) (hmachine : machine.Ordered) :
    final.Ordered := by
  induction h with
  | done _ => exact hmachine
  | step _ hstep _ ih =>
      obtain ⟨action, haction, hperform⟩ := step?_eq_some_iff.mp hstep
      exact ih (hmachine.perform? (ordered_of_action? haction) hperform)

theorem ordered_initial : initial.Ordered :=
  ⟨Level.ordered_initial {}, by simp [initial]⟩

end Machine

end Pattern

end PathSchema
