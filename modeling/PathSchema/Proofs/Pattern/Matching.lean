import Mathlib.Data.List.Basic
import PathSchema.Pattern.Regex

/-!
# What expressions match

A match leads from one place of a text to another, and is given by recursion on the
expression: a repetition by so many matches one after the other.  The evaluation takes
all places at once, drops places that were met before, and bounds the rounds of an
unbounded repetition.  It reaches the same places: two places of a text with as many
characters left are the same, and a round that takes no character leads nowhere new.
-/

namespace PathSchema

namespace Place

def text (place : Place) : List Char :=
  place.before.reverse ++ place.after

/-- The second place is in the same text, and not before the first. -/
def Onward (p q : Place) : Prop :=
  q.text = p.text ∧ q.left ≤ p.left

theorem Onward.refl (p : Place) : p.Onward p :=
  ⟨rfl, Nat.le_refl _⟩

theorem Onward.trans {p q r : Place} (hfirst : p.Onward q) (hsecond : q.Onward r) :
    p.Onward r :=
  ⟨hsecond.1.trans hfirst.1, Nat.le_trans hsecond.2 hfirst.2⟩

theorem eq_of_left_eq {p q : Place} (htext : p.text = q.text) (hleft : p.left = q.left) :
    p = q := by
  obtain ⟨before, after⟩ := p
  obtain ⟨before', after'⟩ := q
  obtain ⟨hbefore, rfl⟩ := List.append_inj' htext hleft
  obtain rfl : before = before' := List.reverse_injective hbefore
  rfl

theorem left_mem_map_iff {p : Place} {places : List Place} {text : List Char}
    (hp : p.text = text) (hplaces : ∀ q ∈ places, q.text = text) :
    p.left ∈ places.map left ↔ p ∈ places := by
  constructor
  · intro hmem
    obtain ⟨q, hq, hleft⟩ := List.mem_map.mp hmem
    rwa [← eq_of_left_eq ((hplaces q hq).trans hp.symm) hleft]
  · exact List.mem_map_of_mem

theorem mem_onwards_iff {p : Place} {before after : List Char} :
    p ∈ onwards before after ↔
      ∃ passed, after = passed ++ p.after ∧ p.before = passed.reverse ++ before := by
  induction after generalizing before with
  | nil =>
      rw [onwards, List.mem_singleton]
      constructor
      · rintro rfl
        exact ⟨[], rfl, rfl⟩
      · rintro ⟨passed, hafter, hbefore⟩
        obtain ⟨reached, rest⟩ := p
        obtain ⟨rfl, rfl⟩ : passed = [] ∧ rest = [] := by simpa using hafter
        obtain rfl : reached = before := hbefore
        rfl
  | cons c rest ih =>
      rw [onwards, List.mem_cons, ih]
      constructor
      · rintro (rfl | ⟨passed, rfl, hbefore⟩)
        · exact ⟨[], rfl, rfl⟩
        · exact ⟨c :: passed, rfl, by simpa using hbefore⟩
      · rintro ⟨passed, hafter, hbefore⟩
        rcases passed with _ | ⟨d, passed⟩
        · obtain ⟨reached, rest⟩ := p
          obtain rfl : reached = before := hbefore
          exact .inl (congrArg (Place.mk reached) hafter.symm)
        · obtain ⟨rfl, rfl⟩ := List.cons.inj hafter
          exact .inr ⟨passed, rfl, by simpa using hbefore⟩

theorem mem_all_iff {p : Place} {text : List Char} : p ∈ all text ↔ p.text = text := by
  rw [all, mem_onwards_iff]
  constructor
  · rintro ⟨passed, rfl, hbefore⟩
    simp [Place.text, hbefore]
  · rintro rfl
    exact ⟨p.before.reverse, rfl, by simp⟩

theorem pass?_eq_some_iff {chars : CharClass} {p q : Place} :
    p.pass? chars = some q ↔
      ∃ c rest, p.after = c :: rest ∧ chars.contains c = true ∧
        q = ⟨c :: p.before, rest⟩ := by
  rcases hafter : p.after with _ | ⟨c, rest⟩
  · simp [pass?, hafter]
  · by_cases hmem : chars.contains c = true
    · simp only [pass?, hafter, if_pos hmem, Option.some.injEq, List.cons.injEq]
      constructor
      · rintro rfl
        exact ⟨c, rest, ⟨rfl, rfl⟩, hmem, rfl⟩
      · rintro ⟨_, _, ⟨rfl, rfl⟩, -, rfl⟩
        rfl
    · simp only [pass?, hafter, if_neg hmem, List.cons.injEq]
      constructor
      · intro h
        cases h
      · rintro ⟨_, _, ⟨rfl, rfl⟩, hmember, -⟩
        exact absurd hmember hmem

theorem mem_fresh_iff {met : List Nat} {places : List Place} {text : List Char}
    (hplaces : ∀ q ∈ places, q.text = text) {p : Place} :
    p ∈ fresh met places ↔ p ∈ places ∧ p.left ∉ met := by
  induction places generalizing met with
  | nil => simp [fresh]
  | cons place rest ih =>
      have hplace : place.text = text := hplaces place (by simp)
      have hrest : ∀ q ∈ rest, q.text = text := fun q hq => hplaces q (by simp [hq])
      rw [fresh]
      by_cases hmet : place.left ∈ met
      · rw [if_pos (List.contains_iff_mem.mpr hmet), ih hrest, List.mem_cons]
        constructor
        · rintro ⟨hp, hfresh⟩
          exact ⟨.inr hp, hfresh⟩
        · rintro ⟨rfl | hp, hfresh⟩
          · exact absurd hmet hfresh
          · exact ⟨hp, hfresh⟩
      · rw [if_neg (by simpa using hmet), List.mem_cons, ih hrest, List.mem_cons,
          List.mem_cons]
        constructor
        · rintro (rfl | ⟨hp, hfresh⟩)
          · exact ⟨.inl rfl, hmet⟩
          · exact ⟨.inr hp, fun hold => hfresh (.inr hold)⟩
        · rintro ⟨rfl | hp, hfresh⟩
          · exact .inl rfl
          · by_cases hleft : p.left = place.left
            · exact .inl (eq_of_left_eq ((hrest p hp).trans hplace.symm) hleft)
            · refine .inr ⟨hp, ?_⟩
              rintro (hsame | hold)
              · exact hleft hsame
              · exact hfresh hold

end Place

/-! ## Matches -/

/-- So many steps lead from one place to another. -/
def Rounds (step : Place → Place → Prop) : Nat → Place → Place → Prop
  | 0, p, q => p = q
  | n + 1, p, q => ∃ between, step p between ∧ Rounds step n between q

namespace Regex

def Matches : Regex → Place → Place → Prop
  | empty, p, q => p = q
  | char chars, p, q => p.pass? chars = some q
  | assertion condition, p, q => condition.holds p = true ∧ p = q
  | concat first second, p, q => ∃ between, first.Matches p between ∧ second.Matches between q
  | alternate first second, p, q => first.Matches p q ∨ second.Matches p q
  | repeated inner min max, p, q =>
    ∃ n, min ≤ n ∧ (∀ most ∈ max, n ≤ most) ∧ Rounds inner.Matches n p q

/-- No repetition has to be made more often than it may be. -/
def Ordered : Regex → Prop
  | empty | char _ | assertion _ => True
  | concat first second | alternate first second => first.Ordered ∧ second.Ordered
  | repeated inner min max => inner.Ordered ∧ ∀ most ∈ max, min ≤ most

end Regex

namespace Rounds

variable {step : Place → Place → Prop} {p q : Place}

theorem onward (hstep : ∀ p q, step p q → p.Onward q) {n : Nat} (h : Rounds step n p q) :
    p.Onward q := by
  induction n generalizing p with
  | zero =>
      obtain rfl : p = q := h
      exact .refl p
  | succ n ih =>
      obtain ⟨between, hfirst, hmore⟩ := h
      exact (hstep _ _ hfirst).trans (ih hmore)

theorem add_iff {m n : Nat} :
    Rounds step (m + n) p q ↔
      ∃ between, Rounds step m p between ∧ Rounds step n between q := by
  induction m generalizing p with
  | zero =>
      rw [Nat.zero_add]
      constructor
      · intro h
        exact ⟨p, rfl, h⟩
      · rintro ⟨_, rfl, h⟩
        exact h
  | succ m ih =>
      rw [Nat.succ_add]
      constructor
      · rintro ⟨next, hfirst, hmore⟩
        obtain ⟨between, hm, hn⟩ := ih.mp hmore
        exact ⟨between, ⟨next, hfirst, hm⟩, hn⟩
      · rintro ⟨between, ⟨next, hfirst, hm⟩, hn⟩
        exact ⟨next, hfirst, ih.mpr ⟨between, hm, hn⟩⟩

/-- No more rounds are needed than characters are taken: a round that takes none leads
back to where it begins. -/
theorem exists_few (hstep : ∀ p q, step p q → p.Onward q) {n : Nat}
    (h : Rounds step n p q) : ∃ few, few + q.left ≤ p.left ∧ Rounds step few p q := by
  induction n generalizing p with
  | zero =>
      obtain rfl : p = q := h
      exact ⟨0, by omega, rfl⟩
  | succ n ih =>
      obtain ⟨between, hfirst, hmore⟩ := h
      obtain ⟨htext, hleft⟩ := hstep _ _ hfirst
      obtain ⟨few, hfew, hrounds⟩ := ih hmore
      by_cases hsame : between.left = p.left
      · obtain rfl := Place.eq_of_left_eq htext hsame
        exact ⟨few, hfew, hrounds⟩
      · exact ⟨few + 1, by omega, between, hfirst, hrounds⟩

end Rounds

/-! ## Places reached -/

namespace Regex

theorem Matches.onward {regex : Regex} {p q : Place} (h : regex.Matches p q) :
    p.Onward q := by
  induction regex generalizing p q with
  | empty =>
      obtain rfl : p = q := h
      exact .refl p
  | char chars =>
      obtain ⟨c, rest, hafter, -, rfl⟩ := Place.pass?_eq_some_iff.mp h
      constructor
      · simp [Place.text, hafter]
      · simp [Place.left, hafter]
  | assertion condition =>
      obtain ⟨-, rfl⟩ := h
      exact .refl p
  | concat first second ihfirst ihsecond =>
      obtain ⟨between, hfirst, hsecond⟩ := h
      exact (ihfirst hfirst).trans (ihsecond hsecond)
  | alternate first second ihfirst ihsecond =>
      rcases h with hfirst | hsecond
      · exact ihfirst hfirst
      · exact ihsecond hsecond
  | repeated inner min max ih =>
      obtain ⟨n, -, -, hrounds⟩ := h
      exact hrounds.onward fun _ _ => ih

/-- From places of a text, a function reaches exactly those to which a step leads. -/
structure TakesSteps (round : List Place → List Place) (step : Place → Place → Prop)
    (text : List Char) : Prop where
  mem_iff : ∀ {places}, (∀ p ∈ places, p.text = text) →
    ∀ {q}, q ∈ round places ↔ ∃ p ∈ places, step p q
  onward : ∀ p q, step p q → p.Onward q

/-- Some places of a text were met, and only the latest of them lead to places that were
not. -/
structure Frontier (step : Place → Place → Prop) (text : List Char)
    (met latest : List Place) : Prop where
  text_eq : ∀ p ∈ met, p.text = text
  latest_met : ∀ p ∈ latest, p ∈ met
  closed : ∀ p ∈ met, p ∉ latest → ∀ q, step p q → q ∈ met

section Rounds

variable {round : List Place → List Place} {step : Place → Place → Prop} {text : List Char}
  {places met latest : List Place} {p q : Place}

namespace TakesSteps

theorem text_eq_of_mem (h : TakesSteps round step text)
    (hplaces : ∀ p ∈ places, p.text = text) : ∀ q ∈ round places, q.text = text := by
  intro q hq
  obtain ⟨p, hp, hstep⟩ := (h.mem_iff hplaces).mp hq
  rw [(h.onward p q hstep).1, hplaces p hp]

theorem round_nil (h : TakesSteps round step text) : round [] = [] := by
  refine List.eq_nil_iff_forall_not_mem.mpr fun q hq => ?_
  obtain ⟨_, hnone, -⟩ := (h.mem_iff (by simp)).mp hq
  simp at hnone

theorem exactly (h : TakesSteps round step text) (n : Nat) :
    TakesSteps (exactly round n) (Rounds step n) text where
  mem_iff := by
    intro places hplaces q
    induction n generalizing places with
    | zero => simp [Regex.exactly, Rounds]
    | succ n ih =>
        rw [Regex.exactly, ih (h.text_eq_of_mem hplaces)]
        constructor
        · rintro ⟨between, hbetween, hmore⟩
          obtain ⟨p, hp, hfirst⟩ := (h.mem_iff hplaces).mp hbetween
          exact ⟨p, hp, between, hfirst, hmore⟩
        · rintro ⟨p, hp, between, hfirst, hmore⟩
          exact ⟨between, (h.mem_iff hplaces).mpr ⟨p, hp, hfirst⟩, hmore⟩
  onward _ _ hrounds := hrounds.onward h.onward

end TakesSteps

theorem mem_atMost_of_mem {n : Nat} {met : List Nat} (h : q ∈ places) :
    q ∈ atMost round n met places := by
  cases n with
  | zero => exact h
  | succ n =>
      rw [atMost]
      split
      · exact h
      · exact List.mem_append_left _ h

theorem atMost_nil (hround : round [] = []) (n : Nat) (met : List Nat) :
    atMost round n met [] = [] := by
  cases n with
  | zero => rfl
  | succ n => simp [atMost, hround, Place.fresh]

/-- No exception is needed for a round that reaches nothing new. -/
theorem atMost_succ (hround : round [] = []) (n : Nat) (met : List Nat)
    (places : List Place) :
    atMost round (n + 1) met places =
      places ++ atMost round n ((Place.fresh met (round places)).map Place.left ++ met)
        (Place.fresh met (round places)) := by
  rw [atMost]
  split
  · next hempty =>
      rw [List.isEmpty_iff.mp hempty, atMost_nil hround, List.append_nil]
  · rfl

/-- The places that one more round is the first to reach. -/
def nextPlaces (round : List Place → List Place) (met latest : List Place) : List Place :=
  Place.fresh (met.map Place.left) (round latest)

namespace Frontier

theorem mem_nextPlaces_iff (hfrontier : Frontier step text met latest)
    (h : TakesSteps round step text) :
    q ∈ nextPlaces round met latest ↔ (∃ p ∈ latest, step p q) ∧ q ∉ met := by
  have hlatest : ∀ p ∈ latest, p.text = text :=
    fun p hp => hfrontier.text_eq p (hfrontier.latest_met p hp)
  have hround := h.text_eq_of_mem hlatest
  rw [nextPlaces, Place.mem_fresh_iff hround, ← h.mem_iff hlatest]
  refine and_congr_right fun hq => not_congr ?_
  exact Place.left_mem_map_iff (hround q hq) hfrontier.text_eq

/-- With the next places, everything that is one round away was met. -/
theorem mem_of_step (hfrontier : Frontier step text met latest)
    (h : TakesSteps round step text) (hp : p ∈ met) (hstep : step p q) :
    q ∈ nextPlaces round met latest ++ met := by
  rw [List.mem_append, hfrontier.mem_nextPlaces_iff h]
  by_cases hknown : q ∈ met
  · exact .inr hknown
  · have hlatest : p ∈ latest := by
      by_contra hold
      exact hknown (hfrontier.closed p hp hold q hstep)
    exact .inl ⟨⟨p, hlatest, hstep⟩, hknown⟩

theorem next (hfrontier : Frontier step text met latest) (h : TakesSteps round step text) :
    Frontier step text (nextPlaces round met latest ++ met) (nextPlaces round met latest) where
  text_eq := by
    intro q hq
    rcases List.mem_append.mp hq with hnew | hold
    · obtain ⟨⟨p, hp, hstep⟩, -⟩ := (hfrontier.mem_nextPlaces_iff h).mp hnew
      rw [(h.onward p q hstep).1, hfrontier.text_eq p (hfrontier.latest_met p hp)]
    · exact hfrontier.text_eq q hold
  latest_met := fun _ => List.mem_append_left met
  closed := by
    intro p hp hold q hstep
    rcases List.mem_append.mp hp with hnew | hmet
    · exact absurd hnew hold
    · exact hfrontier.mem_of_step h hmet hstep

theorem mem_atMost_succ_iff (hfrontier : Frontier step text met latest)
    (h : TakesSteps round step text) {n : Nat} :
    q ∈ met ∨ q ∈ atMost round (n + 1) (met.map Place.left) latest ↔
      q ∈ nextPlaces round met latest ++ met ∨
        q ∈ atMost round n ((nextPlaces round met latest ++ met).map Place.left)
          (nextPlaces round met latest) := by
  rw [atMost_succ h.round_nil, List.mem_append, List.mem_append, List.map_append]
  constructor
  · rintro (hq | hq | hq)
    · exact .inl (.inr hq)
    · exact .inl (.inr (hfrontier.latest_met q hq))
    · exact .inr hq
  · rintro ((hq | hq) | hq)
    · exact .inr (.inr (mem_atMost_of_mem hq))
    · exact .inl hq
    · exact .inr (.inr hq)

/-- The places met so far, and those that further rounds reach from the latest of them,
are those in reach of any place that was met. -/
theorem mem_atMost_iff (hfrontier : Frontier step text met latest)
    (h : TakesSteps round step text) {n : Nat} :
    q ∈ met ∨ q ∈ atMost round n (met.map Place.left) latest ↔
      ∃ k ≤ n, ∃ p ∈ met, Rounds step k p q := by
  induction n generalizing met latest with
  | zero =>
      constructor
      · rintro (hq | hq)
        · exact ⟨0, Nat.le_refl 0, q, hq, rfl⟩
        · exact ⟨0, Nat.le_refl 0, q, hfrontier.latest_met q hq, rfl⟩
      · rintro ⟨k, hk, p, hp, hrounds⟩
        obtain rfl : k = 0 := by omega
        obtain rfl : p = q := hrounds
        exact .inl hp
  | succ n ih =>
      rw [hfrontier.mem_atMost_succ_iff h, ih (hfrontier.next h)]
      constructor
      · rintro ⟨k, hk, p, hp, hrounds⟩
        rcases List.mem_append.mp hp with hnew | hmet
        · obtain ⟨⟨before, hbefore, hfirst⟩, -⟩ := (hfrontier.mem_nextPlaces_iff h).mp hnew
          exact ⟨k + 1, by omega, before, hfrontier.latest_met before hbefore, p, hfirst,
            hrounds⟩
        · exact ⟨k, by omega, p, hmet, hrounds⟩
      · rintro ⟨k, hk, p, hp, hrounds⟩
        rcases k with _ | k
        · exact ⟨0, by omega, p, List.mem_append_right _ hp, hrounds⟩
        · obtain ⟨between, hfirst, hmore⟩ := hrounds
          exact ⟨k, by omega, between, hfrontier.mem_of_step h hp hfirst, hmore⟩

end Frontier

/-- From some places on, rounds reach what so many steps lead to. -/
theorem TakesSteps.mem_atMost_iff (h : TakesSteps round step text) {n : Nat}
    (hplaces : ∀ p ∈ places, p.text = text) :
    q ∈ atMost round n (places.map Place.left) places ↔
      ∃ k ≤ n, ∃ p ∈ places, Rounds step k p q := by
  have hfrontier : Frontier step text places places :=
    ⟨hplaces, fun _ hp => hp, fun p hp hold => absurd hp hold⟩
  rw [← hfrontier.mem_atMost_iff h]
  exact ⟨.inr, fun hq => hq.elim mem_atMost_of_mem id⟩

end Rounds

theorem le_foldl_max {ns : List Nat} {n : Nat} (h : n ∈ ns) (least : Nat) :
    n ≤ ns.foldl max least := by
  have hleast : ∀ (ns : List Nat) least, least ≤ ns.foldl max least := by
    intro ns
    induction ns with
    | nil => exact Nat.le_refl
    | cons m ns ih =>
        intro least
        exact Nat.le_trans (Nat.le_max_left least m) (ih _)
  induction ns generalizing least with
  | nil => simp at h
  | cons m ns ih =>
      rcases List.mem_cons.mp h with rfl | h
      · exact Nat.le_trans (Nat.le_max_right least n) (hleast ns _)
      · exact ih h _

section Reach

variable {text : List Char} {first second inner : Regex}

theorem takesSteps_concat (hfirst : TakesSteps first.reach first.Matches text)
    (hsecond : TakesSteps second.reach second.Matches text) :
    TakesSteps (concat first second).reach (concat first second).Matches text where
  mem_iff := by
    intro places hplaces q
    rw [reach, hsecond.mem_iff (hfirst.text_eq_of_mem hplaces)]
    constructor
    · rintro ⟨between, hmem, hmore⟩
      obtain ⟨p, hp, hbegun⟩ := (hfirst.mem_iff hplaces).mp hmem
      exact ⟨p, hp, between, hbegun, hmore⟩
    · rintro ⟨p, hp, between, hbegun, hmore⟩
      exact ⟨between, (hfirst.mem_iff hplaces).mpr ⟨p, hp, hbegun⟩, hmore⟩
  onward _ _ := Matches.onward

theorem takesSteps_alternate (hfirst : TakesSteps first.reach first.Matches text)
    (hsecond : TakesSteps second.reach second.Matches text) :
    TakesSteps (alternate first second).reach (alternate first second).Matches text where
  mem_iff := by
    intro places hplaces q
    have hboth : ∀ q ∈ first.reach places ++ second.reach places, q.text = text := by
      intro q hq
      rcases List.mem_append.mp hq with hq | hq
      · exact hfirst.text_eq_of_mem hplaces q hq
      · exact hsecond.text_eq_of_mem hplaces q hq
    rw [reach, Place.mem_fresh_iff hboth, List.mem_append, hfirst.mem_iff hplaces,
      hsecond.mem_iff hplaces]
    constructor
    · rintro ⟨⟨p, hp, hmatch⟩ | ⟨p, hp, hmatch⟩, -⟩
      · exact ⟨p, hp, .inl hmatch⟩
      · exact ⟨p, hp, .inr hmatch⟩
    · rintro ⟨p, hp, hmatch | hmatch⟩
      · exact ⟨.inl ⟨p, hp, hmatch⟩, by simp⟩
      · exact ⟨.inr ⟨p, hp, hmatch⟩, by simp⟩
  onward _ _ := Matches.onward

theorem takesSteps_repeated (hinner : TakesSteps inner.reach inner.Matches text) {min : Nat}
    {max : Option Nat} (hbounds : ∀ most ∈ max, min ≤ most) :
    TakesSteps (repeated inner min max).reach (repeated inner min max).Matches text where
  mem_iff := by
    intro places hplaces q
    have hbegun := hinner.exactly min
    rw [reach, hinner.mem_atMost_iff (hbegun.text_eq_of_mem hplaces)]
    constructor
    · rintro ⟨k, hk, between, hbetween, hmore⟩
      obtain ⟨p, hp, hfirst⟩ := (hbegun.mem_iff hplaces).mp hbetween
      refine ⟨p, hp, min + k, by omega, ?_, Rounds.add_iff.mpr ⟨between, hfirst, hmore⟩⟩
      intro most hmost
      obtain rfl : max = some most := hmost
      have hle := hbounds most rfl
      have hfew : k ≤ most - min := hk
      omega
    · rintro ⟨p, hp, n, hmin, hmax, hrounds⟩
      obtain ⟨k, rfl⟩ := Nat.exists_eq_add_of_le hmin
      obtain ⟨between, hfirst, hmore⟩ := Rounds.add_iff.mp hrounds
      have hbetween := (hbegun.mem_iff hplaces).mpr ⟨p, hp, hfirst⟩
      cases max with
      | some most =>
          have hle := hmax most rfl
          exact ⟨k, show k ≤ most - min by omega, between, hbetween, hmore⟩
      | none =>
          obtain ⟨few, hfew, hrounds⟩ := hmore.exists_few hinner.onward
          have hbound : between.left ≤
              ((exactly inner.reach min places).map Place.left).foldl Nat.max 0 :=
            le_foldl_max (List.mem_map_of_mem hbetween) 0
          exact ⟨few, Nat.le_succ_of_le (by omega), between, hbetween, hrounds⟩
  onward _ _ := Matches.onward

end Reach

/-- The evaluation reaches the places to which a match leads. -/
theorem takesSteps_reach {regex : Regex} (hordered : regex.Ordered) (text : List Char) :
    TakesSteps regex.reach regex.Matches text := by
  induction regex with
  | empty => exact ⟨by simp [reach, Matches], fun _ _ => Matches.onward⟩
  | char chars => exact ⟨by simp [reach, Matches], fun _ _ => Matches.onward⟩
  | assertion condition => exact ⟨by simp [reach, Matches], fun _ _ => Matches.onward⟩
  | concat first second ihfirst ihsecond =>
      exact takesSteps_concat (ihfirst hordered.1) (ihsecond hordered.2)
  | alternate first second ihfirst ihsecond =>
      exact takesSteps_alternate (ihfirst hordered.1) (ihsecond hordered.2)
  | repeated inner min max ih => exact takesSteps_repeated (ih hordered.1) hordered.2

theorem isMatch_iff {regex : Regex} (hordered : regex.Ordered) {text : List Char} :
    regex.isMatch text = true ↔ ∃ p q, p.text = text ∧ regex.Matches p q := by
  have hall : ∀ p ∈ Place.all text, p.text = text := fun p hp => Place.mem_all_iff.mp hp
  rw [isMatch, Bool.not_eq_true', List.isEmpty_eq_false_iff_exists_mem]
  constructor
  · rintro ⟨q, hq⟩
    obtain ⟨p, hp, hmatch⟩ := ((takesSteps_reach hordered text).mem_iff hall).mp hq
    exact ⟨p, q, hall p hp, hmatch⟩
  · rintro ⟨p, q, hp, hmatch⟩
    have hmem : p ∈ Place.all text := Place.mem_all_iff.mpr hp
    exact ⟨q, ((takesSteps_reach hordered text).mem_iff hall).mpr ⟨p, hmem, hmatch⟩⟩

end Regex

end PathSchema
