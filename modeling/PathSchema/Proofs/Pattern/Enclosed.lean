import PathSchema.Proofs.Pattern.Steps

/-!
# Texts of groups

A text that stands in a group is read up to the parenthesis that closes the group.  Up to
there it is read as by itself, and as in front of any other parenthesis.  The names of
groups are the only thing that it shares with the text around it: fewer names do no harm,
and other names change nothing about the levels.
-/

namespace PathSchema

namespace Pattern

namespace Machine

/-- A text is read to its end in front of any end. -/
inductive Enclosed : Machine → List Char → Machine → Prop where
  | done {machine : Machine} {text : List Char}
      (hskip : ∀ ending, Ended ending →
        machine.level.flags.skip (text ++ ending) = ending) : Enclosed machine text machine
  | step {machine next final : Machine} {text rest left : List Char} {c : Char}
      {action : Action}
      (hskip : ∀ ending, Ended ending →
        machine.level.flags.skip (text ++ ending) = c :: (rest ++ ending))
      (haction : ∀ ending, Ended ending →
        action? machine.level.flags c (rest ++ ending) = some (action, left ++ ending))
      (hperform : machine.perform? action = some next)
      (hmore : Enclosed next left final) : Enclosed machine text final

variable {machine next done final : Machine} {text rest behind : List Char} {c : Char}
  {action : Action}

/-- Behind an enclosed text, what is read goes on from the state after it. -/
theorem Enclosed.reads_append_iff (h : Enclosed machine text done) {ending : List Char}
    (hending : Ended ending) : Reads machine (text ++ ending) final ↔ Reads done ending final := by
  induction h with
  | @done machine text hskip =>
      exact reads_congr (by rw [hskip ending hending, Flags.skip_of_ended _ hending])
  | step hskip haction hperform _ ih =>
      have hstep := step?_eq_some_iff.mpr ⟨_, haction ending hending, hperform⟩
      rw [reads_step_iff (hskip ending hending) hstep, ih]

theorem Enclosed.reads (h : Enclosed machine text done) : Reads machine text done := by
  have hend : Reads done [] done := .done (Flags.skip_nil _)
  rwa [← h.reads_append_iff ended_nil, List.append_nil] at hend

theorem not_reads_close (houter : machine.outer = []) :
    ¬Reads machine (')' :: behind) final := by
  rw [reads_cons_iff (Flags.skip_of_ended _ (ended_cons behind))]
  rintro ⟨next, remaining, hstep, -⟩
  simp [step?, close?, houter] at hstep

theorem perform?_closes_of_nil (houter : machine.outer = []) :
    machine.perform? .closes = none := by
  simp [perform?, close?, houter]

theorem perform?_eq_none_of_close {flags : Flags} {left : List Char} (houter : machine.outer = [])
    (haction : action? flags ')' rest = some (action, left)) : machine.perform? action = none := by
  obtain ⟨rfl, -⟩ := Prod.mk.inj (Option.some.inj haction)
  exact perform?_closes_of_nil houter

/-! ## One more group around a text -/

/-- The same state with one more group around it. -/
def within (base : Level) (machine : Machine) : Machine :=
  { machine with outer := machine.outer ++ [base] }

theorem perform?_within (base : Level) (machine : Machine) {action : Action}
    (h : action = .closes → machine.outer ≠ []) :
    (machine.within base).perform? action = (machine.perform? action).map (within base) := by
  cases action with
  | opens opening =>
      rcases opening with ⟨flags, _ | name⟩ | ⟨flags⟩
      · rfl
      · by_cases hname : name ∈ machine.names
        · simp [perform?, open?, within, hname]
        · simp [perform?, open?, within, hname]
      · rfl
  | closes =>
      obtain ⟨parent, outer, houter⟩ := List.exists_cons_of_ne_nil (h rfl)
      simp [perform?, close?, within, houter]
  | bars => rfl
  | adds regex depth => rfl
  | repeats min max =>
      simp only [perform?, Option.map_map]
      rfl

theorem Enclosed.within (h : Enclosed machine text done) (base : Level) :
    Enclosed (machine.within base) text (done.within base) := by
  induction h with
  | done hskip => exact .done hskip
  | @step machine next final text rest left c action hskip haction hperform _ ih =>
      have hinner : action = .closes → machine.outer ≠ [] := by
        rintro rfl houter
        rw [perform?_closes_of_nil houter] at hperform
        cases hperform
      refine .step hskip haction ?_ ih
      rw [perform?_within base machine hinner, hperform]
      rfl

/-- In front of the parenthesis of its group an enclosed text that left no group open is
added to the level around the group. -/
theorem Enclosed.reads_group_iff (h : Enclosed machine text done) (houter : done.outer = [])
    (base : Level) :
    Reads (machine.within base) (text ++ ')' :: behind) final ↔
      Reads ⟨base.push done.level.regex.1 (done.level.regex.2 + 1), [], done.names⟩ behind
        final := by
  rw [(h.within base).reads_append_iff (ended_cons behind)]
  refine reads_step_iff (Flags.skip_of_ended _ (ended_cons behind)) ?_
  simp [step?, close?, Machine.within, houter]

/-! ## Finding the parenthesis -/

theorem not_enclosed_brace {blanks : List Char} (h : machine.level.flags.skip blanks = []) :
    ¬Enclosed machine ('\x7b' :: blanks) done := by
  intro henclosed
  have hskip : machine.level.flags.skip ('\x7b' :: blanks) = '\x7b' :: blanks :=
    Flags.skip_cons _ (by decide +kernel) (by decide) blanks
  have hrounds : rounds? machine.level.flags blanks = none := by
    rw [rounds?, h]
    simp [count?, countDigits]
  have hreads := henclosed.reads
  rw [reads_cons_iff hskip] at hreads
  obtain ⟨next, remaining, hstep, -⟩ := hreads
  simp [step?, hrounds] at hstep

/-- A group that is read to its end holds an enclosed text in front of its parenthesis. -/
theorem exists_enclosed {base : Level} (h : Reads (machine.within base) text final)
    (hfinal : final.outer = []) :
    ∃ inner behind done, text = inner ++ ')' :: behind ∧ Enclosed machine inner done ∧
      done.outer = [] := by
  generalize hinside : machine.within base = inside at h
  induction h generalizing machine with
  | done hskip =>
      subst hinside
      simp [Machine.within] at hfinal
  | @step _ next final text rest remaining c hskip hstep hmore ih =>
      subst hinside
      obtain ⟨action, haction, hperform⟩ := step?_eq_some_iff.mp hstep
      obtain ⟨blanks, rfl⟩ : c :: rest <:+ text := hskip ▸ Flags.skip_suffix _ text
      by_cases hcloses : action = .closes ∧ machine.outer = []
      · obtain ⟨rfl, houter⟩ := hcloses
        obtain ⟨rfl, rfl⟩ := eq_of_action?_closes haction
        refine ⟨blanks, remaining, machine, rfl, .done fun ending hending => ?_, houter⟩
        rw [← List.nil_append (')' :: remaining)] at hskip
        exact Flags.skip_behind _ hskip hending
      · have hinner : action = .closes → machine.outer ≠ [] :=
          fun hclose houter => hcloses ⟨hclose, houter⟩
        rw [perform?_within base machine hinner] at hperform
        obtain ⟨reached, hreached, rfl⟩ := Option.map_eq_some_iff.mp hperform
        obtain ⟨left, behind, done, rfl, henclosed, hdone⟩ := ih hfinal rfl
        obtain ⟨front, rfl⟩ := action?_suffix haction
        rw [← List.append_assoc] at haction hskip
        rcases action?_behind haction with hbehind | ⟨⟨regex, rfl⟩, empty, rfl, hempty⟩
        · rw [← List.cons_append, ← List.append_assoc] at hskip
          refine ⟨blanks ++ c :: (front ++ left), behind, done, by simp, ?_, hdone⟩
          exact .step (fun ending hending => Flags.skip_behind _ hskip hending) hbehind
            hreached henclosed
        · obtain rfl := Option.some.inj hreached
          exact absurd henclosed (not_enclosed_brace hempty)

/-! ## Names of groups -/

def renamed (names : List (List Char)) (machine : Machine) : Machine :=
  { machine with names := names }

/-- An action does the same whatever names are taken, unless it takes one of them itself. -/
theorem perform?_renamed (names : List (List Char)) (hperform : machine.perform? action = some next) :
    (∃ taken, (machine.renamed names).perform? action = some (next.renamed taken) ∧
        (names ⊆ machine.names → taken ⊆ next.names)) ∨
      (machine.renamed names).perform? action = none ∧ ¬names ⊆ machine.names := by
  cases action with
  | opens opening =>
      rcases opening with ⟨flags, _ | name⟩ | ⟨flags⟩
      · obtain rfl := Option.some.inj hperform
        exact .inl ⟨names, rfl, id⟩
      · simp only [perform?, open?] at hperform
        split at hperform
        · cases hperform
        · next hnew =>
            obtain rfl := Option.some.inj hperform
            by_cases htaken : names.contains name = true
            · refine .inr ⟨if_pos htaken, fun hnames => hnew ?_⟩
              simpa using hnames (by simpa using htaken)
            · exact .inl ⟨name :: names, if_neg htaken, List.cons_subset_cons name⟩
      · obtain rfl := Option.some.inj hperform
        exact .inl ⟨names, rfl, id⟩
  | closes =>
      simp only [perform?, close?] at hperform
      split at hperform
      · cases hperform
      · next parent outer houter =>
          obtain rfl := Option.some.inj hperform
          refine .inl ⟨names, ?_, id⟩
          simp only [perform?, close?, renamed, houter]
  | bars =>
      obtain rfl := Option.some.inj hperform
      exact .inl ⟨names, rfl, id⟩
  | adds regex depth =>
      obtain rfl := Option.some.inj hperform
      exact .inl ⟨names, rfl, id⟩
  | repeats min max =>
      obtain ⟨level, hlevel, rfl⟩ := Option.map_eq_some_iff.mp hperform
      refine .inl ⟨names, ?_, id⟩
      simp only [perform?, renamed, hlevel, Option.map_some]
      rfl

/-- What is enclosed where some names are taken is enclosed where fewer are. -/
theorem Enclosed.renamed (h : Enclosed machine text done) {names : List (List Char)}
    (hnames : names ⊆ machine.names) :
    ∃ fewer, Enclosed (machine.renamed names) text (done.renamed fewer) := by
  induction h generalizing names with
  | done hskip => exact ⟨names, .done hskip⟩
  | step hskip haction hperform _ ih =>
      rcases perform?_renamed names hperform with ⟨taken, hstill, hless⟩ | ⟨-, hmore⟩
      · obtain ⟨fewer, hleft⟩ := ih (hless hnames)
        exact ⟨fewer, .step hskip haction hstill hleft⟩
      · exact absurd hnames hmore

theorem Enclosed.unique (h : Enclosed machine text done) (houter : done.outer = [])
    {names : List (List Char)} {other : Machine} {text' behind' : List Char}
    (h' : Enclosed (machine.renamed names) text' other) (houter' : other.outer = [])
    (htext : text ++ ')' :: behind = text' ++ ')' :: behind') :
    behind = behind' ∧ ∃ taken, other = done.renamed taken := by
  induction h generalizing names text' with
  | @done machine text hskip =>
      have hfront := hskip _ (ended_cons behind)
      rw [htext] at hfront
      cases h' with
      | done hskip' =>
          have hfront' := hskip' _ (ended_cons behind')
          exact ⟨(List.cons.inj (hfront.symm.trans hfront')).2, names, rfl⟩
      | step hskip' haction' hperform' _ =>
          have hfront' := hskip' _ (ended_cons behind')
          obtain ⟨rfl, -⟩ := List.cons.inj (hfront.symm.trans hfront')
          have hnone : (machine.renamed names).outer = [] := houter
          rw [perform?_eq_none_of_close hnone (haction' _ ended_nil)] at hperform'
          cases hperform'
  | @step machine next final text rest left c action hskip haction hperform _ ih =>
      have hfront := hskip _ (ended_cons behind)
      rw [htext] at hfront
      cases h' with
      | done hskip' =>
          have hfront' := hskip' _ (ended_cons behind')
          obtain ⟨rfl, -⟩ := List.cons.inj (hfront.symm.trans hfront')
          have hnone : machine.outer = [] := houter'
          rw [perform?_eq_none_of_close hnone (haction _ ended_nil)] at hperform
          cases hperform
      | step hskip' haction' hperform' hmore' =>
          have hfront' := hskip' _ (ended_cons behind')
          obtain ⟨rfl, hrest⟩ := List.cons.inj (hfront.symm.trans hfront')
          have hfound := haction' _ (ended_cons behind')
          rw [← hrest] at hfound
          obtain ⟨rfl, hleft⟩ :=
            Prod.mk.inj (Option.some.inj ((haction _ (ended_cons behind)).symm.trans hfound))
          rcases perform?_renamed names hperform with ⟨taken, hsame, -⟩ | ⟨hnone, -⟩
          · obtain rfl := Option.some.inj (hsame.symm.trans hperform')
            exact ih houter hmore' hleft
          · rw [hnone] at hperform'
            cases hperform'

end Machine

end Pattern

end PathSchema
