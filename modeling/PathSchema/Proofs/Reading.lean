import PathSchema.Fault
import PathSchema.Proofs.Grammar
import PathSchema.Proofs.Scanning

/-!
# Reading follows the grammar

The reader goes from stage to stage, token by token.  What the grammar derives is
read, rule by rule: the tokens of a rule lead from one stage to another.  What is
read is derived by the grammar: each stage stands for the beginning of a rule, and a
step adds one token to it.  The reader would pass over any number of blanks; that
there is one at most is known from the scanner.
-/

namespace PathSchema

open Grammar

/-! ## Steps in a row -/

section Leads

variable {State Problem : Type} {step : State → Lexeme → Except Problem State}
  {state middle final : State} {lexeme : Lexeme} {lexemes more : List Lexeme}

/-- Some tokens, one step each, lead from a state to another. -/
def Leads (step : State → Lexeme → Except Problem State) (state : State)
    (lexemes : List Lexeme) (final : State) : Prop :=
  lexemes.foldlM step state = .ok final

theorem leads_nil (state : State) : Leads step state [] state := rfl

theorem leads_nil_iff : Leads step state [] final ↔ state = final := by
  constructor
  · exact Except.ok.inj
  · rintro rfl
    rfl

theorem leads_cons_iff :
    Leads step state (lexeme :: lexemes) final ↔
      ∃ middle, step state lexeme = .ok middle ∧ Leads step middle lexemes final := by
  rw [Leads, List.foldlM_cons]
  cases hstep : step state lexeme with
  | error problem => simp [bind, Except.bind]
  | ok middle =>
      constructor
      · intro h
        exact ⟨middle, rfl, h⟩
      · rintro ⟨other, hother, h⟩
        obtain rfl := Except.ok.inj hother
        exact h

theorem leads_cons (hstep : step state lexeme = .ok middle)
    (h : Leads step middle lexemes final) : Leads step state (lexeme :: lexemes) final :=
  leads_cons_iff.mpr ⟨middle, hstep, h⟩

theorem Leads.append (h : Leads step state lexemes middle)
    (hmore : Leads step middle more final) : Leads step state (lexemes ++ more) final := by
  rw [Leads, List.foldlM_append, show lexemes.foldlM step state = .ok middle from h]
  exact hmore

theorem leads_append_iff :
    Leads step state (lexemes ++ more) final ↔
      ∃ middle, Leads step state lexemes middle ∧ Leads step middle more final := by
  induction lexemes generalizing state with
  | nil => simp [leads_nil_iff]
  | cons lexeme rest ih =>
      rw [List.cons_append, leads_cons_iff]
      constructor
      · rintro ⟨next, hstep, h⟩
        obtain ⟨middle, hrest, hmore⟩ := ih.mp h
        exact ⟨middle, leads_cons hstep hrest, hmore⟩
      · rintro ⟨middle, h, hmore⟩
        obtain ⟨next, hstep, hrest⟩ := leads_cons_iff.mp h
        exact ⟨next, hstep, ih.mpr ⟨middle, hrest, hmore⟩⟩

theorem Leads.unique {other : State} (h : Leads step state lexemes final)
    (hother : Leads step state lexemes other) : final = other :=
  Except.ok.inj (h.symm.trans hother)

theorem Leads.snoc (h : Leads step state lexemes middle)
    (hstep : step middle lexeme = .ok final) :
    Leads step state (lexemes ++ [lexeme]) final :=
  h.append (leads_cons hstep (leads_nil final))

end Leads

namespace Stage

/-! ## What the grammar derives is read -/

section Complete

variable {name called : String} {calls : List ModifierCall} {arguments : List String}
  {lexemes : List Lexeme}

theorem argument_leads_of_blank (h : SpellsBlank lexemes) :
    Leads step (argument name calls called arguments) lexemes
      (argument name calls called arguments) := by
  cases h with
  | missing => exact leads_nil _
  | present => exact leads_cons rfl (leads_nil _)

theorem afterArgument_leads_of_blank (h : SpellsBlank lexemes) :
    Leads step (afterArgument name calls called arguments) lexemes
      (afterArgument name calls called arguments) := by
  cases h with
  | missing => exact leads_nil _
  | present => exact leads_cons rfl (leads_nil _)

theorem leads_of_spellsArguments (h : SpellsArguments lexemes arguments) :
    Leads step (argument name calls called []) lexemes
      (afterArgument name calls called arguments) := by
  induction h with
  | first hbefore => exact (argument_leads_of_blank hbefore).snoc rfl
  | further _ hbefore hafter ih =>
      apply ih.append
      apply (afterArgument_leads_of_blank hbefore).append
      apply leads_cons rfl
      exact (argument_leads_of_blank hafter).snoc rfl

theorem leads_of_spellsModifier {call : ModifierCall} (h : SpellsModifier lexemes call) :
    Leads step (dot name calls) lexemes (named name (calls ++ [call])) := by
  cases h with
  | call harguments hblank =>
      apply leads_cons rfl
      apply leads_cons rfl
      apply (leads_of_spellsArguments harguments).append
      exact (afterArgument_leads_of_blank hblank).snoc rfl

theorem leads_of_spellsModifiers (h : SpellsModifiers lexemes calls) :
    Leads step (named name []) lexemes (named name calls) := by
  induction h with
  | none => exact leads_nil _
  | further _ hcall ih => exact ih.append (leads_cons rfl (leads_of_spellsModifier hcall))

theorem step_of_spellsSymbol {lexeme : Lexeme} {symbol : Wildcard}
    (h : SpellsSymbol lexeme symbol) : start.step lexeme = .ok (wildcard symbol) := by
  cases h <;> rfl

theorem bound_of_lt {text : String} (h : Decimal.value text.toList < UInt64.size) :
    bound text = .ok (Decimal.value text.toList) :=
  if_pos h

theorem lower_step_of_spellsBound {lexeme : Lexeme} {symbol : Wildcard} {number : Nat}
    (h : SpellsBound lexeme number) :
    (lower symbol).step lexeme = .ok (afterLower symbol number) := by
  cases h with
  | integer hbound => simp [step, bound_of_lt hbound, Except.map]

theorem upper_step_of_spellsBound {lexeme : Lexeme} {symbol : Wildcard}
    {min number : Nat}
    (h : SpellsBound lexeme number) :
    (upper symbol min).step lexeme = .ok (afterUpper symbol min number) := by
  cases h with
  | integer hbound => simp [step, bound_of_lt hbound, Except.map]

theorem exists_leads_of_spellsPart {part : Part} (h : SpellsPart lexemes part) :
    ∃ stage, Leads step start lexemes stage ∧ stage.part? = some part := by
  cases h with
  | literal => exact ⟨_, leads_cons rfl (leads_nil _), rfl⟩
  | regex => exact ⟨_, leads_cons rfl (leads_nil _), rfl⟩
  | var hchain =>
      exact ⟨_, leads_cons rfl (leads_cons rfl (leads_of_spellsModifiers hchain)), rfl⟩
  | set =>
      refine ⟨complete (.set _), ?_, rfl⟩
      apply leads_cons rfl
      apply leads_cons rfl
      apply leads_cons rfl
      exact leads_cons rfl (leads_nil _)
  | wildcard hsymbol =>
      exact ⟨_, leads_cons (step_of_spellsSymbol hsymbol) (leads_nil _), rfl⟩
  | exactly hsymbol hbound =>
      refine ⟨complete (.wildcard _ (some ⟨_, _⟩)), ?_, rfl⟩
      apply leads_cons (step_of_spellsSymbol hsymbol)
      apply leads_cons rfl
      apply leads_cons (lower_step_of_spellsBound hbound)
      exact leads_cons rfl (leads_nil _)
  | between hsymbol hlower hupper =>
      refine ⟨complete (.wildcard _ (some ⟨_, _⟩)), ?_, rfl⟩
      apply leads_cons (step_of_spellsSymbol hsymbol)
      apply leads_cons rfl
      apply leads_cons (lower_step_of_spellsBound hlower)
      apply leads_cons rfl
      apply leads_cons (upper_step_of_spellsBound hupper)
      exact leads_cons rfl (leads_nil _)

end Complete

/-! ## What is read is derived by the grammar -/

/-- The tokens that were read since the last slash, stage by stage. -/
inductive Reads : List Lexeme → Stage → Prop where
  | start : Reads [] start
  | complete {lexemes : List Lexeme} {part : Part} (hpart : SpellsPart lexemes part) :
      Reads lexemes (complete part)
  | dollar {dollar : String} : Reads [⟨.dollar, dollar⟩] .dollar
  | setOpen {dollar opening : String} :
      Reads [⟨.dollar, dollar⟩, ⟨.openBracket, opening⟩] setOpen
  | setNamed {dollar opening name : String} :
      Reads [⟨.dollar, dollar⟩, ⟨.openBracket, opening⟩, ⟨.identifier, name⟩]
        (setNamed name)
  | named {dollar name : String} {chain : List Lexeme} {calls : List ModifierCall}
      (hchain : SpellsModifiers chain calls) :
      Reads (⟨.dollar, dollar⟩ :: ⟨.identifier, name⟩ :: chain) (named name calls)
  | dot {lexemes : List Lexeme} {name dot : String} {calls : List ModifierCall}
      (hnamed : Reads lexemes (named name calls)) :
      Reads (lexemes ++ [⟨.dot, dot⟩]) (.dot name calls)
  | modifier {lexemes : List Lexeme} {name called : String} {calls : List ModifierCall}
      (hdot : Reads lexemes (.dot name calls)) :
      Reads (lexemes ++ [⟨.identifier, called⟩]) (modifier name calls called)
  | argument {lexemes blank : List Lexeme} {name called opening : String}
      {calls : List ModifierCall}
      (hmodifier : Reads lexemes (modifier name calls called))
      (hblank : SpellsBlank blank) :
      Reads (lexemes ++ ⟨.openParen, opening⟩ :: blank) (argument name calls called [])
  | nextArgument {lexemes blank : List Lexeme} {name called comma : String}
      {calls : List ModifierCall} {arguments : List String}
      (hafter : Reads lexemes (afterArgument name calls called arguments))
      (hblank : SpellsBlank blank) :
      Reads (lexemes ++ ⟨.comma, comma⟩ :: blank) (argument name calls called arguments)
  | afterArgument {lexemes taken blank : List Lexeme} {name called opening : String}
      {calls : List ModifierCall} {arguments : List String}
      (hmodifier : Reads lexemes (modifier name calls called))
      (harguments : SpellsArguments taken arguments) (hblank : SpellsBlank blank) :
      Reads (lexemes ++ ⟨.openParen, opening⟩ :: (taken ++ blank))
        (afterArgument name calls called arguments)
  | wildcard {lexeme : Lexeme} {symbol : Wildcard}
      (hsymbol : SpellsSymbol lexeme symbol) :
      Reads [lexeme] (wildcard symbol)
  | lower {lexeme : Lexeme} {symbol : Wildcard} {opening : String}
      (hsymbol : SpellsSymbol lexeme symbol) :
      Reads [lexeme, ⟨.openBrace, opening⟩] (lower symbol)
  | afterLower {lexeme lower : Lexeme} {symbol : Wildcard} {opening : String} {min : Nat}
      (hsymbol : SpellsSymbol lexeme symbol) (hlower : SpellsBound lower min) :
      Reads [lexeme, ⟨.openBrace, opening⟩, lower] (afterLower symbol min)
  | upper {lexeme lower : Lexeme} {symbol : Wildcard} {opening comma : String}
      {min : Nat}
      (hsymbol : SpellsSymbol lexeme symbol) (hlower : SpellsBound lower min) :
      Reads [lexeme, ⟨.openBrace, opening⟩, lower, ⟨.comma, comma⟩] (upper symbol min)
  | afterUpper {lexeme lower upper : Lexeme} {symbol : Wildcard} {opening comma : String}
      {min max : Nat} (hsymbol : SpellsSymbol lexeme symbol)
      (hlower : SpellsBound lower min)
      (hupper : SpellsBound upper max) :
      Reads [lexeme, ⟨.openBrace, opening⟩, lower, ⟨.comma, comma⟩, upper]
        (afterUpper symbol min max)

/-- A part that may end is derived from what was read of it. -/
theorem Reads.spellsPart {lexemes : List Lexeme} {stage : Stage} {part : Part}
    (h : Reads lexemes stage)
    (hpart : stage.part? = some part) : SpellsPart lexemes part := by
  cases h <;> cases hpart
  · assumption
  · exact .var ‹_›
  · exact .wildcard ‹_›

section Sound

variable {name called text : String} {calls : List ModifierCall}
  {arguments : List String}
  {lexemes : List Lexeme}

/-- What was read up to the name of a modifier is a variable, its complete modifiers, a
dot and that name. -/
theorem Reads.exists_of_modifier (h : Reads lexemes (.modifier name calls called)) :
    ∃ dollar dot chain, SpellsModifiers chain calls ∧
      lexemes = ⟨.dollar, dollar⟩ :: ⟨.identifier, name⟩ ::
        (chain ++ [⟨.dot, dot⟩, ⟨.identifier, called⟩]) := by
  cases h with
  | modifier hdot =>
      cases hdot with
      | @dot _ _ dot _ hnamed =>
          cases hnamed with
          | @named dollar _ chain _ hchain => exact ⟨dollar, dot, chain, hchain, by simp⟩

theorem spellsBlank_snoc {before blank : List Lexeme} (hblank : SpellsBlank blank)
    (hapart : Lexeme.Apart (before ++ (blank ++ [⟨.whitespace, text⟩]))) :
    SpellsBlank (blank ++ [⟨.whitespace, text⟩]) := by
  cases hblank with
  | missing => exact .present
  | present =>
      have hpair := List.isChain_pair.mp hapart.right_of_append
      cases hpair

theorem Reads.argument_blank (h : Reads lexemes (.argument name calls called arguments))
    (hapart : Lexeme.Apart (lexemes ++ [⟨.whitespace, text⟩])) :
    Reads (lexemes ++ [⟨.whitespace, text⟩]) (.argument name calls called arguments) := by
  cases h with
  | argument hmodifier hblank =>
      rw [List.append_assoc, List.cons_append] at hapart ⊢
      rw [List.append_cons] at hapart
      exact .argument hmodifier (spellsBlank_snoc hblank hapart)
  | nextArgument hafter hblank =>
      rw [List.append_assoc, List.cons_append] at hapart ⊢
      rw [List.append_cons] at hapart
      exact .nextArgument hafter (spellsBlank_snoc hblank hapart)

theorem Reads.afterArgument_blank
    (h : Reads lexemes (.afterArgument name calls called arguments))
    (hapart : Lexeme.Apart (lexemes ++ [⟨.whitespace, text⟩])) :
    Reads (lexemes ++ [⟨.whitespace, text⟩])
      (.afterArgument name calls called arguments) := by
  cases h with
  | afterArgument hmodifier harguments hblank =>
      rw [List.append_assoc, List.cons_append, List.append_assoc] at hapart ⊢
      rw [List.append_cons, ← List.append_assoc] at hapart
      exact .afterArgument hmodifier harguments (spellsBlank_snoc hblank hapart)

theorem Reads.argument_string
    (h : Reads lexemes (.argument name calls called arguments)) :
    Reads (lexemes ++ [⟨.string, text⟩])
      (.afterArgument name calls called (arguments ++ [text])) := by
  cases h with
  | @argument lexemes blank _ _ opening _ hmodifier hblank =>
      have hread : Reads
          (lexemes ++ ⟨.openParen, opening⟩ :: ((blank ++ [⟨.string, text⟩]) ++ [])) _ :=
        .afterArgument hmodifier (.first hblank) .missing
      simpa using hread
  | @nextArgument _ blank _ _ comma _ _ hafter hblank =>
      cases hafter with
      | @afterArgument lexemes taken before _ _ opening _ _ hmodifier harguments hbefore =>
          have hread : Reads
              (lexemes ++ ⟨.openParen, opening⟩ ::
                ((taken ++ (before ++ ⟨.comma, comma⟩ :: (blank ++ [⟨.string, text⟩])))
                  ++ []))
              _ :=
            .afterArgument hmodifier (.further harguments hbefore hblank) .missing
          simpa using hread

theorem Reads.closeParen
    (h : Reads lexemes (.afterArgument name calls called arguments)) :
    Reads (lexemes ++ [⟨.closeParen, text⟩])
      (.named name (calls ++ [⟨called, arguments⟩])) := by
  cases h with
  | @afterArgument _ taken blank _ _ opening _ _ hmodifier harguments hblank =>
      obtain ⟨dollar, dot, chain, hchain, rfl⟩ := hmodifier.exists_of_modifier
      have hread : Reads
          (⟨.dollar, dollar⟩ :: ⟨.identifier, name⟩ ::
            (chain ++ ⟨.dot, dot⟩ :: ⟨.identifier, called⟩ :: ⟨.openParen, opening⟩ ::
              (taken ++ (blank ++ [⟨.closeParen, text⟩])))) _ :=
        .named (hchain.further (.call harguments hblank))
      simpa using hread

theorem exists_bound_of_map_eq_ok {α : Type} {f : Nat → α} {result : α}
    (h : (bound text).map f = .ok result) :
    ∃ number, SpellsBound ⟨.integer, text⟩ number ∧ f number = result := by
  unfold bound at h
  split at h
  · next hbound => exact ⟨_, .integer hbound, Except.ok.inj h⟩
  · cases h

/-- One more token of a part adds it to what was read.  The cases are those of the
reader's step, in their order. -/
theorem Reads.step {lexeme : Lexeme} {stage next : Stage} (h : Reads lexemes stage)
    (hapart : Lexeme.Apart (lexemes ++ [lexeme]))
    (hstep : stage.step lexeme = .ok next) :
    Reads (lexemes ++ [lexeme]) next := by
  rcases lexeme with ⟨kind, text⟩
  unfold Stage.step at hstep
  dsimp only at hstep
  split at hstep
  · cases h
    obtain rfl := Except.ok.inj hstep
    exact .dollar
  · cases h
    obtain rfl := Except.ok.inj hstep
    exact .wildcard .plus
  · cases h
    obtain rfl := Except.ok.inj hstep
    exact .wildcard .star
  · cases h
    obtain rfl := Except.ok.inj hstep
    exact .complete .regex
  · cases h
    obtain rfl := Except.ok.inj hstep
    exact .complete .literal
  · cases h
    obtain rfl := Except.ok.inj hstep
    exact .setOpen
  · cases h
    obtain rfl := Except.ok.inj hstep
    exact .named .none
  · cases h
    obtain rfl := Except.ok.inj hstep
    exact .setNamed
  · cases h
    obtain rfl := Except.ok.inj hstep
    exact .complete .set
  · obtain rfl := Except.ok.inj hstep
    exact .dot h
  · obtain rfl := Except.ok.inj hstep
    exact .modifier h
  · obtain rfl := Except.ok.inj hstep
    exact .argument h .missing
  · obtain rfl := Except.ok.inj hstep
    exact h.argument_blank hapart
  · obtain rfl := Except.ok.inj hstep
    exact h.argument_string
  · obtain rfl := Except.ok.inj hstep
    exact h.afterArgument_blank hapart
  · obtain rfl := Except.ok.inj hstep
    exact .nextArgument h .missing
  · obtain rfl := Except.ok.inj hstep
    exact h.closeParen
  · cases h with
    | wildcard hsymbol =>
        obtain rfl := Except.ok.inj hstep
        exact .lower hsymbol
  · cases h with
    | lower hsymbol =>
        obtain ⟨number, hbound, rfl⟩ := exists_bound_of_map_eq_ok hstep
        exact .afterLower hsymbol hbound
  · cases h with
    | afterLower hsymbol hlower =>
        obtain rfl := Except.ok.inj hstep
        exact .upper hsymbol hlower
  · cases h with
    | afterLower hsymbol hlower =>
        obtain rfl := Except.ok.inj hstep
        exact .complete (.exactly hsymbol hlower)
  · cases h with
    | upper hsymbol hlower =>
        obtain ⟨number, hbound, rfl⟩ := exists_bound_of_map_eq_ok hstep
        exact .afterUpper hsymbol hlower hbound
  · cases h with
    | afterUpper hsymbol hlower hupper =>
        obtain rfl := Except.ok.inj hstep
        exact .complete (.between hsymbol hlower hupper)
  · cases hstep

end Sound

/-! ## Slashes -/

theorem kind_ne_slash_of_step {stage next : Stage} {lexeme : Lexeme}
    (h : stage.step lexeme = .ok next) : lexeme.kind ≠ .slash := by
  intro hslash
  unfold step at h
  rw [hslash] at h
  cases stage <;> cases h

end Stage

namespace Reader

theorem run_eq_ok_iff {reader final : Reader} {tokens : List Token} :
    reader.run tokens = .ok final ↔
      Leads step reader (tokens.map Token.toLexeme) final := by
  induction tokens generalizing reader with
  | nil =>
      rw [run, List.map_nil, leads_nil_iff, Except.ok.injEq]
  | cons token rest ih =>
      rw [run, List.map_cons, leads_cons_iff]
      cases hstep : reader.step token.toLexeme with
      | error problem => simp
      | ok next => simpa using ih

theorem step_of_slash {parts : List Part} {stage : Stage} {part : Part} {slash : String}
    (hpart : stage.part? = some part) :
    step ⟨parts, stage⟩ ⟨.slash, slash⟩ = .ok ⟨parts ++ [part], .start⟩ := by
  simp [step, hpart]

theorem step_of_stage {parts : List Part} {stage next : Stage} {lexeme : Lexeme}
    (h : stage.step lexeme = .ok next) :
    step ⟨parts, stage⟩ lexeme = .ok ⟨parts, next⟩ := by
  unfold step
  split
  · next hslash _ => exact absurd hslash (Stage.kind_ne_slash_of_step h)
  · rw [h]
    rfl

theorem leads_of_stage {parts : List Part} {stage final : Stage} {lexemes : List Lexeme}
    (h : Leads Stage.step stage lexemes final) :
    Leads step ⟨parts, stage⟩ lexemes ⟨parts, final⟩ := by
  induction lexemes generalizing stage with
  | nil =>
      obtain rfl := leads_nil_iff.mp h
      exact leads_nil _
  | cons lexeme rest ih =>
      obtain ⟨next, hstep, hrest⟩ := leads_cons_iff.mp h
      exact leads_cons (step_of_stage hstep) (ih hrest)

theorem finish_eq_ok_iff {reader : Reader} {parts : List Part} :
    reader.finish = .ok parts ↔
      ∃ part, reader.stage.part? = some part ∧ parts = reader.parts ++ [part] := by
  unfold finish
  split
  · next part hpart => simp [hpart, eq_comm]
  · next hpart => simp [hpart]

theorem exists_leads_of_spellsSchema {lexemes : List Lexeme} {parts : List Part}
    (h : SpellsSchema lexemes parts) :
    ∃ reader, Leads step initial lexemes reader ∧ reader.finish = .ok parts := by
  induction h with
  | part hpart =>
      obtain ⟨stage, hleads, hstage⟩ := Stage.exists_leads_of_spellsPart hpart
      exact ⟨_, leads_of_stage hleads, finish_eq_ok_iff.mpr ⟨_, hstage, rfl⟩⟩
  | further _ hpart ih =>
      obtain ⟨⟨parts, stage⟩, hreader, hfinish⟩ := ih
      obtain ⟨last, hlast, rfl⟩ := finish_eq_ok_iff.mp hfinish
      obtain ⟨next, hleads, hnext⟩ := Stage.exists_leads_of_spellsPart hpart
      refine ⟨⟨parts ++ [last], next⟩, ?_, finish_eq_ok_iff.mpr ⟨_, hnext, rfl⟩⟩
      exact hreader.append (leads_cons (step_of_slash hlast) (leads_of_stage hleads))

/-- The tokens that were read up to the last slash spell the complete parts. -/
inductive Finished : List Lexeme → List Part → Prop where
  | none : Finished [] []
  | slash {lexemes : List Lexeme} {parts : List Part} {slash : String}
      (hschema : SpellsSchema lexemes parts) : Finished (lexemes ++ [⟨.slash, slash⟩]) parts

theorem Finished.spellsSchema {before current : List Lexeme} {parts : List Part}
    {part : Part}
    (h : Finished before parts) (hpart : SpellsPart current part) :
    SpellsSchema (before ++ current) (parts ++ [part]) := by
  cases h with
  | none => exact .part hpart
  | slash hschema =>
      rw [← List.append_cons]
      exact .further hschema hpart

/-- What a reader has read: complete parts and the beginning of another one. -/
def Reads (lexemes : List Lexeme) (reader : Reader) : Prop :=
  ∃ before current, lexemes = before ++ current ∧ Finished before reader.parts ∧
    Stage.Reads current reader.stage

theorem Reads.spellsSchema {lexemes : List Lexeme} {reader : Reader} {parts : List Part}
    (h : Reads lexemes reader) (hfinish : reader.finish = .ok parts) :
    SpellsSchema lexemes parts := by
  obtain ⟨before, current, rfl, hbefore, hcurrent⟩ := h
  obtain ⟨part, hpart, rfl⟩ := finish_eq_ok_iff.mp hfinish
  exact hbefore.spellsSchema (hcurrent.spellsPart hpart)

theorem Reads.step {lexemes : List Lexeme} {lexeme : Lexeme} {reader next : Reader}
    (h : Reads lexemes reader) (hapart : Lexeme.Apart (lexemes ++ [lexeme]))
    (hstep : reader.step lexeme = .ok next) : Reads (lexemes ++ [lexeme]) next := by
  obtain ⟨before, current, rfl, hbefore, hcurrent⟩ := h
  unfold Reader.step at hstep
  split at hstep
  · next part hslash hpart =>
      obtain rfl := Except.ok.inj hstep
      obtain ⟨kind, text⟩ := lexeme
      obtain rfl : kind = .slash := hslash
      exact ⟨before ++ current ++ [⟨.slash, text⟩], [], by simp,
        .slash (hbefore.spellsSchema (hcurrent.spellsPart hpart)), .start⟩
  · cases hstage : reader.stage.step lexeme with
    | error problem =>
        rw [hstage] at hstep
        cases hstep
    | ok stage =>
        rw [hstage] at hstep
        obtain rfl := Except.ok.inj hstep
        rw [List.append_assoc] at hapart
        exact ⟨before, current ++ [lexeme], by simp, hbefore,
          hcurrent.step hapart.right_of_append hstage⟩

theorem Reads.leads {lexemes more : List Lexeme} {reader final : Reader}
    (h : Reads lexemes reader) (hapart : Lexeme.Apart (lexemes ++ more))
    (hleads : Leads Reader.step reader more final) : Reads (lexemes ++ more) final := by
  induction more generalizing lexemes reader with
  | nil =>
      obtain rfl := leads_nil_iff.mp hleads
      simpa using h
  | cons lexeme rest ih =>
      rw [List.append_cons] at hapart ⊢
      obtain ⟨next, hstep, hrest⟩ := leads_cons_iff.mp hleads
      exact ih (h.step hapart.left_of_append hstep) hapart hrest

theorem reads_initial : Reads [] initial :=
  ⟨[], [], rfl, .none, .start⟩

end Reader

namespace Part

theorem ofTokens_eq_ok_iff {tokens : List Token} {parts : List Part} :
    ofTokens tokens = .ok parts ↔
      ∃ reader, Leads Reader.step Reader.initial (tokens.map Token.toLexeme) reader ∧
        reader.finish = .ok parts := by
  rw [ofTokens]
  cases hrun : Reader.initial.run tokens with
  | error error =>
      have hnone : ∀ reader,
          ¬Leads Reader.step Reader.initial (tokens.map Token.toLexeme) reader := by
        intro reader hleads
        rw [Reader.run_eq_ok_iff.mpr hleads] at hrun
        cases hrun
      simp [Except.bind, hnone]
  | ok reader =>
      constructor
      · intro hfinish
        exact ⟨reader, Reader.run_eq_ok_iff.mp hrun, hfinish⟩
      · rintro ⟨other, hleads, hfinish⟩
        rw [Reader.run_eq_ok_iff.mpr hleads] at hrun
        obtain rfl := Except.ok.inj hrun
        exact hfinish

theorem ofTokens_eq_ok_iff_spellsSchema {tokens : List Token} {parts : List Part}
    (hapart : Lexeme.Apart (tokens.map Token.toLexeme)) :
    ofTokens tokens = .ok parts ↔ SpellsSchema (tokens.map Token.toLexeme) parts := by
  rw [ofTokens_eq_ok_iff]
  constructor
  · rintro ⟨reader, hleads, hfinish⟩
    exact (Reader.reads_initial.leads hapart hleads).spellsSchema hfinish
  · exact Reader.exists_leads_of_spellsSchema

theorem ofText_of_scan {text : String} {tokens : List Token}
    (hscan : Token.scan text = .ok tokens)
    {parts : List Part} :
    ofText text = .ok parts ↔ ofTokens tokens = .ok parts := by
  unfold ofText
  split
  · next hempty =>
      subst hempty
      obtain rfl : [] = tokens := by
        rw [Token.scan, String.toList_empty, Token.scanFrom] at hscan
        exact Except.ok.inj hscan
      simp [ofTokens, Reader.run, Reader.finish, Reader.initial, Stage.part?, Except.bind]
  · rw [hscan]
    cases htokens : ofTokens tokens <;> simp [Except.mapError, htokens]

theorem ofText_of_scan_eq_error {text : String} {error : ScanError}
    (hscan : Token.scan text = .error error) : ofText text = .error (.scan error) := by
  unfold ofText
  split
  · next hempty =>
      subst hempty
      rw [Token.scan, String.toList_empty, Token.scanFrom] at hscan
      cases hscan
  · rw [hscan]

theorem exists_tokens_of_ofText {text : String} {parts : List Part}
    (h : ofText text = .ok parts) :
    ∃ tokens, Token.scan text = .ok tokens ∧ ofTokens tokens = .ok parts := by
  cases hscan : Token.scan text with
  | error error =>
      rw [ofText_of_scan_eq_error hscan] at h
      cases h
  | ok tokens => exact ⟨tokens, rfl, (ofText_of_scan hscan).mp h⟩

/-- A text is read as some parts exactly if its tokens spell them, the parts that tokens
spell are unique, and a text that cannot be scanned fails with the scanning error,
whatever is wrong with its tokens. -/
theorem reads_exactly_what_is_spelled (text : String) :
    (∀ parts, ofText text = .ok parts ↔
      ∃ tokens, Token.scan text = .ok tokens ∧
        SpellsSchema (tokens.map Token.toLexeme) parts) ∧
    (∀ tokens parts others, Token.scan text = .ok tokens →
      SpellsSchema (tokens.map Token.toLexeme) parts →
        SpellsSchema (tokens.map Token.toLexeme) others → parts = others) ∧
    (∀ error, Token.scan text = .error error →
      ofText text = .error (.scan error) ∧
        Fault.ofParseError text (.scan error) = Fault.ofScanError text error) := by
  have hread : ∀ tokens parts, Token.scan text = .ok tokens →
      (ofText text = .ok parts ↔ SpellsSchema (tokens.map Token.toLexeme) parts) := by
    intro tokens parts hscan
    rw [ofText_of_scan hscan]
    exact ofTokens_eq_ok_iff_spellsSchema (Token.apart_of_scanFrom hscan)
  refine ⟨?_, ?_, ?_⟩
  · intro parts
    constructor
    · intro h
      cases hscan : Token.scan text with
      | error error =>
          rw [ofText_of_scan_eq_error hscan] at h
          cases h
      | ok tokens => exact ⟨tokens, rfl, (hread tokens parts hscan).mp h⟩
    · rintro ⟨tokens, hscan, hspells⟩
      exact (hread tokens parts hscan).mpr hspells
  · intro tokens parts others hscan hparts hothers
    have hsame := (hread tokens parts hscan).mpr hparts
    rw [(hread tokens others hscan).mpr hothers] at hsame
    exact (Except.ok.inj hsame).symm
  · intro error hscan
    exact ⟨ofText_of_scan_eq_error hscan, rfl⟩

/-- Blanks around arguments, leading zeros and a quantifier with one bound. -/
theorem spells_modifier_with_blanks :
    ∃ tokens, Token.scan "$v.m( \"a\" ,\"b\")/+\x7b02\x7d" = .ok tokens ∧
      SpellsSchema (tokens.map Token.toLexeme)
        [.var "v" [⟨"m", ["a", "b"]⟩], .wildcard .single (some ⟨2, 2⟩)] :=
  ((reads_exactly_what_is_spelled "$v.m( \"a\" ,\"b\")/+\x7b02\x7d").1 _).mp
    (by decide +kernel)

end Part

end PathSchema
