import ServiceCharter.Proofs.Markup.Classes

/-!
# The order of the stages

A heading begins with a number sign, a bullet item with a hyphen and a numbered item with a digit.
So no text is claimed by two stages (`Stage.unique_of_claim?`). A claimed line is no longer text,
and a stage looks at text only. So stages that are run one after another do to each line what the
only one among them does that claims it (`Stage.run_eq_map`, `Stage.claimed?_eq_some_iff`), and it
does not matter in which order they are run, nor how often (`Stage.run_eq_of_mem_iff`).
-/

namespace ServiceCharter.Markup

/-- A stage looks at text only. -/
theorem Line.reclassify_of_ne_text {line : Line} (h : ∀ t, line ≠ .text t)
    (classify : Text → Option Line) : line.reclassify classify = line := by
  cases line with
  | text t => exact absurd rfl (h t)
  | _ => rfl

/-- One of the stages that give text lines a class. -/
inductive Stage where
  | headings
  | bullets
  | numbered
deriving DecidableEq, Repr

namespace Stage

/-- What the stage makes of the lines. -/
def apply : Stage → List Line → List Line
  | headings => withHeadings
  | bullets => withBullets
  | numbered => withNumbered

/-- The stage gives the line another class. -/
def Claims (stage : Stage) (line : Line) : Prop := stage.apply [line] ≠ [line]

instance (stage : Stage) (line : Line) : Decidable (stage.Claims line) :=
  inferInstanceAs (Decidable (_ ≠ _))

/-- The stages are run one after another. -/
def run (stages : List Stage) (lines : List Line) : List Line :=
  stages.foldl (fun lines stage => stage.apply lines) lines

/-! ### Claims -/

/-- The class that the stage gives to a text with its marker. -/
def claim? : Stage → Text → Option Line
  | headings, t => (headingContent? t).map .heading
  | bullets, t => (bulletContent? t).map (.item .bullet)
  | numbered, t => (numberedContent? t).map (.item .numbered)

private theorem apply_eq_map (stage : Stage) (lines : List Line) :
    stage.apply lines = lines.map (Line.reclassify stage.claim?) := by
  cases stage <;> rfl

/-- The characters with which the markers of the stage begin. -/
def Begins : Stage → Char → Prop
  | headings, c => c = '#'
  | bullets, c => c = '-'
  | numbered, c => c.isDigit = true

theorem Begins.unique {stage stage' : Stage} {c : Char} (h : stage.Begins c)
    (h' : stage'.Begins c) : stage = stage' := by
  have hhash : '#'.isDigit = false := by decide
  have hhyphen : '-'.isDigit = false := by decide
  cases stage <;> cases stage' <;> simp_all [Begins]

private theorem begins_of_claim? {stage : Stage} {t : Text} {line : Line}
    (h : stage.claim? t = some line) : ∃ c u, t = c :: u ∧ stage.Begins c := by
  cases stage with
  | headings =>
    obtain ⟨content, hcontent, -⟩ := Option.map_eq_some_iff.1 h
    obtain ⟨u, rfl, -⟩ := headingContent?_eq_some_iff.1 hcontent
    exact ⟨'#', _, rfl, rfl⟩
  | bullets =>
    obtain ⟨content, hcontent, -⟩ := Option.map_eq_some_iff.1 h
    obtain ⟨u, rfl, -⟩ := bulletContent?_eq_some_iff.1 hcontent
    exact ⟨'-', _, rfl, rfl⟩
  | numbered =>
    obtain ⟨content, hcontent, -⟩ := Option.map_eq_some_iff.1 h
    obtain ⟨digits, u, rfl, hne, hdigits, -⟩ := numberedContent?_eq_some_iff.1 hcontent
    obtain ⟨d, ds, rfl⟩ := List.exists_cons_of_ne_nil hne
    exact ⟨d, _, rfl, hdigits d List.mem_cons_self⟩

/-- **No text is claimed by two stages.** -/
theorem unique_of_claim? {stage stage' : Stage} {t : Text} {line line' : Line}
    (h : stage.claim? t = some line) (h' : stage'.claim? t = some line') : stage = stage' := by
  obtain ⟨c, u, rfl, hc⟩ := begins_of_claim? h
  obtain ⟨c', u', heq, hc'⟩ := begins_of_claim? h'
  obtain rfl : c = c' := (List.cons_eq_cons.1 heq).1
  exact hc.unique hc'

/-- A claimed line is no longer text. -/
theorem ne_text_of_claim? {stage : Stage} {t : Text} {line : Line}
    (h : stage.claim? t = some line) (u : Text) : line ≠ .text u := by
  cases stage <;> obtain ⟨content, -, rfl⟩ := Option.map_eq_some_iff.1 h <;> exact Line.noConfusion

/-- A stage claims the texts for which it has a class, and nothing else. -/
theorem claims_iff {stage : Stage} {line : Line} :
    stage.Claims line ↔ ∃ t line', line = .text t ∧ stage.claim? t = some line' := by
  rw [Claims, apply_eq_map, List.map_singleton, Ne, List.cons_eq_cons, and_iff_left rfl]
  constructor
  · intro h
    cases line with
    | text t =>
      cases hclaim : stage.claim? t with
      | none => exact absurd (by rw [Line.reclassify, hclaim]; rfl) h
      | some line' => exact ⟨t, line', rfl, hclaim⟩
    | _ => exact absurd rfl h
  · rintro ⟨t, line', rfl, hclaim⟩ heq
    rw [Line.reclassify, hclaim] at heq
    exact ne_text_of_claim? hclaim t heq

/-! ### Runs -/

/-- The class that the first of the stages that claims a text gives to it. -/
def claimed? (stages : List Stage) (t : Text) : Option Line :=
  stages.findSome? fun stage => stage.claim? t

/-- Stages one after another look at each line by itself, and the first that claims it decides. -/
theorem run_eq_map (stages : List Stage) (lines : List Line) :
    run stages lines = lines.map (Line.reclassify (claimed? stages)) := by
  induction stages generalizing lines with
  | nil =>
    have hid : ∀ line : Line, line.reclassify (claimed? []) = line := fun line => by
      cases line <;> rfl
    rw [List.map_congr_left fun line _ => hid line, List.map_id']
    rfl
  | cons stage stages ih =>
    have hline : ∀ line : Line, (line.reclassify stage.claim?).reclassify (claimed? stages) =
        line.reclassify (claimed? (stage :: stages)) := by
      intro line
      cases line with
      | text t =>
        rw [Line.reclassify, Line.reclassify, claimed?, List.findSome?_cons]
        cases hclaim : stage.claim? t with
        | none => rfl
        | some line' => exact Line.reclassify_of_ne_text (ne_text_of_claim? hclaim) _
      | _ => rfl
    have hrun : run (stage :: stages) lines = run stages (stage.apply lines) := rfl
    rw [hrun, ih, apply_eq_map, List.map_map]
    exact List.map_congr_left fun line _ => hline line

/-- As no text is claimed by two stages, it does not matter which of them comes first. -/
theorem claimed?_eq_some_iff {stages : List Stage} {t : Text} {line : Line} :
    claimed? stages t = some line ↔ ∃ stage ∈ stages, stage.claim? t = some line := by
  constructor
  · exact List.exists_of_findSome?_eq_some
  · rintro ⟨stage, hmem, hclaim⟩
    have hsome : (claimed? stages t).isSome = true :=
      List.findSome?_isSome_iff.2 ⟨stage, hmem, by rw [hclaim]; rfl⟩
    obtain ⟨line', hfirst⟩ := Option.isSome_iff_exists.1 hsome
    obtain ⟨stage', -, hclaim'⟩ := List.exists_of_findSome?_eq_some hfirst
    obtain rfl := unique_of_claim? hclaim hclaim'
    rw [hfirst, ← hclaim', hclaim]

/-- **Runs of the same stages come to the same**, in whatever order and however often. -/
theorem run_eq_of_mem_iff {stages stages' : List Stage}
    (h : ∀ stage, stage ∈ stages ↔ stage ∈ stages') (lines : List Line) :
    run stages lines = run stages' lines := by
  have hclaimed : claimed? stages = claimed? stages' := by
    funext t
    ext line
    simp only [claimed?_eq_some_iff, h]
  rw [run_eq_map, run_eq_map, hclaimed]

/-- **The order of the stages does not matter.** Any run in which each of the three stages takes
part at least once comes to what headings, bullet items and numbered items do in this order. A stage
claims nothing but text, no text is claimed by two stages, and what a stage makes of a line that it
claims is left as it is by every stage. -/
theorem run_eq_of_forall_mem {stages : List Stage} (h : ∀ stage, stage ∈ stages) :
    (∀ lines, run stages lines = withNumbered (withBullets (withHeadings lines))) ∧
      ∀ (line : Line) (stage : Stage), stage.Claims line →
        (∃ t, line = .text t) ∧ (∀ stage' : Stage, stage'.Claims line → stage = stage') ∧
          ∀ stage' : Stage, stage'.apply (stage.apply [line]) = stage.apply [line] := by
  refine ⟨fun lines => ?_, fun line stage hclaims => ?_⟩
  · have hpipeline : run [headings, bullets, numbered] lines =
        withNumbered (withBullets (withHeadings lines)) := rfl
    rw [← hpipeline]
    exact run_eq_of_mem_iff (fun stage => iff_of_true (h stage) (by cases stage <;> decide)) lines
  · obtain ⟨t, line', rfl, hclaim⟩ := claims_iff.1 hclaims
    refine ⟨⟨t, rfl⟩, fun stage' hclaims' => ?_, fun stage' => ?_⟩
    · obtain ⟨t', line'', heq, hclaim'⟩ := claims_iff.1 hclaims'
      obtain rfl := Line.text.inj heq
      exact unique_of_claim? hclaim hclaim'
    · have hstage : stage.apply [.text t] = [line'] := by
        rw [apply_eq_map, List.map_singleton, Line.reclassify, hclaim, Option.getD_some]
      rw [hstage, apply_eq_map, List.map_singleton,
        Line.reclassify_of_ne_text (ne_text_of_claim? hclaim)]

/-- Items whose content looks like another marker, and a heading that was given its class before. -/
def contestedLines : List Line :=
  [.text "- 1. x".toList, .text "1. - y".toList, .text "## - z".toList, .heading "- w".toList,
    .blank]

/-- The stages in reverse, and one of them twice. -/
theorem run_contestedLines :
    (∀ stage, stage ∈ [numbered, bullets, headings, numbered]) ∧
      run [numbered, bullets, headings, numbered] contestedLines =
        withNumbered (withBullets (withHeadings contestedLines)) ∧
      run [numbered, bullets, headings, numbered] contestedLines =
        [.item .bullet "1. x".toList, .item .numbered "- y".toList, .heading "- z".toList,
          .heading "- w".toList, .blank] ∧
      bullets.Claims (.text "- 1. x".toList) ∧ ¬numbered.Claims (.text "- 1. x".toList) ∧
      numbered.apply (bullets.apply [.text "- 1. x".toList]) =
        bullets.apply [.text "- 1. x".toList] := by
  have hall : ∀ stage, stage ∈ [numbered, bullets, headings, numbered] := by
    intro stage
    cases stage <;> decide
  have hclaims : bullets.Claims (.text "- 1. x".toList) := by decide +kernel
  obtain ⟨hrun, hclaimed⟩ := run_eq_of_forall_mem hall
  obtain ⟨-, honly, hkept⟩ := hclaimed _ _ hclaims
  exact ⟨hall, hrun contestedLines, by decide +kernel, hclaims,
    fun hnumbered => Stage.noConfusion (honly numbered hnumbered), hkept numbered⟩

end Stage

end ServiceCharter.Markup
