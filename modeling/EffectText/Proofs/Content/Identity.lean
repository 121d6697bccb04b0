import EffectText.Content
import EffectText.Proofs.Content.Problems

/-! # Which object a source tells of

    The checks of content compare the kinds of objects as they are written. Parsing resolves a
    kind to a target, for which blanks at its ends and the case of its letters do not matter.
    So one object can be written twice, with its kind **respelled**, and be accepted.

    * A target is named by exactly the texts with its letters
      (`Target.ofAuthored?_eq_some_iff`).
    * Accepted objects differ in their kinds as written or in their names
      (`ContentDefinition.key_injective_of_accepted`).
    * `ContentDefinition.accepted_told_apart`: two accepted objects have one target and one
      name, and their statements one source, exactly if the kind of one is that of the other
      respelled.
-/

namespace EffectText

open Text

/-! ## Spelling of targets -/

namespace Target

/-- **Respelled**: the texts differ, but only in blanks at their ends and in the case of their
    ASCII letters. -/
def Respelled (a b : String) : Prop :=
  a ≠ b ∧ lowered (trim a.toList) = lowered (trim b.toList)

theorem mem_all (target : Target) : target ∈ all := by
  cases target <;> decide

/-- No two targets have the same letters. -/
theorem lowered_name_injective {s t : Target}
    (h : lowered s.name.toList = lowered t.name.toList) : s = t := by
  have hnodup : (all.map fun target => lowered target.name.toList).Nodup := by decide
  exact List.inj_on_of_nodup_map hnodup (mem_all s) (mem_all t) h

/-- A target is named by exactly the texts with its letters. -/
theorem ofAuthored?_eq_some_iff {text : String} {target : Target} :
    ofAuthored? text = some target ↔
      lowered (trim text.toList) = lowered target.name.toList := by
  unfold ofAuthored?
  constructor
  · intro h
    have hletters := List.find?_some h
    exact (beq_iff_eq.mp hletters).symm
  · intro h
    have hsome : (all.find? fun other =>
        lowered other.name.toList == lowered (trim text.toList)).isSome = true :=
      List.find?_isSome.mpr ⟨target, mem_all target, beq_iff_eq.mpr h.symm⟩
    obtain ⟨found, hfound⟩ := Option.isSome_iff_exists.mp hsome
    -- what is found has the letters of the text, which are those of the target
    have hletters := List.find?_some hfound
    rw [← lowered_name_injective ((beq_iff_eq.mp hletters).trans h)]
    exact hfound

/-- Of texts that name targets, those with the same letters name the same target. -/
theorem eq_iff_of_ofAuthored? {a b : String} {s t : Target} (hs : ofAuthored? a = some s)
    (ht : ofAuthored? b = some t) :
    s = t ↔ lowered (trim a.toList) = lowered (trim b.toList) := by
  rw [ofAuthored?_eq_some_iff.mp hs, ofAuthored?_eq_some_iff.mp ht]
  exact ⟨fun h => h ▸ rfl, lowered_name_injective⟩

end Target

/-! ## Accepted objects -/

/-- A statement of an object has the target and the name of the object as its source. -/
theorem ObjectDefinition.source_of_mem_parsed {object : ObjectDefinition} {statement : Statement}
    (h : statement ∈ object.parsed) :
    statement.source = some { kind := object.target?, name := some object.name } := by
  obtain ⟨text, -, rfl⟩ := List.mem_map.mp h
  simp [Statement.declared, Statement.parse_eq, Source.of?]

namespace ContentDefinition

variable {definition : ContentDefinition}

/-- Accepted objects differ in their kinds, as they are written, or in their names. -/
theorem key_injective_of_accepted (h : definition.problems = []) :
    Function.Injective fun i : definition.Place => (definition.object i).key := by
  have hreports := reportsOnce_namedStatements definition
  have hnames := hreports.blankNames
  have hrepeats := hreports.repeatedNames
  rw [h, List.countP_nil] at hnames hrepeats
  have hname : ∀ i : definition.Place,
      hasName (definition.object i).name = true := by
    intro i
    simpa using List.countP_eq_zero.mp hnames.symm _ (object_mem i)
  -- of two objects with one key, the later one would be a repeat
  have hlater : ∀ i j : definition.Place, i < j →
      (definition.object i).key ≠ (definition.object j).key := by
    intro i j hlt hkey
    have hmem : j ∈ definition.repeats :=
      Finset.mem_filter.mpr ⟨Finset.mem_univ j, i, hlt, hname i, hkey⟩
    rw [Finset.card_eq_zero.mp hrepeats.symm] at hmem
    exact absurd hmem (Finset.notMem_empty j)
  intro i j hkey
  rcases lt_trichotomy i j with hlt | heq | hgt
  · exact absurd hkey (hlater i j hlt)
  · exact heq
  · exact absurd hkey.symm (hlater j i hgt)

variable (definition) in
/-- **Different places** of different objects: no two objects whose kinds name targets have one
    target and one name. -/
def PlacesDiffer : Prop :=
  ∀ (i j : definition.Place) (s t : Target), i ≠ j →
    (definition.object i).target? = some s → (definition.object j).target? = some t →
      ¬ (s = t ∧ (definition.object i).name = (definition.object j).name)

variable (definition) in
/-- **Told apart**: what tells two objects of a definition apart, and what does not. -/
structure ToldApart : Prop where
  /-- No two objects of one name have one kind, as it is written. -/
  written : ∀ i j : definition.Place, i ≠ j →
    (definition.object i).name = (definition.object j).name →
      (definition.object i).kind ≠ (definition.object j).kind
  /-- Two objects whose kinds name targets have one target and one name exactly if they have
      one name, and the kind of one is that of the other respelled. -/
  resolved : ∀ (i j : definition.Place) (s t : Target), i ≠ j →
    (definition.object i).target? = some s → (definition.object j).target? = some t →
      ((s = t ∧ (definition.object i).name = (definition.object j).name) ↔
        (definition.object i).name = (definition.object j).name ∧
          Target.Respelled (definition.object i).kind (definition.object j).kind)
  /-- Statements of two such objects have one source exactly in the same case. -/
  sources : ∀ (i j : definition.Place) (s t : Target), i ≠ j →
    (definition.object i).target? = some s → (definition.object j).target? = some t →
      ∀ a ∈ (definition.object i).parsed, ∀ b ∈ (definition.object j).parsed,
        (a.source = b.source ↔
          (definition.object i).name = (definition.object j).name ∧
            Target.Respelled (definition.object i).kind (definition.object j).kind)
  /-- So the places of all objects differ exactly if no kind is that of another object of the
      same name respelled. -/
  places : definition.PlacesDiffer ↔
    ∀ (i j : definition.Place) (s t : Target), i ≠ j →
      (definition.object i).target? = some s → (definition.object j).target? = some t →
        (definition.object i).name = (definition.object j).name →
          ¬ Target.Respelled (definition.object i).kind (definition.object j).kind

theorem written_of_accepted (h : definition.problems = [])
    {i j : definition.Place} (hne : i ≠ j)
    (hname : (definition.object i).name = (definition.object j).name) :
    (definition.object i).kind ≠ (definition.object j).kind := by
  intro hkind
  exact hne (key_injective_of_accepted h (Prod.ext hkind hname))

theorem resolved_of_accepted (h : definition.problems = [])
    {i j : definition.Place} {s t : Target} (hne : i ≠ j)
    (hs : (definition.object i).target? = some s) (ht : (definition.object j).target? = some t) :
    (s = t ∧ (definition.object i).name = (definition.object j).name) ↔
      (definition.object i).name = (definition.object j).name ∧
        Target.Respelled (definition.object i).kind (definition.object j).kind := by
  rw [Target.eq_iff_of_ofAuthored? hs ht]
  constructor
  · intro halike
    obtain ⟨hletters, hname⟩ := halike
    exact ⟨hname, written_of_accepted h hne hname, hletters⟩
  · intro hrespelled
    obtain ⟨hname, -, hletters⟩ := hrespelled
    exact ⟨hletters, hname⟩

/-- **Told apart.** Two objects of an accepted definition whose kinds name targets have one
    target and one name exactly if they have one name and the kind of one is that of the other
    respelled: never if their kinds are written alike. It is the same with the sources of their
    statements. -/
theorem accepted_told_apart (h : definition.problems = []) : definition.ToldApart := by
  constructor
  case written =>
    intro i j hne hname
    exact written_of_accepted h hne hname
  case resolved =>
    intro i j s t hne hs ht
    exact resolved_of_accepted h hne hs ht
  case sources =>
    intro i j s t hne hs ht a ha b hb
    rw [← resolved_of_accepted h hne hs ht, ObjectDefinition.source_of_mem_parsed ha,
      ObjectDefinition.source_of_mem_parsed hb, hs, ht]
    simp
  case places =>
    constructor
    · intro hplaces i j s t hne hs ht hname hrespelled
      exact hplaces i j s t hne hs ht
        ((resolved_of_accepted h hne hs ht).mpr ⟨hname, hrespelled⟩)
    · intro hspelling i j s t hne hs ht halike
      obtain ⟨hname, hrespelled⟩ := (resolved_of_accepted h hne hs ht).mp halike
      exact hspelling i j s t hne hs ht hname hrespelled

/-- The same building twice, with its kind respelled, and another building. -/
theorem accepted_told_apart_respelled :
    problems { objects := [⟨"Building", "Granary", ["[+2 Food]"]⟩,
      ⟨" building", "Granary", ["[+1 Gold]"]⟩, ⟨"Building", "Market", ["[+1 Gold]"]⟩] } = [] ∧
    ToldApart { objects := [⟨"Building", "Granary", ["[+2 Food]"]⟩,
      ⟨" building", "Granary", ["[+1 Gold]"]⟩, ⟨"Building", "Market", ["[+1 Gold]"]⟩] } := by
  have haccepted : problems { objects := [⟨"Building", "Granary", ["[+2 Food]"]⟩,
      ⟨" building", "Granary", ["[+1 Gold]"]⟩, ⟨"Building", "Market", ["[+1 Gold]"]⟩] } = [] := by
    decide +kernel
  exact ⟨haccepted, accepted_told_apart haccepted⟩

/-- An object is accepted a second time with its kind in other letters. -/
theorem respelled_kind_is_accepted :
    problems { objects := [⟨"Building", "Granary", ["[+2 Food]"]⟩,
      ⟨"building", "Granary", ["[+1 Gold]"]⟩] } = [] ∧
    ¬ PlacesDiffer { objects := [⟨"Building", "Granary", ["[+2 Food]"]⟩,
      ⟨"building", "Granary", ["[+1 Gold]"]⟩] } := by
  have haccepted : problems { objects := [⟨"Building", "Granary", ["[+2 Food]"]⟩,
      ⟨"building", "Granary", ["[+1 Gold]"]⟩] } = [] := by
    decide +kernel
  refine ⟨haccepted, ?_⟩
  intro hplaces
  have hfirst : Target.ofAuthored? "Building" = some .building := by decide +kernel
  have hsecond : Target.ofAuthored? "building" = some .building := by decide +kernel
  exact hplaces ⟨0, by decide⟩ ⟨1, by decide⟩ .building .building (by decide) hfirst hsecond
    ⟨rfl, rfl⟩

end ContentDefinition

end EffectText
