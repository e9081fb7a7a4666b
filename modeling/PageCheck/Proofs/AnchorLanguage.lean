import PageCheck.Proofs.Alternation
import PageCheck.Proofs.AttributeMaps

/-! The language of the anchor rule.  A document that the rule accepts has its anchors in a
row; the attributes of each are named differently, and where there is a link, its target is
valid and there is text to follow it by.  If the anchors are in a row but the document is
not accepted, its one finding is about the first anchor at fault, and of several faults of
that anchor it is the one that comes first in the order above. -/

set_option autoImplicit false

namespace PageCheck

open ValidatorChain (Accepts)

/-! ### Repeated attributes -/

def Attribute.FirstRepeated (entries : List Attribute) (entry : Attribute) : Prop :=
  ∃ before after, entries = before ++ entry :: after ∧ (before.map (·.name)).Nodup ∧
    entry.name ∈ before.map (·.name)

theorem Attribute.FirstRepeated.not_nodup {entries : List Attribute} {entry : Attribute}
    (first : FirstRepeated entries entry) : ¬ (entries.map (·.name)).Nodup := by
  obtain ⟨before, after, rfl, -, earlier⟩ := first
  intro distinct
  rw [List.map_append, List.map_cons] at distinct
  exact (List.nodup_append.mp distinct).2.2 _ earlier _ List.mem_cons_self rfl

namespace Rules

theorem repeated?_eq_none_iff {seen : List String} {entries : List Attribute} :
    repeated? seen entries = none ↔
      (entries.map (·.name)).Nodup ∧ ∀ entry ∈ entries, entry.name ∉ seen := by
  induction entries generalizing seen with
  | nil => simp [repeated?]
  | cons first rest ih =>
      rw [repeated?, List.map_cons, List.nodup_cons, List.forall_mem_cons]
      by_cases known : first.name ∈ seen
      · rw [if_pos (by simpa using known)]
        exact ⟨nofun, fun both => absurd known both.2.1⟩
      · rw [if_neg (by simpa using known), ih]
        constructor
        · rintro ⟨distinct, fresh⟩
          refine ⟨⟨?_, distinct⟩, known, ?_⟩
          · intro again
            obtain ⟨entry, member, same⟩ := List.mem_map.mp again
            exact fresh entry member (same ▸ List.mem_cons_self)
          · exact fun entry member listed => fresh entry member (List.mem_cons_of_mem _ listed)
        · rintro ⟨⟨once, distinct⟩, -, fresh⟩
          refine ⟨distinct, ?_⟩
          intro entry member listed
          rcases List.mem_cons.mp listed with same | earlier
          · exact once (same ▸ List.mem_map.mpr ⟨entry, member, rfl⟩)
          · exact fresh entry member earlier

private theorem exists_split_of_repeated? {seen : List String} {entries : List Attribute}
    {entry : Attribute} (found : repeated? seen entries = some entry) :
    ∃ before after, entries = before ++ entry :: after ∧ repeated? seen before = none ∧
      (entry.name ∈ seen ∨ entry.name ∈ before.map (·.name)) := by
  induction entries generalizing seen with
  | nil => cases found
  | cons first rest ih =>
      rw [repeated?] at found
      by_cases known : seen.contains first.name = true
      · rw [if_pos known, Option.some.injEq] at found
        subst found
        exact ⟨[], rest, rfl, rfl, .inl (by simpa using known)⟩
      · rw [if_neg known] at found
        obtain ⟨before, after, rfl, fresh, earlier⟩ := ih found
        refine ⟨first :: before, after, rfl, by rw [repeated?, if_neg known, fresh], ?_⟩
        rw [List.map_cons]
        rcases earlier with listed | later
        · rcases List.mem_cons.mp listed with same | older
          · exact .inr (same ▸ List.mem_cons_self)
          · exact .inl older
        · exact .inr (List.mem_cons_of_mem _ later)

theorem firstRepeated_of_repeated? {entries : List Attribute} {entry : Attribute}
    (found : repeated? [] entries = some entry) : Attribute.FirstRepeated entries entry := by
  obtain ⟨before, after, split, fresh, earlier⟩ := exists_split_of_repeated? found
  exact ⟨before, after, split, (repeated?_eq_none_iff.mp fresh).1,
    earlier.resolve_left List.not_mem_nil⟩

/-! ### One anchor -/

/-- The names of the attributes differ, and a link has a valid target and visible text. -/
structure SoundAnchor (document : Document) (anchor : Element) : Prop where
  distinct : (anchor.opening.attributes.map (·.name)).Nodup
  valid : ∀ target, anchor.opening.attribute? "href" = some target → Link.isValid target = true
  seen : ∀ target, anchor.opening.attribute? "href" = some target →
    ∃ text, document.between? anchor = some text ∧ Content.visible text ≠ []

/-- What is found about an anchor: a fault counts only if those before it are absent. -/
inductive AnchorFault (document : Document) (anchor : Element) : Finding → Prop where
  | repeated {entry : Attribute}
      (first : Attribute.FirstRepeated anchor.opening.attributes entry) :
      AnchorFault document anchor (.malformed "a" s!"duplicate attribute '{entry.name}'")
  | invalid {target : String} (distinct : (anchor.opening.attributes.map (·.name)).Nodup)
      (linked : anchor.opening.attribute? "href" = some target)
      (unfit : Link.isValid target = false) :
      AnchorFault document anchor (.invalidContent "a" s!"'{target}' is not a valid URL")
  | blank {target : String} {text : List Char}
      (distinct : (anchor.opening.attributes.map (·.name)).Nodup)
      (linked : anchor.opening.attribute? "href" = some target)
      (valid : Link.isValid target = true) (between : document.between? anchor = some text)
      (unseen : Content.visible text = []) :
      AnchorFault document anchor (.invalidContent "a" s!"link to '{target}' has no text")

variable {document : Document} {anchor : Element} {anchors : List Element} {finding : Finding}

theorem AnchorFault.not_sound (fault : AnchorFault document anchor finding) :
    ¬ SoundAnchor document anchor := by
  intro sound
  cases fault with
  | repeated first => exact first.not_nodup sound.distinct
  | invalid _ linked unfit =>
      rw [sound.valid _ linked] at unfit
      cases unfit
  | blank _ linked _ between unseen =>
      obtain ⟨text, same, seen⟩ := sound.seen _ linked
      rw [between, Option.some.injEq] at same
      exact seen (same ▸ unseen)

theorem anchorContents_cons {text : List Char} (cut : anchor.inner? document.source = some text)
    (between : document.between? anchor = some text) (rest : List Element) :
    (SoundAnchor document anchor ∧
        anchorContents document (anchor :: rest) = anchorContents document rest) ∨
      ∃ finding, AnchorFault document anchor finding ∧
        anchorContents document (anchor :: rest) = some (.failed finding) := by
  rw [anchorContents]
  cases repeats : repeated? [] anchor.opening.attributes with
  | some entry =>
      exact .inr ⟨_, .repeated (firstRepeated_of_repeated? repeats), rfl⟩
  | none =>
      have distinct := (repeated?_eq_none_iff.mp repeats).1
      cases linked : anchor.opening.attribute? "href" with
      | none =>
          have unlinked (target : String) : anchor.opening.attribute? "href" ≠ some target := by
            rw [linked]
            nofun
          exact .inl ⟨⟨distinct, fun target href => absurd href (unlinked target),
            fun target href => absurd href (unlinked target)⟩, rfl⟩
      | some target =>
          cases valid : Link.isValid target with
          | false =>
              refine .inr ⟨_, .invalid distinct linked valid, ?_⟩
              simp only [valid]
              rfl
          | true =>
              simp only [valid, cut, Bool.not_true, Bool.false_eq_true, if_false,
                Option.bind_eq_bind, Option.bind_some]
              by_cases unseen : Content.visible text = []
              · refine .inr ⟨_, .blank distinct linked valid between unseen, ?_⟩
                rw [if_pos (List.isEmpty_iff.mpr unseen)]
                rfl
              · rw [if_neg (by simpa using unseen)]
                refine .inl ⟨⟨distinct, ?_, fun _ _ => ⟨text, between, unseen⟩⟩, rfl⟩
                intro other href
                obtain rfl : target = other := Option.some.inj (linked.symm.trans href)
                exact valid

/-! ### All anchors -/

def FirstFault (document : Document) (anchors : List Element) (finding : Finding) : Prop :=
  ∃ before first after, anchors = before ++ first :: after ∧
    (∀ earlier ∈ before, SoundAnchor document earlier) ∧ AnchorFault document first finding

theorem anchorContents_sound_or_fault
    (cuts : ∀ anchor ∈ anchors, ∃ text,
      anchor.inner? document.source = some text ∧ document.between? anchor = some text) :
    ((∀ anchor ∈ anchors, SoundAnchor document anchor) ∧
        anchorContents document anchors = some .clean) ∨
      ∃ finding, FirstFault document anchors finding ∧
        anchorContents document anchors = some (.failed finding) := by
  induction anchors with
  | nil => exact .inl ⟨List.forall_mem_nil _, rfl⟩
  | cons anchor rest ih =>
      obtain ⟨⟨text, cut, between⟩, later⟩ := List.forall_mem_cons.mp cuts
      rcases anchorContents_cons cut between rest with ⟨sound, next⟩ | ⟨finding, fault, failed⟩
      · rw [next]
        rcases ih later with ⟨others, clean⟩ | ⟨finding, first, failed⟩
        · exact .inl ⟨List.forall_mem_cons.mpr ⟨sound, others⟩, clean⟩
        · obtain ⟨before, first, after, rfl, earlier, fault⟩ := first
          exact .inr ⟨finding, ⟨anchor :: before, first, after, rfl,
            List.forall_mem_cons.mpr ⟨sound, earlier⟩, fault⟩, failed⟩
      · exact .inr ⟨finding, ⟨[], anchor, rest, rfl, List.forall_mem_nil _, fault⟩, failed⟩

theorem FirstFault.not_all_sound (first : FirstFault document anchors finding) :
    ¬ ∀ anchor ∈ anchors, SoundAnchor document anchor := by
  obtain ⟨before, first, after, rfl, -, fault⟩ := first
  intro sound
  exact fault.not_sound (sound first (List.mem_append_right _ List.mem_cons_self))

theorem anchor_of_row (row : document.Row "a" anchors) :
    Rules.anchor document = anchorContents document anchors := by
  rw [Rules.anchor, balance_of_row row, row.pair_eq]

theorem anchor_of_sound (row : document.Row "a" anchors)
    (sound : ∀ anchor ∈ anchors, SoundAnchor document anchor) :
    Rules.anchor document = some .clean := by
  rcases anchorContents_sound_or_fault fun _ => row.exists_between with
    ⟨-, clean⟩ | ⟨finding, fault, -⟩
  · rw [anchor_of_row row, clean]
  · exact absurd sound fault.not_all_sound

theorem anchor_of_not_sound (row : document.Row "a" anchors)
    (unsound : ¬ ∀ anchor ∈ anchors, SoundAnchor document anchor) :
    ∃ finding, FirstFault document anchors finding ∧
      Rules.anchor document = some (.failed finding) := by
  rcases anchorContents_sound_or_fault fun _ => row.exists_between with
    ⟨sound, -⟩ | ⟨finding, fault, failed⟩
  · exact absurd sound unsound
  · exact ⟨finding, fault, (anchor_of_row row).trans failed⟩

theorem anchor_accepts_iff :
    Accepts Rules.anchor document ↔ ∃ anchors, document.Row "a" anchors ∧
      ∀ anchor ∈ anchors, SoundAnchor document anchor := by
  constructor
  · intro accepted
    obtain ⟨anchors, row⟩ : ∃ anchors, document.Row "a" anchors := by
      cases balanced : balance document "a" "anchors" with
      | none => exact balance_eq_none_iff.mp balanced
      | some finding =>
          have failed : Rules.anchor document = some (.failed finding) := by
            rw [Rules.anchor, balanced]
          exact absurd accepted (ValidatorChain.not_accepts_of_failed failed)
    refine ⟨anchors, row, Classical.byContradiction fun unsound => ?_⟩
    obtain ⟨finding, -, failed⟩ := anchor_of_not_sound row unsound
    exact ValidatorChain.not_accepts_of_failed failed accepted
  · rintro ⟨anchors, row, sound⟩
    exact ⟨_, anchor_of_sound row sound, rfl⟩

/-! ### The language -/

/-- The anchors of an accepted document are in a row and sound, so that no attribute is lost in
their maps.  Where anchors in a row are not accepted, the one finding is about the first that is
not sound. -/
theorem anchor_language (document : Document) :
    (Accepts Rules.anchor document ↔ ∃ anchors, document.Row "a" anchors ∧
      ∀ anchor ∈ anchors, SoundAnchor document anchor) ∧
    ∀ anchors, document.Row "a" anchors →
      Element.pair document.tags "a" = anchors ∧
      (anchors.Pairwise fun earlier later => earlier.start < later.start) ∧
      (∀ anchor ∈ anchors, SoundAnchor document anchor →
        anchor.opening.attributeMap =
          anchor.opening.attributes.map fun entry => (entry.name, entry.valueOrEmpty)) ∧
      (¬ Accepts Rules.anchor document → ∃ finding, FirstFault document anchors finding ∧
        Rules.anchor document = some ⟨false, [finding], []⟩) := by
  refine ⟨anchor_accepts_iff, fun anchors row => ⟨row.pair_eq, row.rising, ?_, ?_⟩⟩
  · exact fun anchor _ sound => Tag.attributeMap_of_nodup sound.distinct
  · intro rejected
    exact anchor_of_not_sound row fun sound =>
      rejected (anchor_accepts_iff.mpr ⟨anchors, row, sound⟩)

def linkedPage : Document :=
  .ofText "<a href=\"#top\">up</a> <a id='top'></a>".toList

def faultyLinks : Document :=
  .ofText "<a href=\"#top\">up</a><a id=x href='no way' ID=y></a><a href=''>b</a>".toList

theorem anchor_language_of_faulty_links :
    (∃ anchors, linkedPage.Row "a" anchors ∧ (∀ anchor ∈ anchors, SoundAnchor linkedPage anchor) ∧
      Element.pair linkedPage.tags "a" = anchors ∧ anchors.map Element.start = [0, 22] ∧
      anchors.map (fun anchor => anchor.opening.attributeMap) =
        [[("href", "#top")], [("id", "top")]]) ∧
    (∃ anchors, faultyLinks.Row "a" anchors) ∧ ¬ Accepts Rules.anchor faultyLinks ∧
      FirstFault faultyLinks (Element.pair faultyLinks.tags "a")
        (.malformed "a" "duplicate attribute 'id'") := by
  constructor
  · have ran : Rules.anchor linkedPage = some .clean := by decide +kernel
    obtain ⟨anchors, row, sound⟩ := (anchor_language linkedPage).1.mp ⟨_, ran, rfl⟩
    obtain ⟨paired, -, -, -⟩ := (anchor_language linkedPage).2 anchors row
    refine ⟨anchors, row, sound, paired, ?_, ?_⟩
    · rw [← paired]
      decide +kernel
    · rw [← paired]
      decide +kernel
  · have ran : Rules.anchor faultyLinks =
        some (.failed (.malformed "a" "duplicate attribute 'id'")) := by decide +kernel
    have rejected := ValidatorChain.not_accepts_of_failed ran
    have balanced : balance faultyLinks "a" "anchors" = none := by decide +kernel
    obtain ⟨anchors, row⟩ := balance_eq_none_iff.mp balanced
    obtain ⟨paired, -, -, faults⟩ := (anchor_language faultyLinks).2 anchors row
    obtain ⟨finding, first, failed⟩ := faults rejected
    rw [ran] at failed
    cases failed
    exact ⟨⟨anchors, row⟩, rejected, paired ▸ first⟩

end Rules

end PageCheck
